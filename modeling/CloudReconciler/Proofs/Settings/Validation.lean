import CloudReconciler.Proofs.Text.Trimmed
import CloudReconciler.Settings.Basic

/-! # Validation — settings are accepted exactly where a start can use them

    Validation walks a list of values, and a start asks for derived values
    one by one; neither refers to the other.  They agree because both come
    down to which values of the mode are given.

    * `Key`: the values that a start may need, under the names of the
      parameters that set them, and `keys`, those of a mode in the order in
      which they are asked for;
    * `Supplies`: every derived value that a start asks for in the mode is
      there;
    * `IsFirstMissing`: the key that a refusal has to name;
    * `Derives`: the texts that a start takes from the settings. -/

namespace CloudReconciler

namespace Settings

/-- A value is given when it holds something besides blanks. -/
def IsGiven (value : Option String) : Prop :=
  ∃ text, value = some text ∧ ∃ c ∈ text.toList, Text.isBlank c = false

/-- The values that a start may need. -/
inductive Key where
  | gateway
  | identity
  | realm
  | backend
  | rolePath
  | kvMount
  | roleId
  | roleSecret
  | clientId
  | clientSecret
  deriving DecidableEq, Repr

namespace Key

/-- The name under which a value is asked for. -/
def name : Key → String
  | .gateway => "api-gateway"
  | .identity => "keycloak-url"
  | .realm => "realm-api"
  | .backend => "vault-address"
  | .rolePath => "role-path"
  | .kvMount => "kv-mount"
  | .roleId => "role-id"
  | .roleSecret => "role-secret"
  | .clientId => "client-id"
  | .clientSecret => "client-secret"

/-- The value as it is set. -/
def value (s : Settings) : Key → Option String
  | .gateway => s.gatewayUrl
  | .identity => s.identityUrl
  | .realm => s.realm
  | .backend => s.backendUrl
  | .rolePath => s.rolePath
  | .kvMount => s.kvMount
  | .roleId => s.roleId
  | .roleSecret => s.roleSecret
  | .clientId => s.clientId
  | .clientSecret => s.clientSecret

end Key

/-- The keys of a mode, in the order in which they are asked for. -/
def keys (usesBackend : Bool) : List Key :=
  [.gateway, .identity, .realm] ++
    if usesBackend then [.backend, .rolePath, .kvMount, .roleId, .roleSecret]
    else [.clientId, .clientSecret]

/-- Every derived value that a start asks for in the mode of the settings is there. -/
structure Supplies (s : Settings) : Prop where
  gateway : ∃ url, s.gateway = .ok url
  endpoint : ∃ url, s.tokenEndpoint = .ok url
  backend : s.backendEnabled = true →
    (∃ address, s.backendAddress = .ok address) ∧ (∃ mount, s.loginMount = .ok mount) ∧
      (∃ mount, s.secretMount = .ok mount) ∧ ∃ c, s.roleCredentials = .ok c
  shared : s.backendEnabled = false → ∃ c, s.clientCredentials = some c

/-- The key is the first one of the mode whose value is not given. -/
def IsFirstMissing (s : Settings) (k : Key) : Prop :=
  ∃ before after, keys s.backendEnabled = before ++ k :: after ∧
    (∀ j ∈ before, IsGiven (j.value s)) ∧ ¬ IsGiven (k.value s)

/-- The texts that a start takes from the settings. -/
inductive Derives (s : Settings) : String → Prop
  | gateway {url} : s.gateway = .ok url → Derives s url
  | endpoint {url} : s.tokenEndpoint = .ok url → Derives s url
  | backendAddress {address} : s.backendAddress = .ok address → Derives s address
  | loginMount {mount} : s.loginMount = .ok mount → Derives s mount
  | secretMount {mount} : s.secretMount = .ok mount → Derives s mount
  | roleId {c} : s.roleCredentials = .ok c → Derives s c.roleId
  | secretId {c} : s.roleCredentials = .ok c → Derives s c.secretId
  | clientId {c} : s.clientCredentials = some c → Derives s c.clientId
  | clientSecret {c} : s.clientCredentials = some c → Derives s c.clientSecret
  | namespace_ {text} : s.namespace_ = some text → Derives s text

/-! ## One value -/

theorem not_isGiven_none : ¬ IsGiven none := fun ⟨_, h, _⟩ => nomatch h

theorem isGiven_some_iff {text : String} :
    IsGiven (some text) ↔ ∃ c ∈ text.toList, Text.isBlank c = false := by
  constructor
  · rintro ⟨_, h, hc⟩
    cases h
    exact hc
  · exact fun hc => ⟨text, rfl, hc⟩

section

variable {value : Option String} {key text : String}

/-- There is nothing of a value that is not given. -/
theorem present_eq_none_iff : present value = none ↔ ¬ IsGiven value := by
  cases value with
  | none => exact ⟨fun _ => not_isGiven_none, fun _ => rfl⟩
  | some text =>
      have hempty : present (some text) = none ↔ Text.trim text = "" := by
        simp [present, Option.filter_eq_none_iff]
      rw [hempty, Text.trim_eq_empty_iff, isGiven_some_iff]
      simp

/-- What is there of a value is the value without the blanks around it. -/
theorem map_trim_of_present (h : present value = some text) :
    value.map Text.trim = some text ∧ text ≠ "" := by
  rw [present, Option.filter_eq_some_iff] at h
  exact ⟨h.1, of_decide_eq_true h.2⟩

theorem isTrimmed_of_present (h : present value = some text) : Text.IsTrimmed text := by
  obtain ⟨hmap, hne⟩ := map_trim_of_present h
  obtain ⟨whole, -, rfl⟩ := Option.map_eq_some_iff.1 hmap
  exact Text.isTrimmed_trim hne

theorem exists_present_iff : (∃ text, present value = some text) ↔ IsGiven value := by
  rw [← not_iff_not, ← present_eq_none_iff, not_exists]
  exact Option.eq_none_iff_forall_ne_some.symm

theorem required_eq_ok_iff : required value key = .ok text ↔ present value = some text := by
  rw [required]
  cases present value with
  | none => exact ⟨nofun, nofun⟩
  | some found =>
      rw [Except.ok.injEq, Option.some.injEq]

theorem exists_required_iff : (∃ text, required value key = .ok text) ↔ IsGiven value := by
  rw [← exists_present_iff]
  exact exists_congr fun _ => required_eq_ok_iff

end

/-! ## Two values in one -/

variable {s : Settings}

theorem tokenEndpoint_eq_ok_iff {url : String} :
    s.tokenEndpoint = .ok url ↔ ∃ base realm, present s.identityUrl = some base ∧
      present s.realm = some realm ∧ realmEndpoint base realm = url := by
  rw [tokenEndpoint, required, required]
  cases present s.identityUrl <;> cases present s.realm <;>
    simp [bind, Except.bind, pure, Except.pure]

theorem roleCredentials_eq_ok_iff {c : RoleCredentials} :
    s.roleCredentials = .ok c ↔
      present s.roleId = some c.roleId ∧ present s.roleSecret = some c.secretId := by
  obtain ⟨id, secret⟩ := c
  rw [roleCredentials, required, required]
  cases present s.roleId <;> cases present s.roleSecret <;>
    simp [bind, Except.bind, pure, Except.pure]

theorem clientCredentials_eq_some_iff {c : ClientCredentials} :
    s.clientCredentials = some c ↔
      present s.clientId = some c.clientId ∧ present s.clientSecret = some c.clientSecret := by
  obtain ⟨id, secret⟩ := c
  rw [clientCredentials]
  cases present s.clientId <;> cases present s.clientSecret <;> simp

theorem exists_tokenEndpoint_iff :
    (∃ url, s.tokenEndpoint = .ok url) ↔ IsGiven s.identityUrl ∧ IsGiven s.realm := by
  rw [← exists_present_iff, ← exists_present_iff]
  constructor
  · rintro ⟨url, h⟩
    obtain ⟨base, realm, hbase, hrealm, -⟩ := tokenEndpoint_eq_ok_iff.1 h
    exact ⟨⟨base, hbase⟩, realm, hrealm⟩
  · rintro ⟨⟨base, hbase⟩, realm, hrealm⟩
    exact ⟨_, tokenEndpoint_eq_ok_iff.2 ⟨base, realm, hbase, hrealm, rfl⟩⟩

theorem exists_roleCredentials_iff :
    (∃ c, s.roleCredentials = .ok c) ↔ IsGiven s.roleId ∧ IsGiven s.roleSecret := by
  rw [← exists_present_iff, ← exists_present_iff]
  constructor
  · rintro ⟨c, h⟩
    obtain ⟨hid, hsecret⟩ := roleCredentials_eq_ok_iff.1 h
    exact ⟨⟨_, hid⟩, _, hsecret⟩
  · rintro ⟨⟨id, hid⟩, secret, hsecret⟩
    exact ⟨⟨id, secret⟩, roleCredentials_eq_ok_iff.2 ⟨hid, hsecret⟩⟩

theorem exists_clientCredentials_iff :
    (∃ c, s.clientCredentials = some c) ↔ IsGiven s.clientId ∧ IsGiven s.clientSecret := by
  rw [← exists_present_iff, ← exists_present_iff]
  constructor
  · rintro ⟨c, h⟩
    obtain ⟨hid, hsecret⟩ := clientCredentials_eq_some_iff.1 h
    exact ⟨⟨_, hid⟩, _, hsecret⟩
  · rintro ⟨⟨id, hid⟩, secret, hsecret⟩
    exact ⟨⟨id, secret⟩, clientCredentials_eq_some_iff.2 ⟨hid, hsecret⟩⟩

/-- The token endpoint begins with what is left of the server's address, or with a slash. -/
theorem isTrimmed_realmEndpoint {base : String} (h : Text.IsTrimmed base) (realm : String) :
    Text.IsTrimmed (realmEndpoint base realm) := by
  have hrealms : Text.IsTrimmed "/realms/" :=
    .of_ends (c := '/') (d := '/') (by decide) (by decide) (by decide) (by decide)
  have hlast : Text.IsTrimmed "/protocol/openid-connect/token" :=
    .of_ends (c := '/') (d := 'n') (by decide) (by decide) (by decide) (by decide)
  have hrest := h.trimEndOf_append (hrealms.append realm hlast) '/'
  rwa [String.append_assoc, ← String.append_assoc, ← String.append_assoc] at hrest

/-- Every text that a start takes from the settings has no blanks at its ends. -/
theorem Derives.isTrimmed {text : String} (h : s.Derives text) : Text.IsTrimmed text := by
  cases h with
  | gateway h | backendAddress h | loginMount h | secretMount h =>
      exact isTrimmed_of_present (required_eq_ok_iff.1 h)
  | endpoint h =>
      obtain ⟨base, realm, hbase, -, rfl⟩ := tokenEndpoint_eq_ok_iff.1 h
      exact isTrimmed_realmEndpoint (isTrimmed_of_present hbase) realm
  | roleId h => exact isTrimmed_of_present (roleCredentials_eq_ok_iff.1 h).1
  | secretId h => exact isTrimmed_of_present (roleCredentials_eq_ok_iff.1 h).2
  | clientId h => exact isTrimmed_of_present (clientCredentials_eq_some_iff.1 h).1
  | clientSecret h => exact isTrimmed_of_present (clientCredentials_eq_some_iff.1 h).2
  | namespace_ h => exact isTrimmed_of_present h

/-! ## All values of a mode -/

/-- A start has what it asks for where every value of the mode is given. -/
theorem supplies_iff : s.Supplies ↔ ∀ k ∈ keys s.backendEnabled, IsGiven (k.value s) := by
  have hparts : s.Supplies ↔ IsGiven s.gatewayUrl ∧ (IsGiven s.identityUrl ∧ IsGiven s.realm) ∧
      (s.backendEnabled = true → IsGiven s.backendUrl ∧ IsGiven s.rolePath ∧ IsGiven s.kvMount ∧
        IsGiven s.roleId ∧ IsGiven s.roleSecret) ∧
      (s.backendEnabled = false → IsGiven s.clientId ∧ IsGiven s.clientSecret) := by
    constructor
    · intro h
      refine ⟨exists_required_iff.1 h.gateway, exists_tokenEndpoint_iff.1 h.endpoint, fun hb => ?_,
        fun hb => exists_clientCredentials_iff.1 (h.shared hb)⟩
      obtain ⟨haddress, hlogin, hsecret, hrole⟩ := h.backend hb
      exact ⟨exists_required_iff.1 haddress, exists_required_iff.1 hlogin,
        exists_required_iff.1 hsecret, exists_roleCredentials_iff.1 hrole⟩
    · rintro ⟨hgateway, hendpoint, hbackend, hshared⟩
      refine ⟨exists_required_iff.2 hgateway, exists_tokenEndpoint_iff.2 hendpoint, fun hb => ?_,
        fun hb => exists_clientCredentials_iff.2 (hshared hb)⟩
      obtain ⟨haddress, hlogin, hsecret, hrole⟩ := hbackend hb
      exact ⟨exists_required_iff.2 haddress, exists_required_iff.2 hlogin,
        exists_required_iff.2 hsecret, exists_roleCredentials_iff.2 hrole⟩
  rw [hparts, keys]
  cases s.backendEnabled <;> simp [Key.value, and_assoc]

theorem needs_eq (s : Settings) :
    s.needs = (keys s.backendEnabled).map fun k => (k.value s, k.name) := by
  rw [needs, keys]
  cases s.backendEnabled <;> rfl

/-- A walk over values stops at the first one that is not there. -/
theorem forM_required_eq (values : List (Option String × String)) :
    (values.forM fun (value, key) => do
      let _ ← required value key
      return () : Outcome Unit) =
    match values.find? fun entry => (present entry.1).isNone with
    | some entry => .error (missing entry.2)
    | none => .ok () := by
  induction values with
  | nil => rfl
  | cons entry rest ih =>
      obtain ⟨value, key⟩ := entry
      show (required value key >>= fun _ => .ok ()) >>= (fun _ => rest.forM _) = _
      rw [required, List.find?_cons]
      cases present value with
      | none => rfl
      | some text => exact ih

/-- Validation refuses the first value that is missing, and a distance of zero if none is. -/
theorem validate_eq (s : Settings) :
    s.validate =
      match (keys s.backendEnabled).find? fun k => (present (k.value s)).isNone with
      | some k => .error (missing k.name)
      | none =>
          if s.intervalSeconds = 0 then
            .error (.configuration "requeue-interval-secs must be positive")
          else .ok () := by
  rw [validate, forM_required_eq, needs_eq, List.find?_map]
  dsimp only [Function.comp_def]
  cases (keys s.backendEnabled).find? fun k => (present (k.value s)).isNone with
  | some k => rfl
  | none => rfl

theorem isNone_present_iff {value : Option String} :
    (present value).isNone = true ↔ ¬ IsGiven value :=
  Option.isNone_iff_eq_none.trans present_eq_none_iff

theorem find?_key_eq_some_iff {k : Key} :
    ((keys s.backendEnabled).find? fun k => (present (k.value s)).isNone) = some k ↔
      s.IsFirstMissing k := by
  rw [List.find?_eq_some_iff_append, isNone_present_iff, IsFirstMissing]
  simp only [Bool.not_eq_true', ← Bool.not_eq_true, isNone_present_iff, not_not]
  constructor
  · rintro ⟨hmissing, before, after, hkeys, hgiven⟩
    exact ⟨before, after, hkeys, hgiven, hmissing⟩
  · rintro ⟨before, after, hkeys, hgiven, hmissing⟩
    exact ⟨hmissing, before, after, hkeys, hgiven⟩

theorem find?_key_eq_none_iff :
    ((keys s.backendEnabled).find? fun k => (present (k.value s)).isNone) = none ↔
      s.Supplies := by
  rw [List.find?_eq_none, supplies_iff]
  simp only [isNone_present_iff, not_not]

/-- The distance between retries is a whole number of seconds. -/
theorem interval_eq_zero_iff : s.policy.interval = .zero ↔ s.intervalSeconds = 0 := by
  have hseconds : s.intervalSeconds = 0 ↔ s.intervalSeconds.toNat = 0 := UInt64.toNat_inj.symm
  rw [policy, Duration.zero, Duration.ofSeconds, Duration.mk.injEq, hseconds, Nat.mul_eq_zero]
  exact or_iff_left (by decide)

theorem zero_lt_interval_iff : .zero < s.policy.interval ↔ s.intervalSeconds ≠ 0 := by
  rw [ne_eq, ← interval_eq_zero_iff]
  constructor
  · intro hpos hzero
    rw [hzero] at hpos
    exact Nat.lt_irrefl _ hpos
  · intro hne
    exact Nat.pos_of_ne_zero fun hzero => hne (congrArg Duration.mk hzero)

/-! ## The verdict -/

theorem validate_eq_ok_iff : s.validate = .ok () ↔ s.Supplies ∧ .zero < s.policy.interval := by
  rw [validate_eq, ← find?_key_eq_none_iff, zero_lt_interval_iff]
  cases (keys s.backendEnabled).find? fun k => (present (k.value s)).isNone with
  | some k => exact ⟨nofun, fun h => nomatch h.1⟩
  | none =>
      by_cases hzero : s.intervalSeconds = 0
      · exact ⟨fun h => absurd ((if_pos hzero).symm.trans h) nofun, fun h => absurd hzero h.2⟩
      · exact ⟨fun _ => ⟨rfl, hzero⟩, fun _ => if_neg hzero⟩

theorem validate_eq_error_iff {f : Fault} :
    s.validate = .error f ↔ (∃ k, s.IsFirstMissing k ∧ f = missing k.name) ∨
      (s.Supplies ∧ s.policy.interval = .zero ∧
        f = .configuration "requeue-interval-secs must be positive") := by
  rw [validate_eq, ← find?_key_eq_none_iff, interval_eq_zero_iff]
  simp only [← find?_key_eq_some_iff]
  cases (keys s.backendEnabled).find? fun k => (present (k.value s)).isNone with
  | some k =>
      constructor
      · intro h
        exact .inl ⟨k, rfl, (Except.error.inj h).symm⟩
      · rintro (⟨j, hj, rfl⟩ | ⟨h, -⟩)
        · rw [Option.some.inj hj]
        · exact nomatch h
  | none =>
      constructor
      · intro h
        by_cases hzero : s.intervalSeconds = 0
        · exact .inr ⟨rfl, hzero, (Except.error.inj ((if_pos hzero).symm.trans h)).symm⟩
        · exact absurd ((if_neg hzero).symm.trans h) nofun
      · rintro (⟨j, hj, -⟩ | ⟨-, hzero, rfl⟩)
        · exact nomatch hj
        · exact if_pos hzero

/-- Settings are accepted exactly where a start gets every derived value that it asks for in their
    mode and retries have a distance.  A refusal names the first key of the mode whose value is
    missing or blank, and the distance only if no value is missing.  The texts that a start takes
    are not empty and have no blanks at their ends. -/
theorem validate_exact (s : Settings) :
    (s.validate = .ok () ↔ s.Supplies ∧ .zero < s.policy.interval) ∧
    (∀ f, s.validate = .error f ↔
      (∃ k, s.IsFirstMissing k ∧
        f = .configuration ("missing required configuration value: " ++ k.name)) ∨
      (s.Supplies ∧ s.policy.interval = .zero ∧
        f = .configuration "requeue-interval-secs must be positive")) ∧
    ∀ text, s.Derives text → Text.IsTrimmed text :=
  ⟨validate_eq_ok_iff, fun _ => validate_eq_error_iff, fun _ h => h.isTrimmed⟩

example : ({ gatewayUrl := some "https://api", identityUrl := some "\u3000\t" } :
    Settings).validate = .error (missing "keycloak-url") := by decide +kernel

end Settings

end CloudReconciler
