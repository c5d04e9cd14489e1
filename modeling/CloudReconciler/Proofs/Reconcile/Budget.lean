import CloudReconciler.Proofs.Reconcile.Effect
import CloudReconciler.Proofs.Scripted.Contract

/-! # The budget of an invocation — one request, one replacement, one status write

    An invocation has three kinds of effects, and each of them at most once:
    it sends a request, it replaces the object's metadata, it writes the
    object's status, in this order.  This holds whoever answers its calls,
    and whatever the answers are; nothing is assumed of the store.

    An invocation that fails has made no write that succeeded, but for one:
    in the first phase it may have attached the finalizer before the status
    write failed.  Where the store keeps its contract, the stored object has
    therefore kept its status, and has gained the finalizer at most. -/

namespace CloudReconciler

open Procedure (Trace trace_done trace_call trace_bind)

/-- What an invocation does to the world outside. -/
inductive Effect where
  /-- A request is handed to the transport. -/
  | request
  /-- Metadata and spec of the object are replaced. -/
  | replacement
  /-- The status of the object is written. -/
  | statusWrite
  deriving DecidableEq, Repr

/-- The effect that a call asks for, whether or not it succeeds. -/
def EngineCall.effect? {O : Type} : EngineCall O → Option Effect
  | .remote (.send _) => some .request
  | .update _ => some .replacement
  | .updateStatus _ => some .statusWrite
  | _ => none

namespace Answer

variable {O σ : Type}

/-- The effect that the call has asked for. -/
def effect? (a : Answer (EngineCalls O) σ) : Option Effect := EngineCall.effect? a.call

/-- The call, if it is a write that has succeeded. -/
def change? : Answer (EngineCalls O) σ → Option (EngineCall O)
  | ⟨.update o, .ok _, _, _⟩ => some (.update o)
  | ⟨.updateStatus o, .ok _, _, _⟩ => some (.updateStatus o)
  | _ => none

/-- The object, if one was read. -/
def read? : Answer (EngineCalls O) σ → Option O
  | ⟨.fetch _ _, .ok found, _, _⟩ => found
  | _ => none

/-- The token, if one was given. -/
def token? : Answer (EngineCalls O) σ → Option String
  | ⟨.authenticate _, .ok token, _, _⟩ => some token
  | _ => none

end Answer

section

variable {O σ : Type}

/-- The effects that were asked for, oldest first. -/
def effects (τ : List (Answer (EngineCalls O) σ)) : List Effect := τ.filterMap Answer.effect?

/-- The writes that have succeeded, oldest first. -/
def changes (τ : List (Answer (EngineCalls O) σ)) : List (EngineCall O) :=
  τ.filterMap Answer.change?

/-- The object that was read. -/
def readObject (τ : List (Answer (EngineCalls O) σ)) : Option O := (τ.filterMap Answer.read?).head?

/-- The token that was given. -/
def givenToken (τ : List (Answer (EngineCalls O) σ)) : Option String :=
  (τ.filterMap Answer.token?).head?

theorem effects_append (τ τ' : List (Answer (EngineCalls O) σ)) :
    effects (τ ++ τ') = effects τ ++ effects τ' := List.filterMap_append

theorem changes_append (τ τ' : List (Answer (EngineCalls O) σ)) :
    changes (τ ++ τ') = changes τ ++ changes τ' := List.filterMap_append

/-- An invocation may have one effect of each kind. -/
def fullBudget : List Effect := [.request, .replacement, .statusWrite]

end

/-! ## Parts of an invocation -/

/-- What a part of an invocation may have done: the allowed effects at most, in their order, and
    no change if it has failed. -/
structure Spends {O σ α : Type} (allowed : List Effect) (τ : List (Answer (EngineCalls O) σ))
    (result : Outcome α) : Prop where
  ordered : (effects τ).Sublist allowed
  failed : ∀ f, result = .error f → changes τ = []

section

variable {O σ α : Type} {e : Surroundings (EngineCalls O) σ} {x y : σ}
  {τ τ' : List (Answer (EngineCalls O) σ)} {allowed more : List Effect} {r : Outcome α}

theorem Spends.mono (h : Spends allowed τ r) (hsub : allowed.Sublist more) : Spends more τ r :=
  ⟨h.ordered.trans hsub, h.failed⟩

/-- A part that changes nothing, followed by one that spends. -/
theorem Spends.after (h : Spends more τ' r) (hordered : (effects τ).Sublist allowed)
    (hchanges : changes τ = []) : Spends (allowed ++ more) (τ ++ τ') r := by
  refine ⟨?_, fun f hf => ?_⟩
  · rw [effects_append]
    exact hordered.append h.ordered
  · rw [changes_append, hchanges, h.failed f hf]
    rfl

/-- Nothing at all is spent. -/
theorem Spends.nil : Spends allowed ([] : List (Answer (EngineCalls O) σ)) r :=
  ⟨List.nil_sublist _, fun _ _ => rfl⟩

/-- A question to the remote API is one request at most. -/
theorem spends_ask {ask : Ask α} {g : Gateway} (h : Trace e (ask.run g) x τ r y) :
    (effects τ).Sublist [.request] ∧ changes τ = [] := by
  cases ask with
  | known outcome =>
      obtain ⟨rfl, rfl, rfl⟩ := trace_done.1 h
      exact ⟨List.nil_sublist _, rfl⟩
  | send method endpoint body read =>
      rw [Ask.run, Gateway.perform] at h
      split at h
      · obtain ⟨rfl, rfl, rfl⟩ := trace_done.1 h
        exact ⟨List.nil_sublist _, rfl⟩
      · obtain ⟨stopped, x₁, x₂, rest, -, -, hr, rfl⟩ := trace_call.1 h
        cases stopped with
        | true =>
            obtain ⟨rfl, rfl, rfl⟩ := trace_done.1 hr
            exact ⟨List.nil_sublist _, rfl⟩
        | false =>
            obtain ⟨wake, x₃, x₄, rest, -, -, hr', rfl⟩ := trace_call.1 hr
            -- every kind of wake ends the question
            rcases wake with (f | reply) | late
            all_goals
              obtain ⟨rfl, rfl, rfl⟩ := trace_done.1 hr'
              exact ⟨.refl _, rfl⟩

theorem spends_placement {p : Placement O} {r : Outcome O} (h : Trace e p.run x τ r y) :
    effects τ = [] ∧ changes τ = [] := by
  cases p with
  | here o =>
      obtain ⟨rfl, rfl, rfl⟩ := trace_done.1 h
      exact ⟨rfl, rfl⟩
  | within namespace_ name read =>
      obtain ⟨reply, x₁, x₂, rest, -, -, hr, rfl⟩ := trace_call.1 h
      obtain ⟨rfl, rfl, rfl⟩ := trace_done.1 hr
      exact ⟨rfl, rfl⟩

/-- A question whose outcome leads to a transition: one request, then one status write. -/
theorem spends_handled {ask : Ask α} {g : Gateway} {handle : Outcome α → Engine O (Stage O)}
    {a : Stage O}
    (hhandle : ∀ r x τ a y, Trace e (handle r) x τ a y → Spends [.statusWrite] τ a.result)
    (h : Trace e ((ask.run g).bind handle) x τ a y) :
    Spends [.request, .statusWrite] τ a.result := by
  obtain ⟨first, r, m, rest, hf, hr, rfl⟩ := trace_bind.1 h
  obtain ⟨hordered, hchanges⟩ := spends_ask hf
  exact (hhandle _ _ _ _ _ hr).after hordered hchanges

end

variable {Spec St : Type} [Managed Spec St]

section

variable {σ : Type} {e : Surroundings (EngineCalls (Resource Spec St)) σ} {x y : σ}
  {τ : List (Answer (EngineCalls (Resource Spec St)) σ)} {policy : Policy} {g : Gateway}
  {c : RemoteCalls Spec St} {o : Resource Spec St} {a : Stage (Resource Spec St)}

theorem spends_next {t : Transition} (h : Trace e (t.next policy o) x τ a y) :
    Spends [.statusWrite] τ a.result := by
  obtain ⟨now, x₁, x₂, rest, -, -, hr, rfl⟩ := trace_call.1 h
  cases hw : t.deferral? policy now o with
  | some wait =>
      simp only [hw] at hr
      obtain ⟨rfl, rfl, rfl⟩ := trace_done.1 hr
      exact ⟨List.nil_sublist _, fun _ _ => rfl⟩
  | none =>
      simp only [hw] at hr
      obtain ⟨reply, x₃, x₄, rest, -, -, hr', rfl⟩ := trace_call.1 hr
      cases reply with
      | ok n =>
          obtain ⟨rfl, rfl, rfl⟩ := trace_done.1 hr'
          exact ⟨.refl _, fun _ hf => nomatch hf⟩
      | error f =>
          obtain ⟨rfl, rfl, rfl⟩ := trace_done.1 hr'
          exact ⟨.refl _, fun _ _ => rfl⟩

theorem spends_create (h : Trace e (c.lifecycle.create policy g o) x τ a y) :
    Spends [.request, .statusWrite] τ a.result := by
  obtain ⟨first, located, m, rest, hl, hr, rfl⟩ := trace_bind.1 h
  obtain ⟨hnone, hchanges⟩ := spends_placement hl
  have hordered : (effects first).Sublist [] := hnone ▸ .refl _
  cases located with
  | error f =>
      have hs : Spends [.request, .statusWrite] rest a.result :=
        (spends_next hr).mono (by decide)
      exact hs.after hordered hchanges
  | ok p =>
      refine (spends_handled (fun r _ _ _ _ hh => ?_) hr).after hordered hchanges
      cases r with
      | error f => exact spends_next hh
      | ok created => exact spends_next hh

theorem spends_poll (h : Trace e (c.lifecycle.poll policy g o) x τ a y) :
    Spends [.request, .statusWrite] τ a.result := by
  rw [RemoteCalls.lifecycle] at h
  cases hc : c.poll o with
  | none =>
      simp only [hc] at h
      obtain ⟨rfl, rfl, rfl⟩ := trace_done.1 h
      exact .nil
  | some ask =>
      simp only [hc] at h
      refine spends_handled (fun r _ _ _ _ hh => ?_) h
      cases r with
      | error f => exact spends_next hh
      | ok state => exact spends_next hh

theorem spends_push (h : Trace e (c.lifecycle.push policy g o) x τ a y) :
    Spends [.request, .statusWrite] τ a.result := by
  refine spends_handled (fun r _ _ _ _ hh => ?_) h
  cases r with
  | error f => exact spends_next hh
  | ok _ => exact spends_next hh

theorem spends_check (h : Trace e (checkForUpdates policy o) x τ a y) :
    Spends [.statusWrite] τ a.result := by
  rw [checkForUpdates] at h
  split at h
  · obtain ⟨rfl, rfl, rfl⟩ := trace_done.1 h
    exact .nil
  · exact spends_next h

/-- A removal that has released the finalizer does not fail. -/
theorem spends_remove (h : Trace e (c.lifecycle.remove policy g o) x τ a y) :
    Spends fullBudget τ a.result := by
  obtain ⟨first, asked, m, rest, ha, hr, rfl⟩ := trace_bind.1 h
  obtain ⟨hordered, hchanges⟩ := spends_ask ha
  have hs : Spends [.replacement, .statusWrite] rest a.result := by
    cases asked with
    | error f => exact (spends_next hr).mono (by decide)
    | ok _ =>
        dsimp only at hr
        split at hr
        · obtain ⟨reply, x₁, x₂, last, -, -, hr', rfl⟩ := trace_call.1 hr
          cases reply with
          | ok n =>
              obtain ⟨rfl, rfl, rfl⟩ := trace_done.1 hr'
              exact ⟨(List.nil_sublist _).cons_cons _, fun _ hf => nomatch hf⟩
          | error f =>
              dsimp only at hr'
              split at hr'
              · obtain ⟨rfl, rfl, rfl⟩ := trace_done.1 hr'
                exact ⟨(List.nil_sublist _).cons_cons _, fun _ hf => nomatch hf⟩
              · exact ⟨(spends_next hr').ordered.cons_cons _, (spends_next hr').failed⟩
        · obtain ⟨rfl, rfl, rfl⟩ := trace_done.1 hr
          exact .nil
  exact hs.after hordered hchanges

end

/-! ## Whole invocations -/

/-- What an invocation that serves the object may have done: if it has failed, it has changed
    nothing, or it has attached the finalizer to the object as it was read. -/
structure SpendsOn {σ : Type} (o : Resource Spec St)
    (τ : List (Answer (EngineCalls (Resource Spec St)) σ)) (result : Outcome Action) : Prop where
  ordered : (effects τ).Sublist fullBudget
  failed : ∀ f, result = .error f → changes τ = [] ∨
    o.phase = .uninitialized ∧ ¬ o.IsGuarded ∧ changes τ = [.update o.guarded]

section

variable {σ : Type} {e : Surroundings (EngineCalls (Resource Spec St)) σ} {x y : σ}
  {τ τ' : List (Answer (EngineCalls (Resource Spec St)) σ)} {policy : Policy} {g : Gateway}
  {c : RemoteCalls Spec St} {o : Resource Spec St} {a : Stage (Resource Spec St)}

theorem Spends.on {allowed : List Effect} {result : Outcome Action} (h : Spends allowed τ result)
    (hsub : allowed.Sublist fullBudget) : SpendsOn o τ result :=
  ⟨h.ordered.trans hsub, fun f hf => .inl (h.failed f hf)⟩

/-- Answers without effects do not count. -/
theorem SpendsOn.after {result : Outcome Action} (h : SpendsOn o τ' result)
    (heffects : effects τ = []) (hchanges : changes τ = []) : SpendsOn o (τ ++ τ') result := by
  refine ⟨?_, ?_⟩
  · rw [effects_append, heffects]
    exact h.ordered
  · rw [changes_append, hchanges]
    exact h.failed

/-- Only the first phase makes a change before it can fail. -/
theorem spendsOn_initialize (hp : o.phase = .uninitialized)
    (h : Trace e (initializeResource policy o (Managed.finalizer Spec)) x τ a y) :
    SpendsOn o τ a.result := by
  rw [initializeResource] at h
  split at h
  · exact (spends_next h).on (by decide)
  · next hg =>
      rw [Resource.hasFinalizer_iff] at hg
      obtain ⟨reply, x₁, x₂, rest, -, -, hr, rfl⟩ := trace_call.1 h
      cases reply with
      | ok n =>
          have hs := spends_next hr
          refine ⟨(hs.ordered.cons_cons Effect.replacement).trans (by decide), fun f hf => ?_⟩
          refine .inr ⟨hp, hg, ?_⟩
          show EngineCall.update o.guarded :: changes rest = _
          rw [hs.failed f hf]
      | error f =>
          have hs := spends_next hr
          exact ⟨(hs.ordered.cons_cons Effect.replacement).trans (by decide),
            fun f hf => .inl (hs.failed f hf)⟩

theorem spendsOn_serve (h : Trace e (c.lifecycle.serve policy g o) x τ a y) :
    SpendsOn o τ a.result := by
  rw [Lifecycle.serve] at h
  cases hp : o.phase with
  | uninitialized =>
      simp only [hp] at h
      exact spendsOn_initialize hp h
  | creating =>
      simp only [hp] at h
      exact (spends_create h).on (by decide)
  | provisioning =>
      simp only [hp] at h
      exact (spends_poll h).on (by decide)
  | created =>
      simp only [hp] at h
      exact (spends_check h).on (by decide)
  | updating =>
      simp only [hp] at h
      exact (spends_push h).on (by decide)
  | deleting =>
      simp only [hp] at h
      exact (spends_remove h).on (.refl _)
  | deleted | failed =>
      simp only [hp] at h
      obtain ⟨rfl, rfl, rfl⟩ := trace_done.1 h
      exact Spends.nil.on (.refl _)

/-- The check of the time reads the clock, and it settles the invocation with one status write. -/
theorem spendsOn_timeout {settled : Option (Stage (Resource Spec St))}
    (h : Trace e (enforceTimeout policy o) x τ settled y) :
    (settled = none ∧ effects τ = [] ∧ changes τ = []) ∨
      ∃ stage, settled = some stage ∧ SpendsOn o τ stage.result := by
  rw [enforceTimeout] at h
  cases hs : o.recordOrBlank.phaseStart with
  | none =>
      simp only [hs] at h
      obtain ⟨rfl, rfl, rfl⟩ := trace_done.1 h
      exact .inl ⟨rfl, rfl, rfl⟩
  | some start =>
      simp only [hs] at h
      split at h
      · obtain ⟨now, x₁, x₂, rest, -, -, hr, rfl⟩ := trace_call.1 h
        split at hr
        · obtain ⟨rfl, rfl, rfl⟩ := trace_done.1 hr
          exact .inl ⟨rfl, rfl, rfl⟩
        · obtain ⟨first, stage, x₃, last, hn, hd, rfl⟩ := trace_bind.1 hr
          obtain ⟨rfl, rfl, rfl⟩ := trace_done.1 hd
          rw [List.append_nil]
          refine .inr ⟨stage, rfl, ?_⟩
          have hon : SpendsOn o first stage.result := (spends_next hn).on (by decide)
          show SpendsOn o ([_] ++ first) stage.result
          exact hon.after rfl rfl
      · obtain ⟨rfl, rfl, rfl⟩ := trace_done.1 h
        exact .inl ⟨rfl, rfl, rfl⟩

theorem spendsOn_deletion {settled : Option (Stage (Resource Spec St))}
    (h : Trace e (beginDeletion policy o) x τ settled y) :
    (settled = none ∧ τ = []) ∨ ∃ stage, settled = some stage ∧ SpendsOn o τ stage.result := by
  rw [beginDeletion] at h
  split at h
  · obtain ⟨first, stage, x₁, last, hn, hd, rfl⟩ := trace_bind.1 h
    obtain ⟨rfl, rfl, rfl⟩ := trace_done.1 hd
    rw [List.append_nil]
    have hs := spends_next hn
    refine .inr ⟨_, rfl, hs.ordered.trans (by decide), fun f hf => .inl ?_⟩
    -- the result is an error only if that of the write is
    cases hresult : stage.result with
    | ok action =>
        simp only [hresult] at hf
        cases hf
    | error f' => exact hs.failed f' hresult
  · obtain ⟨rfl, rfl, rfl⟩ := trace_done.1 h
    exact .inl ⟨rfl, rfl⟩

theorem spendsOn_advance {s : Setting (Resource Spec St)} (hl : s.lifecycle = c.lifecycle)
    (h : Trace e (s.advance g o) x τ a y) : SpendsOn o τ a.result := by
  obtain ⟨first, settled, x₁, rest, ht, hr, rfl⟩ := trace_bind.1 h
  rcases spendsOn_timeout ht with ⟨rfl, heffects, hchanges⟩ | ⟨stage, rfl, hs⟩
  · obtain ⟨second, settled, x₂, last, hb, hr', rfl⟩ := trace_bind.1 hr
    refine SpendsOn.after ?_ heffects hchanges
    rcases spendsOn_deletion hb with ⟨rfl, rfl⟩ | ⟨stage, rfl, hs⟩
    · rw [hl] at hr'
      exact spendsOn_serve hr'
    · obtain ⟨rfl, rfl, rfl⟩ := trace_done.1 hr'
      rwa [List.append_nil]
  · obtain ⟨rfl, rfl, rfl⟩ := trace_done.1 hr
    rwa [List.append_nil]

end

/-- What an invocation has spent, read off its answers alone. -/
structure WithinBudget {σ : Type} (multiTenant : Bool)
    (τ : List (Answer (EngineCalls (Resource Spec St)) σ)) (result : Outcome Action) : Prop where
  /-- No kind of effect is had twice. -/
  once : ∀ effect, (effects τ).count effect ≤ 1
  /-- Effects come in the order of the budget. -/
  ordered : (effects τ).Sublist fullBudget
  /-- A failure has changed nothing, or it has only attached the finalizer in the first phase. -/
  failed : ∀ f, result = .error f → changes τ = [] ∨
    ∃ o, readObject τ = some o ∧ o.phase = .uninitialized ∧ ¬ o.IsGuarded ∧
      changes τ = [.update o.guarded]
  /-- Without an object nothing is done. -/
  absent : readObject τ = none → effects τ = []
  /-- Without the tenant that is asked for nothing is done. -/
  tenantless : ∀ o, readObject τ = some o → Text.isBlankText (Managed.tenantText o.spec) = true →
    multiTenant = true → effects τ = []
  /-- Without a token nothing is done. -/
  unauthenticated : givenToken τ = none → effects τ = []

/-- Every kind of effect is in the budget once. -/
theorem count_le_of_sublist {l : List Effect} (h : l.Sublist fullBudget) (effect : Effect) :
    l.count effect ≤ 1 := by
  have hfull : fullBudget.count effect ≤ 1 := by
    cases effect <;> decide
  exact Nat.le_trans (h.count_le effect) hfull

section

variable {σ : Type} {e : Surroundings (EngineCalls (Resource Spec St)) σ} {x y : σ}
  {τ : List (Answer (EngineCalls (Resource Spec St)) σ)} {c : RemoteCalls Spec St}
  {s : Setting (Resource Spec St)} {result : Outcome Action}

/-- An invocation that ends before it has any effect. -/
theorem withinBudget_of_idle (heffects : effects τ = []) (hchanges : changes τ = []) :
    WithinBudget s.multiTenant τ result where
  once effect := by
    rw [heffects]
    exact Nat.zero_le _
  ordered := heffects ▸ List.nil_sublist _
  failed _ _ := .inl hchanges
  absent _ := heffects
  tenantless _ _ _ _ := heffects
  unauthenticated _ := heffects

/-- The tenant is missing where the spec has a blank one. -/
theorem tenant?_getD_of_blank {o : Resource Spec St}
    (h : Text.isBlankText (Managed.tenantText o.spec) = true) : o.tenant?.getD "" = "" := by
  rw [Resource.tenant?]
  simp only [h, if_true]
  rfl

/-- Every reconciliation stays within its budget, whatever it is answered. -/
theorem withinBudget_of_trace (hl : s.lifecycle = c.lifecycle) {namespace_ name : String}
    (h : Trace e (s.reconcile namespace_ name) x τ result y) :
    WithinBudget s.multiTenant τ result := by
  obtain ⟨reply, x₁, x₂, rest, -, -, hr, rfl⟩ := trace_call.1 h
  rcases reply with f | _ | o
  · obtain ⟨rfl, rfl, rfl⟩ := trace_done.1 hr
    exact withinBudget_of_idle rfl rfl
  · obtain ⟨rfl, rfl, rfl⟩ := trace_done.1 hr
    exact withinBudget_of_idle rfl rfl
  · dsimp only at hr
    split at hr
    · obtain ⟨rfl, rfl, rfl⟩ := trace_done.1 hr
      exact withinBudget_of_idle rfl rfl
    · next htenant =>
        obtain ⟨reply, x₃, x₄, last, -, -, hr', rfl⟩ := trace_call.1 hr
        cases reply with
        | error f =>
            obtain ⟨rfl, rfl, rfl⟩ := trace_done.1 hr'
            exact withinBudget_of_idle rfl rfl
        | ok token =>
            obtain ⟨served, stage, x₅, none_, hadv, hdone, rfl⟩ := trace_bind.1 hr'
            obtain ⟨rfl, rfl, rfl⟩ := trace_done.1 hdone
            rw [List.append_nil]
            have hs := spendsOn_advance hl hadv
            -- neither the reading nor the authentication is an effect
            exact {
              once := count_le_of_sublist hs.ordered
              ordered := hs.ordered
              failed := fun f hf => (hs.failed f hf).imp id fun hguard => ⟨o, rfl, hguard⟩
              absent := fun hnone => nomatch hnone
              tenantless := fun p hp hblank hmulti => by
                cases hp
                exact absurd ⟨tenant?_getD_of_blank hblank, hmulti⟩ htenant
              unauthenticated := fun hnone => nomatch hnone }

end

/-! ## The stored object after a failure -/

section

variable {k : Circumstances} {key : ObjectKey} {w w₁ : Slot (Resource Spec St)} {α : Type}
  {p : Engine (Resource Spec St) α} {τ : List (EngineAnswer (Resource Spec St))} {r : α}
  {o q : Resource Spec St}

/-- An answer that makes no change leaves the object that is stored. -/
theorem stored_of_no_change {call : EngineCall (Resource Spec St)}
    {reply : (EngineCalls (Resource Spec St)).Reply call}
    (h : (Slot.surroundings k key).Answers call w reply w₁)
    (hnone : Answer.change? (⟨call, reply, w, w₁⟩ : EngineAnswer (Resource Spec St)) = none) :
    w₁.stored = w.stored := by
  cases call with
  | now | authenticate _ | fetchProject _ _ | remote _ => exact congrArg Slot.stored h
  | fetch namespace_ name =>
      cases h with
      | refused _ => rfl
      | found _ => rfl
      | elsewhere _ => rfl
  | update q =>
      cases h with
      | refused _ => rfl
      | stored _ _ _ => exact nomatch hnone
      | removed _ _ _ _ _ => exact nomatch hnone
      | elsewhere _ => rfl
  | updateStatus q =>
      cases h with
      | refused _ => rfl
      | stored _ _ _ => exact nomatch hnone
      | elsewhere _ => rfl

/-- Where nobody else edits the object, it is left alone when no change is made. -/
theorem stored_of_no_changes (h : Trace (Slot.surroundings k key) p w τ r w₁)
    (hk : ¬ k.concurrent) (hnone : changes τ = []) : w₁.stored = w.stored := by
  induction h with
  | done a s => rfl
  | @call c resume reply answers a s t t' u ha hd _ ih =>
      have hdrift : t' = t := hd.resolve_right fun hm => hk hm.1
      subst hdrift
      rw [changes, List.filterMap_cons] at hnone
      split at hnone
      · next hfirst => exact (ih hnone).trans (stored_of_no_change ha hfirst)
      · exact nomatch hnone

/-- Where nobody else edits the object, it is what a single replacement makes of it. -/
theorem stored_of_one_change (h : Trace (Slot.surroundings k key) p w τ r w₁)
    (hk : ¬ k.concurrent) (hone : changes τ = [.update q]) (hkey : q.key = key) :
    ∃ cur n, w.stored = some cur ∧ n.Matches q ∧
      (n.status = cur.status ∨ n.status = q.status) ∧
      (w₁.stored = some n ∨ w₁.stored = none ∧ n.metadata.finalizerList = []) := by
  induction h with
  | done a s => exact nomatch hone
  | @call c resume reply answers a s t t' u ha hd hrest ih =>
      have hdrift : t' = t := hd.resolve_right fun hm => hk hm.1
      subst hdrift
      rw [changes, List.filterMap_cons] at hone
      split at hone
      · next hfirst =>
          rw [← stored_of_no_change ha hfirst]
          exact ih hone
      · next change hfirst =>
          obtain ⟨rfl, hlater⟩ := List.cons.inj hone
          rw [stored_of_no_changes hrest hk hlater]
          cases c with
          | now | authenticate _ | fetch _ _ | fetchProject _ _ | remote _ => exact nomatch hfirst
          | updateStatus n =>
              cases reply with
              | error f => exact nomatch hfirst
              | ok m => exact nomatch hfirst
          | update n =>
              cases reply with
              | error f => exact nomatch hfirst
              | ok m =>
                  cases hfirst
                  obtain ⟨cur, rfl, hm, hs, hw⟩ := Slot.Replaced.ok ha hkey
                  refine ⟨cur, m, rfl, hm, hs, ?_⟩
                  rcases hw with rfl | ⟨rfl, hnil⟩
                  · exact .inl rfl
                  · exact .inr ⟨rfl, hnil⟩

/-- What a failure leaves of an object: the object, or the object with the finalizer that the first
    phase attaches. -/
def Unharmed (o : Resource Spec St) (stored : Option (Resource Spec St)) : Prop :=
  stored = some o ∨ o.phase = .uninitialized ∧ ¬ o.IsGuarded ∧
    ∃ n, stored = some n ∧ n.Matches o.guarded ∧ n.status = o.status

variable {s : Setting (Resource Spec St)} {c : RemoteCalls Spec St}

/-- An invocation that fails leaves the status that it has read. -/
theorem Invokes.status_of_failed {f : Fault} (h : Invokes s k o.key c (some o) τ (.error f) w) :
    ∀ n, w.stored = some n → n.status = o.status := by
  intro n hn
  cases h with
  | unread _ hd => exact ((Slot.Shows.untouched.drifts hd).keeps n hn).2.1
  | tenantless _ _ hd => exact ((Slot.Shows.untouched.drifts hd).keeps n hn).2.1
  | unauthenticated hd hd' =>
      exact (((Slot.Shows.untouched.drifts hd).drifts hd').keeps n hn).2.1
  | decided _ hd₀ hd₁ hdec hset =>
      have hshows := (Slot.Shows.untouched.drifts hd₀).drifts hd₁
      have hkeeps := hdec.keeps rfl hshows
      cases hset with
      | refused _ hd hw hd' =>
          -- the status write that was refused has left the slot alone
          cases hw.error (hdec.continues rfl hshows).key
          exact (((hkeeps.drifts hd).drifts hd') n hn).2.1

variable {result : Outcome Action}

/-- The object that a reconciliation has read is the one that was stored. -/
theorem readObject_of_trace
    (h : Trace (Slot.surroundings k o.key) (s.reconcile o.key.1 o.key.2) ⟨some o, false⟩ τ result
      w) (hread : readObject τ = some q) : q = o := by
  obtain ⟨reply, w₁, w₂, rest, ha, -, hr, rfl⟩ := trace_call.1 h
  rcases reply with f | found
  · obtain ⟨rfl, rfl, rfl⟩ := trace_done.1 hr
    exact nomatch hread
  · obtain ⟨hstored, -⟩ := Slot.Read.ok ha rfl
    cases hstored
    cases hread
    rfl

/-- An invocation that fails leaves the object unharmed where nobody else edits it. -/
theorem unharmed_of_trace (hl : s.lifecycle = c.lifecycle) {f : Fault}
    (h : Trace (Slot.surroundings k o.key) (s.reconcile o.key.1 o.key.2) ⟨some o, false⟩ τ
      (.error f) w) (hk : ¬ k.concurrent) : Unharmed o w.stored := by
  rcases (withinBudget_of_trace hl h).failed f rfl with hnone | ⟨q, hread, hp, hg, hone⟩
  · exact .inl (stored_of_no_changes h hk hnone)
  · obtain rfl := readObject_of_trace h hread
    obtain ⟨cur, n, hcur, hm, hs, hw⟩ := stored_of_one_change h hk hone rfl
    cases hcur
    refine .inr ⟨hp, hg, n, ?_, hm, hs.elim id id⟩
    rcases hw with hw | ⟨-, hnil⟩
    · exact hw
    · -- the finalizer was just attached
      rw [hm.finalizers] at hnil
      exact absurd hnil (List.append_ne_nil_of_right_ne_nil _ (List.cons_ne_nil _ _))

end

/-- The budget of every invocation in a setting, on any object. -/
structure KeepsBudget (s : Setting (Resource Spec St)) : Prop where
  /-- Whatever the calls are answered. -/
  spent : ∀ {σ : Type} (e : Surroundings (EngineCalls (Resource Spec St)) σ)
    (namespace_ name : String) (x : σ) (τ : List (Answer (EngineCalls (Resource Spec St)) σ))
    (result : Outcome Action) (y : σ),
    Trace e (s.reconcile namespace_ name) x τ result y → WithinBudget s.multiTenant τ result
  /-- A failure leaves the status that was stored. -/
  status : ∀ (k : Circumstances) (o : Resource Spec St)
    (τ : List (EngineAnswer (Resource Spec St))) (f : Fault) (w : Slot (Resource Spec St)),
    Trace (Slot.surroundings k o.key) (s.reconcile o.key.1 o.key.2) ⟨some o, false⟩ τ (.error f)
      w → ∀ n, w.stored = some n → n.status = o.status
  /-- A failure leaves the object, with the finalizer at most. -/
  unharmed : ∀ (k : Circumstances) (o : Resource Spec St)
    (τ : List (EngineAnswer (Resource Spec St))) (f : Fault) (w : Slot (Resource Spec St)),
    ¬ k.concurrent →
    Trace (Slot.surroundings k o.key) (s.reconcile o.key.1 o.key.2) ⟨some o, false⟩ τ (.error f)
      w → Unharmed o w.stored

theorem RemoteCalls.keepsBudget (c : RemoteCalls Spec St) {s : Setting (Resource Spec St)}
    (hl : s.lifecycle = c.lifecycle) : KeepsBudget s where
  spent _ _ _ _ _ _ _ h := withinBudget_of_trace hl h
  status _ _ _ _ _ h := (invokes_of_trace hl h).status_of_failed
  unharmed _ _ _ _ _ hk h := unharmed_of_trace hl h hk

/-- Every reconciliation of a project or a volume has each effect at most once, and one that fails
    leaves the object as it was, or with the finalizer attached. -/
theorem invocation_budget :
    (∀ s : Setting Project, s.lifecycle = projectLifecycle → KeepsBudget s) ∧
      ∀ s : Setting Volume, s.lifecycle = volumeLifecycle → KeepsBudget s := by
  constructor
  · intro s hl
    exact projectCalls.keepsBudget (hl.trans projectLifecycle_eq)
  · intro s hl
    exact volumeCalls.keepsBudget (hl.trans volumeLifecycle_eq)

namespace Scripted

/-- The world of a new project whose next status write fails. -/
def unwritableWorld : World :=
  let w := projectWorld []
  { w with projects := { w.projects with failStatus := some (.cluster (some 503) "unavailable") } }

/-- The first reconciliation of the project there. -/
def unwritten : Invocation Project :=
  unwritableWorld.invocation projectShelf projectSetting newProject.key

theorem admits_unwritableWorld : (projectShelf.store unwritableWorld).Admits calm := by
  refine ⟨nofun, nofun, fun f hf => ?_, fun _ => rfl⟩
  cases hf
  rfl

end Scripted

open Scripted in
/-- A project that gets its finalizer but no status, and a volume that is created and removed. -/
theorem invocation_budget_stories :
    (WithinBudget false unwritten.answers unwritten.result ∧
      unwritten.result = .error (.cluster (some 503) "unavailable") ∧
      effects unwritten.answers = [.replacement, .statusWrite] ∧
      Unharmed newProject unwritten.after ∧
      unwritten.after.map (·.metadata.finalizerList) = some [Managed.finalizer ProjectSpec]) ∧
    (∀ i ∈ volumeStory.1, WithinBudget false i.answers i.result) ∧
      volumeStory.1.map (fun i => effects i.answers) =
        [[.request, .replacement], [.statusWrite], [.request, .statusWrite],
          [.request, .statusWrite], [.replacement, .statusWrite]] := by
  have ht : Trace (Slot.surroundings calm newProject.key)
      (projectSetting.reconcile newProject.key.1 newProject.key.2) _ unwritten.answers
      unwritten.result _ :=
    (World.trace_run projectShelf_isLawful _ admits_unwritableWorld).1
  have hbudget := invocation_budget.1 projectSetting rfl
  have hvolumes := invocation_budget.2 volumeSetting rfl
  have hresult : unwritten.result = .error (.cluster (some 503) "unavailable") := rfl
  refine ⟨⟨?_, hresult, by decide +kernel, ?_, by decide +kernel⟩, ?_, by decide +kernel⟩
  · exact hbudget.spent _ _ _ _ _ _ _ ht
  · refine hbudget.unharmed calm newProject unwritten.answers
      (.cluster (some 503) "unavailable") _ id ?_
    rw [← hresult]
    exact ht
  · intro i hi
    obtain ⟨_, _, -, hi, -⟩ := runs_volumeStory.invocation hi
    exact hvolumes.spent _ _ _ _ _ _ _ hi

end CloudReconciler
