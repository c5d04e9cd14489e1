import CloudReconciler.Proofs.Reconcile.FinalizerGuard

/-! # Creation — one remote resource for one object

    The request that creates a remote resource is sent in one phase.  Its
    success and the identifier of the resource are recorded in one status
    write, which also leaves the phase, and no edge leads back to it.  So a
    second creation succeeds only when the outcome of the first was lost on
    the way to that write: its body could not be read, or the write failed.

    * `creations`: the bodies that creations were answered with;
    * `Invocation.losesCreation`: the outcome of a creation is lost;
    * `Begets`: what a decision makes of a creation;
    * `CreatesOnce`: what a run does about creations. -/

namespace CloudReconciler

/-! ## Answers to creations -/

section

variable {O : Type}

/-- The answer is to a request. -/
def EngineAnswer.IsRequest (a : EngineAnswer O) : Prop :=
  ∃ request : Request, a.call = .remote (.send request)

/-- The answer is to a request that creates a remote resource. -/
def EngineAnswer.IsCreate (a : EngineAnswer O) : Prop :=
  ∃ request : Request, a.call = .remote (.send request) ∧ request.method = "POST"

/-- The body of the success that a creation was answered with.  A reply that comes after the
    cancellation is no answer. -/
def EngineAnswer.creation? : EngineAnswer O → Option (List UInt8)
  | ⟨.remote (.send request), .reply (.ok reply), _, _⟩ =>
      if request.method = "POST" && Reply.isSuccess reply.status then some reply.body else none
  | _ => none

/-- The answer is the refusal of a status write. -/
def EngineAnswer.refusesStatus : EngineAnswer O → Bool
  | ⟨.updateStatus _, .error _, _, _⟩ => true
  | _ => false

/-- A reading of the clock. -/
def EngineAnswer.clock? : EngineAnswer O → Option Instant
  | ⟨.now, t, _, _⟩ => some t
  | _ => none

/-- The bodies of successful creations among the answers, oldest first. -/
def creationsOf (τ : List (EngineAnswer O)) : List (List UInt8) :=
  τ.filterMap EngineAnswer.creation?

/-- The bodies of successful creations in an invocation, newest first. -/
def Invocation.creations (i : Invocation O) : List (List UInt8) := (creationsOf i.answers).reverse

/-- The bodies of successful creations in a history, newest first. -/
def creations (h : List (Invocation O)) : List (List UInt8) := h.flatMap Invocation.creations

/-- A creation has succeeded, but its body cannot be read or the status write after it failed. -/
def Invocation.losesCreation (read : List UInt8 → Outcome Creation) (i : Invocation O) : Bool :=
  i.creations.any fun body => !(read body).isOk || i.answers.any EngineAnswer.refusesStatus

/-- The answers of a history, oldest first. -/
def answersOf (h : List (Invocation O)) : List (EngineAnswer O) :=
  h.reverse.flatMap Invocation.answers

theorem creationsOf_append (τ τ' : List (EngineAnswer O)) :
    creationsOf (τ ++ τ') = creationsOf τ ++ creationsOf τ' := List.filterMap_append

theorem answersOf_cons (i : Invocation O) (h : List (Invocation O)) :
    answersOf (i :: h) = answersOf h ++ i.answers := by
  rw [answersOf, List.reverse_cons, List.flatMap_append, List.flatMap_singleton]
  rfl

theorem length_creations_cons (i : Invocation O) (h : List (Invocation O)) :
    (creations (i :: h)).length = (creationsOf i.answers).length + (creations h).length := by
  rw [creations, List.flatMap_cons, List.length_append, Invocation.creations, List.length_reverse]
  rfl

/-- Only creations are answered as creations. -/
theorem EngineAnswer.isCreate_of_creation? {a : EngineAnswer O} {body : List UInt8}
    (h : a.creation? = some body) : a.IsCreate := by
  obtain ⟨call, reply, before, after⟩ := a
  cases call with
  | now | authenticate _ | fetch _ _ | fetchProject _ _ | update _ | updateStatus _ =>
      exact nomatch h
  | remote c =>
      cases c with
      | isCancelled => exact nomatch h
      | send request =>
          rcases reply with (f | reply) | late
          · exact nomatch h
          · change (if _ && _ then _ else _) = _ at h
            split at h
            · next hs => exact ⟨request, rfl, of_decide_eq_true (Bool.and_eq_true_iff.1 hs).1⟩
            · exact nomatch h
          · exact nomatch h

theorem EngineAnswer.not_isRequest {a : EngineAnswer O}
    (h : ∀ request, a.call ≠ .remote (.send request)) : ¬ a.IsRequest := by
  rintro ⟨request, hcall⟩
  exact h request hcall

theorem EngineAnswer.IsCreate.isRequest {a : EngineAnswer O} (h : a.IsCreate) : a.IsRequest := by
  obtain ⟨request, hcall, -⟩ := h
  exact ⟨request, hcall⟩

theorem EngineAnswer.not_isCreate {a : EngineAnswer O}
    (h : ∀ request, a.call ≠ .remote (.send request)) : ¬ a.IsCreate := fun hc =>
  not_isRequest h hc.isRequest

theorem creationsOf_eq_nil {τ : List (EngineAnswer O)} (h : ∀ a ∈ τ, ¬ a.IsCreate) :
    creationsOf τ = [] := by
  refine List.filterMap_eq_nil_iff.2 fun a ha => ?_
  cases hc : a.creation? with
  | none => rfl
  | some body => exact absurd (EngineAnswer.isCreate_of_creation? hc) (h a ha)

/-- A creation whose body cannot be read, or which is followed by a failed write, is lost. -/
theorem Invocation.losesCreation_of {read : List UInt8 → Outcome Creation} {i : Invocation O}
    {body : List UInt8} (hbody : creationsOf i.answers = [body])
    (hwhy : (∃ f, read body = .error f) ∨ i.answers.any EngineAnswer.refusesStatus = true) :
    i.losesCreation read = true := by
  rw [losesCreation, creations, hbody, List.reverse_singleton, List.any_cons, List.any_nil,
    Bool.or_false]
  rcases hwhy with ⟨f, hf⟩ | hrefused
  · rw [hf]
    rfl
  · rw [hrefused, Bool.or_true]

/-- An invocation that creates nothing, or loses what it creates. -/
theorem length_creations_le_lost {read : List UInt8 → Outcome Creation} {i : Invocation O}
    {h : List (Invocation O)} (hlost : (creations h).length ≤ h.countP (·.losesCreation read))
    (hi : creationsOf i.answers = [] ∨ ∃ body, creationsOf i.answers = [body] ∧
      ((∃ f, read body = .error f) ∨ i.answers.any EngineAnswer.refusesStatus = true)) :
    (creations (i :: h)).length ≤ (i :: h).countP (·.losesCreation read) := by
  rw [length_creations_cons]
  rcases hi with hnil | ⟨body, hbody, hwhy⟩
  · rw [hnil, List.length_nil, Nat.zero_add]
    exact Nat.le_trans hlost (List.sublist_cons_self i h).countP_le
  · rw [hbody, List.length_singleton, List.countP_cons,
      if_pos (Invocation.losesCreation_of hbody hwhy)]
    omega

/-- Nothing that is recorded in the first part of a list meets a creation in the second. -/
theorem pairwise_append_of_not {α : Type} {P Q : α → Prop} {l l' : List α}
    (hP : ∀ a ∈ l, ¬ P a) (hQ : ∀ b ∈ l', ¬ Q b) :
    (l ++ l').Pairwise fun a b => P a → ¬ Q b := by
  refine List.pairwise_append.2 ⟨?_, ?_, fun a ha _ _ hp => absurd hp (hP a ha)⟩
  · exact List.pairwise_of_forall_mem_list fun a ha _ _ hp => absurd hp (hP a ha)
  · exact List.pairwise_of_forall_mem_list fun _ _ b hb _ => hQ b hb

end

/-! ## Phases before and after creation -/

/-- Nothing has been created yet. -/
def Phase.IsPending (p : Phase) : Prop := p = .uninitialized ∨ p = .creating

/-- The remote resource has been created. -/
def Phase.HasRemote (p : Phase) : Prop := p = .provisioning ∨ p = .created ∨ p = .updating

instance (p : Phase) : Decidable p.IsPending := inferInstanceAs (Decidable (_ ∨ _))

instance (p : Phase) : Decidable p.HasRemote := inferInstanceAs (Decidable (_ ∨ _ ∨ _))

section

variable {storeFault : Fault → Prop} {provisions marked : Prop} {p : Phase} {t : Transition}

/-- No transition leads back to the phases before creation. -/
theorem Departs.isPending (h : Departs storeFault provisions marked p t)
    (ht : t.phase.IsPending) : p.IsPending := by
  cases h with
  | initialized | unguarded _ => exact .inl rfl
  | created _ => exact .inr rfl
  | @fault p f hp =>
      obtain ⟨-, hphase | ⟨hphase, -⟩⟩ := Transition.ofFault_spec p f
      · exact hphase ▸ ht
      · rw [hphase] at ht
        exact absurd ht (by decide)
  | @polled state _ =>
      rcases Transition.ofPoll_cases state with he | he | ⟨_, he⟩
      all_goals
        rw [he] at ht
        exact ht.elim (fun h => nomatch h) fun h => nomatch h
  | updated | drifted | timedOut _ | marked _ _ _ =>
      exact ht.elim (fun h => nomatch h) fun h => nomatch h

/-- A creation that is recorded leads to a phase after it. -/
theorem Transition.hasRemote_ofCreation (state : Option String) :
    (Transition.ofCreation state).phase.HasRemote := by
  rcases Transition.ofCreation_cases state with ht | ⟨ht, -⟩
  · rw [ht]
    decide
  · rw [ht]
    decide

theorem Phase.HasRemote.not_isPending (h : p.HasRemote) : ¬ p.IsPending := by
  rcases h with rfl | rfl | rfl
  all_goals decide

theorem Phase.not_hasRemote_failed : ¬ Phase.failed.HasRemote := by
  decide

/-- A fault does not lead to a phase after creation. -/
theorem Transition.not_hasRemote_ofFault {f : Fault} (hp : ¬ p.HasRemote) :
    ¬ (Transition.ofFault p f).phase.HasRemote := by
  obtain ⟨-, hphase | ⟨hphase, -⟩⟩ := Transition.ofFault_spec p f
  · rwa [hphase]
  · rw [hphase]
    exact Phase.not_hasRemote_failed

end

variable {Spec St : Type} [Managed Spec St]

/-- The answer is to a status write that has recorded the identifier of a remote resource. -/
def EngineAnswer.RecordsId (a : EngineAnswer (Resource Spec St)) : Prop :=
  ∃ (p n : Resource Spec St) (w w₁ : Slot (Resource Spec St)),
    a = ⟨.updateStatus p, .ok n, w, w₁⟩ ∧ p.recordOrBlank.resourceId ≠ none

theorem EngineAnswer.not_recordsId {a : EngineAnswer (Resource Spec St)}
    (h : ∀ p, a.call ≠ .updateStatus p) : ¬ a.RecordsId := by
  rintro ⟨p, n, w, w₁, rfl, -⟩
  exact h p rfl

/-- The replies to creations of a kind are read by the given function. -/
def RemoteCalls.Reads (c : RemoteCalls Spec St) (read : List UInt8 → Outcome Creation) : Prop :=
  ∀ o, ∃ endpoint, c.create o = .send "POST" endpoint (some (c.document o)) read

theorem projectCalls_reads : projectCalls.Reads projectCreation := fun _ => ⟨_, rfl⟩

theorem volumeCalls_reads : volumeCalls.Reads volumeCreation := fun _ => ⟨_, rfl⟩

/-- What a run does about creations. -/
structure CreatesOnce (policy : Policy) (read : List UInt8 → Outcome Creation)
    (h : List (Invocation (Resource Spec St))) : Prop where
  /-- A creation is repeated only when the outcome of the one before was lost. -/
  bounded : (creations h).length ≤ 1 + h.countP (·.losesCreation read)
  /-- After an identifier has been recorded, no creation is sent. -/
  recorded : (answersOf h).Pairwise fun a b => a.RecordsId → ¬ b.IsCreate
  /-- A creation is sent for an object that is in the phase of creation, is not marked for deletion
      and is not past the timeout when the clock is first read. -/
  timely : ∀ i ∈ h, ∀ pre a post, i.answers = pre ++ a :: post → a.IsCreate →
    ∃ o start now, i.before = some o ∧ o.phase = .creating ∧ o.metadata.isMarked = false ∧
      o.recordOrBlank.phaseStart = some start ∧
      (pre.filterMap EngineAnswer.clock?).head? = some now ∧ now.elapsed start ≤ policy.timeout

/-! ## One invocation -/

/-- What a decision makes of the creations it was answered: it moves the object that was read, or
    the one that was just created. -/
inductive Begets (read : List UInt8 → Outcome Creation) (c : RemoteCalls Spec St)
    (o p : Resource Spec St) (t : Transition) : List (List UInt8) → Prop
  | unborn {bodies} :
      (bodies = [] ∨ o.phase = .creating ∧ ∃ body f, bodies = [body] ∧ read body = .error f) →
      p.recordOrBlank = o.recordOrBlank → (o.phase ≠ .creating → p.status = o.status) →
      (t.phase.HasRemote → o.phase.HasRemote) → Begets read c o p t bodies
  | born {body r q} : o.phase = .creating → read body = .ok r → (c.placement o).Gives q →
      p = q.named r.id → t = .ofCreation r.state → Begets read c o p t [body]

section

variable {s : Setting (Resource Spec St)} {k : Circumstances} {key : ObjectKey} {policy : Policy}
  {g : Gateway} {c : RemoteCalls Spec St} {o p : Resource Spec St}
  {w w₁ : Slot (Resource Spec St)} {τ : List (EngineAnswer (Resource Spec St))}
  {t : Transition} {urgent : Bool} {result : Outcome Action}
  {read : List UInt8 → Outcome Creation}

/-- A creation comes to what its body is read as, or it was not answered by a success. -/
theorem Asked.creations {α : Type} {endpoint : String} {body : Option Json}
    {read : List UInt8 → Outcome α} {r : Outcome α}
    (h : Asked k g (.send "POST" endpoint body read) w τ r w₁) :
    (creationsOf τ = [] ∧ ∃ f, r = .error f) ∨
      ∃ bytes, creationsOf τ = [bytes] ∧ r = read bytes := by
  cases h with
  | unconfigured => exact .inl ⟨rfl, _, rfl⟩
  | cancelled _ => exact .inl ⟨rfl, _, rfl⟩
  | @sent _ _ _ _ _ w₂ _ wake _ _ =>
      rcases wake with (f | reply) | late
      · exact .inl ⟨rfl, _, rfl⟩
      · by_cases hs : Reply.isSuccess reply.status = true
        · refine .inr ⟨reply.body, ?_, ?_⟩
          · have hcreation : EngineAnswer.creation? (.aside
                (.remote (.send (g.request "POST" endpoint body))) (.reply (.ok reply)) w₂ :
                  EngineAnswer (Resource Spec St)) = some reply.body := by
              show (if _ && Reply.isSuccess reply.status then some _ else none) = _
              rw [hs]
              rfl
            rw [creationsOf, List.filterMap_cons_none rfl, List.filterMap_cons_some hcreation]
            rfl
          · show reply.body? "POST" >>= read = read reply.body
            rw [Reply.body?, hs]
            rfl
        · rw [Bool.not_eq_true] at hs
          refine .inl ⟨?_, ?_⟩
          · have hcreation : EngineAnswer.creation? (.aside
                (.remote (.send (g.request "POST" endpoint body))) (.reply (.ok reply)) w₂ :
                  EngineAnswer (Resource Spec St)) = none := by
              show (if _ && Reply.isSuccess reply.status then some _ else none) = _
              rw [hs, Bool.and_false]
              rfl
            rw [creationsOf, List.filterMap_cons_none rfl, List.filterMap_cons_none hcreation]
            rfl
          · show ∃ f, reply.body? "POST" >>= read = .error f
            cases hbody : reply.body? "POST" with
            | error f => exact ⟨f, rfl⟩
            | ok bytes =>
                rcases Reply.isSuccess_or_isGone hbody with hsuccess | hgone
                · rw [hs] at hsuccess
                  exact Bool.noConfusion hsuccess
                · have hpost : Reply.isGone "POST" reply.status = false := rfl
                  rw [hpost] at hgone
                  exact Bool.noConfusion hgone
      · exact .inl ⟨rfl, _, rfl⟩

theorem Located.creationsOf_eq_nil {q : Placement (Resource Spec St)}
    {r : Outcome (Resource Spec St)} (h : Located k q w τ r w₁) : creationsOf τ = [] := by
  cases h with
  | here => rfl
  | found _ => rfl

theorem Timed.creationsOf_eq_nil {up : Bool} (h : Timed k policy o w τ up w₁) :
    creationsOf τ = [] := by
  cases h with
  | untimed _ => rfl
  | within _ _ _ _ => rfl
  | up _ _ _ _ => rfl

/-- Outside of its phase, no creation is answered. -/
theorem Performs.creationsOf_eq_nil (h : ∀ a ∈ τ, Performs k g c o a) (hp : o.phase ≠ .creating) :
    creationsOf τ = [] := by
  refine CloudReconciler.creationsOf_eq_nil fun a ha => ?_
  rintro ⟨request, hcall, hpost⟩
  exact hp ((Involves.decided (h a ha)).creates hcall hpost).1

theorem Serves.begets (h : Serves k key g c o w τ (.move t p urgent) w₁) (hread : c.Reads read)
    (hkey : o.key = key) (hw : w.Shows k o) : Begets read c o p t (creationsOf τ) := by
  have hquiet : o.phase ≠ .creating → creationsOf τ = [] :=
    Performs.creationsOf_eq_nil (h.performs hkey hw)
  cases h with
  | guarded hp _ => exact .unborn (.inl rfl) rfl (fun _ => rfl) fun ht => absurd ht (by decide)
  | guard hp _ hr _ =>
      obtain ⟨-, -, hs, -⟩ := hw.replaced hr hkey rfl
      exact .unborn (.inl rfl) (Resource.recordOrBlank_congr hs) (fun _ => hs)
        fun ht => absurd ht (by decide)
  | unguarded hp _ _ _ =>
      exact .unborn (.inl rfl) rfl (fun _ => rfl)
        fun ht => absurd ht (Transition.not_hasRemote_ofFault (by decide))
  | unplaced hp hl =>
      exact .unborn (.inl hl.creationsOf_eq_nil) rfl (fun _ => rfl)
        fun ht => absurd ht (Transition.not_hasRemote_ofFault (by decide))
  | uncreated hp hl ha =>
      obtain ⟨endpoint, hcreate⟩ := hread p
      rw [hcreate] at ha
      rw [creationsOf_append, hl.creationsOf_eq_nil, List.nil_append]
      refine .unborn ?_ (c.placed o p hl.gives).record (fun hne => absurd hp hne)
        fun ht => absurd ht (Transition.not_hasRemote_ofFault (by decide))
      rcases ha.creations with ⟨hnil, -⟩ | ⟨body, hbody, hf⟩
      · exact .inl hnil
      · exact .inr ⟨hp, body, _, hbody, hf.symm⟩
  | @created _ q _ _ _ r hp hl ha =>
      obtain ⟨endpoint, hcreate⟩ := hread q
      rw [hcreate] at ha
      rw [creationsOf_append, hl.creationsOf_eq_nil, List.nil_append]
      rcases ha.creations with ⟨-, f, hf⟩ | ⟨body, hbody, hr⟩
      · exact nomatch hf
      · rw [hbody]
        exact .born hp hr.symm hl.gives rfl rfl
  | polled hp _ _ =>
      exact .unborn (.inl (hquiet fun hc => nomatch hp.symm.trans hc)) rfl (fun _ => rfl)
        fun _ => .inl hp
  | pushed hp _ =>
      exact .unborn (.inl (hquiet fun hc => nomatch hp.symm.trans hc)) rfl (fun _ => rfl)
        fun _ => .inr (.inr hp)
  | drifted hp _ => exact .unborn (.inl rfl) rfl (fun _ => rfl) fun _ => .inr (.inl hp)
  | unremoved hp _ =>
      exact .unborn (.inl (hquiet fun hc => nomatch hp.symm.trans hc)) rfl (fun _ => rfl)
        fun ht => absurd ht (Transition.not_hasRemote_ofFault (by decide))
  | unreleased hp _ _ _ _ _ =>
      exact .unborn (.inl (hquiet fun hc => nomatch hp.symm.trans hc)) rfl (fun _ => rfl)
        fun ht => absurd ht (Transition.not_hasRemote_ofFault (by decide))

theorem Decides.begets (h : Decides k key policy g c o w τ (.move t p urgent) w₁)
    (hread : c.Reads read) (hkey : o.key = key) (hw : w.Shows k o) :
    Begets read c o p t (creationsOf τ) := by
  cases h with
  | timedOut ht =>
      exact .unborn (.inl ht.creationsOf_eq_nil) rfl (fun _ => rfl)
        fun ht => absurd ht Phase.not_hasRemote_failed
  | marked ht _ _ _ =>
      exact .unborn (.inl ht.creationsOf_eq_nil) rfl (fun _ => rfl) fun ht => absurd ht (by decide)
  | served ht _ hs =>
      rw [creationsOf_append, ht.creationsOf_eq_nil, List.nil_append]
      exact hs.begets hread hkey (ht.shows hw)

/-- An object that is left to rest is not in the phase of creation. -/
theorem Decides.ne_creating_of_rest (h : Decides k key policy g c o w τ (.rest p) w₁) :
    o.phase ≠ .creating := by
  cases h with
  | served _ _ hs =>
      intro hc
      cases hs with
      | unpolled hp | current hp | removed hp | released hp | gone hp =>
          exact nomatch hc.symm.trans hp
      | ended hp => exact hp.elim (fun hp => nomatch hc.symm.trans hp) fun hp =>
          nomatch hc.symm.trans hp

/-- What an invocation that has read the object makes of the creations it was answered. -/
inductive CreationOutcome (k : Circumstances) (read : List UInt8 → Outcome Creation)
    (c : RemoteCalls Spec St) (o : Resource Spec St) (τ : List (EngineAnswer (Resource Spec St)))
    (w : Slot (Resource Spec St)) : Prop
  /-- No status is written, so a creation is lost. -/
  | unwritten : (∀ a ∈ τ, ¬ a.RecordsId) → w.Keeps k o o.status →
      (creationsOf τ = [] ∨ o.phase = .creating ∧ ∃ body, creationsOf τ = [body] ∧
        ((∃ f, read body = .error f) ∨ τ.any EngineAnswer.refusesStatus = true)) →
      CreationOutcome k read c o τ w
  /-- The status is written with the transition of what a decision makes of them. -/
  | written {t p now} : Departs k.storeFault c.provisions (o.metadata.isMarked = true) o.phase t →
      Begets read c o p t (creationsOf τ) →
      (∀ a ∈ τ, a.RecordsId → p.recordOrBlank.resourceId ≠ none) →
      w.Keeps k o (t.recorded now p).status → CreationOutcome k read c o τ w

theorem Performs.not_recordsId {a : EngineAnswer (Resource Spec St)} (h : Performs k g c o a) :
    ¬ a.RecordsId :=
  EngineAnswer.not_recordsId fun p hp => h.not_isStatusWrite ⟨p, hp⟩

/-- The status write that follows a creation never waits. -/
theorem Begets.of_deferred {bodies : List (List UInt8)} {wait : Duration} {now : Instant}
    (h : Begets read c o p t bodies) (hd : t.deferral? policy now p = some wait) :
    bodies = [] ∨ o.phase = .creating ∧ ∃ body f, bodies = [body] ∧ read body = .error f := by
  cases h with
  | unborn hbodies _ _ _ => exact hbodies
  | @born _ r q hp _ hq hnamed ht =>
      subst hnamed ht
      -- the phase after the creation is another one
      have hphase : (q.named r.id).phase = .creating := by
        obtain ⟨_, hid⟩ := ((c.placed o q hq).continues.named r.id).record
        rw [Resource.phase, hid]
        exact hp
      have hne : ¬ ((Transition.ofCreation r.state).requeue = true ∧
          (Transition.ofCreation r.state).phase = (q.named r.id).phase) := by
        rintro ⟨-, hsame⟩
        have hremote := Transition.hasRemote_ofCreation r.state
        rw [hsame, hphase] at hremote
        exact hremote.not_isPending (.inr rfl)
      rw [Transition.deferral?, if_neg hne] at hd
      cases hd

/-- No two creations are answered on the way to one decision. -/
theorem Begets.bodies_cases {bodies : List (List UInt8)} (h : Begets read c o p t bodies) :
    bodies = [] ∨ o.phase = .creating ∧ ∃ body, bodies = [body] := by
  cases h with
  | unborn hbodies _ _ _ =>
      rcases hbodies with hnil | ⟨hp, body, f, hbody, -⟩
      · exact .inl hnil
      · exact .inr ⟨hp, body, hbody⟩
  | born hp _ _ _ _ => exact .inr ⟨hp, _, rfl⟩

/-- Reading the object and authenticating its tenant make nothing of creations. -/
theorem CreationOutcome.cons {a : EngineAnswer (Resource Spec St)}
    (h : CreationOutcome k read c o τ w) (hcreation : a.creation? = none)
    (hrecords : ¬ a.RecordsId) : CreationOutcome k read c o (a :: τ) w := by
  have hsame : creationsOf (a :: τ) = creationsOf τ := List.filterMap_cons_none hcreation
  cases h with
  | unwritten hnot hkeeps hlost =>
      refine .unwritten (List.forall_mem_cons.2 ⟨hrecords, hnot⟩) hkeeps ?_
      rw [hsame, List.any_cons]
      refine hlost.imp id fun ⟨hp, body, hbody, hwhy⟩ =>
        ⟨hp, body, hbody, hwhy.imp id fun hany => ?_⟩
      rw [hany, Bool.or_true]
  | written hdeparts hbegets hid hkeeps =>
      refine .written hdeparts (hsame ▸ hbegets) (fun b hb hrec => ?_) hkeeps
      rcases List.mem_cons.1 hb with rfl | hb
      · exact absurd hrec hrecords
      · exact hid b hb hrec

theorem Decides.creationOutcome {d : Decision (Resource Spec St)}
    {τ' : List (EngineAnswer (Resource Spec St))} {w₀ : Slot (Resource Spec St)}
    (h : Decides k key policy g c o w₀ τ d w₁) (hset : Settles k key policy d w₁ τ' result w)
    (hread : c.Reads read) (hkey : o.key = key) (hw : w₀.Shows k o) :
    CreationOutcome k read c o (τ ++ τ') w := by
  have hkeeps := h.keeps hkey hw
  have hnot : ∀ a ∈ τ, ¬ a.RecordsId := fun a ha => (h.performs hkey hw a ha).not_recordsId
  have hclock : ∀ (now : Instant) (w : Slot (Resource Spec St)),
      ¬ (EngineAnswer.aside .now now w).RecordsId :=
    fun _ _ => EngineAnswer.not_recordsId fun _ hp => nomatch hp
  have hquiet : ∀ τ', creationsOf τ' = [] → creationsOf (τ ++ τ') = creationsOf τ := by
    intro τ' hnil
    rw [creationsOf_append, hnil, List.append_nil]
  cases hset with
  | rest =>
      rw [List.append_nil]
      have hnil := Performs.creationsOf_eq_nil (h.performs hkey hw) h.ne_creating_of_rest
      exact .unwritten hnot hkeeps (.inl hnil)
  | deferred hdef hd =>
      refine .unwritten ?_ (hkeeps.drifts hd) ?_
      · exact List.forall_mem_append.2 ⟨hnot, List.forall_mem_singleton.2 (hclock _ _)⟩
      · rw [hquiet _ rfl]
        refine ((h.begets hread hkey hw).of_deferred hdef).imp id ?_
        rintro ⟨hp, body, f, hbody, hf⟩
        exact ⟨hp, body, hbody, .inl ⟨f, hf⟩⟩
  | refused _ hd hwrite hd' =>
      cases hwrite.error ((h.continues hkey hw).key.trans hkey)
      refine .unwritten ?_ ((hkeeps.drifts hd).drifts hd') ?_
      · refine List.forall_mem_append.2 ⟨hnot, List.forall_mem_cons.2 ⟨hclock _ _, ?_⟩⟩
        refine List.forall_mem_singleton.2 ?_
        rintro ⟨_, _, _, _, ha, -⟩
        exact nomatch ha
      · rw [hquiet _ rfl]
        refine (h.begets hread hkey hw).bodies_cases.imp id ?_
        rintro ⟨hp, body, hbody⟩
        refine ⟨hp, body, hbody, .inr ?_⟩
        rw [List.any_append]
        exact Bool.or_true _
  | written _ hd hwrite hd' =>
      have hp := (h.continues hkey hw).key.trans hkey
      refine .written (h.departs hkey) ?_ ?_ (((hkeeps.drifts hd).written hwrite hp).drifts hd')
      · rw [hquiet _ rfl]
        exact h.begets hread hkey hw
      · intro a ha hrec
        rcases List.mem_append.1 ha with ha | ha
        · exact absurd hrec (hnot a ha)
        · rcases List.mem_cons.1 ha with rfl | ha
          · exact absurd hrec (hclock _ _)
          · cases List.mem_singleton.1 ha
            obtain ⟨_, _, _, _, heq, hid⟩ := hrec
            cases heq
            rw [Resource.recordOrBlank_recorded] at hid
            exact hid

/-- A decision moves the record that was read, unless the object was being created. -/
theorem Begets.record_or_creating {bodies : List (List UInt8)} (h : Begets read c o p t bodies) :
    p.recordOrBlank = o.recordOrBlank ∨ o.phase = .creating := by
  cases h with
  | unborn _ hrecord _ _ => exact .inl hrecord
  | born hp _ _ _ _ => exact .inr hp

theorem Invokes.creationOutcome (h : Invokes s k key c (some o) τ result w)
    (hread : c.Reads read) (hkey : o.key = key) : CreationOutcome k read c o τ w := by
  have hfetch : ∀ (reply : Outcome (Option (Resource Spec St))) (w : Slot (Resource Spec St)),
      ¬ (EngineAnswer.aside (.fetch key.1 key.2) reply w).RecordsId :=
    fun _ _ => EngineAnswer.not_recordsId fun _ hp => nomatch hp
  have hauth : ∀ (tenant : String) (reply : Outcome String) (w : Slot (Resource Spec St)),
      ¬ (EngineAnswer.aside (.authenticate tenant) reply w).RecordsId :=
    fun _ _ _ => EngineAnswer.not_recordsId fun _ hp => nomatch hp
  have hidle : ∀ {w}, w.Keeps k o o.status → CreationOutcome k read c o [] w := fun hkeeps =>
    .unwritten (fun a ha => nomatch ha) hkeeps (.inl rfl)
  cases h with
  | unread _ hd => exact (hidle (Slot.Shows.untouched.drifts hd).keeps).cons rfl (hfetch _ _)
  | tenantless _ _ hd => exact (hidle (Slot.Shows.untouched.drifts hd).keeps).cons rfl (hfetch _ _)
  | unauthenticated hd hd' =>
      have hkeeps := ((Slot.Shows.untouched.drifts hd).drifts hd').keeps
      exact ((hidle hkeeps).cons rfl (hauth _ _ _)).cons rfl (hfetch _ _)
  | decided _ hd₀ hd₁ hdec hset =>
      have hshows := (Slot.Shows.untouched.drifts hd₀).drifts hd₁
      have houtcome := hdec.creationOutcome hset hread hkey hshows
      exact (houtcome.cons rfl (hauth _ _ _)).cons rfl (hfetch _ _)

/-- Reading the clock asks nothing of the remote API. -/
theorem Timed.not_isRequest {up : Bool} (h : Timed k policy o w τ up w₁) :
    ∀ a ∈ τ, ¬ a.IsRequest := by
  cases h with
  | untimed _ => exact fun a ha => nomatch ha
  | within _ _ _ _ =>
      exact List.forall_mem_singleton.2 (EngineAnswer.not_isRequest fun _ hc => nomatch hc)
  | up _ _ _ _ =>
      exact List.forall_mem_singleton.2 (EngineAnswer.not_isRequest fun _ hc => nomatch hc)

/-- Carrying out a decision asks nothing of the remote API. -/
theorem Settles.not_isRequest {d : Decision (Resource Spec St)}
    (h : Settles k key policy d w τ result w₁) : ∀ a ∈ τ, ¬ a.IsRequest := by
  have hclock : ∀ (now : Instant) (w : Slot (Resource Spec St)),
      ¬ (EngineAnswer.aside .now now w).IsRequest := fun _ _ =>
    EngineAnswer.not_isRequest fun _ hc => nomatch hc
  cases h with
  | rest => exact fun a ha => nomatch ha
  | deferred _ _ => exact List.forall_mem_singleton.2 (hclock _ _)
  | written _ _ _ _ =>
      refine List.forall_mem_cons.2 ⟨hclock _ _, List.forall_mem_singleton.2 ?_⟩
      exact EngineAnswer.not_isRequest fun _ hc => nomatch hc
  | refused _ _ _ _ =>
      refine List.forall_mem_cons.2 ⟨hclock _ _, List.forall_mem_singleton.2 ?_⟩
      exact EngineAnswer.not_isRequest fun _ hc => nomatch hc

/-- An invocation sends creations before it records an identifier. -/
theorem Invokes.pairwise_records (h : Invokes s k key c (some o) τ result w) (hkey : o.key = key) :
    τ.Pairwise fun a b => a.RecordsId → ¬ b.IsCreate := by
  cases h with
  | unread _ _ => exact List.pairwise_singleton ..
  | tenantless _ _ _ => exact List.pairwise_singleton ..
  | unauthenticated _ _ =>
      refine List.pairwise_cons.2 ⟨fun b hb _ => ?_, List.pairwise_singleton ..⟩
      cases List.mem_singleton.1 hb
      exact EngineAnswer.not_isCreate (fun _ hc => nomatch hc)
  | decided _ hd₀ hd₁ hdec hset =>
      have hshows := (Slot.Shows.untouched.drifts hd₀).drifts hd₁
      have hcut := pairwise_append_of_not
        (fun a ha => (hdec.performs hkey hshows a ha).not_recordsId)
        (fun b hb (hc : b.IsCreate) => hset.not_isRequest b hb hc.isRequest)
      refine List.pairwise_cons.2
        ⟨fun b _ hrec => ?_, List.pairwise_cons.2 ⟨fun b _ hrec => ?_, hcut⟩⟩
      · exact absurd hrec (EngineAnswer.not_recordsId fun _ hp => nomatch hp)
      · exact absurd hrec (EngineAnswer.not_recordsId fun _ hp => nomatch hp)

/-- What is found in a list behind a first element that is something else. -/
theorem exists_tail_of_append {α : Type} {P : α → Prop} {x a : α} {rest pre post : List α}
    (h : x :: rest = pre ++ a :: post) (hx : ¬ P x) (ha : P a) :
    ∃ pre', pre = x :: pre' ∧ rest = pre' ++ a :: post := by
  cases pre with
  | nil =>
      obtain ⟨rfl, -⟩ := List.cons.inj h
      exact absurd ha hx
  | cons y pre' =>
      obtain ⟨rfl, hrest⟩ := List.cons.inj h
      exact ⟨pre', rfl, hrest⟩

/-- A creation is sent in time, and not for an object that is marked for deletion. -/
theorem Invokes.timely (h : Invokes s k key c (some o) τ result w) (hkey : o.key = key)
    (hstart : o.phase = .creating → o.recordOrBlank.phaseStart.isSome)
    {pre post : List (EngineAnswer (Resource Spec St))} {a : EngineAnswer (Resource Spec St)}
    (hτ : τ = pre ++ a :: post) (ha : a.IsCreate) :
    ∃ start now, o.phase = .creating ∧ o.metadata.isMarked = false ∧
      o.recordOrBlank.phaseStart = some start ∧
      (pre.filterMap EngineAnswer.clock?).head? = some now ∧
      now.elapsed start ≤ s.policy.timeout := by
  have hp : o.phase = .creating := by
    have hmem : a ∈ τ := hτ ▸ List.mem_append_right _ (List.mem_cons_self ..)
    obtain ⟨request, hcall, hpost⟩ := ha
    exact ((h.involves hkey a hmem).creates hcall hpost).1
  obtain ⟨start, hs⟩ := Option.isSome_iff_exists.1 (hstart hp)
  cases h with
  | unread _ _ =>
      obtain ⟨pre', -, hnil⟩ :=
        exists_tail_of_append hτ (EngineAnswer.not_isCreate fun _ hc => nomatch hc) ha
      exact absurd hnil (List.append_ne_nil_of_right_ne_nil _ (List.cons_ne_nil _ _)).symm
  | tenantless _ _ _ =>
      obtain ⟨pre', -, hnil⟩ :=
        exists_tail_of_append hτ (EngineAnswer.not_isCreate fun _ hc => nomatch hc) ha
      exact absurd hnil (List.append_ne_nil_of_right_ne_nil _ (List.cons_ne_nil _ _)).symm
  | unauthenticated _ _ =>
      obtain ⟨pre₁, -, hτ₁⟩ :=
        exists_tail_of_append hτ (EngineAnswer.not_isCreate fun _ hc => nomatch hc) ha
      obtain ⟨pre₂, -, hnil⟩ :=
        exists_tail_of_append hτ₁ (EngineAnswer.not_isCreate fun _ hc => nomatch hc) ha
      exact absurd hnil (List.append_ne_nil_of_right_ne_nil _ (List.cons_ne_nil _ _)).symm
  | @decided _ _ _ _ τ₁ _ _ τ₂ _ _ _ _ _ hdec hset =>
      obtain ⟨pre₁, rfl, hτ₁⟩ :=
        exists_tail_of_append hτ (EngineAnswer.not_isCreate fun _ hc => nomatch hc) ha
      obtain ⟨pre₂, rfl, hτ₂⟩ :=
        exists_tail_of_append hτ₁ (EngineAnswer.not_isCreate fun _ hc => nomatch hc) ha
      have hmem : a ∈ τ₁ ++ τ₂ := hτ₂ ▸ List.mem_append_right _ (List.mem_cons_self ..)
      have hserved : a ∈ τ₁ :=
        (List.mem_append.1 hmem).resolve_right fun hlate =>
          hset.not_isRequest a hlate ha.isRequest
      cases hdec with
      | timedOut ht => exact absurd ha.isRequest (ht.not_isRequest a hserved)
      | marked ht _ _ _ => exact absurd ha.isRequest (ht.not_isRequest a hserved)
      | served ht hmark _ =>
          have hunmarked : o.metadata.isMarked = false := by
            rw [← Bool.not_eq_true]
            intro hm
            exact (hmark hm).elim (fun hd => nomatch hp.symm.trans hd)
              fun hf => nomatch hp.symm.trans hf
          cases ht with
          | untimed hnever =>
              have hnot := hnever start hs
              rw [hp] at hnot
              exact nomatch hnot
          | @within _ _ _ now hs' _ hle _ =>
              cases hs.symm.trans hs'
              obtain ⟨pre₃, rfl, -⟩ :=
                exists_tail_of_append hτ₂ (EngineAnswer.not_isCreate fun _ hc => nomatch hc) ha
              exact ⟨start, now, hp, hunmarked, hs, rfl, hle⟩

end

/-! ## Runs -/

/-- What holds of a run as long as nothing has been created for the object. -/
structure Awaits (read : List UInt8 → Outcome Creation)
    (h : List (Invocation (Resource Spec St))) (o : Resource Spec St) : Prop where
  /-- Whatever was created has been lost. -/
  lost : (creations h).length ≤ h.countP (·.losesCreation read)
  unrecorded : ∀ a ∈ answersOf h, ¬ a.RecordsId
  unnamed : o.recordOrBlank.resourceId = none

section

variable {s : Setting (Resource Spec St)} {k : Circumstances} {c : RemoteCalls Spec St}
  {start : Resource Spec St} {h : List (Invocation (Resource Spec St))}
  {stored : Option (Resource Spec St)} {read : List UInt8 → Outcome Creation}
  {i : Invocation (Resource Spec St)} {o n : Resource Spec St}

/-- While nothing has been created for the object, whatever was created is lost. -/
theorem Runs.awaits (hr : Runs s k start h stored) (hl : s.lifecycle = c.lifecycle)
    (hread : c.Reads read) (hstart : start.status = none) :
    ∀ o, stored = some o → o.phase.IsPending → Awaits read h o := by
  refine hr.invariant (P := fun h o => o.phase.IsPending → Awaits read h o) hl ?_ ?_ ?_
  · intro _
    refine ⟨Nat.le_refl _, fun a ha => (nomatch ha), ?_⟩
    rw [Resource.recordOrBlank, Resource.record?, hstart]
    rfl
  · intro h o n ho he hn
    obtain ⟨hlost, hunrecorded, hunnamed⟩ := ho (Resource.phase_congr he.status ▸ hn)
    exact ⟨hlost, hunrecorded, (Resource.recordOrBlank_congr he.status) ▸ hunnamed⟩
  · intro h o n τ result w ho hkey _ hi hn hpending
    cases hi.creationOutcome hread hkey with
    | unwritten hnot hkeeps hcreations =>
        obtain ⟨-, hs, -⟩ := hkeeps n hn
        obtain ⟨hlost, hunrecorded, hunnamed⟩ := ho ((Resource.phase_congr hs) ▸ hpending)
        refine ⟨length_creations_le_lost hlost (hcreations.imp id And.right), ?_, ?_⟩
        · rw [answersOf_cons]
          exact List.forall_mem_append.2 ⟨hunrecorded, hnot⟩
        · rw [Resource.recordOrBlank_congr hs]
          exact hunnamed
    | @written t p now hdeparts hbegets hid hkeeps =>
        obtain ⟨-, hs, -⟩ := hkeeps n hn
        have ht : t.phase.IsPending := by
          rw [← Resource.phase_recorded t now p, ← Resource.phase_congr hs]
          exact hpending
        obtain ⟨hlost, hunrecorded, hunnamed⟩ := ho (hdeparts.isPending ht)
        generalize hcreations : creationsOf τ = bodies at hbegets
        cases hbegets with
        | born _ _ _ _ htrans =>
            -- the object would have left these phases
            rw [htrans] at ht
            exact absurd ht (Transition.hasRemote_ofCreation _).not_isPending
        | unborn hbodies hrecord _ _ =>
            refine ⟨length_creations_le_lost hlost ?_, ?_, ?_⟩
            · show creationsOf τ = [] ∨ _
              rcases hbodies with rfl | ⟨-, body, f, rfl, hf⟩
              · exact .inl hcreations
              · exact .inr ⟨body, hcreations, .inl ⟨f, hf⟩⟩
            · rw [answersOf_cons]
              refine List.forall_mem_append.2 ⟨hunrecorded, fun a ha hrec => hid a ha hrec ?_⟩
              rw [hrecord, hunnamed]
            · rw [Resource.recordOrBlank_congr hs, Resource.recordOrBlank_recorded]
              show p.recordOrBlank.resourceId = none
              rw [hrecord, hunnamed]

/-- An invocation without an object sends no creation. -/
theorem Invokes.not_isCreate_of_absent {key : ObjectKey}
    {τ : List (EngineAnswer (Resource Spec St))} {result : Outcome Action}
    {w : Slot (Resource Spec St)} (h : Invokes s k key c none τ result w) :
    ∀ a ∈ τ, ¬ a.IsCreate := by
  obtain ⟨-, reply, rfl⟩ := h.absent_spec
  exact List.forall_mem_singleton.2 (EngineAnswer.not_isCreate fun _ hc => nomatch hc)

/-- No run creates more than it has lost, and one. -/
theorem Runs.length_creations_le (hr : Runs s k start h stored) (hl : s.lifecycle = c.lifecycle)
    (hread : c.Reads read) (hstart : start.status = none) :
    (creations h).length ≤ 1 + h.countP (·.losesCreation read) := by
  induction hr with
  | start => exact Nat.zero_le _
  | edited _ _ ih => exact ih
  | removed _ _ ih => exact ih
  | @invoked h stored τ result w hr ht ih =>
      have hi := invokes_of_trace hl ht
      have hgrows := (List.sublist_cons_self
        (⟨stored, τ, result, w.stored⟩ : Invocation (Resource Spec St)) h).countP_le
        (p := (·.losesCreation read))
      rw [length_creations_cons]
      have hbodies : creationsOf τ = [] ∨ ∃ o body, stored = some o ∧ o.phase = .creating ∧
          creationsOf τ = [body] := by
        cases stored with
        | none => exact .inl (creationsOf_eq_nil hi.not_isCreate_of_absent)
        | some o =>
            cases hi.creationOutcome hread (hr.key_eq hl o rfl) with
            | unwritten _ _ hcreations =>
                refine hcreations.imp id ?_
                rintro ⟨hp, body, hbody, -⟩
                exact ⟨o, body, rfl, hp, hbody⟩
            | written _ hbegets _ _ =>
                refine hbegets.bodies_cases.imp id ?_
                rintro ⟨hp, body, hbody⟩
                exact ⟨o, body, rfl, hp, hbody⟩
      rcases hbodies with hnil | ⟨o, body, rfl, hp, hbody⟩
      · rw [hnil, List.length_nil]
        omega
      · have hlost := (hr.awaits hl hread hstart o rfl (.inr hp)).lost
        rw [hbody, List.length_singleton]
        omega

/-- Once an identifier has been recorded, no creation is sent. -/
theorem Runs.pairwise_records (hr : Runs s k start h stored) (hl : s.lifecycle = c.lifecycle)
    (hread : c.Reads read) (hstart : start.status = none) :
    (answersOf h).Pairwise fun a b => a.RecordsId → ¬ b.IsCreate := by
  induction hr with
  | start => exact .nil
  | edited _ _ ih => exact ih
  | removed _ _ ih => exact ih
  | @invoked h stored τ result w hr ht ih =>
      have hi := invokes_of_trace hl ht
      rw [answersOf_cons]
      cases stored with
      | none =>
          have hnot := hi.not_isCreate_of_absent
          refine List.pairwise_append.2 ⟨ih, ?_, fun _ _ b hb _ => hnot b hb⟩
          exact List.pairwise_of_forall_mem_list fun _ _ b hb _ => hnot b hb
      | some o =>
          have hkey := hr.key_eq hl o rfl
          refine List.pairwise_append.2 ⟨ih, hi.pairwise_records hkey, fun a ha b hb hrec => ?_⟩
          -- a creation is only sent while nothing has been recorded
          rintro ⟨request, hcall, hpost⟩
          have hp := ((hi.involves hkey b hb).creates hcall hpost).1
          exact (hr.awaits hl hread hstart o rfl (.inr hp)).unrecorded a ha hrec

/-- An object that has been picked up knows when its phase began. -/
theorem Runs.phaseStart_isSome (hr : Runs s k start h stored) (hl : s.lifecycle = c.lifecycle)
    (hstart : start.status = none) :
    ∀ o, stored = some o → o.phase ≠ .uninitialized → o.recordOrBlank.phaseStart.isSome := by
  refine hr.invariant
    (P := fun _ o => o.phase ≠ .uninitialized → o.recordOrBlank.phaseStart.isSome) hl ?_ ?_ ?_
  · exact fun hne => absurd (Resource.phase_of_status_none hstart) hne
  · intro _ o n ho he hne
    rw [Resource.phase_congr he.status] at hne
    rw [Resource.recordOrBlank_congr he.status]
    exact ho hne
  · intro _ o n τ result w ho hkey _ hi hn hne
    cases hi.effect hkey with
    | still _ hkeeps =>
        obtain ⟨-, hs, -⟩ := hkeeps n hn
        rw [Resource.phase_congr hs] at hne
        rw [Resource.recordOrBlank_congr hs]
        exact ho hne
    | @moved _ _ _ t p _ _ _ _ now _ _ _ _ _ _ _ hkeeps =>
        obtain ⟨-, hs, -⟩ := hkeeps n hn
        rw [Resource.recordOrBlank_congr hs, Resource.recordOrBlank_recorded]
        show (if t.phase ≠ p.recordOrBlank.phase then some now
          else some (p.recordOrBlank.phaseStart.getD now)).isSome
        split
        · rfl
        · rfl

theorem Runs.createsOnce (hr : Runs s k start h stored) (hl : s.lifecycle = c.lifecycle)
    (hread : c.Reads read) (hstart : start.status = none) : CreatesOnce s.policy read h where
  bounded := hr.length_creations_le hl hread hstart
  recorded := hr.pairwise_records hl hread hstart
  timely i hi pre a post hτ ha := by
    obtain ⟨earlier, w, hrun, ht, -⟩ := hr.invocation hi
    have hinvokes := invokes_of_trace hl ht
    cases hb : i.before with
    | none =>
        rw [hb] at hinvokes
        have hmem : a ∈ i.answers := hτ ▸ List.mem_append_right _ (List.mem_cons_self ..)
        exact absurd ha (hinvokes.not_isCreate_of_absent a hmem)
    | some o =>
        rw [hb] at hrun hinvokes
        have hstarted : o.phase = .creating → o.recordOrBlank.phaseStart.isSome := fun hp =>
          hrun.phaseStart_isSome hl hstart o rfl (hp ▸ nofun)
        obtain ⟨start', now, h⟩ := hinvokes.timely (hrun.key_eq hl o rfl) hstarted hτ ha
        exact ⟨o, start', now, rfl, h⟩

end

/-- In runs of projects and of volumes from an object without status, a creation is repeated only
    when its outcome was lost, never once an identifier is recorded, and never for an object that is
    marked for deletion or past the timeout. -/
theorem creation_once :
    (∀ (s : Setting Project) (k : Circumstances) (start : Project)
        (h : List (Invocation Project)) (stored : Option Project),
      s.lifecycle = projectLifecycle → start.status = none → Runs s k start h stored →
      CreatesOnce s.policy projectCreation h) ∧
    (∀ (s : Setting Volume) (k : Circumstances) (start : Volume)
        (h : List (Invocation Volume)) (stored : Option Volume),
      s.lifecycle = volumeLifecycle → start.status = none → Runs s k start h stored →
      CreatesOnce s.policy volumeCreation h) := by
  constructor
  · intro s k start h stored hl hstart hr
    exact hr.createsOnce (hl.trans projectLifecycle_eq) projectCalls_reads hstart
  · intro s k start h stored hl hstart hr
    exact hr.createsOnce (hl.trans volumeLifecycle_eq) volumeCalls_reads hstart

namespace Scripted

/-- The first creation of the project is answered by a success that cannot be read. -/
def projectRepeated : List (Invocation Project) × World :=
  (projectWorld [.reply ⟨201, []⟩, .reply projectCreated]).story projectShelf projectSetting
    newProject.key 3 (·.markedAt ⟨0, 0⟩) 1

theorem runs_projectRepeated : Runs projectSetting calm newProject projectRepeated.1
    (projectRepeated.2.slot projectShelf newProject.key).stored :=
  World.runs_story projectShelf_isLawful rfl (admits_projectWorld _) 3 1 fun o _ =>
    o.edited_markedAt _

end Scripted

open Scripted in
/-- A project whose creation is repeated after its outcome was lost, and a volume that is created at
    the first attempt. -/
theorem creation_once_stories :
    (CreatesOnce .default projectCreation projectRepeated.1 ∧
      (creations projectRepeated.1).length = 2 ∧
      projectRepeated.1.countP (·.losesCreation projectCreation) = 1 ∧
      phasesOf projectRepeated.1 =
        [some .creating, some .creating, some .created, some .deleting]) ∧
    CreatesOnce .default volumeCreation volumeStory.1 ∧ (creations volumeStory.1).length = 1 ∧
      volumeStory.1.countP (·.losesCreation volumeCreation) = 0 := by
  refine ⟨⟨?_, by decide +kernel, by decide +kernel, by decide +kernel⟩, ?_, by decide +kernel,
    by decide +kernel⟩
  · exact creation_once.1 _ _ _ _ _ rfl rfl runs_projectRepeated
  · exact creation_once.2 _ _ _ _ _ rfl rfl runs_volumeStory

end CloudReconciler
