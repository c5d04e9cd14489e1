import CloudReconciler.Proofs.Reconcile.RemoteCalls
import Mathlib.Tactic.ByContra

/-! # Invocations — everything that one reconciliation can do

    An invocation reads the object, authenticates its tenant and then
    decides: to rest, or to move the object by one transition, which is
    written unless it has to wait.  The relations below name every way this
    can go, with the calls that are answered on it:

    * `Asked` and `Located`: a question to the remote API, a placement;
    * `Serves`: the phase the object is in, one constructor per outcome;
    * `Decides`: timeout and deletion before the phase;
    * `Settles`: the decision carried out;
    * `Invokes`: the whole invocation.

    `invokes_of_trace` says that nothing else happens; whatever is claimed
    of all invocations is claimed of these cases. -/

namespace CloudReconciler

open Procedure (Trace trace_done trace_call trace_bind)

/-- A call of an invocation with its answer. -/
abbrev EngineAnswer (O : Type) := Answer (EngineCalls O) (Slot O)

/-- A call that was answered without touching the slot. -/
def EngineAnswer.aside {O : Type} (c : EngineCall O) (reply : (EngineCalls O).Reply c)
    (w : Slot O) : EngineAnswer O := ⟨c, reply, w, w⟩

/-- What a gateway makes of the answer to a request. -/
def Gateway.verdict (method : Method) : Wake (Outcome Reply) → Outcome (List UInt8)
  | .cancelled _ => .error .cancelled
  | .reply (.error f) => .error f
  | .reply (.ok r) => r.body? method

/-- The transition after an outcome: a fault is recorded in the current phase. -/
def Transition.ofOutcome {α : Type} (current : Phase) (next : α → Transition) :
    Outcome α → Transition
  | .error f => .ofFault current f
  | .ok a => next a

/-- What an invocation decides to do with its object. -/
inductive Decision (O : Type) where
  /-- Nothing until the object changes. -/
  | rest (o : O)
  /-- The transition of the object as the invocation holds it; an urgent one is followed by another
      invocation at once. -/
  | move (t : Transition) (o : O) (urgent : Bool)

variable {Spec St : Type} [Managed Spec St]

/-- The object with the kind's finalizer attached. -/
def Resource.guarded (o : Resource Spec St) : Resource Spec St :=
  { o with metadata := o.metadata.attach (Managed.finalizer Spec) }

/-- The object with the kind's finalizer released. -/
def Resource.released (o : Resource Spec St) : Resource Spec St :=
  { o with metadata := o.metadata.release (Managed.finalizer Spec) }

/-- The object with the identifier of its remote resource. -/
def Resource.named (o : Resource Spec St) (id : String) : Resource Spec St :=
  o.withRecord { o.recordOrBlank with resourceId := some id }

/-! ## The cases -/

section

variable (k : Circumstances) (key : ObjectKey) (policy : Policy) (g : Gateway)

/-- A question put to the remote API, with its outcome. -/
inductive Asked {α : Type} : Ask α → Slot (Resource Spec St) →
    List (EngineAnswer (Resource Spec St)) → Outcome α → Slot (Resource Spec St) → Prop
  | known {outcome w} : Asked (.known outcome) w [] outcome w
  | unconfigured {method endpoint body read w} :
      Asked (.send method endpoint body read) w []
        (.error (.configuration "api gateway url not loaded")) w
  | cancelled {method endpoint body read w w₁} : w.Drifts k w₁ →
      Asked (.send method endpoint body read) w [.aside (.remote .isCancelled) true w]
        (.error .cancelled) w₁
  | sent {method endpoint body read w w₁ w₂} {wake : Wake (Outcome Reply)} :
      w.Drifts k w₁ → w₁.Drifts k w₂ →
      Asked (.send method endpoint body read) w
        [.aside (.remote .isCancelled) false w,
          .aside (.remote (.send (g.request method endpoint body))) wake w₁]
        (Gateway.verdict method wake >>= read) w₂

/-- A placement carried out. -/
inductive Located : Placement (Resource Spec St) → Slot (Resource Spec St) →
    List (EngineAnswer (Resource Spec St)) → Outcome (Resource Spec St) →
    Slot (Resource Spec St) → Prop
  | here {o w} : Located (.here o) w [] (.ok o) w
  | found {namespace_ name read w w₁} {reply : Outcome (Option Project)} : w.Drifts k w₁ →
      Located (.within namespace_ name read) w [.aside (.fetchProject namespace_ name) reply w]
        (read reply) w₁

variable (c : RemoteCalls Spec St) (o : Resource Spec St)

/-- The object's phase served. -/
inductive Serves : Slot (Resource Spec St) → List (EngineAnswer (Resource Spec St)) →
    Decision (Resource Spec St) → Slot (Resource Spec St) → Prop
  | guarded {w} : o.phase = .uninitialized → o.IsGuarded →
      Serves w [] (.move .initialized o false) w
  | guard {w n w₁ w₂} : o.phase = .uninitialized → ¬ o.IsGuarded →
      w.Replaced k key o.guarded (.ok n) w₁ → w₁.Drifts k w₂ →
      Serves w [⟨.update o.guarded, .ok n, w, w₁⟩] (.move .initialized n false) w₂
  | unguarded {w f w₁ w₂} : o.phase = .uninitialized → ¬ o.IsGuarded →
      w.Replaced k key o.guarded (.error f) w₁ → w₁.Drifts k w₂ →
      Serves w [⟨.update o.guarded, .error f, w, w₁⟩]
        (.move (.ofFault .uninitialized f) o.guarded false) w₂
  | unplaced {w τ f w₁} : o.phase = .creating → Located k (c.placement o) w τ (.error f) w₁ →
      Serves w τ (.move (.ofFault .creating f) o false) w₁
  | uncreated {w τ p w₁ τ' f w₂} : o.phase = .creating →
      Located k (c.placement o) w τ (.ok p) w₁ → Asked k g (c.create p) w₁ τ' (.error f) w₂ →
      Serves w (τ ++ τ') (.move (.ofFault .creating f) p false) w₂
  | created {w τ p w₁ τ' w₂} {r : Creation} : o.phase = .creating →
      Located k (c.placement o) w τ (.ok p) w₁ → Asked k g (c.create p) w₁ τ' (.ok r) w₂ →
      Serves w (τ ++ τ') (.move (.ofCreation r.state) (p.named r.id) false) w₂
  | unpolled {w} : o.phase = .provisioning → c.poll o = none → Serves w [] (.rest o) w
  | polled {w ask τ r w₁} : o.phase = .provisioning → c.poll o = some ask →
      Asked k g ask w τ r w₁ →
      Serves w τ (.move (.ofOutcome .provisioning .ofPoll r) o false) w₁
  | pushed {w τ r w₁} : o.phase = .updating → Asked k g (c.push o) w τ r w₁ →
      Serves w τ (.move (.ofOutcome .updating (fun _ => .updated) r) o false) w₁
  | current {w} : o.phase = .created →
      o.recordOrBlank.observedGeneration = o.metadata.generation → Serves w [] (.rest o) w
  | drifted {w} : o.phase = .created →
      o.recordOrBlank.observedGeneration ≠ o.metadata.generation →
      Serves w [] (.move .updating o false) w
  | unremoved {w τ f w₁} : o.phase = .deleting → Asked k g (c.remove o) w τ (.error f) w₁ →
      Serves w τ (.move (.ofFault .deleting f) o false) w₁
  | removed {w τ w₁} : o.phase = .deleting → Asked k g (c.remove o) w τ (.ok ()) w₁ →
      ¬ o.IsGuarded → Serves w τ (.rest o) w₁
  | released {w τ w₁ n w₂ w₃} : o.phase = .deleting → Asked k g (c.remove o) w τ (.ok ()) w₁ →
      o.IsGuarded → w₁.Replaced k key o.released (.ok n) w₂ → w₂.Drifts k w₃ →
      Serves w (τ ++ [⟨.update o.released, .ok n, w₁, w₂⟩]) (.rest n) w₃
  | gone {w τ w₁ f w₂ w₃} : o.phase = .deleting → Asked k g (c.remove o) w τ (.ok ()) w₁ →
      o.IsGuarded → w₁.Replaced k key o.released (.error f) w₂ → f.isNotFound = true →
      w₂.Drifts k w₃ →
      Serves w (τ ++ [⟨.update o.released, .error f, w₁, w₂⟩]) (.rest o.released) w₃
  | unreleased {w τ w₁ f w₂ w₃} : o.phase = .deleting →
      Asked k g (c.remove o) w τ (.ok ()) w₁ → o.IsGuarded →
      w₁.Replaced k key o.released (.error f) w₂ → f.isNotFound = false → w₂.Drifts k w₃ →
      Serves w (τ ++ [⟨.update o.released, .error f, w₁, w₂⟩])
        (.move (.ofFault .deleting f) o.released false) w₃
  | ended {w} : o.phase = .deleted ∨ o.phase = .failed → Serves w [] (.rest o) w

/-- The time that the phase has lasted is checked; the flag tells that it is up. -/
inductive Timed : Slot (Resource Spec St) → List (EngineAnswer (Resource Spec St)) → Bool →
    Slot (Resource Spec St) → Prop
  | untimed {w} :
      (∀ start, o.recordOrBlank.phaseStart = some start → o.phase.isTransitioning = false) →
      Timed w [] false w
  | within {start w w₁} {now : Instant} : o.recordOrBlank.phaseStart = some start →
      o.phase.isTransitioning = true → now.elapsed start ≤ policy.timeout → w.Drifts k w₁ →
      Timed w [.aside .now now w] false w₁
  | up {start w w₁} {now : Instant} : o.recordOrBlank.phaseStart = some start →
      o.phase.isTransitioning = true → ¬ now.elapsed start ≤ policy.timeout → w.Drifts k w₁ →
      Timed w [.aside .now now w] true w₁

/-- What is decided about an authenticated object. -/
inductive Decides : Slot (Resource Spec St) → List (EngineAnswer (Resource Spec St)) →
    Decision (Resource Spec St) → Slot (Resource Spec St) → Prop
  | timedOut {w τ w₁} : Timed k policy o w τ true w₁ →
      Decides w τ (.move (.timedOut policy.timeout) o false) w₁
  | marked {w τ w₁} : Timed k policy o w τ false w₁ → o.metadata.isMarked = true →
      o.phase ≠ .deleting → o.phase ≠ .failed → Decides w τ (.move .toBeDeleted o true) w₁
  | served {w τ w₁ τ' d w₂} : Timed k policy o w τ false w₁ →
      (o.metadata.isMarked = true → o.phase = .deleting ∨ o.phase = .failed) →
      Serves k key g c o w₁ τ' d w₂ → Decides w (τ ++ τ') d w₂

end

/-- The action that follows a move. -/
def Decision.actionOf (urgent : Bool) (a : Action) : Action :=
  if urgent then .requeue .zero else a

/-- A decision carried out. -/
inductive Settles (k : Circumstances) (key : ObjectKey) (policy : Policy) :
    Decision (Resource Spec St) → Slot (Resource Spec St) →
    List (EngineAnswer (Resource Spec St)) → Outcome Action → Slot (Resource Spec St) → Prop
  | rest {o w} : Settles k key policy (.rest o) w [] (.ok .awaitChange) w
  | deferred {t o urgent w wait w₁} {now : Instant} : t.deferral? policy now o = some wait →
      w.Drifts k w₁ →
      Settles k key policy (.move t o urgent) w [.aside .now now w]
        (.ok (Decision.actionOf urgent (.requeue wait))) w₁
  | written {t o urgent w w₁ n w₂ w₃} {now : Instant} : t.deferral? policy now o = none →
      w.Drifts k w₁ → w₁.StatusWritten k key (t.recorded now o) (.ok n) w₂ → w₂.Drifts k w₃ →
      Settles k key policy (.move t o urgent) w
        [.aside .now now w, ⟨.updateStatus (t.recorded now o), .ok n, w₁, w₂⟩]
        (.ok (Decision.actionOf urgent (t.action policy))) w₃
  | refused {t o urgent w w₁ f w₂ w₃} {now : Instant} : t.deferral? policy now o = none →
      w.Drifts k w₁ → w₁.StatusWritten k key (t.recorded now o) (.error f) w₂ → w₂.Drifts k w₃ →
      Settles k key policy (.move t o urgent) w
        [.aside .now now w, ⟨.updateStatus (t.recorded now o), .error f, w₁, w₂⟩] (.error f) w₃

/-- An invocation for the object of the key, where a lifecycle has the given calls. -/
inductive Invokes (s : Setting (Resource Spec St)) (k : Circumstances) (key : ObjectKey)
    (c : RemoteCalls Spec St) : Option (Resource Spec St) →
    List (EngineAnswer (Resource Spec St)) → Outcome Action → Slot (Resource Spec St) → Prop
  | unread {stored f w} : k.storeFault f → Slot.Drifts k ⟨stored, false⟩ w →
      Invokes s k key c stored [.aside (.fetch key.1 key.2) (.error f) ⟨stored, false⟩] (.error f) w
  | absent {w} : Slot.Drifts k ⟨none, false⟩ w →
      Invokes s k key c none [.aside (.fetch key.1 key.2) (.ok none) ⟨none, false⟩]
        (.ok .awaitChange) w
  | tenantless {o w} : o.tenant?.getD "" = "" → s.multiTenant = true →
      Slot.Drifts k ⟨some o, false⟩ w →
      Invokes s k key c (some o) [.aside (.fetch key.1 key.2) (.ok (some o)) ⟨some o, false⟩]
        (.error Setting.tenantMissing) w
  | unauthenticated {o f w w₁} : Slot.Drifts k ⟨some o, false⟩ w → w.Drifts k w₁ →
      Invokes s k key c (some o)
        [.aside (.fetch key.1 key.2) (.ok (some o)) ⟨some o, false⟩,
          .aside (.authenticate (o.tenant?.getD "")) (.error f) w] (.error f) w₁
  | decided {o token w w₁ τ d w₂ τ' result w₃} : ¬ (o.tenant?.getD "" = "" ∧ s.multiTenant = true) →
      Slot.Drifts k ⟨some o, false⟩ w → w.Drifts k w₁ →
      Decides k key s.policy (s.gateway.authorized token) c o w₁ τ d w₂ →
      Settles k key s.policy d w₂ τ' result w₃ →
      Invokes s k key c (some o)
        (.aside (.fetch key.1 key.2) (.ok (some o)) ⟨some o, false⟩ ::
          .aside (.authenticate (o.tenant?.getD "")) (.ok token) w :: (τ ++ τ')) result w₃

/-! ## Nothing else happens -/

section

variable {k : Circumstances} {key : ObjectKey} {policy : Policy} {g : Gateway}
  {w w' : Slot (Resource Spec St)} {τ : List (EngineAnswer (Resource Spec St))}

theorem asked_of_trace {α : Type} {ask : Ask α} {r : Outcome α}
    (h : Trace (Slot.surroundings k key) (ask.run g) w τ r w') : Asked k g ask w τ r w' := by
  cases ask with
  | known outcome =>
      obtain ⟨rfl, rfl, rfl⟩ := trace_done.1 h
      exact .known
  | send method endpoint body read =>
      rw [Ask.run, Gateway.perform] at h
      split at h
      · obtain ⟨rfl, rfl, rfl⟩ := trace_done.1 h
        exact .unconfigured
      · obtain ⟨stopped, w₁, w₂, rest, rfl, hd, hr, rfl⟩ := trace_call.1 h
        cases stopped with
        | true =>
            obtain ⟨rfl, rfl, rfl⟩ := trace_done.1 hr
            exact .cancelled hd
        | false =>
            obtain ⟨wake, w₃, w₄, rest, rfl, hd', hr', rfl⟩ := trace_call.1 hr
            -- every kind of wake ends the question
            rcases wake with (f | reply) | late
            all_goals
              obtain ⟨rfl, rfl, rfl⟩ := trace_done.1 hr'
              exact .sent hd hd'

theorem located_of_trace {p : Placement (Resource Spec St)} {r : Outcome (Resource Spec St)}
    (h : Trace (Slot.surroundings k key) p.run w τ r w') : Located k p w τ r w' := by
  cases p with
  | here o =>
      obtain ⟨rfl, rfl, rfl⟩ := trace_done.1 h
      exact .here
  | within namespace_ name read =>
      obtain ⟨reply, w₁, w₂, rest, rfl, hd, hr, rfl⟩ := trace_call.1 h
      obtain ⟨rfl, rfl, rfl⟩ := trace_done.1 hr
      exact .found hd

theorem settles_of_trace {t : Transition} {o : Resource Spec St}
    {a : Stage (Resource Spec St)} (urgent : Bool)
    (h : Trace (Slot.surroundings k key) (t.next policy o) w τ a w') :
    Settles k key policy (.move t o urgent) w τ (a.result.map (Decision.actionOf urgent)) w' := by
  obtain ⟨now, w₁, w₂, rest, rfl, hd, hr, rfl⟩ := trace_call.1 h
  cases hw : t.deferral? policy now o with
  | some wait =>
      simp only [hw] at hr
      obtain ⟨rfl, rfl, rfl⟩ := trace_done.1 hr
      exact .deferred hw hd
  | none =>
      simp only [hw] at hr
      obtain ⟨reply, w₃, w₄, rest, ha, hd', hr', rfl⟩ := trace_call.1 hr
      cases reply with
      | error f =>
          obtain ⟨rfl, rfl, rfl⟩ := trace_done.1 hr'
          exact .refused hw hd ha hd'
      | ok n =>
          obtain ⟨rfl, rfl, rfl⟩ := trace_done.1 hr'
          exact .written hw hd ha hd'

/-- A transition that is not urgent ends with the result of its write. -/
theorem settles_of_trace_next {t : Transition} {o : Resource Spec St}
    {a : Stage (Resource Spec St)}
    (h : Trace (Slot.surroundings k key) (t.next policy o) w τ a w') :
    Settles k key policy (.move t o false) w τ a.result w' := by
  have hs := settles_of_trace false h
  have hid : a.result.map (Decision.actionOf false) = a.result := by
    cases a.result <;> rfl
  rwa [hid] at hs

variable {c : RemoteCalls Spec St} {o : Resource Spec St} {a : Stage (Resource Spec St)}

/-- An object that a placement comes to is one that it may come to. -/
theorem Located.gives {p : Placement (Resource Spec St)} {o : Resource Spec St}
    (h : Located k p w τ (.ok o) w') : p.Gives o := by
  generalize hr : (Except.ok o : Outcome (Resource Spec St)) = r at h
  cases h with
  | here =>
      cases hr
      rfl
  | found _ => exact ⟨_, hr.symm⟩

/-- A reply gives a body when it is a success, or the news that what is to be deleted is gone. -/
theorem Reply.isSuccess_or_isGone {reply : Reply} {method : Method} {bytes : List UInt8}
    (h : reply.body? method = .ok bytes) :
    Reply.isSuccess reply.status = true ∨ Reply.isGone method reply.status = true := by
  rw [← Bool.or_eq_true]
  rw [Reply.body?] at h
  split at h
  · assumption
  · split at h
    · exact nomatch h
    · exact nomatch h

/-- A request that comes to a value was sent, and its reply was read as the value. -/
theorem Asked.sent_of_ok {α : Type} {method : Method} {endpoint : String} {body : Option Json}
    {read : List UInt8 → Outcome α} {x : α}
    (h : Asked k g (.send method endpoint body read) w τ (.ok x) w') :
    ∃ stopped reply bytes w₁,
      τ = [stopped,
        .aside (.remote (.send (g.request method endpoint body))) (.reply (.ok reply)) w₁] ∧
      (∃ cancelled w₀, stopped = .aside (.remote .isCancelled) cancelled w₀) ∧
      reply.body? method = .ok bytes ∧ read bytes = .ok x := by
  generalize hr : (Except.ok x : Outcome α) = r at h
  cases h with
  | unconfigured => exact nomatch hr
  | cancelled _ => exact nomatch hr
  | @sent _ _ _ _ _ w₁ _ wake _ _ =>
      rcases wake with (f | reply) | late
      · exact nomatch hr
      · change Except.ok x = reply.body? method >>= read at hr
        cases hb : reply.body? method with
        | error f =>
            rw [hb] at hr
            exact nomatch hr
        | ok bytes =>
            refine ⟨_, reply, bytes, w₁, rfl, ⟨_, _, rfl⟩, hb, ?_⟩
            show read bytes = reply.body? method >>= read
            rw [hb]
            rfl
      · exact nomatch hr

/-- A value that a question comes to is one that it may be answered by. -/
theorem Asked.yields {α : Type} {ask : Ask α} {x : α} (h : Asked k g ask w τ (.ok x) w') :
    ask.Yields x := by
  cases ask with
  | known outcome =>
      cases h
      rfl
  | send method endpoint body read =>
      obtain ⟨_, _, bytes, _, -, -, -, hread⟩ := h.sent_of_ok
      exact ⟨bytes, hread⟩

/-- The way from a served phase to the end of the invocation. -/
def ServedTo (k : Circumstances) (key : ObjectKey) (policy : Policy) (g : Gateway)
    (c : RemoteCalls Spec St) (o : Resource Spec St) (w : Slot (Resource Spec St))
    (τ : List (EngineAnswer (Resource Spec St))) (result : Outcome Action)
    (w' : Slot (Resource Spec St)) : Prop :=
  ∃ τ₁ d w₁ τ₂, Serves k key g c o w τ₁ d w₁ ∧ Settles k key policy d w₁ τ₂ result w' ∧
    τ = τ₁ ++ τ₂

/-- A fault that is recorded moves the object within what the fault allows. -/
theorem settles_of_trace_fault {f : Fault} {current : Phase} (hp : o.phase = current)
    (h : Trace (Slot.surroundings k key) (recordFault policy o f) w τ a w') :
    Settles k key policy (.move (.ofFault current f) o false) w τ a.result w' := by
  subst hp
  exact settles_of_trace_next h

theorem served_uninitialized (hp : o.phase = .uninitialized)
    (h : Trace (Slot.surroundings k key) (initializeResource policy o (Managed.finalizer Spec)) w τ
      a w') : ServedTo k key policy g c o w τ a.result w' := by
  rw [initializeResource] at h
  split at h
  · next hg =>
      exact ⟨[], _, w, τ, .guarded hp (o.hasFinalizer_iff.1 hg), settles_of_trace_next h, rfl⟩
  · next hg =>
      rw [Resource.hasFinalizer_iff] at hg
      obtain ⟨reply, w₁, w₂, rest, ha, hd, hr, rfl⟩ := trace_call.1 h
      cases reply with
      | ok n => exact ⟨_, _, w₂, rest, .guard hp hg ha hd, settles_of_trace_next hr, rfl⟩
      | error f =>
          exact ⟨_, _, w₂, rest, .unguarded hp hg ha hd,
            settles_of_trace_fault (o := o.guarded) hp hr, rfl⟩

theorem served_creating (hp : o.phase = .creating)
    (h : Trace (Slot.surroundings k key) (c.lifecycle.create policy g o) w τ a w') :
    ServedTo k key policy g c o w τ a.result w' := by
  obtain ⟨first, located, w₁, rest, hl, hr, rfl⟩ := trace_bind.1 h
  have hl := located_of_trace hl
  cases located with
  | error f =>
      exact ⟨first, _, w₁, rest, .unplaced hp hl, settles_of_trace_fault hp hr, rfl⟩
  | ok p =>
      obtain ⟨second, asked, w₂, rest, ha, hr', rfl⟩ := trace_bind.1 hr
      have ha := asked_of_trace ha
      -- a placed object is still in the phase that faults are recorded in
      have hpp : p.phase = .creating := by
        rw [Resource.phase, (c.placed o p hl.gives).record]
        exact hp
      cases asked with
      | error f =>
          exact ⟨first ++ second, _, w₂, rest, .uncreated hp hl ha,
            settles_of_trace_fault hpp hr', (List.append_assoc ..).symm⟩
      | ok r =>
          exact ⟨first ++ second, _, w₂, rest, .created hp hl ha, settles_of_trace_next hr',
            (List.append_assoc ..).symm⟩

theorem served_provisioning (hp : o.phase = .provisioning)
    (h : Trace (Slot.surroundings k key) (c.lifecycle.poll policy g o) w τ a w') :
    ServedTo k key policy g c o w τ a.result w' := by
  rw [RemoteCalls.lifecycle] at h
  cases hc : c.poll o with
  | none =>
      simp only [hc] at h
      obtain ⟨rfl, rfl, rfl⟩ := trace_done.1 h
      exact ⟨[], _, _, [], .unpolled hp hc, .rest, rfl⟩
  | some ask =>
      simp only [hc] at h
      obtain ⟨first, asked, w₁, rest, ha, hr, rfl⟩ := trace_bind.1 h
      have hs : Serves k key g c o w first _ w₁ := .polled hp hc (asked_of_trace ha)
      cases asked with
      | error f => exact ⟨first, _, w₁, rest, hs, settles_of_trace_fault hp hr, rfl⟩
      | ok state => exact ⟨first, _, w₁, rest, hs, settles_of_trace_next hr, rfl⟩

theorem served_updating (hp : o.phase = .updating)
    (h : Trace (Slot.surroundings k key) (c.lifecycle.push policy g o) w τ a w') :
    ServedTo k key policy g c o w τ a.result w' := by
  obtain ⟨first, asked, w₁, rest, ha, hr, rfl⟩ := trace_bind.1 h
  have hs : Serves k key g c o w first _ w₁ := .pushed hp (asked_of_trace ha)
  cases asked with
  | error f => exact ⟨first, _, w₁, rest, hs, settles_of_trace_fault hp hr, rfl⟩
  | ok _ => exact ⟨first, _, w₁, rest, hs, settles_of_trace_next hr, rfl⟩

theorem served_created (hp : o.phase = .created)
    (h : Trace (Slot.surroundings k key) (checkForUpdates policy o) w τ a w') :
    ServedTo k key policy g c o w τ a.result w' := by
  rw [checkForUpdates] at h
  split at h
  · next hg =>
      obtain ⟨rfl, rfl, rfl⟩ := trace_done.1 h
      exact ⟨[], _, _, [], .current hp hg, .rest, rfl⟩
  · next hg => exact ⟨[], _, w, τ, .drifted hp hg, settles_of_trace_next h, rfl⟩

theorem served_deleting (hp : o.phase = .deleting)
    (h : Trace (Slot.surroundings k key) (c.lifecycle.remove policy g o) w τ a w') :
    ServedTo k key policy g c o w τ a.result w' := by
  obtain ⟨first, asked, w₁, rest, ha, hr, rfl⟩ := trace_bind.1 h
  have ha := asked_of_trace ha
  cases asked with
  | error f =>
      exact ⟨first, _, w₁, rest, .unremoved hp ha, settles_of_trace_fault hp hr, rfl⟩
  | ok _ =>
      dsimp only at hr
      split at hr
      · next hg =>
          rw [Resource.hasFinalizer_iff] at hg
          obtain ⟨reply, w₂, w₃, rest, hu, hd, hr', rfl⟩ := trace_call.1 hr
          cases reply with
          | ok n =>
              obtain ⟨rfl, rfl, rfl⟩ := trace_done.1 hr'
              exact ⟨_, _, _, [], .released hp ha hg hu hd, .rest, (List.append_nil _).symm⟩
          | error f =>
              dsimp only at hr'
              split at hr'
              · next hf =>
                  obtain ⟨rfl, rfl, rfl⟩ := trace_done.1 hr'
                  exact ⟨_, _, _, [], .gone hp ha hg hu hf hd, .rest, (List.append_nil _).symm⟩
              · next hf =>
                  have hf : f.isNotFound = false := by simpa using hf
                  -- the fault is recorded on the object that has lost its finalizer
                  exact ⟨_, _, w₃, rest, .unreleased hp ha hg hu hf hd,
                    settles_of_trace_fault (o := o.released) hp hr', List.append_cons ..⟩
      · next hg =>
          rw [Resource.hasFinalizer_iff] at hg
          obtain ⟨rfl, rfl, rfl⟩ := trace_done.1 hr
          exact ⟨first, _, _, [], .removed hp ha hg, .rest, rfl⟩

theorem served_of_trace
    (h : Trace (Slot.surroundings k key) (c.lifecycle.serve policy g o) w τ a w') :
    ServedTo k key policy g c o w τ a.result w' := by
  rw [Lifecycle.serve] at h
  cases hp : o.phase with
  | uninitialized =>
      simp only [hp] at h
      exact served_uninitialized hp h
  | creating =>
      simp only [hp] at h
      exact served_creating hp h
  | provisioning =>
      simp only [hp] at h
      exact served_provisioning hp h
  | created =>
      simp only [hp] at h
      exact served_created hp h
  | updating =>
      simp only [hp] at h
      exact served_updating hp h
  | deleting =>
      simp only [hp] at h
      exact served_deleting hp h
  | deleted =>
      simp only [hp] at h
      obtain ⟨rfl, rfl, rfl⟩ := trace_done.1 h
      exact ⟨[], _, _, [], .ended (.inl hp), .rest, rfl⟩
  | failed =>
      simp only [hp] at h
      obtain ⟨rfl, rfl, rfl⟩ := trace_done.1 h
      exact ⟨[], _, _, [], .ended (.inr hp), .rest, rfl⟩

/-- The check of the time leaves the invocation to what follows, or settles it. -/
theorem timed_of_trace {settled : Option (Stage (Resource Spec St))}
    (h : Trace (Slot.surroundings k key) (enforceTimeout policy o) w τ settled w') :
    (settled = none ∧ Timed k policy o w τ false w') ∨
      ∃ stage τ₁ w₁ τ₂, settled = some stage ∧ Timed k policy o w τ₁ true w₁ ∧
        Settles k key policy (.move (.timedOut policy.timeout) o false) w₁ τ₂ stage.result w' ∧
        τ = τ₁ ++ τ₂ := by
  rw [enforceTimeout] at h
  cases hs : o.recordOrBlank.phaseStart with
  | none =>
      simp only [hs] at h
      obtain ⟨rfl, rfl, rfl⟩ := trace_done.1 h
      exact .inl ⟨rfl, .untimed fun start hstart => nomatch hs.symm.trans hstart⟩
  | some start =>
      simp only [hs] at h
      split at h
      · next ht =>
          obtain ⟨now, w₁, w₂, rest, rfl, hd, hr, rfl⟩ := trace_call.1 h
          split at hr
          · next hle =>
              obtain ⟨rfl, rfl, rfl⟩ := trace_done.1 hr
              exact .inl ⟨rfl, .within hs ht hle hd⟩
          · next hle =>
              -- the failure is written at once, and nothing comes after it
              obtain ⟨first, stage, w₃, last, hn, hr', rfl⟩ := trace_bind.1 hr
              obtain ⟨rfl, rfl, rfl⟩ := trace_done.1 hr'
              refine .inr ⟨stage, _, w₂, first, rfl, .up hs ht hle hd, settles_of_trace_next hn, ?_⟩
              rw [List.append_nil]
              rfl
      · next ht =>
          obtain ⟨rfl, rfl, rfl⟩ := trace_done.1 h
          refine .inl ⟨rfl, .untimed fun _ _ => ?_⟩
          simpa using ht

/-- An authenticated object is decided about, and the decision is carried out. -/
theorem decides_of_trace {s : Setting (Resource Spec St)} (hl : s.lifecycle = c.lifecycle)
    (h : Trace (Slot.surroundings k key) (s.advance g o) w τ a w') :
    ∃ τ₁ d w₁ τ₂, Decides k key s.policy g c o w τ₁ d w₁ ∧
      Settles k key s.policy d w₁ τ₂ a.result w' ∧ τ = τ₁ ++ τ₂ := by
  obtain ⟨first, settled, w₁, rest, ht, hr, rfl⟩ := trace_bind.1 h
  rcases timed_of_trace ht with ⟨rfl, hin⟩ | ⟨stage, τ₁, w₂, τ₂, rfl, hup, hs, rfl⟩
  · obtain ⟨second, settled, w₂, last, hb, hr', rfl⟩ := trace_bind.1 hr
    rw [beginDeletion] at hb
    split at hb
    · next hm =>
        obtain ⟨τ₁, stage, w₃, τ₂, hn, hd, rfl⟩ := trace_bind.1 hb
        obtain ⟨rfl, rfl, rfl⟩ := trace_done.1 hd
        obtain ⟨rfl, rfl, rfl⟩ := trace_done.1 hr'
        refine ⟨first, _, w₁, τ₁, .marked hin hm.1 hm.2.1 hm.2.2, ?_, by simp⟩
        exact settles_of_trace true hn
    · next hm =>
        obtain ⟨rfl, rfl, rfl⟩ := trace_done.1 hb
        -- a marked object is only served if its deletion has begun, or if it has failed
        have hm : o.metadata.isMarked = true → o.phase = .deleting ∨ o.phase = .failed := by
          intro hmark
          by_contra hne
          rw [not_or] at hne
          exact hm ⟨hmark, hne⟩
        rw [hl] at hr'
        obtain ⟨τ₁, d, w₃, τ₂, hs, hset, rfl⟩ := served_of_trace hr'
        exact ⟨first ++ τ₁, d, w₃, τ₂, .served hin hm hs, hset, by simp⟩
  · obtain ⟨rfl, rfl, rfl⟩ := trace_done.1 hr
    exact ⟨τ₁, _, w₂, τ₂, .timedOut hup, hs, by simp⟩

/-- Every reconciliation of the object of the key is one of the cases. -/
theorem invokes_of_trace {s : Setting (Resource Spec St)} (hl : s.lifecycle = c.lifecycle)
    {stored : Option (Resource Spec St)} {result : Outcome Action}
    (h : Trace (Slot.surroundings k key) (s.reconcile key.1 key.2) ⟨stored, false⟩ τ result w') :
    Invokes s k key c stored τ result w' := by
  obtain ⟨reply, w₁, w₂, rest, ha, hd, hr, rfl⟩ := trace_call.1 h
  cases ha with
  | refused hf =>
      obtain ⟨rfl, rfl, rfl⟩ := trace_done.1 hr
      exact .unread hf hd
  | elsewhere hne => exact absurd rfl hne
  | found _ =>
      cases stored with
      | none =>
          obtain ⟨rfl, rfl, rfl⟩ := trace_done.1 hr
          exact .absent hd
      | some o =>
          dsimp only at hr
          split at hr
          · next hten =>
              obtain ⟨rfl, rfl, rfl⟩ := trace_done.1 hr
              exact .tenantless hten.1 hten.2 hd
          · next hten =>
              obtain ⟨reply, w₃, w₄, rest, rfl, hd', hr', rfl⟩ := trace_call.1 hr
              cases reply with
              | error f =>
                  obtain ⟨rfl, rfl, rfl⟩ := trace_done.1 hr'
                  exact .unauthenticated hd hd'
              | ok token =>
                  obtain ⟨τ₀, stage, w₅, last, hadv, hdone, rfl⟩ := trace_bind.1 hr'
                  obtain ⟨rfl, rfl, rfl⟩ := trace_done.1 hdone
                  obtain ⟨τ₁, d, w₆, τ₂, hdec, hset, rfl⟩ := decides_of_trace hl hadv
                  rw [List.append_nil]
                  exact .decided hten hd hd' hdec hset

end

end CloudReconciler
