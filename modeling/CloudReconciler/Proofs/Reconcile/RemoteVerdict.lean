import CloudReconciler.Proofs.Reconcile.Outcome
import CloudReconciler.Proofs.Reconcile.StatusRecord

/-! # Remote verdicts — how the end of a remote call decides between retry and failure

    A remote call ends in a reply, in a failed transport or in a
    cancellation.  Methods and statuses alone tell the ends apart, and of a
    success whether its body can be read; what else a body says appears in
    messages only.

    * `EngineAnswer.Postpones`, `EngineAnswer.Rejects`: the ends after which
      the call is tried again, and those after which the object fails;
    * `EngineAnswer.fault?`: the fault that a call ends in;
    * `HeedsRemote`: what an invocation makes of the two kinds of ends. -/

namespace CloudReconciler

/-! ## Ends of remote calls -/

section

variable {O α : Type} (decode? : Json → Option α)

/-- The body of a success can be read: one to DELETE is not looked at, and one to PUT may be
    blank. -/
def Gateway.Legible (method : Method) (body : List UInt8) : Prop :=
  method = "DELETE" ∨ (method = "PUT" ∧ body.all Text.isBlankByte = true) ∨
    ((Json.ofBytes? body).bind decode?).isSome = true

/-- A remote call has ended so that it is tried again. -/
inductive EngineAnswer.Postpones : EngineAnswer O → Prop
  | unsent {w w₁} : Postpones ⟨.remote .isCancelled, true, w, w₁⟩
  | interrupted {r late w w₁} : Postpones ⟨.remote (.send r), .cancelled late, w, w₁⟩
  | transport {r f w w₁} : f.problem? = none →
      Postpones ⟨.remote (.send r), .reply (.error f), w, w₁⟩
  | notReady {r reply w w₁} :
      reply.status = 400 ∨ reply.status = 404 ∧ r.method ≠ "DELETE" →
      Postpones ⟨.remote (.send r), .reply (.ok reply), w, w₁⟩
  | server {r reply w w₁} : 500 ≤ reply.status → reply.status < 600 →
      Postpones ⟨.remote (.send r), .reply (.ok reply), w, w₁⟩
  | other {r reply w w₁} : Reply.isSuccess reply.status = false →
      reply.status < 400 ∨ 600 ≤ reply.status →
      Postpones ⟨.remote (.send r), .reply (.ok reply), w, w₁⟩
  | illegible {r reply w w₁} : Reply.isSuccess reply.status = true →
      ¬ Gateway.Legible decode? r.method reply.body →
      Postpones ⟨.remote (.send r), .reply (.ok reply), w, w₁⟩

/-- A remote call has ended so that the object fails. -/
inductive EngineAnswer.Rejects : EngineAnswer O → Prop
  | client {r reply w w₁} : 400 ≤ reply.status → reply.status < 500 →
      reply.status ≠ 400 → reply.status ≠ 404 →
      ¬ (r.method = "DELETE" ∧ reply.status = 405) →
      Rejects ⟨.remote (.send r), .reply (.ok reply), w, w₁⟩

/-- What the typed calls of the gateway make of the body of a success. -/
def Gateway.reading (method : Method) (body : List UInt8) : Outcome Unit :=
  if method = "DELETE" ∨ method = "PUT" ∧ body.all Text.isBlankByte = true then .ok ()
  else (Gateway.decode decode? body).map fun _ => ()

/-- The fault that a remote call has ended in, if any. -/
def EngineAnswer.fault? : EngineAnswer O → Option Fault
  | ⟨.remote .isCancelled, true, _, _⟩ => some .cancelled
  | ⟨.remote (.send r), wake, _, _⟩ =>
      match Gateway.verdict r.method wake >>= Gateway.reading decode? r.method with
      | .error f => some f
      | .ok () => none
  | _ => none

end

/-! ## What the faults lead to -/

/-- The fault is retried in the phase that it meets. -/
def Fault.IsRetried (f : Fault) : Prop :=
  ∀ p, (Transition.ofFault p f).phase = p ∧ (Transition.ofFault p f).requeue = true

/-- The fault fails the object. -/
def Fault.IsFinal (f : Fault) : Prop :=
  ∀ p, (Transition.ofFault p f).phase = .failed ∧
    (Transition.ofFault p f).reason = "ClientError" ∧ (Transition.ofFault p f).requeue = false

theorem Fault.isRetried_of_problem?_eq_none {f : Fault} (h : f.problem? = none) : f.IsRetried := by
  intro p
  rw [Transition.ofFault, h]
  exact ⟨rfl, rfl⟩

/-- Of the problems only those that the client has caused may be final. -/
theorem Fault.isRetried_problem {p : Problem} (h : p.isNotReady = true ∨ p.isClientError = false) :
    (Fault.problem p).IsRetried := by
  intro current
  by_cases hready : p.isNotReady = true
  · have ht : Transition.ofFault current (.problem p) = _ := if_pos hready
    rw [ht]
    exact ⟨rfl, rfl⟩
  · have hclient : ¬ p.isClientError = true := Bool.not_eq_true _ ▸ h.resolve_left hready
    by_cases hserver : p.isServerError = true
    · have ht : Transition.ofFault current (.problem p) = _ :=
        (if_neg hready).trans ((if_neg hclient).trans (if_pos hserver))
      rw [ht]
      exact ⟨rfl, rfl⟩
    · have ht : Transition.ofFault current (.problem p) = _ :=
        (if_neg hready).trans ((if_neg hclient).trans (if_neg hserver))
      rw [ht]
      exact ⟨rfl, rfl⟩

theorem Fault.isFinal_problem {p : Problem} (hready : p.isNotReady = false)
    (hclient : p.isClientError = true) : (Fault.problem p).IsFinal := by
  intro current
  have hready : ¬ p.isNotReady = true := Bool.not_eq_true _ ▸ hready
  have ht : Transition.ofFault current (.problem p) = _ :=
    (if_neg hready).trans (if_pos hclient)
  rw [ht]
  exact ⟨rfl, rfl, rfl⟩

section

variable {O α : Type} {decode? : Json → Option α} {a : EngineAnswer O} {method : Method}
  {reply : Reply}

/-- A reply that is neither a success nor the news that what is to be deleted is gone, and whose
    status is one of an error, ends the call in the problem of that status. -/
theorem Reply.body?_of_problem (hs : isSuccess reply.status = false)
    (hgone : isGone method reply.status = false) (hlow : 400 ≤ reply.status)
    (hhigh : reply.status < 600) :
    reply.body? method = .error (.problem (.ofBody reply.status reply.body)) := by
  rw [body?, hs, hgone]
  simp only [hlow, hhigh, Bool.or_self, Bool.false_eq_true, if_false, decide_true, Bool.and_self,
    if_true]

/-- Statuses of errors are not those of success. -/
theorem Reply.isSuccess_of_le {status : UInt16} (h : 400 ≤ status) : isSuccess status = false := by
  have hne : ∀ n : UInt16, n < 400 → (status == n) = false := by
    intro n hn
    refine beq_eq_false_iff_ne.2 ?_
    rintro rfl
    exact absurd h (UInt16.not_le.2 hn)
  rw [isSuccess, hne 200 (by decide), hne 201 (by decide), hne 202 (by decide), hne 204 (by decide)]
  rfl

theorem Reply.isGone_of_ne {status : UInt16} (h : ¬ (method = "DELETE" ∧ status = 404))
    (h' : ¬ (method = "DELETE" ∧ status = 405)) : isGone method status = false := by
  rw [isGone]
  by_cases hm : method = "DELETE"
  · have hne : status ≠ 404 := fun he => h ⟨hm, he⟩
    have hne' : status ≠ 405 := fun he => h' ⟨hm, he⟩
    rw [beq_eq_false_iff_ne.2 hne, beq_eq_false_iff_ne.2 hne']
    exact Bool.and_false _
  · rw [beq_eq_false_iff_ne.2 hm]
    rfl

theorem EngineAnswer.fault?_of_body {r : Request} {f : Fault} {w w₁ : Slot O}
    (h : reply.body? r.method = .error f) :
    fault? decode? (⟨.remote (.send r), .reply (.ok reply), w, w₁⟩ : EngineAnswer O) =
      some f := by
  show (match reply.body? r.method >>= Gateway.reading decode? r.method with
    | .error f => some f
    | .ok () => none) = some f
  rw [h]
  rfl

/-- A body that cannot be read is a fault of its own. -/
theorem Gateway.reading_of_not_legible {body : List UInt8} (h : ¬ Legible decode? method body) :
    ∃ detail, reading decode? method body = .error (.serialization detail) := by
  rw [Legible, not_or, not_or] at h
  obtain ⟨hdelete, hput, hdoc⟩ := h
  have hnone : (Json.ofBytes? body).bind decode? = none := by
    cases hd : (Json.ofBytes? body).bind decode? with
    | none => rfl
    | some doc =>
        rw [hd] at hdoc
        exact absurd rfl hdoc
  rw [reading, if_neg (not_or.2 ⟨hdelete, hput⟩), decode, hnone]
  exact ⟨_, rfl⟩

/-- A call that is tried again has ended in a fault that is retried. -/
theorem EngineAnswer.Postpones.fault (h : a.Postpones decode?) :
    ∃ f, a.fault? decode? = some f ∧ f.IsRetried := by
  cases h with
  | unsent => exact ⟨_, rfl, Fault.isRetried_of_problem?_eq_none rfl⟩
  | interrupted => exact ⟨_, rfl, Fault.isRetried_of_problem?_eq_none rfl⟩
  | transport hf => exact ⟨_, rfl, Fault.isRetried_of_problem?_eq_none hf⟩
  | @notReady r reply _ _ hstatus =>
      have hgone : Reply.isGone r.method reply.status = false := by
        refine Reply.isGone_of_ne (fun he => ?_) fun he => ?_
        · rcases hstatus with hstatus | ⟨-, hmethod⟩
          · exact nomatch he.2.symm.trans hstatus
          · exact hmethod he.1
        · rcases hstatus with hstatus | ⟨-, hmethod⟩
          · exact nomatch he.2.symm.trans hstatus
          · exact hmethod he.1
      have hstatus : reply.status = 400 ∨ reply.status = 404 := hstatus.imp id And.left
      have hready : (reply.status == 400 || reply.status == 404) = true := by
        rw [Bool.or_eq_true, beq_iff_eq, beq_iff_eq]
        exact hstatus
      have hrange : 400 ≤ reply.status ∧ reply.status < 600 := by
        rcases hstatus with hstatus | hstatus
        all_goals
          rw [hstatus]
          decide
      have hproblem := Reply.body?_of_problem (Reply.isSuccess_of_le hrange.1) hgone hrange.1
        hrange.2
      refine ⟨_, fault?_of_body hproblem, Fault.isRetried_problem (.inl ?_)⟩
      rw [Problem.isNotReady, Problem.status_ofBody]
      exact hready
  | @server r reply _ _ hlow hhigh =>
      have hle : 400 ≤ reply.status := UInt16.le_trans (by decide) hlow
      have hne : ∀ n : UInt16, n < 500 → reply.status ≠ n := by
        rintro n hn rfl
        exact absurd hlow (UInt16.not_le.2 hn)
      have hgone : Reply.isGone r.method reply.status = false :=
        Reply.isGone_of_ne (fun he => hne 404 (by decide) he.2) fun he => hne 405 (by decide) he.2
      have hproblem := Reply.body?_of_problem (Reply.isSuccess_of_le hle) hgone hle hhigh
      refine ⟨_, fault?_of_body hproblem, Fault.isRetried_problem (.inr ?_)⟩
      rw [Problem.isClientError, Problem.status_ofBody, decide_eq_false (UInt16.not_lt.2 hlow)]
      exact Bool.and_false _
  | @other r reply _ _ hs hrange =>
      have hgone : Reply.isGone r.method reply.status = false := by
        refine Reply.isGone_of_ne (fun he => ?_) fun he => ?_
        · rw [he.2] at hrange
          exact absurd hrange (by decide)
        · rw [he.2] at hrange
          exact absurd hrange (by decide)
      have htransport : ∃ detail, reply.body? r.method = .error (.transport detail) := by
        have hout : (decide (400 ≤ reply.status) && decide (reply.status < 600)) = false := by
          rcases hrange with hlow | hhigh
          · rw [decide_eq_false (UInt16.not_le.2 hlow)]
            rfl
          · rw [decide_eq_false (UInt16.not_lt.2 hhigh)]
            exact Bool.and_false _
        rw [Reply.body?, hs, hgone, hout]
        exact ⟨_, rfl⟩
      obtain ⟨detail, htransport⟩ := htransport
      exact ⟨_, fault?_of_body htransport, Fault.isRetried_of_problem?_eq_none rfl⟩
  | @illegible r reply _ _ hs hbody =>
      obtain ⟨detail, hread⟩ := Gateway.reading_of_not_legible hbody
      refine ⟨.serialization detail, ?_, Fault.isRetried_of_problem?_eq_none rfl⟩
      show (match reply.body? r.method >>= Gateway.reading decode? r.method with
        | .error f => some f
        | .ok () => none) = _
      have hok : reply.body? r.method = .ok reply.body := by
        rw [Reply.body?, hs]
        rfl
      rw [hok]
      show (match Gateway.reading decode? r.method reply.body with
        | .error f => some f
        | .ok () => none) = _
      rw [hread]

/-- A call that is rejected has ended in a fault that fails the object. -/
theorem EngineAnswer.Rejects.fault (h : a.Rejects) :
    ∃ f, a.fault? decode? = some f ∧ f.IsFinal := by
  cases h with
  | @client r reply _ _ hlow hhigh h400 h404 h405 =>
      have hlt : reply.status < 600 := UInt16.lt_trans hhigh (by decide)
      have hgone : Reply.isGone r.method reply.status = false :=
        Reply.isGone_of_ne (fun he => h404 he.2) h405
      have hproblem := Reply.body?_of_problem (Reply.isSuccess_of_le hlow) hgone hlow hlt
      refine ⟨_, fault?_of_body hproblem, Fault.isFinal_problem ?_ ?_⟩
      · rw [Problem.isNotReady, Problem.status_ofBody, beq_eq_false_iff_ne.2 h400,
          beq_eq_false_iff_ne.2 h404]
        rfl
      · rw [Problem.isClientError, Problem.status_ofBody, decide_eq_true hlow,
          decide_eq_true hhigh]
        rfl

end

/-! ## One invocation -/

variable {Spec St : Type} [Managed Spec St]

/-- A question reads the bodies of successes in the given way. -/
def Ask.ReadsBy {α : Type} (reading : Method → List UInt8 → Outcome Unit) : Ask α → Prop
  | .known _ => True
  | .send method _ _ read => ∀ body, (read body).map (fun _ => ()) = reading method body

/-- A kind reads the bodies of all successes in the given way. -/
structure RemoteCalls.ReadsBy (c : RemoteCalls Spec St)
    (reading : Method → List UInt8 → Outcome Unit) : Prop where
  create : ∀ o, (c.create o).ReadsBy reading
  poll : ∀ o ask, c.poll o = some ask → ask.ReadsBy reading
  push : ∀ o, (c.push o).ReadsBy reading

/-- The invocation tries its remote call again later. -/
structure Invocation.Retries (policy : Policy) (k : Circumstances) (o : Resource Spec St)
    (i : Invocation (Resource Spec St)) : Prop extends i.KeepsObject k o where
  record : ∀ n, i.after = some n → n.phase = o.phase ∧
    n.recordOrBlank.phaseStart = o.recordOrBlank.phaseStart ∧
    n.recordOrBlank.resourceId = o.recordOrBlank.resourceId
  result : (∃ wait, i.result = .ok (.requeue wait) ∧ .zero < wait ∧ wait ≤ policy.interval) ∨
    i.IsRefused k o

/-- What an invocation makes of the ends of its remote calls. -/
structure HeedsRemote {α : Type} (decode? : Json → Option α) (policy : Policy) (k : Circumstances)
    (o : Resource Spec St) (i : Invocation (Resource Spec St)) : Prop where
  postponed : (∃ a ∈ i.answers, a.Postpones decode?) → i.Retries policy k o
  rejected : (∃ a ∈ i.answers, a.Rejects) → i.Fails "ClientError" k o

section

variable {α : Type} {decode? : Json → Option α} {k : Circumstances} {key : ObjectKey}
  {policy : Policy} {g : Gateway} {c : RemoteCalls Spec St} {o p : Resource Spec St}
  {w w₁ : Slot (Resource Spec St)} {τ : List (EngineAnswer (Resource Spec St))}
  {a : EngineAnswer (Resource Spec St)} {f : Fault}

/-- The removal of a remote resource does not look at the body. -/
theorem RemoteCalls.remove_readsBy (c : RemoteCalls Spec St) (o : Resource Spec St) :
    (c.remove o).ReadsBy (Gateway.reading decode?) := by
  rw [remove]
  cases c.address o with
  | none => trivial
  | some endpoint => exact fun _ => rfl

/-- A question of which a call ends in a fault comes to that fault. -/
theorem Asked.eq_error_of_fault {β : Type} {ask : Ask β} {r : Outcome β}
    (h : Asked k g ask w τ r w₁) (hread : ask.ReadsBy (Gateway.reading decode?)) (ha : a ∈ τ)
    (hf : a.fault? decode? = some f) : r = .error f := by
  cases h with
  | known => exact nomatch ha
  | unconfigured => exact nomatch ha
  | cancelled _ =>
      cases List.mem_singleton.1 ha
      cases hf
      rfl
  | @sent method endpoint body read _ _ _ wake _ _ =>
      rcases List.mem_cons.1 ha with rfl | ha
      · exact nomatch hf
      · cases List.mem_singleton.1 ha
        change (match Gateway.verdict method wake >>= Gateway.reading decode? method with
          | .error f => some f
          | .ok () => none) = some f at hf
        cases hv : Gateway.verdict method wake with
        | error f' =>
            rw [hv] at hf
            cases hf
            rfl
        | ok bytes =>
            rw [hv] at hf
            change (match Gateway.reading decode? method bytes with
              | .error f => some f
              | .ok () => none) = some f at hf
            rw [← hread bytes] at hf
            show read bytes = .error f
            cases hr : read bytes with
            | error f' =>
                rw [hr] at hf
                cases hf
                rfl
            | ok x =>
                rw [hr] at hf
                exact nomatch hf

/-- Placing an object makes no remote call. -/
theorem Located.fault?_eq_none {q : Placement (Resource Spec St)} {r : Outcome (Resource Spec St)}
    (h : Located k q w τ r w₁) (ha : a ∈ τ) : a.fault? decode? = none := by
  cases h with
  | here => exact nomatch ha
  | found _ =>
      cases List.mem_singleton.1 ha
      rfl

theorem Timed.fault?_eq_none {up : Bool} (h : Timed k policy o w τ up w₁) (ha : a ∈ τ) :
    a.fault? decode? = none := by
  cases h with
  | untimed _ => exact nomatch ha
  | within _ _ _ _ =>
      cases List.mem_singleton.1 ha
      rfl
  | up _ _ _ _ =>
      cases List.mem_singleton.1 ha
      rfl

theorem Settles.fault?_eq_none {d : Decision (Resource Spec St)} {result : Outcome Action}
    (h : Settles k key policy d w τ result w₁) (ha : a ∈ τ) : a.fault? decode? = none := by
  cases h with
  | rest => exact nomatch ha
  | deferred _ _ =>
      cases List.mem_singleton.1 ha
      rfl
  | written _ _ _ _ =>
      rcases List.mem_cons.1 ha with rfl | ha
      · rfl
      · cases List.mem_singleton.1 ha
        rfl
  | refused _ _ _ _ =>
      rcases List.mem_cons.1 ha with rfl | ha
      · rfl
      · cases List.mem_singleton.1 ha
        rfl

theorem Located.isUpdate_eq_false {q : Placement (Resource Spec St)}
    {r : Outcome (Resource Spec St)} (h : Located k q w τ r w₁) :
    ∀ b ∈ τ, b.isUpdate = false := by
  cases h with
  | here => exact fun b hb => nomatch hb
  | found _ => exact List.forall_mem_singleton.2 rfl

/-- A phase in which a remote call ends in a fault is left as the fault says, with the object as it
    was placed. -/
theorem Serves.of_fault {d : Decision (Resource Spec St)} (h : Serves k key g c o w τ d w₁)
    (hread : c.ReadsBy (Gateway.reading decode?)) (hw : w.Shows k o) (ha : a ∈ τ)
    (hf : a.fault? decode? = some f) :
    w₁.Shows k o ∧ (∀ b ∈ τ, b.isUpdate = false) ∧
      ∃ p, o.Placed p ∧ d = .move (.ofFault o.phase f) p false := by
  have hremove : (c.remove o).ReadsBy (Gateway.reading decode?) := c.remove_readsBy o
  -- after the remote resource has been removed, the object is replaced without another call
  have hremoved : ∀ {τ₁ w₂ b}, Asked k g (c.remove o) w τ₁ (.ok ()) w₂ → τ = τ₁ ++ [b] →
      b.fault? decode? = none → False := by
    intro τ₁ w₂ b hasked hτ hb
    rw [hτ] at ha
    rcases List.mem_append.1 ha with ha | ha
    · exact nomatch hasked.eq_error_of_fault hremove ha hf
    · cases List.mem_singleton.1 ha
      exact nomatch hb.symm.trans hf
  cases h with
  | guarded _ _ | unpolled _ _ | current _ _ | drifted _ _ | ended _ => exact nomatch ha
  | guard _ _ _ _ | unguarded _ _ _ _ =>
      cases List.mem_singleton.1 ha
      exact nomatch hf
  | unplaced _ hl => exact nomatch (hl.fault?_eq_none ha).symm.trans hf
  | uncreated hp hl hasked =>
      have ha := (List.mem_append.1 ha).resolve_left fun ha =>
        nomatch (hl.fault?_eq_none ha).symm.trans hf
      cases hasked.eq_error_of_fault (hread.create _) ha hf
      refine ⟨hasked.shows (hl.shows hw), ?_, _, c.placed o _ hl.gives, by rw [hp]⟩
      exact List.forall_mem_append.2 ⟨hl.isUpdate_eq_false, hasked.isUpdate_eq_false⟩
  | created _ hl hasked =>
      have ha := (List.mem_append.1 ha).resolve_left fun ha =>
        nomatch (hl.fault?_eq_none ha).symm.trans hf
      exact nomatch hasked.eq_error_of_fault (hread.create _) ha hf
  | polled hp hc hasked =>
      cases hasked.eq_error_of_fault (hread.poll o _ hc) ha hf
      exact ⟨hasked.shows hw, hasked.isUpdate_eq_false, o, ⟨rfl, rfl, rfl⟩, by rw [hp]; rfl⟩
  | pushed hp hasked =>
      cases hasked.eq_error_of_fault (hread.push o) ha hf
      exact ⟨hasked.shows hw, hasked.isUpdate_eq_false, o, ⟨rfl, rfl, rfl⟩, by rw [hp]; rfl⟩
  | unremoved hp hasked =>
      cases hasked.eq_error_of_fault hremove ha hf
      exact ⟨hasked.shows hw, hasked.isUpdate_eq_false, o, ⟨rfl, rfl, rfl⟩, by rw [hp]⟩
  | removed _ hasked _ => exact nomatch hasked.eq_error_of_fault hremove ha hf
  | released _ hasked _ _ _ => exact (hremoved hasked rfl rfl).elim
  | gone _ hasked _ _ _ _ => exact (hremoved hasked rfl rfl).elim
  | unreleased _ hasked _ _ _ _ => exact (hremoved hasked rfl rfl).elim

variable {s : Setting (Resource Spec St)} {result : Outcome Action}

/-- An invocation of which a remote call ends in a fault carries out what the fault says, on the
    object as it was placed, and replaces nothing. -/
theorem Invokes.of_fault (h : Invokes s k key c (some o) τ result w)
    (hread : c.ReadsBy (Gateway.reading decode?)) (ha : a ∈ τ) (hf : a.fault? decode? = some f) :
    ∃ p w₁ τ₂, o.Placed p ∧ w₁.Shows k o ∧
      Settles k key s.policy (.move (.ofFault o.phase f) p false) w₁ τ₂ result w ∧
      (∀ b ∈ τ₂, b ∈ τ) ∧ ∀ b ∈ τ, b.isUpdate = false := by
  cases h with
  | unread _ _ | tenantless _ _ _ =>
      cases List.mem_singleton.1 ha
      exact nomatch hf
  | unauthenticated _ _ =>
      rcases List.mem_cons.1 ha with rfl | ha
      · exact nomatch hf
      · cases List.mem_singleton.1 ha
        exact nomatch hf
  | @decided _ token _ _ τ₁ _ _ τ₂ _ _ _ hd₀ hd₁ hdec hset =>
      have hshows := (Slot.Shows.untouched.drifts hd₀).drifts hd₁
      rcases List.mem_cons.1 ha with rfl | ha
      · exact nomatch hf
      rcases List.mem_cons.1 ha with rfl | ha
      · exact nomatch hf
      have ha := (List.mem_append.1 ha).resolve_right fun ha =>
        nomatch (hset.fault?_eq_none ha).symm.trans hf
      cases hdec with
      | timedOut ht => exact nomatch (ht.fault?_eq_none ha).symm.trans hf
      | marked ht _ _ _ => exact nomatch (ht.fault?_eq_none ha).symm.trans hf
      | served ht _ hs =>
          have ha := (List.mem_append.1 ha).resolve_left fun ha =>
            nomatch (ht.fault?_eq_none ha).symm.trans hf
          obtain ⟨hshows₁, hquiet, p, hp, rfl⟩ := hs.of_fault hread (ht.shows hshows) ha hf
          refine ⟨p, _, τ₂, hp, hshows₁, hset, fun b hb => ?_, ?_⟩
          · exact List.mem_cons_of_mem _ (List.mem_cons_of_mem _ (List.mem_append_right _ hb))
          · refine List.forall_mem_cons.2 ⟨rfl, List.forall_mem_cons.2 ⟨rfl, ?_⟩⟩
            refine List.forall_mem_append.2 ⟨?_, hset.isUpdate_eq_false⟩
            exact List.forall_mem_append.2 ⟨ht.isUpdate_eq_false, hquiet⟩

/-- A fault that is retried leaves what the object was recorded as. -/
theorem Invokes.retries (h : Invokes s k o.key c (some o) τ result w)
    (hread : c.ReadsBy (Gateway.reading decode?)) (ha : a ∈ τ) (hf : a.fault? decode? = some f)
    (hretried : f.IsRetried) (hstart : o.recordOrBlank.phaseStart.isSome)
    (hinterval : .zero < s.policy.interval) :
    Invocation.Retries s.policy k o ⟨some o, τ, result, w.stored⟩ := by
  obtain ⟨p, w₁, τ₂, hp, hshows, hset, hτ, hquiet⟩ := h.of_fault hread ha hf
  obtain ⟨hphase, hrequeue⟩ := hretried o.phase
  have hkey : p.key = o.key := hp.continues.key
  have hsame : ∀ n : Resource Spec St, n.status = o.status → n.phase = o.phase ∧
      n.recordOrBlank.phaseStart = o.recordOrBlank.phaseStart ∧
      n.recordOrBlank.resourceId = o.recordOrBlank.resourceId := by
    intro n hn
    rw [Resource.phase, Resource.recordOrBlank_congr hn]
    exact ⟨rfl, rfl, rfl⟩
  refine ⟨⟨hquiet, fun hk => ?_⟩, ?_, ?_⟩
  · exact (hset.alone (fun _ _ _ hd => by cases hd; exact hkey) hshows hk).1
  · cases hset.concludes hkey hshows.keeps with
    | deferred _ _ _ _ hkeeps => exact fun n hn => hsame n (hkeeps n hn).2.1
    | refused _ hkeeps => exact fun n hn => hsame n (hkeeps n hn).2.1
    | @written now _ _ _ _ _ hkeeps =>
        intro n hn
        have hrecord := hkeeps.record hn
        rw [hp.record] at hrecord
        rw [Resource.phase, hrecord]
        refine ⟨hphase, ?_, rfl⟩
        exact (StatusWrite.phaseStart_apply hstart).trans (if_pos hphase)
  · have hset' := hset
    cases hset.concludes hkey hshows.keeps with
    | deferred _ _ hpos hle _ => exact .inl ⟨_, rfl, hpos, hle⟩
    | written _ _ _ =>
        refine .inl ⟨s.policy.interval, ?_, hinterval, Nat.le_refl _⟩
        show Except.ok (Transition.action _ s.policy) = _
        rw [Transition.action, if_pos hrequeue]
    | refused _ _ => exact .inr (hset'.isRefused hkey hshows hτ)

/-- A fault that is final fails the object. -/
theorem Invokes.fails (h : Invokes s k o.key c (some o) τ result w)
    (hread : c.ReadsBy (Gateway.reading decode?)) (ha : a ∈ τ) (hf : a.fault? decode? = some f)
    (hfinal : f.IsFinal) : Invocation.Fails "ClientError" k o ⟨some o, τ, result, w.stored⟩ := by
  obtain ⟨p, w₁, τ₂, hp, hshows, hset, hτ, hquiet⟩ := h.of_fault hread ha hf
  obtain ⟨hphase, hreason, hrequeue⟩ := hfinal o.phase
  rw [← hreason]
  exact hset.fails hp hshows hτ hquiet hphase hrequeue

end

/-- What holds of the remote calls of a kind that reads the bodies of successes in a way. -/
theorem RemoteCalls.ReadsBy.heedsRemote {α : Type} {decode? : Json → Option α}
    {c : RemoteCalls Spec St} (hread : c.ReadsBy (Gateway.reading decode?))
    {s : Setting (Resource Spec St)} (hl : s.lifecycle = c.lifecycle) {k : Circumstances}
    {o : Resource Spec St} {τ : List (EngineAnswer (Resource Spec St))} {result : Outcome Action}
    {w : Slot (Resource Spec St)} (hinterval : .zero < s.policy.interval)
    (hstart : o.recordOrBlank.phaseStart.isSome)
    (h : Procedure.Trace (Slot.surroundings k o.key) (s.reconcile o.key.1 o.key.2)
      ⟨some o, false⟩ τ result w) :
    HeedsRemote decode? s.policy k o ⟨some o, τ, result, w.stored⟩ where
  postponed := by
    rintro ⟨a, ha, hends⟩
    obtain ⟨f, hf, hretried⟩ := hends.fault
    exact (invokes_of_trace hl h).retries hread ha hf hretried hstart hinterval
  rejected := by
    rintro ⟨a, ha, hends⟩
    obtain ⟨f, hf, hfinal⟩ : ∃ f, a.fault? decode? = some f ∧ f.IsFinal := hends.fault
    exact (invokes_of_trace hl h).fails hread ha hf hfinal

/-! ## Projects and volumes -/

/-- Reading a document and looking at it is reading it. -/
theorem reads_decode {α β : Type} {decode? : Json → Option α} {method : Method}
    (hmethod : method ≠ "DELETE" ∧ method ≠ "PUT") (look : α → β) (body : List UInt8) :
    ((Gateway.decode decode? body).map look).map (fun _ => ()) =
      Gateway.reading decode? method body := by
  rw [Gateway.reading, if_neg (not_or.2 ⟨hmethod.1, fun h => hmethod.2 h.1⟩)]
  cases Gateway.decode decode? body with
  | error f => rfl
  | ok x => rfl

theorem reads_pushReply {α : Type} (decode? : Json → Option α) (body : List UInt8) :
    (pushReply decode? body).map (fun _ => ()) = Gateway.reading decode? "PUT" body := by
  rw [pushReply, Gateway.reading]
  by_cases hblank : body.all Text.isBlankByte = true
  · rw [if_pos hblank, if_pos (.inr ⟨rfl, hblank⟩)]
    rfl
  · rw [if_neg hblank, if_neg (not_or.2 ⟨by decide, fun h => hblank h.2⟩)]
    cases Gateway.decode decode? body with
    | error f => rfl
    | ok x => rfl

theorem projectCalls_readsBy : projectCalls.ReadsBy (Gateway.reading RemoteProject.ofJson?) where
  create _ := reads_decode (by decide) _
  poll _ _ h := by cases h
  push p := by
    unfold projectCalls
    dsimp only
    split
    · trivial
    · exact reads_pushReply _

theorem volumeCalls_readsBy : volumeCalls.ReadsBy (Gateway.reading RemoteVolume.ofJson?) where
  create _ := reads_decode (by decide) _
  poll v ask h := by
    cases h
    split
    · trivial
    · exact reads_decode (by decide) _
  push v := by
    unfold volumeCalls
    dsimp only
    split
    · trivial
    · exact reads_pushReply _

/-- Whether a project or a volume is retried or fails after a remote call is decided by the method
    and the status, and by whether the body of a success can be read.  A retry leaves the phase,
    its start and the remote identifier, and comes within one interval. -/
theorem remote_verdict :
    (∀ (s : Setting Project) (k : Circumstances) (o : Project) (τ : List (EngineAnswer Project))
        (result : Outcome Action) (w : Slot Project),
      s.lifecycle = projectLifecycle → .zero < s.policy.interval →
      o.recordOrBlank.phaseStart.isSome →
      Procedure.Trace (Slot.surroundings k o.key) (s.reconcile o.key.1 o.key.2) ⟨some o, false⟩ τ
        result w →
      HeedsRemote RemoteProject.ofJson? s.policy k o ⟨some o, τ, result, w.stored⟩) ∧
    (∀ (s : Setting Volume) (k : Circumstances) (o : Volume) (τ : List (EngineAnswer Volume))
        (result : Outcome Action) (w : Slot Volume),
      s.lifecycle = volumeLifecycle → .zero < s.policy.interval →
      o.recordOrBlank.phaseStart.isSome →
      Procedure.Trace (Slot.surroundings k o.key) (s.reconcile o.key.1 o.key.2) ⟨some o, false⟩ τ
        result w →
      HeedsRemote RemoteVolume.ofJson? s.policy k o ⟨some o, τ, result, w.stored⟩) := by
  constructor
  · intro s k o τ result w hl hinterval hstart h
    exact projectCalls_readsBy.heedsRemote (hl.trans projectLifecycle_eq) hinterval hstart h
  · intro s k o τ result w hl hinterval hstart h
    exact volumeCalls_readsBy.heedsRemote (hl.trans volumeLifecycle_eq) hinterval hstart h

namespace Scripted

/-- The project while it is being created. -/
def creatingProject : Project :=
  { newProject with
    metadata := newProject.metadata.attach (Managed.finalizer ProjectSpec)
    status := some { phase := .creating, phaseStart := some ⟨-7, 0⟩ } }

/-- The volume while it is being changed. -/
def updatingVolume : Volume :=
  { newVolume with
    metadata := newVolume.metadata.attach (Managed.finalizer VolumeSpec)
    status := some
      { record := { phase := .updating, phaseStart := some ⟨0, 0⟩, resourceId := some "v1" }
        projectId := some "p1" } }

/-- A remote API that is down. -/
def unavailableWorld : World := worldOf [creatingProject] [] [.reply ⟨503, []⟩]

/-- A remote API that does not accept the change of the volume. -/
def conflictWorld : World := worldOf [] [updatingVolume] [.reply ⟨409, []⟩]

/-- The project is reconciled while the remote API is down. -/
def unavailableStory : Invocation Project :=
  unavailableWorld.invocation projectShelf projectSetting creatingProject.key

/-- The volume is reconciled where its change is not accepted. -/
def conflictStory : Invocation Volume :=
  conflictWorld.invocation volumeShelf volumeSetting updatingVolume.key

theorem admits_unavailableWorld : (projectShelf.store unavailableWorld).Admits calm :=
  ⟨nofun, nofun, nofun, fun _ => rfl⟩

theorem admits_conflictWorld : (volumeShelf.store conflictWorld).Admits calm :=
  ⟨nofun, nofun, nofun, fun _ => rfl⟩

end Scripted

open Scripted in
/-- A server error is retried at the next point of the grid, and a conflict fails the object. -/
theorem remote_verdict_stories :
    (HeedsRemote RemoteProject.ofJson? projectSetting.policy calm creatingProject unavailableStory ∧
      unavailableStory.Retries projectSetting.policy calm creatingProject ∧
      unavailableStory.result = .ok (.requeue (.ofSeconds 13))) ∧
    HeedsRemote RemoteVolume.ofJson? volumeSetting.policy calm updatingVolume conflictStory ∧
      conflictStory.Fails "ClientError" calm updatingVolume ∧ conflictStory.result = .ok .awaitChange := by
  have htraced : Procedure.Trace (Slot.surroundings calm creatingProject.key)
      (projectSetting.reconcile creatingProject.key.1 creatingProject.key.2)
      ⟨some creatingProject, false⟩ unavailableStory.answers unavailableStory.result _ :=
    (World.trace_run projectShelf_isLawful _ admits_unavailableWorld).1
  have htraced' : Procedure.Trace (Slot.surroundings calm updatingVolume.key)
      (volumeSetting.reconcile updatingVolume.key.1 updatingVolume.key.2)
      ⟨some updatingVolume, false⟩ conflictStory.answers conflictStory.result _ :=
    (World.trace_run volumeShelf_isLawful _ admits_conflictWorld).1
  have hproject : HeedsRemote RemoteProject.ofJson? projectSetting.policy calm creatingProject
      unavailableStory := remote_verdict.1 _ _ _ _ _ _ rfl (by decide) rfl htraced
  have hvolume : HeedsRemote RemoteVolume.ofJson? volumeSetting.policy calm updatingVolume
      conflictStory := remote_verdict.2 _ _ _ _ _ _ rfl (by decide) rfl htraced'
  have hdown : ∃ a ∈ unavailableStory.answers, a.Postpones RemoteProject.ofJson? := by
    refine ⟨_, List.mem_of_getElem? (i := 4) rfl, ?_⟩
    exact .server (by decide) (by decide)
  have hconflict : ∃ a ∈ conflictStory.answers, a.Rejects := by
    refine ⟨_, List.mem_of_getElem? (i := 4) rfl, ?_⟩
    exact .client (by decide) (by decide) (by decide) (by decide) (by decide)
  exact ⟨⟨hproject, hproject.postponed hdown, rfl⟩, hvolume,
    hvolume.rejected hconflict, rfl⟩

end CloudReconciler
