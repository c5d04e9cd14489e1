import CloudReconciler.Proofs.Reconcile.Run

/-! # Effects — what one invocation does to the object it reads

    Others may edit the object while an invocation is under way.  Until
    the invocation writes the status itself, the object in the cluster is
    a later version of the one that was read, under the status that was
    read; afterwards it is one under the status that was written.

    * `Slot.Shows`, `Slot.Keeps`: what the slot may hold meanwhile;
    * `Performs`: every single answer of a decision;
    * `Departs`: every transition that may be made out of a phase;
    * `Invokes.effect`: the status write of the invocation, if there is
      one, and the object that is left. -/

namespace CloudReconciler

variable {Spec St : Type}

/-! ## The object during an invocation -/

/-- The object as an invocation holds it after it has read `o`: another remote identifier may be
    recorded, and the finalizers may differ. -/
structure Resource.Continues [Managed Spec St] (o p : Resource Spec St) : Prop where
  key : p.key = o.key
  spec : p.spec = o.spec
  generation : p.metadata.generation = o.metadata.generation
  record : ∃ id, p.recordOrBlank = { o.recordOrBlank with resourceId := id }

variable [Managed Spec St]

namespace Resource

variable {o p n : Resource Spec St}

theorem Continues.refl (o : Resource Spec St) : o.Continues o := ⟨rfl, rfl, rfl, _, rfl⟩

theorem Placed.continues (h : o.Placed p) : o.Continues p := by
  have hkey : p.key = o.key := by
    rw [key, key, namespaceText, namespaceText, name, name, h.metadata]
  exact ⟨hkey, h.spec, congrArg _ h.metadata, _, h.record⟩

theorem Continues.named (h : o.Continues p) (id : String) : o.Continues (p.named id) := by
  obtain ⟨_, hid⟩ := h.record
  refine ⟨h.key, h.spec, h.generation, some id, ?_⟩
  rw [Resource.named, recordOrBlank, record?_withRecord, Option.getD_some, hid]

theorem Continues.guarded (o : Resource Spec St) : o.Continues o.guarded :=
  ⟨rfl, rfl, rfl, _, rfl⟩

theorem Continues.released (o : Resource Spec St) : o.Continues o.released :=
  ⟨rfl, rfl, rfl, _, rfl⟩

theorem recordOrBlank_congr (h : n.status = o.status) : n.recordOrBlank = o.recordOrBlank := by
  rw [recordOrBlank, recordOrBlank, record?, record?, h]

theorem Continues.matches (h : o.Continues p) (hn : n.Matches p) (hs : n.status = p.status) :
    o.Continues n := by
  obtain ⟨id, hid⟩ := h.record
  refine ⟨hn.key.trans h.key, hn.spec.trans h.spec, hn.generation.trans h.generation, id, ?_⟩
  rw [← hid]
  exact recordOrBlank_congr hs

theorem phase_congr (h : n.status = o.status) : n.phase = o.phase :=
  congrArg Status.phase (recordOrBlank_congr h)

/-- The record after a transition. -/
theorem recordOrBlank_recorded (t : Transition) (now : Instant) (o : Resource Spec St) :
    (t.recorded now o).recordOrBlank = t.apply o.metadata.generation now o.recordOrBlank := by
  rw [Transition.recorded, recordOrBlank, record?_withRecord, Option.getD_some]

theorem phase_recorded (t : Transition) (now : Instant) (o : Resource Spec St) :
    (t.recorded now o).phase = t.phase := by
  rw [phase, recordOrBlank_recorded]
  rfl

end Resource

namespace Slot

/-- The slot as others may have changed it since the object was last received. -/
inductive Shows (k : Circumstances) (o : Resource Spec St) : Slot (Resource Spec St) → Prop
  | untouched : Shows k o ⟨some o, false⟩
  | edited {n} : k.concurrent → o.Edited n → Shows k o ⟨some n, true⟩
  | removed : k.concurrent → ¬ o.IsGuarded → Shows k o ⟨none, true⟩

/-- The object in the slot is a later version of the given one and has the given status. -/
def Keeps (k : Circumstances) (o : Resource Spec St) (st : Option St)
    (w : Slot (Resource Spec St)) : Prop :=
  ∀ n, w.stored = some n → o.Succeeds n ∧ n.status = st ∧
    (¬ k.concurrent → n.metadata.generation = o.metadata.generation)

variable {k : Circumstances} {key : ObjectKey} {o p n : Resource Spec St}
  {w w₁ : Slot (Resource Spec St)} {st : Option St}

theorem Shows.drifts (h : w.Shows k o) (hd : w.Drifts k w₁) : w₁.Shows k o := by
  rcases hd with rfl | ⟨hc, hm⟩
  · exact h
  · cases hm with
    | @edited a b _ hab =>
        cases h with
        | untouched => exact .edited hc hab
        | edited _ ha => exact .edited hc (ha.trans hab)
    | @removed a _ ha =>
        cases h with
        | untouched => exact .removed hc ha
        | edited _ hoa => exact .removed hc (hoa.isGuarded_iff.not.1 ha)

theorem Keeps.drifts (h : w.Keeps k o st) (hd : w.Drifts k w₁) : w₁.Keeps k o st := by
  rcases hd with rfl | ⟨hc, hm⟩
  · exact h
  · cases hm with
    | @edited a b _ hab =>
        intro n hn
        cases hn
        obtain ⟨hs, hst, -⟩ := h a rfl
        exact ⟨hs.trans hab.toSucceeds, hab.status.trans hst, fun hn => absurd hc hn⟩
    | removed _ => exact fun n hn => nomatch hn

theorem Shows.keeps (h : w.Shows k o) : w.Keeps k o o.status := by
  intro n hn
  cases h with
  | untouched =>
      cases hn
      exact ⟨.refl o, rfl, fun _ => rfl⟩
  | edited hc he =>
      cases hn
      exact ⟨he.toSucceeds, he.status, fun hn => absurd hc hn⟩
  | removed _ _ => exact nomatch hn

/-- A guarded object stays where it is. -/
theorem Shows.stored (h : w.Shows k o) (hg : o.IsGuarded) :
    ∃ n, w.stored = some n ∧ n.IsGuarded := by
  cases h with
  | untouched => exact ⟨o, rfl, hg⟩
  | edited _ he => exact ⟨_, rfl, he.isGuarded_iff.2 hg⟩
  | removed _ hn => exact absurd hg hn

/-- A replacement that succeeds leaves the status that was read. -/
theorem Shows.replaced (h : w.Shows k o) (hw : w.Replaced k key p (.ok n) w₁)
    (hkey : p.key = key) (hs : p.status = o.status) :
    w = ⟨some o, false⟩ ∧ n.Matches p ∧ n.status = o.status ∧
      (w₁ = ⟨some n, false⟩ ∨ w₁ = ⟨none, false⟩ ∧ n.metadata.finalizerList = []) := by
  obtain ⟨cur, rfl, hm, hst, hw₁⟩ := hw.ok hkey
  cases h
  exact ⟨rfl, hm, hst.elim id fun h => h.trans hs, hw₁⟩

omit [Managed Spec St] in
/-- A replacement of metadata keeps the object with its status, or leaves nothing. -/
theorem keeps_of_replaced (hsucc : o.Succeeds n) (hs : n.status = o.status)
    (hgen : n.metadata.generation = o.metadata.generation)
    (hw : w = ⟨some n, false⟩ ∨ w = ⟨none, false⟩ ∧ n.metadata.finalizerList = []) :
    w.Keeps k o o.status := by
  intro m hm
  rcases hw with rfl | ⟨rfl, -⟩
  · cases hm
    exact ⟨hsucc, hs, fun _ => hgen⟩
  · exact nomatch hm

omit [Managed Spec St] in
theorem Keeps.written (h : w.Keeps k o st) (hw : w.StatusWritten k key p (.ok n) w₁)
    (hkey : p.key = key) : w₁.Keeps k o p.status := by
  obtain ⟨cur, stale, rfl, rfl, hm, hs⟩ := hw.ok hkey
  obtain ⟨hsucc, -, halone⟩ := h cur rfl
  intro m hm'
  cases hm'
  exact ⟨hsucc.trans hm.succeeds, hs, fun hn => hm.generation.trans (halone hn)⟩

end Slot

/-! ## The answers of a decision -/

section

variable (k : Circumstances) (g : Gateway) (c : RemoteCalls Spec St) (o : Resource Spec St)

/-- The request that a phase sends. -/
inductive Requests : Method → Option Json → Prop
  | create : o.phase = .creating → Requests "POST" (some (c.document o))
  | poll : o.phase = .provisioning → Requests "GET" none
  | push : o.phase = .updating → Requests "PUT" (some (c.document o))
  | remove : o.phase = .deleting → Requests "DELETE" none

/-- An answer on the way to a decision about the object. -/
inductive Performs : EngineAnswer (Resource Spec St) → Prop
  | clock {now w} : Performs (.aside .now now w)
  | project {namespace_ name reply w} : Performs (.aside (.fetchProject namespace_ name) reply w)
  | checked {stopped w} : Performs (.aside (.remote .isCancelled) stopped w)
  | requested {method endpoint body wake w} : Requests c o method body → w.Shows k o →
      Performs (.aside (.remote (.send (g.request method endpoint body))) wake w)
  | attached {n} : o.phase = .uninitialized → ¬ o.IsGuarded → n.Matches o.guarded →
      Performs ⟨.update o.guarded, .ok n, ⟨some o, false⟩, ⟨some n, false⟩⟩
  | released {n w} : o.phase = .deleting → o.IsGuarded → n.Matches o.released →
      w = ⟨some n, false⟩ ∨ w = ⟨none, false⟩ ∧ n.metadata.finalizerList = [] →
      Performs ⟨.update o.released, .ok n, ⟨some o, false⟩, w⟩
  | refused {p f w} : Performs ⟨.update p, .error f, w, w⟩

end

section

variable {k : Circumstances} {key : ObjectKey} {policy : Policy} {g : Gateway}
  {c : RemoteCalls Spec St} {o : Resource Spec St} {w w₁ : Slot (Resource Spec St)}
  {τ : List (EngineAnswer (Resource Spec St))}

/-- What holds whatever others do to the slot holds after a question. -/
theorem Asked.preserves {P : Slot (Resource Spec St) → Prop}
    (hP : ∀ w w₁, w.Drifts k w₁ → P w → P w₁) {α : Type} {ask : Ask α} {r : Outcome α}
    (h : Asked k g ask w τ r w₁) (hw : P w) : P w₁ := by
  cases h with
  | known => exact hw
  | unconfigured => exact hw
  | cancelled hd => exact hP _ _ hd hw
  | sent hd hd' => exact hP _ _ hd' (hP _ _ hd hw)

theorem Asked.shows {α : Type} {ask : Ask α} {r : Outcome α} (h : Asked k g ask w τ r w₁)
    (hw : w.Shows k o) : w₁.Shows k o :=
  h.preserves (fun _ _ hd hw => hw.drifts hd) hw

theorem Located.shows {p : Placement (Resource Spec St)} {r : Outcome (Resource Spec St)}
    (h : Located k p w τ r w₁) (hw : w.Shows k o) : w₁.Shows k o := by
  cases h with
  | here => exact hw
  | found hd => exact hw.drifts hd

theorem Timed.shows {up : Bool} (h : Timed k policy o w τ up w₁) (hw : w.Shows k o) :
    w₁.Shows k o := by
  cases h with
  | untimed _ => exact hw
  | within _ _ _ hd => exact hw.drifts hd
  | up _ _ _ hd => exact hw.drifts hd

theorem Asked.performs {α : Type} {ask : Ask α} {r : Outcome α} {method : Method}
    {body : Option Json} (h : Asked k g ask w τ r w₁) (hask : ask.Sends method body)
    (hreq : Requests c o method body) (hw : w.Shows k o) : ∀ a ∈ τ, Performs k g c o a := by
  cases h with
  | known => exact fun a ha => nomatch ha
  | unconfigured => exact fun a ha => nomatch ha
  | cancelled _ => exact List.forall_mem_singleton.2 .checked
  | sent hd _ =>
      obtain ⟨rfl, rfl⟩ := hask
      refine List.forall_mem_cons.2 ⟨.checked, List.forall_mem_singleton.2 ?_⟩
      exact .requested hreq (hw.drifts hd)

theorem Located.performs {p : Placement (Resource Spec St)} {r : Outcome (Resource Spec St)}
    (h : Located k p w τ r w₁) : ∀ a ∈ τ, Performs k g c o a := by
  cases h with
  | here => exact fun a ha => nomatch ha
  | found _ => exact List.forall_mem_singleton.2 .project

theorem Timed.performs {up : Bool} (h : Timed k policy o w τ up w₁) :
    ∀ a ∈ τ, Performs k g c o a := by
  cases h with
  | untimed _ => exact fun a ha => nomatch ha
  | within _ _ _ _ => exact List.forall_mem_singleton.2 .clock
  | up _ _ _ _ => exact List.forall_mem_singleton.2 .clock

/-- Removing the remote resource, and the answer to the replacement that follows it. -/
theorem Asked.performs_released {r : Outcome Unit} {a : EngineAnswer (Resource Spec St)}
    (h : Asked k g (c.remove o) w τ r w₁) (hp : o.phase = .deleting) (hw : w.Shows k o)
    (ha : Performs k g c o a) : ∀ b ∈ τ ++ [a], Performs k g c o b :=
  List.forall_mem_append.2
    ⟨h.performs (c.remove_sends o) (.remove hp) hw, List.forall_mem_singleton.2 ha⟩

/-- The creation of a placed object sends the document of the object that was read. -/
theorem RemoteCalls.create_sends_placed {p : Resource Spec St} (hp : (c.placement o).Gives p) :
    (c.create p).Sends "POST" (some (c.document o)) := by
  have hc := (c.placed o p hp).continues
  rw [← c.document_congr o p hc.key hc.spec]
  exact c.create_sends p

theorem Serves.performs {d : Decision (Resource Spec St)} (h : Serves k key g c o w τ d w₁)
    (hkey : o.key = key) (hw : w.Shows k o) : ∀ a ∈ τ, Performs k g c o a := by
  cases h with
  | guarded _ _ => exact fun a ha => nomatch ha
  | guard hp hg hr _ =>
      refine List.forall_mem_singleton.2 ?_
      obtain ⟨rfl, hm, -, rfl | ⟨-, hnil⟩⟩ := hw.replaced hr hkey rfl
      · exact .attached hp hg hm
      · -- the finalizer was just attached
        rw [hm.finalizers] at hnil
        exact absurd hnil (List.append_ne_nil_of_right_ne_nil _ (List.cons_ne_nil _ _))
  | unguarded _ _ hr _ =>
      refine List.forall_mem_singleton.2 ?_
      obtain ⟨rfl, -⟩ := hr.error hkey
      exact .refused
  | unplaced _ hl => exact hl.performs
  | uncreated hp hl ha =>
      refine List.forall_mem_append.2 ⟨hl.performs, ?_⟩
      exact ha.performs (c.create_sends_placed hl.gives) (.create hp) (hl.shows hw)
  | created hp hl ha =>
      refine List.forall_mem_append.2 ⟨hl.performs, ?_⟩
      exact ha.performs (c.create_sends_placed hl.gives) (.create hp) (hl.shows hw)
  | unpolled _ _ => exact fun a ha => nomatch ha
  | polled hp hc ha => exact ha.performs (c.poll_sends o _ hc) (.poll hp) hw
  | pushed hp ha => exact ha.performs (c.push_sends o) (.push hp) hw
  | current _ _ => exact fun a ha => nomatch ha
  | drifted _ _ => exact fun a ha => nomatch ha
  | unremoved hp ha => exact ha.performs (c.remove_sends o) (.remove hp) hw
  | removed hp ha _ => exact ha.performs (c.remove_sends o) (.remove hp) hw
  | released hp ha hg hr _ =>
      obtain ⟨rfl, hm, -, hw₂⟩ := (ha.shows hw).replaced hr hkey rfl
      exact ha.performs_released hp hw (.released hp hg hm hw₂)
  | gone hp ha _ hr _ _ =>
      obtain ⟨rfl, -⟩ := hr.error hkey
      exact ha.performs_released hp hw .refused
  | unreleased hp ha _ hr _ _ =>
      obtain ⟨rfl, -⟩ := hr.error hkey
      exact ha.performs_released hp hw .refused
  | ended _ => exact fun a ha => nomatch ha

/-- Serving a phase leaves the status that was read. -/
theorem Serves.keeps {d : Decision (Resource Spec St)} (h : Serves k key g c o w τ d w₁)
    (hkey : o.key = key) (hw : w.Shows k o) : w₁.Keeps k o o.status := by
  cases h with
  | guarded _ _ => exact hw.keeps
  | guard hp hg hr hd =>
      obtain ⟨rfl, hm, hs, hw₁⟩ := hw.replaced hr hkey rfl
      have hsucc : o.Succeeds _ := ⟨hm.key, .inl ⟨hm.spec, hm.generation⟩⟩
      exact (Slot.keeps_of_replaced hsucc hs hm.generation hw₁).drifts hd
  | unguarded _ _ hr hd =>
      obtain ⟨rfl, -⟩ := hr.error hkey
      exact (hw.drifts hd).keeps
  | unplaced _ hl => exact (hl.shows hw).keeps
  | uncreated _ hl ha => exact (ha.shows (hl.shows hw)).keeps
  | created _ hl ha => exact (ha.shows (hl.shows hw)).keeps
  | unpolled _ _ => exact hw.keeps
  | polled _ _ ha => exact (ha.shows hw).keeps
  | pushed _ ha => exact (ha.shows hw).keeps
  | current _ _ => exact hw.keeps
  | drifted _ _ => exact hw.keeps
  | unremoved _ ha => exact (ha.shows hw).keeps
  | removed _ ha _ => exact (ha.shows hw).keeps
  | released hp ha hg hr hd =>
      obtain ⟨rfl, hm, hs, hw₂⟩ := (ha.shows hw).replaced hr hkey rfl
      have hsucc : o.Succeeds _ := ⟨hm.key, .inl ⟨hm.spec, hm.generation⟩⟩
      exact (Slot.keeps_of_replaced hsucc hs hm.generation hw₂).drifts hd
  | gone _ ha _ hr _ hd =>
      obtain ⟨rfl, -⟩ := hr.error hkey
      exact ((ha.shows hw).drifts hd).keeps
  | unreleased _ ha _ hr _ hd =>
      obtain ⟨rfl, -⟩ := hr.error hkey
      exact ((ha.shows hw).drifts hd).keeps
  | ended _ => exact hw.keeps

end

/-! ## The transition of a decision -/

/-- The transitions that may be made out of a phase, where the object is marked for deletion or
    not. -/
inductive Departs (storeFault : Fault → Prop) (provisions marked : Prop) : Phase → Transition → Prop
  | initialized : Departs storeFault provisions marked .uninitialized .initialized
  | unguarded {f} : storeFault f →
      Departs storeFault provisions marked .uninitialized (.ofFault .uninitialized f)
  | fault {p f} : p.isTransitioning = true →
      Departs storeFault provisions marked p (.ofFault p f)
  | created {state : Option String} : (state.isSome → provisions) →
      Departs storeFault provisions marked .creating (.ofCreation state)
  | polled {state} : provisions → Departs storeFault provisions marked .provisioning (.ofPoll state)
  | updated : Departs storeFault provisions marked .updating .updated
  | drifted : Departs storeFault provisions marked .created .updating
  | timedOut {p d} : p.isTransitioning = true →
      Departs storeFault provisions marked p (.timedOut d)
  | marked {p} : marked → p ≠ .deleting → p ≠ .failed →
      Departs storeFault provisions marked p .toBeDeleted

/-- A fault is retried in its phase or fails the object, and only a problem of the remote API
    fails it. -/
theorem Transition.ofFault_spec (p : Phase) (f : Fault) :
    (ofFault p f).synchronized = false ∧
      ((ofFault p f).phase = p ∨ (ofFault p f).phase = .failed ∧ f.problem? ≠ none) := by
  rw [ofFault]
  cases hf : f.problem? with
  | none => exact ⟨rfl, .inl rfl⟩
  | some problem =>
      by_cases hready : problem.isNotReady = true
      · simp [hready]
      · by_cases hclient : problem.isClientError = true
        · simp [hready, hclient]
        · by_cases hserver : problem.isServerError = true
          · simp [hready, hclient, hserver]
          · simp [hready, hclient, hserver, ofFault.retry]

/-- A fault leads to no phase but its own and failure. -/
theorem Transition.ofFault_phase_ne {p q : Phase} {f : Fault} (hp : p ≠ q) (hq : .failed ≠ q) :
    (ofFault p f).phase ≠ q := by
  obtain ⟨-, hphase | ⟨hphase, -⟩⟩ := ofFault_spec p f
  · rwa [hphase]
  · rwa [hphase]

/-- A creation leads to usable resources, or to provisioning when a state is reported. -/
theorem Transition.ofCreation_cases (state : Option String) :
    ofCreation state = created ∨ ofCreation state = provisioning ∧ state.isSome := by
  cases state with
  | none => exact .inl rfl
  | some s =>
      by_cases hs : s ∈ remoteStates.pending
      · exact .inr ⟨if_pos hs, rfl⟩
      · exact .inl (if_neg hs)

theorem Transition.ofPoll_cases (state : Option String) :
    ofPoll state = created ∨ ofPoll state = provisioning ∨
      ∃ s, ofPoll state = provisioningFailed s := by
  cases state with
  | none => exact .inr (.inl rfl)
  | some s =>
      by_cases hs : s ∈ remoteStates.ready
      · exact .inl (if_pos hs)
      · by_cases hf : s ∈ remoteStates.failed
        · exact .inr (.inr ⟨s, (if_neg hs).trans (if_pos hf)⟩)
        · exact .inr (.inl ((if_neg hs).trans (if_neg hf)))

section

variable {k : Circumstances} {key : ObjectKey} {policy : Policy} {g : Gateway}
  {c : RemoteCalls Spec St} {o p : Resource Spec St} {w w₁ : Slot (Resource Spec St)}
  {τ : List (EngineAnswer (Resource Spec St))} {t : Transition} {urgent : Bool}

/-- The transition after an outcome may be made if the one after every success may. -/
theorem Departs.ofOutcome {α : Type} {storeFault : Fault → Prop} {provisions marked : Prop}
    {p : Phase} {next : α → Transition} (hp : p.isTransitioning = true)
    (h : ∀ a, Departs storeFault provisions marked p (next a)) (r : Outcome α) :
    Departs storeFault provisions marked p (.ofOutcome p next r) := by
  cases r with
  | error f => exact .fault hp
  | ok a => exact h a

theorem Serves.departs (h : Serves k key g c o w τ (.move t p urgent) w₁) (hkey : o.key = key) :
    Departs k.storeFault c.provisions (o.metadata.isMarked = true) o.phase t := by
  cases h with
  | guarded hp _ =>
      rw [hp]
      exact .initialized
  | guard hp _ _ _ =>
      rw [hp]
      exact .initialized
  | unguarded hp _ hr _ =>
      rw [hp]
      exact .unguarded (hr.error hkey).2
  | unplaced hp _ =>
      rw [hp]
      exact .fault rfl
  | uncreated hp _ _ =>
      rw [hp]
      exact .fault rfl
  | created hp hl ha =>
      rw [hp]
      exact .created (c.create_state _ _ ha.yields)
  | polled hp hc _ =>
      rw [hp]
      exact .ofOutcome rfl (fun _ => .polled (c.poll_isSome o (Option.isSome_of_eq_some hc))) _
  | pushed hp _ =>
      rw [hp]
      exact .ofOutcome rfl (fun _ => .updated) _
  | drifted hp _ =>
      rw [hp]
      exact .drifted
  | unremoved hp _ =>
      rw [hp]
      exact .fault rfl
  | unreleased hp _ _ _ _ _ =>
      rw [hp]
      exact .fault rfl

theorem Serves.continues (h : Serves k key g c o w τ (.move t p urgent) w₁) (hkey : o.key = key)
    (hw : w.Shows k o) : o.Continues p := by
  cases h with
  | guarded _ _ => exact .refl o
  | guard _ _ hr _ =>
      obtain ⟨-, hm, hs, -⟩ := hw.replaced hr hkey rfl
      exact (Resource.Continues.guarded o).matches hm hs
  | unguarded _ _ _ _ => exact .guarded o
  | unplaced _ _ => exact .refl o
  | uncreated _ hl _ => exact (c.placed o p hl.gives).continues
  | created _ hl _ => exact (c.placed o _ hl.gives).continues.named _
  | polled _ _ _ => exact .refl o
  | pushed _ _ => exact .refl o
  | drifted _ _ => exact .refl o
  | unremoved _ _ => exact .refl o
  | unreleased _ _ _ _ _ _ => exact .released o

/-- The phase is transitioning when its time is up. -/
theorem Timed.isTransitioning (h : Timed k policy o w τ true w₁) :
    o.phase.isTransitioning = true := by
  cases h with
  | up _ ht _ _ => exact ht

theorem Decides.performs {d : Decision (Resource Spec St)}
    (h : Decides k key policy g c o w τ d w₁) (hkey : o.key = key) (hw : w.Shows k o) :
    ∀ a ∈ τ, Performs k g c o a := by
  cases h with
  | timedOut ht => exact ht.performs
  | marked ht _ _ _ => exact ht.performs
  | served ht _ hs =>
      exact List.forall_mem_append.2 ⟨ht.performs, hs.performs hkey (ht.shows hw)⟩

theorem Decides.keeps {d : Decision (Resource Spec St)}
    (h : Decides k key policy g c o w τ d w₁) (hkey : o.key = key) (hw : w.Shows k o) :
    w₁.Keeps k o o.status := by
  cases h with
  | timedOut ht => exact (ht.shows hw).keeps
  | marked ht _ _ _ => exact (ht.shows hw).keeps
  | served ht _ hs => exact hs.keeps hkey (ht.shows hw)

theorem Decides.departs (h : Decides k key policy g c o w τ (.move t p urgent) w₁)
    (hkey : o.key = key) :
    Departs k.storeFault c.provisions (o.metadata.isMarked = true) o.phase t := by
  cases h with
  | timedOut ht => exact .timedOut ht.isTransitioning
  | marked _ hm hd hf => exact .marked hm hd hf
  | served _ _ hs => exact hs.departs hkey

theorem Decides.continues (h : Decides k key policy g c o w τ (.move t p urgent) w₁)
    (hkey : o.key = key) (hw : w.Shows k o) : o.Continues p := by
  cases h with
  | timedOut _ => exact .refl o
  | marked _ _ _ _ => exact .refl o
  | served ht _ hs => exact hs.continues hkey (ht.shows hw)

end

/-! ## Whole invocations -/

/-- An answer in an invocation that has read the object. -/
inductive Involves (k : Circumstances) (c : RemoteCalls Spec St) (o : Resource Spec St) :
    EngineAnswer (Resource Spec St) → Prop
  | read {namespace_ name reply w} : Involves k c o (.aside (.fetch namespace_ name) reply w)
  | authenticated {tenant reply w} : Involves k c o (.aside (.authenticate tenant) reply w)
  | decided {g a} : Performs k g c o a → Involves k c o a
  | written {p cur n stale} : n.Matches cur →
      Involves k c o ⟨.updateStatus p, .ok n, ⟨some cur, stale⟩, ⟨some n, false⟩⟩
  | unwritten {p f w} : Involves k c o ⟨.updateStatus p, .error f, w, w⟩

/-- What an invocation that has read the object comes to. -/
inductive Effects (s : Setting (Resource Spec St)) (k : Circumstances) (key : ObjectKey)
    (c : RemoteCalls Spec St) (o : Resource Spec St) (τ : List (EngineAnswer (Resource Spec St)))
    (w : Slot (Resource Spec St)) : Prop
  /-- No status is written. -/
  | still : statusWritesFrom none τ = [] → w.Keeps k o o.status → Effects s k key c o τ w
  /-- The status is written once, with the transition that was decided about. -/
  | moved {g w₀ τ₁ t p urgent w₁ τ₂ result now n} : w₀.Shows k o →
      Decides k key s.policy g c o w₀ τ₁ (.move t p urgent) w₁ →
      Settles k key s.policy (.move t p urgent) w₁ τ₂ result w →
      τ.filterMap EngineAnswer.accepted? = τ₁.filterMap EngineAnswer.accepted? →
      statusWritesFrom none τ = [⟨some now, t.recorded now p, n⟩] →
      Slot.Keeps k o (t.recorded now p).status ⟨some n, false⟩ →
      w.Keeps k o (t.recorded now p).status → Effects s k key c o τ w

section

variable {s : Setting (Resource Spec St)} {k : Circumstances} {key : ObjectKey} {policy : Policy}
  {g : Gateway} {c : RemoteCalls Spec St} {o : Resource Spec St} {w w₁ : Slot (Resource Spec St)}
  {τ : List (EngineAnswer (Resource Spec St))} {result : Outcome Action}

theorem Performs.not_isStatusWrite {a : EngineAnswer (Resource Spec St)}
    (h : Performs k g c o a) : ¬ a.IsStatusWrite := by
  rintro ⟨p, hp⟩
  cases h <;> exact nomatch hp

/-- The object that is written is the one that was read, as far as its name goes. -/
theorem Settles.involves {d : Decision (Resource Spec St)}
    (h : Settles k key policy d w τ result w₁)
    (hd : ∀ t p urgent, d = .move t p urgent → p.key = key) : ∀ a ∈ τ, Involves k c o a := by
  -- the gateway plays no part in reading the clock, so any will do
  have hclock : ∀ now w, Involves k c o (.aside .now now w) := fun _ _ =>
    .decided (g := ⟨"", none⟩) .clock
  cases h with
  | rest => exact fun a ha => nomatch ha
  | deferred _ _ => exact List.forall_mem_singleton.2 (hclock _ _)
  | written _ _ hw _ =>
      refine List.forall_mem_cons.2 ⟨hclock _ _, List.forall_mem_singleton.2 ?_⟩
      have hp := hd _ _ _ rfl
      obtain ⟨cur, stale, rfl, rfl, hm, -⟩ := hw.ok hp
      exact .written hm
  | refused _ _ hw _ =>
      refine List.forall_mem_cons.2 ⟨hclock _ _, List.forall_mem_singleton.2 ?_⟩
      have hp := hd _ _ _ rfl
      cases hw.error hp
      exact .unwritten

/-- Every answer of an invocation that has read the object is one of the listed ones. -/
theorem Invokes.involves (h : Invokes s k key c (some o) τ result w) (hkey : o.key = key) :
    ∀ a ∈ τ, Involves k c o a := by
  cases h with
  | unread _ _ => exact List.forall_mem_singleton.2 .read
  | tenantless _ _ _ => exact List.forall_mem_singleton.2 .read
  | unauthenticated _ _ =>
      exact List.forall_mem_cons.2 ⟨.read, List.forall_mem_singleton.2 .authenticated⟩
  | decided _ hd₀ hd₁ hdec hset =>
      have hshows := (Slot.Shows.untouched.drifts hd₀).drifts hd₁
      refine List.forall_mem_cons.2 ⟨.read, List.forall_mem_cons.2 ⟨.authenticated, ?_⟩⟩
      refine List.forall_mem_append.2 ⟨?_, hset.involves ?_⟩
      · exact fun a ha => .decided (hdec.performs hkey hshows a ha)
      · rintro t p urgent rfl
        exact (hdec.continues hkey hshows).key.trans hkey

theorem Invokes.effect (h : Invokes s k key c (some o) τ result w) (hkey : o.key = key) :
    Effects s k key c o τ w := by
  cases h with
  | unread _ hd => exact .still rfl (Slot.Shows.untouched.drifts hd).keeps
  | tenantless _ _ hd => exact .still rfl (Slot.Shows.untouched.drifts hd).keeps
  | unauthenticated hd hd' =>
      exact .still rfl ((Slot.Shows.untouched.drifts hd).drifts hd').keeps
  | @decided _ _ _ _ τ₁ _ _ τ₂ _ _ _ hd₀ hd₁ hdec hset =>
      have hshows := (Slot.Shows.untouched.drifts hd₀).drifts hd₁
      have hkeeps := hdec.keeps hkey hshows
      -- a status is only written when the decision is carried out
      have hquiet : ∀ a ∈ τ₁, ¬ a.IsStatusWrite := fun a ha =>
        (hdec.performs hkey hshows a ha).not_isStatusWrite
      obtain ⟨last, hlast⟩ := statusWritesFrom_append hquiet
      have hset' := hset
      cases hset with
      | rest => exact .still (hlast _) hkeeps
      | deferred _ hd => exact .still (hlast _) (hkeeps.drifts hd)
      | refused _ hd hw hd' =>
          have hp := (hdec.continues hkey hshows).key.trans hkey
          cases hw.error hp
          exact .still (hlast _) ((hkeeps.drifts hd).drifts hd')
      | written _ hd hw hd' =>
          have hp := (hdec.continues hkey hshows).key.trans hkey
          have hwritten := (hkeeps.drifts hd).written hw hp
          obtain ⟨cur, stale, rfl, rfl, -, -⟩ := hw.ok hp
          refine .moved hshows hdec hset' ?_ (hlast _) hwritten (hwritten.drifts hd')
          show List.filterMap _ (_ ++ _) = _
          rw [List.filterMap_append]
          exact List.append_nil _

/-- The phase after an invocation is the one before, or that of a transition out of it. -/
theorem Effects.phase (h : Effects s k key c o τ w) (hkey : o.key = key) {n : Resource Spec St}
    (hn : w.stored = some n) :
    n.phase = o.phase ∨ ∃ t,
      Departs k.storeFault c.provisions (o.metadata.isMarked = true) o.phase t ∧
        n.phase = t.phase := by
  cases h with
  | still _ hkeeps => exact .inl (Resource.phase_congr (hkeeps n hn).2.1)
  | moved _ hdec _ _ _ _ hkeeps =>
      refine .inr ⟨_, hdec.departs hkey, ?_⟩
      rw [Resource.phase_congr (hkeeps n hn).2.1, Resource.phase_recorded]

/-- Without an object there is nothing but an attempt to read it. -/
theorem Invokes.absent_spec (h : Invokes s k key c none τ result w) :
    w.stored = none ∧ ∃ reply, τ = [.aside (.fetch key.1 key.2) reply ⟨none, false⟩] := by
  have hnone : ∀ {w : Slot (Resource Spec St)}, Slot.Drifts k ⟨none, false⟩ w →
      w.stored = none := by
    rintro w (rfl | ⟨-, hm⟩)
    · rfl
    · exact nomatch hm
  cases h with
  | unread _ hd => exact ⟨hnone hd, _, rfl⟩
  | absent hd => exact ⟨hnone hd, _, rfl⟩

end

/-! ## Runs, one event at a time -/

section

variable {s : Setting (Resource Spec St)} {k : Circumstances} {c : RemoteCalls Spec St}
  {start : Resource Spec St} {h : List (Invocation (Resource Spec St))}
  {stored : Option (Resource Spec St)}

/-- A run stays with the object that it starts from. -/
theorem Runs.key_eq (hr : Runs s k start h stored) (hl : s.lifecycle = c.lifecycle) :
    ∀ o, stored = some o → o.key = start.key := by
  induction hr with
  | start =>
      intro o ho
      cases ho
      rfl
  | edited _ he ih =>
      intro n hn
      cases hn
      exact he.key.trans (ih _ rfl)
  | removed _ _ _ => exact fun n hn => nomatch hn
  | @invoked h stored τ result w _ ht ih =>
      intro n hn
      have hi := invokes_of_trace hl ht
      cases stored with
      | none => exact nomatch hi.absent_spec.1.symm.trans hn
      | some o =>
          have hkey := ih o rfl
          cases hi.effect hkey with
          | still _ hkeeps => exact (hkeeps n hn).1.key.trans hkey
          | moved _ _ _ _ _ _ hkeeps => exact (hkeeps n hn).1.key.trans hkey

/-- What holds of the object that a run starts from, and is kept by edits and by the invocations
    that read the object, holds of the object after the run. -/
theorem Runs.invariant {P : List (Invocation (Resource Spec St)) → Resource Spec St → Prop}
    (hr : Runs s k start h stored) (hl : s.lifecycle = c.lifecycle) (hstart : P [] start)
    (hedited : ∀ h o n, P h o → o.Edited n → P h n)
    (hinvoked : ∀ h o n τ result w, P h o → o.key = start.key →
      Procedure.Trace (Slot.surroundings k start.key) (s.reconcile start.key.1 start.key.2)
        ⟨some o, false⟩ τ result w →
      Invokes s k start.key c (some o) τ result w → w.stored = some n →
      P (⟨some o, τ, result, w.stored⟩ :: h) n) :
    ∀ o, stored = some o → P h o := by
  induction hr with
  | start =>
      intro o ho
      cases ho
      exact hstart
  | edited _ he ih =>
      intro n hn
      cases hn
      exact hedited _ _ _ (ih _ rfl) he
  | removed _ _ _ => exact fun n hn => nomatch hn
  | @invoked h stored τ result w hr ht ih =>
      intro n hn
      have hi := invokes_of_trace hl ht
      cases stored with
      | none => exact nomatch hi.absent_spec.1.symm.trans hn
      | some o => exact hinvoked _ _ _ _ _ _ (ih o rfl) (hr.key_eq hl o rfl) ht hi hn

/-- An invocation of a history was made after a run with the history before it. -/
theorem Runs.invocation_of_append (hr : Runs s k start h stored)
    {later earlier : List (Invocation (Resource Spec St))} {i : Invocation (Resource Spec St)}
    (hh : h = later ++ i :: earlier) :
    Runs s k start earlier i.before ∧ ∃ w,
      Procedure.Trace (Slot.surroundings k start.key) (s.reconcile start.key.1 start.key.2)
        ⟨i.before, false⟩ i.answers i.result w ∧ i.after = w.stored := by
  induction hr generalizing later with
  | start => exact absurd hh (List.append_ne_nil_of_right_ne_nil _ (List.cons_ne_nil _ _)).symm
  | edited _ _ ih => exact ih hh
  | removed _ _ ih => exact ih hh
  | @invoked h stored τ result w hr ht ih =>
      cases later with
      | nil =>
          obtain ⟨rfl, rfl⟩ := List.cons.inj hh
          exact ⟨hr, w, ht, rfl⟩
      | cons j later =>
          obtain ⟨-, hh⟩ := List.cons.inj hh
          exact ih hh

/-- Every invocation of a history was made after a shorter run. -/
theorem Runs.invocation (hr : Runs s k start h stored) {i : Invocation (Resource Spec St)}
    (hi : i ∈ h) : ∃ earlier w, Runs s k start earlier i.before ∧
      Procedure.Trace (Slot.surroundings k start.key) (s.reconcile start.key.1 start.key.2)
        ⟨i.before, false⟩ i.answers i.result w ∧ i.after = w.stored := by
  obtain ⟨later, earlier, hh⟩ := List.append_of_mem hi
  obtain ⟨hrun, w, ht, hafter⟩ := hr.invocation_of_append hh
  exact ⟨earlier, w, hrun, ht, hafter⟩

/-- Every answer in a history was given in an invocation that had read the object, unless it is an
    attempt to read an object that is gone. -/
theorem Runs.answer (hr : Runs s k start h stored) (hl : s.lifecycle = c.lifecycle)
    {i : Invocation (Resource Spec St)} (hi : i ∈ h) {a : EngineAnswer (Resource Spec St)}
    (ha : a ∈ i.answers) :
    (∃ reply, a = .aside (.fetch start.key.1 start.key.2) reply ⟨none, false⟩) ∨
      ∃ o earlier w, i.before = some o ∧ Runs s k start earlier (some o) ∧
        Invokes s k start.key c (some o) i.answers i.result w ∧ Involves k c o a := by
  obtain ⟨earlier, w, hrun, ht, -⟩ := hr.invocation hi
  have hinvokes := invokes_of_trace hl ht
  cases hb : i.before with
  | none =>
      rw [hb] at hinvokes
      obtain ⟨-, reply, hτ⟩ := hinvokes.absent_spec
      rw [hτ] at ha
      exact .inl ⟨reply, List.mem_singleton.1 ha⟩
  | some o =>
      rw [hb] at hrun hinvokes
      exact .inr ⟨o, earlier, w, rfl, hrun, hinvokes, hinvokes.involves (hrun.key_eq hl o rfl) a ha⟩

/-- Every object that occurs in a run is the object in the cluster after a run. -/
theorem Runs.of_occurs (hr : Runs s k start h stored) {o : Resource Spec St}
    (ho : Occurs h stored o) : ∃ h', Runs s k start h' (some o) := by
  rcases ho with rfl | ⟨i, hi, hbefore | hafter⟩
  · exact ⟨h, hr⟩
  · obtain ⟨earlier, w, hrun, -, -⟩ := hr.invocation hi
    exact ⟨earlier, hbefore ▸ hrun⟩
  · obtain ⟨earlier, w, hrun, ht, hw⟩ := hr.invocation hi
    have hrun' := Runs.invoked hrun ht
    exact ⟨_, (hw.symm.trans hafter) ▸ hrun'⟩

end

end CloudReconciler
