import CloudReconciler.Effect.Procedure

/-! # Traces — finished runs with every answer on record

    Surroundings say which replies a call may get in a state and what the
    call makes of the state, and how the state may move on its own before
    the next call.  A trace of a procedure is one finished run in such
    surroundings, with the list of its answered calls; a procedure followed
    by another has exactly the traces that split in two. -/

namespace CloudReconciler

/-- What calls are answered by: the replies that a state allows, each with the state it leaves, and
    the changes that happen between two calls without any call. -/
structure Surroundings (I : Interface) (σ : Type) where
  Answers : (c : I.Call) → σ → I.Reply c → σ → Prop
  Drifts : σ → σ → Prop

/-- An answered call, with the states right before and right after the answer. -/
structure Answer (I : Interface) (σ : Type) where
  call : I.Call
  reply : I.Reply call
  before : σ
  after : σ

/-- The surroundings in which only the answers of a kind are given. -/
def Surroundings.such {I : Interface} {σ : Type} (e : Surroundings I σ) (P : Answer I σ → Prop) :
    Surroundings I σ where
  Answers c s reply t := e.Answers c s reply t ∧ P ⟨c, reply, s, t⟩
  Drifts := e.Drifts

/-- No call is left without an answer, and nothing has to happen between two. -/
structure Surroundings.IsComplete {I : Interface} {σ : Type} (e : Surroundings I σ) : Prop where
  answers : ∀ c s, ∃ reply t, e.Answers c s reply t
  drifts : ∀ s, e.Drifts s s

namespace Procedure

variable {I : Interface} {α β σ : Type}

/-- A finished run of a procedure, with its answered calls in order. -/
inductive Trace (e : Surroundings I σ) : Procedure I α → σ → List (Answer I σ) → α → σ → Prop
  | done (a : α) (s : σ) : Trace e (.done a) s [] a s
  | call {c : I.Call} {resume : I.Reply c → Procedure I α} {reply : I.Reply c}
      {answers : List (Answer I σ)} {a : α} {s t t' u : σ} :
      e.Answers c s reply t → e.Drifts t t' → Trace e (resume reply) t' answers a u →
      Trace e (.call c resume) s (⟨c, reply, s, t⟩ :: answers) a u

variable {e : Surroundings I σ} {s t : σ} {answers : List (Answer I σ)}

theorem trace_done {a b : α} :
    Trace e (.done a) s answers b t ↔ answers = [] ∧ b = a ∧ t = s := by
  constructor
  · intro h
    cases h
    exact ⟨rfl, rfl, rfl⟩
  · rintro ⟨rfl, rfl, rfl⟩
    exact .done _ _

/-- A run of a call begins with an answer, after which the state may move. -/
theorem trace_call {c : I.Call} {resume : I.Reply c → Procedure I α} {a : α} :
    Trace e (.call c resume) s answers a t ↔
      ∃ reply s₁ s₂ rest, e.Answers c s reply s₁ ∧ e.Drifts s₁ s₂ ∧
        Trace e (resume reply) s₂ rest a t ∧ answers = ⟨c, reply, s, s₁⟩ :: rest := by
  constructor
  · intro h
    cases h with
    | call ha hd hr => exact ⟨_, _, _, _, ha, hd, hr, rfl⟩
  · rintro ⟨reply, s₁, s₂, rest, ha, hd, hr, rfl⟩
    exact .call ha hd hr

/-- Calls that go on alike with every reply they can get have the same runs. -/
theorem trace_call_congr {c : I.Call} {resume resume' : I.Reply c → Procedure I α} {a : α}
    (h : ∀ reply s₁, e.Answers c s reply s₁ → resume reply = resume' reply) :
    Trace e (.call c resume) s answers a t ↔ Trace e (.call c resume') s answers a t := by
  rw [trace_call, trace_call]
  constructor
  · rintro ⟨reply, s₁, s₂, rest, ha, hd, hr, rfl⟩
    exact ⟨reply, s₁, s₂, rest, ha, hd, h reply s₁ ha ▸ hr, rfl⟩
  · rintro ⟨reply, s₁, s₂, rest, ha, hd, hr, rfl⟩
    exact ⟨reply, s₁, s₂, rest, ha, hd, h reply s₁ ha ▸ hr, rfl⟩

/-- Traces of one procedure after another are traces of both, end to end. -/
theorem trace_bind {p : Procedure I α} {next : α → Procedure I β} {b : β} :
    Trace e (p.bind next) s answers b t ↔
      ∃ first a m rest, Trace e p s first a m ∧ Trace e (next a) m rest b t ∧
        answers = first ++ rest := by
  constructor
  · intro h
    -- the calls of the first procedure are split off one by one
    induction p generalizing s answers with
    | done a => exact ⟨[], a, s, answers, .done a s, h, rfl⟩
    | call c resume ih =>
        obtain ⟨reply, s₁, s₂, tail, ha, hd, hr, rfl⟩ := trace_call.1 h
        obtain ⟨first, a, m, rest, hf, hn, rfl⟩ := ih reply hr
        exact ⟨_ :: first, a, m, rest, .call ha hd hf, hn, rfl⟩
  · rintro ⟨first, a, m, rest, hf, hn, rfl⟩
    induction hf with
    | done a s => exact hn
    | call ha hd _ ih => exact .call ha hd (ih hn)

/-- A run is one in any surroundings that allow its answers and what happens in between. -/
theorem Trace.mono {e' : Surroundings I σ} {p : Procedure I α} {a : α}
    (h : Trace e p s answers a t)
    (hanswer : ∀ x ∈ answers, e.Answers x.call x.before x.reply x.after →
      e'.Answers x.call x.before x.reply x.after)
    (hdrift : ∀ s s', e.Drifts s s' → e'.Drifts s s') : Trace e' p s answers a t := by
  induction h with
  | done a s => exact .done a s
  | call ha hd _ ih =>
      obtain ⟨hx, hrest⟩ := List.forall_mem_cons.1 hanswer
      exact .call (hx ha) (hdrift _ _ hd) (ih hrest)

/-- Every answer of a run is one that the surroundings give. -/
theorem Trace.forall_answers {p : Procedure I α} {a : α} (h : Trace e p s answers a t) :
    ∀ x ∈ answers, e.Answers x.call x.before x.reply x.after := by
  induction h with
  | done a s => exact fun x hx => absurd hx List.not_mem_nil
  | call ha _ _ ih => exact List.forall_mem_cons.2 ⟨ha, ih⟩

/-- A run in which all answers are of a kind is one where no others are given. -/
theorem Trace.such {P : Answer I σ → Prop} {p : Procedure I α} {a : α}
    (h : Trace e p s answers a t) (hP : ∀ x ∈ answers, P x) :
    Trace (e.such P) p s answers a t := by
  induction h with
  | done a s => exact .done a s
  | call ha hd _ ih =>
      obtain ⟨hx, hrest⟩ := List.forall_mem_cons.1 hP
      exact .call ⟨ha, hx⟩ hd (ih hrest)

/-- In complete surroundings every procedure comes to an end. -/
theorem exists_trace (he : e.IsComplete) (p : Procedure I α) (s : σ) :
    ∃ answers a t, Trace e p s answers a t := by
  induction p generalizing s with
  | done a => exact ⟨[], a, s, .done a s⟩
  | call c resume ih =>
      obtain ⟨reply, s₁, ha⟩ := he.answers c s
      obtain ⟨answers, a, t, ht⟩ := ih reply s₁
      exact ⟨_, a, t, .call ha (he.drifts s₁) ht⟩

/-- A run is one in other surroundings if their answers are the same to the calls that a procedure
    makes: those that can come up in complete surroundings `e₀`, which give all of these answers. -/
theorem Trace.transfer {e' e₀ : Surroundings I σ} {P : (c : I.Call) → σ → Prop}
    (he₀ : e₀.IsComplete)
    (hanswer : ∀ c s reply t, P c s → e.Answers c s reply t →
      e'.Answers c s reply t ∧ e₀.Answers c s reply t)
    (hdrift : ∀ s t, e.Drifts s t → e'.Drifts s t ∧ e₀.Drifts s t)
    {p : Procedure I α} {a : α} (h : Trace e p s answers a t)
    (hP : ∀ answers b u, Trace e₀ p s answers b u → ∀ x ∈ answers, P x.call x.before) :
    Trace e' p s answers a t := by
  induction h with
  | done a s => exact .done a s
  | @call c resume reply answers a s t₁ t₂ u ha hd _ ih =>
      -- the call comes up in a run of `e₀`, whatever is answered from then on
      have hcall : P c s := by
        obtain ⟨reply₀, s₁, ha₀⟩ := he₀.answers c s
        obtain ⟨rest, b, u, hrest⟩ := exists_trace he₀ (resume reply₀) s₁
        exact hP _ _ _ (.call ha₀ (he₀.drifts s₁) hrest) _ (List.mem_cons_self ..)
      obtain ⟨ha', ha₀⟩ := hanswer c s reply t₁ hcall ha
      obtain ⟨hd', hd₀⟩ := hdrift t₁ t₂ hd
      refine .call ha' hd' (ih fun rest b u hrest x hx => ?_)
      exact hP _ _ _ (.call ha₀ hd₀ hrest) x (List.mem_cons_of_mem _ hx)

/-- What every answer and every change in between keeps holds after a run. -/
theorem Trace.preserves {P : σ → Prop} {p : Procedure I α} {a : α}
    (h : Trace e p s answers a t) (hdrift : ∀ s s', e.Drifts s s' → P s → P s')
    (hanswer : ∀ x ∈ answers, P x.before → P x.after) (hs : P s) : P t := by
  induction h with
  | done a s => exact hs
  | call ha hd _ ih =>
      obtain ⟨hx, hrest⟩ := List.forall_mem_cons.1 hanswer
      exact ih hrest (hdrift _ _ hd (hx hs))

/-- Expanding the calls of two procedures in sequence expands each of the two. -/
@[simp] theorem expand_bind {J : Interface} (meaning : (c : I.Call) → Procedure J (I.Reply c))
    (p : Procedure I α) (next : α → Procedure I β) :
    (p.bind next).expand meaning = (p.expand meaning).bind fun a => (next a).expand meaning := by
  induction p with
  | done a => rfl
  | call c resume ih =>
      show (meaning c).bind _ = ((meaning c).bind _).bind _
      rw [bind_assoc]
      exact congrArg _ (funext ih)

/-! ## Traces of runs -/

/-- The answered calls of a run by a function on a state, of which the surroundings see a part. -/
def answered {τ : Type} (answer : (c : I.Call) → τ → I.Reply c × τ) (view : τ → σ) :
    Procedure I α → τ → List (Answer I σ)
  | .done _, _ => []
  | .call c resume, x =>
      ⟨c, (answer c x).1, view x, view (answer c x).2⟩ ::
        answered answer view (resume (answer c x).1) (answer c x).2

/-- A function that answers as the surroundings allow, in the states that it comes to, runs every
    procedure along a trace. -/
theorem trace_run {τ : Type} {answer : (c : I.Call) → τ → I.Reply c × τ} {view : τ → σ}
    {Sound : τ → Prop} (hdrift : ∀ s, e.Drifts s s)
    (hanswer : ∀ c x, Sound x →
      e.Answers c (view x) (answer c x).1 (view (answer c x).2) ∧ Sound (answer c x).2)
    (p : Procedure I α) {x : τ} (hx : Sound x) :
    Trace e p (view x) (p.answered answer view x) (p.run answer x).1 (view (p.run answer x).2) ∧
      Sound (p.run answer x).2 := by
  induction p generalizing x with
  | done a => exact ⟨.done a _, hx⟩
  | call c resume ih =>
      obtain ⟨ha, hnext⟩ := hanswer c x hx
      obtain ⟨ht, hlast⟩ := ih _ hnext
      exact ⟨.call ha (hdrift _) ht, hlast⟩

end Procedure

end CloudReconciler
