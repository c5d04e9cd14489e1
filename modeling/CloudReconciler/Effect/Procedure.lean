/-! # Procedures — computations that ask their surroundings

    A procedure is finished, or it makes a call and goes on with the reply.
    What a call does is not part of the procedure: `run` answers calls by a
    function on a state, and `expand` by procedures over another interface,
    so one definition serves for running, for reasoning about every
    possible reply, and for interleaving. -/

namespace CloudReconciler

/-- Calls and the type of the reply to each. -/
structure Interface where
  Call : Type
  Reply : Call → Type

/-- A computation over an interface. -/
inductive Procedure (I : Interface) (α : Type) : Type where
  /-- Nothing is left to do. -/
  | done (a : α)
  /-- A call, and what follows each reply. -/
  | call (c : I.Call) (resume : I.Reply c → Procedure I α)

namespace Procedure

variable {I J : Interface} {α β σ : Type}

/-- One call. -/
def ask (c : I.Call) : Procedure I (I.Reply c) := .call c .done

/-- One procedure after another. -/
def bind : Procedure I α → (α → Procedure I β) → Procedure I β
  | .done a, next => next a
  | .call c resume, next => .call c fun reply => (resume reply).bind next

instance : Monad (Procedure I) where
  pure := .done
  bind := bind

@[simp] theorem pure_eq (a : α) : (pure a : Procedure I α) = .done a := rfl

@[simp] theorem bind_eq (p : Procedure I α) (next : α → Procedure I β) :
    p >>= next = p.bind next := rfl

@[simp] theorem bind_done (a : α) (next : α → Procedure I β) :
    (Procedure.done a).bind next = next a := rfl

@[simp] theorem bind_call (c : I.Call) (resume : I.Reply c → Procedure I α)
    (next : α → Procedure I β) :
    (Procedure.call c resume).bind next = .call c fun reply => (resume reply).bind next := rfl

theorem bind_assoc {γ : Type} (p : Procedure I α) (f : α → Procedure I β)
    (g : β → Procedure I γ) : (p.bind f).bind g = p.bind fun a => (f a).bind g := by
  induction p with
  | done a => rfl
  | call c resume ih => exact congrArg (Procedure.call c) (funext ih)

theorem bind_done_right (p : Procedure I α) : p.bind .done = p := by
  induction p with
  | done a => rfl
  | call c resume ih => exact congrArg (Procedure.call c) (funext ih)

/-! ## Answering calls -/

/-- Answers every call by a function on a state. -/
def run (answer : (c : I.Call) → σ → I.Reply c × σ) : Procedure I α → σ → α × σ
  | .done a, s => (a, s)
  | .call c resume, s => run answer (resume (answer c s).1) (answer c s).2

theorem run_bind (answer : (c : I.Call) → σ → I.Reply c × σ) (p : Procedure I α)
    (next : α → Procedure I β) (s : σ) :
    run answer (p.bind next) s = run answer (next (run answer p s).1) (run answer p s).2 := by
  induction p generalizing s with
  | done a => rfl
  | call c resume ih => exact ih _ _

/-- Answers every call by a procedure over another interface. -/
def expand (meaning : (c : I.Call) → Procedure J (I.Reply c)) : Procedure I α → Procedure J α
  | .done a => .done a
  | .call c resume => (meaning c).bind fun reply => expand meaning (resume reply)

end Procedure

/-- How a suspended call wakes its caller: with its reply, or because the invocation was
    cancelled, in which case a reply that came at the same time is dropped. -/
inductive Wake (α : Type) where
  | reply (a : α)
  | cancelled (late : Option α)

end CloudReconciler
