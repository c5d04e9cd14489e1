import CloudReconciler.Effect.Procedure

/-! # Tasks — procedures that take turns

    Tasks share a state and run one at a time, each until it finishes or its
    call has to wait.  `waits` says which calls wait: a call that is made
    for the first time may wait although it could be answered at once, which
    gives the others their turn. -/

namespace CloudReconciler

/-- How tasks are served by a state. -/
structure Service (I : Interface) (σ : Type) where
  answer : (c : I.Call) → σ → I.Reply c × σ
  /-- The call has to wait; the flag tells that it has waited before. -/
  waits : I.Call → (waited : Bool) → σ → Bool

namespace Service

variable {I : Interface} {α σ : Type} (s : Service I σ)

/-- Runs one task until it finishes or has to wait. -/
def settle : Procedure I α → (waited : Bool) → σ → Procedure I α × σ
  | .done a, _, state => (.done a, state)
  | .call c resume, waited, state =>
      if s.waits c waited state then (.call c resume, state)
      else settle (resume (s.answer c state).1) false (s.answer c state).2

/-- Gives every task its turn. -/
def round (waited : Bool) : List (Procedure I α) → σ → List (Procedure I α) × σ
  | [], state => ([], state)
  | p :: rest, state =>
      let (p, state) := s.settle p waited state
      let (rest, state) := round waited rest state
      (p :: rest, state)

/-- Further rounds, in which every unfinished task has waited before. -/
def rounds : Nat → List (Procedure I α) → σ → List (Procedure I α) × σ
  | 0, ps, state => (ps, state)
  | n + 1, ps, state =>
      let (ps, state) := s.round true ps state
      rounds n ps state

/-- Starts the tasks in order and then gives them as many further rounds as told. -/
def runAll (further : Nat) (ps : List (Procedure I α)) (state : σ) :
    List (Procedure I α) × σ :=
  let (ps, state) := s.round false ps state
  s.rounds further ps state

end Service

end CloudReconciler
