import CloudReconciler.Effect.Tasks
import CloudReconciler.Proofs.Trace
import Mathlib.Logic.Function.Basic

/-! # Interleavings — tasks that share their surroundings

    Tasks are procedures over one state.  At every point of an interleaving
    any task may have its call answered, whatever the others wait for; the
    answered calls of all tasks are its history, newest first.

    A discipline says which calls a task may make at a point of the history,
    and an invariant of history and state that every such call keeps.  A
    task keeps the discipline from some point on if all its calls are
    allowed, whatever the others have added to the history in between:
    `Keeps` is a rule of its own for each form of procedure, so a task is
    proved to keep a discipline along its text.  `Interleaved.disciplined`
    puts the tasks together. -/

namespace CloudReconciler

/-- An answered call of one of several tasks. -/
structure Event (ι : Type) (I : Interface) (σ : Type) extends Answer I σ where
  task : ι

namespace Procedure

variable {I J : Interface} {α β : Type}

/-- Every call that the procedure can make, whatever the replies, has the property. -/
def Every (P : I.Call → Prop) : Procedure I α → Prop
  | .done _ => True
  | .call c resume => P c ∧ ∀ reply, Every P (resume reply)

theorem Every.bind {P : I.Call → Prop} {p : Procedure I α} {next : α → Procedure I β}
    (h : p.Every P) (hnext : ∀ a, (next a).Every P) : (p.bind next).Every P := by
  induction p with
  | done a => exact hnext a
  | call c resume ih => exact ⟨h.1, fun reply => ih reply (h.2 reply)⟩

/-- The calls of an expanded procedure are those of the meanings of its calls. -/
theorem Every.expand {P : I.Call → Prop} {Q : J.Call → Prop} {p : Procedure I α}
    {meaning : (c : I.Call) → Procedure J (I.Reply c)} (h : p.Every P)
    (hmeaning : ∀ c, P c → (meaning c).Every Q) : (p.expand meaning).Every Q := by
  induction p with
  | done a => trivial
  | call c resume ih =>
      exact (hmeaning c h.1).bind fun reply => ih reply (h.2 reply)

end Procedure

/-! ## Runs of several tasks -/

section

variable {ι : Type} [DecidableEq ι] {I : Interface} {α σ : Type}

/-- The tasks, the state and the history that the tasks can come to by taking turns. -/
inductive Interleaved (e : Surroundings I σ) (tasks : ι → Procedure I α) (s : σ) :
    (ι → Procedure I α) → σ → List (Event ι I σ) → Prop
  | start : Interleaved e tasks s tasks s []
  /-- The call of one task is answered. -/
  | answered {now : ι → Procedure I α} {t u : σ} {log : List (Event ι I σ)} {i : ι} {c : I.Call}
      {resume : I.Reply c → Procedure I α} {reply : I.Reply c} :
      Interleaved e tasks s now t log → now i = .call c resume → e.Answers c t reply u →
      Interleaved e tasks s (Function.update now i (resume reply)) u (⟨⟨c, reply, t, u⟩, i⟩ :: log)
  /-- The state moves on its own. -/
  | drifted {now : ι → Procedure I α} {t u : σ} {log : List (Event ι I σ)} :
      Interleaved e tasks s now t log → e.Drifts t u → Interleaved e tasks s now u log

end

/-- The history after a while in which the task itself has not moved. -/
def Meanwhile {ι : Type} {I : Interface} {σ : Type} (i : ι) (log log' : List (Event ι I σ)) :
    Prop :=
  ∃ new, log' = new ++ log ∧ ∀ ev ∈ new, ev.task ≠ i

namespace Meanwhile

variable {ι : Type} {I : Interface} {σ : Type} {i : ι} {log log' log'' : List (Event ι I σ)}

theorem refl : Meanwhile i log log := ⟨[], rfl, nofun⟩

theorem trans (h : Meanwhile i log log') (h' : Meanwhile i log' log'') :
    Meanwhile i log log'' := by
  obtain ⟨new, rfl, hnew⟩ := h
  obtain ⟨newer, rfl, hnewer⟩ := h'
  refine ⟨newer ++ new, (List.append_assoc ..).symm, fun ev hev => ?_⟩
  rcases List.mem_append.1 hev with hev | hev
  · exact hnewer ev hev
  · exact hnew ev hev

/-- Another task has had a call answered. -/
theorem other {ev : Event ι I σ} (h : ev.task ≠ i) : Meanwhile i log (ev :: log) :=
  ⟨[ev], rfl, List.forall_mem_singleton.2 h⟩

theorem suffix (h : Meanwhile i log log') : log <:+ log' := by
  obtain ⟨new, rfl, -⟩ := h
  exact List.suffix_append new log

end Meanwhile

/-! ## Disciplines -/

/-- What the tasks of an interleaving stick to. -/
structure Discipline (ι : Type) (I : Interface) (σ : Type) where
  surroundings : Surroundings I σ
  /-- The task may make the call at this point of the history. -/
  Allows : List (Event ι I σ) → ι → I.Call → Prop
  /-- What is true of every history and the state that it has led to. -/
  Inv : List (Event ι I σ) → σ → Prop
  drifts : ∀ {log s t}, surroundings.Drifts s t → Inv log s → Inv log t
  step : ∀ {log s t i c reply}, Inv log s → Allows log i c → surroundings.Answers c s reply t →
    Inv (⟨⟨c, reply, s, t⟩, i⟩ :: log) t

namespace Discipline

variable {ι : Type} {I : Interface} {α β σ : Type} {d : Discipline ι I σ} {i : ι}
  {log log' : List (Event ι I σ)} {Post Mid : α → List (Event ι I σ) → Prop}

/-- From this point of the history on, the task makes allowed calls only, and if it finishes, its
    result has the postcondition. -/
def Keeps (d : Discipline ι I σ) (i : ι) (Post : α → List (Event ι I σ) → Prop) :
    Procedure I α → List (Event ι I σ) → Prop
  | .done a, log => ∀ log', Meanwhile i log log' → Post a log'
  | .call c resume, log => ∀ log', Meanwhile i log log' →
      d.Allows log' i c ∧ ∀ s reply t, d.Inv log' s → d.surroundings.Answers c s reply t →
        Keeps d i Post (resume reply) (⟨⟨c, reply, s, t⟩, i⟩ :: log')

/-- A task that keeps the discipline keeps it while others go on. -/
theorem Keeps.meanwhile {p : Procedure I α} (h : d.Keeps i Post p log)
    (hlog : Meanwhile i log log') : d.Keeps i Post p log' := by
  cases p with
  | done a => exact fun log'' h' => h log'' (hlog.trans h')
  | call c resume => exact fun log'' h' => h log'' (hlog.trans h')

/-- One procedure after another: the postcondition of the first is where the second starts. -/
theorem Keeps.bind {Post : β → List (Event ι I σ) → Prop} {p : Procedure I α}
    {next : α → Procedure I β} (h : d.Keeps i Mid p log)
    (hnext : ∀ a log', log <:+ log' → Mid a log' → d.Keeps i Post (next a) log') :
    d.Keeps i Post (p.bind next) log := by
  induction p generalizing log with
  | done a => exact hnext a log (List.suffix_refl log) (h log .refl)
  | call c resume ih =>
      intro log' h'
      obtain ⟨hallows, hafter⟩ := h log' h'
      refine ⟨hallows, fun s reply t hinv ha => ih reply (hafter s reply t hinv ha) ?_⟩
      intro a log'' h'' hmid
      exact hnext a log'' (h'.suffix.trans ((List.suffix_cons _ _).trans h'')) hmid

/-- A procedure all of whose calls are allowed from now on. -/
theorem keeps_of_every {P : I.Call → Prop} {p : Procedure I α} (hp : p.Every P)
    (h : ∀ log', log <:+ log' → ∀ c, P c → d.Allows log' i c) :
    d.Keeps i (fun _ _ => True) p log := by
  induction p generalizing log with
  | done a => exact fun _ _ => trivial
  | call c resume ih =>
      intro log' h'
      refine ⟨h log' h'.suffix c hp.1, fun s reply t _ _ => ih reply (hp.2 reply) ?_⟩
      intro log'' h''
      exact h log'' (h'.suffix.trans ((List.suffix_cons _ _).trans h''))

end Discipline

/-- The task has made the call, where the history was `past`: the call has been answered next, or it
    still waits. -/
def Made {ι : Type} {I : Interface} {α σ : Type} (now : ι → Procedure I α)
    (log past : List (Event ι I σ)) (i : ι) (c : I.Call) : Prop :=
  (∃ later ev, log = later ++ ev :: past ∧ ev.task = i ∧ ev.call = c) ∨
    (past = log ∧ ∃ resume, now i = .call c resume)

namespace Interleaved

variable {ι : Type} [DecidableEq ι] {I : Interface} {α σ : Type} {d : Discipline ι I σ}
  {tasks now : ι → Procedure I α} {s t : σ} {log past : List (Event ι I σ)}

/-- If every task keeps the discipline from the start, then at every point the invariant holds and
    every task keeps the discipline from there on. -/
theorem disciplined (h : Interleaved d.surroundings tasks s now t log) (hinv : d.Inv [] s)
    (htasks : ∀ i, d.Keeps i (fun _ _ => True) (tasks i) []) :
    d.Inv log t ∧ ∀ i, d.Keeps i (fun _ _ => True) (now i) log := by
  induction h with
  | start => exact ⟨hinv, htasks⟩
  | drifted _ hd ih => exact ⟨d.drifts hd ih.1, ih.2⟩
  | @answered now _ _ _ i c resume reply _ hcall ha ih =>
      obtain ⟨hinv, hkeeps⟩ := ih
      have hi := hkeeps i
      rw [hcall] at hi
      obtain ⟨hallows, hnext⟩ := hi _ .refl
      refine ⟨d.step hinv hallows ha, fun j => ?_⟩
      -- the task that moved goes on by its own rule, the others only see the history grow
      by_cases hj : j = i
      · subst hj
        rw [Function.update_self]
        exact hnext _ _ _ hinv ha
      · rw [Function.update_of_ne hj]
        exact (hkeeps j).meanwhile (.other (Ne.symm hj))

/-- The run up to an event of the history: there the call of the event was waiting. -/
theorem waiting_of_event {e : Surroundings I σ} {later : List (Event ι I σ)} {ev : Event ι I σ}
    (h : Interleaved e tasks s now t log) (hlog : log = later ++ ev :: past) :
    ∃ before resume, Interleaved e tasks s before ev.before past ∧
      before ev.task = .call ev.call resume := by
  induction h generalizing later with
  | start => exact absurd hlog.symm (List.append_ne_nil_of_right_ne_nil _ (List.cons_ne_nil _ _))
  | drifted _ _ ih => exact ih hlog
  | @answered before _ _ _ _ _ resume _ h hcall _ ih =>
      cases later with
      | nil =>
          obtain ⟨rfl, rfl⟩ := List.cons.inj hlog
          exact ⟨before, resume, h, hcall⟩
      | cons newest later => exact ih (List.cons.inj hlog).2

/-- The run up to a call that was made: there the call was waiting. -/
theorem waiting_of_made {e : Surroundings I σ} {i : ι} {c : I.Call}
    (h : Interleaved e tasks s now t log) (hmade : Made now log past i c) :
    ∃ before u resume, Interleaved e tasks s before u past ∧ before i = .call c resume := by
  rcases hmade with ⟨later, ev, hlog, rfl, rfl⟩ | ⟨rfl, resume, hcall⟩
  · obtain ⟨before, resume, hpast, hcall⟩ := h.waiting_of_event hlog
    exact ⟨before, ev.before, resume, hpast, hcall⟩
  · exact ⟨now, t, resume, h, hcall⟩

/-- Every call that was made was allowed. -/
theorem allowed {i : ι} {c : I.Call} (h : Interleaved d.surroundings tasks s now t log)
    (hinv : d.Inv [] s) (htasks : ∀ i, d.Keeps i (fun _ _ => True) (tasks i) [])
    (hmade : Made now log past i c) : d.Allows past i c := by
  have hwaiting : ∀ {now t log resume}, Interleaved d.surroundings tasks s now t log →
      now i = .call c resume → d.Allows log i c := by
    intro now t log resume h hcall
    have hi := (h.disciplined hinv htasks).2 i
    rw [hcall] at hi
    exact (hi log .refl).1
  rcases hmade with ⟨later, ev, hlog, rfl, rfl⟩ | ⟨rfl, resume, hcall⟩
  · obtain ⟨before, resume, hpast, hcall⟩ := h.waiting_of_event hlog
    exact hwaiting hpast hcall
  · exact hwaiting h hcall

end Interleaved

/-! ## Single tasks -/

/-- The answered calls of one task, oldest first. -/
def ownAnswers {ι : Type} [DecidableEq ι] {I : Interface} {σ : Type} (i : ι)
    (log : List (Event ι I σ)) : List (Answer I σ) :=
  ((log.filter fun ev => ev.task = i).map (·.toAnswer)).reverse

/-- The surroundings of a task among others, whose doings in between are in the relation. -/
def Surroundings.relying {I : Interface} {σ : Type} (e : Surroundings I σ) (R : σ → σ → Prop) :
    Surroundings I σ where
  Answers := e.Answers
  Drifts := R

section

variable {ι : Type} [DecidableEq ι] {I : Interface} {σ : Type} {i : ι} {a : Answer I σ}
  {ev : Event ι I σ} {log : List (Event ι I σ)}

theorem ownAnswers_cons_self (h : ev.task = i) :
    ownAnswers i (ev :: log) = ownAnswers i log ++ [ev.toAnswer] := by
  simp [ownAnswers, h]

theorem ownAnswers_cons_other (h : ev.task ≠ i) : ownAnswers i (ev :: log) = ownAnswers i log := by
  simp [ownAnswers, h]

theorem mem_ownAnswers : a ∈ ownAnswers i log ↔ ∃ ev ∈ log, ev.task = i ∧ ev.toAnswer = a := by
  simp only [ownAnswers, List.mem_reverse, List.mem_map, List.mem_filter, decide_eq_true_eq,
    and_assoc]

/-- What a finished task has done is a trace of its procedure, between whose calls only happens what
    every answer and every drift keeps to. -/
theorem Interleaved.trace_of_done {α : Type} {e : Surroundings I σ} {R : σ → σ → Prop}
    {tasks now : ι → Procedure I α} {s t : σ} {result : α} (hrefl : ∀ s, R s s)
    (htrans : ∀ s t u, R s t → R t u → R s u)
    (hanswer : ∀ c s reply t, e.Answers c s reply t → R s t) (hdrift : ∀ s t, e.Drifts s t → R s t)
    (h : Interleaved e tasks s now t log) (hdone : now i = .done result) :
    ∃ u v, Procedure.Trace (e.relying R) (tasks i) u (ownAnswers i log) result v := by
  -- whatever trace follows from where the task stands is the rest of a trace from its start
  have hrest : ∀ u, R t u → ∀ (rest : List (Answer I σ)) (v : σ),
      Procedure.Trace (e.relying R) (now i) u rest result v →
      ∃ u, Procedure.Trace (e.relying R) (tasks i) u (ownAnswers i log ++ rest) result v := by
    clear hdone
    induction h with
    | start => exact fun u _ rest v h => ⟨u, h⟩
    | drifted _ hd ih => exact fun u hu => ih u (htrans _ _ _ (hdrift _ _ hd) hu)
    | @answered now t w log j c resume reply _ hcall ha ih =>
        intro u hu rest v htrace
        by_cases hj : j = i
        · subst hj
          rw [Function.update_self] at htrace
          have hcalled : Procedure.Trace (e.relying R) (now j) t (⟨c, reply, t, w⟩ :: rest)
              result v := hcall ▸ Procedure.Trace.call ha hu htrace
          obtain ⟨u', hu'⟩ := ih t (hrefl t) _ v hcalled
          have hown : ownAnswers j (⟨⟨c, reply, t, w⟩, j⟩ :: log) =
              ownAnswers j log ++ [⟨c, reply, t, w⟩] := ownAnswers_cons_self rfl
          refine ⟨u', ?_⟩
          rw [hown, List.append_assoc]
          exact hu'
        · rw [Function.update_of_ne (Ne.symm hj)] at htrace
          rw [ownAnswers_cons_other hj]
          exact ih u (htrans _ _ _ (hanswer _ _ _ _ ha) hu) rest v htrace
  obtain ⟨u, hu⟩ := hrest t (hrefl t) [] t (hdone ▸ .done result t)
  rw [List.append_nil] at hu
  exact ⟨u, t, hu⟩

/-- Every answer of a history is one that the surroundings allow. -/
theorem Interleaved.answers_of_mem {α : Type} {e : Surroundings I σ}
    {tasks now : ι → Procedure I α} {s t : σ} (h : Interleaved e tasks s now t log)
    (hev : ev ∈ log) : e.Answers ev.call ev.before ev.reply ev.after := by
  induction h with
  | start => exact absurd hev List.not_mem_nil
  | drifted _ _ ih => exact ih hev
  | answered _ _ ha ih =>
      rcases List.mem_cons.1 hev with rfl | hev
      · exact ha
      · exact ih hev

end

/-! ## Playing a schedule -/

/-- Where tasks stand that have taken turns, with their history as seen through a view of the
    state. -/
structure Standing (ι : Type) (I : Interface) (σ τ α : Type) where
  tasks : ι → Procedure I α
  state : τ
  log : List (Event ι I σ) := []

namespace Service

variable {ι : Type} [DecidableEq ι] {I : Interface} {α σ τ : Type}

/-- The call of the task is answered, unless it has to wait. -/
def turn (service : Service I τ) (view : τ → σ) (x : Standing ι I σ τ α) (i : ι) :
    Standing ι I σ τ α :=
  match x.tasks i with
  | .done _ => x
  | .call c resume =>
      if service.waits c true x.state then x
      else
        let (reply, state) := service.answer c x.state
        { tasks := Function.update x.tasks i (resume reply)
          state
          log := ⟨⟨c, reply, view x.state, view state⟩, i⟩ :: x.log }

/-- Gives turns to the tasks as scheduled. -/
def play (service : Service I τ) (view : τ → σ) (schedule : List ι) (x : Standing ι I σ τ α) :
    Standing ι I σ τ α := schedule.foldl (service.turn view) x

variable {service : Service I τ} {view : τ → σ} {P : τ → Prop} {e : Surroundings I σ}
  {tasks : ι → Procedure I α} {s : σ} {x : Standing ι I σ τ α}

/-- A service that answers as the surroundings allow, in the states that it comes to, plays every
    schedule as an interleaving. -/
theorem interleaved_play
    (hservice : ∀ c state, P state → service.waits c true state = false →
      e.Answers c (view state) (service.answer c state).1 (view (service.answer c state).2) ∧
        P (service.answer c state).2)
    (schedule : List ι) (hstate : P x.state)
    (h : Interleaved e tasks s x.tasks (view x.state) x.log) :
    Interleaved e tasks s (service.play view schedule x).tasks
      (view (service.play view schedule x).state) (service.play view schedule x).log := by
  induction schedule generalizing x with
  | nil => exact h
  | cons i rest ih =>
      have hturn : P (service.turn view x i).state ∧
          Interleaved e tasks s (service.turn view x i).tasks
            (view (service.turn view x i).state) (service.turn view x i).log := by
        rw [turn]
        split
        · exact ⟨hstate, h⟩
        · next c resume hcall =>
            split
            · exact ⟨hstate, h⟩
            · next hwaits =>
                obtain ⟨ha, hnext⟩ :=
                  hservice c x.state hstate (Bool.eq_false_iff.2 hwaits)
                exact ⟨hnext, h.answered hcall ha⟩
      exact ih hturn.1 hturn.2

end Service

end CloudReconciler
