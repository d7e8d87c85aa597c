import Mathlib.Data.List.Basic
import Mathlib.Tactic.TypeStar

/-! Labelled transition systems and their runs. A run is the list of labels the
steps emitted, oldest first, so a property may speak of what has happened as
well as of the state reached. Nothing here depends on what the states are. -/
namespace Vpverk.Transition

variable {State Label State' : Type*}

/-- A system: where it may start, and which labelled steps it may take. -/
structure System (State Label : Type*) where
  initial : State → Prop
  step : State → Label → State → Prop

/-- Finitely many steps from one state to another, with the labels they emit. -/
inductive System.Steps (M : System State Label) (start : State) : List Label → State → Prop where
  | refl : M.Steps start [] start
  | next {trace label mid finish} :
      M.Steps start trace mid → M.step mid label finish → M.Steps start (trace ++ [label]) finish

/-- Steps from some initial state. -/
def System.Run (M : System State Label) (trace : List Label) (finish : State) : Prop :=
  ∃ start, M.initial start ∧ M.Steps start trace finish

/-- The same system, with only the steps a condition on the state before the
step and on the label allows. -/
def System.guarded (M : System State Label) (allowed : State → Label → Prop) :
    System State Label where
  initial := M.initial
  step before label after := M.step before label after ∧ allowed before label

variable {M : System State Label} {source mid finish : State} {trace later : List Label}

theorem System.Steps.trans (first : M.Steps source trace mid) (second : M.Steps mid later finish) :
    M.Steps source (trace ++ later) finish := by
  induction second with
  | refl => simpa using first
  | next _ step ih => simpa [List.append_assoc] using ih.next step

theorem System.Run.start (initial : M.initial source) : M.Run [] source :=
  ⟨source, initial, .refl⟩

theorem System.Run.next {label : Label} (run : M.Run trace mid) (step : M.step mid label finish) :
    M.Run (trace ++ [label]) finish := by
  obtain ⟨start, initial, steps⟩ := run
  exact ⟨start, initial, steps.next step⟩

theorem System.Run.extend (run : M.Run trace mid) (steps : M.Steps mid later finish) :
    M.Run (trace ++ later) finish := by
  obtain ⟨start, initial, first⟩ := run
  exact ⟨start, initial, first.trans steps⟩

/-- What holds of the empty history and survives every step holds of every
history from the same start. -/
theorem System.Steps.invariant {holds : List Label → State → Prop} (base : holds [] source)
    (preserved : ∀ trace before label after, M.Steps source trace before → holds trace before →
      M.step before label after → holds (trace ++ [label]) after)
    (steps : M.Steps source trace finish) : holds trace finish := by
  induction steps with
  | refl => exact base
  | next earlier step ih => exact preserved _ _ _ _ earlier ih step

/-- What holds initially and survives every step of a run holds in every run. -/
theorem System.Run.invariant {holds : List Label → State → Prop}
    (base : ∀ start, M.initial start → holds [] start)
    (preserved : ∀ trace before label after, M.Run trace before → holds trace before →
      M.step before label after → holds (trace ++ [label]) after)
    (run : M.Run trace finish) : holds trace finish := by
  obtain ⟨start, initial, steps⟩ := run
  exact steps.invariant (base start initial)
    fun trace before label after earlier held step =>
      preserved trace before label after ⟨start, initial, earlier⟩ held step

/-- The same for what does not look at the history. -/
theorem System.Run.reachable {holds : State → Prop}
    (base : ∀ start, M.initial start → holds start)
    (preserved : ∀ before label after, holds before → M.step before label after → holds after)
    (run : M.Run trace finish) : holds finish := by
  obtain ⟨start, initial, steps⟩ := run
  induction steps with
  | refl => exact base start initial
  | next _ step ih => exact preserved _ _ _ ih step

/-- An entry of a history with one more at its end is that one, or was there
before. -/
theorem snoc_split {α : Type*} {entries earlier later : List α} {last entry : α}
    (split : entries ++ [last] = earlier ++ entry :: later) :
    (earlier = entries ∧ entry = last ∧ later = []) ∨
      ∃ init, later = init ++ [last] ∧ entries = earlier ++ entry :: init := by
  rcases List.eq_nil_or_concat later with rfl | ⟨init, final, rfl⟩
  · obtain ⟨same, lastSame⟩ := List.append_inj' split rfl
    exact .inl ⟨same.symm, by simpa using lastSame.symm, rfl⟩
  · rw [List.concat_eq_append, ← List.cons_append, ← List.append_assoc] at split
    obtain ⟨same, lastSame⟩ := List.append_inj' split rfl
    obtain rfl : last = final := by simpa using lastSame
    exact .inr ⟨init, List.concat_eq_append, same⟩

/-- An entry of two histories in a row is in the one or in the other. -/
theorem append_split {α : Type*} {entries more earlier later : List α} {entry : α}
    (split : entries ++ more = earlier ++ entry :: later) :
    (∃ middle, earlier = entries ++ middle ∧ more = middle ++ entry :: later) ∨
      ∃ between, entries = earlier ++ entry :: between ∧ later = between ++ more := by
  rcases List.append_eq_append_iff.mp split with ⟨middle, rfl, same⟩ | ⟨middle, rfl, rest⟩
  · exact .inl ⟨middle, rfl, same⟩
  · rcases List.cons_eq_append_iff.mp rest with ⟨rfl, same⟩ | ⟨between, rfl, rfl⟩
    · exact .inl ⟨[], by simp, same⟩
    · exact .inr ⟨between, rfl, rfl⟩

/-- Every entry of a history is a step of it. -/
theorem System.Steps.entry {earlier : List Label} {label : Label} (steps : M.Steps source trace finish)
    (split : trace = earlier ++ label :: later) :
    ∃ before after, M.Steps source earlier before ∧ M.step before label after ∧
      M.Steps after later finish := by
  induction steps generalizing later with
  | refl => simp at split
  | @next entries last mid finish first step ih =>
    rcases snoc_split split with ⟨rfl, rfl, rfl⟩ | ⟨init, rfl, same⟩
    · exact ⟨mid, finish, first, step, .refl⟩
    · obtain ⟨before, after, run, stepped, rest⟩ := ih same
      exact ⟨before, after, run, stepped, rest.next step⟩

/-- The same for runs. -/
theorem System.Run.entry {earlier : List Label} {label : Label} (run : M.Run trace finish)
    (split : trace = earlier ++ label :: later) :
    ∃ before after, M.Run earlier before ∧ M.step before label after ∧
      M.Steps after later finish := by
  obtain ⟨start, initial, steps⟩ := run
  obtain ⟨before, after, first, step, rest⟩ := steps.entry split
  exact ⟨before, after, ⟨start, initial, first⟩, step, rest⟩

/-- What a history begins with is the first of its steps. -/
theorem System.Steps.head {label : Label} (steps : M.Steps source (label :: later) finish) :
    ∃ after, M.step source label after ∧ M.Steps after later finish := by
  have first : label :: later = [] ++ label :: later := rfl
  obtain ⟨before, after, nothing, step, rest⟩ := steps.entry first
  generalize none_left : [] = entries at nothing
  cases nothing with
  | refl => exact ⟨after, step, rest⟩
  | next => simp at none_left

/-- Steps that all meet the condition are steps. -/
theorem System.Steps.unguarded {allowed : State → Label → Prop}
    (steps : (M.guarded allowed).Steps source trace finish) : M.Steps source trace finish := by
  induction steps with
  | refl => exact .refl
  | next _ step ih => exact ih.next step.1

/-- A run whose steps all meet the condition is a run. -/
theorem System.Run.unguarded {allowed : State → Label → Prop}
    (run : (M.guarded allowed).Run trace finish) : M.Run trace finish := by
  obtain ⟨start, initial, steps⟩ := run
  exact ⟨start, initial, steps.unguarded⟩

/-- Where a step shows something good exactly when it meets the condition, a
history shows nothing but good exactly when all its steps meet it. -/
theorem System.Steps.guarded_iff {good : Label → Prop} {allowed : State → Label → Prop}
    (agree : ∀ trace before label after, M.Steps source trace before →
      M.step before label after → (good label ↔ allowed before label))
    (steps : M.Steps source trace finish) :
    (∀ label ∈ trace, good label) ↔ (M.guarded allowed).Steps source trace finish := by
  constructor
  · intro allGood
    induction steps with
    | refl => exact .refl
    | @next trace label before after earlier step ih =>
      have meets := (agree _ _ _ _ earlier step).mp (allGood label (by simp))
      exact (ih fun label member => allGood label (by simp [member])).next ⟨step, meets⟩
  · clear steps
    intro steps
    induction steps with
    | refl => simp
    | @next trace label before after earlier step ih =>
      have good : good label := (agree _ _ _ _ earlier.unguarded step.1).mpr step.2
      simpa [or_imp, forall_and] using ⟨ih, good⟩

/-- The same for runs. -/
theorem System.Run.guarded_iff {good : Label → Prop} {allowed : State → Label → Prop}
    (agree : ∀ trace before label after, M.Run trace before → M.step before label after →
      (good label ↔ allowed before label))
    (run : M.Run trace finish) :
    (∀ label ∈ trace, good label) ↔ (M.guarded allowed).Run trace finish := by
  have agree' : ∀ start, M.initial start → ∀ trace before label after,
      M.Steps start trace before → M.step before label after →
      (good label ↔ allowed before label) :=
    fun start initial trace before label after steps =>
      agree trace before label after ⟨start, initial, steps⟩
  constructor
  · intro allGood
    obtain ⟨start, initial, steps⟩ := run
    exact ⟨start, initial, (steps.guarded_iff (agree' start initial)).mp allGood⟩
  · rintro ⟨start, initial, steps⟩
    exact (steps.unguarded.guarded_iff (agree' start initial)).mpr steps

/-- A system given by a step function that says which events are possible. -/
structure Machine (State Event Label : Type*) where
  initial : State
  step : State → Event → Option (State × Label)

variable {Event : Type*}

def Machine.system (M : Machine State Event Label) : System State Label where
  initial start := start = M.initial
  step before label after := ∃ event, M.step before event = some (after, label)

/-- The labels and the state a list of events leads to, if they are all possible. -/
def Machine.replay (M : Machine State Event Label) :
    State → List Event → Option (List Label × State)
  | state, [] => some ([], state)
  | state, event :: rest =>
    match M.step state event with
    | none => none
    | some (next, label) =>
      match M.replay next rest with
      | none => none
      | some (trace, finish) => some (label :: trace, finish)

theorem Machine.replay_steps {M : Machine State Event Label} {events : List Event}
    (replayed : M.replay source events = some (trace, finish)) :
    M.system.Steps source trace finish := by
  induction events generalizing source trace with
  | nil => cases replayed; exact .refl
  | cons event rest ih =>
    simp only [Machine.replay] at replayed
    split at replayed
    · cases replayed
    · rename_i next label stepped
      split at replayed
      · cases replayed
      · rename_i later finish' replayedRest
        cases replayed
        have first : M.system.Steps source [label] next := System.Steps.next .refl ⟨event, stepped⟩
        exact first.trans (ih replayedRest)

theorem Machine.replay_run {M : Machine State Event Label} {events : List Event}
    (replayed : M.replay M.initial events = some (trace, finish)) :
    M.system.Run trace finish :=
  ⟨M.initial, rfl, replay_steps replayed⟩

/-- The machine with only the steps a condition allows. -/
def Machine.guarded (M : Machine State Event Label) (allowed : State → Label → Prop)
    [∀ state label, Decidable (allowed state label)] : Machine State Event Label where
  initial := M.initial
  step before event := (M.step before event).filter fun answer => allowed before answer.2

/-- Its runs are the guarded runs. -/
theorem Machine.guarded_run {M : Machine State Event Label} {allowed : State → Label → Prop}
    [∀ state label, Decidable (allowed state label)]
    (run : (M.guarded allowed).system.Run trace finish) :
    (M.system.guarded allowed).Run trace finish := by
  obtain ⟨start, initial, steps⟩ := run
  refine ⟨start, initial, ?_⟩
  induction steps with
  | refl => exact .refl
  | next _ step ih =>
    obtain ⟨event, stepped⟩ := step
    obtain ⟨stepped, meets⟩ := Option.filter_eq_some_iff.mp stepped
    exact ih.next ⟨⟨event, stepped⟩, by simpa using meets⟩

/-- The machine with its history beside its state. -/
def Machine.recorded (M : Machine State Event Label) : Machine (List Label × State) Event Label where
  initial := ([], M.initial)
  step before event :=
    (M.step before.2 event).map fun answer => ((before.1 ++ [answer.2], answer.1), answer.2)

/-- What is recorded is the history of a run of the machine. -/
theorem Machine.recorded_run {M : Machine State Event Label} {record : List Label × State}
    (run : M.recorded.system.Run trace record) : record.1 = trace ∧ M.system.Run trace record.2 := by
  obtain ⟨start, rfl, steps⟩ := run
  induction steps with
  | refl => exact ⟨rfl, .start rfl⟩
  | next _ step ih =>
    obtain ⟨event, stepped⟩ := step
    obtain ⟨⟨reached, label⟩, own, same⟩ := Option.map_eq_some_iff.mp stepped
    cases same
    exact ⟨by rw [ih.1], ih.2.next ⟨event, own⟩⟩

/-! ### One system seen as another -/

variable {Label' : Type*} {N : System State' Label'} {related : State → State' → Prop}
  {shows : Label → List Label'}

/-- Each step of the one system is, seen through what it shows, some steps of the other. -/
structure Simulates (M : System State Label) (N : System State' Label')
    (related : State → State' → Prop) (shows : Label → List Label') : Prop where
  initial : ∀ start, M.initial start → ∃ start', N.initial start' ∧ related start start'
  step : ∀ before label after before', related before before' → M.step before label after →
    ∃ after', N.Steps before' (shows label) after' ∧ related after after'

/-- A run of the one is a run of the other. -/
theorem Simulates.run (simulates : Simulates M N related shows) (run : M.Run trace finish) :
    ∃ finish', N.Run (trace.flatMap shows) finish' ∧ related finish finish' := by
  apply run.invariant
  · intro start initial
    obtain ⟨start', initial', rel⟩ := simulates.initial start initial
    exact ⟨start', .start initial', rel⟩
  · rintro trace before label after _ ⟨before', run', rel⟩ stepped
    obtain ⟨after', steps, rel'⟩ := simulates.step before label after before' rel stepped
    refine ⟨after', ?_, rel'⟩
    rw [List.flatMap_append, List.flatMap_singleton]
    exact run'.extend steps

end Vpverk.Transition
