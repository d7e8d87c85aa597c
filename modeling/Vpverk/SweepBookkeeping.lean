import Vpverk.Sweep
import Vpverk.Transition

/-! `connections_` among `acceptConnection` and any number of sweeps. A sweep runs
until it suspends, at its settings request and at each `close`; what it knows of
the vector is an index, which the others make stale meanwhile. -/
namespace Vpverk.SweepBookkeeping
open Transition Sweep

/-- Where a sweep stands. -/
inductive Pc where
  /-- In its settings request. -/
  | requesting
  /-- At the condition of its loop. -/
  | looping
  /-- Before `connections_[i]`. -/
  | indexing
  /-- Before `is_active`. -/
  | probing (conn : Nat)
  /-- Before `alive_time`. -/
  | aging (conn : Nat)
  /-- Before the last element is moved to the index. -/
  | removing (conn : Nat) (reason : String)
  /-- Before the call of `close`. -/
  | calling (conn : Nat) (reason : String)
  /-- In `close`. -/
  | closing
  | ended
  deriving DecidableEq, Repr

/-- A `closeOldSessions` coroutine. -/
structure Sweep where
  pc : Pc := .requesting
  i : Nat := 0
  maxAliveTime : Int := 0
  deriving DecidableEq, Repr

/-- Whether the process lives. -/
inductive Fate where
  | lives
  | aborted
  /-- An index was out of range. -/
  | undefined
  deriving DecidableEq, Repr

/-- `SessionsControl`, with its sweeps in the order they were started. A connection
is known by the number it has among those that were accepted; `running` is the
sweep that runs. -/
structure Control where
  connections : List Nat := []
  accepted : Nat := 0
  sweeps : List Sweep := []
  running : Option Nat := none
  fate : Fate := .lives
  deriving DecidableEq, Repr

inductive Label where
  | accepted (conn : Nat)
  | answered (sweep : Nat) (maxAliveTime : Int)
  | probed (sweep : Nat) (conn : Nat) (isActive : Option Bool)
  | aged (sweep : Nat) (conn : Nat) (aliveTime : Int)
  /-- What stood at the index is in the vector no more. -/
  | removed (sweep : Nat) (conn : Nat)
  | closes (sweep : Nat) (conn : Nat) (reason : String)
  | aborts (info : String)
  | undefined
  | quiet
  deriving DecidableEq, Repr

/-- What the sweep has called `is_active` of, oldest first. -/
def probes (k : Nat) (trace : List Label) : List Nat :=
  trace.filterMap fun
    | .probed sweep conn _ => if sweep = k then some conn else none
    | _ => none

/-- What happens next. -/
inductive Event where
  /-- `acceptConnection` has a new connection. -/
  | accept
  /-- The cleanup timer starts a sweep. -/
  | timer
  /-- The settings request of a sweep is answered. -/
  | settings (sweep : Nat) (answer : Except String Int)
  /-- The sweep that runs goes on, by itself, or with what it is told. -/
  | goesOn
  | probe (answer : Except String (Option Bool))
  | age (aliveTime : Int)
  /-- The `close` of a sweep has come to its end. -/
  | returns (sweep : Nat) (answer : Except String Unit)

def Control.put (control : Control) (sweep : Nat) (changed : Sweep) : Control :=
  { control with sweeps := control.sweeps.set sweep changed }

/-- The catch block of `closeOldSessions`. -/
def Control.abort (control : Control) (what : String) : Control × Label :=
  ({ control with fate := .aborted }, .aborts ("exception in close old: " ++ what))

/-- A call of `closeOldSessions`, which runs to its settings request. -/
def Control.startSweep (control : Control) : Control :=
  { control with sweeps := control.sweeps ++ [{}] }

/-- The end of an iteration of `acceptConnection`. -/
def Control.accept (control : Control) : Control × Label :=
  let pushed := { control with
    connections := control.connections ++ [control.accepted]
    accepted := control.accepted + 1 }
  (if pushed.connections.length > 1 <<< 13 then pushed.startSweep else pushed,
    .accepted control.accepted)

/-- The sweep that runs, from one access to the next. -/
def run (control : Control) (k : Nat) (sweep : Sweep) : Pc → Event → Option (Control × Label)
  | .looping, .goesOn =>
    if sweep.i < control.connections.length then
      some (control.put k { sweep with pc := .indexing }, .quiet)
    else some ({ control.put k { sweep with pc := .ended } with running := none }, .quiet)
  | .indexing, .goesOn =>
    match control.connections[sweep.i]? with
    | none => some ({ control with fate := .undefined }, .undefined)
    | some conn => some (control.put k { sweep with pc := .probing conn }, .quiet)
  | .probing conn, .probe (.ok none) =>
    some (control.put k { sweep with pc := .looping, i := sweep.i + 1 }, .probed k conn none)
  | .probing conn, .probe (.ok (some false)) =>
    some (control.put k { sweep with pc := .removing conn "not active (should be no-op)" },
      .probed k conn (some false))
  | .probing conn, .probe (.ok (some true)) =>
    some (control.put k { sweep with pc := .aging conn }, .probed k conn (some true))
  | .probing _, .probe (.error what) => some (control.abort what)
  | .aging conn, .age aliveTime =>
    if sweep.maxAliveTime ≤ aliveTime then
      some (control.put k { sweep with pc := .removing conn "session expired" },
        .aged k conn aliveTime)
    else
      some (control.put k { sweep with pc := .looping, i := sweep.i + 1 }, .aged k conn aliveTime)
  | .removing conn reason, .goesOn =>
    match control.connections[sweep.i]?, swapRemove control.connections sweep.i with
    | some there, some left =>
      some ({ control.put k { sweep with pc := .calling conn reason } with connections := left },
        .removed k there)
    | _, _ => some ({ control with fate := .undefined }, .undefined)
  | .calling conn reason, .goesOn =>
    some ({ control.put k { sweep with pc := .closing } with running := none },
      .closes k conn reason)
  | _, _ => none

def step (control : Control) (event : Event) : Option (Control × Label) :=
  if control.fate ≠ .lives then none
  else
    match control.running with
    | some k =>
      match control.sweeps[k]? with
      | none => none
      | some sweep => run control k sweep sweep.pc event
    | none =>
      match event with
      | .accept => some control.accept
      | .timer => some (control.startSweep, .quiet)
      | .settings k answer =>
        match control.sweeps[k]? with
        | none => none
        | some sweep =>
          if sweep.pc ≠ .requesting then none
          else
            match answer with
            | .error what => some (control.abort what)
            | .ok maxAliveTime =>
              some ({ control.put k { sweep with pc := .looping, maxAliveTime := maxAliveTime } with
                running := some k }, .answered k maxAliveTime)
      | .returns k answer =>
        match control.sweeps[k]? with
        | none => none
        | some sweep =>
          if sweep.pc ≠ .closing then none
          else
            match answer with
            | .error what => some (control.abort what)
            | .ok () =>
              some ({ control.put k { sweep with
                  pc := .looping
                  i := min sweep.i control.connections.length } with running := some k }, .quiet)
      | .goesOn | .probe _ | .age _ => none

def machine : Machine Control Event Label where
  initial := {}
  step := step

abbrev system : System Control Label := machine.system

/-- What a step does: the sweep that runs goes on, and while none runs, something
that was awaited comes. -/
inductive Takes (control : Control) : Event → Control × Label → Prop where
  | runs {k sweep event result} : control.running = some k → control.sweeps[k]? = some sweep →
      run control k sweep sweep.pc event = some result → Takes control event result
  | accepts : control.running = none → Takes control .accept control.accept
  | starts : control.running = none → Takes control .timer (control.startSweep, .quiet)
  | answered {k sweep maxAliveTime} : control.running = none →
      control.sweeps[k]? = some sweep → sweep.pc = .requesting →
      Takes control (.settings k (.ok maxAliveTime))
        ({ control.put k { sweep with pc := .looping, maxAliveTime := maxAliveTime } with
            running := some k }, .answered k maxAliveTime)
  | returned {k sweep} : control.running = none → control.sweeps[k]? = some sweep →
      sweep.pc = .closing →
      Takes control (.returns k (.ok ()))
        ({ control.put k { sweep with
            pc := .looping
            i := min sweep.i control.connections.length } with running := some k }, .quiet)
  /-- An awaited request throws. -/
  | fails {event what} : control.running = none → Takes control event (control.abort what)

theorem step_takes {control : Control} {event : Event} {result : Control × Label}
    (stepped : step control event = some result) :
    control.fate = .lives ∧ Takes control event result := by
  unfold step at stepped
  split at stepped
  · cases stepped
  · rename_i lives
    refine ⟨by simpa using lives, ?_⟩
    split at stepped
    · rename_i k runs
      split at stepped
      · cases stepped
      · rename_i sweep stands
        exact .runs runs stands stepped
    · rename_i rests
      cases event with
      | goesOn | probe | age => cases stepped
      | accept =>
        cases stepped
        exact .accepts rests
      | timer =>
        cases stepped
        exact .starts rests
      | settings k answer =>
        dsimp only at stepped
        split at stepped
        · cases stepped
        · rename_i sweep stands
          split at stepped
          · cases stepped
          · rename_i requesting
            cases answer <;> cases stepped
            · exact .fails rests
            · exact .answered rests stands (by simpa using requesting)
      | returns k answer =>
        dsimp only at stepped
        split at stepped
        · cases stepped
        · rename_i sweep stands
          split at stepped
          · cases stepped
          · rename_i closing
            cases answer <;> cases stepped
            · exact .fails rests
            · exact .returned rests stands (by simpa using closing)

/-! ### The books -/

/-- How often the connection has been taken out. -/
def removals (conn : Nat) (trace : List Label) : Nat :=
  trace.countP fun
    | .removed _ there => there = conn
    | _ => false

variable {trace : List Label} {control after : Control} {k : Nat} {sweep changed : Sweep}
  {label : Label} {conn : Nat} {result : Control × Label} {event : Event}

/-- A step that neither accepts nor removes. -/
def Label.Plain : Label → Prop
  | .accepted _ | .removed _ _ => False
  | _ => True

theorem removals_plain (plain : label.Plain) :
    removals conn (trace ++ [label]) = removals conn trace := by
  cases label <;> simp_all [removals, Label.Plain]

theorem removals_removed (there : Nat) :
    removals conn (trace ++ [.removed k there]) =
      removals conn trace + if there = conn then 1 else 0 := by
  by_cases same : there = conn <;> simp [removals, same]

/-- A sweep has just seen the connection inactive, or too old. -/
def Condemned (trace : List Label) (k : Nat) (maxAliveTime : Int) (conn : Nat) : Prop :=
  (∃ init, trace = init ++ [.probed k conn (some false)]) ∨
    ∃ init aliveTime, trace = init ++ [.probed k conn (some true), .aged k conn aliveTime] ∧
      maxAliveTime ≤ aliveTime

/-- What the sweep that runs relies on: nobody has touched the vector since it
looked at it, and it has just seen what it acts on. -/
def AtWork (trace : List Label) (connections : List Nat) (k : Nat) (sweep : Sweep) : Prop :=
  match sweep.pc with
  | .looping => True
  | .indexing => sweep.i < connections.length
  | .probing conn => connections[sweep.i]? = some conn
  | .aging conn => connections[sweep.i]? = some conn ∧
      ∃ init, trace = init ++ [.probed k conn (some true)]
  | .removing conn _ => connections[sweep.i]? = some conn ∧
      Condemned trace k sweep.maxAliveTime conn
  | .calling conn _ => ∃ init, trace = init ++ [.removed k conn]
  | .requesting | .closing | .ended => False

/-- The invariant. -/
structure Sound (trace : List Label) (control : Control) : Prop where
  defined : control.fate ≠ .undefined
  work : control.fate = .lives → ∀ k, control.running = some k →
    ∃ sweep, control.sweeps[k]? = some sweep ∧ AtWork trace control.connections k sweep
  books : ∀ conn, control.connections.count conn + removals conn trace =
    if conn < control.accepted then 1 else 0
  accepts : ∀ conn, .accepted conn ∈ trace ↔ conn < control.accepted
  answered : ∀ k sweep, control.sweeps[k]? = some sweep → sweep.pc ≠ .requesting →
    .answered k sweep.maxAliveTime ∈ trace

/-- The books do not change with a step that neither accepts nor removes. -/
private theorem Sound.plain (after : Control) (sound : Sound trace control) (plain : label.Plain)
    (connections : after.connections = control.connections)
    (accepted : after.accepted = control.accepted) :
    (∀ conn, after.connections.count conn + removals conn (trace ++ [label]) =
      if conn < after.accepted then 1 else 0) ∧
    ∀ conn, .accepted conn ∈ trace ++ [label] ↔ conn < after.accepted := by
  constructor
  · intro conn
    rw [removals_plain plain, connections, accepted]
    exact sound.books conn
  · intro conn
    rw [accepted, ← sound.accepts, List.mem_append, List.mem_singleton, or_iff_left_iff_imp]
    rintro rfl
    exact plain.elim

/-- A sweep that has had its answer moves. -/
private theorem answered_put (sound : Sound trace control) (stands : control.sweeps[k]? = some sweep)
    (same : .answered k changed.maxAliveTime ∈ trace ++ [label]) :
    ∀ other found, (control.put k changed).sweeps[other]? = some found → found.pc ≠ .requesting →
      .answered other found.maxAliveTime ∈ trace ++ [label] := by
  intro other found there begun
  have inside : k < control.sweeps.length := (List.getElem?_eq_some_iff.mp stands).1
  by_cases self : k = other
  · subst self
    rw [Control.put, List.getElem?_set_self inside] at there
    cases there
    exact same
  · rw [Control.put, List.getElem?_set_ne self] at there
    exact List.mem_append_left _ (sound.answered other found there begun)

/-- A sweep goes from one place to another and changes nothing else. -/
private theorem Sound.put (sound : Sound trace control) (stands : control.sweeps[k]? = some sweep)
    (plain : label.Plain) (same : .answered k changed.maxAliveTime ∈ trace ++ [label])
    (running : Option Nat) (work : ∀ other, running = some other → other = k ∧
      AtWork (trace ++ [label]) control.connections k changed) :
    Sound (trace ++ [label]) { control.put k changed with running := running } := by
  have inside : k < control.sweeps.length := (List.getElem?_eq_some_iff.mp stands).1
  have kept := sound.plain { control.put k changed with running := running } plain rfl rfl
  refine ⟨sound.defined, fun _ other runs => ?_, kept.1, kept.2, answered_put sound stands same⟩
  obtain ⟨rfl, work⟩ := work other runs
  exact ⟨changed, List.getElem?_set_self inside, work⟩

/-- An exception ends the process, and the books are as they were. -/
private theorem Sound.abort (sound : Sound trace control) (what : String) :
    Sound (trace ++ [(control.abort what).2]) (control.abort what).1 := by
  have plain : (control.abort what).2.Plain := trivial
  have kept := sound.plain (control.abort what).1 plain rfl rfl
  exact ⟨by simp [Control.abort], by simp [Control.abort], kept.1, kept.2,
    fun k sweep there begun => List.mem_append_left _ (sound.answered k sweep there begun)⟩

/-- The connection at the index of a sweep is taken out. -/
private theorem Sound.removes {left : List Nat} (sound : Sound trace control)
    (stands : control.sweeps[k]? = some sweep) (perm : control.connections.Perm (conn :: left))
    (same : .answered k changed.maxAliveTime ∈ trace) (calls : ∃ reason, changed.pc = .calling conn reason)
    (runs : control.running = some k) :
    Sound (trace ++ [.removed k conn]) { control.put k changed with connections := left } := by
  have inside : k < control.sweeps.length := (List.getElem?_eq_some_iff.mp stands).1
  obtain ⟨reason, calls⟩ := calls
  refine ⟨sound.defined, fun _ other also => ?_, fun other => ?_, fun other => ?_,
    answered_put sound stands (List.mem_append_left _ same)⟩
  · obtain rfl : k = other := Option.some.inj (runs.symm.trans also)
    exact ⟨changed, List.getElem?_set_self inside, by rw [AtWork, calls]; exact ⟨trace, rfl⟩⟩
  · have books := sound.books other
    rw [perm.count_eq, List.count_cons] at books
    simp only [beq_iff_eq] at books
    rw [removals_removed]
    change left.count other + _ = if other < control.accepted then 1 else 0
    omega
  · change _ ↔ other < control.accepted
    simpa using sound.accepts other

/-- The sweep that runs goes on running. -/
private theorem Sound.goes (sound : Sound trace control) (stands : control.sweeps[k]? = some sweep)
    (runs : control.running = some k) (plain : label.Plain)
    (same : .answered k changed.maxAliveTime ∈ trace)
    (work : AtWork (trace ++ [label]) control.connections k changed) :
    Sound (trace ++ [label]) (control.put k changed) :=
  sound.put stands plain (List.mem_append_left _ same) control.running
    fun _ also => ⟨Option.some.inj (also.symm.trans runs), work⟩

/-- It stops running. -/
private theorem Sound.rests (sound : Sound trace control) (stands : control.sweeps[k]? = some sweep)
    (plain : label.Plain) (same : .answered k changed.maxAliveTime ∈ trace) :
    Sound (trace ++ [label]) { control.put k changed with running := none } :=
  sound.put stands plain (List.mem_append_left _ same) none (by simp)

theorem run_sound (sound : Sound trace control) (lives : control.fate = .lives)
    (runs : control.running = some k) (stands : control.sweeps[k]? = some sweep)
    (ran : run control k sweep sweep.pc event = some result) :
    Sound (trace ++ [result.2]) result.1 := by
  obtain ⟨same, found, work⟩ := sound.work lives k runs
  obtain rfl : same = sweep := Option.some.inj (found.symm.trans stands)
  have answered : same.pc ≠ .requesting → .answered k same.maxAliveTime ∈ trace :=
    sound.answered k same stands
  unfold AtWork at work
  cases here : same.pc with
  | requesting | closing | ended => simp [here] at work
  | looping =>
    have answered := answered (by simp [here])
    rw [here] at ran
    cases event with
    | goesOn =>
      dsimp only [run] at ran
      split at ran <;> cases ran
      · rename_i inside
        exact sound.goes stands runs trivial answered inside
      · exact sound.rests stands trivial answered
    | _ => cases ran
  | indexing =>
    have answered := answered (by simp [here])
    rw [here] at ran work
    cases event with
    | goesOn =>
      dsimp only [run] at ran
      split at ran <;> cases ran
      · rename_i outside
        exact absurd work (Nat.not_lt.mpr (List.getElem?_eq_none_iff.mp outside))
      · rename_i there
        exact sound.goes stands runs trivial answered there
    | _ => cases ran
  | probing conn =>
    have answered := answered (by simp [here])
    rw [here] at ran work
    cases event with
    | probe answer =>
      match answer with
      | .error what =>
        cases ran
        exact sound.abort what
      | .ok none =>
        cases ran
        exact sound.goes stands runs trivial answered trivial
      | .ok (some false) =>
        cases ran
        exact sound.goes stands runs trivial answered ⟨work, .inl ⟨trace, rfl⟩⟩
      | .ok (some true) =>
        cases ran
        exact sound.goes stands runs trivial answered ⟨work, trace, rfl⟩
    | _ => cases ran
  | aging conn =>
    have answered := answered (by simp [here])
    rw [here] at ran work
    cases event with
    | age aliveTime =>
      obtain ⟨there, init, rfl⟩ := work
      dsimp only [run] at ran
      split at ran <;> cases ran
      · rename_i old
        exact sound.goes stands runs trivial answered ⟨there, .inr ⟨init, aliveTime, by simp, old⟩⟩
      · exact sound.goes stands runs trivial answered trivial
    | _ => cases ran
  | removing conn reason =>
    have answered := answered (by simp [here])
    rw [here] at ran work
    cases event with
    | goesOn =>
      obtain ⟨left, removed, perm⟩ := swapRemove_perm work.1
      dsimp only [run] at ran
      rw [work.1, removed] at ran
      cases ran
      exact sound.removes stands perm answered ⟨reason, rfl⟩ runs
    | _ => cases ran
  | calling conn reason =>
    have answered := answered (by simp [here])
    rw [here] at ran
    cases event with
    | goesOn =>
      cases ran
      exact sound.rests stands trivial answered
    | _ => cases ran

/-- A sweep whose await is over runs again. -/
private theorem Sound.wakes (sound : Sound trace control) (stands : control.sweeps[k]? = some sweep)
    (plain : label.Plain) (same : .answered k changed.maxAliveTime ∈ trace ++ [label])
    (loops : changed.pc = .looping) :
    Sound (trace ++ [label]) { control.put k changed with running := some k } :=
  sound.put stands plain same (some k)
    fun _ runs => ⟨(Option.some.inj runs).symm, by rw [AtWork, loops]; trivial⟩

/-- A sweep that has not been answered knows nothing. -/
private theorem Sound.startSweep (sound : Sound trace control) (rests : control.running = none) :
    Sound trace control.startSweep := by
  refine ⟨sound.defined, fun _ k runs => ?_, sound.books, sound.accepts, fun k sweep there begun => ?_⟩
  · rw [Control.startSweep, rests] at runs
    cases runs
  · rw [Control.startSweep, List.getElem?_append] at there
    split at there
    · exact sound.answered k sweep there begun
    · obtain ⟨_, rfl⟩ := List.getElem?_eq_some_iff.mp there
      exact absurd (by simp) begun

/-- Nothing that anybody relies on happens while no sweep runs. -/
private theorem Sound.quiet (sound : Sound trace control) (rests : control.running = none)
    (plain : label.Plain) : Sound (trace ++ [label]) control := by
  have kept := sound.plain control plain rfl rfl
  exact ⟨sound.defined, by simp [rests], kept.1, kept.2,
    fun k sweep there begun => List.mem_append_left _ (sound.answered k sweep there begun)⟩

/-- One connection more is in the books, and in the vector. -/
private theorem Sound.accept (sound : Sound trace control) (rests : control.running = none) :
    Sound (trace ++ [control.accept.2]) control.accept.1 := by
  have pushed : Sound (trace ++ [.accepted control.accepted]) { control with
      connections := control.connections ++ [control.accepted]
      accepted := control.accepted + 1 } := by
    refine ⟨sound.defined, by simp [rests], fun conn => ?_, fun conn => ?_,
      fun k sweep there begun => List.mem_append_left _ (sound.answered k sweep there begun)⟩
    · have books := sound.books conn
      have same : removals conn (trace ++ [.accepted control.accepted]) = removals conn trace := by
        simp [removals]
      change (control.connections ++ [control.accepted]).count conn + _ =
        if conn < control.accepted + 1 then 1 else 0
      rw [same, List.count_append, List.count_singleton]
      simp only [beq_iff_eq]
      split at books <;> split <;> split <;> omega
    · have accepts := sound.accepts conn
      change _ ↔ conn < control.accepted + 1
      simp only [List.mem_append, List.mem_singleton, Label.accepted.injEq, accepts]
      omega
  unfold Control.accept
  dsimp only
  split
  · exact pushed.startSweep rests
  · exact pushed

theorem step_sound (sound : Sound trace control) (stepped : step control event = some result) :
    Sound (trace ++ [result.2]) result.1 := by
  obtain ⟨lives, takes⟩ := step_takes stepped
  cases takes with
  | runs runs stands ran => exact run_sound sound lives runs stands ran
  | accepts rests => exact sound.accept rests
  | starts rests => exact (sound.startSweep rests).quiet rests trivial
  | answered _ stands =>
    exact sound.wakes stands trivial (List.mem_append_right _ (List.mem_singleton_self _)) rfl
  | returned _ stands closing =>
    have answered := sound.answered _ _ stands (by simp [closing])
    exact sound.wakes stands trivial (List.mem_append_left _ answered) rfl
  | fails => exact sound.abort _

theorem system_sound (run : system.Run trace control) : Sound trace control := by
  obtain ⟨start, rfl, steps⟩ := run
  induction steps with
  | refl => constructor <;> simp [machine, removals]
  | next _ step ih =>
    obtain ⟨event, stepped⟩ := step
    exact step_sound ih stepped

/-! ### A removal -/

private theorem run_removed {other : Nat} (stands : control.sweeps[other]? = some sweep)
    (ran : run control other sweep sweep.pc event = some (after, .removed k conn)) :
    other = k ∧ ∃ found reason, sweep.pc = .removing found reason ∧
      control.connections[sweep.i]? = some conn ∧
      after.running = control.running ∧ ∃ next, after.sweeps[other]? = some next ∧
        next.pc = .calling found reason := by
  have inside : other < control.sweeps.length := (List.getElem?_eq_some_iff.mp stands).1
  cases here : sweep.pc with
  | removing found reason =>
    rw [here] at ran
    cases event with
    | goesOn =>
      dsimp only [run] at ran
      cases there : control.connections[sweep.i]? with
      | none =>
        rw [there] at ran
        cases ran
      | some _ =>
        rw [there] at ran
        cases swapped : swapRemove control.connections sweep.i <;> rw [swapped] at ran <;> cases ran
        exact ⟨rfl, found, reason, rfl, rfl, rfl, _, List.getElem?_set_self inside, rfl⟩
    | _ => cases ran
  | requesting | closing | ended => rw [here] at ran; cases ran
  | looping | indexing | aging | calling =>
    rw [here] at ran
    cases event <;> dsimp only [run] at ran <;> first | cases ran | (split at ran <;> cases ran)
  | probing found =>
    rw [here] at ran
    unfold run at ran
    split at ran <;> first | cases ran | simp_all

/-- A step that removes is that of a sweep that acts on what it has just seen, and
is about to close it. -/
theorem step_removed (sound : Sound trace control)
    (stepped : step control event = some (after, .removed k conn)) :
    (∃ maxAliveTime, .answered k maxAliveTime ∈ trace ∧ Condemned trace k maxAliveTime conn) ∧
      after.running = some k ∧ ∃ sweep reason, after.sweeps[k]? = some sweep ∧
        sweep.pc = .calling conn reason := by
  obtain ⟨lives, takes⟩ := step_takes stepped
  generalize emitted : (after, Label.removed k conn) = result at takes
  cases takes with
  | @runs other sweep _ _ runs stands ran =>
    subst emitted
    obtain ⟨rfl, found, reason, here, there, running, next, at', calls⟩ := run_removed stands ran
    obtain ⟨same, known, work⟩ := sound.work lives other runs
    obtain rfl : same = sweep := Option.some.inj (known.symm.trans stands)
    rw [AtWork, here] at work
    obtain rfl : found = conn := Option.some.inj (work.1.symm.trans there)
    exact ⟨⟨_, sound.answered other same stands (by simp [here]), work.2⟩,
      running.trans runs, next, reason, at', calls⟩
  | accepts | starts | answered | returned | fails => cases emitted

/-- A sweep that is about to close a connection does. -/
theorem step_closes {reason : String} (runs : control.running = some k)
    (stands : control.sweeps[k]? = some sweep) (calls : sweep.pc = .calling conn reason)
    (stepped : step control event = some result) : result.2 = .closes k conn reason := by
  unfold step at stepped
  split at stepped
  · cases stepped
  · simp only [runs, stands, calls] at stepped
    cases event <;> cases stepped
    rfl

/-- **The sweeps keep the books.** However connections are accepted and however many
sweeps run, no sweep indexes `connections_` out of range; an accepted connection is
in the vector once or has been taken out once; and the sweep that takes it out has
just seen it inactive, or at least as old as its `max_alive_time`, and calls `close`
on it next. -/
theorem sessions_booked (run : system.Run trace control) :
    control.fate ≠ .undefined ∧
    (∀ conn, .accepted conn ∈ trace →
      control.connections.count conn = 1 ∧ removals conn trace = 0 ∨
        control.connections.count conn = 0 ∧ removals conn trace = 1) ∧
    (∀ conn, .accepted conn ∉ trace → conn ∉ control.connections ∧ removals conn trace = 0) ∧
    ∀ earlier k conn later, trace = earlier ++ .removed k conn :: later →
      (∃ maxAliveTime, .answered k maxAliveTime ∈ earlier ∧
        Condemned earlier k maxAliveTime conn) ∧
      (later = [] ∨ ∃ reason rest, later = .closes k conn reason :: rest) := by
  have sound := system_sound run
  refine ⟨sound.defined, fun conn accepted => ?_, fun conn unknown => ?_, ?_⟩
  · have books := sound.books conn
    rw [if_pos ((sound.accepts conn).mp accepted)] at books
    omega
  · have books := sound.books conn
    rw [if_neg fun known => unknown ((sound.accepts conn).mpr known)] at books
    exact ⟨List.count_eq_zero.mp (by omega), by omega⟩
  · intro earlier k conn later split
    obtain ⟨before, after, run', ⟨event, stepped⟩, steps⟩ := run.entry split
    obtain ⟨condemned, running, sweep, reason, stands, calls⟩ :=
      step_removed (system_sound run') stepped
    refine ⟨condemned, ?_⟩
    cases later with
    | nil => exact .inl rfl
    | cons label rest =>
      obtain ⟨mid, ⟨event', stepped'⟩, _⟩ := steps.head
      have closes : label = .closes k conn reason := step_closes running stands calls stepped'
      exact .inr ⟨reason, rest, by rw [closes]⟩

/-- Two sweeps run among three clients. One takes out the first client as too old,
the other the second as not active. -/
def threeClients : List Event :=
  [.accept, .accept, .timer, .timer, .settings 1 (.ok 3600), .goesOn, .goesOn, .probe (.ok (some true)),
    .age 3600, .goesOn, .goesOn, .accept, .settings 0 (.ok 3600), .goesOn, .goesOn,
    .probe (.ok (some false)), .goesOn, .goesOn, .returns 1 (.ok ()), .goesOn, .goesOn,
    .probe (.ok none), .goesOn]

theorem sessions_booked_three_clients :
    ∃ trace control, system.Run trace control ∧ control.connections = [2] ∧
      (∀ conn, .accepted conn ∈ trace →
        control.connections.count conn = 1 ∧ removals conn trace = 0 ∨
          control.connections.count conn = 0 ∧ removals conn trace = 1) ∧
      ∃ maxAliveTime, Condemned (trace.take 9) 1 maxAliveTime 0 := by
  have replayed : machine.replay machine.initial threeClients = some (_, _) := rfl
  have run := Machine.replay_run replayed
  obtain ⟨_, once, _, removed⟩ := sessions_booked run
  obtain ⟨⟨maxAliveTime, _, condemned⟩, _⟩ :=
    removed _ 1 0 _ (List.take_append_drop 9 _).symm
  exact ⟨_, _, run, rfl, once, maxAliveTime, condemned⟩

end Vpverk.SweepBookkeeping
