import Mathlib.Data.List.Range
import Vpverk.SweepBookkeeping

/-! `acceptConnection`, which listens again after every error: its catch block gives the
acceptor up and calls the coroutine anew. Around it are the sweeps it starts and those of
the cleanup timer. -/
namespace Vpverk.AcceptLoop
open Transition Asioapi

/-- Where an `acceptConnection` coroutine stands. -/
inductive Pc where
  /-- In its settings request. -/
  | requesting
  /-- In `async_accept`. -/
  | accepting
  | ended
  deriving DecidableEq, Repr

/-- `SessionsControl`: its connections and sweeps, every `acceptConnection` there has
been, the port `acceptor_` listens on, and the connections `startConnection` was called
with. `startAcceptingConnections` has called the first. -/
structure Control where
  books : SweepBookkeeping.Control := {}
  loops : List Pc := [.requesting]
  acceptor : Option UInt16 := none
  stopRequested : Bool := false
  started : List Nat := []

inductive Label where
  | listens (port : UInt16)
  | accepted (conn : Nat)
  /-- What the catch block logs. -/
  | restarts (line : String)
  | ends
  | stops
  | sweeps (label : SweepBookkeeping.Label)
  deriving DecidableEq, Repr

/-- What happens next. -/
inductive Event where
  /-- The settings request is answered with a port, and it can be listened on or not. -/
  | settings (loop : Nat) (answer : Except String UInt16) (listening : Except String Unit)
  /-- A client is there, whose socket can be made non-blocking or not. -/
  | client (loop : Nat) (nonBlocking : Except String Unit)
  | fails (loop : Nat) (ec : ErrorCode)
  | requestStop
  /-- The timer or a sweep. -/
  | sweeps (event : SweepBookkeeping.Event)

/-- The catch block. -/
def Control.restart (control : Control) (loop : Nat) (what : String) : Control × Label :=
  ({ control with acceptor := none, loops := control.loops.set loop .ended ++ [.requesting] },
    .restarts ("error in acceptor: " ++ what))

/-- The condition of the loop. -/
def Control.top (control : Control) (loop : Nat) : Control :=
  { control with loops := control.loops.set loop (if control.stopRequested then .ended else .accepting) }

/-- The rest of an iteration: `startConnection` runs to its first await, and a sweep to
its settings request if there are too many connections. -/
def Control.accept (control : Control) (loop : Nat) : Control × Label :=
  (Control.top { control with
    books := control.books.accept.1, started := control.started ++ [control.books.accepted] } loop,
    .accepted control.books.accepted)

/-- What the coroutine does that runs next, up to its next await. -/
def step (control : Control) : Event → Option (Control × Label)
  | .settings loop answer listening =>
    if control.books.fate ≠ .lives ∨ control.books.running ≠ none ∨
      control.loops[loop]? ≠ some .requesting then none
    else
      match answer, listening with
      | .error what, _ | .ok _, .error what => some (control.restart loop what)
      | .ok port, .ok () => some (Control.top { control with acceptor := some port } loop, .listens port)
  | .client loop nonBlocking =>
    if control.books.fate ≠ .lives ∨ control.books.running ≠ none ∨
      control.loops[loop]? ≠ some .accepting then none
    else
      match nonBlocking with
      | .error what => some (control.restart loop what)
      | .ok () => some (control.accept loop)
  | .fails loop ec =>
    if control.books.fate ≠ .lives ∨ control.books.running ≠ none ∨
      control.loops[loop]? ≠ some .accepting then none
    else if ec = .operationCanceled ∧ control.stopRequested then
      some ({ control with loops := control.loops.set loop .ended }, .ends)
    else some (control.restart loop ("asio <error_code> " ++ ec.message))
  | .requestStop => some ({ control with stopRequested := true }, .stops)
  | .sweeps .accept => none
  | .sweeps event =>
    match SweepBookkeeping.step control.books event with
    | none => none
    | some (books, label) => some ({ control with books := books }, .sweeps label)

def machine : Machine Control Event Label where
  initial := {}
  step := step

abbrev system : System Control Label := machine.system

/-! ### What a step is -/

inductive Effect (control : Control) : Control → Label → Prop where
  | listens {loop port} (at' : control.loops[loop]? = some .requesting) :
      Effect control (Control.top { control with acceptor := some port } loop) (.listens port)
  | accepts {loop} (at' : control.loops[loop]? = some .accepting)
      (lives : control.books.fate = .lives) (rests : control.books.running = none) :
      Effect control (control.accept loop).1 (.accepted control.books.accepted)
  | restarts {loop pc what} (at' : control.loops[loop]? = some pc) (live : pc ≠ .ended) :
      Effect control (control.restart loop what).1 (.restarts ("error in acceptor: " ++ what))
  | ends {loop} (at' : control.loops[loop]? = some .accepting) (stop : control.stopRequested = true) :
      Effect control { control with loops := control.loops.set loop .ended } .ends
  | stops : Effect control { control with stopRequested := true } .stops
  | sweeps {event books label} (stepped : SweepBookkeeping.step control.books event = some (books, label))
      (others : event ≠ .accept) : Effect control { control with books := books } (.sweeps label)

variable {control after : Control} {label : Label} {event : Event} {trace : List Label}

theorem step_effect (stepped : step control event = some (after, label)) : Effect control after label := by
  cases event with
  | settings loop answer listening =>
    dsimp only [step] at stepped
    split at stepped
    · cases stepped
    · rename_i ready
      have at' : control.loops[loop]? = some .requesting := by
        by_contra elsewhere
        exact ready (.inr (.inr elsewhere))
      split at stepped <;> cases stepped
      · exact .restarts at' (by simp)
      · exact .restarts at' (by simp)
      · exact .listens at'
  | client loop nonBlocking =>
    dsimp only [step] at stepped
    split at stepped
    · cases stepped
    · rename_i ready
      simp only [ne_eq, not_or, not_not] at ready
      obtain ⟨lives, rests, at'⟩ := ready
      split at stepped <;> cases stepped
      · exact .restarts at' (by simp)
      · exact .accepts at' lives rests
  | fails loop ec =>
    dsimp only [step] at stepped
    split at stepped
    · cases stepped
    · rename_i ready
      have at' : control.loops[loop]? = some .accepting := by
        by_contra elsewhere
        exact ready (.inr (.inr elsewhere))
      split at stepped <;> cases stepped
      · rename_i canceled
        exact .ends at' canceled.2
      · exact .restarts at' (by simp)
  | requestStop =>
    cases stepped
    exact .stops
  | sweeps event =>
    cases event with
    | accept => cases stepped
    | _ =>
      dsimp only [step] at stepped
      split at stepped <;> cases stepped
      rename_i stepped
      exact .sweeps stepped (by simp)

/-! ### The books below -/

/-- What a step is to the connections and their sweeps. -/
def Label.shows : Label → List SweepBookkeeping.Label
  | .accepted conn => [.accepted conn]
  | .sweeps label => [label]
  | _ => []

theorem books_simulates : Simulates system SweepBookkeeping.system
    (fun control books => control.books = books) Label.shows := by
  constructor
  · rintro _ rfl
    exact ⟨_, rfl, rfl⟩
  · rintro control label after _ rfl ⟨event, stepped⟩
    cases step_effect stepped with
    | listens | restarts | ends | stops => exact ⟨_, .refl, rfl⟩
    | accepts at' lives rests =>
      have steps : SweepBookkeeping.step control.books .accept = some control.books.accept := by
        simp [SweepBookkeeping.step, lives, rests]
      exact ⟨control.books.accept.1, System.Steps.next .refl ⟨.accept, steps⟩, rfl⟩
    | sweeps swept => exact ⟨_, System.Steps.next .refl ⟨_, swept⟩, rfl⟩

/-- A sweep accepts nobody. -/
private theorem run_accepts_nobody {books after : SweepBookkeeping.Control} {k : Nat}
    {sweep : SweepBookkeeping.Sweep} {pc : SweepBookkeeping.Pc} {event : SweepBookkeeping.Event}
    {label : SweepBookkeeping.Label}
    (ran : SweepBookkeeping.run books k sweep pc event = some (after, label)) :
    after.accepted = books.accepted := by
  unfold SweepBookkeeping.run at ran
  split at ran <;> (try split at ran) <;> cases ran <;> rfl

theorem sweeps_accept_nobody {books after : SweepBookkeeping.Control} {event : SweepBookkeeping.Event}
    {label : SweepBookkeeping.Label} (others : event ≠ .accept)
    (stepped : SweepBookkeeping.step books event = some (after, label)) :
    after.accepted = books.accepted := by
  obtain ⟨_, takes⟩ := SweepBookkeeping.step_takes stepped
  generalize emitted : (after, label) = result at takes
  cases takes with
  | runs _ _ ran =>
    subst emitted
    exact run_accepts_nobody ran
  | accepts => exact absurd rfl others
  | starts | answered | returned | fails =>
    cases emitted
    rfl

/-! ### The one that is alive -/

/-- How often the catch block has been reached. -/
def restarts (trace : List Label) : Nat :=
  trace.countP fun
    | .restarts _ => true
    | _ => false

/-- What `acceptor_` listens on after all this, if it is there. -/
def listensOn (trace : List Label) : Option UInt16 :=
  trace.foldl (fun port label =>
    match label with
    | .listens port => some port
    | .restarts _ => none
    | _ => port) none

/-- The clients accepted, oldest first. -/
def clients (trace : List Label) : List Nat :=
  trace.filterMap fun
    | .accepted conn => some conn
    | _ => none

/-- What a coroutine that stands there has made of the acceptor, or been told. -/
def Control.Fits (control : Control) : Pc → Prop
  | .requesting => control.acceptor = none
  | .accepting => control.acceptor.isSome
  | .ended => control.stopRequested = true

/-- The invariant: every coroutine but the last has ended. -/
structure Alive (trace : List Label) (control : Control) : Prop where
  last : ∃ pc, control.loops = List.replicate (restarts trace) .ended ++ [pc] ∧ control.Fits pc
  acceptor : control.acceptor = listensOn trace
  stopped : control.stopRequested = true ↔ .stops ∈ trace
  started : control.started = List.range control.books.accepted

/-- Where an entry that is not the value repeated stands. -/
theorem replicate_concat_getElem? {α : Type} {count place : Nat} {value last found : α}
    (there : (List.replicate count value ++ [last])[place]? = some found) (differs : found ≠ value) :
    place = count ∧ found = last := by
  rw [List.getElem?_append] at there
  split at there
  · rw [List.getElem?_replicate] at there
    split at there <;> cases there
    exact absurd rfl differs
  · rename_i outside
    rw [List.length_replicate] at there outside
    have short := (List.getElem?_eq_some_iff.mp there).1
    rw [List.length_singleton] at short
    obtain rfl : place = count := by omega
    simpa using there.symm

theorem replicate_concat_set {α : Type} (count : Nat) (value last changed : α) :
    (List.replicate count value ++ [last]).set count changed = List.replicate count value ++ [changed] := by
  rw [List.set_append_right _ _ (by simp)]
  simp

/-- The coroutine that goes on is the last, which then stands elsewhere. -/
private theorem Alive.moves {loop : Nat} {pc : Pc} (alive : Alive trace control) (next : Pc)
    (at' : control.loops[loop]? = some pc) (live : pc ≠ .ended) :
    control.Fits pc ∧
      control.loops.set loop next = List.replicate (restarts trace) .ended ++ [next] := by
  obtain ⟨last, loops, fits⟩ := alive.last
  rw [loops] at at'
  obtain ⟨rfl, rfl⟩ := replicate_concat_getElem? at' live
  exact ⟨fits, by rw [loops, replicate_concat_set]⟩

theorem restarts_quiet (quiet : ∀ line, label ≠ .restarts line) :
    restarts (trace ++ [label]) = restarts trace := by
  cases label with
  | restarts line => exact absurd rfl (quiet line)
  | _ => simp [restarts]

theorem listensOn_snoc (trace : List Label) (label : Label) :
    listensOn (trace ++ [label]) =
      match label with
      | .listens port => some port
      | .restarts _ => none
      | _ => listensOn trace := by
  rw [listensOn, List.foldl_append]
  rfl

/-- Where the condition of the loop leads. -/
private theorem top_fits (accepting : control.acceptor.isSome) (loop : Nat) :
    (control.top loop).Fits (if control.stopRequested then .ended else .accepting) := by
  split
  · assumption
  · exact accepting

theorem alive_preserved (alive : Alive trace control) (effect : Effect control after label) :
    Alive (trace ++ [label]) after := by
  cases effect with
  | @listens loop port at' =>
    obtain ⟨_, set⟩ := alive.moves (if control.stopRequested then .ended else .accepting) at' (by simp)
    constructor
    · exact ⟨_, by rw [restarts_quiet (by simp)]; exact set, top_fits rfl loop⟩
    · rw [listensOn_snoc]
      rfl
    · simpa [Control.top] using alive.stopped
    · exact alive.started
  | @accepts loop at' lives rests =>
    obtain ⟨fits, set⟩ := alive.moves (if control.stopRequested then .ended else .accepting) at' (by simp)
    constructor
    · exact ⟨_, by rw [restarts_quiet (by simp)]; exact set, top_fits fits loop⟩
    · rw [listensOn_snoc]
      exact alive.acceptor
    · simpa [Control.accept, Control.top] using alive.stopped
    · have one : control.books.accept.1.accepted = control.books.accepted + 1 := by
        unfold SweepBookkeeping.Control.accept
        dsimp only
        split <;> rfl
      change control.started ++ [control.books.accepted] = List.range control.books.accept.1.accepted
      rw [one, alive.started, List.range_succ]
  | @restarts loop pc what at' live =>
    obtain ⟨_, set⟩ := alive.moves .ended at' live
    constructor
    · refine ⟨.requesting, ?_, rfl⟩
      simp only [Control.restart, set, AcceptLoop.restarts, List.countP_append, List.countP_singleton]
      rw [← List.replicate_succ']
      rfl
    · rw [listensOn_snoc]
      rfl
    · simpa [Control.restart] using alive.stopped
    · exact alive.started
  | @ends loop at' stop =>
    obtain ⟨_, set⟩ := alive.moves .ended at' (by simp)
    constructor
    · exact ⟨.ended, by rw [restarts_quiet (by simp)]; exact set, stop⟩
    · rw [listensOn_snoc]
      exact alive.acceptor
    · simpa using alive.stopped
    · exact alive.started
  | stops =>
    obtain ⟨pc, loops, fits⟩ := alive.last
    constructor
    · refine ⟨pc, by rw [restarts_quiet (by simp)]; exact loops, ?_⟩
      cases pc with
      | ended => rfl
      | requesting | accepting => exact fits
    · rw [listensOn_snoc]
      exact alive.acceptor
    · simp
    · exact alive.started
  | sweeps swept others =>
    obtain ⟨pc, loops, fits⟩ := alive.last
    constructor
    · refine ⟨pc, by rw [restarts_quiet (by simp)]; exact loops, ?_⟩
      cases pc <;> exact fits
    · rw [listensOn_snoc]
      exact alive.acceptor
    · simpa using alive.stopped
    · rw [sweeps_accept_nobody others swept]
      exact alive.started

theorem run_alive (run : system.Run trace control) : Alive trace control := by
  refine run.invariant ?_ ?_
  · rintro _ rfl
    exact ⟨⟨.requesting, rfl, rfl⟩, rfl, by simp [machine], rfl⟩
  · rintro _ _ _ _ _ alive ⟨_, stepped⟩
    exact alive_preserved alive (step_effect stepped)

/-- **The accept loop survives every error.** In every run all `acceptConnection` coroutines
have ended but the last, which the latest error has left in its settings request, without an
acceptor; or it waits for a client, on the port it was given last. It has ended only if a
stop has been requested. -/
theorem accept_loop_survives (run : system.Run trace control) :
    ∃ pc, control.loops = List.replicate (restarts trace) .ended ++ [pc] ∧
      (pc = .requesting → control.acceptor = none) ∧
      (pc = .accepting → ∃ port, control.acceptor = some port) ∧
      (pc = .ended → .stops ∈ trace) ∧ control.acceptor = listensOn trace := by
  have alive := run_alive run
  obtain ⟨pc, loops, fits⟩ := alive.last
  refine ⟨pc, loops, ?_, ?_, ?_, alive.acceptor⟩
  · rintro rfl
    exact fits
  · rintro rfl
    exact Option.isSome_iff_exists.mp fits
  · rintro rfl
    exact alive.stopped.mp fits

/-- A client, an error, and the same port again after the settings failed once. -/
theorem accept_loop_survives_errors : ∃ trace control, system.Run trace control ∧
    control.started = [0] ∧ ∃ pc, control.loops = List.replicate 2 .ended ++ [pc] ∧ pc ≠ .ended ∧
      control.acceptor = listensOn trace := by
  have run := Machine.replay_run (show machine.replay machine.initial
    [.settings 0 (.ok 443) (.ok ()), .client 0 (.ok ()), .fails 0 .operationCanceled,
      .settings 1 (.error "no settings") (.ok ()), .settings 2 (.ok 443) (.ok ())] =
        some (_, _) from rfl)
  obtain ⟨pc, loops, _, _, stopped, acceptor⟩ := accept_loop_survives run
  exact ⟨_, _, run, rfl, pc, loops, fun ended => absurd (stopped ended) (by decide), acceptor⟩

/-! ### Clients -/

/-- `startConnection` has been called of all that were accepted. -/
theorem run_started (run : system.Run trace control) : control.started = clients trace := by
  revert run
  apply System.Run.invariant
  · rintro _ rfl
    rfl
  · rintro trace before label after _ started ⟨_, stepped⟩
    cases step_effect stepped with
    | accepts =>
      change before.started ++ [before.books.accepted] = _
      simp [started, clients]
    | listens | restarts | ends | stops | sweeps => simpa [clients, Control.top, Control.restart] using started

/-- **Every client is served, and once.** `startConnection` is called of the connections in
the order in which they were accepted, of each once; and what becomes of them in
`connections_` is a run of the vector among its sweeps. -/
theorem clients_started_once (run : system.Run trace control) :
    control.started = clients trace ∧ control.started = List.range control.books.accepted ∧
      SweepBookkeeping.system.Run (trace.flatMap Label.shows) control.books := by
  obtain ⟨books, below, rfl⟩ := books_simulates.run run
  exact ⟨run_started run, (run_alive run).started, below⟩

theorem clients_started_once_two : ∃ trace control, system.Run trace control ∧
    control.started = [0, 1] ∧ SweepBookkeeping.system.Run (trace.flatMap Label.shows) control.books := by
  have run := Machine.replay_run (show machine.replay machine.initial
    [.settings 0 (.ok 443) (.ok ()), .client 0 (.ok ()), .sweeps .timer, .client 0 (.ok ())] =
        some (_, _) from rfl)
  exact ⟨_, _, run, rfl, (clients_started_once run).2.2⟩

/-! ### After a stop -/

/-- A client is accepted or the port is listened on. -/
def Label.opens : Label → Bool
  | .accepted _ | .listens _ => true
  | _ => false

/-- Nothing has been opened since, or it was the last and no coroutine is left. -/
def Spent (later : List Label) (control : Control) : Prop :=
  later.countP Label.opens = 0 ∨
    later.countP Label.opens = 1 ∧ ∀ pc ∈ control.loops, pc = .ended

/-- What opens something has its coroutine end, once a stop is requested. -/
private theorem top_ends {loop : Nat} {pc : Pc} (alive : Alive trace control)
    (stop : control.stopRequested = true) (at' : control.loops[loop]? = some pc) (live : pc ≠ .ended) :
    ∀ pc ∈ control.loops.set loop (if control.stopRequested then .ended else .accepting), pc = .ended := by
  obtain ⟨_, set⟩ := alive.moves .ended at' live
  intro pc member
  rw [if_pos stop, set] at member
  rcases List.mem_append.mp member with older | last
  · exact List.eq_of_mem_replicate older
  · exact List.mem_singleton.mp last

/-- While a coroutine is alive nothing has been opened. -/
private theorem Spent.unopened {later : List Label} {loop : Nat} {pc : Pc} (spent : Spent later control)
    (at' : control.loops[loop]? = some pc) (live : pc ≠ .ended) : later.countP Label.opens = 0 := by
  rcases spent with none_yet | ⟨_, finished⟩
  · exact none_yet
  · exact absurd (finished pc (List.mem_of_getElem? at')) live

private theorem spent_preserved {later : List Label} (alive : Alive trace control)
    (stop : control.stopRequested = true) (spent : Spent later control)
    (effect : Effect control after label) : Spent (later ++ [label]) after := by
  cases effect with
  | listens at' =>
    have unopened := spent.unopened at' (by simp)
    have finished := top_ends alive stop at' (by simp)
    exact .inr ⟨by simp [unopened, Label.opens], finished⟩
  | accepts at' =>
    have unopened := spent.unopened at' (by simp)
    have finished := top_ends alive stop at' (by simp)
    exact .inr ⟨by simp [unopened, Label.opens], finished⟩
  | restarts at' live => exact .inl (by simp [spent.unopened at' live, Label.opens])
  | ends at' => exact .inl (by simp [spent.unopened at' (by simp), Label.opens])
  | stops | sweeps => simpa [Spent, Label.opens] using spent

/-- **After a stop one thing more is opened at most.** Once a stop has been requested, one
more client may be accepted, or the port be listened on once more, but not both; and then
no `acceptConnection` is left. -/
theorem stop_opens_at_most_once {earlier later : List Label} (run : system.Run trace control)
    (split : trace = earlier ++ .stops :: later) :
    later.countP Label.opens ≤ 1 ∧
      (later.countP Label.opens = 1 → ∀ pc ∈ control.loops, pc = .ended) := by
  obtain ⟨before, stopped, run', step, steps⟩ := run.entry split
  have base := run'.next step
  have spent : Spent later control := by
    refine steps.invariant (.inl rfl) ?_
    rintro done mid label after earlier' spent ⟨event, stepped⟩
    have alive := run_alive (base.extend earlier')
    exact spent_preserved alive (alive.stopped.mpr (by simp)) spent (step_effect stepped)
  rcases spent with none_yet | ⟨once, finished⟩
  · omega
  · exact ⟨by omega, fun _ => finished⟩

/-- A client comes after the stop. -/
theorem stop_opens_at_most_once_late_client : ∃ trace control, system.Run trace control ∧
    control.started = [0] ∧ ∀ pc ∈ control.loops, pc = .ended := by
  have run := Machine.replay_run (show machine.replay machine.initial
    [.settings 0 (.ok 443) (.ok ()), .requestStop, .client 0 (.ok ())] = some (_, _) from rfl)
  exact ⟨_, _, run, rfl,
    (@stop_opens_at_most_once _ _ [.listens 443] [.accepted 0] run rfl).2 rfl⟩

end Vpverk.AcceptLoop
