import Vpverk.CondVar
import Vpverk.Dispatch
import Vpverk.FlatMapRuns

/-! `Logger` with its worker thread, any threads that push, and one that calls `exit`.
What a thread does under the mutex is cut into its steps as well; the request to stop
and its notification do not take the mutex. The worker may wake without a notification.
What is printed to the standard streams is left out; the assertions are on. -/
namespace Vpverk.Logger
open Coroutine CondVar Dispatch FlatMap Transition

/-- `cvk::log::to`. `shared` is the one or the other of the first two, as the build says. -/
inductive To where
  | server
  | client
  | session
  deriving DecidableEq, Repr

def To.toInt : To → Nat
  | .server => 0
  | .client => 1
  | .session => 2

theorem To.toInt_injective : Function.Injective To.toInt := by
  intro one other same
  cases one <;> cases other <;> first | rfl | cases same

instance : LinearOrder To := LinearOrder.lift' To.toInt To.toInt_injective

/-- An entry of `queue`. -/
abbrev Message := To × String

/-- The name of a log file, behind the directory and the time it begins with. -/
def file (stem : String) : To → String
  | .session => stem ++ "_session.log"
  | .server => stem ++ "_server.log"
  | .client => stem ++ "_client.log"

/-- The streams that `init` opens, each told by its file. -/
def init (stem : String) : Coroutine (FlatMap To String) Unit := do
  FlatMap.insertMoved .session (stem ++ "_session.log")
  FlatMap.insertMoved .server (stem ++ "_server.log")
  FlatMap.insertMoved .client (stem ++ "_client.log")

def streams (stem : String) : FlatMap To String := ((init stem).run {}).2

/-- What `remainsOnExit` writes for a message. -/
def exitLine (message : Message) : String :=
  "\x1b[37mlog::to id ( " ++ toString message.1.toInt ++ ")" ++ message.2

/-! ### The threads -/

/-- Where `work` stands. -/
inductive Worker where
  /-- Not started by `init` yet. -/
  | unstarted
  /-- At the test of the outer loop. -/
  | tests
  /-- Wants the mutex, at first or after it has woken. -/
  | locks
  /-- Has the mutex and is about to evaluate the predicate of `wait`. -/
  | evaluates
  /-- Has found the predicate false, and has the mutex still. -/
  | sleeps
  | asleep (notified : Bool)
  /-- At the test of the inner loop, under the mutex. -/
  | drains
  /-- Has written the first message, under the mutex. -/
  | pops
  | ended
  deriving DecidableEq, Repr

/-- The worker has the mutex. -/
def Worker.locked : Worker → Bool
  | .evaluates | .sleeps | .drains | .pops => true
  | .unstarted | .tests | .locks | .asleep _ | .ended => false

/-- Where the `push` stands that has the mutex. -/
inductive Push where
  | puts (message : Message)
  | notifies
  | unlocks
  deriving DecidableEq, Repr

/-- Where `exit` stands; the first two of its steps and the wait are those of `stop`. -/
inductive Exit where
  | uncalled
  | notifies
  | joins
  /-- The worker is joined. -/
  | checks
  | remains
  | returned
  /-- There was no worker to join. -/
  | threw
  deriving DecidableEq, Repr

structure LogState where
  queue : List Message := []
  worker : Worker := .unstarted
  push : Option Push := none
  exit : Exit := .uncalled
  stopRequested : Bool := false
  files : String → List String := fun _ => []
  exitStream : List String := []
  aborted : Bool := false

inductive LogEvent where
  /-- `init` starts the worker. -/
  | start
  /-- A call of `push` takes the mutex. -/
  | push (message : Message)
  /-- The call of `push` that has the mutex goes on. -/
  | pushed
  /-- The worker goes on; what it writes leaves the stream good, or does not. -/
  | work (good : Bool)
  /-- The worker wakes without a notification. -/
  | wake
  /-- `exit` is called, or goes on. -/
  | exit
  deriving DecidableEq, Repr

/-- What a step shows. -/
inductive Label where
  /-- A call of `push` has come to the mutex. -/
  | called (message : Message)
  | pushed (message : Message)
  /-- `stop` notifies. -/
  | notified
  | silent
  deriving DecidableEq, Repr

/-- `cond_var.notify_one()`: nobody else waits on it. -/
def Worker.notify : Worker → Worker
  | .asleep _ => .asleep true
  | worker => worker

def LogState.notify (state : LogState) : LogState :=
  { state with worker := state.worker.notify }

def pushed (state : LogState) : Option (LogState × Label) :=
  match state.push with
  | none => none
  | some (.puts message) =>
    some ({ state with queue := state.queue ++ [message], push := some .notifies }, .pushed message)
  | some .notifies => some ({ state.notify with push := some .unlocks }, .silent)
  | some .unlocks => some ({ state with push := none }, .silent)

/-- Where the loops of `work` lead. -/
def workLoops (stem : String) (state : LogState) (good : Bool) : Option LogState :=
  match state.worker with
  | .unstarted | .ended | .asleep false => none
  | .tests => some { state with worker := if state.stopRequested then .ended else .locks }
  | .locks => if state.push.isNone then some { state with worker := .evaluates } else none
  | .evaluates =>
    some { state with worker := if ¬ state.queue.isEmpty ∨ state.stopRequested then .drains else .sleeps }
  | .sleeps => some { state with worker := .asleep false }
  | .asleep true => some { state with worker := .locks }
  | .drains =>
    match state.queue with
    | [] => some { state with worker := .tests }
    | (target, text) :: _ =>
      match ((atTryFirst true 1 target).run (streams stem)).1 with
      | .ok stream =>
        if good then
          some { state with
            files := Function.update state.files stream (state.files stream ++ [text]), worker := .pops }
        else some { state with aborted := true }
      | .error _ => some { state with aborted := true }
  | .pops => some { state with queue := state.queue.tail, worker := .drains }

/-- `Logger::exit`, with `log_impl::stop` in it. -/
def exit (state : LogState) : Option LogState :=
  match state.exit with
  | .uncalled =>
    some { state with stopRequested := state.worker ≠ .unstarted, exit := .notifies }
  | .notifies => some { state.notify with exit := .joins }
  | .joins =>
    match state.worker with
    | .unstarted => some { state with exit := .threw }
    | .ended => some { state with exit := .checks }
    | _ => none
  | .checks =>
    some { state with exit := if state.queue.isEmpty then .returned else .remains }
  | .remains =>
    match state.queue with
    | [] => some { state with exit := .returned }
    | message :: rest =>
      some { state with queue := rest, exitStream := state.exitStream ++ [exitLine message] }
  | .returned | .threw => none

def live (stem : String) (state : LogState) : LogEvent → Option (LogState × Label)
  | .start =>
    if state.worker = .unstarted ∧ state.exit = .uncalled then
      some ({ state with worker := .tests }, .silent)
    else none
  | .push message =>
    if state.push.isNone ∧ ¬ state.worker.locked then
      some ({ state with push := some (.puts message) }, .called message)
    else none
  | .pushed => pushed state
  | .work good => (workLoops stem state good).map fun after => (after, .silent)
  | .wake =>
    if state.worker = .asleep false then some ({ state with worker := .locks }, .silent) else none
  | .exit => (exit state).map fun after =>
    (after, if state.exit = .notifies then .notified else .silent)

def step (stem : String) (state : LogState) (event : LogEvent) : Option (LogState × Label) :=
  if state.aborted then none else live stem state event

def machine (stem : String) : Machine LogState LogEvent Label where
  initial := {}
  step := step stem

abbrev system (stem : String) : System LogState Label := (machine stem).system

/-! ### What the steps do -/

/-- What the worker can do. -/
inductive Works (stem : String) (state : LogState) : LogState → Prop where
  | ends : state.worker = .tests → state.stopRequested = true →
      Works stem state { state with worker := .ended }
  | wants : state.worker = .tests → Works stem state { state with worker := .locks }
  | locks : state.worker = .locks → state.push = none →
      Works stem state { state with worker := .evaluates }
  | finds : state.worker = .evaluates → Works stem state { state with worker := .drains }
  | decides : state.worker = .evaluates → state.stopRequested = false →
      Works stem state { state with worker := .sleeps }
  | sleeps : state.worker = .sleeps → Works stem state { state with worker := .asleep false }
  | wakes : state.worker = .asleep true → Works stem state { state with worker := .locks }
  | leaves : state.worker = .drains → state.queue = [] →
      Works stem state { state with worker := .tests }
  | writes {target text rest stream} : state.worker = .drains → state.queue = (target, text) :: rest →
      ((atTryFirst true 1 target).run (streams stem)).1 = .ok stream →
      Works stem state { state with
        files := Function.update state.files stream (state.files stream ++ [text]), worker := .pops }
  | aborts : state.worker = .drains → Works stem state { state with aborted := true }
  | pops : state.worker = .pops →
      Works stem state { state with queue := state.queue.tail, worker := .drains }

theorem workLoops_works {stem : String} {state after : LogState} {good : Bool}
    (went : workLoops stem state good = some after) : Works stem state after := by
  unfold workLoops at went
  split at went
  · cases went
  · cases went
  · cases went
  · rename_i tests
    cases went
    split
    · rename_i requested
      exact .ends tests requested
    · exact .wants tests
  · rename_i locks
    split at went <;> cases went
    rename_i free
    exact .locks locks (Option.isNone_iff_eq_none.mp free)
  · rename_i evaluates
    cases went
    split
    · exact .finds evaluates
    · rename_i unsatisfied
      exact .decides evaluates (Bool.eq_false_of_not_eq_true fun requested => unsatisfied (.inr requested))
  · rename_i sleeps
    cases went
    exact .sleeps sleeps
  · rename_i asleep
    cases went
    exact .wakes asleep
  · rename_i drains
    split at went
    · rename_i queue
      cases went
      exact .leaves drains queue
    · rename_i queue
      split at went
      · rename_i found
        split at went <;> cases went
        · exact .writes drains queue found
        · exact .aborts drains
      · cases went
        exact .aborts drains
  · rename_i pops
    cases went
    exact .pops pops

/-- The worker changes neither the request nor a `push`, nor where `exit` stands, and does
not start itself. -/
theorem works_frame {stem : String} {state after : LogState} (works : Works stem state after) :
    state.worker ≠ .unstarted ∧ after.exit = state.exit ∧ after.stopRequested = state.stopRequested ∧
      after.push = state.push := by
  cases works <;> exact ⟨by simp [*], rfl, rfl, rfl⟩

/-- `exit` leaves the pushes to their threads. -/
theorem exit_push {state after : LogState} (went : exit state = some after) :
    after.push = state.push := by
  unfold exit at went
  split at went
  · cases went
    rfl
  · cases went
    rfl
  · split at went <;> cases went <;> rfl
  · cases went
    rfl
  · split at went <;> cases went <;> rfl
  · cases went
  · cases went

/-- What a step can do. -/
inductive Goes (stem : String) (state : LogState) : Label → LogState → Prop where
  | starts : state.worker = .unstarted → state.exit = .uncalled →
      Goes stem state .silent { state with worker := .tests }
  | locks {message} : state.push = none → state.worker.locked = false →
      Goes stem state (.called message) { state with push := some (.puts message) }
  | puts {message} : state.push = some (.puts message) →
      Goes stem state (.pushed message)
        { state with queue := state.queue ++ [message], push := some .notifies }
  | notifies : state.push = some .notifies →
      Goes stem state .silent { state.notify with push := some .unlocks }
  | unlocks : state.push = some .unlocks → Goes stem state .silent { state with push := none }
  | works {after} : Works stem state after → Goes stem state .silent after
  | wakes : state.worker = .asleep false → Goes stem state .silent { state with worker := .locks }
  | exits {after} : exit state = some after →
      Goes stem state (if state.exit = .notifies then .notified else .silent) after

theorem step_goes {stem : String} {state after : LogState} {label : Label}
    (stepped : (system stem).step state label after) : Goes stem state label after := by
  obtain ⟨event, stepped⟩ := stepped
  simp only [machine, step] at stepped
  split at stepped
  · cases stepped
  cases event with
  | start =>
    simp only [live] at stepped
    split at stepped <;> cases stepped
    rename_i unstarted
    exact .starts unstarted.1 unstarted.2
  | push message =>
    simp only [live] at stepped
    split at stepped <;> cases stepped
    rename_i free
    exact .locks (Option.isNone_iff_eq_none.mp free.1) (Bool.eq_false_of_not_eq_true free.2)
  | pushed =>
    simp only [live, pushed] at stepped
    split at stepped <;> cases stepped
    · rename_i putting
      exact .puts putting
    · rename_i notifying
      exact .notifies notifying
    · rename_i unlocking
      exact .unlocks unlocking
  | work good =>
    obtain ⟨_, went, same⟩ := Option.map_eq_some_iff.mp stepped
    cases same
    exact .works (workLoops_works went)
  | wake =>
    simp only [live] at stepped
    split at stepped <;> cases stepped
    rename_i asleep
    exact .wakes asleep
  | exit =>
    obtain ⟨_, went, same⟩ := Option.map_eq_some_iff.mp stepped
    cases same
    exact .exits went

end Vpverk.Logger
