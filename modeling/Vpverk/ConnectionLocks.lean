import Vpverk.Asioapi
import Vpverk.Flags

/-! The two lock flags of a `Connection`, and every call that sets or clears them,
cut at each atomic operation: `read_lock`, `write_lock`, `context_lock`,
`is_active`, `close`, and the destructors of the `Socket_lock` tokens. Any number
of calls may be under way, on any thread; a party is one call, with the tokens it
handed out. -/
namespace Vpverk.ConnectionLocks
open Asioapi Transition Flags

/-- `read_lock_` and `write_lock_`. -/
inductive Lock where
  | read
  | write
  deriving DecidableEq, Repr

inductive Call where
  | readLock
  | writeLock
  | contextLock
  | isActive
  | close
  deriving DecidableEq, Repr

/-- What a call returns. -/
inductive Answer where
  /-- `std::nullopt`. -/
  | nothing
  /-- A token for each of the flags. -/
  | tokens (read write : Bool)
  | active (isOpen : Bool)
  | unit
  | throws (what : String)
  deriving DecidableEq, Repr

/-- The tokens it hands out. -/
def Answer.handed : Answer → Bool × Bool
  | .tokens read write => (read, write)
  | .nothing | .active _ | .unit | .throws _ => (false, false)

/-- Where a party stands: before which of its atomic operations. -/
inductive At where
  /-- In no call, with the tokens of the last one that are still alive. -/
  | holds (read write : Bool)
  | begun (call : Call)
  /-- `context_lock` with the read flag, before its exchange of the write flag. -/
  | contextWrite
  /-- `context_lock` that was refused the write flag, before it clears the read flag. -/
  | contextBack
  /-- `is_active` with the read flag, before `reliable_is_open`. -/
  | probes
  /-- `is_active` before it clears the read flag. -/
  | probed (answer : Except ErrorCode Bool)
  /-- `close` in its loop, after it found `closed` false. -/
  | closeLocks
  /-- `close` with the write flag, before `reliable_is_open`. -/
  | closeProbes
  /-- `close` in its send, shutdown and drain. -/
  | closeSends
  /-- `close` on its way out, before the destructor of its `Socket_lock`. -/
  | closeLeaves (throws : Option String)
  /-- Before the return to the caller. -/
  | returns (call : Call) (answer : Answer)

/-- A connection's flags and its parties. -/
structure Connection (Party : Type) where
  locks : Lock → Bool := fun _ => false
  closed : Bool := false
  at' : Party → At := fun _ => .holds false false

variable {Party : Type} [DecidableEq Party]

/-- What a step shows. -/
inductive Label (Party : Type) where
  | calls (party : Party) (call : Call)
  /-- An exchange that found the flag false. -/
  | sets (party : Party) (lock : Lock)
  /-- An exchange that found the flag true. -/
  | refused (party : Party) (lock : Lock)
  | clears (party : Party) (lock : Lock)
  | returned (party : Party) (call : Call) (answer : Answer)
  | quiet

def Connection.move (con : Connection Party) (party : Party) (at' : At) : Connection Party :=
  { con with at' := Function.update con.at' party at' }

/-- `exchange(true)` on a flag. -/
def Connection.exchange (con : Connection Party) (party : Party) (lock : Lock) (got refused : At) :
    Connection Party × Label Party :=
  if con.locks lock then (con.move party refused, .refused party lock)
  else ({ con with locks := Function.update con.locks lock true }.move party got, .sets party lock)

/-- `store(false)` on a flag. -/
def Connection.store (con : Connection Party) (party : Party) (lock : Lock) (next : At) :
    Connection Party × Label Party :=
  ({ con with locks := Function.update con.locks lock false }.move party next, .clears party lock)

/-- `is_active` after it has cleared the flag. -/
def isActiveAnswer : Except ErrorCode Bool → Answer
  | .ok isOpen => .active isOpen
  | .error code => .throws ("reliable is open unexpected error code: " ++ code.message)

/-- `close` after the destructor of its `Socket_lock`. -/
def closeAnswer : Option String → Answer
  | none => .unit
  | some what => .throws what

/-- What happens next. -/
inductive Event (Party : Type) where
  | call (party : Party) (call : Call)
  /-- The party takes its next atomic operation. -/
  | runs (party : Party)
  /-- What `reliable_is_open` answers. -/
  | probe (party : Party) (answer : Except ErrorCode Bool)
  /-- What is behind the send of `close` comes to its end, or throws. -/
  | shuts (party : Party) (throws : Option String)
  /-- A token is destroyed. -/
  | destroy (party : Party) (lock : Lock)

/-- The next atomic operation of a party, where it does not depend on the socket. -/
def run (con : Connection Party) (party : Party) :
    At → Option (Connection Party × Label Party)
  | .begun .readLock => some (con.exchange party .read
      (.returns .readLock (.tokens true false)) (.returns .readLock .nothing))
  | .begun .writeLock => some (con.exchange party .write
      (.returns .writeLock (.tokens false true)) (.returns .writeLock .nothing))
  | .begun .contextLock => some (con.exchange party .read
      .contextWrite (.returns .contextLock .nothing))
  | .contextWrite => some (con.exchange party .write
      (.returns .contextLock (.tokens true true)) .contextBack)
  | .contextBack => some (con.store party .read (.returns .contextLock .nothing))
  | .begun .isActive => some (con.exchange party .read .probes (.returns .isActive .nothing))
  | .probed answer => some (con.store party .read (.returns .isActive (isActiveAnswer answer)))
  | .begun .close =>
    some ({ con with closed := true }.move party
      (if con.closed then .returns .close .unit else .closeLocks), .quiet)
  | .closeLocks => some (con.exchange party .write .closeProbes .closeLocks)
  | .closeLeaves throws => some (con.store party .write (.returns .close (closeAnswer throws)))
  | .returns call answer =>
    let (read, write) := answer.handed
    some (con.move party (.holds read write), .returned party call answer)
  | .holds _ _ | .probes | .closeProbes | .closeSends => none

def step (con : Connection Party) : Event Party → Option (Connection Party × Label Party)
  | .call party call =>
    match con.at' party with
    | .holds false false => some (con.move party (.begun call), .calls party call)
    | _ => none
  | .runs party => run con party (con.at' party)
  | .probe party answer =>
    match con.at' party, answer with
    | .probes, answer => some (con.move party (.probed answer), .quiet)
    | .closeProbes, .ok true => some (con.move party .closeSends, .quiet)
    | .closeProbes, .ok false | .closeProbes, .error _ =>
      some (con.move party (.closeLeaves none), .quiet)
    | _, _ => none
  | .shuts party throws =>
    match con.at' party with
    | .closeSends => some (con.move party (.closeLeaves throws), .quiet)
    | _ => none
  | .destroy party lock =>
    match con.at' party, lock with
    | .holds true write, .read => some (con.store party .read (.holds false write))
    | .holds read true, .write => some (con.store party .write (.holds read false))
    | _, _ => none

def machine (Party : Type) [DecidableEq Party] :
    Machine (Connection Party) (Event Party) (Label Party) where
  initial := {}
  step := step

abbrev system (Party : Type) [DecidableEq Party] : System (Connection Party) (Label Party) :=
  (machine Party).system

/-! ### Who has which flag -/

/-- The flags a party has set where it stands. -/
def At.owns : At → Lock → Bool
  | .contextWrite, .read | .contextBack, .read | .probes, .read | .probed _, .read => true
  | .closeProbes, .write | .closeSends, .write | .closeLeaves _, .write => true
  | .returns _ answer, .read => answer.handed.1
  | .returns _ answer, .write => answer.handed.2
  | .holds read _, .read => read
  | .holds _ write, .write => write
  | _, _ => false

def Connection.standing (con : Connection Party) : Standing Party Lock where
  up := con.locks
  owns party lock := (con.at' party).owns lock = true

def Label.touch : Label Party → Touch Party Lock
  | .sets party lock => .sets party lock
  | .clears party lock => .clears party lock
  | .calls _ _ | .refused _ _ | .returned _ _ _ | .quiet => .nothing

variable {con after : Connection Party} {party : Party} {lock : Lock} {got refused next : At}
  {label : Label Party}

private theorem move_changes (con : Connection Party)
    (same : ∀ lock, next.owns lock = (con.at' party).owns lock) :
    con.standing.Changes (con.move party next).standing .nothing := by
  refine ⟨fun _ => rfl, fun who lock => ?_⟩
  by_cases self : who = party
  · subst self
    simp [Connection.standing, Connection.move, same]
  · simp [Connection.standing, Connection.move, self]

private theorem exchange_changes
    (gets : ∀ other, got.owns other = true ↔ other = lock ∨ (con.at' party).owns other = true)
    (same : ∀ other, refused.owns other = (con.at' party).owns other) :
    con.standing.Changes (con.exchange party lock got refused).1.standing
      (con.exchange party lock got refused).2.touch := by
  unfold Connection.exchange
  split
  · exact move_changes con same
  · rename_i down
    refine ⟨Bool.not_eq_true _ ▸ down, fun other => ?_, fun who other => ?_⟩
    · by_cases here : other = lock <;> simp [Connection.standing, Connection.move, here]
    · by_cases self : who = party
      · subst self
        simp [Connection.standing, Connection.move, gets]
      · simp [Connection.standing, Connection.move, self]

private theorem store_changes (held : (con.at' party).owns lock = true)
    (keeps : ∀ other, next.owns other = true ↔ other ≠ lock ∧ (con.at' party).owns other = true) :
    con.standing.Changes (con.store party lock next).1.standing
      (con.store party lock next).2.touch := by
  refine ⟨held, fun other => ?_, fun who other => ?_⟩
  · by_cases here : other = lock <;>
      simp [Connection.store, Connection.standing, Connection.move, here]
  · by_cases self : who = party
    · subst self
      simp [Connection.store, Connection.standing, Connection.move, keeps]
    · simp [Connection.store, Connection.standing, Connection.move, self]

variable {result : Connection Party × Label Party}

theorem isActiveAnswer_handed (answer : Except ErrorCode Bool) :
    (isActiveAnswer answer).handed = (false, false) := by
  cases answer <;> rfl

theorem closeAnswer_handed (throws : Option String) : (closeAnswer throws).handed = (false, false) := by
  cases throws <;> rfl

private theorem run_changes {here : At} (stands : con.at' party = here)
    (ran : run con party here = some result) :
    con.standing.Changes result.1.standing result.2.touch := by
  cases here with
  | holds | probes | closeProbes | closeSends => cases ran
  | begun call =>
    cases call with
    | close =>
      cases ran
      apply move_changes { con with closed := true }
      intro lock
      split <;> cases lock <;> simp [stands, At.owns, Answer.handed]
    | readLock | writeLock | contextLock | isActive =>
      cases ran
      exact exchange_changes (by rintro ⟨⟩ <;> simp [stands, At.owns, Answer.handed])
        (by rintro ⟨⟩ <;> simp [stands, At.owns, Answer.handed])
  | contextWrite | closeLocks =>
    cases ran
    exact exchange_changes (by rintro ⟨⟩ <;> simp [stands, At.owns, Answer.handed])
      (by rintro ⟨⟩ <;> simp [stands, At.owns])
  | contextBack =>
    cases ran
    exact store_changes (by simp [stands, At.owns])
      (by rintro ⟨⟩ <;> simp [stands, At.owns, Answer.handed])
  | closeLeaves throws =>
    cases ran
    exact store_changes (by simp [stands, At.owns])
      (by rintro ⟨⟩ <;> simp [stands, At.owns, closeAnswer_handed])
  | probed answer =>
    cases ran
    exact store_changes (by simp [stands, At.owns])
      (by rintro ⟨⟩ <;> simp [stands, At.owns, isActiveAnswer_handed])
  | returns call answer =>
    cases ran
    exact move_changes con (by cases answer <;> rintro ⟨⟩ <;> simp [stands, At.owns, Answer.handed])

theorem step_changes {event : Event Party} (stepped : step con event = some result) :
    con.standing.Changes result.1.standing result.2.touch := by
  cases event with
  | runs party => exact run_changes rfl stepped
  | call party call | probe party answer | shuts party throws =>
    simp only [step] at stepped
    split at stepped <;> cases stepped
    all_goals
      rename_i stands
      exact move_changes con (by rintro ⟨⟩ <;> simp [stands, At.owns])
  | destroy party lock =>
    simp only [step] at stepped
    split at stepped <;> cases stepped
    all_goals
      rename_i stands
      exact store_changes (by simp [stands, At.owns]) (by rintro ⟨⟩ <;> simp [stands, At.owns])

theorem disciplined (Party : Type) [DecidableEq Party] :
    Disciplined (system Party) Connection.standing Label.touch where
  initial start := by
    rintro rfl
    exact ⟨fun _ => rfl, fun _ lock => by cases lock <;> simp [Connection.standing, machine, At.owns]⟩
  step before label after _ step := by
    obtain ⟨event, stepped⟩ := step
    exact step_changes stepped

variable {trace earlier later : List (Label Party)} {state : Connection Party}

private theorem exchange_quiet {call : Call} {answer : Answer} {who : Party} :
    (con.exchange who lock got refused).2 ≠ .returned party call answer := by
  unfold Connection.exchange
  split <;> simp

/-- Only a call that has come to its end returns. -/
private theorem step_returned {event : Event Party} {call : Call} {answer : Answer}
    (stepped : step con event = some result) (shows : result.2 = .returned party call answer) :
    con.at' party = .returns call answer := by
  cases event with
  | runs who =>
    simp only [step] at stepped
    cases here : con.at' who with
    | holds | probes | closeProbes | closeSends => simp [here, run] at stepped
    | returns call' answer' =>
      rw [here] at stepped
      cases stepped
      cases shows
      exact here
    | contextBack | closeLeaves | probed =>
      rw [here] at stepped
      cases stepped
      cases shows
    | contextWrite | closeLocks =>
      rw [here] at stepped
      cases stepped
      exact absurd shows exchange_quiet
    | begun call' =>
      rw [here] at stepped
      cases call' <;> cases stepped <;> first | exact absurd shows exchange_quiet | cases shows
  | call who call | probe who answer | shuts who throws | destroy who lock =>
    simp only [step] at stepped
    split at stepped <;> cases stepped <;> cases shows

/-- `context_lock` returns both tokens or none. -/
def Whole (here : At) : Prop :=
  ∀ answer, here = .returns .contextLock answer → answer = .nothing ∨ answer = .tokens true true

private theorem exchange_whole (gotWhole : Whole got) (refusedWhole : Whole refused) :
    ∃ next, Whole next ∧
      (con.exchange party lock got refused).1.at' = Function.update con.at' party next := by
  unfold Connection.exchange
  split
  · exact ⟨refused, refusedWhole, rfl⟩
  · exact ⟨got, gotWhole, rfl⟩

private theorem run_whole {here : At} (ran : run con party here = some result) :
    ∃ next, Whole next ∧ result.1.at' = Function.update con.at' party next := by
  cases here with
  | holds | probes | closeProbes | closeSends => cases ran
  | begun call =>
    cases call with
    | close =>
      cases ran
      exact ⟨_, by unfold Whole; split <;> simp, rfl⟩
    | readLock | writeLock | contextLock | isActive =>
      cases ran
      exact exchange_whole (by simp [Whole]) (by simp [Whole])
  | contextWrite | closeLocks =>
    cases ran
    exact exchange_whole (by simp [Whole]) (by simp [Whole])
  | contextBack | closeLeaves | probed | returns =>
    cases ran
    exact ⟨_, by simp [Whole], rfl⟩

private theorem step_whole {event : Event Party} (stepped : step con event = some result) :
    ∃ who next, Whole next ∧ result.1.at' = Function.update con.at' who next := by
  cases event with
  | runs who => exact ⟨who, run_whole stepped⟩
  | call who call | probe who answer | shuts who throws | destroy who lock =>
    simp only [step] at stepped
    split at stepped <;> cases stepped <;> exact ⟨who, _, by simp [Whole], rfl⟩

variable {trace earlier later : List (Label Party)} {state : Connection Party}

private theorem run_all_whole (run : (system Party).Run trace state) :
    ∀ party, Whole (state.at' party) := by
  obtain ⟨start, rfl, steps⟩ := run
  induction steps with
  | refl => exact fun _ _ => by simp [machine]
  | next _ step ih =>
    obtain ⟨event, stepped⟩ := step
    obtain ⟨who, next, whole, same⟩ := step_whole stepped
    intro party
    rw [same]
    by_cases self : party = who
    · subst self
      simpa using whole
    · simpa [self] using ih party

/-- What a call holds when it returns is what it hands out. -/
theorem returned_holds (run : (system Party).Run trace state) {call : Call} {answer : Answer}
    (split : trace = earlier ++ .returned party call answer :: later) :
    (Holds (earlier.map Label.touch) party .read ↔ answer.handed.1 = true) ∧
      (Holds (earlier.map Label.touch) party .write ↔ answer.handed.2 = true) := by
  obtain ⟨before, after, run', ⟨event, stepped⟩, _⟩ := run.entry split
  have returns := step_returned stepped rfl
  simp only [← ((disciplined Party).run run').2, Connection.standing, returns, At.owns, and_self]

/-- `context_lock` returns with both flags held, or with neither. -/
theorem context_lock_returned (run : (system Party).Run trace state) {answer : Answer}
    (split : trace = earlier ++ .returned party .contextLock answer :: later) :
    (answer = .tokens true true ∧ ∀ lock, Holds (earlier.map Label.touch) party lock) ∨
      (answer = .nothing ∧ ∀ lock, ¬ Holds (earlier.map Label.touch) party lock) := by
  obtain ⟨before, after, run', ⟨event, stepped⟩, _⟩ := run.entry split
  obtain ⟨read, write⟩ := returned_holds run split
  rcases run_all_whole run' party answer (step_returned stepped rfl) with rfl | rfl
  · refine .inr ⟨rfl, fun lock => ?_⟩
    cases lock <;> simp [read, write, Answer.handed]
  · refine .inl ⟨rfl, fun lock => ?_⟩
    cases lock <;> simp [read, write, Answer.handed]

/-- **The lock flags of a connection.** However the atomic operations of the calls
and of the destructors of their tokens follow one another: a flag is true exactly
while one party has set it and not cleared it, and never two have; a
`context_lock` ends with both flags, or with neither and returns nothing; and
whoever clears a flag has set it and not cleared it since. -/
theorem lock_flags (run : (system Party).Run trace state) :
    (∀ lock, (state.locks lock = true ↔ ∃ party, Holds (trace.map Label.touch) party lock) ∧
      ∀ party other, Holds (trace.map Label.touch) party lock →
        Holds (trace.map Label.touch) other lock → party = other) ∧
    (∀ earlier party answer later, trace = earlier ++ .returned party .contextLock answer :: later →
      (answer = .tokens true true ∧ ∀ lock, Holds (earlier.map Label.touch) party lock) ∨
        (answer = .nothing ∧ ∀ lock, ¬ Holds (earlier.map Label.touch) party lock)) ∧
    (∀ earlier party lock later, trace = earlier ++ .clears party lock :: later →
      Holds (earlier.map Label.touch) party lock) := by
  refine ⟨fun lock => ⟨(disciplined Party).up_iff run lock, fun party other => ?_⟩, ?_, ?_⟩
  · exact (disciplined Party).one run
  · exact fun earlier party answer later split => context_lock_returned run split
  · exact fun earlier party lock later split => (disciplined Party).clears run split rfl

/-- A `write_lock`, and a `context_lock` that is refused and backs out. -/
def backedOut : List (Event Bool) :=
  [.call false .writeLock, .runs false, .call true .contextLock, .runs true, .runs false, .runs true,
    .runs true, .runs true, .destroy false .write]

theorem lock_flags_backed_out :
    (∀ lock, ¬ Holds [.nothing, .sets false Lock.write, .nothing, .sets true Lock.read, .nothing,
      .nothing, .clears true Lock.read] true lock) ∧
    Holds [.nothing, .sets false Lock.write, .nothing, .sets true Lock.read, .nothing, .nothing,
      .clears true Lock.read, .nothing] false Lock.write := by
  have replayed : (machine Bool).replay (machine Bool).initial backedOut = some (_, _) := rfl
  obtain ⟨_, returned, own⟩ := lock_flags (Machine.replay_run replayed)
  refine ⟨?_, own (_ :: _ :: _ :: _ :: _ :: _ :: _ :: _ :: []) false .write _ rfl⟩
  rcases returned (_ :: _ :: _ :: _ :: _ :: _ :: _ :: []) true _ _ rfl with ⟨same, _⟩ | ⟨_, neither⟩
  · cases same
  · exact neither

end Vpverk.ConnectionLocks
