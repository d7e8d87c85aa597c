import Vpverk.Asioapi
import Vpverk.Flags

/-! `Tun::read`, `Tun::write` and `Tun::lock`, cut at each step that another
coroutine, a completion or the timer may come between. Any number of calls may be
under way, each a party. The callback of the read timer may come at any time:
here nothing is assumed about when the timer runs. -/
namespace Vpverk.TunLocks
open Octets Asioapi Transition Flags

/-- `lock_` and `it_is_read_lock`. -/
inductive Flag where
  | lock
  | itIsReadLock
  deriving DecidableEq, Repr

inductive Kind where
  | read
  | write (ipPacket : Bytes)
  deriving DecidableEq, Repr

/-- How a call ends. -/
inductive Outcome where
  /-- `Tun::read`: as many bytes, 0 when it was cancelled. -/
  | read (bytesRead : Nat)
  | unit
  | throws (what : String)
  deriving DecidableEq, Repr

/-- What an asynchronous operation hands to its handler. -/
structure Completion where
  code : Option ErrorCode
  transferred : Nat
  deriving DecidableEq, Repr

/-- What `tun.cancel()` completes an operation with. -/
def canceled : Completion := ⟨some .operationCanceled, 0⟩

/-- Where a party stands. -/
inductive At where
  /-- In no call. -/
  | idle
  /-- A read in its `resched`, a write before it looks at `it_is_read_lock`. -/
  | called (kind : Kind)
  /-- A write that waits for its turn on the strand. -/
  | posted (ipPacket : Bytes)
  /-- In the loop of `lock`. -/
  | locking (kind : Kind)
  /-- The token is on its way through the future: a moved-from token has no flag. -/
  | locked (kind : Kind)
  /-- A read with both tokens, before `async_read_some`. -/
  | starting
  | waits (kind : Kind)
  /-- The operation is over and its handler has not run. -/
  | completed (kind : Kind) (completion : Completion)
  /-- Rescheduled by the handler. -/
  | resumed (kind : Kind) (outcome : Outcome)
  /-- A read after the destructor of `lock_2`. -/
  | leaving (outcome : Outcome)
  /-- After the destructor of `lock_`. -/
  | returns (outcome : Outcome)
  deriving DecidableEq, Repr

/-- The device and the calls. `operations` is what the descriptor has in flight. -/
structure Tun (Party : Type) where
  flags : Flag → Bool := fun _ => false
  operations : List Party := []
  aborted : Bool := false
  at' : Party → At := fun _ => .idle

inductive Label (Party : Type) where
  | calls (party : Party) (kind : Kind)
  | sets (party : Party) (flag : Flag)
  /-- An exchange that found `lock_` true. -/
  | refused (party : Party)
  | clears (party : Party) (flag : Flag)
  /-- An asynchronous operation is started. -/
  | starts (party : Party)
  /-- `tun.cancel()`, by a write or by the timer, with the operations it ends. -/
  | cancels (caller : Option Party) (struck : List Party)
  /-- A handler kills the process. -/
  | aborts (party : Party) (completion : Completion)
  | returned (party : Party) (outcome : Outcome)
  | quiet
  deriving DecidableEq, Repr

variable {Party : Type} [DecidableEq Party]

def Tun.move (tun : Tun Party) (party : Party) (here : At) : Tun Party :=
  { tun with at' := Function.update tun.at' party here }

def Tun.setFlag (tun : Tun Party) (flag : Flag) (value : Bool) : Tun Party :=
  { tun with flags := Function.update tun.flags flag value }

/-- `lock_.exchange(true)` in the loop of `lock`. -/
def Tun.exchange (tun : Tun Party) (party : Party) (kind : Kind) : Tun Party × Label Party :=
  if tun.flags .lock then (tun.move party (.locking kind), .refused party)
  else ((tun.setFlag .lock true).move party (.locked kind), .sets party .lock)

/-- `it_is_read_lock.store(true)`. -/
def Tun.markRead (tun : Tun Party) (party : Party) : Tun Party × Label Party :=
  ((tun.setFlag .itIsReadLock true).move party .starting, .sets party .itIsReadLock)

/-- `async_read_some` or `async_write`. -/
def Tun.start (tun : Tun Party) (party : Party) (kind : Kind) : Tun Party × Label Party :=
  ({ tun with operations := tun.operations ++ [party] }.move party (.waits kind), .starts party)

/-- What `tun.cancel()` does to an operation in flight. -/
def At.canceled : At → At
  | .waits kind => .completed kind TunLocks.canceled
  | here => here

/-- `tun.cancel()`. -/
def Tun.cancel (tun : Tun Party) (caller : Option Party) : Tun Party × Label Party :=
  ({ tun with
      operations := []
      at' := fun party => if party ∈ tun.operations then (tun.at' party).canceled else tun.at' party },
    .cancels caller tun.operations)

/-- The handler that `read` gives to `async_read_some`; `none` is a `cuabort`. -/
def readHandler (completion : Completion) : Option Outcome :=
  if completion.code = some .operationCanceled then
    if completion.transferred ≠ 0 then none else some (.read 0)
  else if completion.transferred < 65535 then
    match completion.code with
    | some code => some (.throws code.message)
    | none => some (.read completion.transferred)
  else none

/-- The handler that `write` gives to `async_write`. -/
def writeHandler (ipPacket : Bytes) (completion : Completion) : Option Outcome :=
  if ipPacket.length ≠ completion.transferred then none
  else
    match completion.code with
    | some code => some (.throws code.message)
    | none => some .unit

def handler : Kind → Completion → Option Outcome
  | .read => readHandler
  | .write ipPacket => writeHandler ipPacket

def Tun.handle (tun : Tun Party) (party : Party) (kind : Kind) (completion : Completion) :
    Tun Party × Label Party :=
  match handler kind completion with
  | none => ({ tun with aborted := true }, .aborts party completion)
  | some outcome => (tun.move party (.resumed kind outcome), .quiet)

/-- A destructor of a token. -/
def Tun.clear (tun : Tun Party) (party : Party) (flag : Flag) (next : At) : Tun Party × Label Party :=
  ((tun.setFlag flag false).move party next, .clears party flag)

/-- An operation is over by itself. -/
def Tun.complete (tun : Tun Party) (party : Party) (kind : Kind) (completion : Completion) :
    Tun Party × Label Party :=
  ({ tun with operations := tun.operations.erase party }.move party (.completed kind completion), .quiet)

/-- What happens next. -/
inductive Event (Party : Type) where
  | call (party : Party) (kind : Kind)
  | runs (party : Party)
  /-- The operation of a party is over by itself. -/
  | completes (party : Party) (completion : Completion)
  | handles (party : Party)
  /-- The callback of the read timer, which has expired. -/
  | timer
  deriving DecidableEq, Repr

/-- The next step of a party that runs, where it stands. -/
def run (tun : Tun Party) (party : Party) : At → Option (Tun Party × Label Party)
  | .called .read => some (tun.move party (.locking .read), .quiet)
  | .called (.write ipPacket) =>
    some (tun.move party
      (if tun.flags .itIsReadLock then .posted ipPacket else .locking (.write ipPacket)), .quiet)
  | .posted ipPacket =>
    let (tun, shown) := tun.cancel (some party)
    some (tun.move party (.locking (.write ipPacket)), shown)
  | .locking kind => some (tun.exchange party kind)
  | .locked .read => some (tun.markRead party)
  | .locked (.write ipPacket) => some (tun.start party (.write ipPacket))
  | .starting => some (tun.start party .read)
  | .resumed .read outcome => some (tun.clear party .itIsReadLock (.leaving outcome))
  | .resumed (.write _) outcome => some (tun.clear party .lock (.returns outcome))
  | .leaving outcome => some (tun.clear party .lock (.returns outcome))
  | .returns outcome => some (tun.move party .idle, .returned party outcome)
  | .idle | .waits _ | .completed _ _ => none

def step (tun : Tun Party) (event : Event Party) : Option (Tun Party × Label Party) :=
  if tun.aborted then none
  else
    match event with
    | .call party kind =>
      match tun.at' party with
      | .idle => some (tun.move party (.called kind), .calls party kind)
      | _ => none
    | .runs party => run tun party (tun.at' party)
    | .completes party completion =>
      match tun.at' party with
      | .waits kind =>
        -- Only `tun.cancel()` completes an operation with `operation_canceled`.
        if completion.code = some .operationCanceled then none
        else some (tun.complete party kind completion)
      | _ => none
    | .handles party =>
      match tun.at' party with
      | .completed kind completion => some (tun.handle party kind completion)
      | _ => none
    | .timer => some (tun.cancel none)

def machine (Party : Type) [DecidableEq Party] : Machine (Tun Party) (Event Party) (Label Party) where
  initial := {}
  step := step

abbrev system (Party : Type) [DecidableEq Party] : System (Tun Party) (Label Party) :=
  (machine Party).system

/-! ### What a step does -/

def Label.touch : Label Party → Touch Party Flag
  | .sets party flag => .sets party flag
  | .clears party flag => .clears party flag
  | .calls _ _ | .refused _ | .starts _ | .cancels _ _ | .aborts _ _ | .returned _ _ | .quiet => .nothing

variable {tun after : Tun Party} {party : Party} {flag : Flag} {here next : At} {kind : Kind}
  {label : Label Party} {result : Tun Party × Label Party}

@[simp] theorem Tun.move_self : (tun.move party here).at' party = here :=
  Function.update_self ..

@[simp] theorem Tun.move_other {who : Party} (other : who ≠ party) :
    (tun.move party here).at' who = tun.at' who :=
  Function.update_of_ne other ..

/-- What a step makes of a party that does not stay where it stands. -/
inductive Moves (party : Party) : At → Label Party → At → Prop where
  | calls (kind : Kind) : Moves party .idle (.calls party kind) (.called kind)
  | resched : Moves party (.called .read) .quiet (.locking .read)
  | looks (ipPacket : Bytes) : Moves party (.called (.write ipPacket)) .quiet (.locking (.write ipPacket))
  | sees (ipPacket : Bytes) : Moves party (.called (.write ipPacket)) .quiet (.posted ipPacket)
  | cancels (ipPacket : Bytes) (struck : List Party) :
      Moves party (.posted ipPacket) (.cancels (some party) struck) (.locking (.write ipPacket))
  | locks (kind : Kind) : Moves party (.locking kind) (.sets party .lock) (.locked kind)
  | marks : Moves party (.locked .read) (.sets party .itIsReadLock) .starting
  | reads : Moves party .starting (.starts party) (.waits .read)
  | writes (ipPacket : Bytes) :
      Moves party (.locked (.write ipPacket)) (.starts party) (.waits (.write ipPacket))
  | struck (kind : Kind) (caller : Option Party) (struck : List Party) (among : party ∈ struck) :
      Moves party (.waits kind) (.cancels caller struck) (.completed kind canceled)
  | completes (kind : Kind) (completion : Completion)
      (own : completion.code ≠ some .operationCanceled) :
      Moves party (.waits kind) .quiet (.completed kind completion)
  | handled (kind : Kind) (completion : Completion) (outcome : Outcome) :
      Moves party (.completed kind completion) .quiet (.resumed kind outcome)
  | unmarks (outcome : Outcome) :
      Moves party (.resumed .read outcome) (.clears party .itIsReadLock) (.leaving outcome)
  | unlocks (ipPacket : Bytes) (outcome : Outcome) :
      Moves party (.resumed (.write ipPacket) outcome) (.clears party .lock) (.returns outcome)
  | leaves (outcome : Outcome) :
      Moves party (.leaving outcome) (.clears party .lock) (.returns outcome)
  | returns (outcome : Outcome) : Moves party (.returns outcome) (.returned party outcome) .idle

/-- What a step does: how a party moves, and what of the device changes with it. -/
inductive Does (tun : Tun Party) : Tun Party × Label Party → Prop where
  /-- A party goes on and nothing changes but where it stands. -/
  | goes {party : Party} {next : At} {shown : Label Party}
      (moves : Moves party (tun.at' party) shown next) (plain : shown.touch = .nothing)
      (before : ∀ kind, tun.at' party ≠ .waits kind) (after : ∀ kind, next ≠ .waits kind) :
      Does tun (tun.move party next, shown)
  | refused {party : Party} {kind : Kind} (stands : tun.at' party = .locking kind) :
      Does tun (tun.move party (.locking kind), .refused party)
  | sets {party : Party} {flag : Flag} {next : At}
      (moves : Moves party (tun.at' party) (.sets party flag) next)
      (down : flag = .lock → tun.flags .lock = false) :
      Does tun ((tun.setFlag flag true).move party next, .sets party flag)
  | starts {party : Party} {kind : Kind}
      (moves : Moves party (tun.at' party) (.starts party) (.waits kind)) :
      Does tun (tun.start party kind)
  | clears {party : Party} {flag : Flag} {next : At}
      (moves : Moves party (tun.at' party) (.clears party flag) next) :
      Does tun (tun.clear party flag next)
  | completes {party : Party} {kind : Kind} {completion : Completion}
      (stands : tun.at' party = .waits kind) (own : completion.code ≠ some .operationCanceled) :
      Does tun (tun.complete party kind completion)
  | cancels {party : Party} {ipPacket : Bytes} (stands : tun.at' party = .posted ipPacket) :
      Does tun ((tun.cancel (some party)).1.move party (.locking (.write ipPacket)),
        .cancels (some party) tun.operations)
  | expires : Does tun (tun.cancel none)
  | aborts {party : Party} {kind : Kind} {completion : Completion}
      (stands : tun.at' party = .completed kind completion) :
      Does tun ({ tun with aborted := true }, .aborts party completion)

private theorem run_does (stands : tun.at' party = here)
    (ran : run tun party here = some result) : Does tun result := by
  cases here with
  | idle | waits | completed => cases ran
  | called kind =>
    cases kind <;> cases ran
    · exact .goes (stands ▸ .resched) rfl (by simp [stands]) (by simp)
    · split
      · exact .goes (stands ▸ .sees _) rfl (by simp [stands]) (by simp)
      · exact .goes (stands ▸ .looks _) rfl (by simp [stands]) (by simp)
  | posted ipPacket =>
    cases ran
    exact .cancels stands
  | locking kind =>
    cases ran
    unfold Tun.exchange
    split
    · exact .refused stands
    · rename_i free
      exact .sets (stands ▸ .locks kind) fun _ => by simpa using free
  | locked kind =>
    cases kind <;> cases ran
    · exact .sets (stands ▸ .marks) (by simp)
    · exact .starts (stands ▸ .writes _)
  | starting =>
    cases ran
    exact .starts (stands ▸ .reads)
  | resumed kind outcome =>
    cases kind <;> cases ran
    · exact .clears (stands ▸ .unmarks outcome)
    · exact .clears (stands ▸ .unlocks _ outcome)
  | leaving outcome =>
    cases ran
    exact .clears (stands ▸ .leaves outcome)
  | returns outcome =>
    cases ran
    exact .goes (stands ▸ .returns outcome) rfl (by simp [stands]) (by simp)

theorem step_does {event : Event Party} (stepped : step tun event = some result) :
    Does tun result := by
  unfold step at stepped
  split at stepped
  · cases stepped
  · cases event with
    | runs party => exact run_does rfl stepped
    | call party kind =>
      dsimp only at stepped
      split at stepped <;> cases stepped
      rename_i stands
      exact .goes (stands ▸ .calls kind) rfl (by simp [stands]) (by simp)
    | completes party completion =>
      dsimp only at stepped
      split at stepped
      · rename_i stands
        split at stepped <;> cases stepped
        rename_i own
        exact .completes stands own
      · cases stepped
    | handles party =>
      dsimp only at stepped
      split at stepped <;> cases stepped
      rename_i kind completion stands
      unfold Tun.handle
      split
      · exact .aborts stands
      · exact .goes (stands ▸ .handled kind completion _) rfl (by simp [stands]) (by simp)
    | timer =>
      cases stepped
      exact .expires

/-! ### Who has which flag -/

/-- The flags a party holds where it stands. -/
def At.owns : At → Flag → Bool
  | .locked _, .lock | .starting, .lock | .waits _, .lock | .completed _ _, .lock
  | .resumed _ _, .lock | .leaving _, .lock => true
  | .starting, .itIsReadLock | .waits .read, .itIsReadLock | .completed .read _, .itIsReadLock
  | .resumed .read _, .itIsReadLock => true
  | _, _ => false

def Tun.standing (tun : Tun Party) : Standing Party Flag where
  up := tun.flags
  owns party flag := (tun.at' party).owns flag = true

/-- A token for `it_is_read_lock` comes with one for `lock_`. -/
theorem At.owns_lock (read : here.owns .itIsReadLock = true) : here.owns .lock = true := by
  cases here <;> simp_all [At.owns]

theorem At.canceled_owns : here.canceled.owns flag = here.owns flag := by
  cases here with
  | waits kind => cases kind <;> cases flag <;> rfl
  | _ => rfl

private theorem move_changes (tun : Tun Party)
    (same : ∀ flag, next.owns flag = (tun.at' party).owns flag) :
    tun.standing.Changes (tun.move party next).standing .nothing := by
  refine ⟨fun _ => rfl, fun who flag => ?_⟩
  by_cases self : who = party
  · subst self
    simp [Tun.standing, Tun.move, same]
  · simp [Tun.standing, Tun.move, self]

private theorem set_changes (down : tun.flags flag = false)
    (gets : ∀ other, next.owns other = true ↔ other = flag ∨ (tun.at' party).owns other = true) :
    tun.standing.Changes ((tun.setFlag flag true).move party next).standing (.sets party flag) := by
  refine ⟨down, fun other => ?_, fun who other => ?_⟩
  · by_cases here : other = flag <;> simp [Tun.standing, Tun.move, Tun.setFlag, here]
  · by_cases self : who = party
    · subst self
      simp [Tun.standing, Tun.move, Tun.setFlag, gets]
    · simp [Tun.standing, Tun.move, Tun.setFlag, self]

private theorem clear_changes (held : (tun.at' party).owns flag = true)
    (keeps : ∀ other, next.owns other = true ↔ other ≠ flag ∧ (tun.at' party).owns other = true) :
    tun.standing.Changes (tun.clear party flag next).1.standing (.clears party flag) := by
  refine ⟨held, fun other => ?_, fun who other => ?_⟩
  · by_cases here : other = flag <;>
      simp [Tun.standing, Tun.clear, Tun.move, Tun.setFlag, here]
  · by_cases self : who = party
    · subst self
      simp [Tun.standing, Tun.clear, Tun.move, Tun.setFlag, keeps]
    · simp [Tun.standing, Tun.clear, Tun.move, Tun.setFlag, self]

theorem cancel_at (caller : Option Party) (who : Party) :
    (tun.cancel caller).1.at' who = tun.at' who ∨
      who ∈ tun.operations ∧ (tun.cancel caller).1.at' who = (tun.at' who).canceled := by
  unfold Tun.cancel
  dsimp only
  split
  · rename_i struck
    exact .inr ⟨struck, rfl⟩
  · exact .inl rfl

/-- Ending operations changes nothing about who holds what. -/
theorem cancel_owns (caller : Option Party) (who : Party) (flag : Flag) :
    ((tun.cancel caller).1.at' who).owns flag = (tun.at' who).owns flag := by
  rcases cancel_at caller who with same | ⟨_, same⟩ <;> rw [same]
  exact At.canceled_owns

private theorem cancel_standing (tun : Tun Party) (caller : Option Party) :
    (tun.cancel caller).1.standing = tun.standing := by
  simp only [Tun.standing, cancel_owns]
  rfl

omit [DecidableEq Party] in
/-- Whoever holds `lock_` may set `it_is_read_lock`: nobody else has. -/
private theorem read_down (kept : tun.standing.Kept) (stands : tun.at' party = .locked .read) :
    tun.flags .itIsReadLock = false := by
  by_contra up
  obtain ⟨who, held⟩ := (kept.up_iff .itIsReadLock).mp (Bool.not_eq_false _ ▸ up)
  have other : tun.standing.owns who .lock := At.owns_lock held
  have own : tun.standing.owns party .lock := by simp [Tun.standing, stands, At.owns]
  obtain rfl : who = party := kept.one other own
  simp [Tun.standing, stands, At.owns] at held

omit [DecidableEq Party] in
/-- What a party holds after a step, by what the step touches. -/
private theorem Moves.owns (moves : Moves party here label next) (flag : Flag) :
    next.owns flag = true ↔
      label.touch = .sets party flag ∨ here.owns flag = true ∧ label.touch ≠ .clears party flag := by
  cases moves with
  | struck kind | completes kind | handled kind =>
    cases kind <;> cases flag <;> simp [At.owns, Label.touch]
  | _ => cases flag <;> simp [At.owns, Label.touch]

omit [DecidableEq Party] in
/-- A party that touches a flag waits for no operation. -/
private theorem Moves.not_waits (moves : Moves party here label next)
    (touches : label.touch ≠ .nothing) :
    (∀ kind, here ≠ .waits kind) ∧ ∀ kind, next ≠ .waits kind := by
  cases moves <;> simp_all [Label.touch]

theorem step_changes {event : Event Party} (kept : tun.standing.Kept)
    (stepped : step tun event = some result) :
    tun.standing.Changes result.1.standing result.2.touch := by
  cases step_does stepped with
  | goes moves plain =>
    rw [plain]
    apply move_changes tun
    intro flag
    rw [Bool.eq_iff_iff, moves.owns, plain]
    simp
  | refused stands => exact move_changes tun fun flag => by rw [stands]
  | @sets party flag next moves down =>
    refine set_changes ?_ fun other => ?_
    · cases flag with
      | lock => exact down rfl
      | itIsReadLock =>
        have stands : tun.at' party = .locked .read := by
          generalize tun.at' party = was at moves
          cases moves
          rfl
        exact read_down kept stands
    · rw [moves.owns]
      simp [Label.touch, @eq_comm _ flag]
  | starts moves =>
    apply move_changes { tun with operations := tun.operations ++ [_] }
    intro flag
    rw [Bool.eq_iff_iff, moves.owns]
    simp [Label.touch]
  | @clears party flag next moves =>
    refine clear_changes ?_ fun other => ?_
    · generalize tun.at' party = was at moves
      cases moves <;> rfl
    · rw [moves.owns]
      simp [Label.touch, @eq_comm _ flag, and_comm]
  | @completes party kind _ stands =>
    apply move_changes { tun with operations := tun.operations.erase party }
    intro flag
    rw [stands]
    cases kind <;> cases flag <;> rfl
  | @cancels party ipPacket stands =>
    rw [← cancel_standing tun (some party)]
    apply move_changes _
    intro flag
    rw [cancel_owns, stands]
    cases flag <;> rfl
  | expires =>
    rw [cancel_standing]
    exact ⟨fun _ => rfl, fun _ _ => Iff.rfl⟩
  | aborts => exact ⟨fun _ => rfl, fun _ _ => Iff.rfl⟩

theorem disciplined (Party : Type) [DecidableEq Party] :
    Disciplined (system Party) Tun.standing Label.touch where
  initial start := by
    rintro rfl
    exact ⟨fun _ => rfl, fun _ flag => by cases flag <;> simp [Tun.standing, machine, At.owns]⟩
  step before label after kept step := by
    obtain ⟨event, stepped⟩ := step
    exact step_changes kept stepped

/-! ### What is in flight -/

/-- The operations in flight are those of the parties that wait for one. -/
structure Tun.InFlight (tun : Tun Party) : Prop where
  mem : ∀ party, party ∈ tun.operations ↔ ∃ kind, tun.at' party = .waits kind
  nodup : tun.operations.Nodup

omit [DecidableEq Party] in
private theorem inFlight_setFlag (inFlight : tun.InFlight) (flag : Flag) (value : Bool) :
    (tun.setFlag flag value).InFlight :=
  ⟨inFlight.mem, inFlight.nodup⟩

private theorem inFlight_move (inFlight : tun.InFlight) (before : ∀ kind, tun.at' party ≠ .waits kind)
    (after : ∀ kind, next ≠ .waits kind) : (tun.move party next).InFlight := by
  refine ⟨fun who => ?_, inFlight.nodup⟩
  by_cases self : who = party
  · subst self
    simp [Tun.move, after, inFlight.mem, before]
  · simp [Tun.move, self, inFlight.mem]

private theorem inFlight_start (inFlight : tun.InFlight)
    (before : ∀ kind, tun.at' party ≠ .waits kind) : (tun.start party kind).1.InFlight := by
  have absent : party ∉ tun.operations := by simp [inFlight.mem, before]
  constructor
  · intro who
    by_cases self : who = party
    · subst self
      simp [Tun.start, Tun.move]
    · simp [Tun.start, Tun.move, self, inFlight.mem]
  · refine List.nodup_append.mpr ⟨inFlight.nodup, List.pairwise_singleton .., fun who member => ?_⟩
    rintro other same rfl
    exact absent (List.mem_singleton.mp same ▸ member)

/-- After `tun.cancel()` nobody waits for an operation. -/
theorem cancel_not_waits (inFlight : tun.InFlight) (caller : Option Party) (who : Party) (kind : Kind) :
    (tun.cancel caller).1.at' who ≠ .waits kind := by
  unfold Tun.cancel
  dsimp only
  split
  · cases tun.at' who <;> simp [At.canceled]
  · rename_i absent
    exact fun waits => absent ((inFlight.mem who).mpr ⟨kind, waits⟩)

private theorem inFlight_cancel (inFlight : tun.InFlight) (caller : Option Party) :
    (tun.cancel caller).1.InFlight :=
  ⟨fun who => by simpa [Tun.cancel] using cancel_not_waits inFlight caller who,
    List.nodup_nil⟩

private theorem inFlight_completes {completion : Completion} (inFlight : tun.InFlight)
    (stands : tun.at' party = .waits kind) :
    (tun.complete party kind completion).1.InFlight := by
  refine ⟨fun who => ?_, inFlight.nodup.erase _⟩
  by_cases self : who = party
  · subst self
    simp [Tun.complete, Tun.move, inFlight.nodup.mem_erase_iff]
  · simp [Tun.complete, Tun.move, inFlight.nodup.mem_erase_iff, self, inFlight.mem]

theorem step_inFlight {event : Event Party} (inFlight : tun.InFlight)
    (stepped : step tun event = some result) : result.1.InFlight := by
  cases step_does stepped with
  | goes _ _ before after => exact inFlight_move inFlight before after
  | refused stands => exact inFlight_move inFlight (by simp [stands]) (by simp)
  | sets moves | clears moves =>
    obtain ⟨before, after⟩ := moves.not_waits (by simp [Label.touch])
    exact inFlight_move (inFlight_setFlag inFlight _ _) before after
  | @starts party _ moves =>
    apply inFlight_start inFlight
    generalize tun.at' party = was at moves
    cases moves <;> simp
  | completes stands => exact inFlight_completes inFlight stands
  | @cancels party _ stands =>
    exact inFlight_move (inFlight_cancel inFlight (some party))
      (cancel_not_waits inFlight (some party) party) (by simp)
  | expires => exact inFlight_cancel inFlight none
  | aborts => exact ⟨inFlight.mem, inFlight.nodup⟩

variable {trace earlier later : List (Label Party)}

theorem run_operations (run : (system Party).Run trace tun) : tun.InFlight := by
  refine run.reachable (fun start initial => ?_) fun before label after held step => ?_
  · cases initial
    exact ⟨fun _ => by simp [machine], List.nodup_nil⟩
  · obtain ⟨event, stepped⟩ := step
    exact step_inFlight held stepped

/-! ### What becomes of one party -/

variable {who : Party}

/-- The party that moves, moves so; the others stay. -/
private theorem move_moves {base : Tun Party} {shown : Label Party} (same : base.at' = tun.at')
    (moves : Moves party (tun.at' party) shown next) (who : Party) :
    (base.move party next).at' who = tun.at' who ∨
      Moves who (tun.at' who) shown ((base.move party next).at' who) := by
  by_cases self : who = party
  · subst self
    rw [Tun.move_self]
    exact .inr moves
  · rw [Tun.move_other self, same]
    exact .inl rfl

/-- Those whose operation is ended by `tun.cancel()`. -/
private theorem cancel_moves (caller : Option Party) (who : Party) :
    (tun.cancel caller).1.at' who = tun.at' who ∨
      Moves who (tun.at' who) (tun.cancel caller).2 ((tun.cancel caller).1.at' who) := by
  rcases cancel_at caller who with same | ⟨member, same⟩
  · exact .inl same
  · rw [same]
    cases stands : tun.at' who with
    | waits kind => exact .inr (.struck kind caller tun.operations member)
    | _ => exact .inl rfl

theorem step_moves {event : Event Party} (stepped : step tun event = some result) (who : Party) :
    result.1.at' who = tun.at' who ∨ Moves who (tun.at' who) result.2 (result.1.at' who) := by
  cases step_does stepped with
  | goes moves | sets moves | starts moves | clears moves => exact move_moves rfl moves who
  | @refused party kind stands =>
    refine .inl ?_
    by_cases self : who = party
    · rw [self, Tun.move_self, stands]
    · exact Tun.move_other self
  | completes stands own => exact move_moves rfl (stands ▸ .completes _ _ own) who
  | @cancels party ipPacket stands =>
    by_cases self : who = party
    · subst self
      rw [Tun.move_self, stands]
      exact .inr (.cancels ipPacket _)
    · rw [Tun.move_other self]
      exact cancel_moves (some party) who
  | expires => exact cancel_moves none who
  | aborts => exact .inl rfl

/-- The call a party is in. -/
def At.inCall : At → Option Kind
  | .called kind | .locking kind | .locked kind | .waits kind | .completed kind _ | .resumed kind _ =>
    some kind
  | .posted ipPacket => some (.write ipPacket)
  | .starting | .leaving _ => some .read
  | .idle | .returns _ => none

/-- A party in a call has made it. -/
theorem run_kind (run : (system Party).Run trace tun) (stands : (tun.at' party).inCall = some kind) :
    .calls party kind ∈ trace := by
  obtain ⟨start, rfl, steps⟩ := run
  induction steps generalizing kind with
  | refl => cases stands
  | @next trace label before after _ step ih =>
    obtain ⟨event, stepped⟩ := step
    apply List.mem_append.mpr
    rcases step_moves stepped party with same | moves
    · exact .inl (ih (same ▸ stands))
    · dsimp only at moves
      generalize before.at' party = was at moves ih
      generalize after.at' party = is at moves stands
      cases moves <;> first
        | (cases stands; exact .inl (ih rfl))
        | (cases stands; exact .inr (List.mem_singleton_self _))
        | cases stands

/-- An operation that was cancelled was cancelled by a `tun.cancel()`. -/
theorem run_canceled {completion : Completion} (run : (system Party).Run trace tun)
    (stands : tun.at' party = .completed kind completion)
    (code : completion.code = some .operationCanceled) :
    ∃ caller struck, .cancels caller struck ∈ trace ∧ party ∈ struck := by
  obtain ⟨start, rfl, steps⟩ := run
  induction steps with
  | refl => cases stands
  | @next trace label before after _ step ih =>
    obtain ⟨event, stepped⟩ := step
    rcases step_moves stepped party with same | moves
    · obtain ⟨caller, struck, member, among⟩ := ih (same ▸ stands)
      exact ⟨caller, struck, List.mem_append_left _ member, among⟩
    · dsimp only at moves
      rw [stands] at moves
      generalize before.at' party = was at moves
      cases moves with
      | struck _ caller struck among =>
        exact ⟨caller, struck, List.mem_append_right _ (List.mem_singleton_self _), among⟩
      | completes _ _ own => exact absurd code own

/-- What a step that is shown as a return or as an abort has found. -/
def Found (tun : Tun Party) : Label Party → Prop
  | .returned party outcome => tun.at' party = .returns outcome
  | .aborts party completion => ∃ kind, tun.at' party = .completed kind completion
  | _ => True

private theorem step_found {event : Event Party} (stepped : step tun event = some result) :
    Found tun result.2 := by
  cases step_does stepped with
  | @goes party _ _ moves =>
    generalize stands : tun.at' party = was at moves
    cases moves with
    | returns => exact stands
    | _ => trivial
  | aborts stands => exact ⟨_, stands⟩
  | _ => trivial

/-- A handler that kills the process over a cancelled operation does so after the
`tun.cancel()` that ended it. -/
theorem aborts_canceled {completion : Completion} (run : (system Party).Run trace tun)
    (aborts : .aborts party completion ∈ trace) (code : completion.code = some .operationCanceled) :
    ∃ caller struck, .cancels caller struck ∈ trace ∧ party ∈ struck := by
  obtain ⟨earlier, later, split⟩ := List.append_of_mem aborts
  obtain ⟨before, after, run', ⟨event, stepped⟩, _⟩ := run.entry split
  obtain ⟨kind, stands⟩ := step_found stepped
  obtain ⟨caller, struck, member, among⟩ := run_canceled run' stands code
  exact ⟨caller, struck, split ▸ List.mem_append_left _ member, among⟩

/-- The party is in a call of `Tun::read`. -/
def At.reads : At → Bool
  | .called .read | .locking .read | .locked .read | .starting | .waits .read | .completed .read _
  | .resumed .read _ | .leaving _ => true
  | _ => false

theorem At.owns_reads (read : here.owns .itIsReadLock = true) : here.reads = true := by
  cases here with
  | called kind | locking kind | locked kind | waits kind => cases kind <;> simp_all [At.owns, At.reads]
  | completed kind _ | resumed kind _ => cases kind <;> simp_all [At.owns, At.reads]
  | _ => simp_all [At.owns, At.reads]

/-- **One operation at a time on the tun device.** However the calls, the
completions and the callbacks of the timer follow one another: of the operations
in flight there is at most one, and its coroutine is the only one that has set
`lock_` and not cleared it; `it_is_read_lock` is true only while a call of
`Tun::read` holds `lock_`; a flag is true exactly while somebody holds it; and a
call that ends, however it does, holds neither. -/
theorem tun_exclusive (run : (system Party).Run trace tun) :
    (∀ party ∈ tun.operations, tun.operations = [party] ∧
      ∀ other, Holds (trace.map Label.touch) other .lock ↔ other = party) ∧
    (tun.flags .itIsReadLock = true →
      ∃ party, Holds (trace.map Label.touch) party .lock ∧ (tun.at' party).reads = true) ∧
    (∀ flag, tun.flags flag = true ↔ ∃ party, Holds (trace.map Label.touch) party flag) ∧
    (∀ earlier party outcome later, trace = earlier ++ .returned party outcome :: later →
      ∀ flag, ¬ Holds (earlier.map Label.touch) party flag) := by
  obtain ⟨kept, owns⟩ := (disciplined Party).run run
  have inFlight := run_operations run
  have holder : ∀ party ∈ tun.operations, tun.standing.owns party .lock := by
    intro party member
    obtain ⟨kind, waits⟩ := (inFlight.mem party).mp member
    simp [Tun.standing, waits, At.owns]
  refine ⟨fun party member => ⟨?_, fun other => ?_⟩, fun up => ?_, (disciplined Party).up_iff run, ?_⟩
  · refine List.perm_singleton.mp ((List.perm_ext_iff_of_nodup inFlight.nodup (by simp)).mpr ?_)
    intro other
    rw [List.mem_singleton]
    exact ⟨fun also => kept.one (holder other also) (holder party member), fun same => same ▸ member⟩
  · rw [← owns]
    exact ⟨fun held => kept.one held (holder party member), fun same => same ▸ holder party member⟩
  · obtain ⟨party, held⟩ := (kept.up_iff .itIsReadLock).mp up
    exact ⟨party, (owns _ _).mp (At.owns_lock held), At.owns_reads held⟩
  · intro earlier party outcome later split flag held
    obtain ⟨before, after, run', ⟨event, stepped⟩, _⟩ := run.entry split
    have nothing := (((disciplined Party).run run').2 _ _).mpr held
    have returns : before.at' party = .returns outcome := step_found stepped
    simp only [Tun.standing, returns] at nothing
    cases flag <;> cases nothing

/-- A write cancels a read, which gives its tokens back, and starts. -/
def cancelledRead : List (Event Bool) :=
  [.call true .read, .runs true, .runs true, .runs true, .runs true, .call false (.write [0x45]),
    .runs false, .runs false, .handles true, .runs true, .runs true, .runs true, .runs false,
    .runs false]

theorem tun_exclusive_cancelled_read :
    ∃ trace tun, (system Bool).Run trace tun ∧ tun.operations = [false] ∧
      (∀ other, Holds (trace.map Label.touch) other .lock ↔ other = false) ∧
      ∀ flag, ¬ Holds ((trace.take 11).map Label.touch) true flag := by
  have replayed : (machine Bool).replay (machine Bool).initial cancelledRead = some (_, _) := rfl
  have run := Machine.replay_run replayed
  obtain ⟨one, _, _, returned⟩ := tun_exclusive run
  obtain ⟨alone, holder⟩ := one false (by decide)
  exact ⟨_, _, run, alone, holder, returned _ true (.read 0) [.sets false .lock, .starts false] rfl⟩

end Vpverk.TunLocks
