import Vpverk.TunLocks

/-! `Tun::read` and `Tun::write` on a single-threaded `io_context` whose ready
queue is first in, first out. A task runs until its coroutine suspends. One
coroutine reads and any number write. Each task is made of steps of
`Vpverk.TunLocks`, and the timer is told in full. -/
namespace Vpverk.TunSchedule
open Octets Asioapi Transition Flags TunLocks

/-- How a coroutine that awaits `lock` goes on once the future has its token:
`cvk::future` may call it at once, or post it to the context. -/
inductive Resumption where
  | atOnce
  | posted
  deriving DecidableEq, Repr

/-- What is promised of a strand is the order of its functions. Each may take a
place of its own in the ready queue, or those that come while the strand waits for
a turn may wait for its next one. -/
inductive Strand where
  | places
  | turns
  deriving DecidableEq, Repr

/-- What the libraries may do either way. -/
structure Library where
  /-- With a future that has its token when it is awaited. -/
  ready : Resumption
  /-- With one that gets its token later. -/
  completed : Resumption
  strand : Strand
  deriving DecidableEq, Repr

/-- Every future is posted. -/
def Library.Posts (lib : Library) : Prop := lib.ready = .posted ∧ lib.completed = .posted

/-- The coroutine that reads is `none`; a writer is `some`. -/
abbrev Party (Writer : Type) := Option Writer

variable {Writer : Type}

/-- What runs on the strand. -/
inductive Function (Writer : Type) where
  /-- `handle.resume()`, posted by `write`. -/
  | post (party : Party Writer)
  /-- The handler of the party's operation. -/
  | handler (party : Party Writer)
  /-- The callback of `cancel_timer`, after it was cancelled or has expired. -/
  | timer (canceled : Bool)
  deriving DecidableEq, Repr

/-- What stands in the ready queue. -/
inductive Task (Writer : Type) where
  /-- The coroutine is resumed, by `reschedule`, a handler or the future. -/
  | resume (party : Party Writer)
  /-- Something is over, and its handler is to run on the strand. -/
  | slot (function : Function Writer)
  /-- A turn of the strand. -/
  | turn (function : Function Writer)
  deriving DecidableEq, Repr

/-- The device with the ready queue, what waits for the strand's next turn, and
whether an `async_wait` is under way. -/
structure Context (Writer : Type) where
  tun : Tun (Party Writer) := {}
  ready : List (Task Writer) := []
  waiting : List (Function Writer) := []
  timerWaits : Bool := false

/-- What the steps of a task show. -/
abbrev Shown (Writer : Type) := List (Label (Party Writer))

def Context.put (ctx : Context Writer) (tun : Tun (Party Writer)) : Context Writer :=
  { ctx with tun := tun }

def Context.post (ctx : Context Writer) (task : Task Writer) : Context Writer :=
  { ctx with ready := ctx.ready ++ [task] }

/-- `cancel_timer.cancel()`. -/
def Context.cancelTimer (ctx : Context Writer) : Context Writer :=
  if ctx.timerWaits then { ctx with timerWaits := false }.post (.slot (.timer true)) else ctx

def Task.isTurn : Task Writer → Bool
  | .turn _ => true
  | .resume _ | .slot _ => false

/-- The strand waits for a turn. -/
def Context.turnComes (ctx : Context Writer) : Bool := ctx.ready.any Task.isTurn

/-- `asio::post(strand, ..)`. -/
def Context.postStrand (lib : Library) (ctx : Context Writer) (function : Function Writer) :
    Context Writer :=
  if lib.strand = .turns ∧ ctx.turnComes then { ctx with waiting := ctx.waiting ++ [function] }
  else ctx.post (.turn function)

/-- After a function of the strand: what waits gets the next turn, once this one is over. -/
def Context.endTurn (ctx : Context Writer) : Context Writer :=
  if ctx.turnComes then ctx
  else { ctx with ready := ctx.ready ++ ctx.waiting.map .turn, waiting := [] }

variable [DecidableEq Writer]

/-- `tun.cancel()`. -/
def Context.cancel (ctx : Context Writer) (caller : Option (Party Writer)) : Context Writer :=
  { ctx with
    tun := (ctx.tun.cancel caller).1
    ready := ctx.ready ++ ctx.tun.operations.map fun party => .slot (.handler party) }

/-- From the token to the suspension: `read` arms the timer, which cancels a wait
under way. -/
def Context.start (ctx : Context Writer) (party : Party Writer) :
    Kind → Context Writer × Shown Writer
  | .read =>
    let marked := ctx.tun.markRead party
    let started := marked.1.start party .read
    ({ (ctx.put started.1).cancelTimer with timerWaits := true }, [marked.2, started.2])
  | .write ipPacket =>
    let started := ctx.tun.start party (.write ipPacket)
    (ctx.put started.1, [started.2])

/-- `co_await lock()` from an exchange to the next suspension. -/
def Context.lock (future : Resumption) (ctx : Context Writer) (party : Party Writer) (kind : Kind) :
    Context Writer × Shown Writer :=
  let exchanged := ctx.tun.exchange party kind
  let after := ctx.put exchanged.1
  if ctx.tun.flags .lock then (after.post (.resume party), [exchanged.2])
  else
    match future with
    | .posted => (after.post (.resume party), [exchanged.2])
    | .atOnce => ((after.start party kind).1, exchanged.2 :: (after.start party kind).2)

/-- The rest of a call once its handler has resumed it. -/
def Context.finish (ctx : Context Writer) (party : Party Writer) (outcome : TunLocks.Outcome) :
    Kind → Context Writer × Shown Writer
  | .read =>
    let first := ctx.tun.clear party .itIsReadLock (.leaving outcome)
    let second := first.1.clear party .lock (.returns outcome)
    (ctx.put (second.1.move party .idle), [first.2, second.2, .returned party outcome])
  | .write _ =>
    let first := ctx.tun.clear party .lock (.returns outcome)
    (ctx.put (first.1.move party .idle), [first.2, .returned party outcome])

/-- The handlers of `async_read_some` and `async_write`. -/
def Context.handle (ctx : Context Writer) (party : Party Writer) (kind : Kind)
    (completion : Completion) : Context Writer × Shown Writer :=
  let handled := ctx.tun.handle party kind completion
  let after := ctx.put handled.1
  if handled.1.aborted then (after, [handled.2])
  else if kind = .read ∧ completion.code ≠ some .operationCanceled then
    (after.cancelTimer.post (.resume party), [handled.2])
  else (after.post (.resume party), [handled.2])

/-- A function runs on the strand. -/
def Context.call (lib : Library) (ctx : Context Writer) :
    Function Writer → Option (Context Writer × Shown Writer)
  | .post party =>
    match ctx.tun.at' party with
    | .posted ipPacket =>
      let cancelled := ctx.cancelTimer.cancel (some party)
      let locked := (cancelled.put (cancelled.tun.move party (.locking (.write ipPacket)))).lock lib.ready
        party (.write ipPacket)
      some (locked.1, .cancels (some party) ctx.tun.operations :: locked.2)
    | _ => none
  | .handler party =>
    match ctx.tun.at' party with
    | .completed kind completion => some (ctx.handle party kind completion)
    | _ => none
  | .timer true => some (ctx, [])
  | .timer false => some (ctx.cancel none, [.cancels none ctx.tun.operations])

/-- A coroutine is resumed. -/
def Context.resume (lib : Library) (ctx : Context Writer) (party : Party Writer) :
    Option (Context Writer × Shown Writer) :=
  match ctx.tun.at' party with
  | .called .read =>
    let locked := (ctx.put (ctx.tun.move party (.locking .read))).lock lib.ready party .read
    some (locked.1, .quiet :: locked.2)
  | .locking kind => some (ctx.lock lib.completed party kind)
  | .locked kind => some (ctx.start party kind)
  | .resumed kind outcome => some (ctx.finish party outcome kind)
  | _ => none

/-- A task runs, with the queue behind it. -/
def Context.execute (lib : Library) (ctx : Context Writer) :
    Task Writer → Option (Context Writer × Shown Writer)
  | .resume party => ctx.resume lib party
  | .slot function =>
    if lib.strand = .turns ∧ ctx.turnComes then
      some ({ ctx with waiting := ctx.waiting ++ [function] }, [])
    else ctx.call lib function
  | .turn function =>
    match ctx.call lib function with
    | none => none
    | some called => some (called.1.endTurn, called.2)

/-- What happens next. -/
inductive Event (Writer : Type) where
  /-- The coroutine that reads calls `Tun::read`. -/
  | read
  | write (writer : Writer) (ipPacket : Bytes)
  /-- The first task of the ready queue. -/
  | next
  /-- The operation of a party is over by itself. -/
  | completes (party : Party Writer) (completion : Completion)
  | expires
  deriving DecidableEq, Repr

def step (lib : Library) (ctx : Context Writer) (event : Event Writer) :
    Option (Context Writer × Shown Writer) :=
  if ctx.tun.aborted then none
  else
    match event with
    | .read =>
      match ctx.tun.at' none with
      | .idle =>
        some ((ctx.put (ctx.tun.move none (.called .read))).post (.resume none), [.calls none .read])
      | _ => none
    | .write writer ipPacket =>
      match ctx.tun.at' (some writer) with
      | .idle =>
        let called := ctx.tun.move (some writer) (.called (.write ipPacket))
        if ctx.tun.flags .itIsReadLock then
          some ((ctx.put (called.move (some writer) (.posted ipPacket))).postStrand lib
            (.post (some writer)), [.calls (some writer) (.write ipPacket), .quiet])
        else
          let locked := (ctx.put (called.move (some writer) (.locking (.write ipPacket)))).lock lib.ready
            (some writer) (.write ipPacket)
          some (locked.1, .calls (some writer) (.write ipPacket) :: .quiet :: locked.2)
      | _ => none
    | .next =>
      match ctx.ready with
      | [] => none
      | task :: rest => { ctx with ready := rest }.execute lib task
    | .completes party completion =>
      match ctx.tun.at' party with
      | .waits kind =>
        if completion.code = some .operationCanceled then none
        else
          let completed := ctx.tun.complete party kind completion
          some ((ctx.put completed.1).post (.slot (.handler party)), [completed.2])
      | _ => none
    | .expires =>
      if ctx.timerWaits then
        some ({ ctx with timerWaits := false }.post (.slot (.timer false)), [])
      else none

def machine (Writer : Type) [DecidableEq Writer] (lib : Library) :
    Machine (Context Writer) (Event Writer) (Shown Writer) where
  initial := {}
  step := step lib

abbrev system (Writer : Type) [DecidableEq Writer] (lib : Library) :
    System (Context Writer) (Shown Writer) :=
  (machine Writer lib).system

/-- What a step can do. -/
inductive Takes (lib : Library) (ctx : Context Writer) : Context Writer × Shown Writer → Prop where
  | reads : ctx.tun.at' none = .idle →
      Takes lib ctx
        ((ctx.put (ctx.tun.move none (.called .read))).post (.resume none), [.calls none .read])
  /-- A write that sees the read before it. -/
  | posts {writer ipPacket} : ctx.tun.at' (some writer) = .idle → ctx.tun.flags .itIsReadLock = true →
      Takes lib ctx
        ((ctx.put ((ctx.tun.move (some writer) (.called (.write ipPacket))).move (some writer)
          (.posted ipPacket))).postStrand lib (.post (some writer)),
          [.calls (some writer) (.write ipPacket), .quiet])
  | writes {writer ipPacket locked} : ctx.tun.at' (some writer) = .idle →
      ctx.tun.flags .itIsReadLock = false →
      locked = (ctx.put ((ctx.tun.move (some writer) (.called (.write ipPacket))).move (some writer)
        (.locking (.write ipPacket)))).lock lib.ready (some writer) (.write ipPacket) →
      Takes lib ctx (locked.1, .calls (some writer) (.write ipPacket) :: .quiet :: locked.2)
  | next {task rest result} : ctx.ready = task :: rest →
      Context.execute lib { ctx with ready := rest } task = some result → Takes lib ctx result
  | completes {party kind completion} : ctx.tun.at' party = .waits kind →
      completion.code ≠ some .operationCanceled →
      Takes lib ctx
        ((ctx.put (ctx.tun.complete party kind completion).1).post (.slot (.handler party)),
          [(ctx.tun.complete party kind completion).2])
  | expires : ctx.timerWaits = true →
      Takes lib ctx (Context.post { ctx with timerWaits := false } (.slot (.timer false)), [])

theorem step_takes {lib : Library} {ctx : Context Writer} {event : Event Writer}
    {result : Context Writer × Shown Writer} (stepped : step lib ctx event = some result) :
    ctx.tun.aborted = false ∧ Takes lib ctx result := by
  unfold step at stepped
  split at stepped
  · cases stepped
  · rename_i alive
    refine ⟨by simpa using alive, ?_⟩
    cases event with
    | read =>
      dsimp only at stepped
      split at stepped <;> cases stepped
      rename_i stands
      exact .reads stands
    | write writer ipPacket =>
      dsimp only at stepped
      split at stepped
      · rename_i stands
        split at stepped <;> cases stepped
        · rename_i reading
          exact .posts stands reading
        · rename_i notReading
          exact .writes stands (by simpa [Tun.move] using notReading) rfl
      · cases stepped
    | next =>
      dsimp only at stepped
      split at stepped
      · cases stepped
      · rename_i front
        exact .next front stepped
    | completes party completion =>
      dsimp only at stepped
      split at stepped
      · rename_i stands
        split at stepped <;> cases stepped
        rename_i own
        exact .completes stands own
      · cases stepped
    | expires =>
      dsimp only at stepped
      split at stepped <;> cases stepped
      rename_i waits
      exact .expires waits

end Vpverk.TunSchedule
