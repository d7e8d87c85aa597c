import Vpverk.SessionHistory

/-! `routeTunToClients` as it enters itself: its calls over the sessions and over
any calls of `Connection::close`, in any order. A call is cut at each of its
awaits. What a call reads from the tun device, and how its other awaits come
out, is free; the packet's bytes beyond its destination play no part. A failed
entry assertion ends the process: nothing happens after it. -/
namespace Vpverk.RouterFrames
open Addresses RouteQueue Sessions Transition

/-- Where a call of `routeTunToClients` stands. -/
inductive FramePc where
  /-- In `Tun::read`. -/
  | reading
  /-- In the nested call it made for want of the write lock. -/
  | locking (con : Ptr)
  /-- In `send`, under the write lock. -/
  | sending (con : Ptr)
  /-- In `close`, with the write lock given back. -/
  | closing (con : Ptr)
  deriving DecidableEq, Repr

/-- A call of `routeTunToClients`. -/
structure Frame where
  useLoop : Bool
  pc : FramePc := .reading
  deriving DecidableEq, Repr

/-- Where the one call of `Connection::close` that found `closed` false stands. -/
inductive Closer where
  | uncalled
  /-- In the loop that takes the write lock. -/
  | locking
  /-- Writing the error message, under the write lock. -/
  | closing
  | ended
  deriving DecidableEq, Repr

/-- The server's main context. A chain is a call of `routeTunToClients` that no
other call awaits, with the calls nested in it, innermost first. -/
structure RouterState where
  control : Control := {}
  writeLock : Ptr → Bool := fun _ => false
  closers : Ptr → Closer := fun _ => .uncalled
  chains : List (List Frame) := []
  started : Bool := false
  stopRequested : Bool := false
  aborted : Bool := false

/-- `tunRouter.empty()`. -/
def RouterState.empty (state : RouterState) : Bool := state.control.tunRouter.entries.isEmpty

/-- What made a step. -/
inductive Cause where
  | start
  | packet (dst : AddressV4)
  /-- The nested call is over, and the write lock is tried again. -/
  | retry
  | exception
  | other
  deriving DecidableEq, Repr

/-- What a step shows: its cause, and, if it entered `routeTunToClients`, whether
the entry assertion held. -/
structure Entry where
  cause : Cause
  passes : Option Bool := none
  deriving DecidableEq, Repr

def RouterState.put (state : RouterState) (k : Nat) (frames : List Frame) : RouterState :=
  { state with chains := state.chains.set k frames }

def RouterState.setWriteLock (state : RouterState) (con : Ptr) (held : Bool) : RouterState :=
  { state with writeLock := Function.update state.writeLock con held }

/-- The head of the loop: another read, or the end of the call. -/
def RouterState.loop (state : RouterState) (k : Nat) (frame : Frame) (callers : List Frame) :
    RouterState :=
  state.put k (if state.stopRequested then callers else { frame with pc := .reading } :: callers)

/-- An entry into `routeTunToClients`, which starts with
`cussert(tunRouter.empty())`. -/
def RouterState.enter (state : RouterState) (k : Nat) (useLoop : Bool) (callers : List Frame)
    (cause : Cause) : RouterState × Entry :=
  if state.empty then (state.loop k { useLoop } callers, ⟨cause, some true⟩)
  else ({ state with aborted := true }, ⟨cause, some false⟩)

/-- An entry that no call awaits. -/
def RouterState.enterNew (state : RouterState) (cause : Cause) : RouterState × Entry :=
  RouterState.enter { state with chains := state.chains ++ [[]] } state.chains.length true [] cause

/-- `close`, called by the router. A connection that is closed already is let be. -/
def RouterState.close (state : RouterState) (k : Nat) (frame : Frame) (callers : List Frame)
    (con : Ptr) : RouterState :=
  if state.closers con = .uncalled then
    RouterState.put { state with closers := Function.update state.closers con .locking } k
      ({ frame with pc := .closing con } :: callers)
  else state.loop k frame callers

/-- `write_lock` and what comes of it: without the lock the router is entered
again, with the lock the packet is encrypted and sent. -/
def RouterState.takeWriteLock (state : RouterState) (k : Nat) (frame : Frame)
    (callers : List Frame) (con : Ptr) (encrypts : Bool) (cause : Cause) : RouterState × Entry :=
  if state.writeLock con then
    state.enter k false ({ frame with pc := .locking con } :: callers) cause
  else if encrypts then
    ((state.setWriteLock con true).put k ({ frame with pc := .sending con } :: callers), ⟨cause, none⟩)
  else (state.close k frame callers con, ⟨cause, none⟩)

/-- The catch block: the router is restarted, and the call returns. -/
def RouterState.restart (state : RouterState) (k : Nat) (callers : List Frame) :
    RouterState × Entry :=
  (state.put k callers).enterNew .exception

/-- How an await of `routeTunToClients` comes out. -/
inductive FrameAnswer where
  | throws
  | timeout
  /-- A packet that is not IPv4. -/
  | skipped
  | packet (dst : AddressV4) (encrypts : Bool)
  | nestedEnds (encrypts : Bool)
  | sent
  | sendFails
  | closed
  deriving DecidableEq, Repr

/-- `routeTunToClients` without its diagnostic block, from one await to the next;
`none` when the await the call is at cannot come out that way. -/
def routeTunToClients (state : RouterState) (k : Nat) (frame : Frame) (callers : List Frame)
    (answer : FrameAnswer) : Option (RouterState × Entry) :=
  match frame.pc, answer with
  | .reading, .throws => some (state.restart k callers)
  | .reading, .timeout | .reading, .skipped =>
    match emptyQueue state.control.tunRouter state.control.tunQueue with
    | none => none
    | some emptied =>
      some (RouterState.loop { state with control := { state.control with
        tunRouter := emptied.tunRouter, tunQueue := {} } } k frame callers, ⟨.other, none⟩)
  | .reading, .packet dst encrypts =>
    match emptyQueue state.control.tunRouter state.control.tunQueue with
    | none => none
    | some emptied =>
      let state := { state with control := { state.control with
        tunRouter := emptied.tunRouter, tunQueue := {} } }
      match emptied.tunRouter.lookup dst with
      | none => some (state.loop k frame callers, ⟨.packet dst, none⟩)
      | some (con, _) => some (state.takeWriteLock k frame callers con encrypts (.packet dst))
  | .locking con, .nestedEnds encrypts =>
    some (state.takeWriteLock k frame callers con encrypts .retry)
  | .sending con, .throws => some ((state.setWriteLock con false).restart k callers)
  | .sending con, .sent =>
    let state := state.setWriteLock con false
    some (if frame.useLoop then state.loop k frame callers else state.put k callers, ⟨.other, none⟩)
  | .sending con, .sendFails =>
    some ((state.setWriteLock con false).close k frame callers con, ⟨.other, none⟩)
  | .closing con, .throws =>
    if state.closers con = .ended then some (state.restart k callers) else none
  | .closing con, .closed =>
    if state.closers con = .ended then some (state.loop k frame callers, ⟨.other, none⟩) else none
  | _, _ => none

/-- What happens next. -/
inductive RouterEvent (Choice : Type) where
  /-- A connection is accepted, or a session goes on. -/
  | session (event : Event Choice)
  | asyncStart
  | stop
  /-- `close` is called by somebody else. -/
  | close (con : Ptr)
  | closeLocks (con : Ptr)
  | closeEnds (con : Ptr)
  /-- The innermost call of a chain goes on. -/
  | resume (k : Nat) (answer : FrameAnswer)

variable {Choice : Type}

def live (alloc : Allocator Choice) (state : RouterState) :
    RouterEvent Choice → Option (RouterState × Entry)
  | .session event =>
    match Sessions.step alloc state.control event with
    | none | some (_, .emptied) => none
    | some (control, _) => some ({ state with control := control }, ⟨.other, none⟩)
  | .asyncStart =>
    if state.started then none else some (RouterState.enterNew { state with started := true } .start)
  | .stop => some ({ state with stopRequested := true }, ⟨.other, none⟩)
  | .close con =>
    if state.closers con = .uncalled then
      some ({ state with closers := Function.update state.closers con .locking }, ⟨.other, none⟩)
    else some (state, ⟨.other, none⟩)
  | .closeLocks con =>
    if state.closers con = .locking ∧ state.writeLock con = false then
      some (RouterState.setWriteLock
        { state with closers := Function.update state.closers con .closing } con true, ⟨.other, none⟩)
    else none
  | .closeEnds con =>
    if state.closers con = .closing then
      some (RouterState.setWriteLock
        { state with closers := Function.update state.closers con .ended } con false, ⟨.other, none⟩)
    else none
  | .resume k answer =>
    match state.chains[k]? with
    | some (frame :: callers) => routeTunToClients state k frame callers answer
    | _ => none

def step (alloc : Allocator Choice) (state : RouterState) (event : RouterEvent Choice) :
    Option (RouterState × Entry) :=
  if state.aborted then none else live alloc state event

/-- The router with its sessions. -/
def machine (alloc : Allocator Choice) : Machine RouterState (RouterEvent Choice) Entry where
  initial := {}
  step := step alloc

abbrev system (alloc : Allocator Choice) : System RouterState Entry := (machine alloc).system

end Vpverk.RouterFrames
