import Vpverk.RouteQueue
import Vpverk.Transition

/-! The sessions of `SessionsControl`: any number of `startConnection`
coroutines over the address pool, the route queue and `tunRouter`, interleaved
with calls of `emptyQueue`. A session is cut at every await and at every
operation that may throw, so the interleavings here include those of the single
threaded main context. A failed `cussert` or an exception outside the try block
ends the process and with it the run, and is not a step. -/
namespace Vpverk.Sessions
open Addresses RouteQueue Transition

/-- Where a `startConnection` coroutine stands. -/
inductive Pc where
  /-- From the settings request to the answer of `authenticateUser`. -/
  | handshake
  /-- In `close("Access denied")`. -/
  | denied
  /-- Before `getNewAddress`. -/
  | obtaining
  /-- In `sendIp`. -/
  | sendingIp
  /-- Before the add entry is made and pushed. -/
  | registering
  /-- In `close("server error: queue full")`. -/
  | refused
  /-- In `performDataExchange`. -/
  | exchanging
  /-- In the loop that pushes the remove entry. -/
  | unregistering
  /-- Before the erase from `unique_address_set`. -/
  | erasing
  | ended
  deriving DecidableEq, Repr

/-- The locals of a `startConnection` coroutine that outlive an await. -/
structure Session where
  pc : Pc := .handshake
  connection : Ptr
  aes : Option Ptr := none
  assignedAddress : Option AddressV4 := none
  deriving DecidableEq, Repr

/-- `SessionsControl`, with its sessions in the order they were accepted.
`allocated` counts the objects `make_shared` has made. -/
structure Control where
  tunRouter : Router := ∅
  tunQueue : RoutesQueue := {}
  pool : AddressPool := {}
  sessions : List Session := []
  allocated : Nat := 0

/-- How a free address is picked. The code's own way is `getNewAddress`
(`codeAllocator`); what is proved for every allocator holds whichever free
address is picked. -/
structure Allocator (Choice : Type) where
  pick : Choice → AddressPool → Option (AddressV4 × AddressPool)
  free : ∀ {choice pool address after}, pick choice pool = some (address, after) →
    address ∉ pool.uniqueAddressSet ∧
      after.uniqueAddressSet = insert address pool.uniqueAddressSet

/-- `getNewAddress` with its diagnostic block removed. The choice is how often
its loop may go round; a session whose call never returns takes no step. -/
def codeAllocator : Allocator Nat where
  pick passes pool :=
    match getNewAddress false passes pool with
    | some (.returns answer) => some answer
    | _ => none
  free := by
    intro passes pool address after answered
    split at answered
    · cases answered
      exact getNewAddress_free (by assumption)
    · cases answered

/-- How the operation a session is at comes out. -/
inductive Answer (Choice : Type) where
  | throws
  | returns
  /-- What the key exchange and `authenticateUser` answer. -/
  | authenticated (allowed : Bool)
  /-- `getNewAddress` returns. -/
  | picks (choice : Choice)

/-- What a session has done to the state it shares with the others. -/
inductive Act where
  | obtain (address : AddressV4)
  | pushAdd (address : AddressV4)
  | pushRemove (address : AddressV4)
  | erase (address : AddressV4)
  /-- The lock or the erase threw and the exception was logged. -/
  | eraseThrew (address : AddressV4)
  deriving DecidableEq, Repr

/-- What a step shows: nothing, an act of one session, or a call of `emptyQueue`. -/
inductive Observation where
  | quiet
  | act (session : Nat) (act : Act)
  | emptied
  deriving DecidableEq, Repr

/-- Where the catch block and the end of the try block lead. -/
def Session.leaveTry (session : Session) : Pc :=
  if session.assignedAddress.isNone then .ended else .unregistering

def Control.put (control : Control) (sid : Nat) (session : Session) : Control :=
  { control with sessions := control.sessions.set sid session }

variable {Choice : Type}

/-- `SessionsControl::startConnection`, from one await or throw point to the
next; `none` when the operation the session is at cannot come out that way. -/
def startConnection (alloc : Allocator Choice) (control : Control) (sid : Nat) (session : Session)
    (answer : Answer Choice) : Option (Control × Observation) :=
  match session.pc, answer with
  | .handshake, .authenticated true =>
    some ({ control.put sid { session with pc := .obtaining, aes := some control.allocated } with
      allocated := control.allocated + 1 }, .quiet)
  | .handshake, .authenticated false =>
    some (control.put sid { session with pc := .denied }, .quiet)
  | .denied, .returns => some (control.put sid { session with pc := .ended }, .quiet)
  | .obtaining, .picks choice =>
    match alloc.pick choice control.pool with
    | none => none
    | some (address, pool) =>
      some ({ control.put sid
          { session with pc := .sendingIp, assignedAddress := some address } with
        pool := pool }, .act sid (.obtain address))
  | .sendingIp, .returns => some (control.put sid { session with pc := .registering }, .quiet)
  | .registering, .returns =>
    match session.assignedAddress with
    | none => some (control.put sid { session with pc := session.leaveTry }, .quiet)
    | some address =>
      match control.tunQueue.tryPush ⟨true, address, session.connection, session.aes⟩ with
      | none => some (control.put sid { session with pc := .refused }, .quiet)
      | some tunQueue =>
        some ({ control.put sid { session with pc := .exchanging } with
          tunQueue := tunQueue }, .act sid (.pushAdd address))
  | .refused, .returns | .exchanging, .returns
  | .handshake, .throws | .denied, .throws | .obtaining, .throws | .sendingIp, .throws
  | .registering, .throws | .refused, .throws | .exchanging, .throws =>
    some (control.put sid { session with pc := session.leaveTry }, .quiet)
  | .unregistering, .returns =>
    match session.assignedAddress with
    | none => none
    | some address =>
      match control.tunQueue.tryPush ⟨false, address, session.connection, none⟩ with
      | none => some (control, .quiet)
      | some tunQueue =>
        some ({ control.put sid { session with pc := .erasing } with
          tunQueue := tunQueue }, .act sid (.pushRemove address))
  | .erasing, .returns =>
    match session.assignedAddress with
    | none => none
    | some address =>
      some ({ control.put sid { session with pc := .ended } with
        pool := control.pool.release address }, .act sid (.erase address))
  | .erasing, .throws =>
    match session.assignedAddress with
    | none => none
    | some address =>
      some (control.put sid { session with pc := .ended }, .act sid (.eraseThrew address))
  | _, _ => none

/-- What happens next: a connection is accepted, a session goes on, or the
router empties its queue. -/
inductive Event (Choice : Type) where
  | accept
  | resume (sid : Nat) (answer : Answer Choice)
  | emptyQueue

def step (alloc : Allocator Choice) (control : Control) :
    Event Choice → Option (Control × Observation)
  | .accept =>
    some ({ control with
      sessions := control.sessions ++ [{ connection := control.allocated }]
      allocated := control.allocated + 1 }, .quiet)
  | .resume sid answer =>
    match control.sessions[sid]? with
    | none => none
    | some session => startConnection alloc control sid session answer
  | .emptyQueue =>
    match emptyQueue control.tunRouter control.tunQueue with
    | none => none
    | some emptied =>
      some ({ control with tunRouter := emptied.tunRouter, tunQueue := {} }, .emptied)

/-- The session system. -/
def machine (alloc : Allocator Choice) : Machine Control (Event Choice) Observation where
  initial := {}
  step := step alloc

abbrev system (alloc : Allocator Choice) : System Control Observation := (machine alloc).system

end Vpverk.Sessions
