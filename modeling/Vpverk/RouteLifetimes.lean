import Vpverk.EmptyQueue
import Vpverk.SessionHistory

/-! The life of a route entry over whole runs. A session makes an entry with `new`, fills it
in and pushes its pointer; what is not taken it deletes, or holds until it is taken;
`emptyQueue` deletes what it takes. The machine here is that of the sessions with the heap
under it, and each of its steps is a step of theirs. -/
namespace Vpverk.RouteLifetimes
open Addresses RouteQueue Coroutine EmptyQueue Transition

/-- `SessionsControl` with its route entries where they are. -/
structure Control where
  heap : Element → Option Route := fun _ => none
  tunRouter : Router := ∅
  tunQueue : List Element := []
  pool : AddressPool := {}
  sessions : List Sessions.Session := []
  allocated : Nat := 0
  /-- The entry a session holds in the loop that pushes it. -/
  route : Nat → Option Element := fun _ => none

/-- `new aq_route`, filled in. It is at any place where nothing is. -/
def Control.new (control : Control) (ptr : Element) (route : Route) : Option Control :=
  if ptr ≠ NIL ∧ control.heap ptr = none then
    some { control with heap := Function.update control.heap ptr (some route) }
  else none

/-- `delete route`, of an entry that is there. -/
def Control.delete (control : Control) (ptr : Element) : Control :=
  { control with heap := Function.update control.heap ptr none }

/-- `tunQueue.try_push(route)` -/
def Control.tryPush (control : Control) (ptr : Element) : Option Control :=
  if control.tunQueue.length < CAPACITY then
    some { control with tunQueue := control.tunQueue ++ [ptr] }
  else none

def Control.put (control : Control) (sid : Nat) (session : Sessions.Session) : Control :=
  { control with sessions := control.sessions.set sid session }

/-- What `emptyQueue` works on. -/
def Control.world (control : Control) : World where
  heap := control.heap
  tunRouter := control.tunRouter
  tunQueue := control.tunQueue

def Control.after (control : Control) (world : World) : Control :=
  { control with heap := world.heap, tunRouter := world.tunRouter, tunQueue := world.tunQueue }

/-- The sessions and what they share, but for the queue. -/
def Control.outside (control : Control) : Sessions.Control where
  tunRouter := control.tunRouter
  pool := control.pool
  sessions := control.sessions
  allocated := control.allocated

/-- The same after a session has gone on without the queue. -/
def Control.follow (control : Control) (outside : Sessions.Control) : Control :=
  { control with pool := outside.pool, sessions := outside.sessions, allocated := outside.allocated }

/-- How the operation a session is at comes out. -/
inductive Answer (Choice : Type) where
  /-- `new aq_route` returns this pointer, and the entry is pushed or not. -/
  | allocates (ptr : Element)
  /-- The entry that is held is pushed again. -/
  | retries
  /-- An operation that makes and pushes nothing. -/
  | other (answer : Sessions.Answer Choice)

/-- What a step shows. -/
inductive Label where
  | shows (observation : Sessions.Observation)
  /-- An entry is made, and pushed or held. -/
  | made (ptr : Element) (observation : Sessions.Observation)
  /-- An entry is made, not taken, and deleted. -/
  | refused (ptr : Element)
  /-- `emptyQueue` has returned, or stopped. -/
  | emptied (answer : Except Stop Unit) (events : List EmptyQueue.Event)

variable {Choice : Type}

/-- Whether what comes out is that an entry is made and pushed. -/
def pushes (session : Sessions.Session) : Sessions.Answer Choice → Bool
  | .returns => session.pc = .registering || session.pc = .unregistering
  | _ => false

/-- `SessionsControl::startConnection`, with the entries it makes. -/
def startConnection (alloc : Sessions.Allocator Choice) (control : Control) (sid : Nat)
    (session : Sessions.Session) : Answer Choice → Option (Control × Label)
  | .allocates ptr =>
    match session.pc, session.assignedAddress, control.route sid with
    | .registering, none, _ =>
      -- `assigned_address.value()` throws, and nobody has the pointer.
      (control.new ptr ⟨true, ⟨0⟩, 0, none⟩).map fun made =>
        (made.put sid { session with pc := session.leaveTry }, .made ptr .quiet)
    | .registering, some address, _ =>
      (control.new ptr ⟨true, address, session.connection, session.aes⟩).map fun made =>
        match made.tryPush ptr with
        | none => ((made.delete ptr).put sid { session with pc := .refused }, .refused ptr)
        | some pushed =>
          (pushed.put sid { session with pc := .exchanging }, .made ptr (.act sid (.pushAdd address)))
    | .unregistering, some address, none =>
      (control.new ptr ⟨false, address, session.connection, none⟩).map fun made =>
        match made.tryPush ptr with
        | none =>
          ({ made with route := Function.update made.route sid (some ptr) }, .made ptr .quiet)
        | some pushed =>
          (pushed.put sid { session with pc := .erasing }, .made ptr (.act sid (.pushRemove address)))
    | _, _, _ => none
  | .retries =>
    match session.pc, session.assignedAddress, control.route sid with
    | .unregistering, some address, some ptr =>
      match control.tryPush ptr with
      | none => some (control, .shows .quiet)
      | some pushed =>
        some ({ pushed.put sid { session with pc := .erasing } with
          route := Function.update pushed.route sid none }, .shows (.act sid (.pushRemove address)))
    | _, _, _ => none
  | .other answer =>
    if pushes session answer then none
    else (Sessions.startConnection alloc control.outside sid session answer).map fun answer =>
      (control.follow answer.1, .shows answer.2)

/-- What happens next. -/
inductive Event (Choice : Type) where
  | accept
  | resume (sid : Nat) (answer : Answer Choice)
  | emptyQueue

/-- One step. The bound on the loops of `emptyQueue` is never what ends them
(`entries_deleted_once`). -/
def step (alloc : Sessions.Allocator Choice) (control : Control) :
    Event Choice → Option (Control × Label)
  | .accept =>
    some ({ control with
      sessions := control.sessions ++ [{ connection := control.allocated }]
      allocated := control.allocated + 1 }, .shows .quiet)
  | .resume sid answer =>
    match control.sessions[sid]? with
    | none => none
    | some session => startConnection alloc control sid session answer
  | .emptyQueue =>
    let ran := (EmptyQueue.emptyQueue (control.tunQueue.length + 2)).run control.world
    some (control.after ran.2, .emptied ran.1 ran.2.events)

def machine (alloc : Sessions.Allocator Choice) : Machine Control (Event Choice) Label where
  initial := {}
  step := step alloc

abbrev system (alloc : Sessions.Allocator Choice) : System Control Label := (machine alloc).system

/-! ### What a step does -/

/-- An entry may be made there. -/
def Control.Fresh (control : Control) (ptr : Element) : Prop := ptr ≠ NIL ∧ control.heap ptr = none

def Control.Room (control : Control) : Prop := control.tunQueue.length < CAPACITY

/-- The heap with an entry made. -/
def Control.made (control : Control) (ptr : Element) (route : Route) : Control :=
  { control with heap := Function.update control.heap ptr (some route) }

/-- The queue with an entry pushed. -/
def Control.pushed (control : Control) (ptr : Element) : Control :=
  { control with tunQueue := control.tunQueue ++ [ptr] }

/-- The entry a session makes where it stands, where it stands when the entry is pushed, and
what it has done then. -/
inductive Pushing (session : Sessions.Session) : Route → Sessions.Pc → Sessions.Act → Prop
  | add {address : AddressV4} (pc : session.pc = .registering)
      (assigned : session.assignedAddress = some address) :
    Pushing session ⟨true, address, session.connection, session.aes⟩ .exchanging (.pushAdd address)
  | remove {address : AddressV4} (pc : session.pc = .unregistering)
      (assigned : session.assignedAddress = some address) :
    Pushing session ⟨false, address, session.connection, none⟩ .erasing (.pushRemove address)

/-- Everything a step can do. -/
inductive Effect (alloc : Sessions.Allocator Choice) (control : Control) : Control → Label → Prop
  | accepted :
    Effect alloc control { control with
      sessions := control.sessions ++ [{ connection := control.allocated }]
      allocated := control.allocated + 1 } (.shows .quiet)
  | follows {sid : Nat} {session : Sessions.Session} {outside : Sessions.Control} {observation : Sessions.Observation}
      {answer : Sessions.Answer Choice} (at' : control.sessions[sid]? = some session)
      (plain : pushes session answer = false)
      (goes : Sessions.startConnection alloc control.outside sid session answer =
        some (outside, observation)) :
    Effect alloc control (control.follow outside) (.shows observation)
  | leaks {sid : Nat} {session : Sessions.Session} {ptr : Element} {route : Route}
      (at' : control.sessions[sid]? = some session) (pc : session.pc = .registering)
      (assigned : session.assignedAddress = none) (fresh : control.Fresh ptr) :
    Effect alloc control ((control.made ptr route).put sid { session with pc := session.leaveTry })
      (.made ptr .quiet)
  | pushes {sid : Nat} {session : Sessions.Session} {ptr : Element} {route : Route}
      {next : Sessions.Pc} {act : Sessions.Act} (at' : control.sessions[sid]? = some session)
      (pushing : Pushing session route next act)
      (unheld : session.pc = .unregistering → control.route sid = none)
      (fresh : control.Fresh ptr) (room : control.Room) :
    Effect alloc control (((control.made ptr route).pushed ptr).put sid { session with pc := next })
      (.made ptr (.act sid act))
  | refuses {sid : Nat} {session : Sessions.Session} {address : AddressV4} {ptr : Element}
      (at' : control.sessions[sid]? = some session) (pc : session.pc = .registering)
      (assigned : session.assignedAddress = some address) (fresh : control.Fresh ptr)
      (full : ¬control.Room) :
    Effect alloc control (control.put sid { session with pc := .refused }) (.refused ptr)
  | holds {sid : Nat} {session : Sessions.Session} {address : AddressV4} {ptr : Element}
      (at' : control.sessions[sid]? = some session) (pc : session.pc = .unregistering)
      (assigned : session.assignedAddress = some address) (unheld : control.route sid = none)
      (fresh : control.Fresh ptr) (full : ¬control.Room) :
    Effect alloc control { control.made ptr ⟨false, address, session.connection, none⟩ with
      route := Function.update control.route sid (some ptr) } (.made ptr .quiet)
  | retries {sid : Nat} {session : Sessions.Session} {address : AddressV4} {ptr : Element}
      (at' : control.sessions[sid]? = some session) (pc : session.pc = .unregistering)
      (assigned : session.assignedAddress = some address) (held : control.route sid = some ptr)
      (room : control.Room) :
    Effect alloc control { (control.pushed ptr).put sid { session with pc := .erasing } with
      route := Function.update control.route sid none } (.shows (.act sid (.pushRemove address)))
  | waits {sid : Nat} {session : Sessions.Session} {address : AddressV4} {ptr : Element}
      (at' : control.sessions[sid]? = some session) (pc : session.pc = .unregistering)
      (assigned : session.assignedAddress = some address) (held : control.route sid = some ptr)
      (full : ¬control.Room) :
    Effect alloc control control (.shows .quiet)
  | empties {answer : Except Stop Unit} {world : World}
      (ran : (EmptyQueue.emptyQueue (control.tunQueue.length + 2)).run control.world = (answer, world)) :
    Effect alloc control (control.after world) (.emptied answer world.events)

variable {alloc : Sessions.Allocator Choice} {control after : Control} {label : Label}
  {trace : List Label} {sid other : Nat} {session : Sessions.Session} {address : AddressV4}
  {ptr : Element} {route : Route}

theorem new_some {made : Control} (new : control.new ptr route = some made) :
    control.Fresh ptr ∧ made = control.made ptr route := by
  unfold Control.new at new
  split at new <;> cases new
  exact ⟨‹_›, rfl⟩

/-- An entry that is deleted again leaves nothing. -/
theorem Control.Fresh.made_delete (fresh : control.Fresh ptr) :
    (control.made ptr route).delete ptr = control := by
  have same : Function.update control.heap ptr none = control.heap := by
    rw [← fresh.2, Function.update_eq_self]
  simp [Control.delete, Control.made, same]

theorem tryPush_some {pushed : Control} (push : control.tryPush ptr = some pushed) :
    control.Room ∧ pushed = control.pushed ptr := by
  unfold Control.tryPush at push
  split at push <;> cases push
  exact ⟨‹_›, rfl⟩

theorem tryPush_none (push : control.tryPush ptr = none) : ¬control.Room := by
  unfold Control.tryPush at push
  split at push
  · cases push
  · assumption

theorem startConnection_effect {answer : Answer Choice} (at' : control.sessions[sid]? = some session)
    (stepped : startConnection alloc control sid session answer = some (after, label)) :
    Effect alloc control after label := by
  cases answer with
  | allocates ptr =>
    simp only [startConnection] at stepped
    split at stepped
    · rename_i pc assigned
      obtain ⟨made, new, same⟩ := Option.map_eq_some_iff.mp stepped
      obtain ⟨fresh, rfl⟩ := new_some new
      cases same
      exact .leaks at' pc assigned fresh
    · rename_i address pc assigned
      obtain ⟨made, new, same⟩ := Option.map_eq_some_iff.mp stepped
      obtain ⟨fresh, rfl⟩ := new_some new
      split at same
      · rename_i push
        have full := tryPush_none push
        cases same
        rw [fresh.made_delete]
        exact .refuses at' pc assigned fresh full
      · rename_i pushed push
        obtain ⟨room, rfl⟩ := tryPush_some push
        cases same
        exact .pushes at' (.add pc assigned) (by simp [pc]) fresh room
    · rename_i address pc assigned unheld
      obtain ⟨made, new, same⟩ := Option.map_eq_some_iff.mp stepped
      obtain ⟨fresh, rfl⟩ := new_some new
      split at same
      · rename_i push
        have full := tryPush_none push
        cases same
        exact .holds at' pc assigned unheld fresh full
      · rename_i pushed push
        obtain ⟨room, rfl⟩ := tryPush_some push
        cases same
        exact .pushes at' (.remove pc assigned) (fun _ => unheld) fresh room
    · cases stepped
  | retries =>
    simp only [startConnection] at stepped
    split at stepped
    · rename_i address held pc assigned route
      split at stepped
      · rename_i push
        cases stepped
        exact .waits at' pc assigned route (tryPush_none push)
      · rename_i pushed push
        obtain ⟨room, rfl⟩ := tryPush_some push
        cases stepped
        exact .retries at' pc assigned route room
    · cases stepped
  | other answer =>
    simp only [startConnection] at stepped
    split at stepped
    · cases stepped
    · rename_i plain
      obtain ⟨⟨outside, observation⟩, goes, same⟩ := Option.map_eq_some_iff.mp stepped
      cases same
      exact .follows at' (by simpa using plain) goes

theorem step_effect {event : Event Choice} (stepped : step alloc control event = some (after, label)) :
    Effect alloc control after label := by
  cases event with
  | accept =>
    cases stepped
    exact .accepted
  | resume sid answer =>
    simp only [step] at stepped
    split at stepped
    · cases stepped
    · exact startConnection_effect ‹_› stepped
  | emptyQueue =>
    cases stepped
    exact .empties rfl

/-! ### The sessions seen through the pointers -/

/-- What an operation that pushes nothing does, it does whatever is in the queue. -/
theorem plain_step {outside : Sessions.Control} {observation : Sessions.Observation}
    {answer : Sessions.Answer Choice} {before : Sessions.Control}
    (plain : pushes session answer = false)
    (goes : Sessions.startConnection alloc before sid session answer = some (outside, observation)) :
    session.pc ≠ .unregistering ∧ outside.tunRouter = before.tunRouter ∧
      (∃ moved, outside.sessions = before.sessions.set sid moved) ∧
      ∀ tunQueue, Sessions.startConnection alloc { before with tunQueue := tunQueue } sid session answer =
        some ({ outside with tunQueue := tunQueue }, observation) := by
  obtain ⟨pc, connection, aes, assignedAddress⟩ := session
  cases pc <;> cases answer <;>
    simp only [Sessions.startConnection, reduceCtorEq, Option.some.injEq, Prod.mk.injEq] at goes
  case handshake.authenticated allowed =>
    cases allowed <;> simp only [Option.some.injEq, Prod.mk.injEq] at goes <;>
      obtain ⟨rfl, rfl⟩ := goes <;>
      exact ⟨by simp, rfl, ⟨_, rfl⟩, fun _ => rfl⟩
  case obtaining.picks choice =>
    split at goes
    · cases goes
    · rename_i address pool picked
      cases goes
      refine ⟨by simp, rfl, ⟨_, rfl⟩, ?_⟩
      intro tunQueue
      simp [Sessions.startConnection, picked, Sessions.Control.put]
  case registering.returns => simp [pushes] at plain
  case unregistering.returns => simp [pushes] at plain
  case erasing.returns | erasing.throws =>
    cases assignedAddress with
    | none => cases goes
    | some address =>
      cases goes
      exact ⟨by simp, rfl, ⟨_, rfl⟩, fun _ => rfl⟩
  all_goals
    obtain ⟨rfl, rfl⟩ := goes
    exact ⟨by simp, rfl, ⟨_, rfl⟩, fun _ => rfl⟩

/-- Every entry of the queue is there, once, and no session holds one of them; what a session
holds is its own, its remove entry. -/
structure Sound (control : Control) : Prop where
  nil : control.heap NIL = none
  bounded : control.tunQueue.length ≤ CAPACITY
  nodup : control.tunQueue.Nodup
  live : ∀ ptr ∈ control.tunQueue, ∃ route, control.heap ptr = some route
  held : ∀ {sid ptr}, control.route sid = some ptr → ptr ∉ control.tunQueue ∧
    ∃ session address, control.sessions[sid]? = some session ∧ session.pc = .unregistering ∧
      session.assignedAddress = some address ∧
      control.heap ptr = some ⟨false, address, session.connection, none⟩
  apart : ∀ {sid other ptr}, control.route sid = some ptr → control.route other = some ptr → sid = other

/-- The entries of the queue. -/
def Control.entries (control : Control) : List Route := control.tunQueue.filterMap control.heap

/-- The sessions with the queue as a queue of entries. -/
def Sound.shown (sound : Sound control) : Sessions.Control :=
  { control.outside with
    tunQueue := ⟨control.entries, (List.length_filterMap_le _ _).trans sound.bounded⟩ }

/-- The entry an event deletes. -/
def deleted : EmptyQueue.Event → Option Element
  | .deleted ptr => some ptr
  | _ => none

/-- What a step shows of the sessions. -/
def Label.observation : Label → Sessions.Observation
  | .shows observation | .made _ observation => observation
  | .refused _ => .quiet
  | .emptied _ _ => .emptied

/-- `tunQueue` as `emptyQueue` finds it. -/
def Sound.queued (sound : Sound control) : Queued :=
  ⟨control.tunQueue, control.heap, sound.bounded, sound.live, sound.nil, sound.nodup⟩

theorem Sound.length_entries (sound : Sound control) :
    control.entries.length = control.tunQueue.length := by
  have owned : Owned control.heap control.world control.tunQueue := by
    refine ⟨sound.nodup, ?_⟩
    intro ptr member
    obtain ⟨route, found⟩ := sound.live ptr member
    exact ⟨route, found, found⟩
  exact owned.length_routes

/-- Where an entry may be made, none is in the queue. -/
theorem Control.Fresh.absent (fresh : control.Fresh ptr) (sound : Sound control) :
    ptr ∉ control.tunQueue := by
  intro member
  obtain ⟨route, found⟩ := sound.live ptr member
  rw [fresh.2] at found
  cases found

theorem entries_made (absent : ptr ∉ control.tunQueue) :
    (control.made ptr route).entries = control.entries := by
  apply List.filterMap_congr
  intro other member
  have differs : other ≠ ptr := by
    rintro rfl
    exact absent member
  simp [Control.made, Function.update, differs]

/-- `emptyQueue` returns; every entry is gone, deleted once, and the others are as they were. -/
theorem Sound.empties {answer : Except Stop Unit} {world : World} (sound : Sound control)
    (ran : (EmptyQueue.emptyQueue (control.tunQueue.length + 2)).run control.world = (answer, world)) :
    answer = .ok () ∧ world.tunQueue = [] ∧
      (∀ ptr, world.heap ptr = if ptr ∈ control.tunQueue then none else control.heap ptr) ∧
      (world.events.filterMap deleted).Perm control.tunQueue ∧
      ∃ emptied, RouteQueue.emptyQueue control.tunRouter sound.shown.tunQueue = some emptied ∧
        emptied.tunRouter = world.tunRouter := by
  obtain ⟨applied, dropped, after, returns, queue, _, settled, refines⟩ :=
    emptyQueue_refines sound.queued control.tunRouter
  have same : (answer, world) = (.ok (), after) := ran.symm.trans (returns _ (Nat.le_refl _))
  cases same
  refine ⟨rfl, queue, settled.heap, ?_, _, refines, rfl⟩
  have told : world.events.filterMap deleted = applied ++ dropped := by
    rw [settled.events]
    simp only [Queued.world, List.nil_append, List.filterMap_append, List.filterMap_flatMap]
    exact congrArg₂ _ (List.flatMap_singleton' _) (List.flatMap_singleton' _)
  rw [told]
  exact settled.perm

/-! ### Everything that is held stays sound -/

/-- A session that is not about to unregister holds nothing. -/
theorem Sound.unheld (sound : Sound control) (at' : control.sessions[sid]? = some session)
    (pc : session.pc ≠ .unregistering) : control.route sid = none := by
  cases held : control.route sid with
  | none => rfl
  | some ptr =>
    obtain ⟨_, stands, _, same, unregisters, _⟩ := sound.held held
    rw [at'] at same
    cases same
    exact absurd unregisters pc

/-- A session that holds nothing goes on. -/
theorem Sound.moves {moved : Sessions.Session} (sound : Sound control) (heap : after.heap = control.heap)
    (tunQueue : after.tunQueue = control.tunQueue) (route : after.route = control.route)
    (sessions : after.sessions = control.sessions.set sid moved) (unheld : control.route sid = none) :
    Sound after := by
  refine ⟨heap ▸ sound.nil, tunQueue ▸ sound.bounded, tunQueue ▸ sound.nodup, ?_, ?_, ?_⟩
  · rw [heap, tunQueue]
    exact sound.live
  · intro holder ptr held
    rw [route] at held
    obtain ⟨away, session, address, at', stands⟩ := sound.held held
    have other : sid ≠ holder := by
      rintro rfl
      rw [unheld] at held
      cases held
    rw [heap, tunQueue, sessions, List.getElem?_set_ne other]
    exact ⟨away, session, address, at', stands⟩
  · rw [route]
    exact sound.apart

/-- An entry is made where none is. -/
theorem Sound.made (sound : Sound control) (fresh : control.Fresh ptr) (route : Route) :
    Sound (control.made ptr route) := by
  have spared : ∀ {other found}, control.heap other = some found →
      (control.made ptr route).heap other = some found := by
    intro other found there
    have differs : other ≠ ptr := by
      rintro rfl
      rw [fresh.2] at there
      cases there
    simpa [Control.made, Function.update, differs] using there
  refine ⟨?_, sound.bounded, sound.nodup, ?_, ?_, sound.apart⟩
  · simpa [Control.made, Function.update, fresh.1.symm] using sound.nil
  · intro other member
    obtain ⟨found, there⟩ := sound.live other member
    exact ⟨found, spared there⟩
  · intro sid other held
    obtain ⟨away, session, address, at', pc, assigned, there⟩ := sound.held held
    exact ⟨away, session, address, at', pc, assigned, spared there⟩

/-- An entry that nobody holds and that is not in the queue is pushed. -/
theorem Sound.pushed (sound : Sound control) (there : control.heap ptr = some route)
    (absent : ptr ∉ control.tunQueue) (unheld : ∀ sid, control.route sid ≠ some ptr)
    (room : control.Room) : Sound (control.pushed ptr) := by
  refine ⟨sound.nil, ?_, ?_, ?_, ?_, sound.apart⟩
  · simpa [Control.pushed] using Nat.succ_le_of_lt room
  · exact List.nodup_append.mpr ⟨sound.nodup, List.nodup_singleton _, by
      rintro other member _ single rfl
      rw [List.mem_singleton.mp single] at member
      exact absent member⟩
  · intro other member
    rcases List.mem_append.mp member with old | new
    · exact sound.live other old
    · exact ⟨route, by rw [List.mem_singleton.mp new]; exact there⟩
  · intro sid other held
    obtain ⟨away, stands⟩ := sound.held held
    refine ⟨?_, stands⟩
    intro member
    rcases List.mem_append.mp member with old | new
    · exact away old
    · rw [List.mem_singleton.mp new] at held
      exact unheld sid held

/-- A session lets go of what it holds. -/
theorem Sound.released (sound : Sound control) (sid : Nat) :
    Sound { control with route := Function.update control.route sid none } := by
  have kept : ∀ {holder ptr}, Function.update control.route sid none holder = some ptr →
      control.route holder = some ptr := by
    intro holder ptr held
    by_cases same : holder = sid <;> simp_all [Function.update]
  exact ⟨sound.nil, sound.bounded, sound.nodup, sound.live, fun held => sound.held (kept held),
    fun held held' => sound.apart (kept held) (kept held')⟩

/-- Nobody holds an entry that is not there. -/
theorem Control.Fresh.unheld (fresh : control.Fresh ptr) (sound : Sound control) (sid : Nat) :
    control.route sid ≠ some ptr := by
  intro held
  obtain ⟨_, _, _, _, _, _, there⟩ := sound.held held
  rw [fresh.2] at there
  cases there

/-- A session that holds nothing takes its remove entry, which nobody holds. -/
theorem Sound.holds (sound : Sound control) (at' : control.sessions[sid]? = some session)
    (pc : session.pc = .unregistering) (assigned : session.assignedAddress = some address)
    (there : control.heap ptr = some ⟨false, address, session.connection, none⟩)
    (absent : ptr ∉ control.tunQueue) (unheld : ∀ sid, control.route sid ≠ some ptr) :
    Sound { control with route := Function.update control.route sid (some ptr) } := by
  have whose : ∀ {holder other}, Function.update control.route sid (some ptr) holder = some other →
      (holder = sid ∧ other = ptr) ∨ (holder ≠ sid ∧ control.route holder = some other) := by
    intro holder other held
    by_cases same : holder = sid
    · subst same
      exact .inl ⟨rfl, by simpa [eq_comm] using held⟩
    · exact .inr ⟨same, by simpa [Function.update, same] using held⟩
  refine ⟨sound.nil, sound.bounded, sound.nodup, sound.live, ?_, ?_⟩
  · intro holder other held
    rcases whose held with ⟨rfl, rfl⟩ | ⟨_, held'⟩
    · exact ⟨absent, session, address, at', pc, assigned, there⟩
    · exact sound.held held'
  · intro holder holder' other held held'
    rcases whose held with ⟨rfl, rfl⟩ | ⟨_, one⟩ <;> rcases whose held' with ⟨rfl, _⟩ | ⟨_, two⟩
    · rfl
    · exact absurd two (unheld _)
    · subst other
      exact absurd one (unheld _)
    · exact sound.apart one two

/-- The queue is emptied, and what is held stays. -/
theorem Sound.emptied {answer : Except Stop Unit} {world : World} (sound : Sound control)
    (ran : (EmptyQueue.emptyQueue (control.tunQueue.length + 2)).run control.world = (answer, world)) :
    Sound (control.after world) := by
  obtain ⟨_, queue, heap, _⟩ := sound.empties ran
  have spared : ∀ {ptr}, ptr ∉ control.tunQueue → world.heap ptr = control.heap ptr :=
    fun away => by rw [heap, if_neg away]
  refine ⟨?_, ?_, ?_, ?_, ?_, sound.apart⟩
  · change world.heap NIL = none
    rw [heap]
    split
    · rfl
    · exact sound.nil
  · simp [Control.after, queue]
  · simp [Control.after, queue]
  · simp [Control.after, queue]
  · intro sid ptr held
    obtain ⟨away, session, address, at', pc, assigned, there⟩ := sound.held held
    exact ⟨by simp [Control.after, queue], session, address, at', pc, assigned, (spared away).trans there⟩

theorem Pushing.unheld {next : Sessions.Pc} {act : Sessions.Act}
    (pushing : Pushing session route next act) (sound : Sound control)
    (at' : control.sessions[sid]? = some session)
    (unheld : session.pc = .unregistering → control.route sid = none) : control.route sid = none := by
  cases pushing with
  | add pc => exact sound.unheld at' (by simp [pc])
  | remove pc => exact unheld pc

theorem sound_preserved (sound : Sound control) (effect : Effect alloc control after label) :
    Sound after := by
  cases effect with
  | accepted =>
    refine ⟨sound.nil, sound.bounded, sound.nodup, sound.live, ?_, sound.apart⟩
    intro sid ptr held
    obtain ⟨away, session, address, at', stands⟩ := sound.held held
    have inside := (List.getElem?_eq_some_iff.mp at').1
    exact ⟨away, session, address, (List.getElem?_append_left inside).trans at', stands⟩
  | follows at' plain goes =>
    obtain ⟨pc, _, ⟨moved, sessions⟩, _⟩ := plain_step plain goes
    exact sound.moves rfl rfl rfl sessions (sound.unheld at' pc)
  | leaks at' pc assigned fresh =>
    exact (sound.made fresh _).moves rfl rfl rfl rfl (sound.unheld at' (by simp [pc]))
  | @pushes sid session ptr route next act at' pushing unheld fresh room =>
    have there : (control.made ptr route).heap ptr = some route := Function.update_self ..
    have unheld' : control.route sid = none := pushing.unheld sound at' unheld
    exact ((sound.made fresh route).pushed there (fresh.absent sound) (fresh.unheld sound) room).moves
      rfl rfl rfl rfl unheld'
  | refuses at' pc =>
    exact sound.moves rfl rfl rfl rfl (sound.unheld at' (by simp [pc]))
  | holds at' pc assigned unheld fresh full =>
    exact (sound.made fresh _).holds at' pc assigned (Function.update_self ..) (fresh.absent sound)
      (fresh.unheld sound)
  | @retries sid session address ptr at' pc assigned held room =>
    obtain ⟨away, _, _, _, _, _, there⟩ := sound.held held
    have let_go : ∀ holder, Function.update control.route sid none holder ≠ some ptr := by
      intro holder
      by_cases same : holder = sid
      · simp [same]
      · simpa [Function.update, same] using fun held' => same (sound.apart held' held)
    exact ((sound.released sid).pushed there away let_go room).moves rfl rfl rfl rfl (Function.update_self ..)
  | waits => exact sound
  | empties ran =>
    exact sound.emptied ran

/-! ### The machine is the sessions' machine -/

theorem Sound.shown_eq (sound : Sound control) (tunQueue : RoutesQueue)
    (entries : control.entries = tunQueue.entries) :
    sound.shown = { control.outside with tunQueue := tunQueue } := by
  obtain ⟨queue, bounded⟩ := tunQueue
  obtain rfl : control.entries = queue := entries
  rfl

theorem Sound.tryPush (sound : Sound control) (room : control.Room) (route : Route) :
    ∃ tunQueue, sound.shown.tunQueue.tryPush route = some tunQueue ∧
      tunQueue.entries = control.entries ++ [route] := by
  have fits : sound.shown.tunQueue.entries.length < CAPACITY := by
    change control.entries.length < CAPACITY
    rwa [sound.length_entries]
  exact ⟨_, by rw [RoutesQueue.tryPush, dif_pos fits], rfl⟩

theorem Sound.tryPush_full (sound : Sound control) (full : ¬control.Room) (route : Route) :
    sound.shown.tunQueue.tryPush route = none := by
  have outside : ¬sound.shown.tunQueue.entries.length < CAPACITY := by
    change ¬control.entries.length < CAPACITY
    rwa [sound.length_entries]
  rw [RoutesQueue.tryPush, dif_neg outside]

theorem entries_pushed (there : control.heap ptr = some route) :
    (control.pushed ptr).entries = control.entries ++ [route] := by
  simp [Control.entries, Control.pushed, there]

/-- A session that pushes its entry, pushes it. -/
theorem Pushing.shown {next : Sessions.Pc} {act : Sessions.Act} {before : Sessions.Control}
    {tunQueue : RoutesQueue} (pushing : Pushing session route next act)
    (push : before.tunQueue.tryPush route = some tunQueue) :
    Sessions.startConnection alloc before sid session .returns =
      some ({ before.put sid { session with pc := next } with tunQueue := tunQueue }, .act sid act) := by
  obtain ⟨pc, connection, aes, assignedAddress⟩ := session
  cases pushing with
  | add pc assigned =>
    obtain rfl : _ = Sessions.Pc.registering := pc
    obtain rfl : assignedAddress = some _ := assigned
    simp [Sessions.startConnection, push]
  | remove pc assigned =>
    obtain rfl : _ = Sessions.Pc.unregistering := pc
    obtain rfl : assignedAddress = some _ := assigned
    simp [Sessions.startConnection, push]

/-- A session that goes on, goes on. -/
theorem Sound.resumes {answer : Sessions.Answer Choice} {next : Sessions.Control}
    {observation : Sessions.Observation} (sound : Sound control) (sound' : Sound after)
    (at' : control.sessions[sid]? = some session)
    (goes : Sessions.startConnection alloc sound.shown sid session answer = some (next, observation))
    (same : sound'.shown = next) :
    (Sessions.system alloc).step sound.shown observation sound'.shown := by
  have stands : sound.shown.sessions[sid]? = some session := at'
  refine ⟨.resume sid answer, ?_⟩
  rw [same]
  simp only [Sessions.machine, Sessions.step, stands, goes]

theorem effect_shown (sound : Sound control) (sound' : Sound after)
    (effect : Effect alloc control after label) :
    (Sessions.system alloc).step sound.shown label.observation sound'.shown := by
  cases effect with
  | accepted => exact ⟨.accept, rfl⟩
  | @follows sid session outside observation answer at' plain goes =>
    obtain ⟨_, router, _, anyhow⟩ := plain_step plain goes
    apply sound.resumes sound' at' (anyhow sound.shown.tunQueue)
    rw [sound'.shown_eq sound.shown.tunQueue rfl]
    simp [Control.follow, Control.outside, router]
  | @leaks sid session _ _ at' pc assigned fresh =>
    have leaves : Sessions.startConnection alloc sound.shown sid session .returns =
        some (sound.shown.put sid { session with pc := session.leaveTry }, .quiet) := by
      simp [Sessions.startConnection, pc, assigned]
    exact sound.resumes sound' at' leaves (sound'.shown_eq _ (entries_made (fresh.absent sound)))
  | @pushes sid session ptr route next act at' pushing unheld fresh room =>
    obtain ⟨tunQueue, push, entries⟩ := sound.tryPush room route
    apply sound.resumes sound' at' (pushing.shown push)
    have there : (control.made ptr route).heap ptr = some route := Function.update_self ..
    apply sound'.shown_eq
    rw [entries, ← entries_made (fresh.absent sound)]
    exact entries_pushed there
  | @refuses sid session _ _ at' pc assigned fresh full =>
    have stops : Sessions.startConnection alloc sound.shown sid session .returns =
        some (sound.shown.put sid { session with pc := .refused }, .quiet) := by
      simp [Sessions.startConnection, pc, assigned, sound.tryPush_full full]
    exact sound.resumes sound' at' stops rfl
  | @holds sid session _ _ at' pc assigned unheld fresh full =>
    have waits : Sessions.startConnection alloc sound.shown sid session .returns =
        some (sound.shown, .quiet) := by
      simp [Sessions.startConnection, pc, assigned, sound.tryPush_full full]
    exact sound.resumes sound' at' waits (sound'.shown_eq _ (entries_made (fresh.absent sound)))
  | @retries sid session address ptr at' pc assigned held room =>
    obtain ⟨away, session', address', same, _, assigned', there⟩ := sound.held held
    obtain rfl : session = session' := Option.some.inj (at'.symm.trans same)
    obtain rfl : address = address' := Option.some.inj (assigned.symm.trans assigned')
    obtain ⟨tunQueue, push, entries⟩ := sound.tryPush room ⟨false, address, session.connection, none⟩
    apply sound.resumes sound' at' (Pushing.shown (.remove pc assigned) push)
    apply sound'.shown_eq
    rw [entries]
    exact entries_pushed there
  | @waits sid session _ _ at' pc assigned held full =>
    have waits : Sessions.startConnection alloc sound.shown sid session .returns =
        some (sound.shown, .quiet) := by
      simp [Sessions.startConnection, pc, assigned, sound.tryPush_full full]
    exact sound.resumes sound' at' waits rfl
  | @empties answer world ran =>
    obtain ⟨_, queue, _, _, emptied, ended, router⟩ := sound.empties ran
    refine ⟨.emptyQueue, ?_⟩
    have empty : (control.after world).entries = [] := by simp [Control.entries, Control.after, queue]
    have step : RouteQueue.emptyQueue sound.shown.tunRouter sound.shown.tunQueue = some emptied := ended
    simp only [Sessions.machine, Sessions.step, step, router]
    rw [sound'.shown_eq {} empty]
    rfl

theorem simulates (alloc : Sessions.Allocator Choice) :
    Simulates (system alloc) (Sessions.system alloc)
      (fun control shown => ∃ sound : Sound control, shown = sound.shown)
      fun label => [label.observation] where
  initial := by
    rintro _ rfl
    have sound : Sound (machine alloc).initial :=
      ⟨rfl, Nat.zero_le _, .nil, by simp [machine], by simp [machine], by simp [machine]⟩
    exact ⟨_, rfl, sound, rfl⟩
  step := by
    rintro before label after _ ⟨sound, rfl⟩ ⟨event, stepped⟩
    have effect := step_effect stepped
    have sound' := sound_preserved sound effect
    have step := effect_shown sound sound' effect
    exact ⟨_, System.Steps.next .refl step, sound', rfl⟩

theorem run_shown (run : (system alloc).Run trace control) :
    ∃ sound : Sound control, (Sessions.system alloc).Run (trace.map Label.observation) sound.shown := by
  obtain ⟨_, below, sound, rfl⟩ := (simulates alloc).run run
  rw [← List.map_eq_flatMap] at below
  exact ⟨sound, below⟩

/-! ### No entry is lost -/

/-- The entries a step makes. -/
def Label.news : Label → List Element
  | .made ptr _ | .refused ptr => [ptr]
  | .shows _ | .emptied _ _ => []

/-- The entries a step deletes. -/
def Label.deletes : Label → List Element
  | .refused ptr => [ptr]
  | .emptied _ events => events.filterMap deleted
  | .shows _ | .made _ _ => []

/-- What is there is in the queue or held, and was made once more than it was deleted. -/
structure Kept (trace : List Label) (control : Control) : Prop where
  owned : ∀ ptr route, control.heap ptr = some route →
    ptr ∈ control.tunQueue ∨ ∃ sid, control.route sid = some ptr
  balance : ∀ ptr, (trace.flatMap Label.news).count ptr =
    (trace.flatMap Label.deletes).count ptr + if (control.heap ptr).isSome then 1 else 0
  returned : ∀ answer events, .emptied answer events ∈ trace → answer = .ok ()

theorem counts_snoc (counted : Label → List Element) (ptr : Element) :
    ((trace ++ [label]).flatMap counted).count ptr =
      (trace.flatMap counted).count ptr + (counted label).count ptr := by
  simp

/-- A step after which the same entries are there, and none has changed hands for nobody. -/
theorem Kept.still (kept : Kept trace control) (heap : after.heap = control.heap)
    (queue : control.tunQueue ⊆ after.tunQueue)
    (held : ∀ sid ptr, control.route sid = some ptr →
      ptr ∈ after.tunQueue ∨ ∃ holder, after.route holder = some ptr)
    (even : ∀ ptr, label.news.count ptr = label.deletes.count ptr)
    (quiet : ∀ answer events, label ≠ .emptied answer events) : Kept (trace ++ [label]) after := by
  refine ⟨?_, ?_, ?_⟩
  · intro ptr route there
    rw [heap] at there
    rcases kept.owned ptr route there with queued | ⟨sid, holds⟩
    · exact .inl (queue queued)
    · exact held sid ptr holds
  · intro ptr
    have balance := kept.balance ptr
    rw [counts_snoc, counts_snoc, even, heap]
    omega
  · intro answer events member
    rcases List.mem_append.mp member with old | new
    · exact kept.returned answer events old
    · exact absurd (List.mem_singleton.mp new).symm (quiet answer events)

/-- An entry is made, and is in the queue or held from then on. -/
theorem Kept.makes {observation : Sessions.Observation} (kept : Kept trace control)
    (fresh : control.Fresh ptr) (heap : after.heap = Function.update control.heap ptr (some route))
    (queue : control.tunQueue ⊆ after.tunQueue)
    (held : ∀ sid other, control.route sid = some other → after.route sid = some other)
    (owned : ptr ∈ after.tunQueue ∨ ∃ sid, after.route sid = some ptr) :
    Kept (trace ++ [.made ptr observation]) after := by
  refine ⟨?_, ?_, ?_⟩
  · intro other found there
    by_cases same : other = ptr
    · exact same ▸ owned
    · rw [heap, Function.update_of_ne same] at there
      rcases kept.owned other found there with queued | ⟨sid, holds⟩
      · exact .inl (queue queued)
      · exact .inr ⟨sid, held sid other holds⟩
  · intro other
    have balance := kept.balance other
    rw [counts_snoc, counts_snoc, heap]
    by_cases same : other = ptr
    · subst same
      simp only [fresh.2, Option.isSome_none, Bool.false_eq_true, if_false] at balance
      simp [Label.news, Label.deletes, balance]
    · simp [Label.news, Label.deletes, Function.update_of_ne same, balance, Ne.symm same]
  · intro answer events member
    rcases List.mem_append.mp member with old | new
    · exact kept.returned answer events old
    · simp at new

theorem Kept.empties {answer : Except Stop Unit} {world : World} (kept : Kept trace control)
    (sound : Sound control)
    (ran : (EmptyQueue.emptyQueue (control.tunQueue.length + 2)).run control.world = (answer, world)) :
    Kept (trace ++ [.emptied answer world.events]) (control.after world) := by
  obtain ⟨returns, _, heap, gone, _⟩ := sound.empties ran
  refine ⟨?_, ?_, ?_⟩
  · intro ptr route there
    change world.heap ptr = some route at there
    rw [heap] at there
    split at there
    · cases there
    · rename_i away
      exact .inr ((kept.owned ptr route there).resolve_left away)
  · intro ptr
    have balance := kept.balance ptr
    rw [counts_snoc, counts_snoc]
    change _ + List.count ptr [] = _ + (world.events.filterMap deleted).count ptr +
      if (world.heap ptr).isSome then 1 else 0
    rw [gone.count_eq, heap]
    by_cases queued : ptr ∈ control.tunQueue
    · obtain ⟨route, there⟩ := sound.live ptr queued
      simp [there] at balance
      simp [queued, List.count_eq_one_of_mem sound.nodup queued, balance]
    · simp [queued, balance, List.count_eq_zero.mpr queued]
  · intro answer' events member
    rcases List.mem_append.mp member with old | new
    · exact kept.returned answer' events old
    · cases List.mem_singleton.mp new
      exact returns

theorem kept_preserved (kept : Kept trace control) (sound : Sound control)
    (told : Sessions.Told (trace.map Label.observation) sound.shown)
    (effect : Effect alloc control after label) : Kept (trace ++ [label]) after := by
  cases effect with
  | accepted | follows =>
    exact kept.still rfl (List.Subset.refl _) (fun sid ptr holds => .inr ⟨sid, holds⟩) (fun _ => rfl)
      (by simp)
  | leaks at' pc assigned fresh =>
    -- A session that registers has its address.
    have shape := told.at' at'
    simp [Sessions.Shape, pc, assigned] at shape
  | pushes at' pushing unheld fresh room =>
    exact kept.makes fresh rfl (List.subset_append_left ..) (fun _ _ holds => holds)
      (.inl (by simp [Control.put, Control.pushed]))
  | refuses =>
    exact kept.still rfl (List.Subset.refl _) (fun sid ptr holds => .inr ⟨sid, holds⟩) (fun _ => rfl)
      (by simp)
  | @holds sid session address ptr at' pc assigned unheld fresh full =>
    refine kept.makes fresh rfl (List.Subset.refl _) ?_ (.inr ⟨sid, Function.update_self ..⟩)
    intro holder other holds
    have differs : holder ≠ sid := by
      rintro rfl
      rw [unheld] at holds
      cases holds
    exact (Function.update_of_ne differs ..).trans holds
  | @retries sid session address ptr at' pc assigned held room =>
    refine kept.still rfl (List.subset_append_left ..) ?_ (fun _ => rfl) (by simp)
    intro holder other holds
    by_cases same : holder = sid
    · subst same
      obtain rfl : ptr = other := Option.some.inj (held.symm.trans holds)
      exact .inl (by simp [Control.put, Control.pushed])
    · exact .inr ⟨holder, (Function.update_of_ne same ..).trans holds⟩
  | waits =>
    exact kept.still rfl (List.Subset.refl _) (fun sid ptr holds => .inr ⟨sid, holds⟩) (fun _ => rfl)
      (by simp)
  | empties ran => exact kept.empties sound ran

theorem run_kept (run : (system alloc).Run trace control) : Kept trace control := by
  refine run.invariant ?_ ?_
  · rintro _ rfl
    exact ⟨by simp [machine], by simp [machine], by simp⟩
  · rintro trace before label after earlier kept ⟨event, stepped⟩
    obtain ⟨sound, below⟩ := run_shown earlier
    exact kept_preserved kept sound (Sessions.run_told below) (step_effect stepped)

/-- **Every route entry is deleted once, and nothing is read after that.** In every run,
wherever `new` puts the entries and however the sessions fail and wait: `emptyQueue` always
returns, having read and deleted nothing that was not there; the entries that are there are
those in the queue and those that a session holds which has yet to push its remove entry, each
in one place only; and of the entries made at a place all have been deleted but the one that
is there. -/
theorem entries_deleted_once (run : (system alloc).Run trace control) :
    (∀ answer events, .emptied answer events ∈ trace → answer = .ok ()) ∧
      (∀ ptr, (control.heap ptr).isSome ↔
        ptr ∈ control.tunQueue ∨ ∃ sid, control.route sid = some ptr) ∧
      control.tunQueue.Nodup ∧
      (∀ sid ptr, control.route sid = some ptr → ptr ∉ control.tunQueue ∧
        (∃ session, control.sessions[sid]? = some session ∧ session.pc = .unregistering) ∧
        ∀ other, control.route other = some ptr → other = sid) ∧
      ∀ ptr, (trace.flatMap Label.news).count ptr =
        (trace.flatMap Label.deletes).count ptr + if (control.heap ptr).isSome then 1 else 0 := by
  have kept := run_kept run
  obtain ⟨sound, _⟩ := run_shown run
  refine ⟨kept.returned, ?_, sound.nodup, ?_, kept.balance⟩
  · intro ptr
    constructor
    · intro there
      obtain ⟨route, found⟩ := Option.isSome_iff_exists.mp there
      exact kept.owned ptr route found
    · rintro (queued | ⟨sid, held⟩)
      · exact Option.isSome_iff_exists.mpr (sound.live ptr queued)
      · obtain ⟨_, _, _, _, _, _, found⟩ := sound.held held
        exact Option.isSome_iff_exists.mpr ⟨_, found⟩
  · intro sid ptr held
    obtain ⟨away, session, _, at', pc, _⟩ := sound.held held
    exact ⟨away, ⟨session, at', pc⟩, fun other held' => sound.apart held' held⟩

/-- Two entries of one session, made at the same place one after the other. -/
def reusedPlace : List (Event Nat) :=
  [.accept, .resume 0 (.other (.authenticated true)), .resume 0 (.other (.picks 1)),
    .resume 0 (.other .returns), .resume 0 (.allocates 1), .emptyQueue, .resume 0 (.other .throws),
    .resume 0 (.allocates 1)]

theorem entries_deleted_once_reused_place : ∃ trace control,
    (system Sessions.codeAllocator).Run trace control ∧ control.tunQueue = [1] ∧
      (trace.flatMap Label.news).count 1 = 2 ∧ (control.heap 1).isSome ∧
      (trace.flatMap Label.news).count 1 = (trace.flatMap Label.deletes).count 1 + 1 := by
  have run := Machine.replay_run
    (show (machine Sessions.codeAllocator).replay {} reusedPlace = some (_, _) from rfl)
  obtain ⟨_, there, _, _, balance⟩ := entries_deleted_once run
  exact ⟨_, _, run, rfl, rfl, (there 1).mpr (.inl (List.mem_singleton_self 1)), balance 1⟩

/-- **The pointers refine the entries.** In every run the sessions do, entry by entry, what
they do in a run of the machine without pointers, whose queue is the entries behind the
pointers in their order: what holds of all its runs holds here. -/
theorem entries_refine (run : (system alloc).Run trace control) :
    ∃ shown, (Sessions.system alloc).Run (trace.map Label.observation) shown ∧
      shown.tunQueue.entries = control.tunQueue.filterMap control.heap ∧
      shown.tunQueue.entries.length = control.tunQueue.length ∧
      shown.tunRouter = control.tunRouter ∧ shown.pool = control.pool ∧
      shown.sessions = control.sessions := by
  obtain ⟨sound, below⟩ := run_shown run
  exact ⟨sound.shown, below, rfl, sound.length_entries, rfl, rfl, rfl⟩

theorem entries_refine_reused_place : ∃ (trace : List Label) (shown : _),
    (Sessions.system Sessions.codeAllocator).Run (trace.map Label.observation) shown ∧
      shown.tunQueue.entries = [⟨false, ⟨0x0A7B0002⟩, 0, none⟩] := by
  have run := Machine.replay_run
    (show (machine Sessions.codeAllocator).replay {} reusedPlace = some (_, _) from rfl)
  obtain ⟨shown, below, entries, _⟩ := entries_refine run
  exact ⟨_, shown, below, entries⟩

end Vpverk.RouteLifetimes
