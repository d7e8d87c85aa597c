import Vpverk.CoroutineTriples
import Vpverk.Rejection
import Vpverk.Sessions

/-! The session machine and the coroutine it stands for. `startConnection` with its socket,
its ciphers and its loops does, from one await or throw point to the next, what a session of
the machine does: wherever it comes to its end or stops, steps of the machine lead there. -/
namespace Vpverk.SessionRefinement
open Addresses RouteQueue Coroutine Octets Asioapi Peer DataExchange Handshake Rejection Transition

/-- What is known where a coroutine stands: it and the session hold the same address, and the
same pool and queue are shared. -/
structure Stands (setup : Setup) (pc : Sessions.Pc) (world : Lifecycle) (control : Sessions.Control)
    (session : Sessions.Session) : Prop where
  at' : session.pc = pc
  connection : session.connection = setup.connection
  assignedAddress : session.assignedAddress = world.assignedAddress
  pool : control.pool = world.pool
  tunQueue : control.tunQueue = world.tunQueue
  /-- `make_shared` will return the pointer the setup names. -/
  allocates : pc = .handshake → control.allocated = setup.aes
  aes : pc = .obtaining ∨ pc = .sendingIp ∨ pc = .registering → session.aes = some setup.aes

/-- Steps of the machine lead to where the coroutine stands. -/
def At (setup : Setup) (start : Sessions.Control) (sid : Nat) (pc : Sessions.Pc) (world : Lifecycle) :
    Prop :=
  ∃ trace control session, (Sessions.system Sessions.codeAllocator).Steps start trace control ∧
    control.sessions = start.sessions.set sid session ∧ control.tunRouter = start.tunRouter ∧
    Stands setup pc world control session

/-- Inside the try block. -/
def InTry : Sessions.Pc → Prop
  | .unregistering | .erasing | .ended => False
  | _ => True

/-- Where the coroutine may be when an exception leaves the try block. -/
def Live (setup : Setup) (start : Sessions.Control) (sid : Nat) (world : Lifecycle) : Prop :=
  ∃ pc, InTry pc ∧ At setup start sid pc world

/-- Behind the catch block. -/
def Left (setup : Setup) (start : Sessions.Control) (sid : Nat) (world : Lifecycle) : Prop :=
  At setup start sid (if world.assignedAddress.isNone then .ended else .unregistering) world

variable {setup : Setup} {start : Sessions.Control} {sid : Nat} {pc next : Sessions.Pc}
  {world after : Lifecycle} {address : AddressV4}

/-! ### The steps of the machine -/

/-- A step of the session leads on. -/
theorem At.step (at' : At setup start sid pc world) (inside : sid < start.sessions.length)
    (goes : ∀ control session, Stands setup pc world control session →
      ∃ answer control' session' observation,
        Sessions.startConnection Sessions.codeAllocator control sid session answer =
          some (control', observation) ∧
        control'.sessions = control.sessions.set sid session' ∧
        control'.tunRouter = control.tunRouter ∧ Stands setup next after control' session') :
    At setup start sid next after := by
  obtain ⟨trace, control, session, steps, sessions, router, stands⟩ := at'
  obtain ⟨answer, control', session', observation, step, sessions', router', stands'⟩ :=
    goes control session stands
  have found : control.sessions[sid]? = some session := by
    rw [sessions, List.getElem?_set_self inside]
  have stepped : (Sessions.system Sessions.codeAllocator).step control observation control' :=
    ⟨.resume sid answer, by simp only [Sessions.machine, Sessions.step, found, step]⟩
  refine ⟨_, control', session', steps.next stepped, ?_, router'.trans router, stands'⟩
  rw [sessions', sessions, List.set_set]

/-- Where an exception leads. -/
theorem Live.leaves (live : Live setup start sid world) (inside : sid < start.sessions.length) :
    Left setup start sid world := by
  obtain ⟨pc, inTry, at'⟩ := live
  apply at'.step inside
  intro control session stands
  have throws : Sessions.startConnection Sessions.codeAllocator control sid session .throws =
      some (control.put sid { session with pc := session.leaveTry }, .quiet) := by
    have same := stands.at'
    cases pc <;> simp only [InTry] at inTry <;> simp [Sessions.startConnection, same]
  have leads : session.leaveTry = if world.assignedAddress.isNone then .ended else .unregistering := by
    rw [Sessions.Session.leaveTry, stands.assignedAddress]
  refine ⟨.throws, _, _, _, throws, rfl, rfl, leads, stands.connection, stands.assignedAddress,
    stands.pool, stands.tunQueue, ?_, ?_⟩
  · split <;> simp
  · split <;> simp

/-- A step that changes nothing that is shared. -/
theorem At.quiet (at' : At setup start sid pc world) (inside : sid < start.sessions.length)
    (returns : ∀ control session, session.pc = pc →
      Sessions.startConnection Sessions.codeAllocator control sid session .returns =
        some (control.put sid { session with pc := next }, .quiet))
    (unmade : next ≠ .handshake)
    (keyed : next = .obtaining ∨ next = .sendingIp ∨ next = .registering →
      pc = .obtaining ∨ pc = .sendingIp ∨ pc = .registering) :
    At setup start sid next world := by
  apply at'.step inside
  intro control session stands
  exact ⟨.returns, _, _, _, returns control session stands.at', rfl, rfl, rfl, stands.connection,
    stands.assignedAddress, stands.pool, stands.tunQueue, fun same => absurd same unmade,
    fun which => stands.aes (keyed which)⟩

theorem At.authenticated (at' : At setup start sid .handshake world) (inside : sid < start.sessions.length)
    (allowed : Bool) : At setup start sid (if allowed then .obtaining else .denied) world := by
  apply at'.step inside
  intro control session stands
  have pc := stands.at'
  have allocates := stands.allocates rfl
  cases allowed with
  | false =>
    exact ⟨.authenticated false, control.put sid { session with pc := .denied }, _, .quiet,
      by simp [Sessions.startConnection, pc], rfl, rfl, rfl, stands.connection,
      stands.assignedAddress, stands.pool, stands.tunQueue, by simp, by simp⟩
  | true =>
    exact ⟨.authenticated true, { control.put sid
        { session with pc := .obtaining, aes := some control.allocated } with
        allocated := control.allocated + 1 }, _, .quiet,
      by simp [Sessions.startConnection, pc], rfl, rfl, rfl, stands.connection,
      stands.assignedAddress, stands.pool, stands.tunQueue, by simp, by simp [allocates]⟩

theorem At.assigned {passes : Nat} {pool : AddressPool} (at' : At setup start sid .obtaining world)
    (inside : sid < start.sessions.length)
    (found : getNewAddress false passes world.pool = some (.returns (address, pool))) :
    At setup start sid .sendingIp { world with pool := pool, assignedAddress := some address } := by
  apply at'.step inside
  intro control session stands
  have pc := stands.at'
  have picked : Sessions.codeAllocator.pick passes control.pool = some (address, pool) := by
    simp [Sessions.codeAllocator, stands.pool, found]
  exact ⟨.picks passes, { control.put sid
      { session with pc := .sendingIp, assignedAddress := some address } with pool := pool }, _,
    .act sid (.obtain address), by simp [Sessions.startConnection, pc, picked], rfl, rfl, rfl,
    stands.connection, rfl, rfl, stands.tunQueue, by simp, fun _ => stands.aes (.inl rfl)⟩

/-- The add entry is pushed. -/
theorem At.pushed {tunQueue : RoutesQueue} (at' : At setup start sid .registering world)
    (inside : sid < start.sessions.length) (assigned : world.assignedAddress = some address)
    (pushes : world.tunQueue.tryPush ⟨true, address, setup.connection, some setup.aes⟩ = some tunQueue) :
    At setup start sid .exchanging { world with tunQueue := tunQueue } := by
  apply at'.step inside
  intro control session stands
  have pc := stands.at'
  have push : control.tunQueue.tryPush ⟨true, address, session.connection, session.aes⟩ =
      some tunQueue := by
    rw [stands.tunQueue, stands.connection, stands.aes (.inr (.inr rfl)), pushes]
  exact ⟨.returns, { control.put sid { session with pc := .exchanging } with tunQueue := tunQueue }, _,
    .act sid (.pushAdd address),
    by simp [Sessions.startConnection, pc, stands.assignedAddress, assigned, push], rfl, rfl, rfl,
    stands.connection, stands.assignedAddress, stands.pool, rfl, by simp, by simp⟩

/-- The queue is full. -/
theorem At.refused (at' : At setup start sid .registering world) (inside : sid < start.sessions.length)
    (assigned : world.assignedAddress = some address)
    (full : world.tunQueue.tryPush ⟨true, address, setup.connection, some setup.aes⟩ = none) :
    At setup start sid .refused world := by
  apply at'.step inside
  intro control session stands
  have pc := stands.at'
  have push : control.tunQueue.tryPush ⟨true, address, session.connection, session.aes⟩ = none := by
    rw [stands.tunQueue, stands.connection, stands.aes (.inr (.inr rfl)), full]
  exact ⟨.returns, control.put sid { session with pc := .refused }, _, .quiet,
    by simp [Sessions.startConnection, pc, stands.assignedAddress, assigned, push], rfl, rfl, rfl,
    stands.connection, stands.assignedAddress, stands.pool, stands.tunQueue, by simp, by simp⟩

/-- The remove entry is pushed. -/
theorem At.removed {tunQueue : RoutesQueue} (at' : At setup start sid .unregistering world)
    (inside : sid < start.sessions.length) (assigned : world.assignedAddress = some address)
    (pushes : world.tunQueue.tryPush ⟨false, address, setup.connection, none⟩ = some tunQueue) :
    At setup start sid .erasing { world with tunQueue := tunQueue } := by
  apply at'.step inside
  intro control session stands
  have pc := stands.at'
  have push : control.tunQueue.tryPush ⟨false, address, session.connection, none⟩ = some tunQueue := by
    rw [stands.tunQueue, stands.connection, pushes]
  exact ⟨.returns, { control.put sid { session with pc := .erasing } with tunQueue := tunQueue }, _,
    .act sid (.pushRemove address),
    by simp [Sessions.startConnection, pc, stands.assignedAddress, assigned, push], rfl, rfl, rfl,
    stands.connection, stands.assignedAddress, stands.pool, rfl, by simp, by simp⟩

/-- The address is erased. -/
theorem At.erased (at' : At setup start sid .erasing world) (inside : sid < start.sessions.length)
    (assigned : world.assignedAddress = some address) :
    At setup start sid .ended { world with pool := world.pool.release address } := by
  apply at'.step inside
  intro control session stands
  have pc := stands.at'
  exact ⟨.returns, { control.put sid { session with pc := .ended } with
      pool := control.pool.release address }, _, .act sid (.erase address),
    by simp [Sessions.startConnection, pc, stands.assignedAddress, assigned], rfl, rfl, rfl,
    stands.connection, stands.assignedAddress, congrArg (·.release address) stands.pool,
    stands.tunQueue, by simp, by simp⟩

/-! ### The coroutine -/

/-- What is done to the connection, the tun device or the log makes no difference. -/
theorem At.elsewhere (at' : At setup start sid pc world) (pool : after.pool = world.pool)
    (tunQueue : after.tunQueue = world.tunQueue)
    (assigned : after.assignedAddress = world.assignedAddress) : At setup start sid pc after := by
  obtain ⟨trace, control, session, steps, sessions, router, stands⟩ := at'
  exact ⟨trace, control, session, steps, sessions, router, stands.at', stands.connection,
    stands.assignedAddress.trans assigned.symm, stands.pool.trans pool.symm,
    stands.tunQueue.trans tunQueue.symm, stands.allocates, stands.aes⟩

/-- What a session that has an address knows where it stands. -/
def AtWith (setup : Setup) (start : Sessions.Control) (sid : Nat) (pc : Sessions.Pc) (address : AddressV4)
    (world : Lifecycle) : Prop :=
  At setup start sid pc world ∧ world.assignedAddress = some address

theorem onServer_at {α : Type} (inner : Coroutine Server α) (pc : Sessions.Pc) (inTry : InTry pc) :
    Ensures (At setup start sid pc) (Lifecycle.onServer inner) (fun _ => At setup start sid pc)
      fun _ => Live setup start sid :=
  ensures_within (fun _ _ at' => at'.elsewhere rfl rfl rfl) fun _ _ at' => ⟨pc, inTry, at'⟩

theorem onServer_atWith {α : Type} (inner : Coroutine Server α) (pc : Sessions.Pc) (inTry : InTry pc) :
    Ensures (AtWith setup start sid pc address) (Lifecycle.onServer inner)
      (fun _ => AtWith setup start sid pc address) fun _ => Live setup start sid :=
  ensures_within (fun _ _ holds => ⟨holds.1.elsewhere rfl rfl rfl, holds.2⟩)
    fun _ _ holds => ⟨pc, inTry, holds.1⟩

theorem assignAddress_ensures (inside : sid < start.sessions.length) :
    Ensures (At setup start sid .obtaining) (assignAddress setup)
      (fun address => AtWith setup start sid .sendingIp address) fun _ => Live setup start sid := by
  apply ensures_look_bind
  intro seen at'
  split
  · apply ensures_stop
    rintro _ rfl
    exact ⟨.obtaining, trivial, at'⟩
  · apply ensures_stop
    rintro _ rfl
    exact ⟨.obtaining, trivial, at'⟩
  · rename_i address pool found
    have assigns : Ensures (fun world => world = seen)
        (change fun world => { world with pool := pool, assignedAddress := some address })
        (fun _ => AtWith setup start sid .sendingIp address) fun _ => Live setup start sid := by
      apply ensures_change
      rintro _ rfl
      exact ⟨at'.assigned inside (getNewAddress_quiet found), rfl⟩
    exact assigns.bind fun _ => ensures_pure fun _ holds => holds

theorem pushRoute_ensures (inside : sid < start.sessions.length) (address : AddressV4) :
    Ensures (AtWith setup start sid .registering address) (pushRoute setup address)
      (fun _ => At setup start sid .exchanging) fun _ => Live setup start sid := by
  apply ensures_look_bind
  rintro seen ⟨at', assigned⟩
  split
  · rename_i tunQueue pushes
    apply ensures_change
    rintro _ rfl
    exact at'.pushed inside assigned pushes
  · rename_i full
    have writes : Ensures (fun world => world = seen)
        (Lifecycle.writeServ "failed to add pointer to atomic queue")
        (fun _ => At setup start sid .refused) fun _ => Live setup start sid := by
      apply ensures_change
      rintro _ rfl
      exact (at'.refused inside assigned full).elsewhere rfl rfl rfl
    apply writes.bind
    intro _
    apply (onServer_at _ .refused trivial).bind
    intro _
    exact ensures_stop fun _ refused => ⟨.refused, trivial, refused⟩

theorem register_ensures (inside : sid < start.sessions.length) (aes : AesSession) :
    Ensures (At setup start sid .obtaining) (register setup aes)
      (fun _ => At setup start sid .exchanging) fun _ => Live setup start sid := by
  apply (assignAddress_ensures inside).bind
  intro address
  apply (onServer_atWith _ .sendingIp trivial).bind
  intro aes'
  have sent : ∀ world, AtWith setup start sid .sendingIp address world →
      AtWith setup start sid .registering address world := by
    rintro world ⟨at', assigned⟩
    refine ⟨at'.quiet inside ?_ (by simp) (by simp), assigned⟩
    intro control session pc
    simp [Sessions.startConnection, pc]
  have pushes : Ensures (AtWith setup start sid .sendingIp address) (pushRoute setup address)
      (fun _ => At setup start sid .exchanging) fun _ => Live setup start sid :=
    (pushRoute_ensures inside address).begun sent
  exact pushes.bind fun _ => ensures_pure fun _ holds => holds

theorem tryBlock_ensures (inside : sid < start.sessions.length) :
    Ensures (At setup start sid .handshake) (tryBlock setup)
      (fun returned => At setup start sid (if returned then .denied else .exchanging))
      fun _ => Live setup start sid := by
  apply (onServer_at _ .handshake trivial).bind
  intro active
  apply (onServer_at _ .handshake trivial).bind
  intro aeskey
  apply (onServer_at _ .handshake trivial).bind
  rintro ⟨allowed, aeskey⟩
  have told : ∀ world, At setup start sid .handshake world →
      At setup start sid (if allowed then .obtaining else .denied) world :=
    fun world at' => at'.authenticated inside allowed
  dsimp only
  cases allowed with
  | false =>
    have closes : Ensures (At setup start sid .handshake)
        (Lifecycle.onCon (Connection.close (utf8 "Access denied")))
        (fun _ => At setup start sid .denied) fun _ => Live setup start sid :=
      (onServer_at _ .denied trivial).begun told
    exact closes.bind fun _ => ensures_pure fun _ holds => holds
  | true =>
    apply ((register_ensures inside aeskey).begun told).bind
    intro aes
    apply (onServer_at _ .exchanging trivial).bind
    intro normalDisconnect
    exact ensures_pure fun _ holds => holds

/-- Where the coroutine stands when it has not come to its end, and how that may be. -/
def Stopped (setup : Setup) (start : Sessions.Control) (sid : Nat) (how : Stop) (world : Lifecycle) :
    Prop :=
  (∀ what, how ≠ .throws what) ∧ ∃ pc, pc ≠ .ended ∧ At setup start sid pc world

theorem unregister_ensures (inside : sid < start.sessions.length) (address : AddressV4) :
    Ensures (AtWith setup start sid .unregistering address) (unregister setup address)
      (fun _ => At setup start sid .ended) (Stopped setup start sid) := by
  apply ensures_look_bind
  rintro seen ⟨at', assigned⟩
  split
  · apply ensures_stop
    rintro _ rfl
    exact ⟨by simp, .unregistering, by simp, at'⟩
  · rename_i tunQueue pushes
    have pushed : Ensures (fun world => world = seen)
        (change fun world => { world with tunQueue := tunQueue })
        (fun _ => AtWith setup start sid .erasing address) (Stopped setup start sid) := by
      apply ensures_change
      rintro _ rfl
      exact ⟨at'.removed inside assigned pushes, assigned⟩
    apply pushed.bind
    intro _
    exact ensures_change fun _ holds => holds.1.erased inside holds.2

theorem startConnection_ensures (inside : sid < start.sessions.length) :
    Ensures (At setup start sid .handshake) (startConnection setup)
      (fun _ => At setup start sid .ended) (Stopped setup start sid) := by
  have body : Ensures (At setup start sid .handshake) (tryBlock setup)
      (fun returned world => if returned then At setup start sid .ended world
        else Left setup start sid world) fun _ => Live setup start sid := by
    apply (tryBlock_ensures inside).weaken (fun _ at' => at') ?_ fun _ _ live => live
    intro returned world at'
    cases returned with
    | true =>
      apply At.quiet at' inside ?_ (by simp) (by simp)
      intro control session pc
      simp at pc
      simp [Sessions.startConnection, pc]
    | false => exact Live.leaves ⟨.exchanging, trivial, at'⟩ inside
  have caught : Ensures (At setup start sid .handshake)
      (tryCatch (tryBlock setup) fun what => do
        Lifecycle.writeServ ("exception in startConnection (lifecycle): " ++ what)
        pure false)
      (fun returned world => if returned then At setup start sid .ended world
        else Left setup start sid world) (Stopped setup start sid) := by
    apply ensures_tryCatch body
    · intro what
      have logs : Ensures (Live setup start sid)
          (Lifecycle.writeServ ("exception in startConnection (lifecycle): " ++ what))
          (fun _ => Left setup start sid) (Stopped setup start sid) :=
        ensures_change fun world live => (live.leaves inside).elsewhere rfl rfl rfl
      exact logs.bind fun _ => ensures_pure fun _ left => left
    · rintro how world quiet ⟨pc, inTry, at'⟩
      exact ⟨quiet, pc, by rintro rfl; exact inTry, at'⟩
  apply caught.bind
  intro returned
  cases returned with
  | true => exact ensures_pure fun _ holds => holds
  | false =>
    apply ensures_look_bind
    intro seen left
    have left : At setup start sid _ seen := left
    cases assigned : seen.assignedAddress with
    | none =>
      rw [assigned] at left
      apply ensures_pure
      rintro _ rfl
      exact left
    | some address =>
      rw [assigned] at left
      apply (unregister_ensures inside address).begun
      rintro _ rfl
      exact ⟨left, assigned⟩

/-- One session, accepted just now. -/
def oneAccepted : Sessions.Control where
  sessions := [{ connection := 0 }]
  allocated := 1

/-- A peer that sends a first header of 1 and then nothing. -/
def strangePeer : Lifecycle where
  server := { con := { socket := { arrivals := [.bytes ⟨[1, 0, 0, 0], by simp⟩] } } }

end Vpverk.SessionRefinement
