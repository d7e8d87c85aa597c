import Vpverk.DataExchange
import Vpverk.RouteQueue

/-! `routeTunToClients` as one coroutine sees it: an iteration of its loop, from
the read of the tun device to the packet's end, and the loop. The diagnostic
block and the entry assertion are kept behind switches, so that the code can be
read as written and with them removed. -/
namespace Vpverk.RouterIteration
open Addresses RouteQueue Coroutine Octets Asioapi Peer

/-- What `routeTunToClients` works on, with the objects its pointers lead to. -/
structure RouterWorld where
  tun : Tun := {}
  tunRouter : Router := ∅
  tunQueue : RoutesQueue := {}
  connections : Ptr → Connection := fun _ => {}
  aesSessions : Ptr → AesSession
  stopRequested : Bool := false

def RouterWorld.onTun {α : Type} (inner : Coroutine Tun α) : Coroutine RouterWorld α :=
  within RouterWorld.tun (fun tun world => { world with tun := tun }) inner

def RouterWorld.onConnection {α : Type} (con : Ptr) (inner : Coroutine Connection α) :
    Coroutine RouterWorld α :=
  within (fun world => world.connections con)
    (fun changed world =>
      { world with connections := Function.update world.connections con changed }) inner

theorem RouterWorld.onTun_run {α : Type} {inner : Coroutine Tun α} {world : RouterWorld}
    {answer : Except Stop α} {tun : Tun} (ran : inner.run world.tun = (answer, tun)) :
    (RouterWorld.onTun inner).run world = (answer, { world with tun := tun }) :=
  within_run ran

theorem RouterWorld.onConnection_run {α : Type} {con : Ptr} {inner : Coroutine Connection α}
    {world : RouterWorld} {answer : Except Stop α} {changed : Connection}
    (ran : inner.run (world.connections con) = (answer, changed)) :
    (RouterWorld.onConnection con inner).run world =
      (answer, { world with connections := Function.update world.connections con changed }) :=
  within_run ran

/-- `aes->encrypt` into a buffer of the given size. -/
abbrev Encrypt := AesSession → Bytes → Nat → Except ErrorCode (Bytes × AesSession)

/-- How an iteration ends. -/
inductive Handled where
  | timeout
  | skipped
  | forwarded (con : Ptr)
  | closed (con : Ptr)
  deriving DecidableEq, Repr

/-- The bytes of `buffer` behind the size: what the read has put there, and what
was there before. -/
def byteAt (packet : Bytes) (leftover : Nat → UInt8) (offset : Nat) : UInt8 :=
  packet.getD offset (leftover offset)

/-- `ip_version`. -/
def ipVersion (packet : Bytes) (leftover : Nat → UInt8) : UInt8 :=
  (byteAt packet leftover 0 &&& 0xf0) >>> 4

/-- `dst`, read in network order. -/
def dst (packet : Bytes) (leftover : Nat → UInt8) : AddressV4 :=
  ⟨((byteAt packet leftover 16).toUInt32 <<< 24) ||| ((byteAt packet leftover 17).toUInt32 <<< 16) |||
    ((byteAt packet leftover 18).toUInt32 <<< 8) ||| (byteAt packet leftover 19).toUInt32⟩

/-- The text the diagnostic block picks from the last two bytes of `dst`. -/
def diagnostic2 (packet : Bytes) (leftover : Nat → UInt8) : String :=
  if byteAt packet leftover 18 = 10 ∧ byteAt packet leftover 19 = 123 then "like this2"
  else "not like this2"

def setWriteLock (con : Ptr) (held : Bool) : Coroutine RouterWorld Unit :=
  RouterWorld.onConnection con (change fun changed => { changed with writeLock := held })

/-- The loop that takes the write lock, at most `passes` times round: while it is
held, the router is entered again. -/
def takeWriteLock (nested : Coroutine RouterWorld Unit) (con : Ptr) :
    Nat → Coroutine RouterWorld Unit
  | 0 => running
  | passes + 1 => do
    if ((← look).connections con).writeLock then
      nested
      takeWriteLock nested con passes
    else setWriteLock con true

/-- What is done under the write lock. It is given back before `close`. -/
def forward (encrypt : Encrypt) (con aes : Ptr) (packetWithBounds : Bytes) :
    Coroutine RouterWorld Handled := do
  match encrypt ((← look).aesSessions aes) packetWithBounds packetWithBounds.length with
  | .error _ =>
    setWriteLock con false
    RouterWorld.onConnection con (Connection.close (utf8 "server failed to encrypt"))
    pure (.closed con)
  | .ok (encrypted, session) =>
    change fun world => { world with aesSessions := Function.update world.aesSessions aes session }
    match ← RouterWorld.onConnection con (Connection.onSocket (send encrypted)) with
    | .error _ =>
      setWriteLock con false
      RouterWorld.onConnection con (Connection.close (utf8 "server failed to send"))
      pure (.closed con)
    | .ok () =>
      setWriteLock con false
      pure (.forwarded con)

/-- The call of `emptyQueue`. -/
def callEmptyQueue : Coroutine RouterWorld Unit := do
  let world ← look
  match emptyQueue world.tunRouter world.tunQueue with
  | none => running
  | some emptied => change fun world => { world with tunRouter := emptied.tunRouter, tunQueue := {} }

/-- What becomes of a packet that was read. -/
def routePacket (diagnostics : Bool) (encrypt : Encrypt) (nested : Coroutine RouterWorld Unit)
    (passes : Nat) (leftover : Nat → UInt8) (packet : Bytes) : Coroutine RouterWorld Handled := do
  if ipVersion packet leftover ≠ 4 then pure .skipped
  else if diagnostics then abort (diagnostic2 packet leftover)
  else
    match (← look).tunRouter.lookup (dst packet leftover) with
    | none => pure .skipped
    | some (_, none) => stop .undefined
    | some (con, some aes) =>
      takeWriteLock nested con passes
      forward encrypt con aes (encode packet.length.toUInt32 ++ packet)

/-- One iteration of the loop of `routeTunToClients`. -/
def iteration (diagnostics : Bool) (encrypt : Encrypt) (nested : Coroutine RouterWorld Unit)
    (passes : Nat) (leftover : Nat → UInt8) : Coroutine RouterWorld Handled := do
  let packet ← RouterWorld.onTun Tun.read
  cussert (packet.length ≤ maxPacket) "got_packet_size <= max_possible_size_on_tun"
  callEmptyQueue
  if packet = [] then pure .timeout
  else routePacket diagnostics encrypt nested passes leftover packet

/-- The loop of `routeTunToClients`, at most `passes` times round; without
`use_loop` it ends with the first packet it has forwarded. -/
def routeLoop (diagnostics : Bool) (encrypt : Encrypt) (nested : Coroutine RouterWorld Unit)
    (leftover : Nat → Nat → UInt8) (useLoop : Bool) : Nat → Coroutine RouterWorld Unit
  | 0 => running
  | passes + 1 => do
    if (← look).stopRequested then pure ()
    else
      match ← iteration diagnostics encrypt nested passes (leftover passes) with
      | .forwarded _ =>
        if useLoop then routeLoop diagnostics encrypt nested leftover useLoop passes else pure ()
      | .timeout | .skipped | .closed _ =>
        routeLoop diagnostics encrypt nested leftover useLoop passes

/-! ### An iteration up to the packet -/

variable {diagnostics : Bool} {encrypt : Encrypt} {nested : Coroutine RouterWorld Unit}
  {passes : Nat} {leftover : Nat → UInt8} {world : RouterWorld} {packet : Packet}
  {rest : List TunRead}

/-- What `emptyQueue` makes of the router. -/
def RouterWorld.emptied (world : RouterWorld) : RouterWorld :=
  match emptyQueue world.tunRouter world.tunQueue with
  | none => world
  | some emptied => { world with tunRouter := emptied.tunRouter, tunQueue := {} }

theorem callEmptyQueue_run : callEmptyQueue.run world = (.ok (), world.emptied) := by
  obtain ⟨emptied, ended⟩ := emptyQueue_returns world.tunRouter world.tunQueue
  rw [callEmptyQueue, bind_look_run, RouterWorld.emptied, ended]
  rfl

/-- A packet that is read is routed after the queue has been emptied. -/
theorem iteration_packet (next : world.tun.reads = .packet packet :: rest) :
    (iteration diagnostics encrypt nested passes leftover).run world =
      (routePacket diagnostics encrypt nested passes leftover packet.bytes).run
        { world with tun := { world.tun with reads := rest } }.emptied := by
  have read : Tun.read.run world.tun = (.ok packet.bytes, { world.tun with reads := rest }) := by
    simp [Tun.read, next]
  rw [iteration, bind_ok (RouterWorld.onTun_run read),
    bind_ok (cussert_run _ (decide_eq_true packet.fits)), bind_ok callEmptyQueue_run,
    if_neg packet.nonempty]

/-- An iteration that comes to its end leaves the root loop where it goes on. -/
theorem routeLoop_next {leftover : Nat → Nat → UInt8} {handled : Handled} {after : RouterWorld}
    (going : world.stopRequested = false)
    (ran : (iteration diagnostics encrypt nested passes (leftover passes)).run world =
      (.ok handled, after)) :
    (routeLoop diagnostics encrypt nested leftover true (passes + 1)).run world =
      (routeLoop diagnostics encrypt nested leftover true passes).run after := by
  rw [routeLoop, bind_look_run, if_neg (by simp [going]), bind_ok ran]
  cases handled <;> rfl

/-- **As written, normal traffic aborts the server.** `getNewAddress` never
returns: its first pass ends in `cuabort`. An iteration that has read a packet
ends by skipping, forwarding or closing exactly if the packet is not IPv4, and
every IPv4 packet ends in `cuabort`. -/
theorem traffic_aborts (loops : Nat) (pool : AddressPool) (encrypt : Encrypt)
    (nested : Coroutine RouterWorld Unit) (passes : Nat) (leftover : Nat → UInt8)
    (world : RouterWorld) (packet : Packet) (rest : List TunRead)
    (next : world.tun.reads = .packet packet :: rest) :
    (∃ info, getNewAddress true (loops + 1) pool = some (.aborts info)) ∧
    ((∃ handled world', (iteration true encrypt nested passes leftover).run world =
        (.ok handled, world')) ↔ ipVersion packet.bytes leftover ≠ 4) ∧
    ((∃ info world', (iteration true encrypt nested passes leftover).run world =
        (.error (.aborts info), world')) ↔ ipVersion packet.bytes leftover = 4) := by
  refine ⟨⟨_, getNewAddress_aborts loops pool⟩, ?_⟩
  rw [iteration_packet next, routePacket]
  by_cases version : ipVersion packet.bytes leftover = 4
  · simp [version]
  · simp [version]

/-- A packet whose first byte says IPv6. -/
def ipv6Packet : Packet := ⟨[0x60], by simp, by decide⟩

/-- A router that is about to read the packet. -/
def reading (packet : Packet) : RouterWorld where
  tun := { reads := [.packet packet] }
  aesSessions := fun _ => ⟨[], [], [], 0, 0⟩

theorem traffic_aborts_ipv6 :
    ∃ handled world', (iteration true (AesSession.encrypt fun _ _ _ => 0) running 1
      (fun _ => 0)).run (reading ipv6Packet) = (.ok handled, world') :=
  (traffic_aborts 0 {} _ running 1 (fun _ => 0) (reading ipv6Packet) ipv6Packet [] rfl).2.1.mpr
    (by decide)

/-- An IPv4 packet for 10.123.0.2. -/
def ipv4Packet : Packet :=
  ⟨[0x45, 0, 0, 20, 0, 0, 0, 0, 64, 17, 0, 0, 10, 123, 0, 1, 10, 123, 0, 2], by simp, by decide⟩

/-- The first client that is let in, and a first packet, abort the server. -/
theorem first_traffic_aborts :
    getNewAddress true 1 {} = some (.aborts "like this") ∧
    ∃ world', (iteration true (AesSession.encrypt fun _ _ _ => 0) running 1 (fun _ => 0)).run
      (reading ipv4Packet) = (.error (.aborts "not like this2"), world') :=
  ⟨rfl, _, rfl⟩

end Vpverk.RouterIteration
