import Vpverk.ServerToClient
import Vpverk.Transition

/-! Which connection a packet goes to. The root loop of `routeTunToClients` reads
the tun device while sessions push route entries; what it writes to the connection
of a session is a matter of the packets for that session's address alone. -/
namespace Vpverk.Demultiplex
open Addresses RouteQueue Coroutine Octets Asioapi Peer DataExchange RouterIteration Transition
open ServerToClient

/-! ### Addresses in network order -/

/-- `to_bytes`. -/
def toBytes (address : AddressV4) : Bytes :=
  [(address.toUint >>> 24).toUInt8, (address.toUint >>> 16).toUInt8, (address.toUint >>> 8).toUInt8,
    address.toUint.toUInt8]

/-- Bytes 16 to 19. -/
def destination (packet : Packet) : Bytes := (packet.bytes.drop 16).take 4

variable {packet : Packet} {leftover : Nat → UInt8} {address : AddressV4}

/-- The first byte of a packet is its own. -/
theorem ipVersion_own : ipVersion packet.bytes leftover = ipVersion packet.bytes fun _ => 0 := by
  obtain ⟨bytes, nonempty, fits⟩ := packet
  cases bytes with
  | nil => exact absurd rfl nonempty
  | cons first rest => rfl

/-- Four bytes, the highest first, as one number. -/
theorem word_toNat (first second third fourth : UInt8) :
    ((first.toUInt32 <<< 24) ||| (second.toUInt32 <<< 16) ||| (third.toUInt32 <<< 8) |||
      fourth.toUInt32).toNat =
    256 * (256 * (256 * first.toNat + second.toNat) + third.toNat) + fourth.toNat := by
  have := first.toNat_lt
  have := second.toNat_lt
  have := third.toNat_lt
  have := fourth.toNat_lt
  have high : (first.toUInt32 <<< 24).toNat = 2 ^ 24 * first.toNat := by
    simp [Nat.shiftLeft_eq]
    omega
  have next : (second.toUInt32 <<< 16).toNat = 2 ^ 16 * second.toNat := by
    simp [Nat.shiftLeft_eq]
    omega
  have low : (third.toUInt32 <<< 8).toNat = 2 ^ 8 * third.toNat := by
    simp [Nat.shiftLeft_eq]
    omega
  -- The bytes do not overlap, so each `|||` is a sum.
  have two : 2 ^ 24 * first.toNat + 2 ^ 16 * second.toNat =
      2 ^ 16 * (2 ^ 8 * first.toNat + second.toNat) := by omega
  have three : 2 ^ 16 * (2 ^ 8 * first.toNat + second.toNat) + 2 ^ 8 * third.toNat =
      2 ^ 8 * (2 ^ 8 * (2 ^ 8 * first.toNat + second.toNat) + third.toNat) := by omega
  have base : 256 * (256 * (256 * first.toNat + second.toNat) + third.toNat) + fourth.toNat =
      2 ^ 8 * (2 ^ 8 * (2 ^ 8 * first.toNat + second.toNat) + third.toNat) + fourth.toNat := by omega
  rw [base]
  simp only [UInt32.toNat_or, high, next, low, UInt8.toNat_toUInt32]
  rw [← Nat.two_pow_add_eq_or_of_lt (by omega : 2 ^ 16 * second.toNat < 2 ^ 24), two,
    ← Nat.two_pow_add_eq_or_of_lt (by omega : 2 ^ 8 * third.toNat < 2 ^ 16), three,
    ← Nat.two_pow_add_eq_or_of_lt (by omega : fourth.toNat < 2 ^ 8)]

private theorem destination_eq (leftover : Nat → UInt8) (long : 20 ≤ packet.bytes.length) :
    destination packet = [byteAt packet.bytes leftover 16, byteAt packet.bytes leftover 17,
      byteAt packet.bytes leftover 18, byteAt packet.bytes leftover 19] := by
  have own : ∀ offset, (inside : offset < packet.bytes.length) →
      byteAt packet.bytes leftover offset = packet.bytes[offset] :=
    fun offset inside => by simp [byteAt, inside]
  rw [own 16 (by omega), own 17 (by omega), own 18 (by omega), own 19 (by omega), destination]
  apply List.ext_getElem (by simp; omega)
  intro index inside inside'
  simp only [List.getElem_take, List.getElem_drop]
  match index, inside' with
  | 0, _ | 1, _ | 2, _ | 3, _ => rfl

/-- The destination the router looks up is the address with the packet's bytes 16
to 19 in network order. -/
theorem dst_eq_iff (leftover : Nat → UInt8) (long : 20 ≤ packet.bytes.length) :
    dst packet.bytes leftover = address ↔ destination packet = toBytes address := by
  obtain ⟨word⟩ := address
  have small := word.toNat_lt
  rw [destination_eq leftover long, dst, toBytes, AddressV4.mk.injEq,
    ← UInt32.toNat_inj, word_toNat]
  generalize byteAt packet.bytes leftover 16 = first
  generalize byteAt packet.bytes leftover 17 = second
  generalize byteAt packet.bytes leftover 18 = third
  generalize byteAt packet.bytes leftover 19 = fourth
  have := first.toNat_lt
  have := second.toNat_lt
  have := third.toNat_lt
  have := fourth.toNat_lt
  simp only [List.cons.injEq, and_true, ← UInt8.toNat_inj, UInt32.toNat_toUInt8,
    UInt32.toNat_shiftRight, Nat.shiftRight_eq_div_pow]
  simp
  omega

/-! ### The root loop among the sessions -/

/-- The sessions, each with its own objects and the address it was given. An
address may be given out again; the objects are a session's own. -/
structure Registry (Session : Type) where
  con : Session → Ptr
  aes : Session → Ptr
  address : Session → AddressV4
  ownCon : Function.Injective con
  ownAes : Function.Injective aes

variable {Session : Type}

/-- The route of a session, as `emptyQueue` puts it into `tunRouter`. -/
def Registry.target (registry : Registry Session) (session : Session) : Target :=
  (registry.con session, some (registry.aes session))

/-- What `startConnection` pushes once the client has its address, and at its end. -/
def Registry.route (registry : Registry Session) (session : Session) (addOrRemove : Bool) : Route where
  addOrRemove := addOrRemove
  addr := registry.address session
  con := registry.con session
  aes := if addOrRemove then some (registry.aes session) else none

/-- What happens next: a session pushes an entry, or the root loop goes round once
with what `Tun::read` answers. -/
inductive Event (Session : Type) where
  | pushes (session : Session) (addOrRemove : Bool)
  | reads (result : TunRead) (leftover : Nat → UInt8)

inductive Label where
  | pushed (route : Route)
  /-- `try_push` finds the queue full. -/
  | full (route : Route)
  /-- What was read, and the router that it met. -/
  | read (result : TunRead) (tunRouter : Router)

/-- An iteration that does not come to its end is not a step. -/
def step (registry : Registry Session) (cipher : Cipher) (nested : Coroutine RouterWorld Unit)
    (passes : Nat) (world : RouterWorld) : Event Session → Option (RouterWorld × Label)
  | .pushes session addOrRemove =>
    let route := registry.route session addOrRemove
    match world.tunQueue.tryPush route with
    | some tunQueue => some ({ world with tunQueue := tunQueue }, .pushed route)
    | none => some (world, .full route)
  | .reads result leftover =>
    let reading := { world with tun := { world.tun with reads := [result] } }
    match (iteration false (AesSession.encrypt cipher) nested (passes + 1) leftover).run reading with
    | (.ok _, after) => some (after, .read result reading.emptied.tunRouter)
    | (.error _, _) => none

def machine (registry : Registry Session) (cipher : Cipher) (nested : Coroutine RouterWorld Unit)
    (passes : Nat) (start : RouterWorld) : Machine RouterWorld (Event Session) Label where
  initial := start
  step := step registry cipher nested passes

/-- An IPv4 packet for the address. -/
def AddressedTo (address : AddressV4) (packet : Packet) : Prop :=
  (ipVersion packet.bytes fun _ => 0) = 4 ∧ destination packet = toBytes address

instance (address : AddressV4) (packet : Packet) : Decidable (AddressedTo address packet) :=
  inferInstanceAs (Decidable (_ ∧ _))

/-- Timeouts, packets that are not IPv4, and IPv4 packets that have a destination. -/
def Event.Readable : Event Session → Prop
  | .pushes _ _ | .reads .timeout _ => True
  | .reads (.packet packet) _ => (ipVersion packet.bytes fun _ => 0) = 4 → 20 ≤ packet.bytes.length
  | .reads (.throws _) _ => False

/-- What a step is worth to a session: the frame of a packet for its address that
is read while its route is in the router. -/
def Registry.owed (registry : Registry Session) (session : Session) : Label → Bytes
  | .read (.packet packet) tunRouter =>
    if AddressedTo (registry.address session) packet ∧
        tunRouter.lookup (registry.address session) = some (registry.target session) then
      frame packet
    else []
  | _ => []

/-- The router serves: the write locks are free, the sockets do not fail, and
routes and entries are those of sessions. -/
structure Serving (registry : Registry Session) (world : RouterWorld) : Prop where
  going : world.stopRequested = false
  free : ∀ session, (world.connections (registry.con session)).writeLock = false
  healthy : ∀ session, (world.connections (registry.con session)).socket.Healthy
  routes : Router.All (fun a target => ∃ session, registry.address session = a ∧
    registry.target session = target) world.tunRouter
  entries : ∀ route ∈ world.tunQueue.entries, ∃ session addOrRemove,
    route = registry.route session addOrRemove

/-- Bytes have been written to the connection of a session, encrypted from where
its AES session stood. -/
structure Carried (registry : Registry Session) (cipher : Cipher) (session : Session)
    (before after : RouterWorld) (plain : Bytes) : Prop where
  aes : after.aesSessions (registry.aes session) =
    { before.aesSessions (registry.aes session) with
      encrypted := (before.aesSessions (registry.aes session)).encrypted + plain.length }
  sent : (after.connections (registry.con session)).socket.sent =
    (before.connections (registry.con session)).socket.sent ++
      mask (cipher (before.aesSessions (registry.aes session)).key
        (before.aesSessions (registry.aes session)).encryptIv)
        (before.aesSessions (registry.aes session)).encrypted plain

variable {registry : Registry Session} {cipher : Cipher} {nested : Coroutine RouterWorld Unit}
  {passes : Nat} {world mid after : RouterWorld} {session : Session} {plain plain' : Bytes}
  {event : Event Session}

theorem Carried.trans (first : Carried registry cipher session world mid plain)
    (second : Carried registry cipher session mid after plain') :
    Carried registry cipher session world after (plain ++ plain') where
  aes := by simp [second.aes, first.aes, Nat.add_assoc]
  sent := by rw [second.sent, first.sent, first.aes, mask_append, List.append_assoc]

/-- Nothing is written where nothing changes. -/
theorem Carried.still
    (aes : after.aesSessions (registry.aes session) = world.aesSessions (registry.aes session))
    (con : after.connections (registry.con session) = world.connections (registry.con session)) :
    Carried registry cipher session world after [] := ⟨by simp [aes], by simp [con]⟩

/-! ### One step -/

/-- What an event makes of the router and the queue, and what it shows: the rest of
the world has no say in it. -/
def Event.outcome (registry : Registry Session) (tunRouter : Router) (tunQueue : RoutesQueue) :
    Event Session → Label × Router × RoutesQueue
  | .pushes session addOrRemove =>
    match tunQueue.tryPush (registry.route session addOrRemove) with
    | some pushed => (.pushed (registry.route session addOrRemove), tunRouter, pushed)
    | none => (.full (registry.route session addOrRemove), tunRouter, tunQueue)
  | .reads result _ =>
    match emptyQueue tunRouter tunQueue with
    | some emptied => (.read result emptied.tunRouter, emptied.tunRouter, {})
    | none => (.read result tunRouter, tunRouter, tunQueue)

theorem emptied_eq (world : RouterWorld) :
    ∃ emptied, emptyQueue world.tunRouter world.tunQueue = some emptied ∧
      world.emptied = { world with tunRouter := emptied.tunRouter, tunQueue := {} } := by
  obtain ⟨emptied, ended⟩ := emptyQueue_returns world.tunRouter world.tunQueue
  exact ⟨emptied, ended, by simp [RouterWorld.emptied, ended]⟩

theorem Serving.emptied (serving : Serving registry world) : Serving registry world.emptied := by
  obtain ⟨emptied, ended, same⟩ := emptied_eq world
  rw [same]
  refine ⟨serving.going, serving.free, serving.healthy, ?_, by simp⟩
  refine emptyQueue_all serving.routes (fun route member add => ?_) ended
  obtain ⟨session, addOrRemove, rfl⟩ := serving.entries route member
  obtain rfl : addOrRemove = true := add
  exact ⟨session, rfl, rfl⟩

theorem addressedTo_iff (leftover : Nat → UInt8)
    (version : (ipVersion packet.bytes fun _ => 0) = 4) (long : 20 ≤ packet.bytes.length) :
    AddressedTo address packet ↔ dst packet.bytes leftover = address := by
  rw [dst_eq_iff leftover long, AddressedTo, and_iff_right version]

/-- How a packet fares that meets the router with its queue emptied. -/
structure Fares (registry : Registry Session) (cipher : Cipher) (world after : RouterWorld)
    (packet : Packet) : Prop where
  serving : Serving registry after
  tunRouter : after.tunRouter = world.tunRouter
  tunQueue : after.tunQueue = {}
  carried : ∀ session, Carried registry cipher session world after
    (registry.owed session (.read (.packet packet) world.tunRouter))

/-- A packet that nobody is owed is not for any route. -/
private theorem Fares.skipped (serving : Serving registry world) (queue : world.tunQueue = {})
    (stray : ∀ session, AddressedTo (registry.address session) packet →
      world.tunRouter.lookup (registry.address session) ≠ some (registry.target session)) :
    Fares registry cipher world world packet where
  serving := serving
  tunRouter := rfl
  tunQueue := queue
  carried session := by
    have nothing : registry.owed session (.read (.packet packet) world.tunRouter) = [] :=
      if_neg fun both => stray session both.1 both.2
    rw [nothing]
    exact .still rfl rfl

/-- A packet for the route of a session reaches that session, and no other. -/
private theorem Fares.forwarded (serving : Serving registry world)
    (version : (ipVersion packet.bytes fun _ => 0) = 4) (long : 20 ≤ packet.bytes.length)
    (routed : world.tunRouter.lookup (registry.address session) = some (registry.target session))
    (here : AddressedTo (registry.address session) packet)
    (sent : Sent cipher world after (registry.con session) (registry.aes session) (frame packet))
    (apart : Apart world after (registry.con session) (registry.aes session)) :
    Fares registry cipher world after packet := by
  refine ⟨⟨sent.ready.going, fun other => ?_, fun other => ?_, ?_, ?_⟩, sent.tunRouter,
    sent.ready.queue, fun other => ?_⟩
  · by_cases same : registry.con other = registry.con session
    · exact same ▸ sent.ready.free
    · exact apart.connections _ same ▸ serving.free other
  · by_cases same : registry.con other = registry.con session
    · exact same ▸ sent.ready.healthy
    · exact apart.connections _ same ▸ serving.healthy other
  · exact sent.tunRouter ▸ serving.routes
  · simp [sent.ready.queue]
  · by_cases same : other = session
    · subst same
      have owed : registry.owed other (.read (.packet packet) world.tunRouter) = frame packet :=
        if_pos ⟨here, routed⟩
      rw [owed]
      exact ⟨sent.session, sent.sent⟩
    · have nothing : registry.owed other (.read (.packet packet) world.tunRouter) = [] := by
        apply if_neg
        rintro ⟨also, routed'⟩
        apply same
        apply registry.ownCon
        have one : registry.address other = registry.address session :=
          ((addressedTo_iff (fun _ => 0) version long).mp also).symm.trans
            ((addressedTo_iff _ version long).mp here)
        rw [one, routed] at routed'
        exact (Prod.mk.inj (Option.some.inj routed')).1.symm
      rw [nothing]
      exact .still (apart.aesSessions _ fun clash => same (registry.ownAes clash))
        (apart.connections _ fun clash => same (registry.ownCon clash))

/-- What `routePacket` does with a packet. -/
theorem routePacket_fares (cipher : Cipher) (nested : Coroutine RouterWorld Unit) (passes : Nat)
    (leftover : Nat → UInt8) (serving : Serving registry world) (queue : world.tunQueue = {})
    (readable : (ipVersion packet.bytes fun _ => 0) = 4 → 20 ≤ packet.bytes.length) :
    ∃ handled after, (routePacket false (AesSession.encrypt cipher) nested (passes + 1) leftover
        packet.bytes).run world = (.ok handled, after) ∧ Fares registry cipher world after packet := by
  by_cases version : (ipVersion packet.bytes fun _ => 0) = 4
  · have long := readable version
    cases found : world.tunRouter.lookup (dst packet.bytes leftover) with
    | none =>
      refine ⟨.skipped, world, ?_, .skipped serving queue fun session addressed => ?_⟩
      · rw [routePacket, if_neg (by simp [ipVersion_own, version]), if_neg (by simp), bind_look_run,
          found]
        rfl
      · rw [← (addressedTo_iff leftover version long).mp addressed, found]
        simp
    | some target =>
      obtain ⟨session, own, rfl⟩ := serving.routes _ _ found
      have here : AddressedTo (registry.address session) packet :=
        (addressedTo_iff _ version long).mpr own.symm
      have routed : world.tunRouter.lookup (registry.address session) =
          some (registry.target session) := own ▸ found
      obtain ⟨after, ran, sent, _, apart⟩ := routePacket_forwards cipher nested passes
        ⟨serving.going, queue, serving.free session, serving.healthy session⟩
        (ipVersion_own.trans version) found
      exact ⟨_, after, ran, .forwarded serving version long routed here sent apart⟩
  · refine ⟨.skipped, world, ?_, .skipped serving queue fun _ addressed => absurd addressed.1 version⟩
    rw [routePacket, if_pos (by rwa [ipVersion_own])]
    rfl

/-- The same world with another read before it. -/
private theorem Serving.reading (serving : Serving registry world) (tun : Peer.Tun) :
    Serving registry { world with tun := tun } :=
  ⟨serving.going, serving.free, serving.healthy, serving.routes, serving.entries⟩

/-- How a step comes out. -/
structure Serves (registry : Registry Session) (cipher : Cipher) (event : Event Session)
    (world after : RouterWorld) (label : Label) : Prop where
  serving : Serving registry after
  outcome : (label, after.tunRouter, after.tunQueue) =
    event.outcome registry world.tunRouter world.tunQueue
  carried : ∀ session, Carried registry cipher session world after (registry.owed session label)

/-- A push writes to nobody. -/
private theorem step_pushes (cipher : Cipher) (nested : Coroutine RouterWorld Unit) (passes : Nat)
    (addOrRemove : Bool) (serving : Serving registry world) :
    ∃ after label, step registry cipher nested passes world (.pushes session addOrRemove) =
        some (after, label) ∧
      Serves registry cipher (.pushes session addOrRemove) world after label := by
  cases pushed : world.tunQueue.tryPush (registry.route session addOrRemove) with
  | some tunQueue =>
    refine ⟨{ world with tunQueue := tunQueue }, .pushed (registry.route session addOrRemove),
      by simp [step, pushed], ⟨?_, ?_, ?_⟩⟩
    · refine ⟨serving.going, serving.free, serving.healthy, serving.routes, fun route member => ?_⟩
      rw [RoutesQueue.tryPush_entries pushed] at member
      rcases List.mem_append.mp member with old | new
      · exact serving.entries route old
      · exact ⟨session, addOrRemove, List.mem_singleton.mp new⟩
    · simp [Event.outcome, pushed]
    · exact fun other => .still rfl rfl
  | none =>
    refine ⟨world, .full (registry.route session addOrRemove), by simp [step, pushed],
      ⟨serving, by simp [Event.outcome, pushed], ?_⟩⟩
    exact fun other => .still rfl rfl

/-- A timeout empties the queue. -/
private theorem iteration_timeout {encrypt : Encrypt} {leftover : Nat → UInt8} {rest : List TunRead}
    (next : world.tun.reads = .timeout :: rest) :
    (iteration false encrypt nested passes leftover).run world =
      (.ok .timeout, { world with tun := { world.tun with reads := rest } }.emptied) := by
  have read : Tun.read.run world.tun = (.ok [], { world.tun with reads := rest }) := by
    simp [Tun.read, next]
  rw [iteration, bind_ok (RouterWorld.onTun_run read), bind_ok (cussert_run _ (by simp)),
    bind_ok callEmptyQueue_run, if_pos rfl]
  rfl

/-- A pass of the root loop empties the queue and writes the packet to the session
it is for. -/
private theorem step_reads (cipher : Cipher) (nested : Coroutine RouterWorld Unit) (passes : Nat)
    (result : TunRead) (leftover : Nat → UInt8) (serving : Serving registry world)
    (readable : (Event.reads result leftover : Event Session).Readable) :
    ∃ after label, step registry cipher nested passes world (.reads result leftover) =
        some (after, label) ∧
      Serves registry cipher (.reads result leftover) world after label := by
  obtain ⟨emptied, ended, _⟩ := emptied_eq world
  -- Whatever the device holds, the queue is emptied alike.
  have cleared : ∀ tun : Peer.Tun, { world with tun := tun }.emptied =
      { world with tun := tun, tunRouter := emptied.tunRouter, tunQueue := {} } := fun tun => by
    simp [RouterWorld.emptied, ended]
  have serving' : ∀ tun : Peer.Tun, Serving registry { world with tun := tun }.emptied :=
    fun tun => (serving.reading tun).emptied
  cases result with
  | throws => exact readable.elim
  | timeout =>
    refine ⟨{ world with tun := { world.tun with reads := [] } }.emptied,
      .read .timeout emptied.tunRouter, ?_, ⟨serving' _, ?_, fun session => ?_⟩⟩
    · dsimp only [step]
      rw [iteration_timeout rfl]
      simp [cleared]
    · simp [cleared, Event.outcome, ended]
    · exact .still (by rw [cleared]) (by rw [cleared])
  | packet packet =>
    obtain ⟨handled, after, ran, fares⟩ := routePacket_fares cipher nested passes leftover
      (serving' { world.tun with reads := [] }) (by rw [cleared]) readable
    refine ⟨after, .read (.packet packet) emptied.tunRouter, ?_, ⟨fares.serving, ?_, fun session => ?_⟩⟩
    · dsimp only [step]
      rw [iteration_packet rfl, ran]
      simp [cleared]
    · simp [fares.tunRouter, fares.tunQueue, cleared, Event.outcome, ended]
    · have here : Carried registry cipher session world
          { world with tun := { world.tun with reads := [] } }.emptied [] :=
        .still (by rw [cleared]) (by rw [cleared])
      simpa [cleared] using here.trans (fares.carried session)

theorem step_serves (cipher : Cipher) (nested : Coroutine RouterWorld Unit) (passes : Nat)
    (serving : Serving registry world) (readable : event.Readable) :
    ∃ after label, step registry cipher nested passes world event = some (after, label) ∧
      Serves registry cipher event world after label := by
  cases event with
  | pushes session addOrRemove => exact step_pushes cipher nested passes addOrRemove serving
  | reads result leftover => exact step_reads cipher nested passes result leftover serving readable

/-! ### Runs -/

/-- What the events show from a router and a queue on. -/
def labels (registry : Registry Session) : Router → RoutesQueue → List (Event Session) → List Label
  | _, _, [] => []
  | tunRouter, tunQueue, event :: rest =>
    let (label, tunRouter, tunQueue) := event.outcome registry tunRouter tunQueue
    label :: labels registry tunRouter tunQueue rest

/-- Whatever is read and pushed, the loop goes on. -/
theorem replay_serves (cipher : Cipher) (nested : Coroutine RouterWorld Unit) (passes : Nat)
    (start : RouterWorld) (serving : Serving registry world) (events : List (Event Session))
    (readable : ∀ event ∈ events, event.Readable) :
    ∃ finish, (machine registry cipher nested passes start).replay world events =
        some (labels registry world.tunRouter world.tunQueue events, finish) ∧
      ∀ session, Carried registry cipher session world finish
        ((labels registry world.tunRouter world.tunQueue events).flatMap (registry.owed session)) := by
  induction events generalizing world with
  | nil => exact ⟨world, rfl, fun session => .still rfl rfl⟩
  | cons event rest ih =>
    obtain ⟨first, later⟩ := List.forall_mem_cons.mp readable
    obtain ⟨mid, label, stepped, serves⟩ := step_serves cipher nested passes serving first
    obtain ⟨finish, replayed, carried⟩ := ih serves.serving later
    rw [labels, ← serves.outcome]
    refine ⟨finish, ?_, fun session => (serves.carried session).trans (carried session)⟩
    simp only [Machine.replay, machine] at replayed ⊢
    rw [stepped]
    dsimp only
    rw [replayed]

/-! ### Two runs -/

/-- What two runs may differ in when they are the same to an address: a packet for
it comes in both or in neither. -/
inductive Alike (address : AddressV4) : Event Session → Event Session → Prop where
  | same (event : Event Session) : Alike address event event
  | others (result result' : TunRead) (leftover leftover' : Nat → UInt8)
      (notHere : ∀ packet, result = .packet packet → ¬ AddressedTo address packet)
      (notHere' : ∀ packet, result' = .packet packet → ¬ AddressedTo address packet) :
      Alike address (.reads result leftover) (.reads result' leftover')

private theorem owed_other {result : TunRead} {tunRouter : Router}
    (notHere : ∀ packet, result = .packet packet →
      ¬ AddressedTo (registry.address session) packet) :
    registry.owed session (.read result tunRouter) = [] := by
  cases result with
  | packet packet => exact if_neg fun both => notHere packet rfl both.1
  | timeout | throws => rfl

theorem Alike.labels {events others : List (Event Session)} (tunRouter : Router)
    (tunQueue : RoutesQueue)
    (alike : List.Forall₂ (Alike (registry.address session)) events others) :
    (Demultiplex.labels registry tunRouter tunQueue events).flatMap (registry.owed session) =
      (Demultiplex.labels registry tunRouter tunQueue others).flatMap (registry.owed session) := by
  induction alike generalizing tunRouter tunQueue with
  | nil => rfl
  | cons here _ ih =>
    cases here with
    | same event => simp only [Demultiplex.labels, List.flatMap_cons, ih]
    | others result result' _ _ notHere notHere' =>
      obtain ⟨emptied, ended⟩ := emptyQueue_returns tunRouter tunQueue
      simp only [Demultiplex.labels, Event.outcome, ended, List.flatMap_cons, ih, owed_other notHere,
        owed_other notHere']

/-- **Every packet goes to the client it is for.** Whatever `Tun::read` answers and
whatever entries the sessions push, the root loop goes on; and what is written to
the connection of a session is the encryption, from where its keystream stood, of
the frames of the packets for its address that were read while its route was in
`tunRouter`, in the order they were read. Two runs that differ only in what is read
for others write the same to that connection. -/
theorem demultiplexed (registry : Registry Session) (cipher : Cipher)
    (nested : Coroutine RouterWorld Unit) (passes : Nat) (start : RouterWorld)
    (serving : Serving registry start) (events : List (Event Session))
    (readable : ∀ event ∈ events, event.Readable) :
    ∃ trace finish,
      (machine registry cipher nested passes start).replay start events = some (trace, finish) ∧
      (∀ session, (finish.connections (registry.con session)).socket.sent =
        (start.connections (registry.con session)).socket.sent ++
          mask (cipher (start.aesSessions (registry.aes session)).key
            (start.aesSessions (registry.aes session)).encryptIv)
            (start.aesSessions (registry.aes session)).encrypted
            (trace.flatMap (registry.owed session))) ∧
      ∀ session others trace' finish', (∀ event ∈ others, event.Readable) →
        List.Forall₂ (Alike (registry.address session)) events others →
        (machine registry cipher nested passes start).replay start others = some (trace', finish') →
        (finish'.connections (registry.con session)).socket.sent =
          (finish.connections (registry.con session)).socket.sent := by
  obtain ⟨finish, replayed, carried⟩ := replay_serves cipher nested passes start serving events readable
  refine ⟨_, finish, replayed, fun session => (carried session).sent, ?_⟩
  intro session others trace' finish' readable' alike replayed'
  obtain ⟨finish'', again, carried'⟩ :=
    replay_serves cipher nested passes start serving others readable'
  obtain ⟨rfl, rfl⟩ : _ ∧ finish'' = finish' := by simpa using again.symm.trans replayed'
  rw [(carried session).sent, (carried' session).sent, Alike.labels _ _ alike]

/-- Two sessions, with 10.123.0.2 and 10.123.0.3. -/
def twoSessions : Registry Bool where
  con session := session.toNat
  aes session := session.toNat
  address session := ⟨0x0A7B0002 + if session then 1 else 0⟩
  ownCon := by rintro ⟨⟩ ⟨⟩ same <;> simp_all
  ownAes := by rintro ⟨⟩ ⟨⟩ same <;> simp_all

/-- Before anything is read. -/
def idleRouter : RouterWorld where
  aesSessions := fun _ => ⟨[], [], [], 0, 0⟩

theorem demultiplexed_two_sessions :
    ∃ trace finish, (machine twoSessions countingCipher running 0 idleRouter).replay idleRouter
        [.pushes false true, .pushes true true, .reads (.packet ipv4Packet) fun _ => 0] =
          some (trace, finish) ∧
      (finish.connections 0).socket.sent =
        mask (countingCipher [] []) 0 ([20, 0, 0, 0] ++ ipv4Packet.bytes) ∧
      (finish.connections 1).socket.sent = [] := by
  have healthy : Socket.Healthy {} := ⟨rfl, by simp, by simp, rfl⟩
  obtain ⟨trace, finish, replayed, sent, _⟩ := demultiplexed twoSessions countingCipher running 0
    idleRouter ⟨rfl, fun _ => rfl, fun _ => healthy, by simp [Router.All, idleRouter], by simp [idleRouter]⟩
    [.pushes false true, .pushes true true, .reads (.packet ipv4Packet) fun _ => 0]
    (by simp [Event.Readable, ipv4Packet])
  refine ⟨trace, finish, replayed, ?_, ?_⟩
  · cases replayed.symm.trans (rfl : (machine twoSessions countingCipher running 0 idleRouter).replay
      idleRouter _ = _)
    exact sent false
  · cases replayed.symm.trans (rfl : (machine twoSessions countingCipher running 0 idleRouter).replay
      idleRouter _ = _)
    exact sent true

end Vpverk.Demultiplex
