import Vpverk.RouterIteration

/-! The way from the server's tun device to the client's: `routeTunToClients`
against the client's `startSocketRead`. The router frames and encrypts as the
client expects it to; the client's check of the size is the wrong way round. -/
namespace Vpverk.ServerToClient
open Addresses RouteQueue Coroutine Octets Asioapi Peer ClientLoops DataExchange RouterIteration

variable {cipher : Cipher} {world mid after : RouterWorld} {con aes : Ptr} {packet : Packet}
  {nested : Coroutine RouterWorld Unit} {passes : Nat} {plain plain' : Bytes}

/-- An IPv4 packet, long enough to hold its destination, that the router leads to
one connection and AES session. -/
structure Addressed (tunRouter : Router) (con aes : Ptr) (packet : Packet) : Prop where
  long : 20 ≤ packet.bytes.length
  version : ∀ leftover, ipVersion packet.bytes leftover = 4
  routed : ∀ leftover, tunRouter.lookup (dst packet.bytes leftover) = some (con, some aes)

/-- A router that can forward to a connection: nothing is queued, its write lock
is free and its socket does not fail. -/
structure Ready (world : RouterWorld) (con : Ptr) : Prop where
  going : world.stopRequested = false
  queue : world.tunQueue = {}
  free : (world.connections con).writeLock = false
  healthy : (world.connections con).socket.Healthy

/-- The router has written bytes to a connection, encrypted from where its AES
session stood, and is ready for more. -/
structure Sent (cipher : Cipher) (before after : RouterWorld) (con aes : Ptr) (plain : Bytes) :
    Prop where
  ready : Ready after con
  tunRouter : after.tunRouter = before.tunRouter
  session : after.aesSessions aes = { before.aesSessions aes with
    encrypted := (before.aesSessions aes).encrypted + plain.length }
  sent : (after.connections con).socket.sent = (before.connections con).socket.sent ++
    mask (cipher (before.aesSessions aes).key (before.aesSessions aes).encryptIv)
      (before.aesSessions aes).encrypted plain

/-- Nothing has changed but one connection and one AES session. -/
structure Apart (before after : RouterWorld) (con aes : Ptr) : Prop where
  connections : ∀ other, other ≠ con → after.connections other = before.connections other
  aesSessions : ∀ other, other ≠ aes → after.aesSessions other = before.aesSessions other

theorem Sent.nothing (ready : Ready world con) : Sent cipher world world con aes [] :=
  ⟨ready, rfl, rfl, by simp⟩

theorem Sent.trans (first : Sent cipher world mid con aes plain)
    (second : Sent cipher mid after con aes plain') :
    Sent cipher world after con aes (plain ++ plain') where
  ready := second.ready
  tunRouter := second.tunRouter.trans first.tunRouter
  session := by simp [second.session, first.session, Nat.add_assoc]
  sent := by rw [second.sent, first.sent, first.session, mask_append, List.append_assoc]

private theorem setWriteLock_run (held : Bool) :
    (setWriteLock con held).run world = (.ok (), { world with
      connections := Function.update world.connections con
        { world.connections con with writeLock := held } }) :=
  RouterWorld.onConnection_run rfl

/-- A free write lock is taken at once. -/
private theorem takeWriteLock_free (free : (world.connections con).writeLock = false) :
    (takeWriteLock nested con (passes + 1)).run world = (.ok (), { world with
      connections := Function.update world.connections con
        { world.connections con with writeLock := true } }) := by
  rw [takeWriteLock, bind_look_run, if_neg (by simp [free])]
  exact setWriteLock_run true

/-- On a healthy socket what is under the write lock goes out, and the lock is
given back. -/
theorem forward_healthy (cipher : Cipher) (aes : Ptr) (plain : Bytes) (ready : Ready world con)
    (nonempty : plain ≠ []) (small : plain.length ≤ maxUint32) :
    ∃ after, (forward (AesSession.encrypt cipher) con aes plain).run { world with
        connections := Function.update world.connections con
          { world.connections con with writeLock := true } } = (.ok (.forwarded con), after) ∧
      Sent cipher world after con aes plain ∧ after.tun = world.tun ∧
      Apart world after con aes := by
  obtain ⟨socket, sends, moved⟩ := send_healthy
    (mask (cipher (world.aesSessions aes).key (world.aesSessions aes).encryptIv)
      (world.aesSessions aes).encrypted plain) ready.healthy
    (by simpa [← List.length_pos_iff] using nonempty) (by simpa using small)
  refine ⟨{ world with
    connections := Function.update world.connections con
      { world.connections con with socket := socket, writeLock := false }
    aesSessions := Function.update world.aesSessions aes { world.aesSessions aes with
      encrypted := (world.aesSessions aes).encrypted + plain.length } }, ?_, ?_, rfl, ?_⟩
  · rw [forward, bind_look_run, AesSession.encrypt_ok (Nat.le_refl _)]
    dsimp only
    rw [bind_change_run]
    refine (bind_ok (RouterWorld.onConnection_run (Connection.onSocket_run
      (show (send _).run _ = _ by simpa using sends)))).trans ?_
    apply (bind_ok (setWriteLock_run false)).trans
    simp
  · exact ⟨⟨ready.going, ready.queue, by simp, by simpa using moved.healthy⟩, rfl, by simp,
      by simpa using moved.sent⟩
  · exact ⟨fun other different => Function.update_of_ne different _ _,
      fun other different => Function.update_of_ne different _ _⟩

/-- A packet that is routed is forwarded as its frame. -/
theorem routePacket_forwards (cipher : Cipher) (nested : Coroutine RouterWorld Unit) (passes : Nat)
    {leftover : Nat → UInt8} (ready : Ready world con) (version : ipVersion packet.bytes leftover = 4)
    (routed : world.tunRouter.lookup (dst packet.bytes leftover) = some (con, some aes)) :
    ∃ after, (routePacket false (AesSession.encrypt cipher) nested (passes + 1) leftover
        packet.bytes).run world = (.ok (.forwarded con), after) ∧
      Sent cipher world after con aes (frame packet) ∧ after.tun = world.tun ∧
      Apart world after con aes := by
  have length := frame_length packet
  have small := packet.fits
  unfold maxPacket at small
  obtain ⟨after, ran, sent, rest⟩ := forward_healthy cipher aes (frame packet) ready
    (by rw [← List.length_pos_iff]; omega) (by unfold maxUint32 UInt32.size; omega)
  refine ⟨after, ?_, sent, rest⟩
  rw [routePacket, if_neg (by simp [version]), if_neg (by simp), bind_look_run, routed]
  exact (bind_ok (takeWriteLock_free ready.free)).trans ran

theorem emptied_nothing (queue : world.tunQueue = {}) : world.emptied = world := by
  obtain ⟨tun, tunRouter, tunQueue, connections, aesSessions, stopRequested⟩ := world
  dsimp only at queue
  subst queue
  simp [RouterWorld.emptied, emptyQueue, RouteQueue.pass]

/-- An iteration that reads a packet that is routed forwards it. -/
theorem iteration_forwards (cipher : Cipher) (nested : Coroutine RouterWorld Unit) (passes : Nat)
    {leftover : Nat → UInt8} {rest : List TunRead} (ready : Ready world con)
    (next : world.tun.reads = .packet packet :: rest) (version : ipVersion packet.bytes leftover = 4)
    (routed : world.tunRouter.lookup (dst packet.bytes leftover) = some (con, some aes)) :
    ∃ after, (iteration false (AesSession.encrypt cipher) nested (passes + 1) leftover).run world =
        (.ok (.forwarded con), after) ∧
      Sent cipher world after con aes (frame packet) ∧ after.tun.reads = rest := by
  have ready' : Ready { world with tun := { world.tun with reads := rest } } con :=
    ⟨ready.going, ready.queue, ready.free, ready.healthy⟩
  obtain ⟨after, ran, sent, tun, _⟩ :=
    routePacket_forwards cipher nested passes ready' version routed
  refine ⟨after, ?_, ⟨sent.ready, sent.tunRouter, sent.session, sent.sent⟩, by rw [tun]⟩
  rw [iteration_packet next, emptied_nothing ready'.queue, ran]

/-- The router forwards the packets it reads and waits for the next. -/
private theorem routeLoop_forwards (cipher : Cipher) (nested : Coroutine RouterWorld Unit)
    (leftover : Nat → Nat → UInt8) (sequence : List Packet) (passes : Nat) (world : RouterWorld)
    (ready : Ready world con) (reads : world.tun.reads = sequence.map .packet)
    (addressed : ∀ packet ∈ sequence, Addressed world.tunRouter con aes packet)
    (enough : sequence.length < passes) :
    ∃ after, (routeLoop false (AesSession.encrypt cipher) nested leftover true (passes + 1)).run
        world = (.error .waits, after) ∧ Sent cipher world after con aes (frames sequence) := by
  induction sequence generalizing world passes with
  | nil =>
    have waits : Tun.read.run world.tun = (.error .waits, world.tun) := by
      simp [Tun.read, reads]
    refine ⟨world, ?_, .nothing ready⟩
    rw [routeLoop, bind_look_run, if_neg (by simp [ready.going])]
    exact bind_error (bind_error (RouterWorld.onTun_run waits))
  | cons packet rest ih =>
    obtain ⟨passes, rfl⟩ : ∃ fewer, passes = fewer + 1 := ⟨passes - 1, by simp at enough; omega⟩
    have first := addressed packet (List.mem_cons_self ..)
    obtain ⟨mid, ran, sent, tun⟩ := iteration_forwards cipher nested passes ready reads
      (first.version (leftover (passes + 1))) (first.routed (leftover (passes + 1)))
    obtain ⟨after, ran', sent'⟩ := ih passes mid sent.ready tun
      (fun packet member => sent.tunRouter ▸ addressed packet (List.mem_cons_of_mem _ member))
      (by simpa using enough)
    exact ⟨after, (routeLoop_next ready.going ran).trans ran', sent.trans sent'⟩

/-! ### The client's end -/

variable {socket : Socket} {session : AesSession} {later : Bytes} {size : UInt32}

/-- What stands for a size is the size, or what follows is undefined. -/
private theorem sizeOrError_healthy (header : Bytes) (size : UInt32) (healthy : socket.Healthy) :
    ∃ after, (sizeOrError header size).run socket = (.ok size, after) ∨
      (sizeOrError header size).run socket = (.error .undefined, after) := by
  by_cases marked : decode header = errorMark
  · obtain ⟨answer, after, ran, _, _, same | ⟨same, _⟩⟩ :=
      sizeOrError_marked socket size healthy.isOpen marked
    · exact ⟨after, .inl (same ▸ ran)⟩
    · exact ⟨after, .inr (same ▸ ran)⟩
  · have unmarked : sizeOrError header size = pure size := if_neg marked
    exact ⟨socket, .inl (unmarked ▸ rfl)⟩

/-- At a header the client reads the size, unless the encrypted header happens to
be the error mark and the bytes behind it the beginning of an error message. -/
theorem readBlockSize_healthy (healthy : socket.Healthy)
    (begins : socket.stream =
      mask (cipher session.key session.decryptIv) session.decrypted (encode size) ++ later) :
    ∃ after, (readBlockSize cipher session true).run socket =
        (.ok (size, { session with decrypted := session.decrypted + 4 }), after) ∨
      (readBlockSize cipher session true).run socket = (.error .undefined, after) := by
  have head : socket.stream.take (needed 4 0) =
      mask (cipher session.key session.decryptIv) session.decrypted (encode size) := by
    rw [begins]
    exact List.take_left' (by simp [needed])
  obtain ⟨mid, ran, moved⟩ := readSome_healthy 4 0 healthy (Nat.zero_le _) (by decide)
    (by rw [begins]; simp [needed])
  rw [head] at ran
  have header : (throwExpEc (readSome 4 0)).run socket = _ := (bind_ok ran).trans (pure_run ..)
  rw [readBlockSize, bind_ok header, if_pos rfl, AesSession.decrypt_ok (by simp)]
  simp only [mask_mask, mask_length, encode_length, decode_encode]
  obtain ⟨after, sized | undefined⟩ := sizeOrError_healthy
    (mask (cipher session.key session.decryptIv) session.decrypted (encode size)) size moved.healthy
  · exact ⟨after, .inl (bind_ok sized)⟩
  · exact ⟨after, .inr (bind_error undefined)⟩

variable {client : Client}

/-- The first packet stops the client: its size passes no check that asks for
more than the largest packet. -/
private theorem startSocketRead_packet (passes : Nat) (going : client.stopRequested = false)
    (healthy : client.socket.Healthy)
    (begins : client.socket.stream = mask (cipher session.key session.decryptIv) session.decrypted
      (encode packet.bytes.length.toUInt32) ++ later) :
    ∃ how client', (startSocketRead cipher (passes + 1) session).run client =
        (.error how, client') ∧
      (how = .aborts "read_size > max_possible_ip_packet_size" ∨ how = .undefined) := by
  obtain ⟨socket, sized | undefined⟩ := readBlockSize_healthy healthy begins
  · have small : ¬ (packet.bytes.length.toUInt32).toNat > maxPacket := by
      rw [size_toNat]
      exact Nat.not_lt.mpr packet.fits
    have failed : (socketReadLoop cipher (passes + 1) session).run client =
        (.error (.aborts "read_size > max_possible_ip_packet_size"),
          { client with socket := socket }) := by
      rw [socketReadLoop, bind_look_run, if_neg (by simp [going])]
      apply (bind_ok (Client.onSocket_run sized)).trans
      exact bind_error (cussert_fails _ (decide_eq_false small))
    exact ⟨_, _, tryCatch_body failed (by simp), .inl rfl⟩
  · have failed : (socketReadLoop cipher (passes + 1) session).run client =
        (.error .undefined, { client with socket := socket }) := by
      rw [socketReadLoop, bind_look_run, if_neg (by simp [going])]
      exact bind_error (Client.onSocket_run undefined)
    exact ⟨_, _, tryCatch_body failed (by simp), .inr rfl⟩

/-- With nothing to come the client waits. -/
private theorem startSocketRead_idle (passes : Nat) (going : client.stopRequested = false)
    (healthy : client.socket.Healthy) (dry : client.socket.stream = []) :
    ∃ client', (startSocketRead cipher (passes + 1) session).run client = (.error .waits, client') ∧
      client'.tun = client.tun := by
  obtain ⟨socket, waits, _⟩ := readSome_waits 4 0 healthy (Nat.zero_le _) (by decide)
    (by simp [dry, needed])
  have loop : (socketReadLoop cipher (passes + 1) session).run client =
      (.error .waits, { client with socket := socket }) := by
    rw [socketReadLoop, bind_look_run, if_neg (by simp [going])]
    exact bind_error (Client.onSocket_run (bind_error (bind_error waits)))
  exact ⟨_, tryCatch_body loop (by simp), rfl⟩

/-- **The server's packets do not reach the client's tun device.** The router
forwards packets on one connection and waits for more; it has sent their frames
and nothing else. For every way the connection cuts these bytes, the client hands
exactly the packets to its tun device and goes on waiting if and only if there
are none: the first packet there is ends in its check of the size. -/
theorem server_to_client (cipher : Cipher) (nested : Coroutine RouterWorld Unit)
    (leftover : Nat → Nat → UInt8) (sequence : List Packet) (serverPasses clientPasses : Nat)
    (world : RouterWorld) (con aes : Ptr) (client : Client) (clientAes : AesSession)
    (ready : Ready world con) (reads : world.tun.reads = sequence.map .packet)
    (addressed : ∀ packet ∈ sequence, Addressed world.tunRouter con aes packet)
    (mirrored : Mirrored (world.aesSessions aes) clientAes)
    (inStep : (world.aesSessions aes).encrypted = clientAes.decrypted)
    (healthy : client.socket.Healthy) (going : client.stopRequested = false)
    (enough : sequence.length < serverPasses) :
    ∃ after wire, (routeLoop false (AesSession.encrypt cipher) nested leftover true
        (serverPasses + 1)).run world = (.error .waits, after) ∧
      (after.connections con).socket.sent = (world.connections con).socket.sent ++ wire ∧
      (client.socket.stream = wire →
        ((∃ client', (startSocketRead cipher (clientPasses + 1) clientAes).run client =
            (.error .waits, client') ∧
          client'.tun.written = client.tun.written ++ sequence.map Packet.bytes) ↔
        sequence = [])) := by
  obtain ⟨after, ran, sent⟩ := routeLoop_forwards cipher nested leftover sequence serverPasses world
    ready reads addressed enough
  refine ⟨after, _, ran, sent.sent, fun whole => ?_⟩
  rw [mirrored.key, mirrored.there, inStep] at whole
  cases sequence with
  | nil =>
    obtain ⟨client', waits, tun⟩ := startSocketRead_idle clientPasses going healthy whole
    simpa using ⟨client', waits, by rw [tun]⟩
  | cons packet rest =>
    rw [frames_cons, frame, List.append_assoc, mask_append] at whole
    obtain ⟨how, client', stopped, hows⟩ := startSocketRead_packet clientPasses going healthy whole
    constructor
    · rintro ⟨client'', waits, _⟩
      have same := (Prod.mk.inj (stopped.symm.trans waits)).1
      rcases hows with rfl | rfl <;> cases same
    · exact fun none => absurd none (by simp)

/-- A router that leads 10.123.0.2 to a connection and has read a packet for it. -/
def routing : RouterWorld :=
  { reading ipv4Packet with tunRouter := (∅ : Router).insert ⟨0x0A7B0002⟩ (0, some 1) }

/-- The client, with the frame of the packet arriving in two pieces. -/
def receiving : Client where
  socket := { arrivals := [.bytes ⟨[20, 1], by simp⟩, .bytes ⟨[2, 3, 65, 5, 6, 19, 8, 9, 10, 11,
    76, 28, 14, 15, 26, 106, 18, 18, 30, 110, 22, 21], by simp⟩] }

theorem addressed_ipv4Packet : Addressed routing.tunRouter 0 1 ipv4Packet where
  long := by decide
  version leftover := by
    have first : byteAt ipv4Packet.bytes leftover 0 = 0x45 := rfl
    rw [ipVersion, first]
    rfl
  routed leftover := by
    have same : dst ipv4Packet.bytes leftover = dst ipv4Packet.bytes fun _ => 0 := rfl
    rw [same]
    rfl

theorem server_to_client_one_packet :
    ¬ ∃ client', (startSocketRead countingCipher 2 ⟨[], [], [], 0, 0⟩).run receiving =
        (.error .waits, client') ∧
      client'.tun.written = [ipv4Packet].map Packet.bytes := by
  obtain ⟨after, wire, ran, sent, holds⟩ := server_to_client countingCipher running
    (fun _ _ => 0) [ipv4Packet] 2 1 routing 0 1 receiving ⟨[], [], [], 0, 0⟩
    ⟨rfl, rfl, rfl, ⟨rfl, by simp [routing, reading], by simp [routing, reading], rfl⟩⟩ rfl
    (fun packet member => List.mem_singleton.mp member ▸ addressed_ipv4Packet) ⟨rfl, rfl, rfl⟩ rfl
    ⟨rfl, by simp [receiving], by simp [receiving], rfl⟩ rfl (by decide)
  cases ran.symm.trans (rfl : (routeLoop false (AesSession.encrypt countingCipher) running
    (fun _ _ => 0) true 3).run routing = _)
  exact fun arrives => by
    have := (holds (Eq.trans (by rfl) sent)).mp arrives
    cases this

/-- The client dies of the first packet. -/
theorem first_packet_aborts :
    ∃ after client', (routeLoop false (AesSession.encrypt countingCipher) running
        (fun _ _ => 0) true 3).run routing = (.error .waits, after) ∧
      receiving.socket.stream = (after.connections 0).socket.sent ∧
      (startSocketRead countingCipher 2 ⟨[], [], [], 0, 0⟩).run receiving =
        (.error (.aborts "read_size > max_possible_ip_packet_size"), client') ∧
      client'.tun.written = [] :=
  ⟨_, _, rfl, rfl, rfl, rfl⟩

end Vpverk.ServerToClient
