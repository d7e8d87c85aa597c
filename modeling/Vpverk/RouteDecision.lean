import Vpverk.Demultiplex

/-! What a routing decision depends on. The buffer that a packet is read into is not
initialised: behind the packet's bytes stands whatever was there before. -/
namespace Vpverk.RouteDecision
open Addresses RouteQueue Coroutine Octets Asioapi Peer DataExchange RouterIteration ServerToClient
open Demultiplex

variable {packet : Packet} {leftover leftover' : Nat → UInt8}

/-- Whatever was left in the buffer, iterations that read the packet and come to their
end, end alike: the packet is skipped, or is for the same connection. -/
def DecidesAlike (packet : Packet) : Prop :=
  ∀ (encrypt : Encrypt) (nested : Coroutine RouterWorld Unit) (passes : Nat) (world : RouterWorld)
    (rest : List TunRead) (leftover leftover' : Nat → UInt8) (handled handled' : Handled)
    (after after' : RouterWorld), world.tun.reads = .packet packet :: rest →
    (iteration false encrypt nested passes leftover).run world = (.ok handled, after) →
    (iteration false encrypt nested passes leftover').run world = (.ok handled', after') →
    handled = handled'

/-- Whatever was left in the buffer, iterations that read the packet are one, whether they
come to their end or not: they end alike and leave the router, the queue, the ciphers and
the connections alike. -/
def RunsAlike (packet : Packet) : Prop :=
  ∀ (encrypt : Encrypt) (nested : Coroutine RouterWorld Unit) (passes : Nat) (world : RouterWorld)
    (rest : List TunRead) (leftover leftover' : Nat → UInt8), world.tun.reads = .packet packet :: rest →
    (iteration false encrypt nested passes leftover).run world =
      (iteration false encrypt nested passes leftover').run world

/-- The packet holds the version and, if it is IPv4, its destination. -/
def Whole (packet : Packet) : Prop :=
  20 ≤ packet.bytes.length ∨ ipVersion packet.bytes (fun _ => 0) ≠ 4

theorem byteAt_own {offset : Nat} (inside : offset < packet.bytes.length) :
    byteAt packet.bytes leftover offset = byteAt packet.bytes leftover' offset := by
  simp [byteAt, inside]

theorem dst_own (long : 20 ≤ packet.bytes.length) :
    dst packet.bytes leftover = dst packet.bytes leftover' := by
  unfold dst
  rw [byteAt_own (by omega : 16 < packet.bytes.length), byteAt_own (by omega : 17 < packet.bytes.length),
    byteAt_own (by omega : 18 < packet.bytes.length), byteAt_own (by omega : 19 < packet.bytes.length)]

/-- A packet that holds what is looked at is routed without a look at what was left. -/
theorem routePacket_own (whole : Whole packet) (encrypt : Encrypt) (nested : Coroutine RouterWorld Unit)
    (passes : Nat) :
    routePacket false encrypt nested passes leftover packet.bytes =
      routePacket false encrypt nested passes leftover' packet.bytes := by
  have version : ipVersion packet.bytes leftover = ipVersion packet.bytes leftover' :=
    ipVersion_own.trans ipVersion_own.symm
  unfold routePacket
  rcases whole with long | other
  · have same : dst packet.bytes leftover = dst packet.bytes leftover' := dst_own long
    rw [version, same]
    rfl
  · rw [if_pos (by rwa [ipVersion_own]), if_pos (by rwa [ipVersion_own])]

/-- The last byte of the destination is not a short packet's own. -/
theorem dst_leftover (short : packet.bytes.length < 20) :
    dst packet.bytes (fun _ => 0) ≠ dst packet.bytes fun _ => 1 := by
  have last : ∀ leftover : Nat → UInt8, byteAt packet.bytes leftover 19 = leftover 19 := by
    intro leftover
    simp [byteAt, Nat.not_lt.mpr (Nat.le_of_lt_succ short)]
  intro same
  have words := congrArg (fun address => address.toUint.toNat) same
  simp only [dst, word_toNat, last] at words
  simp at words
  omega

/-- A router with one route, for the destination the packet has with zeros behind it. -/
def oneRoute (packet : Packet) : RouterWorld where
  tun := { reads := [.packet packet] }
  tunRouter := AList.insert (dst packet.bytes fun _ => 0) (0, some 0) ∅
  aesSessions := fun _ => ⟨[], [], [], 0, 0⟩

/-- A packet too short for its destination is forwarded or skipped by what was left. -/
theorem short_decided (short : packet.bytes.length < 20)
    (version : ipVersion packet.bytes (fun _ => 0) = 4) :
    ∃ after after', (iteration false (AesSession.encrypt fun _ _ _ => 0) running 1
        fun _ => 0).run (oneRoute packet) = (.ok (.forwarded 0), after) ∧
      (iteration false (AesSession.encrypt fun _ _ _ => 0) running 1
        fun _ => 1).run (oneRoute packet) = (.ok .skipped, after') := by
  have ready : Ready (oneRoute packet) 0 := ⟨rfl, rfl, rfl, rfl, nofun, nofun, rfl⟩
  have routed : (oneRoute packet).tunRouter.lookup (dst packet.bytes fun _ => 0) = some (0, some 0) :=
    AList.lookup_insert _
  obtain ⟨after, forwards, _⟩ := iteration_forwards (fun _ _ _ => 0) running 0 ready rfl version routed
  have missed : (oneRoute packet).tunRouter.lookup (dst packet.bytes fun _ => 1) = none := by
    rw [oneRoute, AList.lookup_insert_ne (dst_leftover short).symm]
    rfl
  refine ⟨after, { oneRoute packet with tun := {} }, forwards, ?_⟩
  rw [iteration_packet rfl, emptied_nothing rfl, routePacket, if_neg (by simp [ipVersion_own, version]),
    if_neg (by simp), bind_look_run]
  dsimp only
  rw [missed]
  rfl

theorem RunsAlike.decides (alike : RunsAlike packet) : DecidesAlike packet := by
  intro encrypt nested passes world rest leftover leftover' handled handled' after after' next ran ran'
  rw [alike encrypt nested passes world rest leftover leftover' next, ran'] at ran
  cases ran
  rfl

theorem DecidesAlike.whole (alike : DecidesAlike packet) : Whole packet := by
  by_contra broken
  rw [Whole, not_or, Nat.not_le, not_not] at broken
  obtain ⟨after, after', forwards, skips⟩ := short_decided broken.1 broken.2
  cases alike _ _ _ _ _ _ _ _ _ _ _ rfl forwards skips

theorem Whole.runs (whole : Whole packet) : RunsAlike packet := by
  intro encrypt nested passes world rest leftover leftover' next
  have same : routePacket false encrypt nested passes leftover packet.bytes =
      routePacket false encrypt nested passes leftover' packet.bytes :=
    routePacket_own whole encrypt nested passes
  rw [iteration_packet next, iteration_packet next, same]

/-- **Routing depends only on the packet** exactly if the packet is as long as an IPv4
header, or is not IPv4; and with the decision all that is done with the packet. -/
theorem decision_own (packet : Packet) :
    (DecidesAlike packet ↔ Whole packet) ∧ (RunsAlike packet ↔ Whole packet) :=
  ⟨⟨DecidesAlike.whole, fun whole => whole.runs.decides⟩, ⟨fun alike => alike.decides.whole, Whole.runs⟩⟩

/-- The first 16 bytes of an IPv4 header. -/
def cutPacket : Packet :=
  ⟨[0x45, 0, 0, 16, 0, 0, 0, 0, 64, 17, 0, 0, 10, 123, 0, 1], by simp, by decide⟩

/-- What a packet for 10.123.0.2 has left where the destination stands. -/
def remains : Nat → UInt8
  | 16 => 10
  | 17 => 123
  | 19 => 2
  | _ => 0

/-- With such a packet before it the cut one is forwarded, and without it is skipped. -/
theorem cut_packet_forwarded : ¬ ∀ packet, DecidesAlike packet := by
  intro alike
  let world : RouterWorld :=
    { reading cutPacket with tunRouter := AList.insert ⟨0x0A7B0002⟩ (0, some 0) ∅ }
  have ready : Ready world 0 := ⟨rfl, rfl, rfl, rfl, nofun, nofun, rfl⟩
  have there : dst cutPacket.bytes remains = ⟨0x0A7B0002⟩ := by decide
  have routed : world.tunRouter.lookup (dst cutPacket.bytes remains) = some (0, some 0) := by
    rw [there]
    exact AList.lookup_insert _
  obtain ⟨after, forwards, _⟩ :=
    iteration_forwards (fun _ _ _ => 0) running 0 ready rfl (by decide) routed
  have skips : (iteration false (AesSession.encrypt fun _ _ _ => 0) running 1 fun _ => 0).run world =
      (.ok .skipped, { world with tun := {} }) := rfl
  cases alike cutPacket _ _ _ _ _ _ _ _ _ _ _ rfl forwards skips

end Vpverk.RouteDecision
