import Vpverk.Admission

/-! The packets on their way from the client's tun device to the server's when something
fails. A send may stop within a packet, the connection may break anywhere, and the server may
end its loop in any way: what its tun device has been given by then are packets of the
client's, whole, in their order, from the first one on. -/
namespace Vpverk.PacketIntegrity
open Coroutine Octets Asioapi Peer ClientLoops DataExchange Handshake Delivery Rejection StreamSync
open Admission

variable {cipher : Cipher} {aes aes' : AesSession} {server after : Server} {read : Option Nat}
  {sequence : List Packet} {before : List Bytes}

/-- Two parts that begin with two others, the first of one length. -/
theorem prefix_parts {first second first' second' : Bytes}
    (part : first ++ second <+: first' ++ second') (length : first.length = first'.length) :
    first = first' ∧ second <+: second' := by
  obtain ⟨rest, whole⟩ := part
  rw [List.append_assoc] at whole
  obtain ⟨same, whole⟩ := List.append_inj whole length
  exact ⟨same, rest, whole⟩

/-! ### The server's loop -/

/-- What arrives is the beginning of these packets' frames, encrypted from where the session
stands. -/
def Coming (cipher : Cipher) (aes : AesSession) (sequence : List Packet) (server : Server) : Prop :=
  server.con.socket.stream <+: mask (cipher aes.key aes.decryptIv) aes.decrypted (frames sequence)

/-- The device has been given the first of these packets, beyond what it had. -/
def Handed (before : List Bytes) (sequence : List Packet) (server : Server) : Prop :=
  ∃ handed, handed <+: sequence ∧ server.tun.written = before ++ handed.map Packet.bytes

theorem handed_nothing (same : server.tun.written = before) : Handed before sequence server :=
  ⟨[], List.nil_prefix, by simp [same]⟩

/-- A frame at the beginning of what arrives is the first packet's. -/
theorem frame_first {packet : Packet} {header taken rest : Bytes}
    (coming : header ++ taken ++ rest <+: mask (cipher aes.key aes.decryptIv) aes.decrypted
      (frames (packet :: sequence)))
    (four : header.length = 4)
    (length : taken.length = needed maxBoundsSize (headerSize cipher aes header)) :
    headerSize cipher aes header = packet.bytes.length ∧
      taken = mask (cipher aes.key aes.decryptIv) (aes.decrypted + 4) packet.bytes ∧
      rest <+: mask (cipher aes.key aes.decryptIv) (aes.decrypted + 4 + packet.bytes.length)
        (frames sequence) := by
  rw [frames_cons, frame, mask_append, mask_append, encode_length, List.append_assoc,
    List.append_assoc, List.length_append, encode_length, ← Nat.add_assoc] at coming
  obtain ⟨rfl, coming'⟩ := prefix_parts coming (by rw [mask_length, encode_length, four])
  have size : headerSize cipher aes (mask (cipher aes.key aes.decryptIv) aes.decrypted
      (encode packet.bytes.length.toUInt32)) = packet.bytes.length := by
    rw [headerSize, mask_mask, decode_encode, size_toNat]
  have some_bytes : packet.bytes.length ≠ 0 := by
    simpa using packet.nonempty
  rw [size, needed, if_neg some_bytes] at length
  obtain ⟨same, later⟩ := prefix_parts coming' (by rw [mask_length, length])
  exact ⟨size, same, later⟩

theorem write_ok {packet : Bytes} {tun tun' : Tun} (ran : (Tun.write packet).run tun = (.ok (), tun')) :
    tun'.written = tun.written ++ [packet] := by
  unfold Tun.write at ran
  dsimp only at ran
  split at ran <;> cases ran <;> rfl

theorem write_stops {packet : Bytes} {how : Stop} {tun tun' : Tun}
    (ran : (Tun.write packet).run tun = (.error how, tun')) : tun'.written = tun.written := by
  unfold Tun.write at ran
  dsimp only at ran
  split at ran <;> cases ran
  rfl

/-- A pass that goes on has handed the first packet on, or none. -/
theorem passed_hands (coming : Coming cipher aes sequence server)
    (passed : Passed cipher server aes read after aes') :
    ∃ done rest, sequence = done ++ rest ∧
      after.tun.written = server.tun.written ++ done.map Packet.bytes ∧
      Coming cipher aes' rest after := by
  cases passed with
  | nothing stream tun =>
    refine ⟨[], sequence, rfl, by simp [tun], ?_⟩
    rwa [Coming, ← stream]
  | frame header taken stream four size fits length tun =>
    rw [Coming, stream] at coming
    cases sequence with
    | nil =>
      have none := coming.length_le
      simp [frames, four] at none
    | cons packet rest =>
      rw [size] at length tun ⊢
      obtain ⟨same, rfl, later⟩ := frame_first coming four length
      rw [same, List.take_of_length_le (by rw [mask_length]), mask_mask] at tun
      refine ⟨[packet], rest, rfl, write_ok tun, ?_⟩
      rwa [Coming, same]

/-- A pass that does not go on has handed nothing on. -/
theorem exchangePass_ends (cipher : Cipher) (aes : AesSession) (written : List Bytes) :
    Ensures (fun server => server.tun.written = written) (exchangePass cipher aes)
      (fun answer server => answer = none → server.tun.written = written)
      fun _ server => server.tun.written = written := by
  have onCon {α : Type} (inner : Coroutine Connection α) :
      Ensures (fun server : Server => server.tun.written = written) (Server.onCon inner)
        (fun _ server => server.tun.written = written) fun _ server => server.tun.written = written :=
    ensures_within (fun _ _ same => same) fun _ _ same => same
  apply (onCon waitData).bind
  intro waited
  rcases waited with _ | _ | _
  · exact ensures_pure fun _ same _ => same
  · exact ensures_pure fun _ same _ => same
  · apply (onCon _).bind
    rintro ⟨readRaw, aes⟩
    apply (onCon _).bind
    rintro ⟨ipPacket, aes⟩
    have writes : Ensures (fun server : Server => server.tun.written = written)
        (Server.onTun (Tun.write ipPacket)) (fun _ _ => True)
        fun _ server => server.tun.written = written := by
      constructor
      · exact fun _ _ _ _ _ => trivial
      · intro server how after same ran
        obtain ⟨tun, wrote, rfl⟩ := within_run_iff.mp ran
        exact (write_stops wrote).trans same
    exact writes.bind fun _ => ensures_pure fun _ _ goes => by cases goes

/-- What a pass leaves the passes behind it. -/
def Goes (cipher : Cipher) (sequence : List Packet) (before : List Bytes) :
    Option (AesSession × Option Nat) → Server → Prop
  | none, server => Handed before sequence server
  | some (aes, _), server => ∃ done rest, sequence = done ++ rest ∧
      server.tun.written = before ++ done.map Packet.bytes ∧ Coming cipher aes rest server

theorem exchangePass_goes (cipher : Cipher) (aes : AesSession) (sequence : List Packet)
    (before : List Bytes) :
    Ensures (fun server => Coming cipher aes sequence server ∧ server.tun.written = before)
      (exchangePass cipher aes) (Goes cipher sequence before) fun _ => Handed before sequence := by
  constructor
  · rintro server (_ | ⟨aes', read⟩) after ⟨coming, same⟩ ran
    · exact handed_nothing ((exchangePass_ends cipher aes before).ends _ _ _ same ran rfl)
    · obtain ⟨done, rest, parts, wrote, coming'⟩ := passed_hands coming (exchangePass_ok ran)
      exact ⟨done, rest, parts, by rw [wrote, same], coming'⟩
  · rintro server how after ⟨_, same⟩ ran
    exact handed_nothing ((exchangePass_ends cipher aes before).stops _ _ _ same ran)

theorem Handed.later {done rest : List Packet}
    (handed : Handed (before ++ done.map Packet.bytes) rest server) :
    Handed before (done ++ rest) server := by
  obtain ⟨more, part, wrote⟩ := handed
  exact ⟨done ++ more, (List.prefix_append_right_inj done).mpr part,
    by rw [wrote, List.map_append, List.append_assoc]⟩

/-- The server's loop hands on the first packets. -/
theorem performDataExchange_hands (cipher : Cipher) (passes : Nat) (aes : AesSession)
    (sequence : List Packet) (before : List Bytes) :
    Ensures (fun server => Coming cipher aes sequence server ∧ server.tun.written = before)
      (performDataExchange cipher passes aes) (fun _ => Handed before sequence)
      fun _ => Handed before sequence := by
  induction passes generalizing aes sequence before with
  | zero => exact ensures_stop fun _ holds => handed_nothing holds.2
  | succ passes ih =>
    rw [performDataExchange_succ]
    apply (exchangePass_goes cipher aes sequence before).bind
    rintro (_ | ⟨aes', read⟩)
    · exact ensures_pure fun _ handed => handed
    · constructor
      · rintro server value after ⟨done, rest, rfl, wrote, coming⟩ ran
        exact ((ih aes' rest _).ends _ _ _ ⟨coming, wrote⟩ ran).later
      · rintro server how after ⟨done, rest, rfl, wrote, coming⟩ ran
        exact ((ih aes' rest _).stops _ _ _ ⟨coming, wrote⟩ ran).later

/-! ### The session before it -/

variable {setup : Setup} {start : Lifecycle} {sealed block login later : Bytes}

theorem exchangeAESkey_coming (length : sealed.length = 256)
    (opens : setup.rsa.decrypt sealed = .ok block) (later : Bytes) :
    Ensures (fun con => con.socket.stream <+: encode 256 ++ (sealed ++ later)) (exchangeAESkey setup.rsa)
      (fun aes con => aes = sessionOf block ∧ con.socket.stream <+: later) fun _ _ => True where
  ends con aes con' coming ran := by
    obtain ⟨sealed', block', stream, length', opens', _, rfl⟩ := exchangeAESkey_ok ran
    rw [stream] at coming
    obtain ⟨_, coming⟩ := prefix_parts coming rfl
    obtain ⟨rfl, behind⟩ := prefix_parts coming (length'.trans length.symm)
    cases opens.symm.trans opens'
    exact ⟨rfl, behind⟩
  stops _ _ _ _ _ := trivial

/-- Two logins that are not too long begin alike only if they are the same. -/
theorem sealedLogin_coming {login' rest : Bytes} (short : login.length ≤ 200) (short' : login'.length ≤ 200)
    (coming : sealedLogin cipher aes login' ++ rest <+: sealedLogin cipher aes login ++ later) :
    login' = login ∧ rest <+: later := by
  have size (login : Bytes) (short : login.length ≤ 200) :
      login.length.toUInt32.toNat = login.length := by
    simp
    omega
  rw [sealedLogin, sealedLogin, mask_append, mask_append, List.append_assoc, List.append_assoc] at coming
  obtain ⟨header, coming⟩ := prefix_parts coming (by simp)
  have same : login'.length = login.length := by
    have unsealed := congrArg (mask (cipher aes.key aes.decryptIv) aes.decrypted) header
    rw [mask_mask, mask_mask] at unsealed
    have sizes := congrArg decode unsealed
    rw [decode_encode, decode_encode] at sizes
    rw [← size login short, ← size login' short', sizes]
  rw [encode_length, encode_length] at coming
  obtain ⟨masked, coming⟩ := prefix_parts coming (by simp [same])
  have unmasked := congrArg (mask (cipher aes.key aes.decryptIv) (aes.decrypted + 4)) masked
  rw [mask_mask, mask_mask] at unmasked
  exact ⟨unmasked, coming⟩

theorem authenticateUser_coming (setup : Setup) (aes : AesSession) (short : login.length ≤ 200)
    (later : Bytes) :
    Ensures (fun con => con.socket.stream <+: sealedLogin setup.cipher aes login ++ later)
      (authenticateUser setup.cipher setup.allowedLogins aes)
      (fun answer con => answer.2 = { aes with decrypted := aes.decrypted + 4 + login.length } ∧
        con.socket.stream <+: later) fun _ _ => True where
  ends := by
    rintro con ⟨allowed, aes'⟩ con' coming ran
    obtain ⟨login', stream, short', _, rfl⟩ := authenticateUser_ok ran
    rw [stream] at coming
    obtain ⟨rfl, behind⟩ := sealedLogin_coming short short' coming
    exact ⟨rfl, behind⟩
  stops _ _ _ _ _ := trivial

/-- Two sessions that decrypt alike. -/
structure Alike (one other : AesSession) : Prop where
  key : one.key = other.key
  decryptIv : one.decryptIv = other.decryptIv
  decrypted : one.decrypted = other.decrypted

theorem sendIp_coming (cipher : Cipher) (aes : AesSession) (ip : UInt32) (later : Bytes) :
    Ensures (fun con => con.socket.stream <+: later) (sendIp cipher aes ip)
      (fun aes' con => Alike aes' aes ∧ con.socket.stream <+: later) fun _ _ => True where
  ends con aes' con' coming ran := by
    rw [sendIp, AesSession.encrypt_ok (by simp)] at ran
    dsimp only at ran
    obtain ⟨answer, mid, within, ran⟩ := bind_run_ok ran
    obtain ⟨socket, sends, rfl⟩ := within_run_iff.mp within
    have kept := ((send_stream _ con.socket.stream).ends _ _ _ rfl sends).1
    cases answer with
    | error code =>
      obtain ⟨_, _, _, thrown⟩ := bind_run_ok ran
      cases thrown
    | ok answer =>
      cases ran
      exact ⟨⟨rfl, rfl, rfl⟩, kept ▸ coming⟩
  stops _ _ _ _ _ := trivial

/-- What of the connection makes a difference, and the device as it was. -/
def Before (before : List Bytes) (holds : Connection → Prop) (world : Lifecycle) : Prop :=
  holds world.server.con ∧ world.server.tun.written = before

theorem onCon_before {α : Type} {inner : Coroutine Connection α} {pre : Connection → Prop}
    {post : α → Connection → Prop} {stopped : Stop → Connection → Prop}
    (ensures : Ensures pre inner post stopped) (before : List Bytes) (sequence : List Packet) :
    Ensures (Before before pre) (Lifecycle.onCon inner) (fun value => Before before (post value))
      fun _ world => Handed before sequence world.server := by
  have onServer : Ensures (fun server : Server => pre server.con ∧ server.tun.written = before)
      (Server.onCon inner) (fun value server => post value server.con ∧ server.tun.written = before)
      fun how server => stopped how server.con ∧ server.tun.written = before :=
    ensures.within _ _ (fun server : Server => server.tun.written = before)
      (fun _ _ => rfl) fun _ _ same => same
  have onWorld := onServer.within Lifecycle.server
    (fun server world => { world with server := server }) (fun _ => True)
    (fun _ _ => rfl) fun _ _ same => same
  exact onWorld.weaken (fun _ holds => ⟨holds, trivial⟩) (fun _ _ holds => holds.1)
    fun _ _ holds => handed_nothing holds.1.2

theorem register_coming (setup : Setup) (aes : AesSession) (later : Bytes) (before : List Bytes)
    (sequence : List Packet) :
    Ensures (Before before fun con => con.socket.stream <+: later) (register setup aes)
      (fun aes' => Before before fun con => Alike aes' aes ∧ con.socket.stream <+: later)
      fun _ world => Handed before sequence world.server := by
  have assigns : Ensures (Before before fun con => con.socket.stream <+: later) (assignAddress setup)
      (fun _ => Before before fun con => con.socket.stream <+: later)
      fun _ world => Handed before sequence world.server := by
    apply ensures_look_bind
    intro seen holds
    split
    · exact ensures_stop fun _ same => handed_nothing (same ▸ holds.2)
    · exact ensures_stop fun _ same => handed_nothing (same ▸ holds.2)
    · rename_i address pool _
      have changes : Ensures (fun world => world = seen)
          (change fun world => { world with pool := pool, assignedAddress := some address })
          (fun _ => Before before fun con => con.socket.stream <+: later)
          fun _ world => Handed before sequence world.server :=
        ensures_change fun _ same => same ▸ holds
      exact changes.bind fun _ => ensures_pure fun _ holds => holds
  apply assigns.bind
  intro address
  apply (onCon_before (sendIp_coming setup.cipher aes address.toUint later) before sequence).bind
  intro aes'
  have pushes : Ensures
      (Before before fun con => Alike aes' aes ∧ con.socket.stream <+: later)
      (pushRoute setup address)
      (fun _ => Before before fun con => Alike aes' aes ∧ con.socket.stream <+: later)
      fun _ world => Handed before sequence world.server := by
    apply ensures_look_bind
    intro seen holds
    split
    · exact ensures_change fun _ same => same ▸ holds
    · have writes : Ensures (fun world => world = seen)
          (Lifecycle.writeServ "failed to add pointer to atomic queue")
          (fun _ => Before before fun _ => True) fun _ world => Handed before sequence world.server :=
        ensures_change fun _ same => same ▸ ⟨trivial, holds.2⟩
      apply writes.bind
      intro _
      apply (onCon_before (ensures_any (Connection.close (utf8 "server error: queue full"))) before
        sequence).bind
      intro _
      exact ensures_stop fun _ holds => handed_nothing holds.2
  exact pushes.bind fun _ => ensures_pure fun _ holds => holds

/-- What a client sends before its packets. -/
def introduction (cipher : Cipher) (sealed block login : Bytes) : Bytes :=
  encode 256 ++ (sealed ++ sealedLogin cipher (sessionOf block) login)

theorem onServer_hands (cipher : Cipher) (passes : Nat) (aes : AesSession) (sequence : List Packet)
    (before : List Bytes) :
    Ensures (Before before fun con => con.socket.stream <+:
        mask (cipher aes.key aes.decryptIv) aes.decrypted (frames sequence))
      (Lifecycle.onServer (performDataExchange cipher passes aes))
      (fun _ world => Handed before sequence world.server)
      fun _ world => Handed before sequence world.server := by
  have onServer := (performDataExchange_hands cipher passes aes sequence before).within
    Lifecycle.server (fun server world => { world with server := server }) (fun _ => True)
    (fun _ _ => rfl) fun _ _ same => same
  exact onServer.weaken (fun _ holds => ⟨holds, trivial⟩) (fun _ _ holds => holds.1)
    fun _ _ holds => holds.1

theorem tryBlock_hands (length : sealed.length = 256)
    (opens : setup.rsa.decrypt sealed = .ok block) (short : login.length ≤ 200)
    (sequence : List Packet) (before : List Bytes) :
    Ensures (Before before fun con => con.socket.stream <+:
        introduction setup.cipher sealed block login ++
          mask (setup.cipher (sessionOf block).key (sessionOf block).decryptIv) (4 + login.length)
            (frames sequence))
      (tryBlock setup) (fun _ world => Handed before sequence world.server)
      fun _ world => Handed before sequence world.server := by
  let packets := mask (setup.cipher (sessionOf block).key (sessionOf block).decryptIv)
    (4 + login.length) (frames sequence)
  let bytes := introduction setup.cipher sealed block login ++ packets
  have probes : Ensures (fun con => con.socket.stream <+: bytes) isActiveNolock
      (fun _ con => con.socket.stream <+: bytes) fun _ _ => True :=
    ⟨fun _ _ _ coming ran => (isActiveNolock_ok ran).symm ▸ coming, fun _ _ _ _ _ => trivial⟩
  have parts : bytes = encode 256 ++
      (sealed ++ (sealedLogin setup.cipher (sessionOf block) login ++ packets)) := by
    simp [bytes, introduction]
  apply (onCon_before probes before sequence).bind
  intro _
  apply ((onCon_before (exchangeAESkey_coming length opens
    (sealedLogin setup.cipher (sessionOf block) login ++ packets)) before sequence).begun
      fun _ holds => ⟨parts ▸ holds.1, holds.2⟩).bind
  intro aeskey
  apply ensures_knowing fun _ holds => holds.1.1
  rintro rfl
  apply ((onCon_before (authenticateUser_coming setup (sessionOf block) short packets) before
    sequence).begun fun _ holds => ⟨holds.1.2, holds.2⟩).bind
  rintro ⟨allowed, aeskey⟩
  apply ensures_knowing fun _ holds => holds.1.1
  rintro rfl
  cases allowed with
  | false =>
    apply (onCon_before (ensures_any (Connection.close (utf8 "Access denied"))) before sequence).begun
      (fun _ holds => ⟨trivial, holds.2⟩) |>.bind
    intro _
    exact ensures_pure fun _ holds => handed_nothing holds.2
  | true =>
    apply ((register_coming setup _ packets before sequence).begun
      fun _ holds => ⟨holds.1.2, holds.2⟩).bind
    intro aes
    apply ensures_knowing fun _ holds => holds.1.1
    intro alike
    have at' : aes.decrypted = 4 + login.length := by
      rw [alike.decrypted, sessionOf, Nat.zero_add]
    have exchanges := onServer_hands setup.cipher setup.passes aes sequence before
    apply (exchanges.begun fun _ holds => ⟨?_, holds.2⟩).bind
    · intro _
      exact ensures_pure fun _ handed => handed
    · rw [alike.key, alike.decryptIv, at']
      exact holds.1.2

/-- A session hands on the first packets. -/
theorem startConnection_hands (length : sealed.length = 256)
    (opens : setup.rsa.decrypt sealed = .ok block) (short : login.length ≤ 200)
    (sequence : List Packet) (before : List Bytes) :
    Ensures (Before before fun con => con.socket.stream <+:
        introduction setup.cipher sealed block login ++
          mask (setup.cipher (sessionOf block).key (sessionOf block).decryptIv) (4 + login.length)
            (frames sequence))
      (startConnection setup) (fun _ world => Handed before sequence world.server)
      fun _ world => Handed before sequence world.server := by
  apply startConnection_leaves (tryBlock_hands length opens short sequence before)
    (fun _ _ handed => handed)
  intro address
  apply ensures_look_bind
  rintro seen ⟨handed, _⟩
  split
  · exact ensures_stop fun _ same => same ▸ handed
  · rename_i tunQueue _
    have pushes : Ensures (fun world => world = seen)
        (change fun world : Lifecycle => { world with tunQueue := tunQueue })
        (fun _ world => Handed before sequence world.server)
        fun _ world => Handed before sequence world.server :=
      ensures_change fun _ same => same ▸ handed
    exact pushes.bind fun _ => ensures_change fun _ handed => handed

/-! ### The client's loop -/

variable {client : Client}

/-- What the loop sends is the beginning of the frames of what its device reads. -/
def Tells (cipher : Cipher) (aes : AesSession) (client after : Client) : Prop :=
  ∃ told, told <+: mask (cipher aes.key aes.encryptIv) aes.encrypted (frames (packets client.tun.reads)) ∧
    after.socket.sent = client.socket.sent ++ told

theorem tells_nothing {client after : Client} (same : after.socket.sent = client.socket.sent) :
    Tells cipher aes client after :=
  ⟨[], List.nil_prefix, by simp [same]⟩

/-- A packet is sent whole, or the beginning of it is and the loop ends. -/
theorem sendPacket_tells (cipher : Cipher) (aes : AesSession) (packet : Packet) (client : Client)
    (uncancelled : Uncancelled client.socket) :
    ∃ told socket, told <+: mask (cipher aes.key aes.encryptIv) aes.encrypted (frame packet) ∧
      socket.sent = client.socket.sent ++ told ∧
      ((∃ how, (sendPacket cipher aes packet.bytes).run client =
          (.error how, { client with socket := socket })) ∨
        told = mask (cipher aes.key aes.encryptIv) aes.encrypted (frame packet) ∧
        Uncancelled socket ∧
        (sendPacket cipher aes packet.bytes).run client =
          (.ok { aes with encrypted := aes.encrypted + (frame packet).length },
            { client with socket := socket })) := by
  have fits : (frame packet).length ≤ maxPacket + 4 := by
    have small := packet.fits
    rw [frame_length]
    omega
  obtain ⟨told, part, sent, whole⟩ := send_tells
    (mask (cipher aes.key aes.encryptIv) aes.encrypted (frame packet)) client.socket
  rw [sendPacket, ← frame, AesSession.encrypt_ok fits]
  dsimp only
  cases ran : (send (mask (cipher aes.key aes.encryptIv) aes.encrypted (frame packet))).run
      client.socket with
  | mk answer socket =>
    rw [ran] at sent whole
    refine ⟨told, socket, part, sent, ?_⟩
    rcases answer with how | code | _
    · exact .inl ⟨how, bind_error (Client.onSocket_run ran)⟩
    · have answers := (send_uncancelled _).ends _ _ _ uncancelled ran
      rw [bind_ok (Client.onSocket_run ran)]
      left
      cases code with
      | operationCanceled => exact absurd rfl (answers.2 _ rfl)
      | _ => exact ⟨_, rfl⟩
    · have answers := (send_uncancelled _).ends _ _ _ uncancelled ran
      exact .inr ⟨whole rfl, answers.1, bind_ok (Client.onSocket_run ran)⟩

theorem tunReadLoop_tells (cipher : Cipher) (passes : Nat) (aes : AesSession) (client : Client)
    (uncancelled : Uncancelled client.socket) :
    Tells cipher aes client ((tunReadLoop cipher passes aes).run client).2 := by
  induction passes generalizing client aes with
  | zero => exact tells_nothing rfl
  | succ passes ih =>
    rw [tunReadLoop, bind_look_run]
    split
    · exact tells_nothing rfl
    · cases found : client.tun.reads with
      | nil =>
        have waits : Tun.read.run client.tun = (.error .waits, client.tun) := by
          simp [Tun.read, found]
        rw [bind_error (Client.onTun_run waits)]
        exact tells_nothing rfl
      | cons first rest =>
        cases first with
        | throws what =>
          have read : Tun.read.run client.tun =
              (.error (.throws what), { client.tun with reads := rest }) := by
            simp [Tun.read, found]
          rw [bind_error (Client.onTun_run read)]
          exact tells_nothing rfl
        | timeout =>
          have read : Tun.read.run client.tun = (.ok [], { client.tun with reads := rest }) := by
            simp [Tun.read, found]
          have none : packets client.tun.reads = packets rest := by
            simp [packets, found]
          obtain ⟨told, part, sent⟩ :=
            ih aes { client with tun := { client.tun with reads := rest } } uncancelled
          rw [bind_ok (Client.onTun_run read), if_pos rfl]
          exact ⟨told, none ▸ part, sent⟩
        | packet packet =>
          have read : Tun.read.run client.tun =
              (.ok packet.bytes, { client.tun with reads := rest }) := by
            simp [Tun.read, found]
          have some : frames (packets client.tun.reads) = frame packet ++ frames (packets rest) := by
            simp [packets, frames, found]
          rw [bind_ok (Client.onTun_run read), if_neg packet.nonempty]
          obtain ⟨told, socket, part, sent, ⟨how, stopped⟩ | ⟨rfl, uncancelled', ran⟩⟩ :=
            sendPacket_tells cipher aes packet { client with tun := { client.tun with reads := rest } }
              uncancelled
          · rw [bind_error stopped]
            refine ⟨told, ?_, sent⟩
            rw [some, mask_append]
            exact part.trans (List.prefix_append ..)
          · obtain ⟨later, part', sent'⟩ := ih
              { aes with encrypted := aes.encrypted + (frame packet).length }
              { client with socket := socket, tun := { client.tun with reads := rest } } uncancelled'
            rw [bind_ok ran]
            refine ⟨_, ?_, sent'.trans (by rw [sent, List.append_assoc])⟩
            rw [some, mask_append]
            exact (List.prefix_append_right_inj _).mpr part'

theorem startTunRead_tells (cipher : Cipher) (passes : Nat) (aes : AesSession) (client : Client)
    (uncancelled : Uncancelled client.socket) :
    Tells cipher aes client ((startTunRead cipher passes aes).run client).2 := by
  have tells := tunReadLoop_tells cipher passes aes client uncancelled
  cases ran : (tunReadLoop cipher passes aes).run client with
  | mk answer after =>
    rw [ran] at tells
    by_cases thrown : ∃ what, answer = .error (.throws what)
    · obtain ⟨what, rfl⟩ := thrown
      rw [startTunRead, tryCatch_throws ran]
      exact tells
    · rw [startTunRead, tryCatch_body ran fun what same => thrown ⟨what, same⟩]
      exact tells

/-- **Whatever fails, the packets come whole, in their order, and none is missing in between.**
A client behind the introduction the server expects (a header of 256 and the login with its
size, which `startAsync` does not send) runs its loop, whose sends may stop anywhere with any
error but a cancellation (only the signal handler cancels, with stop requested), and the server
runs `startConnection` on as much of it all as arrives, in any pieces and with any failure in
between: what the server's tun device is given are the first packets of those the client's device
has read. -/
theorem packets_in_order (setup : Setup) (start : Lifecycle) (client : Client) (aes : AesSession)
    (passes : Nat) (sealed block login : Bytes)
    (length : sealed.length = 256) (opens : setup.rsa.decrypt sealed = .ok block)
    (short : login.length ≤ 200) (mirrored : Mirrored aes (sessionOf block))
    (inStep : aes.encrypted = 4 + login.length)
    (uncancelled : Uncancelled client.socket)
    (introduced : client.socket.sent = introduction setup.cipher sealed block login)
    (arrives : start.server.con.socket.stream <+:
      ((startTunRead setup.cipher passes aes).run client).2.socket.sent) :
    ∃ handed, handed <+: packets client.tun.reads ∧
      ((startConnection setup).run start).2.server.tun.written =
        start.server.tun.written ++ handed.map Packet.bytes := by
  obtain ⟨told, part, wire⟩ := startTunRead_tells setup.cipher passes aes client uncancelled
  rw [wire, introduced] at arrives
  rw [mirrored.key, mirrored.there, inStep] at part
  have coming := arrives.trans ((List.prefix_append_right_inj _).mpr part)
  exact (startConnection_hands length opens short (packets client.tun.reads)
    start.server.tun.written).anyway ⟨coming, rfl⟩

/-- A client that is cut off in the header of its second packet. -/
def cutOff (sent : Bytes) : Client where
  socket := { sent := sent, accepts := [.ok 5, .ok 2, .error .connectionReset] }
  tun := { reads := [.packet ⟨[71], List.cons_ne_nil _ _, by decide⟩, .timeout,
    .packet ⟨[6, 0, 9], List.cons_ne_nil _ _, by decide⟩] }

/-- Its session, when it has sent its login. -/
def cutOffAes : AesSession where
  key := (sessionOf (List.replicate 64 0)).key
  encryptIv := (sessionOf (List.replicate 64 0)).decryptIv
  decryptIv := (sessionOf (List.replicate 64 0)).encryptIv
  encrypted := 9

theorem packets_in_order_cut_off :
    ∃ handed, handed <+: packets (cutOff []).tun.reads ∧
      ((startConnection oneListed).run (keyedPeer (sealedLogin plain (sessionOf (List.replicate 64 0))
        (utf8 "login") ++ [1, 0, 0, 0, 71, 3]))).2.server.tun.written = handed.map Packet.bytes := by
  have opens : oneListed.rsa.decrypt (List.replicate 256 0) = .ok (List.replicate 64 0) :=
    congrArg Except.ok (List.take_replicate ..)
  have wire (sent : Bytes) : ((startTunRead plain 4 cutOffAes).run (cutOff sent)).2.socket.sent =
      sent ++ [1, 0, 0, 0, 71] ++ [3, 0] := rfl
  have uncancelled (sent : Bytes) : Uncancelled (cutOff sent).socket :=
    ⟨by simp [cutOff], by simp [cutOff]⟩
  have arrives (more : Bytes) : (keyedPeer more).server.con.socket.stream =
      encode 256 ++ (List.replicate 256 0 ++ more) := List.append_nil _
  exact packets_in_order oneListed (keyedPeer _)
    (cutOff (introduction plain (List.replicate 256 0) (List.replicate 64 0) (utf8 "login")))
    cutOffAes 4 _ _ (utf8 "login") List.length_replicate opens (by decide) ⟨rfl, rfl, rfl⟩ rfl
    (uncancelled _) rfl ⟨[0], by
      refine Eq.trans ?_ (wire _).symm
      rw [arrives, introduction]
      simp only [List.append_assoc, List.cons_append, List.nil_append]⟩

end Vpverk.PacketIntegrity
