import Vpverk.ClientLoops

/-! `performDataExchange`, the server's loop from a client's socket to the tun
device, against the client's `startTunRead`. -/
namespace Vpverk.DataExchange
open Coroutine Octets Asioapi Peer ClientLoops

/-- What `performDataExchange` works on. The read lock is free whenever it asks
for it: nobody else holds it across an await. -/
structure Server where
  con : Connection := {}
  tun : Tun := {}

def Server.onCon {α : Type} (inner : Coroutine Connection α) : Coroutine Server α :=
  within Server.con (fun con server => { server with con := con }) inner

def Server.onTun {α : Type} (inner : Coroutine Tun α) : Coroutine Server α :=
  within Server.tun (fun tun server => { server with tun := tun }) inner

theorem Server.onCon_run {α : Type} {inner : Coroutine Connection α} {server : Server}
    {answer : Except Stop α} {con : Connection} (ran : inner.run server.con = (answer, con)) :
    (Server.onCon inner).run server = (answer, { server with con := con }) :=
  within_run ran

theorem Server.onTun_run {α : Type} {inner : Coroutine Tun α} {server : Server}
    {answer : Except Stop α} {tun : Tun} (ran : inner.run server.tun = (answer, tun)) :
    (Server.onTun inner).run server = (answer, { server with tun := tun }) :=
  within_run ran

/-- `max_bounds_size`. -/
def maxBoundsSize : Nat := 1500

/-- `is_active_nolock`. -/
def isActiveNolock : Coroutine Connection Bool := do
  match ← Connection.onSocket reliableIsOpen with
  | .ok isOpen => pure isOpen
  | .error code => throw ("reliable is open unexpected error code: " ++ code.message)

/-- The answer of a decryption, or `close` and an exception. -/
def decrypted (answer : Except ErrorCode (Bytes × AesSession)) (context : String) :
    Coroutine Connection (Bytes × AesSession) := do
  match answer with
  | .ok value => pure value
  | .error code => do
    Connection.close (utf8 "Decryption failure")
    throw (context ++ code.message)

/-- The header, and the check of the size it holds. -/
def readHeader (cipher : Cipher) (aes : AesSession) : Coroutine Connection (Nat × AesSession) := do
  let readCrypt ← Connection.readSomeReliable 4 0 "error read on data exchange: "
  let (header, aes) ← decrypted (aes.decrypt cipher readCrypt 4) "first decrypt fail: "
  if maxBoundsSize < (decode header).toNat then throw "they on trees jonny"
  else pure ((decode header).toNat, aes)

/-- The packet of the size the header holds. -/
def readPacket (cipher : Cipher) (aes : AesSession) (readRaw : Nat) :
    Coroutine Connection (Bytes × AesSession) := do
  let bufferCrypt ← Connection.readSomeReliable maxBoundsSize readRaw
    "error read on data exchange (2): "
  decrypted (aes.decrypt cipher (bufferCrypt.take readRaw) readRaw) "first decrypt fail (2): "

/-- What is read under the read lock. -/
def readFrame (cipher : Cipher) (aes : AesSession) : Coroutine Connection (Bytes × AesSession) := do
  let (readRaw, aes) ← readHeader cipher aes
  readPacket cipher aes readRaw

/-- The wait for something to read, and whether there is something: someone may
have used the socket between the wait and the read. `none` when the wait fails. -/
def waitData : Coroutine Connection (Option Bool) := do
  match ← Connection.onSocket waitRead with
  | some _ => pure none
  | none =>
    if (← Connection.onSocket available) = 0 then
      if ← isActiveNolock then pure (some false) else pure (some true)
    else pure (some true)

/-- `performDataExchange`, at most `passes` times round its loop. -/
def performDataExchange (cipher : Cipher) : Nat → AesSession → Coroutine Server Bool
  | 0, _ => running
  | passes + 1, aes => do
    match ← Server.onCon waitData with
    | none => pure false
    | some false => performDataExchange cipher passes aes
    | some true =>
      let (ipPacket, aes) ← Server.onCon (readFrame cipher aes)
      Server.onTun (Tun.write ipPacket)
      performDataExchange cipher passes aes

/-! ### Frames -/

/-- What `startTunRead` encrypts for a packet: its size and the packet. -/
def frame (packet : Packet) : Bytes := encode packet.bytes.length.toUInt32 ++ packet.bytes

/-- The packets among the reads. -/
def packets (reads : List TunRead) : List Packet :=
  reads.filterMap fun
    | .packet packet => some packet
    | .timeout | .throws _ => none

/-- The packets one behind the other, each with its size. -/
def frames (sequence : List Packet) : Bytes := sequence.flatMap frame

variable {cipher : Cipher} {aes : AesSession} {packet : Packet} {sequence : List Packet}

theorem frame_length (packet : Packet) : (frame packet).length = 4 + packet.bytes.length := by
  simp [frame]

/-- The size of a packet survives the cast to `uint32_t`. -/
theorem size_toNat : (packet.bytes.length.toUInt32).toNat = packet.bytes.length := by
  have := packet.fits
  unfold maxPacket at this
  simp
  omega

/-! ### The client sends frames -/

variable {client : Client}

/-- On a healthy socket a packet goes out as its frame, encrypted. -/
theorem sendPacket_healthy (client : Client) (aes : AesSession) (packet : Packet)
    (healthy : client.socket.Healthy) :
    ∃ socket, (sendPacket cipher aes packet.bytes).run client =
        (.ok { aes with encrypted := aes.encrypted + (frame packet).length },
          { client with socket := socket }) ∧
      Moved client.socket socket []
        (mask (cipher aes.key aes.encryptIv) aes.encrypted (frame packet)) := by
  have small := packet.fits
  unfold maxPacket at small
  have fits : (frame packet).length ≤ maxPacket + 4 := by
    rw [frame_length]
    unfold maxPacket
    omega
  obtain ⟨socket, sends, moved⟩ := send_healthy
    (mask (cipher aes.key aes.encryptIv) aes.encrypted (frame packet)) healthy
    (by rw [← List.length_pos_iff, mask_length, frame_length]; omega)
    (by rw [mask_length, frame_length]; unfold maxUint32 UInt32.size; omega)
  refine ⟨socket, ?_, moved⟩
  rw [sendPacket, ← frame, AesSession.encrypt_ok fits]
  exact bind_ok (Client.onSocket_run sends)

/-- The client's loop goes through its reads and waits for the next; it has sent
the frames of the packets, encrypted from where its session stood. -/
private theorem tunReadLoop_run (passes : Nat) (client : Client) (aes : AesSession)
    (going : client.stopRequested = false)
    (healthy : client.socket.Healthy) (calm : ∀ what, .throws what ∉ client.tun.reads)
    (enough : client.tun.reads.length < passes) :
    ∃ client', (tunReadLoop cipher passes aes).run client = (.error .waits, client') ∧
      client'.socket.sent = client.socket.sent ++
        mask (cipher aes.key aes.encryptIv) aes.encrypted (frames (packets client.tun.reads)) := by
  induction passes generalizing client aes with
  | zero => omega
  | succ passes ih =>
    rw [tunReadLoop, bind_look_run, if_neg (by simp [going])]
    cases found : client.tun.reads with
    | nil =>
      have waits : Tun.read.run client.tun = (.error .waits, client.tun) := by
        simp [Tun.read, found]
      exact ⟨client, bind_error (Client.onTun_run waits), by simp [packets, frames]⟩
    | cons first rest =>
      have calm' : ∀ what, .throws what ∉ rest := fun what member =>
        calm what (found ▸ List.mem_cons_of_mem _ member)
      have fewer : rest.length < passes := by simpa [found] using enough
      cases first with
      | throws what => exact absurd (found ▸ List.mem_cons_self ..) (calm what)
      | timeout =>
        have read : Tun.read.run client.tun = (.ok [], { client.tun with reads := rest }) := by
          simp [Tun.read, found]
        rw [bind_ok (Client.onTun_run read), if_pos rfl]
        exact ih { client with tun := { client.tun with reads := rest } } aes
          going healthy calm' fewer
      | packet packet =>
        have read : Tun.read.run client.tun =
            (.ok packet.bytes, { client.tun with reads := rest }) := by
          simp [Tun.read, found]
        obtain ⟨socket, ran, moved⟩ := sendPacket_healthy
          { client with tun := { client.tun with reads := rest } } aes packet healthy
        rw [bind_ok (Client.onTun_run read), if_neg packet.nonempty, bind_ok ran]
        obtain ⟨client', ran', sent⟩ := ih
          { client with socket := socket, tun := { client.tun with reads := rest } }
          { aes with encrypted := aes.encrypted + (frame packet).length } going moved.healthy calm' fewer
        refine ⟨client', ran', ?_⟩
        have later : frames (packets (.packet packet :: rest)) =
            frame packet ++ frames (packets rest) := by
          simp [packets, frames]
        rw [sent, moved.sent, later, mask_append, List.append_assoc]

/-! ### The server takes them apart -/

variable (con : Connection) (aes : AesSession) {later : Bytes}

/-- The size an encrypted header stands for. -/
def headerSize (cipher : Cipher) (aes : AesSession) (header : Bytes) : Nat :=
  (decode (mask (cipher aes.key aes.decryptIv) aes.decrypted header)).toNat

variable {header taken : Bytes} {readRaw : Nat}

/-- Four bytes are a header; a size above the largest packet ends the session. -/
theorem readHeader_run (cipher : Cipher) (healthy : con.socket.Healthy)
    (begins : con.socket.stream = header ++ later) (four : header.length = 4) :
    ∃ socket, (readHeader cipher aes).run con =
        (if maxBoundsSize < headerSize cipher aes header then
          .error (.throws "they on trees jonny")
        else .ok (headerSize cipher aes header, { aes with decrypted := aes.decrypted + 4 }),
          { con with socket := socket }) ∧
      Moved con.socket socket header [] := by
  have head : con.socket.stream.take (needed 4 0) = header := by
    rw [begins]
    exact List.take_left' four
  obtain ⟨socket, ran, moved⟩ := con.readSomeReliable_healthy 4 0
    "error read on data exchange: " healthy (Nat.zero_le _) (by decide)
    (by rw [begins, List.length_append, four]; exact Nat.le_add_right _ _)
  rw [head] at ran moved
  refine ⟨socket, ?_, moved⟩
  rw [readHeader, bind_ok ran, AesSession.decrypt_ok (Nat.le_of_eq four)]
  simp only [decrypted, bind_pure_run, four]
  rw [← headerSize]
  by_cases tooLong : maxBoundsSize < headerSize cipher aes header
  · rw [if_pos tooLong, if_pos tooLong, throw_run]
  · rw [if_neg tooLong, if_neg tooLong, pure_run]

/-- Four bytes that decrypt to a packet's size are its header. -/
theorem readHeader_healthy (healthy : con.socket.Healthy)
    (begins : con.socket.stream = mask (cipher aes.key aes.decryptIv) aes.decrypted
      (encode packet.bytes.length.toUInt32) ++ later) :
    ∃ socket, (readHeader cipher aes).run con =
        (.ok (packet.bytes.length, { aes with decrypted := aes.decrypted + 4 }),
          { con with socket := socket }) ∧
      Moved con.socket socket (mask (cipher aes.key aes.decryptIv) aes.decrypted
        (encode packet.bytes.length.toUInt32)) [] := by
  obtain ⟨socket, ran, moved⟩ := readHeader_run con aes cipher healthy begins (by simp)
  have size : headerSize cipher aes (mask (cipher aes.key aes.decryptIv) aes.decrypted
      (encode packet.bytes.length.toUInt32)) = packet.bytes.length := by
    rw [headerSize, mask_mask, decode_encode, size_toNat]
  have inBounds : ¬ maxBoundsSize < packet.bytes.length := Nat.not_lt.mpr packet.fits
  rw [size, if_neg inBounds] at ran
  exact ⟨socket, ran, moved⟩

/-- As many bytes as `read_some` asks for are read, and as many as the size says
are decrypted. -/
theorem readPacket_run (cipher : Cipher) (healthy : con.socket.Healthy) (fits : readRaw ≤ maxBoundsSize)
    (begins : con.socket.stream = taken ++ later)
    (length : taken.length = needed maxBoundsSize readRaw) :
    ∃ socket, (readPacket cipher aes readRaw).run con =
        (.ok (mask (cipher aes.key aes.decryptIv) aes.decrypted (taken.take readRaw),
          { aes with decrypted := aes.decrypted + readRaw }), { con with socket := socket }) ∧
      Moved con.socket socket taken [] := by
  have enough : readRaw ≤ taken.length := by
    rw [length, needed]
    split <;> omega
  have head : con.socket.stream.take (needed maxBoundsSize readRaw) = taken := by
    rw [begins]
    exact List.take_left' length
  obtain ⟨socket, ran, moved⟩ := con.readSomeReliable_healthy maxBoundsSize readRaw
    "error read on data exchange (2): " healthy fits (by decide)
    (by rw [begins, List.length_append, length]; exact Nat.le_add_right _ _)
  rw [head] at ran moved
  refine ⟨socket, ?_, moved⟩
  have some_taken : (taken.take readRaw).length = readRaw := by
    rw [List.length_take, Nat.min_eq_left enough]
  rw [readPacket, bind_ok ran, AesSession.decrypt_ok (Nat.le_of_eq some_taken)]
  simp only [decrypted, pure_run, some_taken]

/-- The bytes behind a header that decrypt to the packet are read as the packet. -/
theorem readPacket_healthy (healthy : con.socket.Healthy)
    (begins : con.socket.stream =
      mask (cipher aes.key aes.decryptIv) aes.decrypted packet.bytes ++ later) :
    ∃ socket, (readPacket cipher aes packet.bytes.length).run con =
        (.ok (packet.bytes, { aes with decrypted := aes.decrypted + packet.bytes.length }),
          { con with socket := socket }) ∧
      Moved con.socket socket (mask (cipher aes.key aes.decryptIv) aes.decrypted packet.bytes) [] := by
  have some_bytes := List.length_pos_iff.mpr packet.nonempty
  have asked : needed maxBoundsSize packet.bytes.length = packet.bytes.length :=
    if_neg (by omega)
  obtain ⟨socket, ran, moved⟩ := readPacket_run con aes cipher healthy packet.fits begins
    (by rw [asked, mask_length])
  rw [List.take_of_length_le (by simp), mask_mask] at ran
  exact ⟨socket, ran, moved⟩

/-- A whole frame is read as its packet, and the session moves on by the frame. -/
theorem readFrame_whole (healthy : con.socket.Healthy)
    (begins : con.socket.stream =
      mask (cipher aes.key aes.decryptIv) aes.decrypted (frame packet) ++ later) :
    ∃ socket, (readFrame cipher aes).run con =
        (.ok (packet.bytes, { aes with decrypted := aes.decrypted + (frame packet).length }),
          { con with socket := socket }) ∧
      Moved con.socket socket
        (mask (cipher aes.key aes.decryptIv) aes.decrypted (frame packet)) [] := by
  rw [frame, mask_append, List.append_assoc] at begins
  obtain ⟨socket, header, moved⟩ := readHeader_healthy con aes healthy begins
  have rest : socket.stream = _ := List.append_cancel_left (moved.stream.symm.trans begins)
  obtain ⟨socket', body, moved'⟩ := readPacket_healthy { con with socket := socket }
    { aes with decrypted := aes.decrypted + 4 } moved.healthy rest
  refine ⟨socket', ?_, ?_⟩
  · rw [readFrame, bind_ok header]
    apply body.trans
    rw [frame_length, Nat.add_assoc]
  · rw [frame, mask_append]
    exact moved.trans moved'

/-- A part of a frame is waited for. -/
theorem readFrame_part (packet : Packet) (healthy : con.socket.Healthy)
    (part : con.socket.stream <+: mask (cipher aes.key aes.decryptIv) aes.decrypted (frame packet))
    (short : con.socket.stream.length < (frame packet).length) :
    ∃ socket, (readFrame cipher aes).run con = (.error .waits, { con with socket := socket }) ∧
      Moved con.socket socket con.socket.stream [] := by
  rw [frame, mask_append] at part
  rcases Nat.lt_or_ge con.socket.stream.length 4 with little | header
  · obtain ⟨socket, ran, moved⟩ := con.readSomeReliable_waits 4 0
      "error read on data exchange: " healthy (Nat.zero_le _) (by decide) little
    exact ⟨socket, bind_error (bind_error ran), moved⟩
  · obtain ⟨rest, begins⟩ : _ <+: con.socket.stream :=
      List.prefix_of_prefix_length_le (List.prefix_append _ _) part (by simpa using header)
    obtain ⟨socket, ran, moved⟩ := readHeader_healthy con aes healthy begins.symm
    have left : socket.stream = rest :=
      List.append_cancel_left (moved.stream.symm.trans begins.symm)
    have lengths := congrArg List.length begins
    rw [List.length_append, mask_length, encode_length] at lengths
    have asked : needed maxBoundsSize packet.bytes.length = packet.bytes.length :=
      if_neg (by have := List.length_pos_iff.mpr packet.nonempty; omega)
    rw [frame_length] at short
    obtain ⟨socket', waits, moved'⟩ := Connection.readSomeReliable_waits
      { con with socket := socket } maxBoundsSize packet.bytes.length
      "error read on data exchange (2): " moved.healthy packet.fits (by decide)
      (by rw [asked, left]; omega)
    refine ⟨socket', ?_, ?_⟩
    · rw [readFrame, bind_ok ran]
      exact bind_error waits
    · have together := moved.trans moved'
      rw [left, begins] at together
      exact together

/-! ### One packet after the other -/

theorem frames_cons (sequence : List Packet) :
    frames (packet :: sequence) = frame packet ++ frames sequence := rfl

theorem frames_nil_iff : frames sequence = [] ↔ sequence = [] := by
  cases sequence with
  | nil => simp [frames]
  | cons packet rest =>
    have := frame_length packet
    simp only [frames_cons, List.append_eq_nil_iff, reduceCtorEq, iff_false, not_and]
    intro empty
    simp [empty] at this
    omega

/-- With nothing to come the wait goes on. -/
private theorem waitData_idle (healthy : con.socket.Healthy) (idle : con.socket.arrivals = []) :
    waitData.run con = (.error .waits, con) := by
  have waits : waitRead.run con.socket = (.error .waits, con.socket) := by
    simp [waitRead, healthy.isOpen, idle]
  exact bind_error (Connection.onSocket_run waits)

private theorem isActiveNolock_healthy (healthy : con.socket.Healthy) :
    ∃ socket, isActiveNolock.run con = (.ok true, { con with socket := socket }) ∧
      Moved con.socket socket [] [] := by
  obtain ⟨socket, isOpen, moved⟩ := reliableIsOpen_healthy healthy
  exact ⟨socket, (bind_ok (Connection.onSocket_run isOpen)).trans rfl, moved⟩

/-- A wait that was for nothing uses up what woke it. -/
private theorem waitData_nothing {others : List Arrival} (healthy : con.socket.Healthy)
    (found : con.socket.arrivals = .nothing :: others) :
    ∃ socket, waitData.run con = (.ok (some false), { con with socket := socket }) ∧
      Moved con.socket socket [] [] ∧ socket.arrivals.length ≤ others.length := by
  have ready : waitRead.run con.socket = (.ok none, con.socket) := by
    simp [waitRead, healthy.isOpen, found]
  have empty : available.run con.socket = (.ok 0, { con.socket with arrivals := others }) := by
    simp [available, healthy.isOpen, found]
  have popped : Moved con.socket { con.socket with arrivals := others } [] [] := by
    refine ⟨⟨healthy.isOpen, fun code member => ?_, healthy.accepts, healthy.noStray⟩, ?_, ?_, ?_⟩
    · exact healthy.arrives code (found ▸ List.mem_cons_of_mem _ member)
    · simp [Socket.stream, found, Arrival.content]
    · simp
    · simp [found]
  obtain ⟨socket, active, moved⟩ := isActiveNolock_healthy
    { con with socket := { con.socket with arrivals := others } } popped.healthy
  refine ⟨socket, ?_, popped.trans moved, moved.fewer⟩
  rw [waitData, bind_ok (Connection.onSocket_run ready)]
  apply (bind_ok (Connection.onSocket_run empty)).trans
  rw [if_pos rfl]
  exact (bind_ok active).trans rfl

/-- With bytes to find it finds them, and takes none. -/
theorem waitData_bytes {segment : Segment} {others : List Arrival}
    (healthy : con.socket.Healthy) (found : con.socket.arrivals = .bytes segment :: others) :
    waitData.run con = (.ok (some true), con) := by
  have ready : waitRead.run con.socket = (.ok none, con.socket) := by
    simp [waitRead, healthy.isOpen, found]
  have some_bytes : available.run con.socket = (.ok segment.bytes.length, con.socket) := by
    simp [available, healthy.isOpen, found]
  rw [waitData, bind_ok (Connection.onSocket_run ready)]
  apply (bind_ok (Connection.onSocket_run some_bytes)).trans
  rw [if_neg (by simpa using segment.nonempty)]
  rfl

/-- What has arrived is a beginning of what the session makes of the packets. -/
structure Underway (cipher : Cipher) (server : Server) (aes : AesSession)
    (sequence : List Packet) : Prop where
  healthy : server.con.socket.Healthy
  calm : server.tun.writeErrors = []
  part : server.con.socket.stream <+:
    mask (cipher aes.key aes.decryptIv) aes.decrypted (frames sequence)

/-- What a pass of the loop comes to: a wait for more, with nothing unread if all
was there and no packet was left; or the next pass, with less to come. -/
inductive Pass (cipher : Cipher) (passes : Nat) (server : Server) (aes : AesSession) :
    List Packet → Prop
  | waits {sequence : List Packet} (server' : Server)
      (ran : (performDataExchange cipher (passes + 1) aes).run server = (.error .waits, server'))
      (tun : server'.tun = server.tun)
      (complete : server.con.socket.stream.length = (frames sequence).length →
        sequence = [] ∧ server'.con.socket.stream = []) : Pass cipher passes server aes sequence
  | goesOn (done rest : List Packet) (server' : Server) (aes' : AesSession)
      (ran : (performDataExchange cipher (passes + 1) aes).run server =
        (performDataExchange cipher passes aes').run server')
      (written : server'.tun.written = server.tun.written ++ done.map Packet.bytes)
      (underway : Underway cipher server' aes' rest)
      (complete : server.con.socket.stream.length = (frames (done ++ rest)).length →
        server'.con.socket.stream.length = (frames rest).length)
      (fewer : server'.con.socket.arrivals.length + rest.length <
        server.con.socket.arrivals.length + (done ++ rest).length) :
      Pass cipher passes server aes (done ++ rest)

/-- The server once it has handed on a packet, with what is left of its socket. -/
def Server.handed (server : Server) (socket : Socket) (packet : Packet) : Server where
  con := { server.con with socket := socket }
  tun := { server.tun with written := server.tun.written ++ [packet.bytes] }

variable {server : Server} {passes : Nat} {segment : Segment} {others : List Arrival}

private theorem pass_nothing (underway : Underway cipher server aes sequence)
    (found : server.con.socket.arrivals = .nothing :: others) :
    Pass cipher passes server aes sequence := by
  obtain ⟨socket, ran, moved, fewer⟩ := waitData_nothing server.con underway.healthy found
  have same : server.con.socket.stream = socket.stream := by simpa using moved.stream
  refine .goesOn [] sequence { server with con := { server.con with socket := socket } } aes
    (bind_ok (Server.onCon_run ran)) (by simp)
    ⟨moved.healthy, underway.calm, same ▸ underway.part⟩ (fun whole => same ▸ whole) ?_
  rw [found, List.length_cons, List.nil_append]
  change socket.arrivals.length + sequence.length < _
  omega

/-- With bytes to read, a pass reads a frame. -/
private theorem pass_bytes (underway : Underway cipher server aes sequence)
    (found : server.con.socket.arrivals = .bytes segment :: others) :
    Pass cipher passes server aes sequence := by
  obtain ⟨healthy, calm, part⟩ := underway
  have ready := waitData_bytes server.con healthy found
  have more : server.con.socket.stream ≠ [] := by
    simp [Socket.stream, found, Arrival.content, segment.nonempty]
  cases sequence with
  | nil => exact absurd (List.prefix_nil.mp part) more
  | cons packet remaining =>
    rw [frames_cons, mask_append] at part
    rcases Nat.lt_or_ge server.con.socket.stream.length (frame packet).length with short | whole
    · obtain ⟨socket, waits, -⟩ := readFrame_part server.con aes packet healthy
        (List.prefix_of_prefix_length_le part (List.prefix_append _ _)
          (by rw [mask_length]; omega)) short
      refine .waits { server with con := { server.con with socket := socket } } ?_ rfl ?_
      · rw [performDataExchange, bind_ok (Server.onCon_run ready)]
        exact bind_error (Server.onCon_run waits)
      · intro total
        rw [frames_cons, List.length_append] at total
        omega
    · obtain ⟨later, begins⟩ := List.prefix_of_prefix_length_le
        (List.prefix_append _ _) part (by rwa [mask_length])
      obtain ⟨socket, ran, moved⟩ := readFrame_whole server.con aes healthy begins.symm
      have left : socket.stream = later :=
        List.append_cancel_left (moved.stream.symm.trans begins.symm)
      have write : (Server.onTun (Tun.write packet.bytes)).run
          { server with con := { server.con with socket := socket } } =
          (.ok (), server.handed socket packet) :=
        Server.onTun_run (by simp [Tun.write, calm])
      refine .goesOn [packet] remaining (server.handed socket packet)
        { aes with decrypted := aes.decrypted + (frame packet).length } ?_ rfl
        ⟨moved.healthy, calm, ?_⟩ ?_ ?_
      · rw [performDataExchange, bind_ok (Server.onCon_run ready)]
        exact (bind_ok (Server.onCon_run ran)).trans (bind_ok write)
      · rw [← begins] at part
        change socket.stream <+: _
        rw [left]
        exact (List.prefix_append_right_inj _).mp part
      · intro total
        have lengths := congrArg List.length begins
        rw [List.length_append, mask_length, total, List.singleton_append, frames_cons,
          List.length_append] at lengths
        change socket.stream.length = _
        rw [left]
        omega
      · have fewer := moved.fewer
        change socket.arrivals.length + remaining.length < _
        simp only [List.singleton_append, List.length_cons]
        omega

private theorem performDataExchange_pass (underway : Underway cipher server aes sequence) :
    Pass cipher passes server aes sequence := by
  cases found : server.con.socket.arrivals with
  | nil =>
    have dry : server.con.socket.stream = [] := by simp [Socket.stream, found]
    refine .waits server
      (bind_error (Server.onCon_run (waitData_idle _ underway.healthy found))) rfl fun whole => ?_
    rw [dry, List.length_nil] at whole
    exact ⟨frames_nil_iff.mp (List.length_eq_zero_iff.mp whole.symm), dry⟩
  | cons first others =>
    cases first with
    | fails code => exact absurd (found ▸ List.mem_cons_self ..) (underway.healthy.arrives code)
    | nothing => exact pass_nothing aes underway found
    | bytes segment => exact pass_bytes aes underway found

/-- Where the loop stands after some passes over a beginning of what the client
sent: it has handed on the first packets, one by one; and with all of it there
and passes enough, it has handed on all of them and waits, nothing unread. -/
private theorem performDataExchange_run (underway : Underway cipher server aes sequence) :
    ∃ done rest how server', sequence = done ++ rest ∧ (how = .waits ∨ how = .runs) ∧
      (performDataExchange cipher passes aes).run server = (.error how, server') ∧
      server'.tun.written = server.tun.written ++ done.map Packet.bytes ∧
      (server.con.socket.stream.length = (frames sequence).length →
        server.con.socket.arrivals.length + sequence.length < passes →
        how = .waits ∧ rest = [] ∧ server'.con.socket.stream = []) := by
  induction passes generalizing server aes sequence with
  | zero => exact ⟨[], sequence, .runs, server, rfl, .inr rfl, rfl, by simp, by omega⟩
  | succ passes ih =>
    cases performDataExchange_pass aes underway with
    | waits server' ran tun complete =>
      exact ⟨[], sequence, .waits, server', rfl, .inl rfl, ran, by simp [tun],
        fun total _ => ⟨rfl, complete total⟩⟩
    | goesOn done rest server' aes' ran written underway' complete fewer =>
      obtain ⟨done', rest', how, after, split, hows, ran', written', complete'⟩ :=
        ih aes' underway'
      refine ⟨done ++ done', rest', how, after, ?_, hows, ran.trans ran', ?_, ?_⟩
      · rw [split, List.append_assoc]
      · rw [written', written, List.map_append, List.append_assoc]
      · intro total enough
        exact complete' (complete total) (by omega)

/-- **The client's packets reach the server's tun device.** The two sessions are
mirrored and in step, and the connection does not fail; how it cuts the bytes,
how much each write takes, and where timeouts fall between the packets is
arbitrary. The client goes through its reads and waits for more. Of whatever
beginning of its bytes has arrived, after any number of passes, the server has
handed on the first packets, whole and in order; once all of them have arrived
and been taken, exactly the client's packets. -/
theorem client_to_server (cipher : Cipher) (clientAes serverAes : AesSession) (client : Client)
    (server : Server) (clientPasses : Nat) (mirrored : Mirrored clientAes serverAes)
    (inStep : clientAes.encrypted = serverAes.decrypted)
    (clientHealthy : client.socket.Healthy) (serverHealthy : server.con.socket.Healthy)
    (going : client.stopRequested = false) (calm : ∀ what, .throws what ∉ client.tun.reads)
    (accepting : server.tun.writeErrors = []) (enough : client.tun.reads.length < clientPasses) :
    ∃ client' wire, (startTunRead cipher clientPasses clientAes).run client =
        (.error .waits, client') ∧
      client'.socket.sent = client.socket.sent ++ wire ∧
      (∀ passes, server.con.socket.stream <+: wire →
        ∃ done how server', done <+: packets client.tun.reads ∧ (how = .waits ∨ how = .runs) ∧
          (performDataExchange cipher passes serverAes).run server = (.error how, server') ∧
          server'.tun.written = server.tun.written ++ done.map Packet.bytes) ∧
      (∀ passes, server.con.socket.stream = wire →
        server.con.socket.arrivals.length + (packets client.tun.reads).length < passes →
        ∃ server', (performDataExchange cipher passes serverAes).run server =
            (.error .waits, server') ∧
          server'.tun.written =
            server.tun.written ++ (packets client.tun.reads).map Packet.bytes ∧
          server'.con.socket.stream = []) := by
  obtain ⟨client', ran, sent⟩ := tunReadLoop_run clientPasses client clientAes going
    clientHealthy calm enough
  refine ⟨client', _, tryCatch_body ran (by simp), sent, ?_, ?_⟩
  · intro passes part
    rw [mirrored.key, mirrored.there, inStep] at part
    obtain ⟨done, rest, how, server', split, hows, ran', written, _⟩ :=
      performDataExchange_run serverAes ⟨serverHealthy, accepting, part⟩
    exact ⟨done, how, server', ⟨rest, split.symm⟩, hows, ran', written⟩
  · intro passes whole enough
    rw [mirrored.key, mirrored.there, inStep] at whole
    have underway : Underway cipher server serverAes (packets client.tun.reads) :=
      ⟨serverHealthy, accepting, whole ▸ List.prefix_rfl⟩
    obtain ⟨done, rest, how, server', split, _, ran', written, complete⟩ :=
      performDataExchange_run serverAes underway
    obtain ⟨rfl, rfl, empty⟩ := complete (by rw [whole, mask_length]) enough
    rw [List.append_nil] at split
    exact ⟨server', ran', split ▸ written, empty⟩

/-- A cipher that counts. -/
def countingCipher : Cipher := fun _ _ position => position.toUInt8

/-- Two packets with a timeout between them, over a socket that takes two bytes
at first. -/
def twoPackets : Client where
  socket := { accepts := [.ok 2] }
  tun := { reads := [.packet ⟨[0x45], by simp, by decide⟩, .timeout,
    .packet ⟨[1, 2], by simp, by decide⟩] }

/-- Their bytes, cut inside the first header and inside the second packet. -/
def cutBytes : Server where
  con := { socket := { arrivals := [.bytes ⟨[1, 1, 2], by simp⟩, .nothing,
    .bytes ⟨[3, 65, 7, 6, 7, 8, 8], by simp⟩, .bytes ⟨[8], by simp⟩] } }

theorem client_to_server_two_packets :
    ∃ server', (performDataExchange countingCipher 8 ⟨[], [], [], 0, 0⟩).run cutBytes =
        (.error .waits, server') ∧
      server'.tun.written = [[0x45], [1, 2]] := by
  obtain ⟨client', wire, ran, sent, _, arrived⟩ := client_to_server countingCipher
    ⟨[], [], [], 0, 0⟩ ⟨[], [], [], 0, 0⟩ twoPackets cutBytes 4 ⟨rfl, rfl, rfl⟩ rfl
    ⟨rfl, by simp [twoPackets], by simp [twoPackets], rfl⟩
    ⟨rfl, by simp [cutBytes], by simp [cutBytes], rfl⟩ rfl (by simp [twoPackets]) rfl
    (by decide)
  cases ran.symm.trans (rfl : (startTunRead countingCipher 4 ⟨[], [], [], 0, 0⟩).run twoPackets = _)
  obtain ⟨server', ran', written, _⟩ := arrived 8 (Eq.trans (by rfl) sent) (by decide)
  exact ⟨server', ran', written⟩

end Vpverk.DataExchange
