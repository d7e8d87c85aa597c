import Vpverk.Peer

/-! The client's coroutines once it is connected: `read_block_size` and the two
loops between the socket and the tun device. -/
namespace Vpverk.ClientLoops
open Coroutine Octets Asioapi Peer

/-- What the client's loops work on. -/
structure Client where
  socket : Socket := {}
  tun : Tun := {}
  stopRequested : Bool := false

def Client.onSocket {α : Type} (inner : Coroutine Socket α) : Coroutine Client α :=
  within Client.socket (fun socket client => { client with socket := socket }) inner

def Client.onTun {α : Type} (inner : Coroutine Tun α) : Coroutine Client α :=
  within Client.tun (fun tun client => { client with tun := tun }) inner

theorem Client.onSocket_run {α : Type} {inner : Coroutine Socket α} {client : Client}
    {answer : Except Stop α} {socket : Socket} (ran : inner.run client.socket = (answer, socket)) :
    (Client.onSocket inner).run client = (answer, { client with socket := socket }) :=
  within_run ran

theorem Client.onTun_run {α : Type} {inner : Coroutine Tun α} {client : Client}
    {answer : Except Stop α} {tun : Tun} (ran : inner.run client.tun = (answer, tun)) :
    (Client.onTun inner).run client = (answer, { client with tun := tun }) :=
  within_run ran

/-- What stands where a size would in an error message. -/
def errorMark : UInt32 := 0xFFFFFFFF

/-- A text, one character a byte. -/
def text (bytes : Bytes) : String := String.ofList (bytes.map fun byte => Char.ofNat byte.toNat)

/-- An `async_receive` with `message_peek` into a buffer of zeros that nobody
awaits: the buffer holds what could be seen at once, and the handler is left to
resume the coroutine at its next await. -/
def receivePeek (size : Nat) : Coroutine Socket Bytes := ⟨fun socket =>
  let zeros := List.replicate size (0 : UInt8)
  match socket.arrivals with
  | .bytes segment :: _ =>
    (.ok (segment.bytes.take size ++ zeros.drop segment.bytes.length),
      { socket with strayHandler := true })
  | .nothing :: rest => (.ok zeros, { socket with arrivals := rest, strayHandler := true })
  | [] | .fails _ :: _ => (.ok zeros, { socket with strayHandler := true })⟩

/-- `THROW_EXP_EC`. -/
def throwExpEc {α : Type} (inner : Coroutine Socket (Except ErrorCode α)) : Coroutine Socket α := do
  match ← inner with
  | .ok value => pure value
  | .error code => throw code.message

/-- The block of `read_block_size` that an error message ends in. -/
def readError {α : Type} : Coroutine Socket α := do
  let bytes ← throwExpEc (readSomeUnreliable 256 0)
  match ← readSomeUnreliable 256 0 with
  | .ok _ => throw "expected ec, but got read"
  | .error .eof => throw ("error from server" ++ text (bytes.takeWhile (· ≠ 0)))
  | .error code => throw ("expected normal ec == eof, but got: " ++ code.message)

/-- The end of `read_block_size`: what was read is the size, unless it is the
error mark and an error message follows. -/
def sizeOrError (sizeCrypted : Bytes) (size : UInt32) : Coroutine Socket UInt32 := do
  if decode sizeCrypted = errorMark then
    let error ← receivePeek (utf8 "_Error: ").length
    -- Otherwise the encryption happened to make the mark.
    if error = utf8 "_Error: " then readError else pure size
  else pure size

/-- `read_block_size`. -/
def readBlockSize (cipher : Cipher) (aes : AesSession) (encryptionUsed : Bool) :
    Coroutine Socket (UInt32 × AesSession) := do
  let sizeCrypted ← throwExpEc (readSome 4 0)
  if encryptionUsed then
    match aes.decrypt cipher sizeCrypted 4 with
    | .error code => throw code.message
    | .ok (raw, aes) =>
      let size ← sizeOrError sizeCrypted (decode raw)
      pure (size, aes)
  else
    let size ← sizeOrError sizeCrypted (decode sizeCrypted)
    pure (size, aes)

theorem grows_throwExpEc {α : Type} {inner : Coroutine Socket (Except ErrorCode α)}
    (grows : Grows inner) : Grows (throwExpEc inner) := by
  apply grows.bind
  intro answer
  cases answer with
  | ok value => exact grows_pure _
  | error code => exact grows_stop _

theorem grows_receivePeek (size : Nat) : Grows (receivePeek size) := by
  intro socket
  unfold receivePeek
  dsimp only
  split <;> exact List.prefix_rfl

theorem grows_readError {α : Type} : Grows (readError : Coroutine Socket α) := by
  apply (grows_throwExpEc (grows_readSomeUnreliable _ _)).bind
  intro _
  apply (grows_readSomeUnreliable _ _).bind
  intro answer
  split <;> exact grows_stop _

theorem grows_sizeOrError (sizeCrypted : Bytes) (size : UInt32) :
    Grows (sizeOrError sizeCrypted size) := by
  unfold sizeOrError
  split
  · apply (grows_receivePeek _).bind
    intro error
    split
    · exact grows_readError
    · exact grows_pure _
  · exact grows_pure _

theorem grows_readBlockSize (cipher : Cipher) (aes : AesSession) (encryptionUsed : Bool) :
    Grows (readBlockSize cipher aes encryptionUsed) := by
  apply (grows_throwExpEc (grows_readSome _ _)).bind
  intro sizeCrypted
  split
  · split
    · exact grows_stop _
    · exact (grows_sizeOrError _ _).bind fun _ => grows_pure _
  · exact (grows_sizeOrError _ _).bind fun _ => grows_pure _

/-! ### The peek -/

/-- A buffer of zeros reads "_Error: " only where the bytes written to it do. -/
private theorem seen_begins (bytes : Bytes)
    (seen : bytes.take (utf8 "_Error: ").length ++
      (List.replicate (utf8 "_Error: ").length 0).drop bytes.length = utf8 "_Error: ") :
    utf8 "_Error: " <+: bytes := by
  by_cases short : bytes.length < (utf8 "_Error: ").length
  · have zero : (0 : UInt8) ∈ utf8 "_Error: " := by
      rw [← seen, List.drop_replicate, List.mem_append, List.mem_replicate]
      exact .inr ⟨by omega, rfl⟩
    exact absurd zero (by decide)
  · rw [List.drop_of_length_le (by simpa using short), List.append_nil] at seen
    exact seen ▸ List.take_prefix ..

/-- What the peek has seen at once is what stands in the buffer. It takes nothing,
and its handler is left behind. -/
theorem receivePeek_leaves (socket : Socket) :
    ∃ error after, (receivePeek (utf8 "_Error: ").length).run socket = (.ok error, after) ∧
      after.isOpen = socket.isOpen ∧ after.strayHandler = true ∧ after.stream = socket.stream ∧
      (error = utf8 "_Error: " → ∃ segment rest, after.arrivals = .bytes segment :: rest ∧
        utf8 "_Error: " <+: segment.bytes) := by
  have unseen : List.replicate (utf8 "_Error: ").length (0 : UInt8) ≠ utf8 "_Error: " := by decide
  obtain ⟨isOpen, arrivals, accepts, sent, strayHandler⟩ := socket
  cases arrivals with
  | nil => exact ⟨_, _, rfl, rfl, rfl, rfl, fun seen => absurd seen unseen⟩
  | cons arrival rest =>
    cases arrival with
    | bytes segment =>
      exact ⟨_, _, rfl, rfl, rfl, rfl, fun seen => ⟨segment, rest, rfl, seen_begins _ seen⟩⟩
    | nothing | fails => exact ⟨_, _, rfl, rfl, rfl, rfl, fun seen => absurd seen unseen⟩

/-- Where the error mark stands, the size is returned or what follows is undefined,
and either way a handler is left behind. -/
theorem sizeOrError_marked {sizeCrypted : Bytes} (socket : Socket) (size : UInt32)
    (isOpen : socket.isOpen = true) (marked : decode sizeCrypted = errorMark) :
    ∃ answer after, (sizeOrError sizeCrypted size).run socket = (answer, after) ∧
      after.strayHandler = true ∧ after.stream = socket.stream ∧
      (answer = .ok size ∨ answer = .error .undefined ∧ utf8 "_Error: " <+: socket.stream) := by
  obtain ⟨error, after, peeked, stillOpen, stray, kept, seen⟩ := receivePeek_leaves socket
  rw [isOpen] at stillOpen
  rw [sizeOrError, if_pos marked, bind_ok peeked]
  split
  · rename_i visible
    obtain ⟨segment, rest, stands, begins⟩ := seen visible
    have opened : reliableIsOpen.run after = (.ok (.ok true), after) := by
      simp [reliableIsOpen, stillOpen, stands]
    have undefined : (readSomeUnreliable 256 0).run after = (.error .undefined, after) := by
      rw [readSomeUnreliable, bind_ok (cussert_run _ (by decide)), if_neg (by decide),
        if_neg (by decide), bind_ok opened]
      simp [awaitRead, stray]
    refine ⟨_, after, bind_error (bind_error undefined), stray, kept, .inr ⟨rfl, ?_⟩⟩
    rw [← kept, Socket.stream, stands]
    exact begins.trans (List.prefix_append ..)
  · exact ⟨_, after, rfl, stray, kept, .inl rfl⟩

/-- One packet of `startTunRead`: its size before it, encrypted and sent. A send
that was cancelled is passed over. -/
def sendPacket (cipher : Cipher) (aes : AesSession) (packet : Bytes) :
    Coroutine Client AesSession := do
  match aes.encrypt cipher (encode packet.length.toUInt32 ++ packet) (maxPacket + 4) with
  | .error code => throw code.message
  | .ok (crypt, aes) =>
    match ← Client.onSocket (send crypt) with
    | .ok () | .error .operationCanceled => pure aes
    | .error code => throw code.message

/-- The loop of `startTunRead`, at most `passes` times round. -/
def tunReadLoop (cipher : Cipher) : Nat → AesSession → Coroutine Client Unit
  | 0, _ => running
  | passes + 1, aes => do
    if (← look).stopRequested then pure ()
    else
      let packet ← Client.onTun Tun.read
      if packet = [] then tunReadLoop cipher passes aes
      else
        let aes ← sendPacket cipher aes packet
        tunReadLoop cipher passes aes

/-- `startTunRead`. -/
def startTunRead (cipher : Cipher) (passes : Nat) (aes : AesSession) : Coroutine Client Unit :=
  tryCatch (tunReadLoop cipher passes aes) abort

/-- The loop of `startSocketRead`, at most `passes` times round. -/
def socketReadLoop (cipher : Cipher) : Nat → AesSession → Coroutine Client Unit
  | 0, _ => running
  | passes + 1, aes => do
    if (← look).stopRequested then pure ()
    else
      let (readSize, aes) ← Client.onSocket (readBlockSize cipher aes true)
      cussert (readSize.toNat > maxPacket) "read_size > max_possible_ip_packet_size"
      match ← Client.onSocket (readSome maxPacket readSize.toNat) with
      | .error .operationCanceled => socketReadLoop cipher passes aes
      | .error code => throw code.message
      | .ok bytes =>
        match aes.decrypt cipher (bytes.take readSize.toNat) maxPacket with
        | .error code => throw code.message
        | .ok (raw, aes) => do
          Client.onTun (Tun.write raw)
          socketReadLoop cipher passes aes

/-- `startSocketRead`. -/
def startSocketRead (cipher : Cipher) (passes : Nat) (aes : AesSession) : Coroutine Client Unit :=
  tryCatch (socketReadLoop cipher passes aes) abort

end Vpverk.ClientLoops
