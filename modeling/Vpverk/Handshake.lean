import Vpverk.Addresses
import Vpverk.DataExchange

/-! The handshake: the client's `startAsync` up to its address, and the server's
`exchangeAESkey`, `authenticateUser` and `sendIp`. -/
namespace Vpverk.Handshake
open Addresses Coroutine Octets Asioapi Peer ClientLoops DataExchange

/-- RSA under the server's key pair, into the buffers the two ends give it. The
encryption of a key block takes 256 bytes; what becomes of it in the decryption is
left open. -/
structure Rsa where
  encrypt : Bytes → Except String Bytes
  decrypt : Bytes → Except String Bytes
  seals : ∀ block, block.length = 64 → ∃ sealed, encrypt block = .ok sealed ∧ sealed.length = 256

/-- `salt`. -/
def salt : Bytes := utf8 "Chara_VerKys"

/-- The loop both ends salt the key with. -/
def salted (key : Bytes) : Bytes :=
  key.mapIdx fun i byte => if 12 ≤ i ∧ i < 24 then byte ^^^ salt.getD (i - 12) 0 else byte

/-! ### The client -/

/-- What `startAsync` starts from: the login, and the random bytes it draws. -/
structure ClientInput where
  login : Bytes
  key : Bytes
  iv1 : Bytes
  iv2 : Bytes

/-- The key message: the size of the RSA block is given as 4. -/
def sendKey (rsa : Rsa) (input : ClientInput) : Coroutine Socket AesSession := do
  match AesSession.create (salted input.key) input.iv1 input.iv2 with
  | .error code => throw code.message
  | .ok aes =>
    match rsa.encrypt (input.key ++ input.iv2 ++ input.iv1) with
    | .error text => throw ("rsa encrypt error: " ++ text)
    | .ok used =>
      cussert (used.length = 256) "used.value() == 256"
      throwExpEc (send (encode 4 ++ used))
      pure aes

/-- The look for an error message behind the key message. -/
def checkRefusal (cipher : Cipher) (aes : AesSession) : Coroutine Socket Unit := do
  if ← throwExpEc reliableIsOpen then
    if 0 < (← available) then
      let _ ← readBlockSize cipher aes false
      abort "unexpected valid read"
    else pure ()
  else throw "socket was closed during key exchange"

/-- The login message: four bytes that stay zero, and the login. It is sent twice. -/
def sendLogin (cipher : Cipher) (aes : AesSession) (login : Bytes) :
    Coroutine Socket AesSession := do
  match aes.encrypt cipher (List.replicate 4 0 ++ login) (4 + login.length) with
  | .error code => throw code.message
  | .ok (crypted, aes) =>
    throwExpEc (send crypted)
    throwExpEc (send crypted)
    pure aes

/-- The address. Whether its bytes were read is not checked. -/
def readAddress (cipher : Cipher) (aes : AesSession) :
    Coroutine Socket (AddressV4 × AesSession) := do
  let (clientIpRead, aes) ← readBlockSize cipher aes true
  if clientIpRead ≠ 4 then
    throw ("expected ip (so size should be 4), but size is: " ++ toString clientIpRead)
  else
    match ← readSome 4 0 with
    | .error _ => stop .undefined
    | .ok ipBytesCrypted =>
      match aes.decrypt cipher ipBytesCrypted 4 with
      | .error code => throw code.message
      | .ok (ipBytesRaw, aes) => pure (⟨decode ipBytesRaw⟩, aes)

/-- `startAsync`, from the connection to the address the tun device is given. -/
def startAsync (cipher : Cipher) (rsa : Rsa) (input : ClientInput) :
    Coroutine Socket (AddressV4 × AesSession) := do
  let aes ← sendKey rsa input
  checkRefusal cipher aes
  let aes ← sendLogin cipher aes input.login
  readAddress cipher aes

/-! ### The server -/

/-- `expected_first_msg_size`. -/
def expectedFirstMsgSize : Nat := 256

/-- `exchangeAESkey`. -/
def exchangeAESkey (rsa : Rsa) : Coroutine Connection AesSession := do
  let read ← Connection.readSomeReliable 4 0 "error read on key exchange: "
  if expectedFirstMsgSize ≠ (decode read).toNat then
    Connection.close (utf8 "Protocol violation")
    throw ("wrong first msg size: " ++ toString (decode read))
  else
    let aesKeyUnderRsa ← Connection.readSomeReliable expectedFirstMsgSize 0
      "error read on key exchange: "
    match rsa.decrypt aesKeyUnderRsa with
    | .error text => throw ("fail rsa decrypt: " ++ text)
    | .ok aesKeyRaw =>
      if aesKeyRaw.length ≠ 64 then throw "fail rsa decrypt - expected size not match"
      else
        let span := salted aesKeyRaw
        match AesSession.create (span.take 32) ((span.drop 32).take 16) ((span.drop 48).take 16) with
        | .error code =>
          Connection.close (utf8 "Protocol violation")
          throw ("error creating aes session: " ++ code.message)
        | .ok aes => pure aes

/-- `std::ranges::binary_search` on a sorted list: the first element that is not
less than the value is not greater either. -/
def binarySearch (logins : List Bytes) (login : Bytes) : Bool :=
  match logins.find? fun element => !decide (element < login) with
  | none => false
  | some element => !decide (login < element)

/-- `authenticateUser`. -/
def authenticateUser (cipher : Cipher) (allowedLogins : List Bytes) (aes : AesSession) :
    Coroutine Connection (Bool × AesSession) := do
  let readCrypt ← Connection.readSomeReliable 4 0 "error read on authentication: "
  let (header, aes) ← decrypted (aes.decrypt cipher readCrypt 4) "first decrypt fail: "
  let readRaw := (decode header).toNat
  if 200 < readRaw then throw "they on trees jonny"
  else
    let loginCrypt ← Connection.readSomeReliable readRaw 0 "error read on authentication (2): "
    let (loginRaw, aes) ← decrypted (aes.decrypt cipher loginCrypt readRaw)
      "first decrypt fail (2): "
    pure (binarySearch allowedLogins loginRaw, aes)

/-- `sendIp`. -/
def sendIp (cipher : Cipher) (aes : AesSession) (ip : UInt32) : Coroutine Connection AesSession := do
  match aes.encrypt cipher ([4, 0, 0, 0] ++ encode ip) 8 with
  | .error code =>
    Connection.close (utf8 "Encryption failure")
    throw ("first encrypt fail: " ++ code.message)
  | .ok (buffer2, aes) =>
    match ← Connection.onSocket (send buffer2) with
    | .ok () => pure aes
    | .error code =>
      Connection.close (utf8 "Send failure ыыыыыыыыыыыыы")
      throw ("first send fail: " ++ code.message)

/-- The handshake of `startConnection`: whether the login was allowed. -/
def serverHandshake (cipher : Cipher) (rsa : Rsa) (allowedLogins : List Bytes)
    (assignedAddress : AddressV4) : Coroutine Connection (Bool × AesSession) := do
  let aeskey ← exchangeAESkey rsa
  let (allowed, aeskey) ← authenticateUser cipher allowedLogins aeskey
  if !allowed then
    Connection.close (utf8 "Access denied")
    pure (false, aeskey)
  else
    let aes ← sendIp cipher aeskey assignedAddress.toUint
    pure (true, aes)

/-! ### Both against each other -/

/-- What a handshake is about: a configured login list, a login in it that is not
too long, a key and two IVs, and the address the server assigns. -/
structure Parties where
  allowedLogins : List Bytes
  sorted : allowedLogins.Pairwise (· ≤ ·)
  input : ClientInput
  listed : input.login ∈ allowedLogins
  short : input.login.length ≤ 200
  key : input.key.length = 32
  iv1 : input.iv1.length = 16
  iv2 : input.iv2.length = 16
  assignedAddress : AddressV4

/-- A run of the two ends against each other over a connection that does not
fail: what each reads is what the other has sent, cut in any way. -/
structure JointRun (cipher : Cipher) (rsa : Rsa) (parties : Parties) where
  clientStart : Socket
  clientEnd : Except Stop (AddressV4 × AesSession)
  clientLeft : Socket
  serverStart : Socket
  serverEnd : Except Stop (Bool × AesSession)
  serverLeft : Connection
  clientFresh : clientStart.Healthy ∧ clientStart.sent = []
  serverFresh : serverStart.Healthy ∧ serverStart.sent = []
  client : (startAsync cipher rsa parties.input).run clientStart = (clientEnd, clientLeft)
  server : (serverHandshake cipher rsa parties.allowedLogins parties.assignedAddress).run
    { socket := serverStart } = (serverEnd, serverLeft)
  toServer : serverStart.stream = clientLeft.sent
  toClient : clientStart.stream = serverLeft.socket.sent

/-- The server has accepted the login, the client has the address, the sessions
are in step both ways, and nothing is left unread. -/
def JointRun.Agrees {cipher : Cipher} {rsa : Rsa} {parties : Parties}
    (run : JointRun cipher rsa parties) : Prop :=
  ∃ clientAes serverAes, run.serverEnd = .ok (true, serverAes) ∧
    run.clientEnd = .ok (parties.assignedAddress, clientAes) ∧
    clientAes.encrypted = serverAes.decrypted ∧ serverAes.encrypted = clientAes.decrypted ∧
    Mirrored clientAes serverAes ∧
    run.clientLeft.stream = [] ∧ run.serverLeft.socket.stream = []

/-! ### The first header -/

variable {cipher : Cipher} {rsa : Rsa} {parties : Parties} {socket : Socket} {con : Connection}
  {later : Bytes}

theorem salted_length (key : Bytes) : (salted key).length = key.length := by simp [salted]

/-- The session the client creates. -/
def Parties.clientAes (parties : Parties) : AesSession :=
  { key := salted parties.input.key, encryptIv := parties.input.iv1, decryptIv := parties.input.iv2 }

/-- The key message is sent with a size of 4. -/
theorem sendKey_healthy (rsa : Rsa) (parties : Parties) (healthy : socket.Healthy) :
    ∃ sealed after, sealed.length = 256 ∧
      (sendKey rsa parties.input).run socket = (.ok parties.clientAes, after) ∧
      Moved socket after [] (encode 4 ++ sealed) := by
  obtain ⟨sealed, encrypts, length⟩ := rsa.seals
    (parties.input.key ++ parties.input.iv2 ++ parties.input.iv1)
    (by simp [parties.key, parties.iv1, parties.iv2])
  obtain ⟨after, sends, moved⟩ := send_healthy (encode 4 ++ sealed) healthy (by simp [encode])
    (by rw [List.length_append, length]; decide)
  have created : AesSession.create (salted parties.input.key) parties.input.iv1 parties.input.iv2 =
      .ok parties.clientAes :=
    if_neg (by simp [salted_length, parties.key, parties.iv1, parties.iv2])
  refine ⟨sealed, after, length, ?_, moved⟩
  rw [sendKey, created]
  dsimp only
  rw [encrypts]
  dsimp only
  rw [bind_ok (cussert_run _ (decide_eq_true length))]
  exact bind_ok ((bind_ok sends).trans (pure_run ..))

/-- A first header that is not 256 ends the key exchange. -/
theorem exchangeAESkey_wrong_size (rsa : Rsa) (size : UInt32) (healthy : socket.Healthy)
    (begins : socket.stream = encode size ++ later) (wrong : expectedFirstMsgSize ≠ size.toNat) :
    ∃ after, (exchangeAESkey rsa).run { socket } =
        (.error (.throws ("wrong first msg size: " ++ toString size)), after) ∧
      after.socket.sent = socket.sent ++ errorMessage (utf8 "Protocol violation") := by
  have head : socket.stream.take (needed 4 0) = encode size := by
    rw [begins]
    exact List.take_left' (by simp [needed])
  obtain ⟨socket', ran, moved⟩ := Connection.readSomeReliable_healthy { socket } 4 0
    "error read on key exchange: " healthy (Nat.zero_le _) (by decide)
    (by simp [begins, needed])
  obtain ⟨after, closes, sent⟩ := Connection.close_healthy { socket := socket' }
    (utf8 "Protocol violation") moved.healthy rfl rfl rfl (by decide)
  dsimp only at ran
  rw [head] at ran
  refine ⟨after, ?_, by simpa [moved.sent] using sent⟩
  rw [exchangeAESkey, bind_ok ran, decode_encode, if_pos wrong]
  exact (bind_ok closes).trans rfl

private theorem grows_checkRefusal (cipher : Cipher) (aes : AesSession) : Grows (checkRefusal cipher aes) := by
  apply (grows_throwExpEc grows_reliableIsOpen).bind
  intro isOpen
  split
  · apply grows_available.bind
    intro bytes
    split
    · exact (grows_readBlockSize _ _ _).bind fun _ => grows_stop _
    · exact grows_pure _
  · exact grows_stop _

private theorem grows_sendLogin (cipher : Cipher) (aes : AesSession) (login : Bytes) :
    Grows (sendLogin cipher aes login) := by
  unfold sendLogin
  split
  · exact grows_stop _
  · exact (grows_throwExpEc (grows_send _)).bind fun _ =>
      (grows_throwExpEc (grows_send _)).bind fun _ => grows_pure _

private theorem grows_readAddress (cipher : Cipher) (aes : AesSession) : Grows (readAddress cipher aes) := by
  apply (grows_readBlockSize _ _ _).bind
  intro answer
  dsimp only
  split
  · exact grows_stop _
  · apply (grows_readSome _ _).bind
    intro bytes
    split
    · exact grows_stop _
    · split
      · exact grows_stop _
      · exact grows_pure _

/-- Whatever `startAsync` comes to, its key message has been sent. -/
theorem startAsync_sends (cipher : Cipher) (rsa : Rsa) (parties : Parties)
    (healthy : socket.Healthy) (fresh : socket.sent = []) :
    ∃ rest, ((startAsync cipher rsa parties.input).run socket).2.sent = encode 4 ++ rest := by
  obtain ⟨sealed, after, _, ran, moved⟩ := sendKey_healthy rsa parties healthy
  obtain ⟨more, grown⟩ := ((grows_checkRefusal cipher parties.clientAes).bind fun _ =>
    (grows_sendLogin cipher parties.clientAes parties.input.login).bind fun aes =>
      grows_readAddress cipher aes) after
  refine ⟨sealed ++ more, ?_⟩
  rw [startAsync, bind_ok ran, ← List.append_assoc, ← grown, moved.sent, fresh, List.nil_append]

/-- In every run of the two ends the server refuses the key message. -/
theorem JointRun.refuses (run : JointRun cipher rsa parties) :
    run.serverEnd = .error (.throws "wrong first msg size: 4") := by
  obtain ⟨rest, sent⟩ := startAsync_sends cipher rsa parties run.clientFresh.1 run.clientFresh.2
  rw [run.client] at sent
  obtain ⟨after, refuses, _⟩ := exchangeAESkey_wrong_size rsa 4 run.serverFresh.1
    (run.toServer.trans sent) (by decide)
  have ended := run.server
  rw [serverHandshake, bind_error refuses] at ended
  exact (Prod.mk.inj ended).1.symm

theorem JointRun.disagrees (run : JointRun cipher rsa parties) : ¬ run.Agrees := by
  rintro ⟨_, _, accepted, _⟩
  rw [run.refuses] at accepted
  cases accepted

/-- There is such a run: the server's refusal reaches the client. -/
theorem jointRun_exists (cipher : Cipher) (rsa : Rsa) (parties : Parties) :
    Nonempty (JointRun cipher rsa parties) := by
  let clientStart : Socket :=
    { arrivals := [.bytes ⟨errorMessage (utf8 "Protocol violation"), by simp [errorMessage]⟩] }
  have healthy : clientStart.Healthy := ⟨rfl, by simp [clientStart], by simp [clientStart], rfl⟩
  obtain ⟨rest, sent⟩ := startAsync_sends cipher rsa parties healthy rfl
  let serverStart : Socket := { arrivals := [.bytes ⟨encode 4 ++ rest, by simp [encode]⟩] }
  have healthy' : serverStart.Healthy := ⟨rfl, by simp [serverStart], by simp [serverStart], rfl⟩
  have arrives : serverStart.stream = encode 4 ++ rest := by
    simp [serverStart, Socket.stream, Arrival.content]
  obtain ⟨after, refuses, answer⟩ :=
    exchangeAESkey_wrong_size rsa 4 healthy' arrives (by decide)
  exact ⟨{
    clientStart, serverStart
    clientEnd := _, clientLeft := _, serverEnd := _, serverLeft := after
    clientFresh := ⟨healthy, rfl⟩
    serverFresh := ⟨healthy', rfl⟩
    client := rfl
    server := bind_error refuses
    toServer := arrives.trans sent.symm
    toClient := by
      rw [answer]
      simp [clientStart, serverStart, Socket.stream, Arrival.content] }⟩

/-- **No handshake agrees.** For every cipher, key pair and pair of ends, there is
a run of the two against each other over a connection that does not fail; and in
no such run, however the bytes are cut, do they agree, because the client gives
the size of its key message as 4 where the server asks for 256. -/
theorem handshake_disagrees (cipher : Cipher) (rsa : Rsa) (parties : Parties) :
    Nonempty (JointRun cipher rsa parties) ∧
      ∀ run : JointRun cipher rsa parties, ¬ run.Agrees :=
  ⟨jointRun_exists cipher rsa parties, JointRun.disagrees⟩

/-- A key pair that pads. -/
def paddingRsa : Rsa where
  encrypt block := .ok (block ++ List.replicate 192 0)
  decrypt sealed := .ok (sealed.take 64)
  seals block length := ⟨_, rfl, by rw [List.length_append, length, List.length_replicate]⟩

/-- One configured login, with a key and IVs of zeros, and the first address. -/
def oneLogin : Parties where
  allowedLogins := [utf8 "login"]
  sorted := by simp
  input := ⟨utf8 "login", List.replicate 32 0, List.replicate 16 0, List.replicate 16 0⟩
  listed := by simp
  short := by decide
  key := by simp
  iv1 := by simp
  iv2 := by simp
  assignedAddress := ⟨0x0A7B0002⟩

/-- The one configured login is turned away. -/
theorem login_turned_away :
    ∃ run : JointRun (fun _ _ _ => 0) paddingRsa oneLogin,
      run.serverEnd = .error (.throws "wrong first msg size: 4") ∧ ¬ run.Agrees :=
  have ⟨run⟩ := jointRun_exists (fun _ _ _ => 0) paddingRsa oneLogin
  ⟨run, run.refuses, run.disagrees⟩

end Vpverk.Handshake
