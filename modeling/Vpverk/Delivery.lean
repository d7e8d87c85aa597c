import Vpverk.BlockSize
import Vpverk.Handshake

/-! What one end of a connection sends and the other is brought. The bytes may be
cut in any way, and what comes after them is left open: more bytes, a failure or
nothing at all. -/
namespace Vpverk.Delivery
open Coroutine Octets Asioapi Peer ClientLoops DataExchange BlockSize Handshake

/-- These bytes are the next to arrive at an open socket, however they are cut,
and then comes the ending. -/
structure Delivers (socket : Socket) (bytes : Bytes) (ending : List Arrival) : Prop where
  isOpen : socket.isOpen = true
  noStray : socket.strayHandler = false
  comes : ∃ pieces, socket.arrivals = pieces ++ ending ∧ Brings pieces bytes

variable {socket before after : Socket} {bytes first rest buffer : Bytes} {ending : List Arrival}
  {con : Connection}

theorem Delivers.arriving (delivers : Delivers socket bytes ending) :
    ∃ pieces, socket = arriving socket (pieces ++ ending) ∧ Brings pieces bytes := by
  obtain ⟨pieces, arrivals, brings⟩ := delivers.comes
  exact ⟨pieces, by rw [BlockSize.arriving, ← arrivals], brings⟩

theorem delivers_arriving {pieces : List Arrival} (delivers : Delivers socket bytes ending)
    (brings : Brings pieces rest) : Delivers (arriving socket (pieces ++ ending)) rest ending :=
  ⟨delivers.isOpen, delivers.noStray, pieces, rfl, brings⟩

/-- One segment, and then nothing. -/
theorem delivers_segment (segment : Segment) :
    Delivers { arrivals := [.bytes segment] } segment.bytes [] :=
  ⟨rfl, rfl, [.bytes segment], rfl, by simp, by simp [Arrival.content]⟩

/-- What is delivered is the beginning of what the socket holds. -/
theorem Delivers.stream (delivers : Delivers socket bytes ending) :
    socket.stream = bytes ++ content ending := by
  obtain ⟨pieces, arrivals, brings⟩ := delivers.comes
  rw [Socket.stream, arrivals, List.flatMap_append, brings.content, content]

/-- The bytes asked for are read, and nothing is written. -/
theorem readSome_delivers (size amount : Nat) (delivers : Delivers socket (first ++ rest) ending)
    (asked : needed size amount = first.length) (fits : amount ≤ size) (small : size ≤ maxUint32) :
    ∃ after, (readSome size amount).run socket = (.ok (.ok first), after) ∧
      Delivers after rest ending ∧ after.sent = socket.sent ∧ after.accepts = socket.accepts := by
  obtain ⟨pieces, here, brings⟩ := delivers.arriving
  have within : needed size amount ≤ size := by
    unfold needed
    split <;> omega
  obtain ⟨pieces', ran, brings'⟩ :
      ∃ pieces', (readFrom size (needed size amount) (needed size amount) []).run
          (arriving socket (pieces ++ ending)) = (.ok (.ok first), arriving socket (pieces' ++ ending)) ∧
        Brings pieces' rest := by
    have comes : needed size amount - ([] : Bytes).length ≤ (first ++ rest).length := by simp [asked]
    simpa [asked] using readFrom_brings [] delivers.isOpen delivers.noStray within small
      (Nat.zero_le _) (Nat.le_refl _) brings comes
  refine ⟨_, ?_, delivers_arriving delivers brings', rfl, rfl⟩
  rw [readSome, if_neg (by omega)]
  change (readFrom size (needed size amount) (needed size amount) []).run socket = _
  rw [here]
  exact ran

/-- The same at the server's end. -/
theorem readSomeReliable_delivers (con : Connection) (size amount : Nat) (context : String)
    (delivers : Delivers con.socket (first ++ rest) ending)
    (asked : needed size amount = first.length) (fits : amount ≤ size) (small : size ≤ maxUint32) :
    ∃ socket, (Connection.readSomeReliable size amount context).run con =
        (.ok first, { con with socket := socket }) ∧
      Delivers socket rest ending ∧ socket.sent = con.socket.sent ∧
        socket.accepts = con.socket.accepts := by
  obtain ⟨socket, ran, delivers', sent, accepts⟩ :=
    readSome_delivers size amount delivers asked fits small
  exact ⟨socket, bind_ok (Connection.onSocket_run ran), delivers', sent, accepts⟩

/-- A header of four bytes is read. -/
theorem readSomeReliable_header (con : Connection) (context : String)
    (delivers : Delivers con.socket (first ++ rest) ending) (four : first.length = 4) :
    ∃ socket, (Connection.readSomeReliable 4 0 context).run con =
        (.ok first, { con with socket := socket }) ∧
      Delivers socket rest ending ∧ socket.sent = con.socket.sent ∧
        socket.accepts = con.socket.accepts :=
  readSomeReliable_delivers con 4 0 context delivers four.symm (Nat.zero_le _) (by decide)

/-- An end that is brought something finds its connection active. -/
theorem isActiveNolock_delivers (con : Connection) (delivers : Delivers con.socket bytes ending)
    (nonempty : bytes ≠ []) :
    ∃ socket, isActiveNolock.run con = (.ok true, { con with socket := socket }) ∧
      Delivers socket bytes ending := by
  obtain ⟨pieces, here, brings⟩ := delivers.arriving
  obtain ⟨pieces', opened, brings'⟩ := reliableIsOpen_brings ending delivers.isOpen brings nonempty
  rw [← here] at opened
  exact ⟨_, (bind_ok (Connection.onSocket_run opened)).trans rfl, delivers_arriving delivers brings'⟩

/-! ### What a send has written -/

private theorem sendFrom_ok {passes offset : Nat} (inside : offset ≤ buffer.length)
    (enough : buffer.length - offset ≤ passes)
    (ran : (sendFrom buffer passes offset).run before = (.ok (.ok ()), after)) :
    after.sent = before.sent ++ buffer.drop offset := by
  induction passes generalizing before offset with
  | zero =>
    cases ran
    rw [List.drop_of_length_le (by omega), List.append_nil]
  | succ passes ih =>
    rw [sendFrom] at ran
    split at ran
    · cases ran
      rw [List.drop_of_length_le (by omega), List.append_nil]
    · have more : buffer.drop offset ≠ [] := by
        simp
        omega
      obtain ⟨answer, mid, wrote, rest⟩ := bind_run_ok ran
      cases answer with
      | error code => cases rest
      | ok count =>
        obtain ⟨some_bytes, few, sent⟩ := awaitSend_ok more wrote
        rw [List.length_drop] at few
        have later := ih (by omega) (by omega) rest
        rw [later, sent, List.append_assoc, ← List.drop_drop, List.take_append_drop]

/-- A send that comes back without an error has written its buffer, however much
each write took. -/
theorem send_ok (ran : (send buffer).run before = (.ok (.ok ()), after)) :
    after.sent = before.sent ++ buffer := by
  obtain ⟨_, mid, checked, goes⟩ := bind_run_ok ran
  obtain ⟨_, rfl⟩ := cussert_ok checked
  split at goes
  · cases goes
  · obtain ⟨answer, opened, isOpen, writes⟩ := bind_run_ok goes
    have sent : opened.sent = mid.sent := by
      simp only [reliableIsOpen] at isOpen
      split at isOpen
      · cases isOpen
        rfl
      · split at isOpen <;> cases isOpen <;> rfl
    rcases answer with code | _ | _
    · cases writes
    · cases writes
    · rw [← sent]
      exact sendFrom_ok (Nat.zero_le _) (by omega) writes

theorem throwExpEc_send_ok {value : Unit}
    (ran : (throwExpEc (send buffer)).run before = (.ok value, after)) :
    after.sent = before.sent ++ buffer := by
  obtain ⟨answer, after', wrote, accepted⟩ := bind_run_ok ran
  cases answer with
  | error code => cases accepted
  | ok _ =>
    cases accepted
    exact send_ok wrote

/-! ### What the server makes of it -/

variable {cipher : Cipher} {rsa : Rsa} {aes : AesSession} {sealed block login : Bytes}

/-- `exchangeAESkey` once the two reads are done. -/
private def openBlock (rsa : Rsa) (aesKeyUnderRsa : Bytes) : Coroutine Connection AesSession :=
  match rsa.decrypt aesKeyUnderRsa with
  | .error text => throw ("fail rsa decrypt: " ++ text)
  | .ok aesKeyRaw =>
    if aesKeyRaw.length ≠ 64 then throw "fail rsa decrypt - expected size not match"
    else
      let span := salted aesKeyRaw
      match AesSession.create (span.take 32) ((span.drop 32).take 16) ((span.drop 48).take 16) with
      | .error code => do
        Connection.close (utf8 "Protocol violation")
        throw ("error creating aes session: " ++ code.message)
      | .ok aes => pure aes

private theorem exchangeAESkey_run (rsa : Rsa)
    (delivers : Delivers con.socket (encode 256 ++ (sealed ++ rest)) ending)
    (length : sealed.length = 256) :
    ∃ socket, Delivers socket rest ending ∧ socket.sent = con.socket.sent ∧
      socket.accepts = con.socket.accepts ∧
      (exchangeAESkey rsa).run con = (openBlock rsa sealed).run { con with socket := socket } := by
  obtain ⟨mid, read, delivers', sent, accepts⟩ :=
    readSomeReliable_header con "error read on key exchange: " delivers (encode_length _)
  obtain ⟨socket, read', delivers'', sent', accepts'⟩ :=
    readSomeReliable_delivers { con with socket := mid } expectedFirstMsgSize 0
      "error read on key exchange: " delivers' length.symm (by decide) (by decide)
  refine ⟨socket, delivers'', sent'.trans sent, accepts'.trans accepts, ?_⟩
  rw [exchangeAESkey, bind_ok read, decode_encode, if_neg (by decide), bind_ok read']
  rfl

/-- The session the server creates from a key block. -/
def sessionOf (block : Bytes) : AesSession where
  key := (salted block).take 32
  encryptIv := ((salted block).drop 32).take 16
  decryptIv := ((salted block).drop 48).take 16

/-- A key block that comes out of the decryption makes a session. -/
theorem exchangeAESkey_opens
    (delivers : Delivers con.socket (encode 256 ++ (sealed ++ rest)) ending)
    (length : sealed.length = 256) (opens : rsa.decrypt sealed = .ok block)
    (whole : block.length = 64) :
    ∃ socket, (exchangeAESkey rsa).run con = (.ok (sessionOf block), { con with socket := socket }) ∧
      Delivers socket rest ending ∧ socket.sent = con.socket.sent ∧
        socket.accepts = con.socket.accepts := by
  obtain ⟨socket, delivers', sent, accepts, ran⟩ := exchangeAESkey_run rsa delivers length
  refine ⟨socket, ran.trans ?_, delivers', sent, accepts⟩
  have created : AesSession.create ((salted block).take 32) (((salted block).drop 32).take 16)
      (((salted block).drop 48).take 16) = .ok (sessionOf block) :=
    if_neg (by simp [salted_length, whole])
  simp only [openBlock, opens, whole, created]
  rfl

/-- One that does not come out of it ends the key exchange. -/
theorem exchangeAESkey_fails {text : String}
    (delivers : Delivers con.socket (encode 256 ++ (sealed ++ rest)) ending)
    (length : sealed.length = 256) (fails : rsa.decrypt sealed = .error text) :
    ∃ socket, (exchangeAESkey rsa).run con =
        (.error (.throws ("fail rsa decrypt: " ++ text)), { con with socket := socket }) ∧
      Delivers socket rest ending := by
  obtain ⟨socket, delivers', _, _, ran⟩ := exchangeAESkey_run rsa delivers length
  refine ⟨socket, ran.trans ?_, delivers'⟩
  simp only [openBlock, fails]
  rfl

/-- A login as the server's session decrypts it, with its size in front. -/
def sealedLogin (cipher : Cipher) (aes : AesSession) (login : Bytes) : Bytes :=
  mask (cipher aes.key aes.decryptIv) aes.decrypted (encode login.length.toUInt32 ++ login)

/-- A login that is not too long is looked for in the list. -/
theorem authenticateUser_delivers (allowedLogins : List Bytes)
    (delivers : Delivers con.socket (sealedLogin cipher aes login ++ rest) ending)
    (short : login.length ≤ 200) :
    ∃ socket, (authenticateUser cipher allowedLogins aes).run con =
        (.ok (binarySearch allowedLogins login,
          { aes with decrypted := aes.decrypted + 4 + login.length }), { con with socket := socket }) ∧
      Delivers socket rest ending ∧ socket.sent = con.socket.sent ∧
        socket.accepts = con.socket.accepts := by
  have size : login.length.toUInt32.toNat = login.length := by
    simp
    omega
  rw [sealedLogin, mask_append, List.append_assoc, encode_length] at delivers
  obtain ⟨mid, read, delivers', sent, accepts⟩ :=
    readSomeReliable_header con "error read on authentication: " delivers
      (by rw [mask_length, encode_length])
  obtain ⟨socket, read', delivers'', sent', accepts'⟩ :=
    readSomeReliable_delivers { con with socket := mid } login.length 0
      "error read on authentication (2): " delivers' (by rw [mask_length]; rfl) (by omega)
      (by unfold maxUint32 UInt32.size; omega)
  refine ⟨socket, ?_, delivers'', sent'.trans sent, accepts'.trans accepts⟩
  rw [authenticateUser, bind_ok read, AesSession.decrypt_ok (by simp)]
  simp only [decrypted, bind_pure_run, mask_mask, decode_encode, size, mask_length, encode_length]
  rw [if_neg (by omega), bind_ok read', AesSession.decrypt_ok (by simp)]
  simp only [bind_pure_run, mask_mask, mask_length]
  rfl

end Vpverk.Delivery
