import Vpverk.Delivery

/-! Key agreement. The client salts its key and creates its session from the
pieces; the server takes the same pieces out of the block it decrypts and salts it
where it stands, with the IVs the other way round. -/
namespace Vpverk.KeyExchange
open Coroutine Octets Asioapi Peer ClientLoops Handshake BlockSize Delivery

/-- What the client puts into the RSA encryption. -/
def keyBlock (input : ClientInput) : Bytes := input.key ++ input.iv2 ++ input.iv1

/-- The lengths `random_bytes` draws. -/
structure Drawn (input : ClientInput) : Prop where
  key : input.key.length = 32
  iv1 : input.iv1.length = 16
  iv2 : input.iv2.length = 16

variable {cipher : Cipher} {rsa : Rsa} {input : ClientInput} {aes clientAes serverAes : AesSession}
  {socket before after : Socket} {con : Connection} {sealed rest key data : Bytes}
  {ending : List Arrival} {i : Nat}

/-! ### The salt -/

/-- The salt changes the bytes 12 to 23, and no others. -/
theorem salted_getElem? (key : Bytes) (i : Nat) :
    (salted key)[i]? = if 12 ≤ i ∧ i < 24 then key[i]?.map (· ^^^ salt.getD (i - 12) 0) else key[i]? := by
  rw [salted, List.getElem?_mapIdx]
  split <;> simp_all

/-- Salting the block is salting the key in it. -/
theorem salted_append (long : 24 ≤ key.length) (rest : Bytes) :
    salted (key ++ rest) = salted key ++ rest := by
  apply List.ext_getElem?
  intro i
  rw [salted_getElem?]
  rcases Nat.lt_or_ge i key.length with inside | outside
  · rw [List.getElem?_append_left inside,
      List.getElem?_append_left (by rwa [salted_length]), salted_getElem?]
  · rw [List.getElem?_append_right outside,
      List.getElem?_append_right (by rwa [salted_length]), salted_length, if_neg (by omega)]

/-! ### The two sessions -/

/-- The session the client creates. -/
def clientSession (input : ClientInput) : AesSession :=
  { key := salted input.key, encryptIv := input.iv1, decryptIv := input.iv2 }

/-- A key message that has been sent holds the encrypted key block, and the session
has been created. -/
theorem sendKey_ok (ran : (sendKey rsa input).run before = (.ok aes, after)) :
    aes = clientSession input ∧ ∃ sealed, rsa.encrypt (keyBlock input) = .ok sealed ∧
      sealed.length = 256 ∧ after.sent = before.sent ++ (encode 4 ++ sealed) := by
  unfold sendKey at ran
  split at ran
  · cases ran
  · rename_i created
    split at ran
    · cases ran
    · rename_i sealed encrypts
      obtain ⟨_, mid, checked, goes⟩ := bind_run_ok ran
      obtain ⟨_, last, sends, ended⟩ := bind_run_ok goes
      cases ended
      obtain ⟨full, rfl⟩ := cussert_ok checked
      refine ⟨?_, sealed, encrypts, of_decide_eq_true full, throwExpEc_send_ok sends⟩
      unfold AesSession.create at created
      split at created
      · cases created
      · cases created
        rfl

/-- The server takes out of the client's block what the client put into it. -/
theorem sessionOf_keyBlock (drawn : Drawn input) :
    sessionOf (keyBlock input) =
      { key := salted input.key, encryptIv := input.iv2, decryptIv := input.iv1 } := by
  have key := drawn.key
  have iv2 := drawn.iv2
  have iv1 := drawn.iv1
  have block : salted (keyBlock input) = salted input.key ++ (input.iv2 ++ input.iv1) := by
    rw [keyBlock, List.append_assoc, salted_append (by omega)]
  have first : (salted input.key ++ (input.iv2 ++ input.iv1)).take 32 = salted input.key :=
    List.take_left' (by rw [salted_length, key])
  have second : (salted input.key ++ (input.iv2 ++ input.iv1)).drop 32 = input.iv2 ++ input.iv1 :=
    List.drop_left' (by rw [salted_length, key])
  have third : (salted input.key ++ (input.iv2 ++ input.iv1)).drop 48 = input.iv1 := by
    rw [show 48 = 32 + 16 by rfl, ← List.drop_drop, second, List.drop_left' iv2]
  rw [sessionOf, block, first, second, third, List.take_left' iv2, List.take_of_length_le (by omega)]

/-- What one end encrypts, the other decrypts, as long as they stand at the same
position; and then they stand at the same position again. -/
theorem mirrored_decrypts {one other one' : AesSession} {crypted : Bytes} {out : Nat}
    (mirrored : Mirrored one other) (inStep : one.encrypted = other.decrypted)
    (encrypts : one.encrypt cipher data out = .ok (crypted, one')) :
    ∃ other', other.decrypt cipher crypted crypted.length = .ok (data, other') ∧
      Mirrored one' other' ∧ one'.encrypted = other'.decrypted := by
  unfold AesSession.encrypt at encrypts
  split at encrypts
  · cases encrypts
  · cases encrypts
    refine ⟨{ other with decrypted := other.decrypted + data.length }, ?_,
      ⟨mirrored.key, mirrored.there, mirrored.back⟩, ?_⟩
    · rw [AesSession.decrypt_ok (Nat.le_refl _), ← mirrored.key, ← mirrored.there, ← inStep,
        mask_mask, mask_length]
    · dsimp only
      rw [inStep]

/-- **Key agreement.** Whatever key and IVs the client draws: the session it has
when its key message is sent has the salted key, `iv1` to encrypt and `iv2` to
decrypt; if the server recovers the block that was encrypted, however its bytes
arrive, it creates a session with the same key and the IVs the other way round.
The salt changes the bytes 12 to 23 of the key and no others, and no byte of an IV.
So what either end encrypts, the other decrypts. -/
theorem key_agreement (drawn : Drawn input)
    (client : (sendKey rsa input).run before = (.ok clientAes, after))
    (recovers : rsa.decrypt sealed = .ok (keyBlock input)) (length : sealed.length = 256)
    (delivers : Delivers con.socket (encode 256 ++ (sealed ++ rest)) ending) :
    (∃ sent, rsa.encrypt (keyBlock input) = .ok sent ∧
      after.sent = before.sent ++ (encode 4 ++ sent)) ∧
    ∃ serverAes socket,
      (exchangeAESkey rsa).run con = (.ok serverAes, { con with socket := socket }) ∧
      Delivers socket rest ending ∧
      clientAes.key = salted input.key ∧ serverAes.key = clientAes.key ∧
      serverAes.encryptIv = clientAes.decryptIv ∧ serverAes.decryptIv = clientAes.encryptIv ∧
      clientAes.encryptIv = input.iv1 ∧ clientAes.decryptIv = input.iv2 ∧
      (∀ i, ¬ (12 ≤ i ∧ i < 24) → (salted input.key)[i]? = input.key[i]?) ∧
      salted (keyBlock input) = salted input.key ++ (input.iv2 ++ input.iv1) ∧
      (∀ (cipher : Cipher) data out crypted clientAes',
        clientAes.encrypt cipher data out = .ok (crypted, clientAes') →
        ∃ serverAes', serverAes.decrypt cipher crypted crypted.length = .ok (data, serverAes') ∧
          Mirrored clientAes' serverAes' ∧ clientAes'.encrypted = serverAes'.decrypted) ∧
      ∀ (cipher : Cipher) data out crypted serverAes',
        serverAes.encrypt cipher data out = .ok (crypted, serverAes') →
        ∃ clientAes', clientAes.decrypt cipher crypted crypted.length = .ok (data, clientAes') ∧
          Mirrored serverAes' clientAes' ∧ serverAes'.encrypted = clientAes'.decrypted := by
  obtain ⟨rfl, sent, encrypts, _, wrote⟩ := sendKey_ok client
  have whole : (keyBlock input).length = 64 := by
    simp [keyBlock, drawn.key, drawn.iv1, drawn.iv2]
  have long : 24 ≤ input.key.length := by
    rw [drawn.key]
    decide
  obtain ⟨socket, ran, delivers', _⟩ := exchangeAESkey_opens delivers length recovers whole
  rw [sessionOf_keyBlock drawn] at ran
  have there : Mirrored (clientSession input)
      { key := salted input.key, encryptIv := input.iv2, decryptIv := input.iv1 } := ⟨rfl, rfl, rfl⟩
  have back : Mirrored { key := salted input.key, encryptIv := input.iv2, decryptIv := input.iv1 }
      (clientSession input) := ⟨rfl, rfl, rfl⟩
  refine ⟨⟨sent, encrypts, wrote⟩, _, socket, ran, delivers', rfl, rfl, rfl, rfl, rfl, rfl, ?_, ?_,
    ?_, ?_⟩
  · intro i elsewhere
    rw [salted_getElem?, if_neg elsewhere]
  · rw [keyBlock, List.append_assoc, salted_append long]
  · intro cipher data out crypted clientAes' encrypted
    exact mirrored_decrypts there rfl encrypted
  · intro cipher data out crypted serverAes' encrypted
    exact mirrored_decrypts back rfl encrypted

/-- A key and IVs of which no two bytes are alike. -/
def counted : Parties where
  allowedLogins := [utf8 "amy"]
  sorted := by simp
  input := {
    login := utf8 "amy"
    key := (List.range 32).map (·.toUInt8)
    iv1 := (List.range' 32 16).map (·.toUInt8)
    iv2 := (List.range' 48 16).map (·.toUInt8) }
  listed := by simp
  short := by decide
  key := by simp
  iv1 := by simp
  iv2 := by simp
  assignedAddress := ⟨0x0A7B0002⟩

/-- Their key block under the padding key pair. -/
def countedBlock : Bytes := keyBlock counted.input ++ List.replicate 192 0

/-- The server's end, to which it has come. -/
def countedServer : Connection where
  socket := { arrivals := [.bytes ⟨encode 256 ++ countedBlock, by simp [encode]⟩] }

theorem key_agreement_counted :
    ∃ clientAes serverAes after con,
      (sendKey paddingRsa counted.input).run {} = (.ok clientAes, after) ∧
      (exchangeAESkey paddingRsa).run countedServer = (.ok serverAes, con) ∧
      serverAes.key = clientAes.key ∧ serverAes.encryptIv = clientAes.decryptIv ∧
      serverAes.decryptIv = clientAes.encryptIv := by
  have drawn : Drawn counted.input := ⟨counted.key, counted.iv1, counted.iv2⟩
  have whole : (keyBlock counted.input).length = 64 := by
    simp [keyBlock, counted.key, counted.iv1, counted.iv2]
  have recovers : paddingRsa.decrypt countedBlock = .ok (keyBlock counted.input) :=
    congrArg Except.ok (List.take_left' whole)
  have length : countedBlock.length = 256 := by
    rw [countedBlock, List.length_append, whole, List.length_replicate]
  have delivers : Delivers countedServer.socket (encode 256 ++ (countedBlock ++ [])) [] := by
    rw [List.append_nil]
    exact delivers_segment _
  have fresh : Socket.Healthy {} := ⟨rfl, by simp, by simp, rfl⟩
  obtain ⟨_, after, _, client, _⟩ :=
    sendKey_healthy paddingRsa counted fresh
  obtain ⟨_, serverAes, socket, ran, _, _, key, encryptIv, decryptIv, _⟩ :=
    key_agreement drawn client recovers length delivers
  exact ⟨_, serverAes, after, _, client, ran, key, encryptIv, decryptIv⟩

end Vpverk.KeyExchange
