import Vpverk.KeyExchange

/-! `RsaKey` over OpenSSL, and the buffer the server opens a key block into. What
OpenSSL does is a parameter: for each of the calls the code makes, whether it
succeeds and what it writes. -/
namespace Vpverk.Cvkrsa
open Octets Coroutine Peer Handshake BlockSize Delivery KeyExchange

inductive RsaKeyType where
  | privateKey
  | publicKey
  deriving DecidableEq, Repr

/-- The calls of one direction, under one key. -/
structure EvpCalls where
  /-- `EVP_PKEY_CTX_new` -/
  ctxNew : Bool
  init : Bool
  setRsaPadding : Bool
  setRsaOaepMd : Bool
  /-- The call with no output buffer: the size of the buffer it asks for. -/
  measure : Bytes → Option Nat
  /-- The call with one: what it writes, as long as it sets `outlen`. -/
  perform : Bytes → Option Bytes

/-- `EVP_PKEY_encrypt` and `EVP_PKEY_decrypt` with what goes before them. -/
structure OpenSsl (Key : Type) where
  encrypt : Key → EvpCalls
  decrypt : Key → EvpCalls

structure RsaKey (Key : Type) where
  type : RsaKeyType
  key : Key

/-- What `decrypt` and `encrypt` do with a context, into a buffer of the given
size. -/
def apply (direction : String) (calls : EvpCalls) (input : Bytes) (out : Nat) :
    Except String Bytes :=
  if !calls.ctxNew then .error "CTX alloc failed"
  else if !calls.init then .error (direction ++ "_init failed")
  else if !calls.setRsaPadding then .error "set_padding failed"
  else if !calls.setRsaOaepMd then .error "set_oaep_md failed"
  else
    match calls.measure input with
    | none => .error ("get outlen (" ++ direction ++ ") fail")
    | some outlen =>
      if out < outlen then .error ("buffer size (" ++ direction ++ " len > buffer.size)")
      else
        match calls.perform input with
        | none => .error ("get " ++ direction ++ " fail")
        | some written => .ok written

variable {Key : Type} {openssl : OpenSsl Key}

/-- `RsaKey::decrypt` -/
def RsaKey.decrypt (openssl : OpenSsl Key) (rsaKey : RsaKey Key) (input : Bytes) (out : Nat) :
    Outcome (Except String Bytes) :=
  if input.length ≠ 256 then .aborts "in.size() == 256"
  else if rsaKey.type ≠ .privateKey then .returns (.error "decrypt requires private key")
  else .returns (apply "decrypt" (openssl.decrypt rsaKey.key) input out)

/-- `RsaKey::encrypt` -/
def RsaKey.encrypt (openssl : OpenSsl Key) (rsaKey : RsaKey Key) (input : Bytes) (out : Nat) :
    Except String Bytes :=
  if rsaKey.type ≠ .publicKey then .error "encrypt requires public key"
  else apply "encrypt" (openssl.encrypt rsaKey.key) input out

/-- The size of `aes_key_raw`. -/
def aesKeyRaw : Nat := 32 + 16 + 16

/-- The size of the part of `rsa_buff` the client encrypts into. -/
def rsaBuff : Nat := 256

/-- A 2048-bit key pair, as OpenSSL documents it: asked for a buffer size, either
call answers the length of the modulus; what is encrypted takes that length; and
decrypting gives back what was encrypted. -/
structure KeyPair (openssl : OpenSsl Key) where
  privateKey : Key
  publicKey : Key
  measuresDecrypt : ∀ {input outlen}, (openssl.decrypt privateKey).measure input = some outlen →
    outlen = 256
  measuresEncrypt : ∀ {input outlen}, (openssl.encrypt publicKey).measure input = some outlen →
    outlen = 256
  seals : ∀ {message sealed}, (openssl.encrypt publicKey).perform message = some sealed →
    sealed.length = 256
  inverts : ∀ {message sealed}, (openssl.encrypt publicKey).perform message = some sealed →
    (openssl.decrypt privateKey).perform sealed = some message

/-- The server's half. -/
def KeyPair.server (pair : KeyPair openssl) : RsaKey Key := ⟨.privateKey, pair.privateKey⟩

/-- The client's half. -/
def KeyPair.client (pair : KeyPair openssl) : RsaKey Key := ⟨.publicKey, pair.publicKey⟩

/-- Nothing that a call needs is missing. -/
structure EvpCalls.Ready (calls : EvpCalls) (input : Bytes) : Prop where
  ctxNew : calls.ctxNew = true
  init : calls.init = true
  setRsaPadding : calls.setRsaPadding = true
  setRsaOaepMd : calls.setRsaOaepMd = true
  measure : (calls.measure input).isSome

variable {calls : EvpCalls} {direction : String} {input block sealed rest : Bytes} {out : Nat}
  {pair : KeyPair openssl}

/-- What is written was asked for and fits. -/
theorem apply_ok {written : Bytes} (applied : apply direction calls input out = .ok written) :
    ∃ outlen, calls.measure input = some outlen ∧ outlen ≤ out ∧
      calls.perform input = some written := by
  unfold apply at applied
  repeat' split at applied
  all_goals cases applied
  rename_i _ measured fits _ performed
  exact ⟨_, measured, Nat.le_of_not_lt fits, performed⟩

/-- Into a buffer that is too small nothing is written, and the error says so
unless something else fails first. -/
theorem apply_small (direction : String)
    (asks : ∀ {outlen}, calls.measure input = some outlen → out < outlen) :
    ∃ text, apply direction calls input out = .error text ∧
      (calls.Ready input → text = "buffer size (" ++ direction ++ " len > buffer.size)") := by
  cases applied : apply direction calls input out with
  | ok written =>
    obtain ⟨outlen, measured, fits, _⟩ := apply_ok applied
    have := asks measured
    omega
  | error text =>
    refine ⟨text, rfl, ?_⟩
    intro ready
    obtain ⟨outlen, measured⟩ := Option.isSome_iff_exists.mp ready.measure
    have small := asks measured
    simp [apply, ready.ctxNew, ready.init, ready.setRsaPadding, ready.setRsaOaepMd, measured, small]
      at applied
    exact applied.symm

/-- An encrypted block takes 256 bytes, and the decryption is its inverse. -/
theorem KeyPair.encrypt_ok (encrypts : pair.client.encrypt openssl block out = .ok sealed) :
    sealed.length = 256 ∧ (openssl.decrypt pair.privateKey).perform sealed = some block := by
  unfold RsaKey.encrypt at encrypts
  split at encrypts
  · cases encrypts
  · obtain ⟨_, _, _, performed⟩ := apply_ok encrypts
    exact ⟨pair.seals performed, pair.inverts performed⟩

/-- A block that was encrypted is opened into any buffer of 256 bytes or more, and
into no other. -/
theorem KeyPair.decrypt_iff (encrypts : pair.client.encrypt openssl block rsaBuff = .ok sealed)
    (ready : (openssl.decrypt pair.privateKey).Ready sealed) :
    pair.server.decrypt openssl sealed out = .returns (.ok block) ↔ 256 ≤ out := by
  obtain ⟨length, performed⟩ := pair.encrypt_ok encrypts
  obtain ⟨outlen, measured⟩ := Option.isSome_iff_exists.mp ready.measure
  obtain rfl := pair.measuresDecrypt measured
  by_cases small : out < 256 <;>
    simp [RsaKey.decrypt, length, KeyPair.server, apply, ready.ctxNew, ready.init,
      ready.setRsaPadding, ready.setRsaOaepMd, measured, performed, small]
  omega

/-- The two halves as the two ends use them. `exchangeAESkey` hands on 256 bytes, so
the assertion in `decrypt` holds there. -/
def KeyPair.toRsa (pair : KeyPair openssl) (works : ∀ block, block.length = 64 →
    ∃ sealed, pair.client.encrypt openssl block rsaBuff = .ok sealed) : Rsa where
  encrypt block := pair.client.encrypt openssl block rsaBuff
  decrypt sealed :=
    match pair.server.decrypt openssl sealed aesKeyRaw with
    | .returns answer => answer
    | .aborts info => .error info
  seals block whole := by
    obtain ⟨sealed, encrypts⟩ := works block whole
    exact ⟨sealed, encrypts, (pair.encrypt_ok encrypts).1⟩

/-- **The key block is never opened.** Whatever the client encrypts under the
public key, the server's call, into the 64 bytes of `aes_key_raw`, returns an
error: the size that is asked for is that of the modulus. With nothing else
failing it is the one about the buffer; and `exchangeAESkey`, brought the
encrypted block in any pieces, throws it. -/
theorem key_block_never_opens (pair : KeyPair openssl) (block sealed : Bytes)
    (encrypts : pair.client.encrypt openssl block rsaBuff = .ok sealed) :
    pair.server.decrypt openssl sealed aesKeyRaw ≠ .returns (.ok block) ∧
    ∃ text, pair.server.decrypt openssl sealed aesKeyRaw = .returns (.error text) ∧
      ((openssl.decrypt pair.privateKey).Ready sealed →
        text = "buffer size (decrypt len > buffer.size)") ∧
      ∀ works (con : Connection) rest ending,
        Delivers con.socket (encode 256 ++ (sealed ++ rest)) ending →
        ∃ socket, (exchangeAESkey (pair.toRsa works)).run con =
          (.error (.throws ("fail rsa decrypt: " ++ text)), { con with socket := socket }) := by
  obtain ⟨length, _⟩ := pair.encrypt_ok encrypts
  have asks : ∀ {outlen}, (openssl.decrypt pair.privateKey).measure sealed = some outlen →
      aesKeyRaw < outlen := by
    intro outlen measured
    rw [pair.measuresDecrypt measured]
    decide
  obtain ⟨text, fails, buffer⟩ := apply_small "decrypt" asks
  have answers : pair.server.decrypt openssl sealed aesKeyRaw = .returns (.error text) := by
    simp [RsaKey.decrypt, length, KeyPair.server, fails]
  refine ⟨by simp [answers], text, answers, buffer, ?_⟩
  intro works con rest ending delivers
  have decrypts : (pair.toRsa works).decrypt sealed = .error text := by
    simp [KeyPair.toRsa, answers]
  obtain ⟨socket, ran, _⟩ := exchangeAESkey_fails delivers length decrypts
  exact ⟨socket, ran⟩

/-- An OpenSSL with one key pair, which pads a message behind its length. -/
def padding : OpenSsl Unit where
  encrypt _ :=
    { ctxNew := true, init := true, setRsaPadding := true, setRsaOaepMd := true
      measure := fun _ => some 256
      perform := fun message =>
        if message.length ≤ 190 then
          some (message.length.toUInt8 :: message ++ List.replicate (255 - message.length) 0)
        else none }
  decrypt _ :=
    { ctxNew := true, init := true, setRsaPadding := true, setRsaOaepMd := true
      measure := fun _ => some 256
      perform := fun
        | [] => none
        | length :: message => some (message.take length.toNat) }

def paddingPair : KeyPair padding where
  privateKey := ()
  publicKey := ()
  measuresDecrypt measured := (Option.some_inj.mp measured).symm
  measuresEncrypt measured := (Option.some_inj.mp measured).symm
  seals := by
    intro message sealed performed
    simp only [padding] at performed
    split at performed <;> cases performed
    simp
    omega
  inverts := by
    intro message sealed performed
    simp only [padding] at performed
    split at performed <;> cases performed
    have small : message.length % 256 = message.length := Nat.mod_eq_of_lt (by omega)
    simp [padding, small]

/-- A key block under it. -/
def paddedBlock (block : Bytes) : Bytes := 64 :: block ++ List.replicate 191 0

theorem encrypt_padding (whole : block.length = 64) :
    paddingPair.client.encrypt padding block rsaBuff = .ok (paddedBlock block) := by
  simp [RsaKey.encrypt, KeyPair.client, apply, padding, rsaBuff, whole, paddedBlock]

theorem key_block_never_opens_padding :
    ∃ text, paddingPair.server.decrypt padding (paddedBlock (keyBlock counted.input)) aesKeyRaw =
      .returns (.error text) ∧ text = "buffer size (decrypt len > buffer.size)" := by
  have whole : (keyBlock counted.input).length = 64 := by
    simp [keyBlock, counted.key, counted.iv1, counted.iv2]
  obtain ⟨_, text, answers, buffer, _⟩ :=
    key_block_never_opens paddingPair _ _ (encrypt_padding whole)
  exact ⟨text, answers, buffer ⟨rfl, rfl, rfl, rfl, rfl⟩⟩

/-- The buffer of the server is too small for a key block that a buffer of 256
bytes, such as the test's, gets back. -/
theorem key_block_unopened :
    (keyBlock counted.input).length = 64 ∧
    paddingPair.client.encrypt padding (keyBlock counted.input) rsaBuff =
      .ok (paddedBlock (keyBlock counted.input)) ∧
    paddingPair.server.decrypt padding (paddedBlock (keyBlock counted.input)) aesKeyRaw ≠
      .returns (.ok (keyBlock counted.input)) ∧
    paddingPair.server.decrypt padding (paddedBlock (keyBlock counted.input)) 256 =
      .returns (.ok (keyBlock counted.input)) := by
  have whole : (keyBlock counted.input).length = 64 := by
    simp [keyBlock, counted.key, counted.iv1, counted.iv2]
  have encrypts := encrypt_padding whole
  have opens_iff : ∀ out, paddingPair.server.decrypt padding (paddedBlock (keyBlock counted.input))
      out = .returns (.ok (keyBlock counted.input)) ↔ 256 ≤ out :=
    fun out => paddingPair.decrypt_iff encrypts ⟨rfl, rfl, rfl, rfl, rfl⟩
  exact ⟨whole, encrypts, by rw [Ne, opens_iff]; decide, (opens_iff 256).mpr (Nat.le_refl _)⟩

end Vpverk.Cvkrsa
