import Mathlib.Logic.Function.Basic
import Vpverk.Peer
import Vpverk.Transition

/-! Two `AesSession` objects with swapped IVs, and any order of `encrypt` and `decrypt`
calls at both. Of OpenSSL it is assumed that AES-256-CTR combines each byte with a
keystream fixed by the key and the IV, and that a context keeps its own position. -/
namespace Vpverk.DuplexStream
open Transition Octets
open Asioapi (ErrorCode)
open Peer (Cipher)

/-- `CipherCtx`, initialised for AES-256-CTR. -/
structure CipherCtx where
  key : Bytes
  iv : Bytes
  position : Nat := 0
  deriving DecidableEq, Repr

/-- `static_cast<int>` of a size. -/
def staticCastInt (size : Nat) : Int := Int.bmod size 4294967296

/-- `EVP_EncryptUpdate`, and `EVP_DecryptUpdate`, which does the same in counter mode:
the bytes written, unless the length is negative. -/
def CipherCtx.update (cipher : Cipher) (ctx : CipherCtx) (input : Bytes) (length : Int) :
    Option (Bytes × CipherCtx) :=
  if length < 0 then none
  else some (mask (cipher ctx.key ctx.iv) ctx.position (input.take length.toNat),
    { ctx with position := ctx.position + length.toNat })

/-- `std::errc::io_error`. -/
def ioError : ErrorCode := .other "Input/output error"

/-- The body of `encrypt` and of `decrypt`, with the context each of them uses. -/
def CipherCtx.crypt (cipher : Cipher) (ctx : CipherCtx) (input : Bytes) (out : Nat) :
    Except ErrorCode Bytes × CipherCtx :=
  if out < input.length then (.error .noBufferSpace, ctx)
  else
    match ctx.update cipher input (staticCastInt input.length) with
    | none => (.error ioError, ctx)
    | some (written, ctx) => (.ok written, ctx)

/-- `aig::AesSession`. -/
structure AesSession where
  encryptCtx : CipherCtx
  decryptCtx : CipherCtx
  deriving DecidableEq, Repr

/-- `AesSession::create`, where OpenSSL has the memory for its contexts. -/
def AesSession.create (key encryptIv decryptIv : Bytes) : Except ErrorCode AesSession :=
  if key.length ≠ 32 ∨ encryptIv.length ≠ 16 ∨ decryptIv.length ≠ 16 then .error .invalidArgument
  else .ok { encryptCtx := { key, iv := encryptIv }, decryptCtx := { key, iv := decryptIv } }

/-- `AesSession::encrypt` into a buffer of the given size. -/
def AesSession.encrypt (cipher : Cipher) (aes : AesSession) (input : Bytes) (out : Nat) :
    Except ErrorCode Bytes × AesSession :=
  ((aes.encryptCtx.crypt cipher input out).1,
    { aes with encryptCtx := (aes.encryptCtx.crypt cipher input out).2 })

/-- `AesSession::decrypt` into a buffer of the given size. -/
def AesSession.decrypt (cipher : Cipher) (aes : AesSession) (input : Bytes) (out : Nat) :
    Except ErrorCode Bytes × AesSession :=
  ((aes.decryptCtx.crypt cipher input out).1,
    { aes with decryptCtx := (aes.decryptCtx.crypt cipher input out).2 })

/-- The size from which on a length is no `int`. -/
def intSize : Nat := 2147483648

variable {cipher : Cipher} {ctx : CipherCtx} {aes : AesSession} {input : Bytes} {out : Nat}

theorem staticCastInt_eq {size : Nat} (small : size < intSize) : staticCastInt size = size := by
  unfold intSize at small
  unfold staticCastInt
  rw [Int.bmod_def]
  omega

/-- A buffer that is too small changes nothing. -/
theorem crypt_refused (short : out < input.length) :
    ctx.crypt cipher input out = (.error .noBufferSpace, ctx) :=
  if_pos short

/-- One large enough gets the bytes of the keystream's next positions. -/
theorem crypt_ok (cipher : Cipher) (ctx : CipherCtx) (fits : input.length ≤ out)
    (small : input.length < intSize) :
    ctx.crypt cipher input out = (.ok (mask (cipher ctx.key ctx.iv) ctx.position input),
      { ctx with position := ctx.position + input.length }) := by
  have natural : ¬ (input.length : Int) < 0 := Int.not_lt.mpr (Int.natCast_nonneg _)
  rw [CipherCtx.crypt, if_neg (Nat.not_lt.mpr fits), staticCastInt_eq small, CipherCtx.update,
    if_neg natural]
  simp

/-- The same session, with no more than its positions. -/
def AesSession.positions (aes : AesSession) : Peer.AesSession where
  key := aes.encryptCtx.key
  encryptIv := aes.encryptCtx.iv
  decryptIv := aes.decryptCtx.iv
  encrypted := aes.encryptCtx.position
  decrypted := aes.decryptCtx.position

/-- Lengths that fit an `int` are all that the rest of the program encrypts. -/
theorem encrypt_positions (small : input.length < intSize) :
    aes.positions.encrypt cipher input out =
      (aes.encrypt cipher input out).1.map fun written =>
        (written, (aes.encrypt cipher input out).2.positions) := by
  by_cases short : out < input.length
  · rw [Peer.AesSession.encrypt, if_pos short, AesSession.encrypt, crypt_refused short]
    rfl
  · rw [Peer.AesSession.encrypt, if_neg short, AesSession.encrypt,
      crypt_ok _ _ (Nat.not_lt.mp short) small]
    rfl

theorem decrypt_positions (small : input.length < intSize)
    (oneKey : aes.decryptCtx.key = aes.encryptCtx.key) :
    aes.positions.decrypt cipher input out =
      (aes.decrypt cipher input out).1.map fun written =>
        (written, (aes.decrypt cipher input out).2.positions) := by
  by_cases short : out < input.length
  · rw [Peer.AesSession.decrypt, if_pos short, AesSession.decrypt, crypt_refused short]
    rfl
  · rw [Peer.AesSession.decrypt, if_neg short, AesSession.decrypt,
      crypt_ok _ _ (Nat.not_lt.mp short) small, oneKey]
    rfl

/-! ### Two ends -/

inductive End where
  | here
  | there
  deriving DecidableEq, Repr

def End.other : End → End
  | .here => .there
  | .there => .here

/-- The session of each end, and the ciphertext that end has made and the other has
not decrypted yet. -/
structure Duplex where
  session : End → AesSession
  inFlight : End → Bytes := fun _ => []

/-- A call, with what it was given and what it answered. -/
inductive Label where
  | encrypted (at' : End) (input : Bytes) (answer : Except ErrorCode Bytes)
  | decrypted (at' : End) (input : Bytes) (answer : Except ErrorCode Bytes)

/-- The next call: how much of the ciphertext a `decrypt` is given has nothing to do
with how it was made. -/
inductive Event where
  | encrypt (at' : End) (input : Bytes) (out : Nat)
  | decrypt (at' : End) (size out : Nat)

/-- The end whose bytes a call moves. -/
def Label.way : Label → End
  | .encrypted at' .. => at'
  | .decrypted at' .. => at'.other

def Label.answer : Label → Except ErrorCode Bytes
  | .encrypted _ _ answer | .decrypted _ _ answer => answer

/-- A call of `encrypt`; what it gives out is in flight. -/
def Duplex.encrypt (cipher : Cipher) (duplex : Duplex) (at' : End) (input : Bytes) (out : Nat) :
    Duplex × Label :=
  let called := (duplex.session at').encrypt cipher input out
  ({ session := Function.update duplex.session at' called.2
     inFlight :=
       match called.1 with
       | .ok bytes => Function.update duplex.inFlight at' (duplex.inFlight at' ++ bytes)
       | .error _ => duplex.inFlight }, .encrypted at' input called.1)

/-- A call of `decrypt` with the next bytes in flight, which it takes unless it is
refused. -/
def Duplex.decrypt (cipher : Cipher) (duplex : Duplex) (at' : End) (size out : Nat) :
    Duplex × Label :=
  let input := (duplex.inFlight at'.other).take size
  let called := (duplex.session at').decrypt cipher input out
  ({ session := Function.update duplex.session at' called.2
     inFlight :=
       match called.1 with
       | .ok _ =>
         Function.update duplex.inFlight at'.other ((duplex.inFlight at'.other).drop size)
       | .error _ => duplex.inFlight }, .decrypted at' input called.1)

/-- Calls with inputs whose size fits an `int`, and no more ciphertext than there is. -/
def machine (cipher : Cipher) (session : End → AesSession) : Machine Duplex Event Label where
  initial := { session }
  step duplex
    | .encrypt at' input out =>
      if input.length < intSize then some (duplex.encrypt cipher at' input out) else none
    | .decrypt at' size out =>
      if size < intSize ∧ size ≤ (duplex.inFlight at'.other).length then
        some (duplex.decrypt cipher at' size out)
      else none

/-! ### What each end was given and has got -/

/-- What the end was given to encrypt, in calls that came back without an error. -/
def Label.given (way : End) : Label → Bytes
  | .encrypted at' input (.ok _) => if at' = way then input else []
  | .encrypted _ _ (.error _) | .decrypted .. => []

/-- What the other end has decrypted of it. -/
def Label.got (way : End) : Label → Bytes
  | .decrypted at' _ (.ok output) => if at'.other = way then output else []
  | .decrypted _ _ (.error _) | .encrypted .. => []

/-- All that an end was given, and all that the other has got of it. -/
def allGiven (way : End) (trace : List Label) : Bytes := trace.flatMap (Label.given way)
def allGot (way : End) (trace : List Label) : Bytes := trace.flatMap (Label.got way)

/-! ### One direction -/

/-- One direction by itself: the context that encrypts, the one that decrypts, and the
ciphertext between them. -/
structure Direction where
  encryptCtx : CipherCtx
  decryptCtx : CipherCtx
  inFlight : Bytes

def Duplex.direction (duplex : Duplex) (way : End) : Direction where
  encryptCtx := (duplex.session way).encryptCtx
  decryptCtx := (duplex.session way.other).decryptCtx
  inFlight := duplex.inFlight way

def Direction.encrypt (cipher : Cipher) (direction : Direction) (input : Bytes) (out : Nat) :
    Except ErrorCode Bytes × Direction :=
  let called := direction.encryptCtx.crypt cipher input out
  (called.1, { direction with
    encryptCtx := called.2
    inFlight :=
      match called.1 with
      | .ok bytes => direction.inFlight ++ bytes
      | .error _ => direction.inFlight })

def Direction.decrypt (cipher : Cipher) (direction : Direction) (size out : Nat) :
    Except ErrorCode Bytes × Direction :=
  let called := direction.decryptCtx.crypt cipher (direction.inFlight.take size) out
  (called.1, { direction with
    decryptCtx := called.2
    inFlight :=
      match called.1 with
      | .ok _ => direction.inFlight.drop size
      | .error _ => direction.inFlight })

variable {duplex : Duplex} {at' way : End} {size : Nat} {direction : Direction}

@[simp] theorem other_other (at' : End) : at'.other.other = at' := by cases at' <;> rfl
@[simp] theorem other_ne (at' : End) : at'.other ≠ at' := by cases at' <;> decide

theorem other_of_ne (differ : way ≠ at') : way.other = at' := by
  cases way <;> cases at' <;> first | rfl | exact absurd rfl differ

/-- An `encrypt` is one of the direction that goes out from there. -/
theorem encrypt_direction :
    (duplex.encrypt cipher at' input out).1.direction at' =
      ((duplex.direction at').encrypt cipher input out).2 := by
  unfold Duplex.encrypt Duplex.direction Direction.encrypt AesSession.encrypt
  cases called : ((duplex.session at').encryptCtx.crypt cipher input out).1 <;>
    simp [called]

theorem encrypt_elsewhere (differ : way ≠ at') :
    (duplex.encrypt cipher at' input out).1.direction way = duplex.direction way := by
  obtain rfl := other_of_ne differ
  unfold Duplex.encrypt Duplex.direction AesSession.encrypt
  cases called : ((duplex.session way.other).encryptCtx.crypt cipher input out).1 <;>
    simp [Function.update_of_ne differ]

/-- A `decrypt` is one of the direction that comes in there. -/
theorem decrypt_label :
    (duplex.decrypt cipher at' size out).2 =
      .decrypted at' ((duplex.direction at'.other).inFlight.take size)
        ((duplex.direction at'.other).decrypt cipher size out).1 := by
  simp [Duplex.decrypt, Duplex.direction, Direction.decrypt, AesSession.decrypt]

theorem decrypt_direction :
    (duplex.decrypt cipher at' size out).1.direction at'.other =
      ((duplex.direction at'.other).decrypt cipher size out).2 := by
  unfold Duplex.decrypt Duplex.direction Direction.decrypt AesSession.decrypt
  cases called : ((duplex.session at').decryptCtx.crypt cipher
    ((duplex.inFlight at'.other).take size) out).1 <;>
    simp [called]

theorem decrypt_elsewhere (differ : way ≠ at'.other) :
    (duplex.decrypt cipher at' size out).1.direction way = duplex.direction way := by
  obtain rfl : way = at' := by simpa using (other_of_ne differ.symm).symm
  unfold Duplex.decrypt Duplex.direction AesSession.decrypt
  cases called : ((duplex.session way).decryptCtx.crypt cipher
    ((duplex.inFlight way.other).take size) out).1 <;>
    simp [called, Function.update_of_ne differ]

/-- One direction is in step: its contexts stand where the bytes they were given end, and
in flight is what the keystream makes of the bytes between. -/
structure InStep (cipher : Cipher) (key iv : Bytes) (direction : Direction) (given got : Bytes) :
    Prop where
  encrypts : direction.encryptCtx = ⟨key, iv, given.length⟩
  decrypts : direction.decryptCtx = ⟨key, iv, got.length⟩
  between : ∃ rest, given = got ++ rest ∧
    direction.inFlight = mask (cipher key iv) got.length rest

variable {key iv given got : Bytes}

/-- A call that is refused changes nothing. -/
theorem Direction.encrypt_refused (short : out < input.length) :
    direction.encrypt cipher input out = (.error .noBufferSpace, direction) := by
  rw [Direction.encrypt, crypt_refused short]

theorem Direction.decrypt_refused (comes : size ≤ direction.inFlight.length) (short : out < size) :
    direction.decrypt cipher size out = (.error .noBufferSpace, direction) := by
  have length : (direction.inFlight.take size).length = size := List.length_take_of_le comes
  rw [Direction.decrypt, crypt_refused (length.symm ▸ short)]

theorem InStep.encrypt (inStep : InStep cipher key iv direction given got)
    (fits : input.length ≤ out) (small : input.length < intSize) :
    ∃ bytes, (direction.encrypt cipher input out).1 = .ok bytes ∧
      InStep cipher key iv (direction.encrypt cipher input out).2 (given ++ input) got := by
  obtain ⟨rest, whole, between⟩ := inStep.between
  rw [Direction.encrypt, crypt_ok _ _ fits small]
  refine ⟨_, rfl, ?_, inStep.decrypts, rest ++ input, by simp [whole], ?_⟩
  · simp [inStep.encrypts]
  · simp [between, inStep.encrypts, mask_append, whole]

theorem InStep.decrypt (inStep : InStep cipher key iv direction given got)
    (comes : size ≤ direction.inFlight.length) (fits : size ≤ out) (small : size < intSize) :
    ∃ bytes, (direction.decrypt cipher size out).1 = .ok bytes ∧
      InStep cipher key iv (direction.decrypt cipher size out).2 given (got ++ bytes) := by
  obtain ⟨rest, whole, between⟩ := inStep.between
  rw [between, mask_length] at comes
  obtain ⟨first, second, rfl, rfl⟩ : ∃ first second, rest = first ++ second ∧ first.length = size :=
    ⟨rest.take size, rest.drop size, (List.take_append_drop ..).symm, List.length_take_of_le comes⟩
  rw [mask_append] at between
  have front : direction.inFlight.take first.length = mask (cipher key iv) got.length first := by
    rw [between, List.take_left' mask_length]
  have back : direction.inFlight.drop first.length =
      mask (cipher key iv) (got.length + first.length) second := by
    rw [between, List.drop_left' mask_length]
  have ran : direction.decryptCtx.crypt cipher (mask (cipher key iv) got.length first) out =
      (.ok first, ⟨key, iv, got.length + first.length⟩) := by
    rw [crypt_ok _ _ (by rwa [mask_length]) (by rwa [mask_length]), inStep.decrypts, mask_mask,
      mask_length]
  rw [Direction.decrypt, front, ran]
  refine ⟨first, rfl, inStep.encrypts, ?_, second, ?_, ?_⟩
  · simp
  · rw [List.append_assoc, whole]
  · rw [List.length_append]
    exact back

/-! ### Calls at both ends -/

variable {session : End → AesSession} {before before' after : Duplex} {event : Event} {label : Label}
  {trace : List Label} {finish : Duplex}

/-- What a call is. -/
theorem step_cases (stepped : (machine cipher session).step before event = some (after, label)) :
    (∃ at' input out, event = .encrypt at' input out ∧ input.length < intSize ∧
      after = (before.encrypt cipher at' input out).1 ∧
      label = .encrypted at' input ((before.direction at').encrypt cipher input out).1) ∨
    ∃ at' size out, event = .decrypt at' size out ∧ size < intSize ∧
      size ≤ (before.direction at'.other).inFlight.length ∧
      after = (before.decrypt cipher at' size out).1 ∧
      label = .decrypted at' ((before.direction at'.other).inFlight.take size)
        ((before.direction at'.other).decrypt cipher size out).1 := by
  cases event with
  | encrypt at' input out =>
    obtain ⟨small, same⟩ := Option.ite_none_right_eq_some.mp stepped
    cases same
    exact .inl ⟨at', input, out, rfl, small, rfl, rfl⟩
  | decrypt at' size out =>
    obtain ⟨⟨small, comes⟩, same⟩ := Option.ite_none_right_eq_some.mp stepped
    have called : (before.decrypt cipher at' size out).2 = _ := decrypt_label
    obtain ⟨rfl, rfl⟩ := Prod.mk.inj (Option.some.inj same)
    exact .inr ⟨at', size, out, rfl, small, comes, rfl, called⟩

theorem encrypt_steps (small : input.length < intSize) :
    (machine cipher session).step before (.encrypt at' input out) =
      some ((before.encrypt cipher at' input out).1,
        .encrypted at' input ((before.direction at').encrypt cipher input out).1) :=
  if_pos small

theorem decrypt_steps (small : size < intSize)
    (comes : size ≤ (before.direction at'.other).inFlight.length) :
    (machine cipher session).step before (.decrypt at' size out) =
      some ((before.decrypt cipher at' size out).1,
        .decrypted at' ((before.direction at'.other).inFlight.take size)
          ((before.direction at'.other).decrypt cipher size out).1) := by
  rw [← decrypt_label]
  exact if_pos ⟨small, comes⟩

/-- A call leaves the other direction alone. -/
theorem step_elsewhere (stepped : (machine cipher session).step before event = some (after, label))
    (differ : way ≠ label.way) : after.direction way = before.direction way := by
  rcases step_cases stepped with
    ⟨at', input, out, _, _, rfl, rfl⟩ | ⟨at', size, out, _, _, _, rfl, rfl⟩
  · exact encrypt_elsewhere differ
  · exact decrypt_elsewhere differ

/-- What it does to its own direction depends on nothing else. -/
theorem step_alike (stepped : (machine cipher session).step before event = some (after, label))
    (alike : before'.direction label.way = before.direction label.way) :
    ∃ after', (machine cipher session).step before' event = some (after', label) ∧
      after'.direction label.way = after.direction label.way := by
  rcases step_cases stepped with
    ⟨at', input, out, rfl, small, rfl, rfl⟩ | ⟨at', size, out, rfl, small, comes, rfl, rfl⟩
  · have alike : before'.direction at' = before.direction at' := alike
    refine ⟨_, (encrypt_steps small).trans (by rw [alike]), ?_⟩
    change Duplex.direction _ at' = Duplex.direction _ at'
    rw [encrypt_direction, encrypt_direction, alike]
  · have alike : before'.direction at'.other = before.direction at'.other := alike
    refine ⟨_, (decrypt_steps small (alike ▸ comes)).trans (by rw [alike]), ?_⟩
    change Duplex.direction _ at'.other = Duplex.direction _ at'.other
    rw [decrypt_direction, decrypt_direction, alike]

/-- A session that was refused is the session it was. -/
theorem encrypt_refused (short : out < input.length) :
    (before.encrypt cipher at' input out).1 = before := by
  simp [Duplex.encrypt, AesSession.encrypt, crypt_refused short]

theorem decrypt_refused (comes : size ≤ (before.direction at'.other).inFlight.length)
    (short : out < size) : (before.decrypt cipher at' size out).1 = before := by
  have length : ((before.inFlight at'.other).take size).length = size :=
    List.length_take_of_le comes
  simp [Duplex.decrypt, AesSession.decrypt, crypt_refused (length.symm ▸ short)]

/-- A direction that is in step stays so. -/
theorem step_inStep (stepped : (machine cipher session).step before event = some (after, label))
    (inStep : InStep cipher key iv (before.direction way) given got) :
    InStep cipher key iv (after.direction way) (given ++ label.given way) (got ++ label.got way) := by
  by_cases elsewhere : way = label.way
  · subst elsewhere
    rcases step_cases stepped with
      ⟨at', input, out, rfl, small, rfl, rfl⟩ | ⟨at', size, out, rfl, small, comes, rfl, rfl⟩
    · have inStep : InStep cipher key iv (before.direction at') given got := inStep
      change InStep cipher key iv (Duplex.direction _ at') _ _
      rw [encrypt_direction]
      by_cases short : out < input.length
      · rw [Direction.encrypt_refused short]
        simpa [Label.given, Label.got] using inStep
      · obtain ⟨bytes, answer, moved⟩ := inStep.encrypt (Nat.not_lt.mp short) small
        rw [answer]
        simpa [Label.given, Label.got, Label.way] using moved
    · have inStep : InStep cipher key iv (before.direction at'.other) given got := inStep
      change InStep cipher key iv (Duplex.direction _ at'.other) _ _
      rw [decrypt_direction]
      by_cases short : out < size
      · rw [Direction.decrypt_refused comes short]
        simpa [Label.given, Label.got] using inStep
      · obtain ⟨bytes, answer, moved⟩ := inStep.decrypt comes (Nat.not_lt.mp short) small
        rw [answer]
        simpa [Label.given, Label.got, Label.way] using moved
  · have nothing : label.given way = [] ∧ label.got way = [] := by
      cases label with
      | encrypted at' input answer =>
        have other : ¬ at' = way := fun same => elsewhere same.symm
        cases answer <;> simp [Label.given, Label.got, other]
      | decrypted at' input answer =>
        have other : ¬ at'.other = way := fun same => elsewhere same.symm
        cases answer <;> simp [Label.given, Label.got, other]
    rw [step_elsewhere stepped elsewhere, nothing.1, nothing.2, List.append_nil, List.append_nil]
    exact inStep

/-- A call that answers an error had a buffer too small, and left both ends as they were. -/
theorem step_refused (stepped : (machine cipher session).step before event = some (after, label))
    {code : ErrorCode} (refused : label.answer = .error code) :
    code = .noBufferSpace ∧ after = before := by
  rcases step_cases stepped with
    ⟨at', input, out, rfl, small, rfl, rfl⟩ | ⟨at', size, out, rfl, small, comes, rfl, rfl⟩
  · by_cases short : out < input.length
    · rw [Direction.encrypt_refused short] at refused
      cases refused
      exact ⟨rfl, encrypt_refused short⟩
    · rw [Direction.encrypt, crypt_ok _ _ (Nat.not_lt.mp short) small] at refused
      cases refused
  · have length : ((before.direction at'.other).inFlight.take size).length = size :=
      List.length_take_of_le comes
    by_cases short : out < size
    · rw [Direction.decrypt_refused comes short] at refused
      cases refused
      exact ⟨rfl, decrypt_refused comes short⟩
    · rw [Direction.decrypt, crypt_ok _ _ (by omega) (by omega)] at refused
      cases refused

/-! ### Runs -/

/-- Sessions that were created with swapped IVs begin in step. -/
theorem inStep_created (cipher : Cipher) {key iv iv' : Bytes}
    (here : AesSession.create key iv iv' = .ok (session .here))
    (there : AesSession.create key iv' iv = .ok (session .there)) (way : End) :
    ∃ iv, InStep cipher key iv (Duplex.direction { session } way) [] [] := by
  unfold AesSession.create at here there
  split at here
  · cases here
  · split at there
    · cases there
    · have here := Except.ok.inj here
      have there := Except.ok.inj there
      cases way with
      | here =>
        refine ⟨iv, ?_, ?_, [], rfl, rfl⟩
        · simp [Duplex.direction, ← here]
        · simp [Duplex.direction, End.other, ← there]
      | there =>
        refine ⟨iv', ?_, ?_, [], rfl, rfl⟩
        · simp [Duplex.direction, ← there]
        · simp [Duplex.direction, End.other, ← here]

theorem run_inStep (begins : InStep cipher key iv (Duplex.direction { session } way) [] [])
    (run : (machine cipher session).system.Run trace finish) :
    InStep cipher key iv (finish.direction way) (allGiven way trace)
      (allGot way trace) := by
  revert run
  apply System.Run.invariant
  · rintro _ rfl
    exact begins
  · rintro trace before label after _ inStep ⟨event, stepped⟩
    simpa [allGiven, allGot] using step_inStep stepped inStep

/-- The calls of one direction alone lead to where it stands. -/
theorem run_alone (run : (machine cipher session).system.Run trace finish) (way : End) :
    ∃ alone, (machine cipher session).system.Run (trace.filter (·.way = way)) alone ∧
      alone.direction way = finish.direction way := by
  revert run
  apply System.Run.invariant
  · rintro start rfl
    exact ⟨_, .start rfl, rfl⟩
  · rintro trace before label after _ ⟨alone, run, same⟩ ⟨event, stepped⟩
    rw [List.filter_append]
    by_cases own : label.way = way
    · subst own
      obtain ⟨after', stepped', same'⟩ := step_alike stepped same
      refine ⟨after', ?_, same'⟩
      simpa using run.next ⟨event, stepped'⟩
    · refine ⟨alone, by simpa [own] using run, ?_⟩
      rw [same, step_elsewhere stepped (Ne.symm own)]

/-- **AES sessions form a duplex byte stream.** In every order of calls, and however the
ciphertext is cut, what an end decrypts is the beginning of what the other was given to
encrypt; the calls of one direction come out as if there were no others; and a call
that is refused for its buffer leaves both ends as they were. -/
theorem duplex_streams (cipher : Cipher) (key iv iv' : Bytes) (session : End → AesSession)
    (here : AesSession.create key iv iv' = .ok (session .here))
    (there : AesSession.create key iv' iv = .ok (session .there)) :
    (∀ trace finish, (machine cipher session).system.Run trace finish → ∀ way,
      allGot way trace = (allGiven way trace).take (allGot way trace).length ∧
      ∃ alone, (machine cipher session).system.Run (trace.filter (·.way = way)) alone ∧
        alone.direction way = finish.direction way) ∧
    ∀ before label after code, (machine cipher session).system.step before label after →
      label.answer = .error code → code = .noBufferSpace ∧ after = before := by
  constructor
  · intro trace finish run way
    obtain ⟨iv, begins⟩ := inStep_created cipher here there way
    obtain ⟨rest, whole, _⟩ := (run_inStep begins run).between
    refine ⟨?_, run_alone run way⟩
    rw [whole, List.take_left]
  · rintro before label after code ⟨event, stepped⟩ refused
    exact step_refused stepped refused

/-- Sessions of a key and two IVs of zeros and ones. -/
def exampleSession : End → AesSession
  | .here => ⟨{ key := List.replicate 32 0, iv := List.replicate 16 0 },
      { key := List.replicate 32 0, iv := List.replicate 16 1 }⟩
  | .there => ⟨{ key := List.replicate 32 0, iv := List.replicate 16 1 },
      { key := List.replicate 32 0, iv := List.replicate 16 0 }⟩

def exampleCalls : List Event :=
  [.encrypt .here [7, 8, 9] 3, .decrypt .there 1 0, .decrypt .there 1 1, .encrypt .there [4] 4,
    .decrypt .there 2 2]

/-- Three bytes are encrypted at once, then one is refused and three are decrypted in two
calls, while the other end encrypts as well. -/
theorem duplex_streams_one_to_two :
    ∃ trace finish,
      (machine (fun _ iv position => iv.headD 0 + position.toUInt8) exampleSession).system.Run
        trace finish ∧
      trace.length = 5 ∧ (allGot .here trace).length = 3 ∧
      allGot .here trace = (allGiven .here trace).take 3 := by
  have run : ∃ trace finish,
      (machine (fun _ iv position => iv.headD 0 + position.toUInt8) exampleSession).system.Run
        trace finish ∧
      trace.length = 5 ∧ (allGot .here trace).length = 3 :=
    ⟨_, _, Machine.replay_run (show (machine _ exampleSession).replay _ exampleCalls = _ from rfl),
      rfl, rfl⟩
  obtain ⟨trace, finish, run, calls, three⟩ := run
  have streams := (duplex_streams _ (List.replicate 32 0) (List.replicate 16 0) (List.replicate 16 1)
    exampleSession rfl rfl).1 trace finish run .here
  exact ⟨trace, finish, run, calls, three, three ▸ streams.1⟩

end Vpverk.DuplexStream
