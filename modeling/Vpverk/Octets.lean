import Mathlib.Data.List.Basic
import Mathlib.Tactic.TypeStar

/-! Byte strings: 32-bit words as a little-endian host lays them out, and
stream ciphers, which combine each byte with the keystream byte of its position.
Nothing here depends on what the bytes mean. -/
namespace Vpverk.Octets

abbrev Bytes := List UInt8

/-- The bytes of a text. -/
def utf8 (text : String) : Bytes := text.toUTF8.data.toList

/-! ### Little-endian words -/

/-- The four bytes of a word in memory. -/
def encode (word : UInt32) : Bytes :=
  [word.toUInt8, (word >>> 8).toUInt8, (word >>> 16).toUInt8, (word >>> 24).toUInt8]

/-- The word the bytes in memory are read as. -/
def decode (bytes : Bytes) : UInt32 :=
  bytes.foldr (fun byte higher => higher * 256 + byte.toUInt32) 0

@[simp] theorem encode_length (word : UInt32) : (encode word).length = 4 := rfl

@[simp] theorem decode_encode (word : UInt32) : decode (encode word) = word := by
  apply UInt32.toNat_inj.mp
  simp only [decode, encode, List.foldr, UInt32.toNat_add, UInt32.toNat_mul,
    UInt8.toNat_toUInt32, UInt32.toNat_toUInt8, UInt32.toNat_shiftRight,
    Nat.shiftRight_eq_div_pow]
  have := word.toNat_lt
  simp
  omega

theorem encode_decode {bytes : Bytes} (four : bytes.length = 4) :
    encode (decode bytes) = bytes := by
  match bytes, four with
  | [first, second, third, fourth], _ =>
    have := first.toNat_lt
    have := second.toNat_lt
    have := third.toNat_lt
    have := fourth.toNat_lt
    simp only [encode, List.cons.injEq, and_true, ← UInt8.toNat_inj]
    simp only [decode, List.foldr, UInt32.toNat_add, UInt32.toNat_mul, UInt8.toNat_toUInt32,
      UInt32.toNat_toUInt8, UInt32.toNat_shiftRight, Nat.shiftRight_eq_div_pow]
    simp
    omega

/-! ### Keystreams -/

/-- The keystream of a cipher in counter mode: a byte for every position. -/
abbrev Keystream := Nat → UInt8

/-- What the cipher makes of the bytes from a position on. -/
def mask (stream : Keystream) : Nat → Bytes → Bytes
  | _, [] => []
  | position, byte :: rest => (byte ^^^ stream position) :: mask stream (position + 1) rest

variable {stream : Keystream} {position : Nat} {bytes first second : Bytes}

@[simp] theorem mask_nil : mask stream position [] = [] := rfl

@[simp] theorem mask_length : (mask stream position bytes).length = bytes.length := by
  induction bytes generalizing position with
  | nil => rfl
  | cons byte rest ih => simp [mask, ih]

/-- A string may be masked in pieces, as long as each starts where the last ended. -/
theorem mask_append :
    mask stream position (first ++ second) =
      mask stream position first ++ mask stream (position + first.length) second := by
  induction first generalizing position with
  | nil => simp
  | cons byte rest ih => simp [mask, ih, Nat.add_assoc, Nat.add_comm 1]

/-- Masking twice at the same position undoes itself. -/
@[simp] theorem mask_mask : mask stream position (mask stream position bytes) = bytes := by
  induction bytes generalizing position with
  | nil => rfl
  | cons byte rest ih => rw [mask, mask, ih, UInt8.xor_assoc, UInt8.xor_self, UInt8.xor_zero]

end Vpverk.Octets
