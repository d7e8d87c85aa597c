import Mathlib.Data.Finset.Basic

/-! The address pool of `SessionsControl`: the counter, the set of addresses in
use and `getNewAddress`. The diagnostic block of the loop is kept behind a
switch, so that the code can be read as written and with the block removed. -/
namespace Vpverk

/-- How a piece of the program ends: it hands a value on, or the process dies
in `cuabort` (a failed `cussert` included) with this text. -/
inductive Outcome (α : Type) where
  | returns (value : α)
  | aborts (info : String)
  deriving DecidableEq, Repr

/-- `asio::ip::address_v4`, ordered and compared as its host-order integer. -/
structure AddressV4 where
  toUint : UInt32
  deriving DecidableEq, Repr

namespace Addresses

/-- `address_begin`, the network part of 10.123.0.0/16. -/
def addressBegin : UInt32 := ((10 : UInt32) <<< 24) ||| ((123 : UInt32) <<< 16)

/-- What `unique_address_mutex` guards. -/
structure AddressPool where
  uniqueAddressCounter : UInt16 := 1
  uniqueAddressSet : Finset AddressV4 := ∅

/-- The counter's step: 65535 is the broadcast address, and 0 and 1 are the
network and the server. -/
def nextCounter (counter : UInt16) : UInt16 :=
  if counter + 1 = 0xFFFF then 2 else counter + 1

/-- The address tried for a counter value. -/
def candidate (counter : UInt16) : AddressV4 := ⟨addressBegin ||| counter.toUInt32⟩

/-- The text the diagnostic block picks from the two high bytes. -/
def diagnostic (a : UInt32) : String :=
  if (a >>> 24).toUInt8 = 10 ∧ (a >>> 16).toUInt8 = 123 then "like this" else "not like this"

/-- `SessionsControl::getNewAddress`, at most `passes` times through its loop;
`none` while the loop is still running. -/
def getNewAddress (diagnostics : Bool) :
    Nat → AddressPool → Option (Outcome (AddressV4 × AddressPool))
  | 0, _ => none
  | passes + 1, pool =>
    let counter := nextCounter pool.uniqueAddressCounter
    let address := candidate counter
    if diagnostics then some (.aborts (diagnostic address.toUint))
    else if address ∈ pool.uniqueAddressSet then
      getNewAddress diagnostics passes { pool with uniqueAddressCounter := counter }
    else
      some (.returns (address, ⟨counter, insert address pool.uniqueAddressSet⟩))

/-- The erase at the end of `startConnection`. -/
def AddressPool.release (pool : AddressPool) (address : AddressV4) : AddressPool :=
  { pool with uniqueAddressSet := pool.uniqueAddressSet.erase address }

variable {passes : Nat} {pool after : AddressPool} {address : AddressV4}

/-- An answer is an address that was free, and it is the one that was taken. -/
theorem getNewAddress_free {diagnostics : Bool}
    (answered : getNewAddress diagnostics passes pool = some (.returns (address, after))) :
    address ∉ pool.uniqueAddressSet ∧
      after.uniqueAddressSet = insert address pool.uniqueAddressSet := by
  induction passes generalizing pool with
  | zero => cases answered
  | succ passes ih =>
    unfold getNewAddress at answered
    dsimp only at answered
    split at answered
    · cases answered
    · split at answered
      · have rest := ih answered
        exact rest
      · rename_i free
        cases answered
        exact ⟨free, rfl⟩

/-- A free first candidate is the answer, after one pass. -/
theorem getNewAddress_first
    (free : candidate (nextCounter pool.uniqueAddressCounter) ∉ pool.uniqueAddressSet) :
    getNewAddress false 1 pool =
      some (.returns (candidate (nextCounter pool.uniqueAddressCounter),
        ⟨nextCounter pool.uniqueAddressCounter,
          insert (candidate (nextCounter pool.uniqueAddressCounter)) pool.uniqueAddressSet⟩)) := by
  simp [getNewAddress, free]

theorem nextCounter_toNat {counter : UInt16} (below : counter.toNat < 65534) :
    (nextCounter counter).toNat = counter.toNat + 1 := by
  have next : (counter + 1).toNat = counter.toNat + 1 := by
    rw [UInt16.toNat_add]
    exact Nat.mod_eq_of_lt (by simp; omega)
  have small : counter + 1 ≠ 0xFFFF := by
    intro same
    rw [same] at next
    simp at next
    omega
  rw [nextCounter, if_neg small, next]

/-- A candidate is the counter within 10.123.0.0/16. -/
theorem candidate_toNat (counter : UInt16) :
    (candidate counter).toUint.toNat = 0x10000 * 0x0A7B + counter.toNat := by
  have network : addressBegin.toNat = 0x10000 * 0x0A7B := by rfl
  rw [candidate, UInt32.toNat_or, UInt16.toNat_toUInt32, network]
  exact (Nat.two_pow_add_eq_or_of_lt counter.toNat_lt 0x0A7B).symm

theorem candidate_injective {first second : UInt16} (same : candidate first = candidate second) :
    first = second := by
  have := congrArg (·.toUint.toNat) same
  simp only [candidate_toNat] at this
  exact UInt16.toNat_inj.mp (by omega)

/-- With the diagnostic block in place the first pass ends in `cuabort`. -/
theorem getNewAddress_aborts (passes : Nat) (pool : AddressPool) :
    getNewAddress true (passes + 1) pool =
      some (.aborts (diagnostic (candidate (nextCounter pool.uniqueAddressCounter)).toUint)) := rfl

/-- A call that returns has not gone through the diagnostic block. -/
theorem getNewAddress_quiet {diagnostics : Bool} {passes : Nat} {pool : AddressPool}
    {answer : AddressV4 × AddressPool}
    (returns : getNewAddress diagnostics passes pool = some (.returns answer)) :
    getNewAddress false passes pool = some (.returns answer) := by
  cases diagnostics with
  | false => exact returns
  | true =>
    cases passes with
    | zero => cases returns
    | succ passes =>
      rw [getNewAddress_aborts] at returns
      cases returns

example : getNewAddress false 1 {} =
    some (.returns (⟨0x0A7B0002⟩, ⟨2, {⟨0x0A7B0002⟩}⟩)) := by rfl

end Addresses
end Vpverk
