import Mathlib.Data.List.Basic
import Mathlib.Tactic.TypeStar

/-! One key of a keyed store fed by inserts and deletes. An insert applies to an
empty slot and a delete to an occupied one; a request that does not apply is put
back and tried again by the next pass. A request is the value to insert, or
`none` for a delete. -/
namespace Vpverk.Slot

variable {Value : Type*}

/-- One request against one slot; `none` when the request does not apply. -/
def apply : Option Value → Option Value → Option (Option Value)
  | none, some value => some (some value)
  | some _, none => some none
  | _, _ => none

/-- One pass over the requests: the slot afterwards and the requests put back. -/
def pass : Option Value → List (Option Value) → Option Value × List (Option Value)
  | slot, [] => (slot, [])
  | slot, request :: rest =>
    match apply slot request with
    | some slot' => pass slot' rest
    | none => ((pass slot rest).1, request :: (pass slot rest).2)

/-- What the last request asks for, or the slot when there is none. -/
def wanted (slot : Option Value) (requests : List (Option Value)) : Option Value :=
  requests.getLast?.getD slot

/-- No insert is made while the insert before it still stands. -/
def NoClash : Bool → List (Option Value) → Prop
  | _, [] => True
  | occupied, some _ :: rest => occupied = false ∧ NoClash true rest
  | _, none :: rest => NoClash false rest

/-- The deletes that find the slot empty. -/
def unmatched : Bool → List (Option Value) → Nat
  | _, [] => 0
  | _, some _ :: rest => unmatched true rest
  | occupied, none :: rest => (if occupied then 0 else 1) + unmatched false rest

/-- How many of the requests insert, and how many delete. -/
def inserts (requests : List (Option Value)) : Nat := requests.countP Option.isSome
def deletes (requests : List (Option Value)) : Nat := requests.countP Option.isNone

variable {slot request : Option Value} {requests : List (Option Value)} {occupied : Bool}

@[simp] theorem wanted_nil : wanted slot [] = slot := rfl

@[simp] theorem wanted_cons : wanted slot (request :: requests) = wanted request requests := by
  cases requests with
  | nil => rfl
  | cons head tail =>
    simp only [wanted, List.getLast?_cons_cons]
    rw [List.getLast?_cons, Option.getD_some, Option.getD_some]

@[simp] theorem wanted_append_singleton : wanted slot (requests ++ [request]) = request := by
  simp [wanted]

theorem noClash_append_singleton :
    NoClash slot.isSome (requests ++ [request]) ↔
      NoClash slot.isSome requests ∧ (request.isSome → wanted slot requests = none) := by
  induction requests generalizing slot with
  | nil => cases slot <;> cases request <;> simp [NoClash]
  | cons head tail ih =>
    cases head with
    | none => simpa [NoClash] using @ih none
    | some value =>
      have := @ih (some value)
      simp only [Option.isSome_some] at this
      simp only [List.cons_append, NoClash, this, wanted_cons]
      exact and_assoc.symm

/-- An insert at the end leaves the deletes before it as they are. -/
theorem unmatched_append_insert {value : Value} :
    unmatched occupied (requests ++ [some value]) = unmatched occupied requests := by
  induction requests generalizing occupied with
  | nil => rfl
  | cons head tail ih => cases head <;> simp [unmatched, ih]

/-- Without a clash every insert applies in the first pass, and what is put back
is deletes that found the slot empty. -/
theorem pass_of_noClash (noClash : NoClash slot.isSome requests) :
    pass slot requests =
      (wanted slot requests, List.replicate (unmatched slot.isSome requests) none) := by
  induction requests generalizing slot with
  | nil => simp [pass, unmatched]
  | cons head tail ih =>
    cases head with
    | some value =>
      obtain ⟨empty, noClash⟩ := noClash
      obtain rfl : slot = none := by simpa using empty
      have := @ih (some value) noClash
      simpa [pass, apply, unmatched] using this
    | none =>
      have rest := @ih none noClash
      cases slot with
      | some value => simpa [pass, apply, unmatched] using rest
      | none =>
        simp only [Option.isSome_none] at rest
        simp [pass, apply, unmatched, rest, Nat.add_comm 1, List.replicate_succ]

/-- Deletes alone empty the slot, and one of them is used up if it was occupied. -/
theorem pass_deletes (count : Nat) :
    pass slot (List.replicate count none) =
      (if count = 0 then slot else none,
        List.replicate (count - if slot.isSome then 1 else 0) none) := by
  have empty : ∀ n, pass (none : Option Value) (List.replicate n none) =
      (none, List.replicate n none) := by
    intro n
    induction n with
    | zero => rfl
    | succ n ih => simp [List.replicate_succ, pass, apply, ih]
  cases count with
  | zero => simp [pass]
  | succ count =>
    cases slot with
    | none => simpa using empty (count + 1)
    | some value => simp [List.replicate_succ, pass, apply, empty]

/-- What a sequence without a clash leaves unmatched is its surplus of deletes
over the inserts and the value already there. -/
theorem unmatched_balance (noClash : NoClash slot.isSome requests) :
    slot.isSome.toNat + inserts requests + unmatched slot.isSome requests =
      (wanted slot requests).isSome.toNat + deletes requests := by
  induction requests generalizing slot with
  | nil => simp [inserts, deletes, unmatched]
  | cons head tail ih =>
    cases head with
    | some value =>
      obtain ⟨empty, noClash⟩ := noClash
      have rest := @ih (some value) noClash
      simp only [inserts, deletes, Option.isSome_some, Bool.toNat_true] at rest
      simp only [inserts, deletes, unmatched, wanted_cons, empty, Bool.toNat_false]
      simp
      omega
    | none =>
      have rest := @ih none noClash
      simp only [inserts, deletes, Option.isSome_none, Bool.toNat_false] at rest
      simp only [inserts, deletes, unmatched, wanted_cons]
      cases slot <;> simp <;> omega

@[simp] theorem inserts_cons :
    inserts (request :: requests) = request.isSome.toNat + inserts requests := by
  cases request <;> simp [inserts, Nat.add_comm]

@[simp] theorem deletes_cons :
    deletes (request :: requests) = request.isNone.toNat + deletes requests := by
  cases request <;> simp [deletes, Nat.add_comm]

/-- Whatever the requests, a pass uses up as many more inserts than deletes as
the slot has gained values. -/
theorem pass_balance :
    slot.isSome.toNat + inserts requests + deletes (pass slot requests).2 =
      (pass slot requests).1.isSome.toNat + inserts (pass slot requests).2 + deletes requests := by
  induction requests generalizing slot with
  | nil => simp [pass]
  | cons head tail ih =>
    cases slot with
    | none =>
      cases head with
      | none => have rest := @ih none; simp [pass, apply] at rest ⊢; omega
      | some value => have rest := @ih (some value); simp [pass, apply] at rest ⊢; omega
    | some value =>
      cases head with
      | none => have rest := @ih none; simp [pass, apply] at rest ⊢; omega
      | some _ => have rest := @ih (some value); simp [pass, apply] at rest ⊢; omega

end Vpverk.Slot
