import Vpverk.FlatMap

/-! `binarySearch` once more, as it is written, with a record of each element it looks at
and of each value of `highId` it uses. -/
namespace Vpverk.SearchUses
open Coroutine SortedVector FlatMap

variable {K : Type} [LinearOrder K]

/-- What the search uses. -/
inductive Use where
  | element (index : Nat)
  | highId (value : Nat)
  deriving DecidableEq, Repr

def Use.value : Use → Nat
  | .element index => index
  | .highId value => value

/-- A value of `highId` is read. -/
def reads (highId : Nat) : Coroutine (List Use) Unit := change (· ++ [.highId highId])

/-- `keys[index]`. -/
def element (keys : List K) (index : Nat) : Coroutine (List Use) K :=
  ⟨fun uses => (subscript keys index, uses ++ [.element index])⟩

/-! ### The code -/

def bodyEnd (keys : List K) (key : K) (lowId highId : Nat) (again : Coroutine (List Use) (Option Nat)) :
    Coroutine (List Use) (Option Nat) := do
  reads highId
  if lowId = highId then
    if compare (← element keys lowId) key = .eq then pure (some lowId) else pure none
  else again

/-- The loop, at most so many times round. -/
def searchLoop (keys : List K) (key : K) : Nat → Nat → Nat → Coroutine (List Use) (Option Nat)
  | 0, _, _ => running
  | rounds + 1, lowId, highId => do
    reads highId
    if lowId ≤ highId then
      reads highId
      let mid := sizeAdd lowId (sizeSub highId lowId / 2)
      if compare (← element keys mid) key = .eq then pure (some mid)
      else if compare (← element keys mid) key = .lt then
        let lowId := sizeAdd mid 1
        bodyEnd keys key lowId highId (searchLoop keys key rounds lowId highId)
      else
        let highId := sizeSub mid 1
        if mid = 0 then pure none
        else bodyEnd keys key lowId highId (searchLoop keys key rounds lowId highId)
    else pure none

def binarySearch (asserts : Bool) (keys : List K) (key : K) (rounds : Nat) :
    Coroutine (List Use) (Option Nat) :=
  if asserts ∧ keys.isEmpty then abort "not keys.empty()"
  else searchLoop keys key rounds 0 (sizeSub keys.length 1)

/-! ### The record changes nothing -/

variable {asserts : Bool} {keys : List K} {key there : K} {lowId highId mid index rounds : Nat} {uses : List Use}

omit [LinearOrder K] in
theorem element_run {answer : Except Stop K} (looked : subscript keys index = answer) :
    (element keys index).run uses = (answer, uses ++ [.element index]) := by
  rw [element, looked]

theorem ok_bind {α β : Type} (value : α) (next : α → Except Stop β) :
    ((.ok value : Except Stop α) >>= next) = next value := rfl

theorem bodyEnd_same {again : Coroutine (List Use) (Option Nat)} {again' : Except Stop (Option Nat)}
    (same : ∀ uses, (again.run uses).1 = again') (uses : List Use) :
    ((bodyEnd keys key lowId highId again).run uses).1 =
      FlatMap.bodyEnd keys key lowId highId again' := by
  rw [bodyEnd, FlatMap.bodyEnd, reads, bind_change_run]
  split
  · cases looked : subscript keys lowId with
    | error stop =>
      rw [bind_error (element_run looked)]
      rfl
    | ok there =>
      rw [bind_ok (element_run looked), ok_bind]
      split <;> rfl
  · exact same _

theorem searchLoop_same (keys : List K) (key : K) (rounds lowId highId : Nat) (uses : List Use) :
    ((searchLoop keys key rounds lowId highId).run uses).1 =
      FlatMap.searchLoop keys key rounds lowId highId := by
  induction rounds generalizing lowId highId uses with
  | zero => rfl
  | succ rounds ih =>
    rw [searchLoop, FlatMap.searchLoop, reads, bind_change_run]
    split
    · rw [bind_change_run]
      dsimp only
      generalize sizeAdd lowId (sizeSub highId lowId / 2) = mid
      cases looked : subscript keys mid with
      | error stop =>
        rw [bind_error (element_run looked)]
        rfl
      | ok there =>
        rw [bind_ok (element_run looked), ok_bind]
        cases order : compare there key with
        | eq => rfl
        | lt =>
          rw [if_neg (by simp), bind_ok (element_run looked), if_pos order]
          exact bodyEnd_same (ih _ _) _
        | gt =>
          rw [if_neg (by simp), bind_ok (element_run looked), if_neg (by simp [order])]
          split
          · rfl
          · exact bodyEnd_same (ih _ _) _
    · rfl

/-! ### Everything it uses is inside -/

/-- What has been used lies inside the vector. -/
def Inside (keys : List K) (uses : List Use) : Prop := ∀ use ∈ uses, use.value < keys.length

omit [LinearOrder K] in
theorem Inside.one (inside : Inside keys uses) {use : Use} (within' : use.value < keys.length) :
    Inside keys (uses ++ [use]) := by
  intro other member
  rcases List.mem_append.mp member with old | new
  · exact inside other old
  · exact List.mem_singleton.mp new ▸ within'

omit [LinearOrder K] in
theorem keeps_reads (inside : highId < keys.length) : Keeps (Inside keys) (Inside keys) (reads highId) :=
  keeps_change fun _ held => held.one inside

omit [LinearOrder K] in
theorem keeps_element (inside : index < keys.length) :
    Keeps (Inside keys) (Inside keys) (element keys index) := by
  constructor
  · intro before there after held ran
    obtain rfl : before ++ [.element index] = after := congrArg Prod.snd ran
    exact held.one inside
  · intro before how after held ran
    obtain rfl : before ++ [.element index] = after := congrArg Prod.snd ran
    exact held.one inside

theorem keeps_bodyEnd {again : Coroutine (List Use) (Option Nat)} (inside : highId < keys.length)
    (kept : Keeps (Inside keys) (Inside keys) again) :
    Keeps (Inside keys) (Inside keys) (bodyEnd keys key lowId highId again) := by
  apply (keeps_reads inside).bind
  intro _
  split
  · rename_i one
    apply (keeps_element (one ▸ inside)).bind
    intro there
    split <;> exact keeps_pure _
  · exact kept

/-- The loop looks only inside the vector, and uses `highId` only where it lies inside. -/
theorem keeps_searchLoop (short : keys.length ≤ maxSize) (inside : highId < keys.length) :
    Keeps (Inside keys) (Inside keys) (searchLoop keys key rounds lowId highId) := by
  induction rounds generalizing lowId highId with
  | zero => exact keeps_stop _ fun _ held => held
  | succ rounds ih =>
    apply (keeps_reads inside).bind
    intro _
    split
    · rename_i low
      apply (keeps_reads inside).bind
      intro _
      have middle := middle low (by omega : highId ≤ maxSize)
      have between : sizeAdd lowId (sizeSub highId lowId / 2) < keys.length := by omega
      dsimp only
      generalize sizeAdd lowId (sizeSub highId lowId / 2) = mid at between
      apply (keeps_element between).bind
      intro there
      split
      · exact keeps_pure _
      · apply (keeps_element between).bind
        intro there
        split
        · exact keeps_bodyEnd inside (ih inside)
        · split
          · exact keeps_pure _
          · rename_i later
            have lower : sizeSub mid 1 < keys.length := by
              rw [previous (by omega) later]
              omega
            exact keeps_bodyEnd lower (ih lower)
    · exact keeps_pure _

/-! ### The search -/

/-- What a `std::vector` can hold. -/
abbrev StdVector (α : Type) := { elements : List α // elements.length ≤ maxSize }

theorem finds_iff {found : Option Nat} (increasing : Increasing keys) (finds : Finds keys key found)
    (index : Nat) : found = some index ↔ keys[index]? = some key := by
  cases found with
  | none =>
    have nowhere : keys[index]? ≠ some key := fun here => finds (List.mem_of_getElem? here)
    simp [nowhere]
  | some place =>
    constructor
    · rintro ⟨⟩
      exact finds
    · intro here
      exact congrArg some (increasing.place finds here)

/-- With rounds for every key the search ends, and has stayed inside. -/
theorem searchLoop_inside (key : K) (increasing : Increasing keys) (short : keys.length ≤ maxSize)
    (some_keys : keys ≠ []) (enough : keys.length < rounds) :
    ∃ found uses, (searchLoop keys key rounds 0 (keys.length - 1)).run [] = (.ok found, uses) ∧
      Finds keys key found ∧ Inside keys uses := by
  have positive : 0 < keys.length := List.length_pos_iff.mpr some_keys
  have window : Window keys key 0 (keys.length - 1) := by
    intro place here
    obtain ⟨inside, _⟩ := List.getElem?_eq_some_iff.mp here
    omega
  have ends : Ends keys key (FlatMap.searchLoop keys key rounds 0 (keys.length - 1)) :=
    searchLoop_ends increasing short window (by omega) (by omega) (by omega)
  obtain ⟨found, ended, finds⟩ := ends
  have inside : Inside keys ((searchLoop keys key rounds 0 (keys.length - 1)).run []).2 :=
    (keeps_searchLoop short (by omega)).run nofun
  exact ⟨found, _, Prod.ext ((searchLoop_same ..).trans ended) rfl, finds, inside⟩

/-- **Binary search is exact.** On increasing keys it ends, looks only inside them, never
uses what `highId` becomes when `mid` is zero, and finds an index exactly where the key
stands. -/
theorem binarySearch_exact (asserts : Bool) (keys : StdVector K) (key : K)
    (increasing : Increasing keys.val) (some_keys : keys.val ≠ []) :
    ∃ found, (∀ index, found = some index ↔ keys.val[index]? = some key) ∧
      FlatMap.binarySearch asserts keys.val key = .ok found ∧
      ∀ rounds, keys.val.length < rounds →
        ∃ uses, (binarySearch asserts keys.val key rounds).run [] = (.ok found, uses) ∧
          (∀ use ∈ uses, use.value < keys.val.length) ∧ .highId (sizeSub 0 1) ∉ uses := by
  have short := keys.property
  have positive : keys.val.length ≠ 0 := by simpa using some_keys
  have filled : ¬ (asserts = true ∧ keys.val.isEmpty = true) := by simp [some_keys]
  obtain ⟨found, ended, finds⟩ := binarySearch_ends asserts key increasing short some_keys
  refine ⟨found, finds_iff increasing finds, ended, fun rounds enough => ?_⟩
  rw [binarySearch, if_neg filled, previous short positive]
  obtain ⟨found', uses, ran, finds', inside⟩ :=
    searchLoop_inside key increasing short some_keys enough
  obtain rfl : found' = found :=
    Option.ext fun index =>
      (finds_iff increasing finds' index).trans (finds_iff increasing finds index).symm
  refine ⟨uses, ran, inside, fun used => ?_⟩
  have wrapped : sizeSub 0 1 < keys.val.length := inside _ used
  have most : sizeSub 0 1 = 2 ^ 64 - 1 := rfl
  have bound : maxSize = 2 ^ 63 - 1 := rfl
  omega

/-- Four keys, of which the second is looked for. -/
theorem binarySearch_exact_four_keys : ∃ uses,
    (binarySearch true [2, 3, 5, 7] 3 5).run [] = (.ok (some 1), uses) ∧
      (∀ use ∈ uses, use.value < 4) ∧ .highId (sizeSub 0 1) ∉ uses := by
  obtain ⟨found, exact_, _, uses⟩ := binarySearch_exact true ⟨[2, 3, 5, 7], by decide⟩ 3 (by decide) (by simp)
  obtain rfl : found = some 1 := (exact_ 1).mpr rfl
  exact uses 5 (by decide)

end Vpverk.SearchUses
