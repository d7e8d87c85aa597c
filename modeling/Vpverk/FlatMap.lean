import Mathlib.Algebra.Group.Nat.Defs
import Mathlib.Data.Int.DivMod
import Mathlib.Order.Compare
import Vpverk.Coroutine
import Vpverk.SortedVector

/-! `flat_map`: its keys in one vector, in increasing order, and their values in another.
No allocation fails. The assertions are behind a switch. -/
namespace Vpverk

structure FlatMap (K V : Type) where
  keys : List K := []
  vals : List V := []

end Vpverk

namespace Vpverk.FlatMap
open Coroutine SortedVector

/-- What a vector holds at most: a difference of its iterators is a `ptrdiff_t`. -/
def maxSize : Nat := 2 ^ 63 - 1

/-- The greatest `int`. -/
def maxInt : Nat := 2147483647

/-- The exceptions, told apart by their types. -/
def outOfRange (what : String) : Stop := .throws ("out_of_range: " ++ what)
def runtimeError (what : String) : Stop := .throws ("runtime_error: " ++ what)

/-! ### The code -/

/-- `+` and `-` of `size_t`. -/
def sizeAdd (left right : Nat) : Nat := (left + right) % 2 ^ 64
def sizeSub (left right : Nat) : Nat := (left + (2 ^ 64 - right)) % 2 ^ 64

/-- The cast of a `size_t` to `int`. -/
def toInt (size : Nat) : Int := Int.bmod size (2 ^ 32)

section Vectors
variable {α : Type}

/-- `operator[]`. -/
def subscript (elements : List α) (index : Nat) : Except Stop α :=
  match elements[index]? with
  | some element => .ok element
  | none => .error .undefined

/-- `insert(begin() + index, element)`. -/
def insertAt (elements : List α) (index : Nat) (element : α) : Except Stop (List α) :=
  if index ≤ elements.length then .ok (elements.insertIdx index element) else .error .undefined

/-- `erase(begin() + index)`. -/
def eraseAt (elements : List α) (index : Int) : Except Stop (List α) :=
  if 0 ≤ index ∧ index < elements.length then .ok (elements.eraseIdx index.toNat)
  else .error .undefined

end Vectors

variable {K V : Type} [LinearOrder K]

/-- The end of the body of the loop in `binarySearch`, before it goes round again. -/
def bodyEnd (keys : List K) (key : K) (lowId highId : Nat) (again : Except Stop (Option Nat)) :
    Except Stop (Option Nat) :=
  if lowId = highId then do
    if compare (← subscript keys lowId) key = .eq then pure (some lowId) else pure none
  else again

/-- The loop of `binarySearch`, at most so many times round. -/
def searchLoop (keys : List K) (key : K) : Nat → Nat → Nat → Except Stop (Option Nat)
  | 0, _, _ => .error .runs
  | rounds + 1, lowId, highId =>
    if lowId ≤ highId then do
      let mid := sizeAdd lowId (sizeSub highId lowId / 2)
      match compare (← subscript keys mid) key with
      | .eq => pure (some mid)
      | .lt =>
        let lowId := sizeAdd mid 1
        bodyEnd keys key lowId highId (searchLoop keys key rounds lowId highId)
      | .gt =>
        let highId := sizeSub mid 1
        if mid = 0 then pure none
        else bodyEnd keys key lowId highId (searchLoop keys key rounds lowId highId)
    else pure none

def binarySearch (asserts : Bool) (keys : List K) (key : K) : Except Stop (Option Nat) :=
  if asserts ∧ keys.isEmpty then .error (.aborts "not keys.empty()")
  else searchLoop keys key (keys.length + 1) 0 (sizeSub keys.length 1)

/-- What a call that changes nothing answers. -/
def asks {α : Type} (answer : FlatMap K V → Except Stop α) : Coroutine (FlatMap K V) α :=
  ⟨fun map => (answer map, map)⟩

/-- The end of `at` and `at_tryFirst`. -/
def valueAt (vals : List V) : Option Nat → Except Stop V
  | none => .error (outOfRange "no value with this key")
  | some index => subscript vals index

def at' (asserts : Bool) (key : K) : Coroutine (FlatMap K V) V :=
  asks fun map => do valueAt map.vals (← binarySearch asserts map.keys key)

def contains (asserts : Bool) (key : K) : Coroutine (FlatMap K V) Bool :=
  asks fun map => do return (← binarySearch asserts map.keys key).isSome

/-- The loop of `at_tryFirst` with so many rounds left. -/
def firstLoop (map : FlatMap K V) (key : K) : Nat → Nat → Except Stop (Option V)
  | 0, _ => .ok none
  | left + 1, i => do
    if compare key (← subscript map.keys i) = .eq then return some (← subscript map.vals i)
    else firstLoop map key left (i + 1)

def atTryFirst (asserts : Bool) (tryFindFaster : UInt32) (key : K) : Coroutine (FlatMap K V) V :=
  asks fun map => do
    if asserts ∧ ¬ tryFindFaster.toNat ≤ map.keys.length then
      throw (.aborts "tryFindFaster <= keys.size()")
    else
      match ← firstLoop map key tryFindFaster.toNat 0 with
      | some value => pure value
      | none => valueAt map.vals (← binarySearch asserts map.keys key)

/-- The loop of `insert` over the keys from an index on. -/
def insertIndex (key : K) : List K → Nat → Except Stop Nat
  | [], index => .ok index
  | there :: rest, index =>
    match compare key there with
    | .gt => insertIndex key rest (sizeAdd index 1)
    | .eq => .error (runtimeError "this key already exist")
    | .lt => .ok index

/-- `insert(const K&, const V&)`. -/
def insert (key : K) (value : V) : Coroutine (FlatMap K V) Unit := do
  let index ← asks fun map => insertIndex key map.keys 0
  let vals ← asks fun map => insertAt map.vals index value
  change fun map => { map with vals := vals }
  let keys ← asks fun map => insertAt map.keys index key
  change fun map => { map with keys := keys }

/-- `insert(const K&, V&&)`, which takes the value over where the other copies it. -/
def insertMoved (key : K) (value : V) : Coroutine (FlatMap K V) Unit := insert key value

def remove (asserts : Bool) (key : K) : Coroutine (FlatMap K V) Unit := do
  if (← look).keys.isEmpty then stop (outOfRange "flat_map is empty, nothing to remove")
  else
    match ← asks fun map => binarySearch asserts map.keys key with
    | none => stop (outOfRange "no value with this key")
    | some opt =>
      let index := toInt opt
      let vals ← asks fun map => eraseAt map.vals index
      change fun map => { map with vals := vals }
      let keys ← asks fun map => eraseAt map.keys index
      change fun map => { map with keys := keys }

/-! ### The search -/

variable {asserts : Bool} {keys : List K} {vals : List V} {key there : K} {value : V}
  {lowId highId mid index rounds : Nat} {map : FlatMap K V}

theorem subscript_ok {α : Type} {elements : List α} {element : α} {index : Nat}
    (here : elements[index]? = some element) : subscript elements index = .ok element := by
  rw [subscript, here]

/-- What a search comes to: where the key stands, or that it does not. -/
def Finds (keys : List K) (key : K) : Option Nat → Prop
  | some index => keys[index]? = some key
  | none => key ∉ keys

/-- The search ends, with what it comes to. -/
def Ends (keys : List K) (key : K) (search : Except Stop (Option Nat)) : Prop :=
  ∃ found, search = .ok found ∧ Finds keys key found

omit [LinearOrder K] in
theorem ends_none (window : ∀ place : Nat, keys[place]? = some key → False) :
    Ends keys key (.ok none) := by
  refine ⟨none, rfl, fun member => ?_⟩
  obtain ⟨place, here⟩ := List.mem_iff_getElem?.mp member
  exact window place here

/-- The middle lies between the two ends, and no `size_t` overflows. -/
theorem middle (low : lowId ≤ highId) (short : highId ≤ maxSize) :
    sizeAdd lowId (sizeSub highId lowId / 2) = lowId + (highId - lowId) / 2 := by
  have bound : maxSize = 2 ^ 63 - 1 := rfl
  have difference : sizeSub highId lowId = highId - lowId := by
    have same : highId + (2 ^ 64 - lowId) = highId - lowId + 2 ^ 64 := by omega
    rw [sizeSub, same, Nat.add_mod_right, Nat.mod_eq_of_lt (by omega)]
  rw [difference, sizeAdd, Nat.mod_eq_of_lt (by omega)]

theorem next (short : mid ≤ maxSize) : sizeAdd mid 1 = mid + 1 := by
  have bound : maxSize = 2 ^ 63 - 1 := rfl
  exact Nat.mod_eq_of_lt (by omega)

theorem previous (short : mid ≤ maxSize) (some_before : mid ≠ 0) : sizeSub mid 1 = mid - 1 := by
  have bound : maxSize = 2 ^ 63 - 1 := rfl
  have same : mid + (2 ^ 64 - 1) = mid - 1 + 2 ^ 64 := by omega
  rw [sizeSub, same, Nat.add_mod_right, Nat.mod_eq_of_lt (by omega)]

/-- A window of one place is looked at; a larger one, or none, goes round again. -/
theorem bodyEnd_ends {again : Except Stop (Option Nat)} (window : Window keys key lowId highId)
    (inside : highId < keys.length) (ends : lowId ≠ highId → Ends keys key again) :
    Ends keys key (bodyEnd keys key lowId highId again) := by
  unfold bodyEnd
  split
  · rename_i one
    subst one
    have here : keys[lowId]? = some keys[lowId] := List.getElem?_eq_getElem inside
    rw [subscript_ok here]
    by_cases same : keys[lowId] = key
    · refine ⟨some lowId, ?_, here.trans (congrArg some same)⟩
      exact if_pos (compare_eq_iff_eq.mpr same)
    · have other : compare keys[lowId] key ≠ .eq := fun equal => same (compare_eq_iff_eq.mp equal)
      have missed : Ends keys key (.ok none) := by
        refine ends_none fun place found => same ?_
        have between := window place found
        obtain rfl : place = lowId := by omega
        exact Option.some.inj (here.symm.trans found)
      change Ends keys key (if _ then _ else _)
      rw [if_neg other]
      exact missed
  · rename_i more
    exact ends more

/-- **The search ends** with what the increasing keys say, and looks only inside them. -/
theorem searchLoop_ends (increasing : Increasing keys) (short : keys.length ≤ maxSize)
    (window : Window keys key lowId highId) (inside : highId < keys.length)
    (low : lowId ≤ highId + 1) (enough : highId + 1 < lowId + rounds) :
    Ends keys key (searchLoop keys key rounds lowId highId) := by
  induction rounds generalizing lowId highId with
  | zero => omega
  | succ rounds ih =>
    unfold searchLoop
    split
    · rename_i open'
      rw [middle open' (by omega)]
      generalize middle : lowId + (highId - lowId) / 2 = mid
      have between : lowId ≤ mid ∧ mid ≤ highId := by omega
      have here : keys[mid]? = some keys[mid] := List.getElem?_eq_getElem (by omega)
      simp only [subscript_ok here, bind, Except.bind]
      cases order : compare keys[mid] key with
      | eq => exact ⟨some mid, rfl, here.trans (congrArg some (compare_eq_iff_eq.mp order))⟩
      | lt =>
        have above := window.above increasing here (compare_lt_iff_lt.mp order)
        simp only [next (by omega : mid ≤ maxSize)]
        apply bodyEnd_ends above inside
        intro _
        exact ih above inside (by omega) (by omega)
      | gt =>
        have below := window.below increasing here (compare_gt_iff_gt.mp order)
        dsimp only
        split
        · rename_i first
          apply ends_none
          intro place found
          have := below place found
          omega
        · rename_i later
          have narrowed : Window keys key lowId (mid - 1) := by
            intro place found
            have := below place found
            omega
          rw [previous (by omega) later]
          apply bodyEnd_ends narrowed (by omega)
          intro _
          exact ih narrowed (by omega) (by omega) (by omega)
    · rename_i closed
      apply ends_none
      intro place found
      have := window place found
      omega

theorem binarySearch_ends (asserts : Bool) (key : K) (increasing : Increasing keys)
    (short : keys.length ≤ maxSize) (some_keys : keys ≠ []) :
    Ends keys key (binarySearch asserts keys key) := by
  have positive : 0 < keys.length := List.length_pos_iff.mpr some_keys
  have filled : ¬ (asserts = true ∧ keys.isEmpty = true) := by simp [some_keys]
  rw [binarySearch, if_neg filled, previous short (Nat.ne_of_gt positive)]
  refine searchLoop_ends increasing short (fun place found => ?_) (by omega) (by omega) (by omega)
  obtain ⟨inside, _⟩ := List.getElem?_eq_some_iff.mp found
  omega

/-- In an empty map the assertion fails, or what is looked at is not there. -/
theorem binarySearch_empty (asserts : Bool) (key : K) :
    ∃ stop, binarySearch asserts ([] : List K) key = .error stop ∧
    ∀ what, stop ≠ .throws what := by
  cases asserts with
  | true => exact ⟨_, rfl, nofun⟩
  | false => exact ⟨.undefined, rfl, nofun⟩

/-! ### The map -/

/-- The keys increase, and each has a value beside it. -/
structure Sound (map : FlatMap K V) : Prop where
  increasing : Increasing map.keys
  parallel : map.keys.length = map.vals.length
  short : map.keys.length ≤ maxSize

/-- What is in the map. -/
def Represents (map : FlatMap K V) (entries : K → Option V) : Prop :=
  ∀ key value, entries key = some value ↔ Holds map.keys map.vals key value

variable {entries : K → Option V}

/-- A lookup answers what is in the map. -/
structure LooksUp (asserts : Bool) (map : FlatMap K V) (entries : K → Option V) (key : K) : Prop where
  contains : (contains asserts key).run map = (.ok (entries key).isSome, map)
  at' : (at' asserts key).run map = (match entries key with
    | some value => .ok value
    | none => .error (outOfRange "no value with this key"), map)
  atTryFirst : ∀ tryFindFaster : UInt32, tryFindFaster.toNat ≤ map.keys.length →
    (atTryFirst asserts tryFindFaster key).run map = (FlatMap.at' asserts key).run map

theorem Sound.beside (sound : Sound map) (here : map.keys[index]? = some key) :
    ∃ value, map.vals[index]? = some value := by
  obtain ⟨inside, _⟩ := List.getElem?_eq_some_iff.mp here
  exact ⟨_, List.getElem?_eq_getElem (sound.parallel ▸ inside)⟩

omit [LinearOrder K] in
theorem Represents.absent (represents : Represents map entries) (missing : key ∉ map.keys) :
    entries key = none := by
  cases held : entries key with
  | none => rfl
  | some value =>
    obtain ⟨place, here, _⟩ := (represents key value).mp held
    exact absurd (List.mem_of_getElem? here) missing

/-- What the search leads to. -/
theorem Sound.answers (sound : Sound map) (represents : Represents map entries) {found : Option Nat}
    (finds : Finds map.keys key found) :
    found.isSome = (entries key).isSome ∧ valueAt map.vals found = (match entries key with
      | some value => .ok value
      | none => .error (outOfRange "no value with this key")) := by
  cases found with
  | none =>
    rw [represents.absent finds]
    exact ⟨rfl, rfl⟩
  | some place =>
    obtain ⟨value, beside⟩ := sound.beside finds
    have held : entries key = some value := (represents key value).mpr ⟨place, finds, beside⟩
    rw [held]
    exact ⟨rfl, subscript_ok beside⟩

/-- The first keys are looked through in order; a value that is found is the key's. -/
theorem firstLoop_ends (sound : Sound map) (key : K) (left i : Nat) (inside : i + left ≤ map.keys.length) :
    ∃ found, firstLoop map key left i = .ok found ∧
      ∀ value, found = some value → Holds map.keys map.vals key value := by
  induction left generalizing i with
  | zero => exact ⟨none, rfl, nofun⟩
  | succ left ih =>
    have here : map.keys[i]? = some map.keys[i] := List.getElem?_eq_getElem (by omega)
    obtain ⟨value, beside⟩ := sound.beside here
    rw [firstLoop, subscript_ok here, subscript_ok beside]
    by_cases same : key = map.keys[i]
    · refine ⟨some value, if_pos (compare_eq_iff_eq.mpr same), ?_⟩
      rintro _ ⟨⟩
      exact ⟨i, here.trans (congrArg some same.symm), beside⟩
    · obtain ⟨found, ended, held⟩ := ih (i + 1) (by omega)
      have other : compare key map.keys[i] ≠ .eq := fun equal => same (compare_eq_iff_eq.mp equal)
      exact ⟨found, (if_neg other).trans ended, held⟩

/-- **Lookups** answer what is in a map that is not empty. -/
theorem Sound.looksUp (sound : Sound map) (represents : Represents map entries)
    (some_keys : map.keys ≠ []) (asserts : Bool) (key : K) : LooksUp asserts map entries key := by
  obtain ⟨found, ended, finds⟩ := binarySearch_ends asserts key sound.increasing sound.short some_keys
  obtain ⟨isSome, value⟩ := sound.answers represents finds
  have answers : (FlatMap.at' asserts key).run map = (valueAt map.vals found, map) := by
    simp only [FlatMap.at', asks, ended, bind, Except.bind]
  refine ⟨?_, answers.trans (congrArg (·, map) value), fun tryFindFaster within => ?_⟩
  · simp only [FlatMap.contains, asks, ended, bind, Except.bind, pure, Except.pure, isSome]
  · obtain ⟨first, ended', held⟩ := firstLoop_ends sound key tryFindFaster.toNat 0 (by omega)
    simp only [FlatMap.atTryFirst, asks, within, ended', ended, answers, bind, Except.bind, not_true_eq_false,
      and_false, if_false]
    cases first with
    | none => rfl
    | some other =>
      have known : entries key = some other := (represents key other).mpr (held other rfl)
      rw [value, known]
      rfl

/-- In an empty map none does. -/
theorem not_looksUp (empty : map.keys = []) : ¬ LooksUp asserts map entries key := by
  intro looksUp
  obtain ⟨stop, ended, _⟩ := binarySearch_empty asserts key
  have answers := congrArg Prod.fst looksUp.contains
  simp [FlatMap.contains, asks, empty, ended, bind, Except.bind] at answers

/-! ### `insert` and `remove` -/

omit [LinearOrder K] in
theorem asks_run {α : Type} {answer : FlatMap K V → Except Stop α} {result : Except Stop α}
    (answered : answer map = result) : (asks answer).run map = (result, map) :=
  congrArg (·, map) answered

omit [LinearOrder K] in
/-- Both vectors are edited, one after the other. -/
theorem edits_run (editVals : List V → Except Stop (List V)) (editKeys : List K → Except Stop (List K))
    {vals : List V} {keys : List K} (first : editVals map.vals = .ok vals)
    (second : editKeys map.keys = .ok keys) :
    (do
      let vals ← asks fun map : FlatMap K V => editVals map.vals
      change fun map => { map with vals := vals }
      let keys ← asks fun map => editKeys map.keys
      change fun map => { map with keys := keys } : Coroutine (FlatMap K V) Unit).run map =
      (.ok (), ⟨keys, vals⟩) := by
  have next : (asks fun map : FlatMap K V => editKeys map.keys).run { map with vals := vals } =
      (.ok keys, { map with vals := vals }) := asks_run second
  rw [bind_ok (asks_run first), bind_change_run, bind_ok next, change_run]

theorem insertAt_ok {α : Type} {elements : List α} {element : α} {index : Nat}
    (inside : index ≤ elements.length) :
    insertAt elements index element = .ok (elements.insertIdx index element) :=
  if_pos inside

/-- An index that fits into an `int` stays what it is. -/
theorem toInt_near (near : index ≤ maxInt) : toInt index = index := by
  have near' : index ≤ 2147483647 := near
  apply Int.bmod_eq_of_le_mul_two
  · omega
  · omega

theorem toInt_le (index : Nat) : toInt index ≤ maxInt :=
  Int.le_of_lt_add_one (Int.bmod_lt (by decide))

/-- The scan finds the key, or the place before the first that is greater. -/
theorem insertIndex_ends (rest : List K) {before : List K} (increasing : Increasing (before ++ rest))
    (less : ∀ earlier ∈ before, earlier < key) (short : (before ++ rest).length ≤ maxSize) :
    (key ∈ rest ∧ insertIndex key rest before.length = .error (runtimeError "this key already exist")) ∨
      ∃ front back, before ++ rest = front ++ back ∧ insertIndex key rest before.length = .ok front.length ∧
        Increasing (front ++ key :: back) ∧ key ∉ rest := by
  induction rest generalizing before with
  | nil =>
    exact .inr ⟨before, [], rfl, rfl, increasing.between less (by simp), List.not_mem_nil⟩
  | cons there rest ih =>
    obtain ⟨_, back, _⟩ := List.pairwise_append.mp increasing
    have greater : ∀ later ∈ rest, there < later := (List.pairwise_cons.mp back).1
    rw [insertIndex]
    cases order : compare key there with
    | eq =>
      obtain rfl := compare_eq_iff_eq.mp order
      exact .inl ⟨List.mem_cons_self, rfl⟩
    | lt =>
      have first : key < there := compare_lt_iff_lt.mp order
      have all : ∀ later ∈ there :: rest, key < later := by
        intro later member
        rcases List.mem_cons.mp member with rfl | member
        · exact first
        · exact lt_trans first (greater later member)
      exact .inr ⟨before, there :: rest, rfl, rfl, increasing.between less all,
        fun member => lt_irrefl key (all key member)⟩
    | gt =>
      have passed : there < key := compare_gt_iff_gt.mp order
      have regroup : before ++ there :: rest = (before ++ [there]) ++ rest := by simp
      rw [regroup] at increasing short ⊢
      have length : sizeAdd before.length 1 = (before ++ [there]).length := by
        rw [next (by simp at short; omega)]
        simp
      dsimp only
      rw [length]
      have less' : ∀ earlier ∈ before ++ [there], earlier < key := by
        intro earlier member
        rcases List.mem_append.mp member with old | last
        · exact less earlier old
        · exact List.mem_singleton.mp last ▸ passed
      rcases ih increasing less' short with ⟨member, thrown⟩ | ⟨front, back, same, ended, sorted, missing⟩
      · exact .inl ⟨List.mem_cons_of_mem _ member, thrown⟩
      · refine .inr ⟨front, back, same, ended, sorted, fun member => ?_⟩
        rcases List.mem_cons.mp member with rfl | member
        · exact lt_irrefl key passed
        · exact missing member

/-- `insert` throws, or puts the key where it belongs and the value beside it. -/
theorem insert_run (sound : Sound map) (key : K) (value : V) :
    (key ∈ map.keys ∧ (insert key value).run map = (.error (runtimeError "this key already exist"), map)) ∨
      ∃ index ≤ map.keys.length, key ∉ map.keys ∧ Increasing (map.keys.insertIdx index key) ∧
        (insert key value).run map =
          (.ok (), ⟨map.keys.insertIdx index key, map.vals.insertIdx index value⟩) := by
  have nothing : ∀ earlier ∈ ([] : List K), earlier < key := nofun
  have increasing : Increasing ([] ++ map.keys) := sound.increasing
  rcases insertIndex_ends map.keys increasing nothing sound.short with
    ⟨member, thrown⟩ | ⟨front, back, same, ended, sorted, missing⟩
  · exact .inl ⟨member, bind_error (asks_run thrown)⟩
  · have inside : front.length ≤ map.keys.length := by
      have length := congrArg List.length same
      simp only [List.nil_append, List.length_append] at length
      omega
    refine .inr ⟨front.length, inside, missing, ?_, ?_⟩
    · rw [List.nil_append] at same
      rw [same, insertIdx_between]
      exact sorted
    · have inside' : front.length ≤ map.vals.length := sound.parallel ▸ inside
      rw [insert, bind_ok (asks_run ended)]
      exact edits_run (insertAt · _ value) (insertAt · _ key) (insertAt_ok inside') (insertAt_ok inside)

/-- `remove` erases where the cast index points to. -/
theorem remove_run (asserts : Bool) (sound : Sound map) (here : map.keys[index]? = some key) {cast : Int}
    (casts : toInt index = cast) : (remove asserts key).run map =
      if 0 ≤ cast ∧ cast < map.keys.length then
        (.ok (), ⟨map.keys.eraseIdx cast.toNat, map.vals.eraseIdx cast.toNat⟩)
      else (.error .undefined, map) := by
  have some_keys : map.keys ≠ [] := List.ne_nil_of_mem (List.mem_of_getElem? here)
  obtain ⟨found, ended, finds⟩ := binarySearch_ends asserts key sound.increasing sound.short some_keys
  cases found with
  | none => exact absurd (List.mem_of_getElem? here) finds
  | some place =>
    obtain rfl := sound.increasing.place finds here
    rw [remove, bind_look_run, if_neg (by simp [some_keys]), bind_ok (asks_run ended)]
    dsimp only
    rw [casts]
    split
    · rename_i inside
      have inside' : 0 ≤ cast ∧ cast < map.vals.length := sound.parallel ▸ inside
      exact edits_run (eraseAt · cast) (eraseAt · cast) (if_pos inside') (if_pos inside)
    · rename_i outside
      have outside' : ¬ (0 ≤ cast ∧ cast < map.vals.length) := sound.parallel ▸ outside
      exact bind_error (asks_run (if_neg outside'))

/-- `remove` takes out the key and what is beside it, where an `int` tells its place. -/
theorem remove_present (asserts : Bool) (sound : Sound map) (here : map.keys[index]? = some key)
    (near : index ≤ maxInt) :
    (remove asserts key).run map = (.ok (), ⟨map.keys.eraseIdx index, map.vals.eraseIdx index⟩) := by
  obtain ⟨inside, _⟩ := List.getElem?_eq_some_iff.mp here
  rw [remove_run asserts sound here (toInt_near near), if_pos (by omega), Int.toNat_natCast]

/-- Else the key stays, or the vectors are left behind. -/
theorem remove_far (asserts : Bool) (sound : Sound map) (here : map.keys[index]? = some key)
    (far : maxInt < index) : (remove asserts key).run map = (.error .undefined, map) ∨
      key ∈ ((remove asserts key).run map).2.keys := by
  rw [remove_run asserts sound here rfl]
  split
  · refine .inr (List.mem_eraseIdx_iff_getElem?.mpr ⟨index, ?_, here⟩)
    have below := toInt_le index
    omega
  · exact .inl rfl

/-- `remove` throws for a key that is not there. -/
theorem remove_absent (asserts : Bool) (sound : Sound map) (some_keys : map.keys ≠ [])
    (missing : key ∉ map.keys) :
    (remove asserts key).run map = (.error (outOfRange "no value with this key"), map) := by
  obtain ⟨found, ended, finds⟩ := binarySearch_ends asserts key sound.increasing sound.short some_keys
  cases found with
  | none =>
    rw [remove, bind_look_run, if_neg (by simp [some_keys]), bind_ok (asks_run ended)]
    rfl
  | some place => exact absurd (List.mem_of_getElem? finds) missing

theorem remove_empty (asserts : Bool) (key : K) (empty : map.keys = []) : (remove asserts key).run map =
    (.error (outOfRange "flat_map is empty, nothing to remove"), map) := by
  rw [remove, bind_look_run, if_pos (by simp [empty]), stop_run]

/-- What `remove` comes to, where an `int` tells the place of the key. -/
theorem remove_cases (asserts : Bool) (sound : Sound map)
    (near : ∀ index < map.keys.length, map.keys[index]? = some key → index ≤ maxInt) :
    (∃ index : Nat, map.keys[index]? = some key ∧ (remove asserts key).run map =
        (.ok (), ⟨map.keys.eraseIdx index, map.vals.eraseIdx index⟩)) ∨
      (map.keys ≠ [] ∧ key ∉ map.keys ∧
        (remove asserts key).run map = (.error (outOfRange "no value with this key"), map)) ∨
      map.keys = [] ∧ (remove asserts key).run map =
        (.error (outOfRange "flat_map is empty, nothing to remove"), map) := by
  by_cases member : key ∈ map.keys
  · obtain ⟨index, here⟩ := List.mem_iff_getElem?.mp member
    obtain ⟨inside, _⟩ := List.getElem?_eq_some_iff.mp here
    exact .inl ⟨index, here, remove_present asserts sound here (near index inside here)⟩
  · by_cases empty : map.keys = []
    · exact .inr (.inr ⟨empty, remove_empty asserts key empty⟩)
    · exact .inr (.inl ⟨empty, member, remove_absent asserts sound empty member⟩)

end Vpverk.FlatMap
