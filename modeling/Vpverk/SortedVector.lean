import Mathlib.Data.List.InsertIdx
import Mathlib.Order.Lattice

/-! Strictly increasing lists, and two lists that are edited at the same places. A
search may narrow an increasing list down to a window. Nothing here depends on what is
in them. -/
namespace Vpverk.SortedVector

variable {K V : Type*} {keys before : List K} {vals : List V} {key other : K} {value other' : V}
  {position index : Nat}

/-! ### Side by side -/

/-- The two stand at the same place. -/
def Holds (keys : List K) (vals : List V) (key : K) (value : V) : Prop :=
  ∃ position : Nat, keys[position]? = some key ∧ vals[position]? = some value

theorem holds_insertIdx (inside : index ≤ keys.length) (inside' : index ≤ vals.length) :
    Holds (keys.insertIdx index key) (vals.insertIdx index value) other other' ↔
      other = key ∧ other' = value ∨ Holds keys vals other other' := by
  constructor
  · rintro ⟨position, here, here'⟩
    rw [List.getElem?_insertIdx] at here here'
    split at here
    · rename_i less
      rw [if_pos less] at here'
      exact .inr ⟨position, here, here'⟩
    · rename_i notLess
      rw [if_neg notLess] at here'
      split at here
      · rename_i same
        rw [if_pos same, if_pos (same ▸ inside')] at here'
        rw [if_pos (same ▸ inside)] at here
        exact .inl ⟨(Option.some.inj here).symm, (Option.some.inj here').symm⟩
      · rename_i notSame
        rw [if_neg notSame] at here'
        exact .inr ⟨position - 1, here, here'⟩
  · rintro (⟨rfl, rfl⟩ | ⟨position, here, here'⟩)
    · exact ⟨index, by rw [List.getElem?_insertIdx_self, if_pos inside],
        by rw [List.getElem?_insertIdx_self, if_pos inside']⟩
    · by_cases less : position < index
      · exact ⟨position, by rwa [List.getElem?_insertIdx_of_lt less],
          by rwa [List.getElem?_insertIdx_of_lt less]⟩
      · have greater : index < position + 1 := Nat.lt_succ_of_le (Nat.not_lt.mp less)
        exact ⟨position + 1, by rwa [List.getElem?_insertIdx_of_gt greater],
          by rwa [List.getElem?_insertIdx_of_gt greater]⟩

theorem holds_eraseIdx :
    Holds (keys.eraseIdx index) (vals.eraseIdx index) other other' ↔
      ∃ position, position ≠ index ∧ keys[position]? = some other ∧ vals[position]? = some other' := by
  constructor
  · rintro ⟨position, here, here'⟩
    rw [List.getElem?_eraseIdx] at here here'
    split at here
    · rename_i less
      rw [if_pos less] at here'
      exact ⟨position, Nat.ne_of_lt less, here, here'⟩
    · rename_i notLess
      rw [if_neg notLess] at here'
      exact ⟨position + 1, by omega, here, here'⟩
  · rintro ⟨position, different, here, here'⟩
    rcases Nat.lt_or_gt_of_ne different with less | greater
    · exact ⟨position, by rwa [List.getElem?_eraseIdx_of_lt less],
        by rwa [List.getElem?_eraseIdx_of_lt less]⟩
    · obtain ⟨position, rfl⟩ : ∃ fewer, position = fewer + 1 := ⟨position - 1, by omega⟩
      have least : index ≤ position := Nat.le_of_lt_succ greater
      exact ⟨position, by rwa [List.getElem?_eraseIdx_of_ge least],
        by rwa [List.getElem?_eraseIdx_of_ge least]⟩

theorem insertIdx_between (before after : List K) (key : K) :
    (before ++ after).insertIdx before.length key = before ++ key :: after := by
  induction before with
  | nil => rfl
  | cons first rest ih => simpa using ih

/-! ### Increasing -/

variable [LinearOrder K]

abbrev Increasing (keys : List K) : Prop := keys.Pairwise (· < ·)

theorem Increasing.lt {earlier later : Nat} (increasing : Increasing keys) (less : earlier < later)
    (here : keys[earlier]? = some key) (there : keys[later]? = some other) : key < other := by
  obtain ⟨inside, rfl⟩ := List.getElem?_eq_some_iff.mp here
  obtain ⟨inside', rfl⟩ := List.getElem?_eq_some_iff.mp there
  exact List.pairwise_iff_getElem.mp increasing earlier later inside inside' less

/-- A key stands at one place. -/
theorem Increasing.place {place place' : Nat} (increasing : Increasing keys)
    (here : keys[place]? = some key) (there : keys[place']? = some key) : place = place' := by
  rcases Nat.lt_trichotomy place place' with less | same | greater
  · exact absurd (increasing.lt less here there) (lt_irrefl key)
  · exact same
  · exact absurd (increasing.lt greater there here) (lt_irrefl key)

/-- A key between two parts that increase together. -/
theorem Increasing.between {after : List K} (increasing : Increasing (before ++ after))
    (less : ∀ earlier ∈ before, earlier < key) (greater : ∀ later ∈ after, key < later) :
    Increasing (before ++ key :: after) := by
  obtain ⟨front, back, apart⟩ := List.pairwise_append.mp increasing
  refine List.pairwise_append.mpr ⟨front, List.pairwise_cons.mpr ⟨greater, back⟩, ?_⟩
  intro earlier member later member'
  rcases List.mem_cons.mp member' with rfl | member'
  · exact less earlier member
  · exact apart earlier member later member'

/-- The key stands in the window, if anywhere. -/
def Window (keys : List K) (key : K) (lowId highId : Nat) : Prop :=
  ∀ place : Nat, keys[place]? = some key → lowId ≤ place ∧ place ≤ highId

theorem Window.above {lowId highId mid : Nat} {there : K} (window : Window keys key lowId highId)
    (increasing : Increasing keys) (here : keys[mid]? = some there) (less : there < key) :
    Window keys key (mid + 1) highId := by
  intro place found
  refine ⟨?_, (window place found).2⟩
  by_contra notAbove
  rcases Nat.lt_or_eq_of_le (Nat.le_of_lt_succ (Nat.not_le.mp notAbove)) with lower | rfl
  · exact lt_asymm less (increasing.lt lower found here)
  · exact ne_of_lt less (Option.some.inj (here.symm.trans found))

theorem Window.below {lowId highId mid : Nat} {there : K} (window : Window keys key lowId highId)
    (increasing : Increasing keys) (here : keys[mid]? = some there) (greater : key < there) :
    ∀ place : Nat, keys[place]? = some key → lowId ≤ place ∧ place < mid := by
  intro place found
  refine ⟨(window place found).1, ?_⟩
  by_contra notBelow
  rcases Nat.lt_or_eq_of_le (Nat.not_lt.mp notBelow) with higher | rfl
  · exact lt_asymm greater (increasing.lt higher here found)
  · exact ne_of_gt greater (Option.some.inj (here.symm.trans found))

end Vpverk.SortedVector
