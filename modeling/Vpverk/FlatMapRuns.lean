import Mathlib.Data.Nat.Basic
import Mathlib.Logic.Function.Basic
import Vpverk.FlatMap
import Vpverk.Transition

/-! Every sequence of `insert` and `remove` from the empty `flat_map`, and what a map
with the same history would answer. -/
namespace Vpverk.FlatMapRuns
open Coroutine SortedVector Transition FlatMap

variable {K V : Type}

/-- The calls that change a map. `insert` takes its value over or copies it. -/
inductive Call (K V : Type) where
  | insert (moves : Bool) (key : K) (value : V)
  | remove (key : K)
  deriving DecidableEq, Repr

/-- A call with what it answered. -/
abbrev Label (K V : Type) := Call K V × Except Stop Unit

/-! ### A map -/

/-- A call on a map, with what it answers. -/
inductive Serves [DecidableEq K] : (K → Option V) → Label K V → (K → Option V) → Prop where
  | insert {entries moves key value} : entries key = none →
      Serves entries (.insert moves key value, .ok ())
        (Function.update entries key (some value))
  | duplicate {entries moves key value} : entries key ≠ none →
      Serves entries (.insert moves key value, .error (runtimeError "this key already exist")) entries
  | remove {entries key} : entries key ≠ none →
      Serves entries (.remove key, .ok ()) (Function.update entries key none)
  | missing {entries key other} : entries key = none → entries other ≠ none →
      Serves entries (.remove key, .error (outOfRange "no value with this key")) entries
  | empty {entries key} : (∀ other, entries other = none) →
      Serves entries (.remove key, .error (outOfRange "flat_map is empty, nothing to remove")) entries

/-- The key a call is about. -/
def Call.key : Call K V → K
  | .insert _ key _ => key
  | .remove key => key

/-- What a call leaves under each key, if it has not thrown. -/
def leave [DecidableEq K] (entries : K → Option V) : Label K V → K → Option V
  | (.insert _ key value, .ok ()) => Function.update entries key (some value)
  | (.remove key, .ok ()) => Function.update entries key none
  | (_, .error _) => entries

/-- The value last inserted for each key and not removed since. -/
def lastInserted [DecidableEq K] (trace : List (Label K V)) : K → Option V :=
  trace.foldl leave fun _ => none

def finiteMap (K V : Type) [DecidableEq K] : System (K → Option V) (Label K V) where
  initial entries := entries = fun _ => none
  step := Serves

/-! ### The code -/

variable [LinearOrder K]

def Call.run (asserts : Bool) : Call K V → Coroutine (FlatMap K V) Unit
  | .insert false key value => FlatMap.insert key value
  | .insert true key value => insertMoved key value
  | .remove key => FlatMap.remove asserts key

/-- There is room for one more key. -/
def Call.fits (map : FlatMap K V) : Call K V → Bool
  | .insert .. => map.keys.length < maxSize
  | .remove _ => true

def machine (asserts : Bool) : Machine (FlatMap K V) (Call K V) (Label K V) where
  initial := {}
  step map call :=
    if call.fits map then some (((call.run asserts).run map).2, call, ((call.run asserts).run map).1)
    else none

abbrev system (asserts : Bool) : System (FlatMap K V) (Label K V) := (machine asserts).system

variable {asserts : Bool} {map after : FlatMap K V} {entries : K → Option V} {key : K} {value : V}
  {index : Nat} {trace : List (Label K V)} {label : Label K V}

/-- What is removed stands where an `int` can tell. -/
def Near (map : FlatMap K V) : Label K V → Prop
  | (.insert .., _) => True
  | (.remove key, _) => ∀ index < map.keys.length, map.keys[index]? = some key → index ≤ maxInt

instance : ∀ (map : FlatMap K V) label, Decidable (Near map label)
  | _, (.insert .., _) => inferInstanceAs (Decidable True)
  | map, (.remove key, _) => inferInstanceAs (Decidable (∀ index < map.keys.length,
      map.keys[index]? = some key → index ≤ maxInt))

/-- The calls that are to throw: a duplicate `insert`, a `remove` of a missing key. -/
def Refused (map : FlatMap K V) : Call K V → Prop
  | .insert _ key _ => key ∈ map.keys
  | .remove key => key ∉ map.keys

/-- There are fewer than 2^31 keys. -/
def Few (map : FlatMap K V) (_ : Label K V) : Prop := map.keys.length ≤ maxInt

instance : ∀ (map : FlatMap K V) label, Decidable (Few map label) :=
  fun _ _ => inferInstanceAs (Decidable (_ ≤ _))

/-! ### Every run -/

theorem Represents.mem (sound : Sound map) (represents : Represents map entries) :
    key ∈ map.keys ↔ entries key ≠ none := by
  constructor
  · intro member
    obtain ⟨place, here⟩ := List.mem_iff_getElem?.mp member
    obtain ⟨value, beside⟩ := sound.beside here
    rw [(represents key value).mpr ⟨place, here, beside⟩]
    exact Option.some_ne_none value
  · intro held
    by_contra missing
    exact held (represents.absent missing)

theorem inserted (sound : Sound map) (represents : Represents map entries) (value : V)
    (inside : index ≤ map.keys.length) (missing : key ∉ map.keys)
    (sorted : Increasing (map.keys.insertIdx index key)) (room : map.keys.length < maxSize) :
    let after : FlatMap K V := ⟨map.keys.insertIdx index key, map.vals.insertIdx index value⟩
    Sound after ∧ Represents after (Function.update entries key (some value)) := by
  have inside' : index ≤ map.vals.length := sound.parallel ▸ inside
  have length := List.length_insertIdx_of_le_length inside key
  have length' := List.length_insertIdx_of_le_length inside' value
  refine ⟨⟨sorted, by rw [length, length', sound.parallel], by rw [length]; omega⟩, ?_⟩
  intro other value'
  rw [holds_insertIdx inside inside']
  by_cases same : other = key
  · subst same
    have unheld : ¬ Holds map.keys map.vals other value' :=
      fun held => missing (List.mem_of_getElem? held.choose_spec.1)
    simp [unheld, eq_comm]
  · simp [same, represents other value']

theorem removed (sound : Sound map) (represents : Represents map entries)
    (here : map.keys[index]? = some key) :
    let after : FlatMap K V := ⟨map.keys.eraseIdx index, map.vals.eraseIdx index⟩
    Sound after ∧ Represents after (Function.update entries key none) := by
  obtain ⟨inside, _⟩ := List.getElem?_eq_some_iff.mp here
  have inside' : index < map.vals.length := sound.parallel ▸ inside
  have length := List.length_eraseIdx_of_lt inside
  have length' := List.length_eraseIdx_of_lt inside'
  have short := sound.short
  refine ⟨⟨sound.increasing.sublist (List.eraseIdx_sublist ..), ?_, by simp only [length]; omega⟩, ?_⟩
  · simp only [length, length', sound.parallel]
  intro other value'
  rw [holds_eraseIdx]
  by_cases same : other = key
  · subst same
    have gone : ¬ ∃ position, position ≠ index ∧ map.keys[position]? = some other ∧
        map.vals[position]? = some value' :=
      fun ⟨position, different, found, _⟩ => different (sound.increasing.place found here)
    simp [gone]
  · rw [Function.update_of_ne same, represents other value']
    constructor
    · rintro ⟨position, found, beside⟩
      refine ⟨position, ?_, found, beside⟩
      rintro rfl
      exact same (Option.some.inj (found.symm.trans here))
    · rintro ⟨position, _, found, beside⟩
      exact ⟨position, found, beside⟩

theorem insert_serves (sound : Sound map) (represents : Represents map entries) (moves : Bool) (key : K)
    (value : V) (room : map.keys.length < maxSize) :
    ∃ entries', Serves entries (.insert moves key value, ((FlatMap.insert key value).run map).1) entries' ∧
      Sound ((FlatMap.insert key value).run map).2 ∧
      Represents ((FlatMap.insert key value).run map).2 entries' := by
  rcases insert_run sound key value with ⟨member, ran⟩ | ⟨index, inside, missing, sorted, ran⟩
  · rw [ran]
    exact ⟨entries, .duplicate ((Represents.mem sound represents).mp member), sound, represents⟩
  · rw [ran]
    obtain ⟨sound', represents'⟩ := inserted sound represents value inside missing sorted room
    exact ⟨_, .insert (represents.absent missing), sound', represents'⟩

theorem remove_serves (sound : Sound map) (represents : Represents map entries)
    (near : ∀ index < map.keys.length, map.keys[index]? = some key → index ≤ maxInt) :
    ∃ entries', Serves entries (.remove key, ((FlatMap.remove asserts key).run map).1) entries' ∧
      Sound ((FlatMap.remove asserts key).run map).2 ∧
      Represents ((FlatMap.remove asserts key).run map).2 entries' := by
  rcases remove_cases asserts sound near with
    ⟨index, here, ran⟩ | ⟨some_keys, missing, ran⟩ | ⟨empty, ran⟩
  · rw [ran]
    have member := List.mem_of_getElem? here
    exact ⟨_, .remove ((Represents.mem sound represents).mp member), removed sound represents here⟩
  · rw [ran]
    obtain ⟨other, there⟩ := List.exists_mem_of_ne_nil _ some_keys
    exact ⟨entries, .missing (represents.absent missing) ((Represents.mem sound represents).mp there),
      sound, represents⟩
  · rw [ran]
    have nothing : ∀ other, entries other = none :=
      fun other => represents.absent (empty ▸ List.not_mem_nil)
    exact ⟨entries, .empty nothing, sound, represents⟩

/-- A step of the code is one of the map. -/
theorem step_serves (sound : Sound map) (represents : Represents map entries)
    (stepped : (system asserts).step map label after) (near : Near map label) :
    ∃ entries', Serves entries label entries' ∧ Sound after ∧ Represents after entries' := by
  obtain ⟨call, stepped⟩ := stepped
  simp only [machine] at stepped
  split at stepped
  · rename_i fits
    cases stepped
    cases call with
    | insert moves key value =>
      have room : map.keys.length < maxSize := by simpa [Call.fits] using fits
      cases moves <;> exact insert_serves sound represents _ key value room
    | remove key => exact remove_serves sound represents near
  · cases stepped

/-- A run of the code is one of the map, as long as what is removed is near enough. -/
theorem run_serves (run : ((system asserts).guarded Near).Run trace map) :
    ∃ entries, (finiteMap K V).Run trace entries ∧ Sound map ∧ Represents map entries := by
  revert run
  apply System.Run.invariant
  · rintro _ rfl
    refine ⟨_, .start rfl, ⟨.nil, rfl, Nat.zero_le _⟩, fun key value => ?_⟩
    simp [machine, Holds]
  · rintro _ _ _ _ _ ⟨entries, served, sound, represents⟩ ⟨stepped, near⟩
    obtain ⟨entries', serves, sound', represents'⟩ := step_serves sound represents stepped near
    exact ⟨entries', served.next serves, sound', represents'⟩

/-- **Lookups agree with a map** that has had the same calls and given the same answers,
exactly where the map is not empty. -/
theorem lookups_agree (run : ((system asserts).guarded Near).Run trace map) :
    ∃ entries, (finiteMap K V).Run trace entries ∧
      ∀ key, LooksUp asserts map entries key ↔ map.keys ≠ [] := by
  obtain ⟨entries, served, sound, represents⟩ := run_serves run
  refine ⟨entries, served, fun key => ⟨fun looksUp empty => not_looksUp empty looksUp, fun some_keys => ?_⟩⟩
  exact sound.looksUp represents some_keys asserts key

/-- Three keys come and one goes. -/
theorem lookups_agree_three_keys : ∃ trace map, ((system true).guarded Near).Run trace map ∧
    ∃ entries, (finiteMap Nat String).Run trace entries ∧ LooksUp true map entries 3 ∧ map.keys = [1, 3] := by
  have run := Machine.guarded_run (Machine.replay_run (show
    ((machine true).guarded Near).replay {} [.insert false 3 "server", .insert true 1 "session",
      .insert false 2 "client", .remove 2, .insert true 3 "again"] = _ from rfl))
  obtain ⟨entries, served, answers⟩ := lookups_agree run
  exact ⟨_, _, run, entries, served, (answers 3).mpr (by decide), by decide⟩

/-- In an empty map `contains` runs into its assertion, or past the end. -/
theorem empty_looked_up :
    ¬ ∀ asserts trace map, (system asserts).Run trace map →
      ∃ entries, (finiteMap Nat String).Run trace entries ∧ ∀ key, LooksUp asserts map entries key := by
  intro agree
  obtain ⟨entries, _, looksUp⟩ := agree true [] {} (.start rfl)
  exact not_looksUp rfl (looksUp 0)

/-! ### The vectors -/

omit [LinearOrder K] in
theorem Few.near (few : Few map label) : Near map label := by
  obtain ⟨call, answer⟩ := label
  cases call with
  | insert => trivial
  | remove => exact fun index inside _ => le_trans (Nat.le_of_lt inside) few

theorem leave_serves {entries' : K → Option V} (serves : Serves entries label entries') :
    leave entries label = entries' := by
  cases serves <;> rfl

/-- A call leaves the other keys alone. -/
theorem leave_other {other : K} (differs : other ≠ label.1.key) :
    leave entries label other = entries other := by
  unfold leave
  split <;> first | rfl | exact Function.update_of_ne differs _ _

/-- A call throws and leaves the map as it was, exactly if it is to throw. -/
theorem step_answers (sound : Sound map) (stepped : (system asserts).step map label after)
    (near : Near map label) :
    label.2 = .ok () ∧ ¬ Refused map label.1 ∨
      (∃ what, label.2 = .error (.throws what)) ∧ Refused map label.1 ∧ after = map := by
  obtain ⟨call, stepped⟩ := stepped
  simp only [machine] at stepped
  split at stepped <;> cases stepped
  cases call with
  | insert moves key value =>
    have ran : (Call.run asserts (.insert moves key value)).run map =
        (FlatMap.insert key value).run map := by cases moves <;> rfl
    rw [ran]
    rcases insert_run sound key value with ⟨member, ran⟩ | ⟨_, _, missing, _, ran⟩
    · rw [ran]
      exact .inr ⟨⟨_, rfl⟩, member, rfl⟩
    · rw [ran]
      exact .inl ⟨rfl, missing⟩
  | remove key =>
    have ran : (Call.run asserts (.remove key)).run map = (FlatMap.remove asserts key).run map := rfl
    rw [ran]
    rcases remove_cases asserts sound near with ⟨_, here, ran⟩ | ⟨_, missing, ran⟩ | ⟨empty, ran⟩
    · rw [ran]
      exact .inl ⟨rfl, fun missing => missing (List.mem_of_getElem? here)⟩
    · rw [ran]
      exact .inr ⟨⟨_, rfl⟩, missing, rfl⟩
    · rw [ran]
      exact .inr ⟨⟨_, rfl⟩, fun member => List.not_mem_nil (empty ▸ member), rfl⟩

/-- What the vectors hold is what was last inserted. -/
theorem run_lasts (run : ((system asserts).guarded Few).Run trace map) :
    Sound map ∧ Represents map (lastInserted trace) := by
  revert run
  apply System.Run.invariant
  · rintro _ rfl
    refine ⟨⟨.nil, rfl, Nat.zero_le _⟩, fun key value => ?_⟩
    simp [machine, Holds, lastInserted]
  · rintro trace _ label _ _ ⟨sound, represents⟩ ⟨stepped, few⟩
    obtain ⟨entries', serves, sound', represents'⟩ := step_serves sound represents stepped few.near
    have last : lastInserted (trace ++ [label]) = leave (lastInserted trace) label := by
      rw [lastInserted, List.foldl_append]
      rfl
    rw [last, leave_serves serves]
    exact ⟨sound', represents'⟩

/-- A call changes the entry of its own key only. -/
theorem step_others (sound : Sound map) (represents : Represents map entries)
    (stepped : (system asserts).step map label after) (near : Near map label) {other : K}
    (differs : other ≠ label.1.key) (value : V) :
    Holds after.keys after.vals other value ↔ Holds map.keys map.vals other value := by
  obtain ⟨entries', serves, _, represents'⟩ := step_serves sound represents stepped near
  rw [← represents' other value, ← represents other value, ← leave_serves serves, leave_other differs]

/-- **The vectors stay side by side.** As long as there are fewer than 2^31 keys, the keys
increase and each has beside it what was last inserted for it; a call changes the entry of
its own key only, and one that throws, which a duplicate `insert` and a `remove` of a
missing key do, changes neither vector. -/
theorem vectors_kept (run : ((system asserts).guarded Few).Run trace map) :
    Increasing map.keys ∧ map.keys.length = map.vals.length ∧
      (∀ (index : Nat) key, map.keys[index]? = some key → map.vals[index]? = lastInserted trace key) ∧
      (∀ key ∉ map.keys, lastInserted trace key = none) ∧
      ∀ label after, ((system asserts).guarded Few).step map label after →
        (∀ other ≠ label.1.key, ∀ value,
          Holds after.keys after.vals other value ↔ Holds map.keys map.vals other value) ∧
        (label.2 = .ok () ∧ ¬ Refused map label.1 ∨
          (∃ what, label.2 = .error (.throws what)) ∧ Refused map label.1 ∧ after = map) := by
  obtain ⟨sound, represents⟩ := run_lasts run
  refine ⟨sound.increasing, sound.parallel, fun index key here => ?_, fun _ => represents.absent, ?_⟩
  · obtain ⟨value, beside⟩ := sound.beside here
    rw [beside, (represents key value).mpr ⟨index, here, beside⟩]
  · rintro label after ⟨stepped, few⟩
    exact ⟨fun other differs value => step_others sound represents stepped few.near differs value,
      step_answers sound stepped few.near⟩

/-- A key that comes, goes and comes again, beside another; the second `insert` of it throws. -/
theorem vectors_kept_again : ∃ trace map, ((system true).guarded Few).Run trace map ∧
    map.keys = [1, 3] ∧ map.vals[1]? = lastInserted trace 3 ∧ lastInserted trace 3 = some "again" := by
  have run := Machine.guarded_run (Machine.replay_run (show
    ((machine true).guarded Few).replay {} [.insert false 3 "server", .insert true 1 "session",
      .insert true 3 "twice", .remove 3, .insert false 3 "again"] = _ from rfl))
  obtain ⟨_, _, beside, _⟩ := vectors_kept run
  exact ⟨_, _, run, by decide, beside 1 3 (by decide), by decide⟩

end Vpverk.FlatMapRuns
