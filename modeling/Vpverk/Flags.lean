import Vpverk.Transition

/-! Flags that parties set and clear one step at a time. A flag is well kept when
it is up exactly while one party holds it, and each party clears only what it has
set. Nothing here depends on who the parties are or what the flags are for. -/
namespace Vpverk.Flags
open Transition

variable {State Label Party Flag : Type*}

/-- What a step does to the flags. -/
inductive Touch (Party Flag : Type*) where
  | sets (party : Party) (flag : Flag)
  | clears (party : Party) (flag : Flag)
  | nothing

/-- The party has set the flag and not cleared it since. -/
def Holds (history : List (Touch Party Flag)) (party : Party) (flag : Flag) : Prop :=
  ∃ earlier later, history = earlier ++ .sets party flag :: later ∧ .clears party flag ∉ later

variable {history : List (Touch Party Flag)} {party : Party} {flag : Flag} {touch : Touch Party Flag}

@[simp] theorem not_holds_nil : ¬ Holds ([] : List (Touch Party Flag)) party flag := by
  simp [Holds]

/-- A step more makes its party a holder, or leaves those who do not clear. -/
theorem holds_snoc :
    Holds (history ++ [touch]) party flag ↔
      touch = .sets party flag ∨ Holds history party flag ∧ touch ≠ .clears party flag := by
  constructor
  · rintro ⟨earlier, later, split, kept⟩
    rcases snoc_split split with ⟨_, same, _⟩ | ⟨init, rfl, same⟩
    · exact .inl same.symm
    · simp only [List.mem_append, List.mem_singleton, not_or] at kept
      exact .inr ⟨⟨earlier, init, same, kept.1⟩, Ne.symm kept.2⟩
  · rintro (rfl | ⟨⟨earlier, later, rfl, kept⟩, other⟩)
    · exact ⟨history, [], rfl, List.not_mem_nil⟩
    · refine ⟨earlier, later ++ [touch], by simp, ?_⟩
      simp only [List.mem_append, List.mem_singleton, not_or]
      exact ⟨kept, Ne.symm other⟩

/-- The flags that are up, and who holds what. -/
structure Standing (Party Flag : Type*) where
  up : Flag → Bool
  owns : Party → Flag → Prop

/-- Each flag that is up has one holder, and no other has any. -/
structure Standing.Kept (standing : Standing Party Flag) : Prop where
  up_iff : ∀ flag, standing.up flag = true ↔ ∃ party, standing.owns party flag
  one : ∀ {party other flag}, standing.owns party flag → standing.owns other flag → party = other

/-- A step sets a flag that was down, or clears one of its party's, or leaves
everything as it was. -/
def Standing.Changes (before after : Standing Party Flag) : Touch Party Flag → Prop
  | .sets party flag => before.up flag = false ∧
      (∀ other, after.up other = true ↔ other = flag ∨ before.up other = true) ∧
      ∀ who other, after.owns who other ↔ (who = party ∧ other = flag) ∨ before.owns who other
  | .clears party flag => before.owns party flag ∧
      (∀ other, after.up other = true ↔ other ≠ flag ∧ before.up other = true) ∧
      ∀ who other, after.owns who other ↔ ¬ (who = party ∧ other = flag) ∧ before.owns who other
  | .nothing => (∀ other, after.up other = before.up other) ∧
      ∀ who other, after.owns who other ↔ before.owns who other

variable {before after : Standing Party Flag}

theorem Standing.Kept.changes (kept : before.Kept) (changes : before.Changes after touch) :
    after.Kept := by
  cases touch with
  | sets party flag =>
    obtain ⟨down, up, owns⟩ := changes
    have free : ∀ who, ¬ before.owns who flag := fun who held => by
      rw [(kept.up_iff flag).mpr ⟨who, held⟩] at down
      cases down
    refine ⟨fun other => ?_, fun {who another other} first second => ?_⟩
    · simp only [up, owns, kept.up_iff, exists_or]
      by_cases same : other = flag
      · simp [same]
      · simp [same]
    · rw [owns] at first second
      rcases first with ⟨rfl, rfl⟩ | first <;> rcases second with ⟨rfl, same⟩ | second
      · rfl
      · exact absurd second (free _)
      · exact absurd first (same ▸ free _)
      · exact kept.one first second
  | clears party flag =>
    obtain ⟨held, up, owns⟩ := changes
    refine ⟨fun other => ?_, fun {who another other} first second => ?_⟩
    · simp only [up, owns, kept.up_iff]
      constructor
      · rintro ⟨different, who, held'⟩
        exact ⟨who, fun same => different same.2, held'⟩
      · rintro ⟨who, different, held'⟩
        refine ⟨fun same => different ⟨?_, same⟩, who, held'⟩
        subst same
        exact kept.one held' held
    · exact kept.one ((owns _ _).mp first).2 ((owns _ _).mp second).2
  | nothing =>
    obtain ⟨up, owns⟩ := changes
    refine ⟨fun other => ?_, fun first second => ?_⟩
    · simp only [up, owns, kept.up_iff]
    · exact kept.one ((owns _ _).mp first) ((owns _ _).mp second)

/-- Who owns a flag is who holds it by the history, and goes on to be. -/
theorem owns_snoc (same : ∀ who other, before.owns who other ↔ Holds history who other)
    (changes : before.Changes after touch) (who : Party) (other : Flag) :
    after.owns who other ↔ Holds (history ++ [touch]) who other := by
  rw [holds_snoc, ← same]
  cases touch with
  | sets party flag =>
    simp only [changes.2.2, Touch.sets.injEq, ne_eq, reduceCtorEq, not_false_eq_true, and_true]
    simp only [eq_comm]
  | clears party flag =>
    simp only [changes.2.2, reduceCtorEq, false_or, ne_eq, Touch.clears.injEq]
    rw [and_comm]
    simp only [eq_comm]
  | nothing => simp [changes.2]

/-- A system that starts with every flag down and whose steps are as they should
be while the flags are well kept. -/
structure Disciplined (M : System State Label) (standing : State → Standing Party Flag)
    (touch : Label → Touch Party Flag) : Prop where
  initial : ∀ start, M.initial start →
    (∀ flag, (standing start).up flag = false) ∧ ∀ party flag, ¬ (standing start).owns party flag
  step : ∀ before label after, (standing before).Kept → M.step before label after →
    (standing before).Changes (standing after) (touch label)

variable {M : System State Label} {standing : State → Standing Party Flag}
  {touch : Label → Touch Party Flag} {trace earlier later : List Label} {finish : State}
  {label : Label}

theorem Disciplined.run (disciplined : Disciplined M standing touch) (run : M.Run trace finish) :
    (standing finish).Kept ∧
      ∀ party flag, (standing finish).owns party flag ↔ Holds (trace.map touch) party flag := by
  obtain ⟨start, initial, steps⟩ := run
  induction steps with
  | refl =>
    obtain ⟨down, nobody⟩ := disciplined.initial start initial
    exact ⟨⟨by simp [down, nobody], fun held => absurd held (nobody _ _)⟩, by simp [nobody]⟩
  | next _ step ih =>
    obtain ⟨kept, owns⟩ := ih
    have changes := disciplined.step _ _ _ kept step
    exact ⟨kept.changes changes, by simpa using owns_snoc owns changes⟩

/-- In every run a flag is up exactly while somebody holds it. -/
theorem Disciplined.up_iff (disciplined : Disciplined M standing touch) (run : M.Run trace finish)
    (flag : Flag) :
    (standing finish).up flag = true ↔ ∃ party, Holds (trace.map touch) party flag := by
  obtain ⟨kept, owns⟩ := disciplined.run run
  simp only [kept.up_iff, owns]

/-- Nobody else does. -/
theorem Disciplined.one (disciplined : Disciplined M standing touch) (run : M.Run trace finish)
    {party other : Party} {flag : Flag} (held : Holds (trace.map touch) party flag)
    (held' : Holds (trace.map touch) other flag) : party = other := by
  obtain ⟨kept, owns⟩ := disciplined.run run
  exact kept.one ((owns _ _).mpr held) ((owns _ _).mpr held')

/-- Whoever clears a flag holds it. -/
theorem Disciplined.clears (disciplined : Disciplined M standing touch) (run : M.Run trace finish)
    {party : Party} {flag : Flag} (split : trace = earlier ++ label :: later)
    (clears : touch label = .clears party flag) : Holds (earlier.map touch) party flag := by
  obtain ⟨before, after, run', step, _⟩ := run.entry split
  obtain ⟨kept, owns⟩ := disciplined.run run'
  have changes := disciplined.step _ _ _ kept step
  rw [clears] at changes
  exact (owns _ _).mp changes.1

end Vpverk.Flags
