import Mathlib.Data.List.Infix
import Mathlib.Tactic.TypeStar

/-! Two messages written piece by piece to one log. The log reads as one message
after the other exactly as long as neither is written to while the other has
been begun and not finished. Nothing here depends on what is written. -/
namespace Vpverk.SharedLog

variable {α : Type*}

/-- A message and what has been written of it. -/
structure Transfer (α : Type*) where
  message : List α
  done : List α
  within : done <+: message

variable {one other more : Transfer α} {log chunk : List α}

/-- Nothing or all of the message has been written. -/
def Transfer.Clear (part : Transfer α) : Prop := part.done = [] ∨ part.done = part.message

/-- The log holds the first message, and the second behind it once it is whole. -/
def Behind (first second : Transfer α) (log : List α) : Prop :=
  log = first.done ++ second.done ∧ (second.done = [] ∨ first.done = first.message)

/-- The log holds the two messages one after the other. -/
def Serial (one other : Transfer α) (log : List α) : Prop :=
  Behind one other log ∨ Behind other one log

theorem Serial.symm (serial : Serial one other log) : Serial other one log := Or.symm serial

private theorem Behind.prefix (behind : Behind one other log) :
    log <+: one.message ++ other.message := by
  obtain ⟨rfl, nothing | whole⟩ := behind
  · rw [nothing, List.append_nil]
    exact one.within.trans (List.prefix_append _ _)
  · rw [whole]
    exact (List.prefix_append_right_inj _).mpr other.within

/-- The log is then the start of one message followed by the other. -/
theorem Serial.prefix (serial : Serial one other log) :
    log <+: one.message ++ other.message ∨ log <+: other.message ++ one.message :=
  serial.imp Behind.prefix Behind.prefix

/-- Writing more of one message keeps the two apart, if the other is clear. -/
theorem Serial.write (serial : Serial one other log) (clear : other.Clear)
    (grown : more.done = one.done ++ chunk) (unfinished : one.done ≠ one.message) :
    Serial more other (log ++ chunk) := by
  rcases clear with nothing | whole
  · rcases serial with ⟨rfl, _⟩ | ⟨rfl, _⟩ <;> exact .inl ⟨by simp [nothing, grown], .inl nothing⟩
  · rcases serial with ⟨rfl, nothing | finished⟩ | ⟨rfl, _⟩
    · exact .inl ⟨by simp [nothing, grown], .inl nothing⟩
    · exact absurd finished unfinished
    · exact .inr ⟨by simp [grown], .inr whole⟩

/-- Writing to one message while the other is not clear tears them: no order of
the two messages starts like the log any more. -/
theorem Serial.torn {kind : α → Prop} (serial : Serial one other log) (unclear : ¬ other.Clear)
    (unfinished : one.done ≠ one.message) (nonempty : chunk ≠ [])
    (ours : ∀ a ∈ one.message, kind a) (written : ∀ a ∈ chunk, kind a)
    (theirs : ∀ a ∈ other.message, ¬ kind a) :
    ¬ (log ++ chunk <+: one.message ++ other.message) ∧
      ¬ (log ++ chunk <+: other.message ++ one.message) := by
  obtain ⟨begun, unwhole⟩ := not_or.mp unclear
  have alone : log = other.done := by
    rcases serial with ⟨_, nothing | finished⟩ | ⟨rfl, nothing | whole⟩
    · exact absurd nothing begun
    · exact absurd finished unfinished
    · rw [nothing, List.append_nil]
    · exact absurd whole unwhole
  subst alone
  obtain ⟨head, rest, first⟩ := List.exists_cons_of_ne_nil begun
  obtain ⟨next, later, last⟩ := List.exists_cons_of_ne_nil nonempty
  obtain ⟨left, message⟩ := other.within
  have foreign : ¬ kind head := theirs head (by rw [← message, first]; simp)
  constructor
  · intro starts
    cases nothing : one.message with
    | nil => exact absurd (by simpa [nothing] using one.within : one.done = []) (nothing ▸ unfinished)
    | cons a _ =>
      rw [first, nothing, List.cons_append, List.cons_append, List.cons_prefix_cons] at starts
      exact foreign (starts.1 ▸ ours a (by simp [nothing]))
  · intro starts
    rw [← message, List.append_assoc, List.prefix_append_right_inj, last] at starts
    cases left with
    | nil => exact unwhole (by simpa using message)
    | cons a _ =>
      rw [List.cons_append, List.cons_prefix_cons] at starts
      exact theirs a (by rw [← message]; simp) (starts.1 ▸ written next (by simp [last]))

end Vpverk.SharedLog
