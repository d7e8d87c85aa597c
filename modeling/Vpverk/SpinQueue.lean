import Vpverk.Transition

/-! A lock that is taken by whoever finds it free. Who finds it taken goes to the end
of a queue that is first in, first out, and looks again when it comes to its front.
Some parties may look without having queued. Nothing here depends on who they are or
what the lock is for. -/
namespace Vpverk.SpinQueue
open Transition

variable {Party : Type*}

/-- The lock and those that wait for it. -/
structure Spin (Party : Type*) where
  taken : Bool
  spinners : List Party

inductive Label (Party : Type*) where
  /-- Goes to the end of the queue without a look at the lock. -/
  | joins (party : Party)
  | takes (party : Party)
  | refused (party : Party)
  | gives (party : Party)

/-- It is the party's turn to look, and these are behind it: it is the first, or it is
one that need not queue. -/
inductive Turn (barges : Party → Prop) : List Party → Party → List Party → Prop where
  | first (party : Party) (behind : List Party) : Turn barges (party :: behind) party behind
  | barges {party : Party} {spinners : List Party} (may : barges party) (new : party ∉ spinners) :
      Turn barges spinners party spinners

inductive Step (barges : Party → Prop) : Spin Party → Label Party → Spin Party → Prop where
  | joins {spin : Spin Party} {party : Party} (new : party ∉ spin.spinners) :
      Step barges spin (.joins party) { spin with spinners := spin.spinners ++ [party] }
  | takes {spinners behind : List Party} {party : Party} (turn : Turn barges spinners party behind) :
      Step barges ⟨false, spinners⟩ (.takes party) ⟨true, behind⟩
  | refused {spinners behind : List Party} {party : Party} (turn : Turn barges spinners party behind) :
      Step barges ⟨true, spinners⟩ (.refused party) ⟨true, behind ++ [party]⟩
  | gives {spin : Spin Party} {party : Party} (gone : party ∉ spin.spinners) :
      Step barges spin (.gives party) { spin with taken := false }

def system (barges : Party → Prop) : System (Spin Party) (Label Party) where
  initial spin := spin = ⟨false, []⟩
  step := Step barges

variable {barges : Party → Prop} {before after : Spin Party} {label : Label Party}
  {spinners behind : List Party} {party first second : Party}

theorem Turn.keeps (turn : Turn barges spinners party behind) (member : second ∈ spinners)
    (other : party ≠ second) : second ∈ behind := by
  cases turn with
  | first =>
    rcases List.mem_cons.mp member with same | later
    · exact absurd same.symm other
    · exact later
  | barges => exact member

/-- Who gives the lock back does not wait for it. -/
theorem Step.gone (step : Step barges before (.gives party) after) : party ∉ before.spinners := by
  cases step
  assumption

/-- The one waits, and the other is not the first to find the lock free. -/
structure Spin.Lets (spin : Spin Party) (first second : Party) : Prop where
  waits : first ∈ spin.spinners
  behind : spin.taken = false → spin.spinners.head? ≠ some second

/-- Who was refused is not overtaken yet. -/
theorem Spin.lets_refused (step : Step barges before (.refused first) after) :
    after.Lets first second := by
  cases step
  exact ⟨by simp, nofun⟩

/-- A party that queues does not overtake one that waits, and will not, if whoever
gives the lock back does not find it first in the queue. -/
theorem Spin.Lets.step (lets : before.Lets first second) (step : Step barges before label after)
    (queues : ¬ barges second)
    (gives : ∀ party, label = .gives party → party ≠ second → before.spinners.head? ≠ some second) :
    label ≠ .takes second ∧ (label ≠ .takes first → after.Lets first second) := by
  obtain ⟨waits, behind⟩ := lets
  cases step with
  | @joins _ party new =>
    refine ⟨nofun, fun _ => ⟨List.mem_append_left _ waits, fun free => ?_⟩⟩
    have head : (before.spinners ++ [party]).head? = before.spinners.head? :=
      List.head?_append_of_ne_nil _ (List.ne_nil_of_mem waits)
    rw [head]
    exact behind free
  | takes turn =>
    refine ⟨?_, fun other => ⟨?_, nofun⟩⟩
    · rintro ⟨⟩
      cases turn with
      | first => exact behind rfl rfl
      | barges may => exact queues may
    · apply turn.keeps waits
      rintro rfl
      exact other rfl
  | @refused _ _ party turn =>
    refine ⟨nofun, fun _ => ⟨?_, nofun⟩⟩
    by_cases self : party = first
    · simp [self]
    · exact List.mem_append_left _ (turn.keeps waits self)
  | @gives _ party gone =>
    refine ⟨nofun, fun _ => ⟨waits, fun _ head => ?_⟩⟩
    by_cases self : party = second
    · subst self
      exact gone (List.mem_of_head? head)
    · exact gives party rfl self head

end Vpverk.SpinQueue
