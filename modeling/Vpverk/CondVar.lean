/-! A thread that waits on a condition variable for something that happens once and for
all. It looks under a mutex, and goes to sleep if it has not happened yet; what happens
and notifies does not take the mutex. Nothing here depends on what is waited for. -/
namespace Vpverk.CondVar

/-- Where the thread stands: about to look or past it, about to sleep after a look, or
asleep, with a notification pending or not. -/
inductive Waiter where
  | awake
  | decided
  | asleep (notified : Bool)
  deriving DecidableEq, Repr

/-- `notify_one`: who sleeps is to wake; who does not is not told. -/
def Waiter.notify : Waiter → Waiter
  | .asleep _ => .asleep true
  | waiter => waiter

/-- What the thread does on its own. It decides to sleep only before it has happened. -/
inductive Waiter.Moves (happened : Prop) : Waiter → Waiter → Prop where
  | stays (waiter) : Moves happened waiter waiter
  | decides : ¬ happened → Moves happened .awake .decided
  | sleeps : Moves happened .decided (.asleep false)
  | wakes (notified) : Moves happened (.asleep notified) .awake

/-- The thread will look again without another notification. -/
def Waiter.Looks : Waiter → Prop
  | .awake | .asleep true => True
  | .decided | .asleep false => False

instance : DecidablePred Waiter.Looks
  | .awake | .asleep true => inferInstanceAs (Decidable True)
  | .decided | .asleep false => inferInstanceAs (Decidable False)

variable {happened : Prop} {waiter after : Waiter}

/-- A notification is missed exactly by who is about to sleep. -/
theorem Waiter.notify_looks (waiter : Waiter) : waiter.notify.Looks ↔ waiter ≠ .decided := by
  cases waiter <;> simp [notify, Looks]

theorem Waiter.Looks.notify (looks : waiter.Looks) : waiter.notify.Looks := by
  apply waiter.notify_looks.mpr
  rintro rfl
  exact looks

/-- After it has happened, who looks again does not go to sleep any more. -/
theorem Waiter.Looks.moves (looks : waiter.Looks) (moves : waiter.Moves happened after)
    (already : happened) : after.Looks := by
  cases moves with
  | stays => exact looks
  | decides before => exact absurd already before
  | sleeps => exact looks.elim
  | wakes => exact trivial

theorem Waiter.Looks.not_asleep (looks : waiter.Looks) : waiter ≠ .asleep false := by
  rintro rfl
  exact looks

end Vpverk.CondVar
