import Mathlib.Data.List.Basic
import Mathlib.Logic.Function.Basic

/-! Messages that wait in one line and go out, each to its own target. Nothing here
depends on what is sent. -/
namespace Vpverk.Dispatch

variable {Target Text : Type*} [DecidableEq Target]

/-- The texts for one target, in order. -/
def textsFor (target : Target) (messages : List (Target × Text)) : List Text :=
  (messages.filter fun message => message.1 = target).map Prod.snd

variable {sent more rest : List (Target × Text)} {message : Target × Text} {target : Target}
  {out : Target → List Text}

@[simp] theorem textsFor_nil : textsFor target ([] : List (Target × Text)) = [] := rfl

@[simp] theorem textsFor_append :
    textsFor target (sent ++ more) = textsFor target sent ++ textsFor target more := by
  simp [textsFor]

theorem textsFor_cons_self : textsFor message.1 (message :: rest) = message.2 :: textsFor message.1 rest := by
  simp [textsFor]

theorem textsFor_cons_ne (other : message.1 ≠ target) :
    textsFor target (message :: rest) = textsFor target rest := by
  simp [textsFor, other]

/-- What has gone out, with what waits behind it, is what was sent, in that order. -/
def Conserves (sent : List (Target × Text)) (out : Target → List Text)
    (waiting : List (Target × Text)) : Prop :=
  ∀ target, out target ++ textsFor target waiting = textsFor target sent

theorem Conserves.start : Conserves ([] : List (Target × Text)) (fun _ => []) [] := fun _ => rfl

/-- One more is sent, and waits at the end. -/
theorem Conserves.send (conserves : Conserves sent out rest) (message : Target × Text) :
    Conserves (sent ++ [message]) out (rest ++ [message]) := by
  intro target
  rw [textsFor_append, textsFor_append, ← List.append_assoc, conserves target]

/-- The first that waits goes out to its target. -/
theorem Conserves.goOut (conserves : Conserves sent out (message :: rest)) :
    Conserves sent (Function.update out message.1 (out message.1 ++ [message.2])) rest := by
  intro target
  have before := conserves target
  by_cases own : target = message.1
  · subst own
    rw [textsFor_cons_self] at before
    rw [Function.update_self, List.append_assoc]
    exact before
  · rw [textsFor_cons_ne (Ne.symm own)] at before
    rw [Function.update_of_ne own]
    exact before

end Vpverk.Dispatch
