import Mathlib.Tactic.TypeStar

/-! Coroutines over a world: they change it, hand a value on, and may stop
instead of coming to their end. The world they have changed is there whichever
way they stop. Nothing here depends on what the world is. -/
namespace Vpverk

namespace Coroutine

/-- How a coroutine that has not come to its end stands. -/
inductive Stop where
  /-- An exception left it. -/
  | throws (what : String)
  /-- It killed the process. -/
  | aborts (info : String)
  /-- It waits for something that has not happened yet. -/
  | waits
  /-- It has left what the language defines. -/
  | undefined
  /-- It has not come to its end within the bound set on its loop. -/
  | runs
  deriving DecidableEq, Repr

end Coroutine

structure Coroutine (World α : Type) where
  run : World → Except Coroutine.Stop α × World

namespace Coroutine

variable {World Part α β : Type}

instance : Monad (Coroutine World) where
  pure value := ⟨fun world => (.ok value, world)⟩
  bind first next := ⟨fun world =>
    match first.run world with
    | (.ok value, world') => (next value).run world'
    | (.error stop, world') => (.error stop, world')⟩

/-- The coroutine stops. -/
def stop (how : Stop) : Coroutine World α := ⟨fun world => (.error how, world)⟩

def throw (what : String) : Coroutine World α := stop (.throws what)
def abort (info : String) : Coroutine World α := stop (.aborts info)
def wait : Coroutine World α := stop .waits
def running : Coroutine World α := stop .runs

/-- What the world is. -/
def look : Coroutine World World := ⟨fun world => (.ok world, world)⟩

/-- A change of the world. -/
def change (f : World → World) : Coroutine World Unit := ⟨fun world => (.ok (), f world)⟩

/-- A try block and its catch block; only exceptions are caught. -/
def tryCatch (body : Coroutine World α) (handler : String → Coroutine World α) :
    Coroutine World α := ⟨fun world =>
  match body.run world with
  | (.error (.throws what), world') => (handler what).run world'
  | answer => answer⟩

/-- A coroutine over a part of the world. -/
def within (part : World → Part) (put : Part → World → World) (inner : Coroutine Part α) :
    Coroutine World α := ⟨fun world =>
  ((inner.run (part world)).1, put (inner.run (part world)).2 world)⟩

variable {first : Coroutine World α} {next : α → Coroutine World β} {world world' : World}
  {value : α} {how : Stop}

@[simp] theorem pure_run : (pure value : Coroutine World α).run world = (.ok value, world) := rfl
@[simp] theorem stop_run : (stop how : Coroutine World α).run world = (.error how, world) := rfl
@[simp] theorem throw_run (what : String) :
    (throw what : Coroutine World α).run world = (.error (.throws what), world) := rfl
@[simp] theorem abort_run (info : String) :
    (abort info : Coroutine World α).run world = (.error (.aborts info), world) := rfl
@[simp] theorem wait_run : (wait : Coroutine World α).run world = (.error .waits, world) := rfl
@[simp] theorem running_run : (running : Coroutine World α).run world = (.error .runs, world) := rfl
@[simp] theorem look_run : (look : Coroutine World World).run world = (.ok world, world) := rfl
@[simp] theorem change_run (f : World → World) : (change f).run world = (.ok (), f world) := rfl

/-- What follows a coroutine that came to its end goes on from there. -/
theorem bind_ok (ran : first.run world = (.ok value, world')) :
    (first >>= next).run world = (next value).run world' := by
  change (match first.run world with | (.ok value, world') => _ | (.error stop, world') => _) = _
  rw [ran]

/-- What follows a coroutine that stopped is not reached. -/
theorem bind_error (ran : first.run world = (.error how, world')) :
    (first >>= next).run world = (.error how, world') := by
  change (match first.run world with | (.ok value, world') => _ | (.error stop, world') => _) = _
  rw [ran]

/-- What came to its end did so in both its parts. -/
theorem bind_run_ok {last : β} {world' : World} (ran : (first >>= next).run world = (.ok last, world')) :
    ∃ value mid, first.run world = (.ok value, mid) ∧ (next value).run mid = (.ok last, world') := by
  cases ran' : first.run world with
  | mk answer mid =>
    cases answer with
    | ok value => exact ⟨value, mid, rfl, (bind_ok ran').symm.trans ran⟩
    | error how =>
      rw [bind_error ran'] at ran
      cases ran

/-- A coroutine over a part of the world changes that part. -/
theorem within_run {part : World → Part} {put : Part → World → World} {inner : Coroutine Part α}
    {answer : Except Stop α} {changed : Part} (ran : inner.run (part world) = (answer, changed)) :
    (within part put inner).run world = (answer, put changed world) := by
  simp [within, ran]

theorem within_run_iff {part : World → Part} {put : Part → World → World} {inner : Coroutine Part α}
    {answer : Except Stop α} :
    (within part put inner).run world = (answer, world') ↔
      ∃ changed, inner.run (part world) = (answer, changed) ∧ world' = put changed world := by
  constructor
  · intro ran
    cases ran
    exact ⟨_, rfl, rfl⟩
  · rintro ⟨changed, ran, rfl⟩
    exact within_run ran

/-- A try block that does not throw is its body. -/
theorem tryCatch_body {body : Coroutine World α} {handler : String → Coroutine World α}
    {answer : Except Stop α} (ran : body.run world = (answer, world'))
    (quiet : ∀ what, answer ≠ .error (.throws what)) :
    (tryCatch body handler).run world = (answer, world') := by
  unfold tryCatch
  dsimp only
  rw [ran]
  split
  · rename_i what _ same
    cases same
    exact absurd rfl (quiet what)
  · rfl

/-- An exception of the try block goes to the catch block. -/
theorem tryCatch_throws {body : Coroutine World α} {handler : String → Coroutine World α} {what : String}
    (ran : body.run world = (.error (.throws what), world')) :
    (tryCatch body handler).run world = (handler what).run world' := by
  unfold tryCatch
  dsimp only
  rw [ran]

@[simp] theorem bind_pure_run :
    ((pure value : Coroutine World α) >>= next).run world = (next value).run world := rfl

@[simp] theorem bind_look_run {next : World → Coroutine World β} :
    (look >>= next).run world = (next world).run world := rfl

@[simp] theorem bind_change_run (f : World → World) {next : Unit → Coroutine World β} :
    (change f >>= next).run world = (next ()).run (f world) := rfl

/-! ### Coroutines that run alike -/

/-- Coroutines that run alike are the same. -/
theorem same_run {one other : Coroutine World α} (runs : ∀ world, one.run world = other.run world) :
    one = other := by
  cases one
  cases other
  congr
  exact funext runs

theorem bind_assoc {γ : Type} (first : Coroutine World α) (next : α → Coroutine World β)
    (last : β → Coroutine World γ) :
    ((first >>= next) >>= last) = first >>= fun value => next value >>= last := by
  apply same_run
  intro world
  cases ran : first.run world with
  | mk answer mid =>
    cases answer with
    | error how => rw [bind_error ran, bind_error (bind_error ran)]
    | ok value =>
      rw [bind_ok ran]
      cases ran' : (next value).run mid with
      | mk answer' after =>
        cases answer' with
        | error how => rw [bind_error ran', bind_error ((bind_ok ran).trans ran')]
        | ok value' => rw [bind_ok ran', bind_ok ((bind_ok ran).trans ran')]

/-- A part that holds what was put into it may be worked on piece by piece. -/
theorem within_bind {part : World → Part} {put : Part → World → World}
    (got : ∀ changed world, part (put changed world) = changed)
    (again : ∀ changed before world, put changed (put before world) = put changed world)
    (first : Coroutine Part α) (next : α → Coroutine Part β) :
    within part put (first >>= next) =
      within part put first >>= fun value => within part put (next value) := by
  apply same_run
  intro world
  cases ran : first.run (part world) with
  | mk answer changed =>
    cases answer with
    | error how => rw [bind_error (within_run ran), within_run (bind_error ran)]
    | ok value =>
      rw [bind_ok (within_run ran)]
      cases ran' : (next value).run changed with
      | mk answer' changed' =>
        have later : (next value).run (part (put changed world)) = (answer', changed') := by
          rw [got, ran']
        rw [within_run ((bind_ok ran).trans ran'), within_run later, again]

/-! ### What a coroutine keeps -/

/-- Begun in a good world, a coroutine that comes to its end leaves a good world
again, and one that stops leaves one it may stop in. -/
structure Keeps (good stopped : World → Prop) (inner : Coroutine World α) : Prop where
  ends : ∀ before value after, good before → inner.run before = (.ok value, after) → good after
  stops : ∀ before how after, good before → inner.run before = (.error how, after) → stopped after

variable {good stopped : World → Prop} {inner : Coroutine World α}

/-- A world that is good and may be stopped in stays so, whichever way it goes. -/
theorem Keeps.run (kept : Keeps good good inner) (holds : good world) :
    good (inner.run world).2 := by
  cases ran : inner.run world with
  | mk answer after =>
    cases answer with
    | ok value => exact kept.ends _ _ _ holds ran
    | error how => exact kept.stops _ _ _ holds ran

theorem keeps_pure (value : α) : Keeps good stopped (pure value : Coroutine World α) := by
  constructor
  · intro before last after holds ran
    cases ran
    exact holds
  · intro before how after holds ran
    cases ran

theorem keeps_stop (how : Stop) (may : ∀ world, good world → stopped world) :
    Keeps good stopped (stop how : Coroutine World α) := by
  constructor
  · intro before last after holds ran
    cases ran
  · intro before how after holds ran
    cases ran
    exact may _ holds

theorem keeps_look : Keeps good stopped (look : Coroutine World World) := by
  constructor
  · intro before last after holds ran
    cases ran
    exact holds
  · intro before how after holds ran
    cases ran

theorem keeps_change {f : World → World} (still : ∀ world, good world → good (f world)) :
    Keeps good stopped (change f) := by
  constructor
  · intro before last after holds ran
    cases ran
    exact still _ holds
  · intro before how after holds ran
    cases ran

theorem Keeps.bind (kept : Keeps good stopped first) (kept' : ∀ value, Keeps good stopped (next value)) :
    Keeps good stopped (first >>= next) := by
  constructor
  · intro before last after holds ran
    obtain ⟨value, mid, one, other⟩ := bind_run_ok ran
    exact (kept' value).ends _ _ _ (kept.ends _ _ _ holds one) other
  · intro before how after holds ran
    cases one : first.run before with
    | mk answer mid =>
      cases answer with
      | ok value =>
        rw [bind_ok one] at ran
        exact (kept' value).stops _ _ _ (kept.ends _ _ _ holds one) ran
      | error how' =>
        rw [bind_error one] at ran
        cases ran
        exact kept.stops _ _ _ holds one

/-- What stops at its end keeps everything that has no say in how it stops. -/
theorem keeps_bind_stop (how : Stop) (may : ∀ world, stopped world) :
    Keeps good stopped (inner >>= fun _ => (stop how : Coroutine World β)) := by
  constructor
  · intro before last after _ ran
    obtain ⟨_, _, _, other⟩ := bind_run_ok ran
    cases other
  · intro before how after _ _
    exact may after

/-- A coroutine over a part that makes no difference. -/
theorem keeps_within {part : World → Part} {put : Part → World → World} {inner : Coroutine Part α}
    (still : ∀ changed world, good world → good (put changed world))
    (may : ∀ changed world, good world → stopped (put changed world)) :
    Keeps good stopped (within part put inner) := by
  constructor
  · intro before value after holds ran
    obtain ⟨changed, _, rfl⟩ := within_run_iff.mp ran
    exact still changed before holds
  · intro before how after holds ran
    obtain ⟨changed, _, rfl⟩ := within_run_iff.mp ran
    exact may changed before holds

/-- A coroutine over the part that does. -/
theorem Keeps.within {part : World → Part} {put : Part → World → World} {goodPart stoppedPart : Part → Prop}
    {inner : Coroutine Part α} (kept : Keeps goodPart stoppedPart inner)
    (got : ∀ changed world, part (put changed world) = changed) :
    Keeps (fun world => goodPart (part world)) (fun world => stoppedPart (part world))
      (Coroutine.within part put inner) := by
  constructor
  · intro before value after holds ran
    obtain ⟨changed, inside, rfl⟩ := within_run_iff.mp ran
    rw [got]
    exact kept.ends _ _ _ holds inside
  · intro before how after holds ran
    obtain ⟨changed, inside, rfl⟩ := within_run_iff.mp ran
    rw [got]
    exact kept.stops _ _ _ holds inside

/-- What follows a coroutine and changes nothing leaves the world as that left it. -/
theorem bind_still (still : ∀ value world, ((next value).run world).2 = world) :
    ((first >>= next).run world).2 = (first.run world).2 := by
  cases ran : first.run world with
  | mk answer after =>
    cases answer with
    | ok value => rw [bind_ok ran, still]
    | error how => rw [bind_error ran]

/-- A coroutine with a stop at its end stops, and leaves the world as it was
before that. -/
theorem bind_stop_run (inner : Coroutine World α) (how : Stop) (world : World) :
    ∃ stopped, (inner >>= fun _ => (stop how : Coroutine World β)).run world =
      (.error stopped, (inner.run world).2) := by
  cases ran : inner.run world with
  | mk answer after =>
    cases answer with
    | ok value => exact ⟨how, bind_ok ran⟩
    | error stopped => exact ⟨stopped, bind_error ran⟩

end Coroutine

end Vpverk
