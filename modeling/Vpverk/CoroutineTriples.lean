import Vpverk.Coroutine

/-! What a coroutine makes true, where it comes to its end and where it stops. The rules
follow the ways coroutines are put together. Nothing here depends on what the world is. -/
namespace Vpverk.Coroutine

/-- Begun where `pre` holds, a coroutine that comes to its end leaves `post` true of what it
hands on and of the world, and one that stops leaves `stopped` true of how and of the world. -/
structure Ensures {World α : Type} (pre : World → Prop) (inner : Coroutine World α)
    (post : α → World → Prop) (stopped : Stop → World → Prop) : Prop where
  ends : ∀ before value after, pre before → inner.run before = (.ok value, after) → post value after
  stops : ∀ before how after, pre before → inner.run before = (.error how, after) → stopped how after

variable {World Part α β : Type} {pre pre' : World → Prop} {inner : Coroutine World α}
  {next : α → Coroutine World β} {post post' : α → World → Prop} {last : β → World → Prop}
  {stopped stopped' : Stop → World → Prop}

theorem Ensures.weaken (ensures : Ensures pre inner post stopped)
    (before : ∀ world, pre' world → pre world)
    (after : ∀ value world, post value world → post' value world)
    (stop : ∀ how world, stopped how world → stopped' how world) :
    Ensures pre' inner post' stopped' where
  ends _ _ _ holds ran := after _ _ (ensures.ends _ _ _ (before _ holds) ran)
  stops _ _ _ holds ran := stop _ _ (ensures.stops _ _ _ (before _ holds) ran)

theorem Ensures.begun (ensures : Ensures pre inner post stopped)
    (before : ∀ world, pre' world → pre world) : Ensures pre' inner post stopped :=
  ensures.weaken before (fun _ _ holds => holds) fun _ _ holds => holds

theorem Ensures.seen {seen : World} (ensures : Ensures pre inner post stopped) (good : pre seen) :
    Ensures (fun world => world = seen) inner post stopped :=
  ensures.begun fun _ same => same ▸ good

/-- What is known of the beginning may be used. -/
theorem ensures_knowing {fact : Prop} (known : ∀ world, pre world → fact)
    (ensures : fact → Ensures pre inner post stopped) : Ensures pre inner post stopped where
  ends before _ _ good ran := (ensures (known before good)).ends _ _ _ good ran
  stops before _ _ good ran := (ensures (known before good)).stops _ _ _ good ran

theorem ensures_any (inner : Coroutine World α) :
    Ensures (fun _ => True) inner (fun _ _ => True) fun _ _ => True :=
  ⟨fun _ _ _ _ _ => trivial, fun _ _ _ _ _ => trivial⟩

/-- What holds whichever way it goes. -/
theorem Ensures.anyway {holds : World → Prop} {world : World}
    (ensures : Ensures pre inner (fun _ => holds) fun _ => holds) (begins : pre world) :
    holds (inner.run world).2 := by
  cases ran : inner.run world with
  | mk answer after =>
    cases answer with
    | ok value => exact ensures.ends _ _ _ begins ran
    | error how => exact ensures.stops _ _ _ begins ran

theorem ensures_pure {value : α} (holds : ∀ world, pre world → post value world) :
    Ensures pre (pure value) post stopped where
  ends before _ _ good ran := by
    cases ran
    exact holds before good
  stops _ _ _ _ ran := by cases ran

theorem ensures_stop {how : Stop} (holds : ∀ world, pre world → stopped how world) :
    Ensures pre (stop how : Coroutine World α) post stopped where
  ends _ _ _ _ ran := by cases ran
  stops before _ _ good ran := by
    cases ran
    exact holds before good

theorem ensures_change {f : World → World} {post : Unit → World → Prop}
    (holds : ∀ world, pre world → post () (f world)) : Ensures pre (change f) post stopped where
  ends before _ _ good ran := by
    cases ran
    exact holds before good
  stops _ _ _ _ ran := by cases ran

theorem Ensures.bind (first : Ensures pre inner post stopped)
    (second : ∀ value, Ensures (post value) (next value) last stopped) :
    Ensures pre (inner >>= next) last stopped where
  ends before value after good ran := by
    obtain ⟨mid, world, one, other⟩ := bind_run_ok ran
    exact (second mid).ends _ _ _ (first.ends _ _ _ good one) other
  stops before how after good ran := by
    cases one : inner.run before with
    | mk answer world =>
      cases answer with
      | ok value =>
        rw [bind_ok one] at ran
        exact (second value).stops _ _ _ (first.ends _ _ _ good one) ran
      | error how' =>
        rw [bind_error one] at ran
        cases ran
        exact first.stops _ _ _ good one

/-- What follows a look at the world knows what the world is. -/
theorem ensures_look_bind {next : World → Coroutine World β}
    (second : ∀ seen, pre seen → Ensures (fun world => world = seen) (next seen) last stopped) :
    Ensures pre (look >>= next) last stopped where
  ends before _ _ good ran := (second before good).ends _ _ _ rfl ran
  stops before _ _ good ran := (second before good).stops _ _ _ rfl ran

/-- The catch block begins where an exception has left the try block; every other stop goes
through. -/
theorem ensures_tryCatch {handler : String → Coroutine World α} (body : Ensures pre inner post stopped)
    (handled : ∀ what, Ensures (stopped (.throws what)) (handler what) post stopped')
    (through : ∀ how world, (∀ what, how ≠ .throws what) → stopped how world → stopped' how world) :
    Ensures pre (tryCatch inner handler) post stopped' := by
  have goes : ∀ before, pre before → ∀ answer after,
      (tryCatch inner handler).run before = (answer, after) →
        (∀ value, answer = .ok value → post value after) ∧
          ∀ how, answer = .error how → stopped' how after := by
    intro before good answer after ran
    cases one : inner.run before with
    | mk first mid =>
      by_cases thrown : ∃ what, first = .error (.throws what)
      · obtain ⟨what, rfl⟩ := thrown
        rw [tryCatch_throws one] at ran
        have caught := body.stops _ _ _ good one
        constructor
        · rintro value rfl
          exact (handled what).ends _ _ _ caught ran
        · rintro how rfl
          exact (handled what).stops _ _ _ caught ran
      · have quiet : ∀ what, first ≠ .error (.throws what) := fun what same => thrown ⟨what, same⟩
        rw [tryCatch_body one quiet] at ran
        cases ran
        constructor
        · rintro value rfl
          exact body.ends _ _ _ good one
        · rintro how rfl
          exact through _ _ (fun what same => quiet what (same ▸ rfl)) (body.stops _ _ _ good one)
  exact ⟨fun before _ _ good ran => (goes before good _ _ ran).1 _ rfl,
    fun before _ _ good ran => (goes before good _ _ ran).2 _ rfl⟩

/-- A coroutine over a part of the world that makes no difference. -/
theorem ensures_within {part : World → Part} {put : Part → World → World} {inner : Coroutine Part α}
    (still : ∀ changed world, pre world → pre (put changed world))
    (stop : ∀ how world, pre world → stopped how world) :
    Ensures pre (within part put inner) (fun _ => pre) stopped where
  ends before value after good ran := by
    obtain ⟨changed, _, rfl⟩ := within_run_iff.mp ran
    exact still changed before good
  stops before how after good ran := by
    obtain ⟨changed, _, rfl⟩ := within_run_iff.mp ran
    exact stop how _ (still changed before good)

/-- One over the part that does, beside what holds whatever the part is. -/
theorem Ensures.within {inner : Coroutine Part α} {prePart : Part → Prop} {postPart : α → Part → Prop}
    {stoppedPart : Stop → Part → Prop} (ensures : Ensures prePart inner postPart stoppedPart)
    (part : World → Part) (put : Part → World → World) (frame : World → Prop)
    (got : ∀ changed world, part (put changed world) = changed)
    (still : ∀ changed world, frame world → frame (put changed world)) :
    Ensures (fun world => prePart (part world) ∧ frame world) (Coroutine.within part put inner)
      (fun value world => postPart value (part world) ∧ frame world)
      (fun how world => stoppedPart how (part world) ∧ frame world) where
  ends before value after good ran := by
    obtain ⟨changed, inside, rfl⟩ := within_run_iff.mp ran
    rw [got]
    exact ⟨ensures.ends _ _ _ good.1 inside, still changed before good.2⟩
  stops before how after good ran := by
    obtain ⟨changed, inside, rfl⟩ := within_run_iff.mp ran
    rw [got]
    exact ⟨ensures.stops _ _ _ good.1 inside, still changed before good.2⟩

end Vpverk.Coroutine
