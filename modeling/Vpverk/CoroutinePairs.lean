import Vpverk.CoroutineTriples

/-! Two coroutines side by side: begun in worlds that belong together, they stop in the same way
or come to their ends with answers and worlds that belong together again. The rules follow the
ways coroutines are put together. Nothing here depends on what the worlds are. -/
namespace Vpverk.Coroutine

/-- How two runs that belong together have come out. -/
inductive Ended {World World' α β : Type} (post : α → β → World → World' → Prop)
    (stopped : World → World' → Prop) : Except Stop α × World → Except Stop β × World' → Prop where
  | ends {value value' world world'} (holds : post value value' world world') :
      Ended post stopped (.ok value, world) (.ok value', world')
  | stops {world world'} (how : Stop) (holds : stopped world world') :
      Ended post stopped (.error how, world) (.error how, world')

/-- Begun in worlds that belong together, two coroutines come out together. -/
def Together {World World' α β : Type} (pre : World → World' → Prop) (one : Coroutine World α)
    (other : Coroutine World' β) (post : α → β → World → World' → Prop)
    (stopped : World → World' → Prop) : Prop :=
  ∀ world world', pre world world' → Ended post stopped (one.run world) (other.run world')

variable {World World' Part α β α' β' : Type} {pre pre' : World → World' → Prop}
  {one : Coroutine World α} {other : Coroutine World' β} {next : α → Coroutine World α'}
  {next' : β → Coroutine World' β'} {post post' : α → β → World → World' → Prop}
  {last : α' → β' → World → World' → Prop} {stopped : World → World' → Prop}

theorem Together.weaken (together : Together pre one other post stopped)
    (before : ∀ world world', pre' world world' → pre world world')
    (after : ∀ value value' world world', post value value' world world' →
      post' value value' world world') : Together pre' one other post' stopped := by
  intro world world' holds
  have ended := together world world' (before _ _ holds)
  generalize one.run world = ran at ended ⊢
  generalize other.run world' = ran' at ended ⊢
  cases ended with
  | ends holds => exact .ends (after _ _ _ _ holds)
  | stops how holds => exact .stops how holds

/-- What is known of the beginning may be used. -/
theorem together_knowing {fact : Prop} (known : ∀ world world', pre world world' → fact)
    (together : fact → Together pre one other post stopped) : Together pre one other post stopped :=
  fun world world' good => together (known world world' good) world world' good

theorem Together.seen {seen : World} {seen' : World'} (together : Together pre one other post stopped)
    (good : pre seen seen') :
    Together (fun world world' => world = seen ∧ world' = seen') one other post stopped := by
  rintro _ _ ⟨rfl, rfl⟩
  exact together _ _ good

theorem together_pure {value : α} {value' : β}
    (holds : ∀ world world', pre world world' → post value value' world world') :
    Together pre (pure value) (pure value') post stopped :=
  fun world world' good => .ends (holds world world' good)

theorem together_stop (how : Stop) (holds : ∀ world world', pre world world' → stopped world world') :
    Together pre (stop how : Coroutine World α) (stop how : Coroutine World' β) post stopped :=
  fun world world' good => .stops how (holds world world' good)

theorem together_change {f : World → World} {f' : World' → World'}
    {post : Unit → Unit → World → World' → Prop}
    (holds : ∀ world world', pre world world' → post () () (f world) (f' world')) :
    Together pre (change f) (change f') post stopped :=
  fun world world' good => .ends (holds world world' good)

theorem Together.bind (first : Together pre one other post stopped)
    (second : ∀ value value', Together (post value value') (next value) (next' value') last stopped) :
    Together pre (one >>= next) (other >>= next') last stopped := by
  intro world world' good
  have ended := first world world' good
  generalize ran : one.run world = result at ended
  generalize ran' : other.run world' = result' at ended
  cases ended with
  | ends holds =>
    rw [bind_ok ran, bind_ok ran']
    exact second _ _ _ _ holds
  | stops how holds =>
    rw [bind_error ran, bind_error ran']
    exact .stops how holds

/-- What follows a look at the worlds knows what they are. -/
theorem together_look_bind {next : World → Coroutine World α'} {next' : World' → Coroutine World' β'}
    (second : ∀ seen seen', pre seen seen' →
      Together (fun world world' => world = seen ∧ world' = seen') (next seen) (next' seen') last stopped) :
    Together pre (look >>= next) (look >>= next') last stopped :=
  fun world world' good => second world world' good world world' ⟨rfl, rfl⟩

/-- What is done on one side alone comes to its end. -/
theorem together_bind_left {inner : Coroutine World α} {mid : α → World → World' → Prop}
    {other : Coroutine World' β'}
    (first : ∀ world', Ensures (fun world => pre world world') inner (fun value world => mid value world world')
      fun _ _ => False)
    (second : ∀ value, Together (mid value) (next value) other last stopped) :
    Together pre (inner >>= next) other last stopped := by
  intro world world' good
  cases ran : inner.run world with
  | mk answer after =>
    cases answer with
    | ok value =>
      rw [bind_ok ran]
      exact second value _ _ ((first world').ends _ _ _ good ran)
    | error how => exact ((first world').stops _ _ _ good ran).elim

theorem together_bind_right {inner : Coroutine World' β} {mid : β → World → World' → Prop}
    {one : Coroutine World α'}
    (first : ∀ world, Ensures (fun world' => pre world world') inner (fun value world' => mid value world world')
      fun _ _ => False)
    (second : ∀ value, Together (mid value) one (next' value) last stopped) :
    Together pre one (inner >>= next') last stopped := by
  intro world world' good
  cases ran : inner.run world' with
  | mk answer after =>
    cases answer with
    | ok value =>
      rw [bind_ok ran]
      exact second value _ _ ((first world).ends _ _ _ good ran)
    | error how => exact ((first world).stops _ _ _ good ran).elim

/-- One coroutine over a part that is the same in both worlds. -/
theorem together_within {part : World → Part} {put : Part → World → World} {part' : World' → Part}
    {put' : Part → World' → World'} {inner : Coroutine Part α}
    {post : α → α → World → World' → Prop} {prePart : Part → Prop} {postPart : α → Part → Prop}
    {stoppedPart : Stop → Part → Prop} (ensures : Ensures prePart inner postPart stoppedPart)
    (same : ∀ world world', pre world world' → part world = part' world' ∧ prePart (part world))
    (ends : ∀ value changed world world', pre world world' → postPart value changed →
      post value value (put changed world) (put' changed world'))
    (stops : ∀ changed world world', pre world world' → stopped (put changed world) (put' changed world')) :
    Together pre (within part put inner) (within part' put' inner) post stopped := by
  intro world world' good
  obtain ⟨alike, holds⟩ := same world world' good
  cases ran : inner.run (part world) with
  | mk answer changed =>
    rw [within_run ran, within_run (alike ▸ ran)]
    cases answer with
    | ok value => exact .ends (ends _ _ _ _ good (ensures.ends _ _ _ holds ran))
    | error how => exact .stops how (stops _ _ _ good)

end Vpverk.Coroutine
