import Vpverk.RouterEntries

/-! What a nested call of `routeTunToClients` does between the call that awaits it and
its return. The entry assertion, which no nested call passes, is read as removed: the
calls are those of `Vpverk.RouterFrames` else. -/
namespace Vpverk.NestedCalls
open Addresses RouteQueue Sessions Transition RouterFrames

/-! ### The calls without the assertion -/

/-- An entry into `routeTunToClients`. -/
def enter (state : RouterState) (k : Nat) (useLoop : Bool) (callers : List Frame) : RouterState :=
  state.loop k { useLoop } callers

/-- An entry that no call awaits. -/
def enterNew (state : RouterState) : RouterState :=
  enter { state with chains := state.chains ++ [[]] } state.chains.length true []

def takeWriteLock (state : RouterState) (k : Nat) (frame : Frame) (callers : List Frame) (con : Ptr)
    (encrypts : Bool) : RouterState :=
  if state.writeLock con then enter state k false ({ frame with pc := .locking con } :: callers)
  else if encrypts then
    (state.setWriteLock con true).put k ({ frame with pc := .sending con } :: callers)
  else state.close k frame callers con

/-- What `emptyQueue` leaves. -/
def withEmptied (state : RouterState) (emptied : Emptied) : RouterState :=
  { state with control := { state.control with tunRouter := emptied.tunRouter, tunQueue := {} } }

/-- `routeTunToClients` from one await to the next. -/
def routeTunToClients (state : RouterState) (k : Nat) (frame : Frame) (callers : List Frame)
    (answer : FrameAnswer) : Option RouterState :=
  match frame.pc, answer with
  | .reading, .throws => some (enterNew (state.put k callers))
  | .reading, .timeout | .reading, .skipped =>
    (emptyQueue state.control.tunRouter state.control.tunQueue).map fun emptied =>
      (withEmptied state emptied).loop k frame callers
  | .reading, .packet dst encrypts =>
    (emptyQueue state.control.tunRouter state.control.tunQueue).map fun emptied =>
      match emptied.tunRouter.lookup dst with
      | none => (withEmptied state emptied).loop k frame callers
      | some (con, _) => takeWriteLock (withEmptied state emptied) k frame callers con encrypts
  | .locking con, .nestedEnds encrypts => some (takeWriteLock state k frame callers con encrypts)
  | .sending con, .throws => some (enterNew ((state.setWriteLock con false).put k callers))
  | .sending con, .sent =>
    let state := state.setWriteLock con false
    some (if frame.useLoop then state.loop k frame callers else state.put k callers)
  | .sending con, .sendFails => some ((state.setWriteLock con false).close k frame callers con)
  | .closing con, .throws =>
    if state.closers con = .ended then some (enterNew (state.put k callers)) else none
  | .closing con, .closed =>
    if state.closers con = .ended then some (state.loop k frame callers) else none
  | _, _ => none

/-- What a step shows: whether a call has gone on, and back to `Tun::read`. -/
inductive Label where
  | resumed (k : Nat) (useLoop : Bool) (answer : FrameAnswer) (readsAgain : Bool)
  | other
  deriving DecidableEq, Repr

variable {Choice : Type}

def step (alloc : Allocator Choice) (state : RouterState) :
    RouterEvent Choice → Option (RouterState × Label)
  | .asyncStart =>
    if state.started then none else some (enterNew { state with started := true }, .other)
  | .resume k answer =>
    match state.chains[k]? with
    | some (frame :: callers) =>
      (routeTunToClients state k frame callers answer).map fun after =>
        (after, .resumed k frame.useLoop answer
          (after.chains[k]? = some ({ frame with pc := .reading } :: callers)))
    | _ => none
  | event => (live alloc state event).map fun result => (result.1, .other)

def machine (alloc : Allocator Choice) : Machine RouterState (RouterEvent Choice) Label where
  initial := {}
  step := step alloc

abbrev system (alloc : Allocator Choice) : System RouterState Label := (machine alloc).system

/-! ### Where it goes on -/

variable {alloc : Allocator Choice} {state after : RouterState} {k : Nat} {frame : Frame}
  {frames callers : List Frame} {con : Ptr} {answer : FrameAnswer} {label : Label} {trace : List Label}

/-- The awaits after which `routeTunToClients` comes to a `continue`, in a call that is
not to loop: the read times out, the packet is not IPv4, nobody is routed for its
destination, or it fails and its connection is closed. -/
def Continues (state : RouterState) (frame : Frame) (answer : FrameAnswer) : Prop :=
  match frame.pc, answer with
  | .reading, .timeout | .reading, .skipped | .closing _, .closed => True
  | .reading, .packet dst encrypts => ∀ emptied,
      emptyQueue state.control.tunRouter state.control.tunQueue = some emptied →
      ∀ con aes, emptied.tunRouter.lookup dst = some (con, aes) →
        state.writeLock con = false ∧ encrypts = false ∧ state.closers con ≠ .uncalled
  | .locking con, .nestedEnds encrypts =>
      state.writeLock con = false ∧ encrypts = false ∧ state.closers con ≠ .uncalled
  | .sending con, .sendFails => state.closers con ≠ .uncalled
  | _, _ => False

/-- The call goes back to `Tun::read`. -/
def ReadsAgain (k : Nat) (frame : Frame) (callers : List Frame) (after : RouterState) : Prop :=
  after.chains[k]? = some ({ frame with pc := .reading } :: callers)

theorem put_reads (state : RouterState) (inside : k < state.chains.length) :
    ReadsAgain k frame callers (state.put k frames) ↔ frames = { frame with pc := .reading } :: callers := by
  simp [ReadsAgain, RouterState.put, inside]

theorem loop_reads (state : RouterState) (inside : k < state.chains.length) :
    ReadsAgain k frame callers (state.loop k frame callers) ↔ state.stopRequested = false := by
  rw [RouterState.loop, put_reads state inside]
  cases state.stopRequested <;> simp

theorem close_reads (state : RouterState) (inside : k < state.chains.length) :
    ReadsAgain k frame callers (state.close k frame callers con) ↔
      state.stopRequested = false ∧ state.closers con ≠ .uncalled := by
  unfold RouterState.close
  split
  · rename_i uncalled
    rw [put_reads { state with closers := Function.update state.closers con .locking } inside]
    simp [uncalled]
  · rename_i called
    rw [loop_reads state inside]
    simp [called]

/-- A call that nests another, or that returns, does not read. -/
theorem nests_reads (state : RouterState) (inside : k < state.chains.length) :
    ¬ ReadsAgain k frame callers (enter state k false ({ frame with pc := .locking con } :: callers)) := by
  rw [enter, RouterState.loop, put_reads state inside]
  cases state.stopRequested <;> simp

theorem returns_reads (state : RouterState) (inside : k < state.chains.length) :
    ¬ ReadsAgain k frame callers (state.put k callers) := by
  rw [put_reads state inside]
  simp

theorem restart_reads (state : RouterState) (inside : k < state.chains.length) :
    ¬ ReadsAgain k frame callers (enterNew (state.put k callers)) := by
  simp [ReadsAgain, enterNew, enter, RouterState.loop, RouterState.put, inside, List.getElem?_append]

theorem takeWriteLock_reads (state : RouterState) {encrypts : Bool} (inside : k < state.chains.length) :
    ReadsAgain k frame callers (takeWriteLock state k frame callers con encrypts) ↔
      state.stopRequested = false ∧ state.writeLock con = false ∧ encrypts = false ∧
        state.closers con ≠ .uncalled := by
  unfold takeWriteLock
  cases free : state.writeLock con with
  | true => simpa using nests_reads state inside
  | false =>
    cases encrypts with
    | true =>
      have sends : ¬ ReadsAgain k frame callers
          ((state.setWriteLock con true).put k ({ frame with pc := .sending con } :: callers)) := by
        rw [put_reads (state.setWriteLock con true) inside]
        simp
      simpa using sends
    | false => simpa using close_reads state inside

/-- A call that is not to loop goes back to `Tun::read` exactly where it continues. -/
theorem routeTunToClients_reads (found : state.chains[k]? = some (frame :: callers))
    (nested : frame.useLoop = false)
    (went : routeTunToClients state k frame callers answer = some after) :
    ReadsAgain k frame callers after ↔ state.stopRequested = false ∧ Continues state frame answer := by
  obtain ⟨inside, _⟩ := List.getElem?_eq_some_iff.mp found
  unfold Continues
  cases pc : frame.pc with
  | reading =>
    cases answer <;> simp only [routeTunToClients, pc, reduceCtorEq] at went ⊢
    case throws =>
      cases went
      simpa using restart_reads state inside
    case timeout | skipped =>
      obtain ⟨emptied, _, rfl⟩ := Option.map_eq_some_iff.mp went
      rw [loop_reads (withEmptied state emptied) inside]
      simp [withEmptied]
    case packet dst encrypts =>
      obtain ⟨emptied, ended, rfl⟩ := Option.map_eq_some_iff.mp went
      cases routed : emptied.tunRouter.lookup dst with
      | none =>
        rw [loop_reads (withEmptied state emptied) inside]
        simp [withEmptied, ended, routed]
      | some target =>
        obtain ⟨con, aes⟩ := target
        rw [takeWriteLock_reads (withEmptied state emptied) inside]
        simp [withEmptied, ended, routed]
  | locking con =>
    cases answer <;> simp only [routeTunToClients, pc, reduceCtorEq] at went ⊢
    case nestedEnds encrypts =>
      cases went
      exact takeWriteLock_reads state inside
  | sending con =>
    cases answer <;> simp only [routeTunToClients, pc, reduceCtorEq] at went ⊢
    case throws =>
      cases went
      simpa using restart_reads (state.setWriteLock con false) inside
    case sent =>
      cases went
      simpa [nested] using returns_reads (state.setWriteLock con false) inside
    case sendFails =>
      cases went
      exact close_reads (state.setWriteLock con false) inside
  | closing con =>
    cases answer <;> simp only [routeTunToClients, pc, reduceCtorEq] at went ⊢
    case throws =>
      split at went <;> cases went
      simpa using restart_reads state inside
    case closed =>
      split at went <;> cases went
      rw [loop_reads state inside]
      simp

/-! ### Every run -/

/-- A nested call that goes on does not read again. -/
def GivesBack : Label → Prop
  | .resumed _ useLoop _ readsAgain => useLoop = true ∨ readsAgain = false
  | .other => True

instance : DecidablePred GivesBack
  | .resumed _ useLoop _ readsAgain => inferInstanceAs (Decidable (useLoop = true ∨ readsAgain = false))
  | .other => inferInstanceAs (Decidable True)

/-- A nested call does not come to a `continue`, unless stop is requested. -/
def Delivers (state : RouterState) : Label → Prop
  | .resumed k useLoop answer _ => useLoop = true ∨ state.stopRequested = true ∨
      ∀ frame callers, state.chains[k]? = some (frame :: callers) → ¬ Continues state frame answer
  | .other => True

theorem step_givesBack (stepped : (system alloc).step state label after) :
    GivesBack label ↔ Delivers state label := by
  obtain ⟨event, stepped⟩ := stepped
  have others : ∀ event, (live alloc state event).map (fun result => (result.1, Label.other)) =
      some (after, label) → (GivesBack label ↔ Delivers state label) := by
    intro event other
    obtain ⟨_, _, same⟩ := Option.map_eq_some_iff.mp other
    cases same
    rfl
  cases event with
  | session event => exact others (.session event) stepped
  | stop => exact others .stop stepped
  | close con => exact others (.close con) stepped
  | closeLocks con => exact others (.closeLocks con) stepped
  | closeEnds con => exact others (.closeEnds con) stepped
  | asyncStart =>
    simp only [machine, step] at stepped
    split at stepped <;> cases stepped
    rfl
  | resume k answer =>
    simp only [machine, step] at stepped
    split at stepped
    · rename_i frame callers found
      obtain ⟨after, went, same⟩ := Option.map_eq_some_iff.mp stepped
      cases same
      refine or_congr_right' fun looping => ?_
      have nested : frame.useLoop = false := by simpa using looping
      have reads := routeTunToClients_reads found nested went
      rw [decide_eq_false_iff_not, ← ReadsAgain, reads, not_and_or, Bool.not_eq_false]
      refine or_congr_right ⟨fun continues frame' callers' found' => ?_, fun all => all _ _ found⟩
      cases found.symm.trans found'
      exact continues
    · cases stepped

theorem enter_asserted {useLoop : Bool} {cause : Cause} {entry : Entry}
    (entered : state.enter k useLoop callers cause = (after, entry)) (passes : entry.passes ≠ some false) :
    after = enter state k useLoop callers := by
  unfold RouterState.enter at entered
  split at entered <;> cases entered
  · rfl
  · exact absurd rfl passes

theorem takeWriteLock_asserted {cause : Cause} {entry : Entry} {encrypts : Bool}
    (taken : state.takeWriteLock k frame callers con encrypts cause = (after, entry))
    (passes : entry.passes ≠ some false) : after = takeWriteLock state k frame callers con encrypts := by
  unfold takeWriteLock
  unfold RouterState.takeWriteLock at taken
  split at taken
  · rename_i held
    rw [if_pos held]
    exact enter_asserted taken passes
  · rename_i free
    rw [if_neg free]
    split at taken <;> cases taken <;> rename_i encrypts <;> simp [encrypts]

theorem routeTunToClients_asserted {entry : Entry}
    (went : RouterFrames.routeTunToClients state k frame callers answer = some (after, entry))
    (passes : entry.passes ≠ some false) : routeTunToClients state k frame callers answer = some after := by
  have restarts : ∀ state : RouterState, state.restart k callers = (after, entry) →
      enterNew (state.put k callers) = after :=
    fun state restarted => (enter_asserted restarted passes).symm
  unfold RouterFrames.routeTunToClients at went
  unfold routeTunToClients
  cases pc : frame.pc with
  | reading =>
    cases answer <;> simp only [pc, reduceCtorEq] at went ⊢
    case throws => exact congrArg some (restarts state (Option.some.inj went))
    case timeout | skipped =>
      split at went
      · cases went
      · rename_i emptied ended
        cases went
        rw [ended]
        rfl
    case packet dst encrypts =>
      split at went
      · cases went
      · rename_i emptied ended
        rw [ended, Option.map_some]
        cases routed : emptied.tunRouter.lookup dst with
        | none =>
          rw [routed] at went
          cases went
          rfl
        | some target =>
          rw [routed] at went
          exact congrArg some (takeWriteLock_asserted (Option.some.inj went) passes).symm
  | locking con =>
    cases answer <;> simp only [pc, reduceCtorEq] at went ⊢
    case nestedEnds => exact congrArg some (takeWriteLock_asserted (Option.some.inj went) passes).symm
  | sending con =>
    cases answer <;> simp only [pc, reduceCtorEq] at went ⊢
    case throws => exact congrArg some (restarts _ (Option.some.inj went))
    case sent | sendFails =>
      cases went
      rfl
  | closing con =>
    cases answer <;> simp only [pc, reduceCtorEq] at went ⊢
    case throws =>
      split at went
      · rename_i ended
        rw [if_pos ended]
        exact congrArg some (restarts state (Option.some.inj went))
      · cases went
    case closed =>
      split at went <;> cases went
      rename_i ended
      rw [if_pos ended]

/-- As long as the entries pass, the router with its assertion is this one. -/
theorem asserted_steps {event : RouterEvent Choice} {entry : Entry}
    (stepped : RouterFrames.step alloc state event = some (after, entry))
    (passes : entry.passes ≠ some false) : ∃ label, step alloc state event = some (after, label) := by
  have others : ∀ event, live alloc state event = some (after, entry) →
      (live alloc state event).map (fun result => (result.1, Label.other)) = some (after, .other) :=
    fun event stepped => by rw [stepped]; rfl
  unfold RouterFrames.step at stepped
  split at stepped
  · cases stepped
  · cases event with
    | session event => exact ⟨.other, others (.session event) stepped⟩
    | stop => exact ⟨.other, others .stop stepped⟩
    | close con => exact ⟨.other, others (.close con) stepped⟩
    | closeLocks con => exact ⟨.other, others (.closeLocks con) stepped⟩
    | closeEnds con => exact ⟨.other, others (.closeEnds con) stepped⟩
    | asyncStart =>
      simp only [live] at stepped
      split at stepped
      · cases stepped
      · rename_i unstarted
        have entered := enter_asserted (Option.some.inj stepped) passes
        exact ⟨.other, by rw [step, if_neg unstarted, entered]; rfl⟩
    | resume k answer =>
      simp only [live] at stepped
      split at stepped
      · rename_i frame callers found
        exact ⟨_, by simp only [step, found, routeTunToClients_asserted stepped passes]; rfl⟩
      · cases stepped

end Vpverk.NestedCalls
