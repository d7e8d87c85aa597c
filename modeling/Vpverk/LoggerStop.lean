import Vpverk.Logger

/-! Whether `stop` can be missed. It is, when it notifies the worker between the worker's
look at the predicate and its sleep. -/
namespace Vpverk.LoggerStop
open CondVar Transition Logger

variable {stem : String} {state after : LogState} {label : Label} {trace : List Label}

/-- The worker as one that waits for the stop request. -/
def waiter : Worker → Waiter
  | .sleeps => .decided
  | .asleep notified => .asleep notified
  | _ => .awake

theorem waiter_notify (worker : Worker) : waiter worker.notify = (waiter worker).notify := by
  cases worker <;> rfl

/-- `stop` has made its request and its notification and waits, and the worker sleeps
with nothing to wake it. -/
def Missed (state : LogState) : Prop :=
  state.exit = .joins ∧ state.worker = .asleep false ∧ state.push = none

/-- `stop` does not notify while the worker has found the predicate false and is not asleep yet. -/
def Tells (state : LogState) : Label → Prop
  | .notified => state.worker ≠ .sleeps
  | .called _ | .pushed _ | .silent => True

instance : ∀ state label, Decidable (Tells state label)
  | state, .notified => inferInstanceAs (Decidable (state.worker ≠ .sleeps))
  | _, .called _ | _, .pushed _ | _, .silent => inferInstanceAs (Decidable True)

/-! ### One step -/

/-- On its own the worker goes to sleep only after a look that found no request, and takes
the mutex only if it is free. -/
theorem works_cases (works : Works stem state after) :
    (waiter state.worker).Moves (state.stopRequested = true) (waiter after.worker) ∧
      (after.worker.locked = true → state.worker.locked = true ∨ state.push = none) := by
  cases works with
  | ends stands _ => exact stands ▸ ⟨.stays _, nofun⟩
  | wants stands => exact stands ▸ ⟨.stays _, nofun⟩
  | locks stands free => exact stands ▸ ⟨.stays _, fun _ => .inr free⟩
  | finds stands => exact stands ▸ ⟨.stays _, fun _ => .inl rfl⟩
  | decides stands unrequested =>
    rw [stands]
    exact ⟨.decides (by simp [unrequested]), fun _ => .inl rfl⟩
  | sleeps stands => exact stands ▸ ⟨.sleeps, nofun⟩
  | wakes stands => exact stands ▸ ⟨.wakes true, nofun⟩
  | leaves stands _ => exact stands ▸ ⟨.stays _, nofun⟩
  | writes stands _ _ => exact stands ▸ ⟨.stays _, fun _ => .inl rfl⟩
  | aborts stands => exact ⟨.stays _, fun locked => .inl locked⟩
  | pops stands => exact stands ▸ ⟨.stays _, fun _ => .inl rfl⟩

/-- After its notification `exit` changes nothing that the worker waits for. -/
theorem exit_frame (went : Logger.exit state = some after) (called : state.exit ≠ .uncalled)
    (notified : state.exit ≠ .notifies) :
    after.worker = state.worker ∧ after.stopRequested = state.stopRequested := by
  unfold Logger.exit at went
  split at went
  · rename_i uncalled
    exact absurd uncalled called
  · rename_i notifies
    exact absurd notifies notified
  · split at went <;> cases went <;> exact ⟨rfl, rfl⟩
  · cases went
    exact ⟨rfl, rfl⟩
  · split at went <;> cases went <;> exact ⟨rfl, rfl⟩
  · cases went
  · cases went

/-- Once `stop` has made its request, a worker that runs can see it; once it has notified,
the worker will look. -/
structure Told (state : LogState) : Prop where
  requested : state.exit ≠ .uncalled → state.worker ≠ .unstarted → state.stopRequested = true
  looks : state.exit ≠ .uncalled → state.exit ≠ .notifies → (waiter state.worker).Looks

theorem Told.work (told : Told state) (works : Works stem state after) : Told after := by
  obtain ⟨started, exit, request, _⟩ := works_frame works
  constructor
  · intro called _
    rw [request]
    exact told.requested (exit ▸ called) started
  · intro called notified
    rw [exit] at called notified
    exact (told.looks called notified).moves (works_cases works).1 (told.requested called started)

theorem Told.notify (told : Told state) : Told state.notify := by
  constructor
  · intro called started
    apply told.requested called
    intro unstarted
    apply started
    change state.worker.notify = _
    rw [unstarted]
    rfl
  · intro called notified
    change (waiter state.worker.notify).Looks
    rw [waiter_notify]
    exact (told.looks called notified).notify

theorem Told.exit (told : Told state) (went : Logger.exit state = some after)
    (tells : state.exit = .notifies → state.worker ≠ .sleeps) : Told after := by
  by_cases uncalled : state.exit = .uncalled
  · simp only [Logger.exit, uncalled] at went
    cases went
    exact ⟨fun _ started => by simpa using started, fun _ notified => absurd rfl notified⟩
  by_cases notifies : state.exit = .notifies
  · simp only [Logger.exit, notifies] at went
    cases went
    refine ⟨fun _ => told.notify.requested uncalled, fun _ _ => ?_⟩
    change (waiter state.worker.notify).Looks
    rw [waiter_notify, Waiter.notify_looks]
    have awake := tells notifies
    cases worker : state.worker <;> simp [waiter, worker] at awake ⊢
  · obtain ⟨worker, request⟩ := exit_frame went uncalled notifies
    refine ⟨fun _ started => ?_, fun _ _ => ?_⟩
    · rw [request]
      exact told.requested uncalled (worker ▸ started)
    · rw [worker]
      exact told.looks uncalled notifies

theorem step_told (told : Told state) (stepped : (system stem).step state label after)
    (tells : Tells state label) : Told after := by
  cases step_goes stepped with
  | starts _ uncalled => exact ⟨fun called => absurd uncalled called, fun called => absurd uncalled called⟩
  | locks _ _ => exact ⟨told.requested, told.looks⟩
  | puts _ => exact ⟨told.requested, told.looks⟩
  | notifies _ => exact ⟨told.notify.requested, told.notify.looks⟩
  | unlocks _ => exact ⟨told.requested, told.looks⟩
  | works went => exact told.work went
  | wakes asleep =>
    exact ⟨fun called _ => told.requested called (by simp [asleep]), fun _ _ => trivial⟩
  | exits went => exact told.exit went fun notifies => by simpa [Tells, notifies] using tells

/-! ### Every run -/

theorem run_told (run : ((system stem).guarded Tells).Run trace state) : Told state := by
  revert run
  apply System.Run.reachable
  · rintro _ rfl
    exact ⟨fun called => absurd rfl called, fun called => absurd rfl called⟩
  · rintro _ _ _ told ⟨stepped, tells⟩
    exact step_told told stepped tells

/-- **Stopping is not missed** in the runs in which `stop` does not notify in that window. -/
theorem stop_not_missed (run : ((system stem).guarded Tells).Run trace state) : ¬ Missed state := by
  rintro ⟨joins, asleep, _⟩
  have looks := (run_told run).looks (by simp [joins]) (by simp [joins])
  rw [asleep] at looks
  exact looks.not_asleep rfl

/-- `stop` comes while the worker sleeps, and is joined. -/
theorem stop_not_missed_asleep : ∃ trace state, ((system "").guarded Tells).Run trace state ∧
    .notified ∈ trace ∧ ¬ Missed state ∧ state.exit = .checks := by
  have run := Machine.guarded_run (Machine.replay_run (show
    ((machine "").guarded Tells).replay {} [.start, .work true, .work true, .work true, .work true,
      .exit, .exit, .work true, .work true, .work true, .work true, .work true, .exit] = _ from rfl))
  exact ⟨_, _, run, by decide, stop_not_missed run, rfl⟩

/-- The request and the notification both come after the worker's look and before its sleep. -/
theorem stop_missed : ¬ ∀ stem trace state, (system stem).Run trace state → ¬ Missed state := by
  intro never
  have run := Machine.replay_run (show (machine "").replay {} [.start, .work true, .work true,
    .work true, .exit, .exit, .work true] = _ from rfl)
  exact never _ _ _ run ⟨rfl, rfl, rfl⟩

/-- Then nothing goes on any more, unless something is pushed or the worker wakes for no reason. -/
theorem Missed.waits {event : LogEvent} (missed : Missed state)
    (stepped : step stem state event = some (after, label)) :
    event = .wake ∨ ∃ message, event = .push message := by
  obtain ⟨joins, asleep, free⟩ := missed
  unfold step at stepped
  split at stepped
  · cases stepped
  cases event with
  | push message => exact .inr ⟨message, rfl⟩
  | wake => exact .inl rfl
  | start => simp [live, asleep] at stepped
  | pushed => simp [live, pushed, free] at stepped
  | work good => simp [live, workLoops, asleep] at stepped
  | exit => simp [live, Logger.exit, joins, asleep] at stepped

/-! ### The window -/

/-- The mutex is held by one thread. -/
def Exclusive (state : LogState) : Prop := state.worker.locked = true → state.push = none

theorem notify_locked {worker : Worker} : worker.notify.locked = worker.locked := by
  cases worker <;> rfl

theorem exit_locked (went : Logger.exit state = some after) :
    after.worker.locked = state.worker.locked := by
  by_cases uncalled : state.exit = .uncalled
  · simp only [Logger.exit, uncalled] at went
    cases went
    rfl
  by_cases notifies : state.exit = .notifies
  · simp only [Logger.exit, notifies] at went
    cases went
    exact notify_locked
  · exact congrArg Worker.locked (exit_frame went uncalled notifies).1

theorem step_exclusive (exclusive : Exclusive state) (stepped : (system stem).step state label after) :
    Exclusive after := by
  cases step_goes stepped with
  | starts _ _ => exact nofun
  | locks _ free => exact fun locked => absurd locked (by simp [free])
  | puts putting => exact fun locked => absurd (putting.symm.trans (exclusive locked)) (by simp)
  | notifies notifying =>
    intro locked
    have locked' : state.worker.locked = true := notify_locked ▸ locked
    exact absurd (notifying.symm.trans (exclusive locked')) (by simp)
  | unlocks _ => exact fun _ => rfl
  | works went =>
    obtain ⟨_, _, _, push⟩ := works_frame went
    exact fun locked => push.trans (((works_cases went).2 locked).elim exclusive id)
  | wakes _ => exact nofun
  | exits went =>
    exact fun held => (exit_push went).trans (exclusive (exit_locked went ▸ held))

theorem run_exclusive (run : (system stem).Run trace state) : Exclusive state := by
  revert run
  apply System.Run.reachable
  · rintro _ rfl
    exact fun _ => rfl
  · exact fun _ _ _ exclusive stepped => step_exclusive exclusive stepped

/-- A notification in the window is missed. -/
theorem window_missed (run : (system stem).Run trace state) (notifies : state.exit = .notifies)
    (sleeps : state.worker = .sleeps) (alive : state.aborted = false) :
    ∃ after, (system stem).Run (trace ++ [.notified] ++ [.silent]) after ∧ Missed after := by
  have free : state.push = none := run_exclusive run (by simp [sleeps, Worker.locked])
  have told : (system stem).step state .notified { state with exit := .joins } :=
    ⟨.exit, by simp [machine, step, alive, live, Logger.exit, notifies, LogState.notify, sleeps,
      Worker.notify]⟩
  have slept : (system stem).step { state with exit := .joins } .silent
      { state with exit := .joins, worker := .asleep false } :=
    ⟨.work true, by simp [machine, step, alive, live, workLoops, sleeps]⟩
  exact ⟨_, (run.next told).next slept, rfl, rfl, free⟩

end Vpverk.LoggerStop
