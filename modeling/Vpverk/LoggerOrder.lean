import Vpverk.Logger

/-! Every message is written once, to its target's file or to the exit stream, in the
order of the pushes. -/
namespace Vpverk.LoggerOrder
open CondVar Dispatch FlatMap Transition Logger

variable {stem : String} {state after : LogState} {sent : List Message} {message : Message}
  {label : Label} {trace : List Label} {target : To}

/-! ### The streams -/

theorem file_injective (stem : String) : Function.Injective (file stem) := by
  intro one other same
  cases one <;> cases other <;> first | rfl | simp [file] at same

theorem streams_keys (stem : String) : (streams stem).keys = [.server, .client, .session] := rfl

theorem streams_vals (stem : String) :
    (streams stem).vals = [file stem .server, file stem .client, file stem .session] := rfl

theorem streams_sound (stem : String) : Sound (streams stem) := by
  refine ⟨?_, rfl, ?_⟩ <;> rw [streams_keys] <;> decide

theorem streams_represent (stem : String) :
    Represents (streams stem) fun target => some (file stem target) := by
  intro target name
  rw [streams_keys, streams_vals]
  constructor
  · rintro ⟨⟩
    cases target
    · exact ⟨0, rfl, rfl⟩
    · exact ⟨1, rfl, rfl⟩
    · exact ⟨2, rfl, rfl⟩
  · rintro ⟨place, here, there⟩
    rcases place with _ | _ | _ | place
    · cases here
      exact there
    · cases here
      exact there
    · cases here
      exact there
    · cases here

/-- The worker finds each target's own stream. -/
theorem streams_found (stem : String) (target : To) :
    ((atTryFirst true 1 target).run (streams stem)).1 = .ok (file stem target) := by
  have some_keys : (streams stem).keys ≠ [] := List.cons_ne_nil _ _
  have looksUp := (streams_sound stem).looksUp (streams_represent stem) some_keys true target
  have one : UInt32.toNat 1 ≤ (streams stem).keys.length := by
    rw [streams_keys]
    decide
  rw [looksUp.atTryFirst 1 one, looksUp.at']

/-! ### What waits -/

/-- What the worker has not written of the queue. -/
def unwritten (state : LogState) : List Message :=
  if state.worker = .pops then state.queue.tail else state.queue

/-- `stop` is over: the worker is joined. -/
def Joined (exit : Exit) : Prop := exit = .checks ∨ exit = .remains ∨ exit = .returned

instance : DecidablePred Joined := fun _ => inferInstanceAs (Decidable (_ ∨ _))

/-- What is in the files, in the exit stream and in the queue is what was pushed. -/
structure Kept (stem : String) (sent : List Message) (state : LogState) : Prop where
  conserves : ∃ left : List Message, state.exitStream = left.map exitLine ∧
    Conserves sent (fun target => state.files (file stem target)) (left ++ unwritten state) ∧
    (left ≠ [] → Joined state.exit)
  front : state.worker = .pops → state.queue ≠ []
  joined : Joined state.exit → state.worker = .ended
  returned : state.exit = .returned → state.queue = []

/-- Nothing is pushed once the worker is joined. -/
def PushesFirst (state : LogState) : Label → Prop
  | .pushed _ => ¬ Joined state.exit
  | .called _ | .notified | .silent => True

instance : ∀ state label, Decidable (PushesFirst state label)
  | state, .pushed _ => inferInstanceAs (Decidable (¬ Joined state.exit))
  | _, .called _ | _, .notified | _, .silent => inferInstanceAs (Decidable True)

/-- What has been pushed. -/
def pushes (trace : List Label) : List Message :=
  trace.filterMap fun
    | .pushed message => some message
    | .called _ | .notified | .silent => none

/-- What `push` has been called with. -/
def calls (trace : List Label) : List Message :=
  trace.filterMap fun
    | .called message => some message
    | .pushed _ | .notified | .silent => none

/-- What the call that has the mutex is about to push. -/
def atMutex (state : LogState) : List Message :=
  match state.push with
  | some (.puts message) => [message]
  | some .notifies | some .unlocks | none => []

/-! ### One step -/

theorem not_joined (kept : Kept stem sent state) (running : state.worker ≠ .ended) : ¬ Joined state.exit :=
  fun joined => running (kept.joined joined)

/-- The threads go on, and write nothing. -/
theorem Kept.frame {worker : Worker} {push : Option Push} {exit : Exit} {stopRequested aborted : Bool}
    (kept : Kept stem sent state) (pops : worker = .pops ↔ state.worker = .pops)
    (joined : Joined state.exit → Joined exit) (ended : Joined exit → worker = .ended)
    (returned : exit = .returned → state.queue = []) :
    Kept stem sent { state with
      worker := worker, push := push, exit := exit, stopRequested := stopRequested, aborted := aborted } := by
  obtain ⟨left, lines, conserves, later⟩ := kept.conserves
  have waits : (if worker = .pops then state.queue.tail else state.queue) = unwritten state := by
    simp only [unwritten, pops]
  refine ⟨⟨left, lines, ?_, fun some_left => joined (later some_left)⟩, fun now => kept.front (pops.mp now),
    ended, returned⟩
  change Conserves sent _ (left ++ if worker = .pops then _ else _)
  rw [waits]
  exact conserves

/-- The worker and the push go on. -/
theorem Kept.moves {worker : Worker} {push : Option Push} {aborted : Bool} (kept : Kept stem sent state)
    (pops : worker = .pops ↔ state.worker = .pops) (ended : state.worker = .ended → worker = .ended) :
    Kept stem sent { state with worker := worker, push := push, aborted := aborted } :=
  kept.frame pops id (fun joined => ended (kept.joined joined)) kept.returned

theorem notify_pops {worker : Worker} : worker.notify = .pops ↔ worker = .pops := by
  cases worker <;> simp [Worker.notify]

theorem notify_ended {worker : Worker} (ended : worker = .ended) : worker.notify = .ended := by
  rw [ended]
  rfl

/-- What is pushed waits behind the rest. -/
theorem unwritten_push (kept : Kept stem sent state) :
    (if state.worker = .pops then (state.queue ++ [message]).tail else state.queue ++ [message]) =
      unwritten state ++ [message] := by
  unfold unwritten
  split
  · rename_i pops
    exact List.tail_append_of_ne_nil (kept.front pops)
  · rfl

theorem Kept.puts (kept : Kept stem sent state) (unjoined : ¬ Joined state.exit) (push : Option Push) :
    Kept stem (sent ++ [message]) { state with queue := state.queue ++ [message], push := push } := by
  obtain ⟨left, lines, conserves, later⟩ := kept.conserves
  refine ⟨⟨left, lines, ?_, later⟩, fun _ => List.append_ne_nil_of_right_ne_nil _ (List.cons_ne_nil _ _),
    kept.joined, fun returned => absurd (.inr (.inr returned)) unjoined⟩
  change Conserves (sent ++ [message]) _ (left ++ if state.worker = .pops then _ else _)
  rw [unwritten_push kept, ← List.append_assoc]
  exact conserves.send message

/-- The worker writes the first message to its target's file. -/
theorem Kept.writes {text : String} {rest : List Message} (kept : Kept stem sent state)
    (drains : state.worker = .drains) (queue : state.queue = (target, text) :: rest) :
    Kept stem sent { state with
      files := Function.update state.files (file stem target) (state.files (file stem target) ++ [text])
      worker := .pops } := by
  have unjoined : ¬ Joined state.exit := not_joined kept (by simp [drains])
  obtain ⟨left, lines, conserves, later⟩ := kept.conserves
  obtain rfl : left = [] := by
    by_contra some_left
    exact unjoined (later some_left)
  have waits : unwritten state = (target, text) :: rest := by simp [unwritten, drains, queue]
  refine ⟨⟨[], lines, ?_, later⟩, fun _ => ?_, fun joined => absurd joined unjoined, kept.returned⟩
  · change Conserves sent (fun other => Function.update state.files (file stem target) _ (file stem other))
      state.queue.tail
    have rest' : state.queue.tail = rest := by rw [queue, List.tail_cons]
    rw [waits] at conserves
    rw [rest', Function.update_comp_eq_of_injective' _ (file_injective stem)]
    exact conserves.goOut
  · change state.queue ≠ []
    rw [queue]
    exact List.cons_ne_nil _ _

theorem Kept.work (kept : Kept stem sent state) (works : Works stem state after) :
    Kept stem sent after := by
  -- where neither end of the step is in the middle of a write
  have moves : ∀ {here worker}, state.worker = here → here ≠ .pops → here ≠ .ended → worker ≠ .pops →
      Kept stem sent { state with worker := worker } := by
    rintro _ worker rfl notPops notEnded now
    exact kept.moves (iff_of_false now notPops) (absurd · notEnded)
  cases works with
  | ends stands _ => exact moves stands (by simp) (by simp) (by simp)
  | wants stands => exact moves stands (by simp) (by simp) (by simp)
  | locks stands _ => exact moves stands (by simp) (by simp) (by simp)
  | finds stands => exact moves stands (by simp) (by simp) (by simp)
  | decides stands _ => exact moves stands (by simp) (by simp) (by simp)
  | sleeps stands => exact moves stands (by simp) (by simp) (by simp)
  | wakes stands => exact moves stands (by simp) (by simp) (by simp)
  | leaves stands _ => exact moves stands (by simp) (by simp) (by simp)
  | writes stands queue found =>
    rw [streams_found] at found
    cases found
    exact kept.writes stands queue
  | aborts _ => exact kept.moves Iff.rfl id
  | pops stands =>
    have unjoined := not_joined kept (by simp [stands])
    obtain ⟨left, lines, conserves, later⟩ := kept.conserves
    rw [unwritten, if_pos stands] at conserves
    refine ⟨⟨left, lines, conserves, later⟩, by simp, fun joined => absurd joined unjoined, fun returned => ?_⟩
    exact absurd (.inr (.inr returned)) unjoined

theorem Kept.exit (kept : Kept stem sent state) (went : Logger.exit state = some after) :
    Kept stem sent after := by
  cases stands : state.exit with
  | uncalled =>
    simp only [Logger.exit, stands] at went
    cases went
    exact kept.frame Iff.rfl (by simp [stands, Joined]) (by simp [Joined]) nofun
  | notifies =>
    simp only [Logger.exit, stands] at went
    cases went
    exact kept.frame notify_pops (by simp [stands, Joined]) (by simp [Joined]) nofun
  | joins =>
    simp only [Logger.exit, stands] at went
    split at went
    · cases went
      exact kept.frame Iff.rfl (by simp [stands, Joined]) (by simp [Joined]) nofun
    · rename_i ended
      cases went
      exact kept.frame Iff.rfl (fun _ => .inl rfl) (fun _ => ended) nofun
    · cases went
  | checks =>
    have ended := kept.joined (.inl stands)
    simp only [Logger.exit, stands] at went
    cases went
    apply kept.frame Iff.rfl (fun _ => ?_) (fun _ => ended) (fun returned => ?_)
    · split <;> simp [Joined]
    · split at returned
      · rename_i empty
        exact List.isEmpty_iff.mp empty
      · cases returned
  | remains =>
    have joined : Joined state.exit := .inr (.inl stands)
    have ended := kept.joined joined
    simp only [Logger.exit, stands] at went
    split at went
    · rename_i queue
      cases went
      exact kept.frame Iff.rfl (fun _ => .inr (.inr rfl)) (fun _ => ended) (fun _ => queue)
    · rename_i message rest queue
      cases went
      obtain ⟨left, lines, conserves, later⟩ := kept.conserves
      rw [unwritten, if_neg (by simp [ended]), queue] at conserves
      refine ⟨⟨left ++ [message], ?_, ?_, fun _ => .inr (.inl rfl)⟩, ?_, fun _ => ended, nofun⟩
      · rw [List.map_append, ← lines]
        rfl
      · change Conserves sent _ (left ++ [message] ++ if state.worker = .pops then rest.tail else rest)
        rw [if_neg (by simp [ended]), List.append_assoc]
        exact conserves
      · exact fun pops => absurd (ended.symm.trans pops) (by simp)
  | returned => simp [Logger.exit, stands] at went
  | threw => simp [Logger.exit, stands] at went

/-! ### Every run -/

theorem step_kept (kept : Kept stem sent state) (stepped : (system stem).step state label after)
    (first : PushesFirst state label) : Kept stem (sent ++ pushes [label]) after := by
  have silent : ∀ {label}, Kept stem sent after → pushes [label] = [] →
      Kept stem (sent ++ pushes [label]) after := by
    intro _ kept' nothing
    rw [nothing, List.append_nil]
    exact kept'
  cases step_goes stepped with
  | starts unstarted _ => exact silent (kept.moves (by simp [unstarted]) (by simp [unstarted])) rfl
  | locks _ _ => exact silent (kept.moves Iff.rfl id) rfl
  | puts _ => exact kept.puts first _
  | notifies _ => exact silent (kept.moves notify_pops notify_ended) rfl
  | unlocks _ => exact silent (kept.moves Iff.rfl id) rfl
  | works went => exact silent (kept.work went) rfl
  | wakes asleep => exact silent (kept.moves (by simp [asleep]) (by simp [asleep])) rfl
  | exits went => exact silent (kept.exit went) (by split <;> rfl)

/-- A call that has the mutex pushes what it was called with, once. -/
theorem step_calls (stepped : (system stem).step state label after) :
    atMutex state ++ calls [label] = pushes [label] ++ atMutex after := by
  cases step_goes stepped with
  | starts _ _ => exact List.append_nil _
  | locks free _ =>
    simp only [atMutex, free]
    rfl
  | puts putting =>
    simp only [atMutex, putting]
    rfl
  | notifies notifying =>
    simp only [atMutex, notifying]
    rfl
  | unlocks unlocking =>
    simp only [atMutex, unlocking]
    rfl
  | works went =>
    obtain ⟨_, _, _, push⟩ := works_frame went
    simp only [atMutex, push]
    exact List.append_nil _
  | wakes _ => exact List.append_nil _
  | exits went =>
    have same : atMutex after = atMutex state := by simp only [atMutex, exit_push went]
    rw [same]
    by_cases notifies : state.exit = .notifies
    · rw [if_pos notifies]
      exact List.append_nil _
    · rw [if_neg notifies]
      exact List.append_nil _

theorem run_calls (run : (system stem).Run trace state) : calls trace = pushes trace ++ atMutex state := by
  revert run
  apply System.Run.invariant
  · rintro _ rfl
    rfl
  · intro trace state label after _ called stepped
    calc calls (trace ++ [label])
        = calls trace ++ calls [label] := List.filterMap_append
      _ = pushes trace ++ (atMutex state ++ calls [label]) := by rw [called, List.append_assoc]
      _ = pushes trace ++ pushes [label] ++ atMutex after := by
        rw [step_calls stepped, List.append_assoc]
      _ = pushes (trace ++ [label]) ++ atMutex after := by rw [pushes, pushes, pushes, List.filterMap_append]

/-- Until `exit` has returned, messages are in their target's file, in the exit stream or
in the queue. -/
theorem run_kept (run : ((system stem).guarded PushesFirst).Run trace state) :
    Kept stem (pushes trace) state := by
  revert run
  apply System.Run.invariant
  · rintro _ rfl
    exact ⟨⟨[], rfl, .start, nofun⟩, nofun, by simp [machine, Joined], nofun⟩
  · rintro trace _ label _ _ kept ⟨stepped, first⟩
    have kept' := step_kept kept stepped first
    rwa [pushes, List.filterMap_append]

end Vpverk.LoggerOrder
