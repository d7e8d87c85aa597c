import Vpverk.SessionHistory

/-! Add and remove entries in pairs. A session clears up after its registration
when it has an address; it has one from `getNewAddress` on, and is registered
only when its add entry has been accepted. What fails in between makes it push a
remove entry on its own. -/
namespace Vpverk.Sessions
open Addresses RouteQueue Transition

variable {Choice : Type} {alloc : Allocator Choice} {control after : Control}
  {observation : Observation} {trace : List (Observation × Option Nat)} {sid other : Nat}
  {session session' : Session} {address : AddressV4} {answer : Answer Choice}

/-- The session fails between `getNewAddress` and its add entry: `sendIp` or the
making of the entry throws, or the queue is full. It depends on the state before
the step and on what happens. -/
def missesAdd (control : Control) : Event Choice → Option Nat
  | .accept | .emptyQueue => none
  | .resume sid answer =>
    match control.sessions[sid]? with
    | none => none
    | some session =>
      match session.pc, answer with
      | .sendingIp, .throws | .registering, .throws => some sid
      | .registering, .returns =>
        if control.tunQueue.entries.length < CAPACITY then none else some sid
      | _, _ => none

/-- The session machine, with a record of who fails between `getNewAddress` and
the add entry. -/
def recorder (alloc : Allocator Choice) : Machine Control (Event Choice) (Observation × Option Nat) where
  initial := {}
  step control event :=
    (step alloc control event).map fun (after, observation) =>
      (after, observation, missesAdd control event)

/-- What the session has pushed to `tunQueue`, oldest first. -/
def pushes (sid : Nat) (trace : List (Observation × Option Nat)) : List Act :=
  (acts sid (trace.map Prod.fst)).filter fun
    | .pushAdd _ | .pushRemove _ => true
    | _ => false

/-- The session has failed there. -/
def Missed (sid : Nat) (trace : List (Observation × Option Nat)) : Prop :=
  some sid ∈ trace.map Prod.snd

/-- The session has its registration behind it, or has failed to make it. -/
def Session.PastRegistration (session : Session) : Prop :=
  session.pc = .refused ∨ session.pc = .exchanging ∨ session.pc = .unregistering ∨
    session.pc = .erasing ∨ session.pc = .ended

theorem recorder_run (run : (recorder alloc).system.Run trace control) :
    (system alloc).Run (trace.map Prod.fst) control := by
  obtain ⟨start, initial, steps⟩ := run
  refine ⟨start, initial, ?_⟩
  clear initial
  induction steps with
  | refl => exact .refl
  | next _ step ih =>
    obtain ⟨event, stepped⟩ := step
    obtain ⟨⟨after, observation⟩, stepped', same⟩ := Option.map_eq_some_iff.mp stepped
    cases same
    rw [List.map_append]
    exact ih.next ⟨event, stepped'⟩

/-- What a step of a session may do about its registration. -/
inductive Registers (sid : Nat) (session session' : Session) : Observation → Option Nat → Prop where
  /-- It is not there yet. -/
  | before {observation : Observation} (here : ¬ session.PastRegistration)
      (there : ¬ session'.PastRegistration) : Registers sid session session' observation none
  /-- It goes past it without an address, and so without a need to register. -/
  | spared (here : ¬ session.PastRegistration) (there : session'.PastRegistration)
      (unassigned : session'.assignedAddress = none) : Registers sid session session' .quiet none
  | done {address : AddressV4} (here : ¬ session.PastRegistration)
      (there : session'.PastRegistration) :
      Registers sid session session' (.act sid (.pushAdd address)) none
  | missed (here : ¬ session.PastRegistration) (there : session'.PastRegistration)
      (assigned : session'.assignedAddress.isSome) :
      Registers sid session session' .quiet (some sid)
  /-- It has it behind it. -/
  | past {observation : Observation} (here : session.PastRegistration)
      (there : session'.PastRegistration)
      (same : session'.assignedAddress = session.assignedAddress)
      (noAdd : ∀ address, .pushAdd address ∉ observation.shows sid) :
      Registers sid session session' observation none

/-- Where a step of a session leads, for the session. -/
theorem startConnection_registers (shape : ∃ done, Shape session done)
    (at' : control.sessions[sid]? = some session)
    (stepped : startConnection alloc control sid session answer = some (after, observation)) :
    ∃ session', after.sessions = control.sessions.set sid session' ∧
      Registers sid session session' observation (missesAdd control (.resume sid answer)) ∧
      ∀ other, other ≠ sid → observation.shows other = [] := by
  obtain ⟨done, shape⟩ := shape
  have unset : control.sessions = control.sessions.set sid session := by
    obtain ⟨inside, rfl⟩ := List.getElem?_eq_some_iff.mp at'
    simp
  cases pc : session.pc <;> cases answer <;>
    simp only [startConnection, pc, reduceCtorEq, Option.some.injEq, Prod.mk.injEq] at stepped <;>
    simp only [missesAdd, at', pc] <;> simp only [Shape, pc] at shape
  case handshake.throws | denied.throws | obtaining.throws =>
    obtain ⟨rfl, rfl⟩ := stepped
    refine ⟨_, rfl, .spared ?_ ?_ shape.1, fun _ _ => rfl⟩ <;>
      simp [Session.PastRegistration, Session.leaveTry, pc, shape]
  case handshake.authenticated allowed =>
    cases allowed <;> simp only [Option.some.injEq, Prod.mk.injEq] at stepped <;>
      obtain ⟨rfl, rfl⟩ := stepped <;>
      refine ⟨_, rfl, .before ?_ ?_, fun _ _ => rfl⟩ <;> simp [Session.PastRegistration, pc]
  case denied.returns =>
    obtain ⟨rfl, rfl⟩ := stepped
    refine ⟨_, rfl, .spared ?_ ?_ shape.1, fun _ _ => rfl⟩ <;> simp [Session.PastRegistration, pc]
  case obtaining.picks choice =>
    split at stepped
    · cases stepped
    · cases stepped
      refine ⟨_, rfl, .before ?_ ?_, fun other different => shows_other _ different.symm⟩ <;>
        simp [Session.PastRegistration, pc]
  case sendingIp.returns =>
    obtain ⟨rfl, rfl⟩ := stepped
    refine ⟨_, rfl, .before ?_ ?_, fun _ _ => rfl⟩ <;> simp [Session.PastRegistration, pc]
  case sendingIp.throws | registering.throws =>
    obtain ⟨rfl, rfl⟩ := stepped
    obtain ⟨a, assigned, _⟩ := shape
    refine ⟨_, rfl, .missed ?_ ?_ ?_, fun _ _ => rfl⟩ <;>
      simp [Session.PastRegistration, Session.leaveTry, pc, assigned]
  case registering.returns =>
    obtain ⟨a, assigned, _⟩ := shape
    simp only [assigned, RoutesQueue.tryPush] at stepped
    split at stepped
    · rename_i full
      split at full
      · cases full
      · rename_i noRoom
        cases stepped
        rw [if_neg noRoom]
        refine ⟨_, rfl, .missed ?_ ?_ (by simp), fun _ _ => rfl⟩ <;>
          simp [Session.PastRegistration, pc]
    · rename_i tunQueue pushed
      split at pushed
      · rename_i room
        cases stepped
        rw [if_pos room]
        refine ⟨_, rfl, .done ?_ ?_, fun other different => shows_other _ different.symm⟩ <;>
          simp [Session.PastRegistration, pc]
      · cases pushed
  case refused.returns | refused.throws | exchanging.returns | exchanging.throws =>
    obtain ⟨rfl, rfl⟩ := stepped
    obtain ⟨a, assigned, _⟩ := shape
    refine ⟨_, rfl, .past ?_ ?_ rfl (by simp), fun _ _ => rfl⟩ <;>
      simp [Session.PastRegistration, Session.leaveTry, pc, assigned]
  case unregistering.returns =>
    obtain ⟨a, assigned, _⟩ := shape
    simp only [assigned] at stepped
    split at stepped
    · cases stepped
      refine ⟨session, unset, .past ?_ ?_ rfl (by simp), fun _ _ => rfl⟩ <;>
        simp [Session.PastRegistration, pc]
    · cases stepped
      refine ⟨_, rfl, .past ?_ ?_ assigned.symm (by simp),
        fun other different => shows_other _ different.symm⟩ <;>
        simp [Session.PastRegistration, pc]
  case erasing.returns | erasing.throws =>
    obtain ⟨a, _, assigned, _⟩ := shape
    simp only [assigned, Option.some.injEq, Prod.mk.injEq] at stepped
    obtain ⟨rfl, rfl⟩ := stepped
    refine ⟨_, rfl, .past ?_ ?_ assigned.symm (by simp),
      fun other different => shows_other _ different.symm⟩ <;>
      simp [Session.PastRegistration, pc]

/-- A session has missed its add entry exactly if it is past its registration,
has an address, and has pushed no add entry. -/
structure Recorded (trace : List (Observation × Option Nat)) (control : Control) : Prop where
  at' : ∀ {sid session}, control.sessions[sid]? = some session →
    (Missed sid trace ↔ session.PastRegistration ∧ session.assignedAddress.isSome ∧
      ∀ a, .pushAdd a ∉ acts sid (trace.map Prod.fst))
  absent : ∀ {sid}, control.sessions[sid]? = none → ¬ Missed sid trace

@[simp] theorem missed_snoc {miss : Option Nat} :
    Missed sid (trace ++ [(observation, miss)]) ↔ Missed sid trace ∨ miss = some sid := by
  simp [Missed, eq_comm]

/-- A session that is not past its registration has pushed no add entry. -/
theorem Shape.noAdd {done : List Act} (shape : Shape session done)
    (before : ¬ session.PastRegistration) (a : AddressV4) : .pushAdd a ∉ done := by
  simp only [Session.PastRegistration, not_or] at before
  cases pc : session.pc <;> simp only [pc, reduceCtorEq, not_true_eq_false, not_false_eq_true,
    and_true, and_false] at before <;> simp only [Shape, pc] at shape
  case handshake | denied => simp [shape]
  case obtaining => simp [shape]
  case sendingIp | registering =>
    obtain ⟨_, _, _, rfl⟩ := shape
    simp

theorem recorded_preserved {event : Event Choice} (told : Told (trace.map Prod.fst) control)
    (recorded : Recorded trace control) (stepped : step alloc control event = some (after, observation)) :
    Recorded (trace ++ [(observation, missesAdd control event)]) after := by
  cases event with
  | accept =>
    cases stepped
    constructor
    · intro sid session found
      rcases Nat.lt_or_ge sid control.sessions.length with inside | outside
      · rw [List.getElem?_append_left inside] at found
        simpa [missesAdd] using recorded.at' found
      · have none_there := List.getElem?_eq_none outside
        rw [List.getElem?_append_right outside] at found
        obtain rfl := List.mem_singleton.mp (List.mem_of_getElem? found)
        simpa [missesAdd, Session.PastRegistration] using recorded.absent none_there
    · intro sid found
      rw [List.getElem?_eq_none_iff, List.length_append] at found
      simpa [missesAdd] using recorded.absent (List.getElem?_eq_none (by omega))
  | emptyQueue =>
    simp only [step] at stepped
    split at stepped
    · cases stepped
    · cases stepped
      constructor
      · intro sid session found
        simpa [missesAdd] using recorded.at' found
      · intro sid found
        simpa [missesAdd] using recorded.absent found
  | resume owner answer =>
    simp only [step] at stepped
    split at stepped
    · cases stepped
    · rename_i session found
      have shape := told.at' found
      obtain ⟨session', sessions, registers, silent⟩ :=
        startConnection_registers ⟨_, shape⟩ found stepped
      generalize missesAdd control (.resume owner answer) = miss at registers ⊢
      have inside : owner < control.sessions.length := (List.getElem?_eq_some_iff.mp found).1
      constructor
      · intro sid other found'
        rw [sessions] at found'
        by_cases same : owner = sid
        · subst same
          rw [List.getElem?_set_self inside] at found'
          cases found'
          have earlier := recorded.at' found
          cases registers with
          | before here there => simp [earlier, here, there]
          | spared here there unassigned => simp [earlier, here, unassigned]
          | @done address here there =>
            constructor
            · simp [earlier, here]
            · rintro ⟨_, _, noAdd⟩
              exact absurd (by simp) (noAdd address)
          | missed here there assigned => simp [there, assigned, shape.noAdd here]
          | past here there same noAdd => simp [earlier, here, there, same, noAdd]
        · rw [List.getElem?_set_ne same] at found'
          have elsewhere : miss ≠ some sid := by
            intro missed
            rw [missed] at registers
            cases registers
            exact same rfl
          simpa [silent sid (Ne.symm same), elsewhere] using recorded.at' found'
      · intro sid found'
        rw [sessions, List.getElem?_eq_none_iff, List.length_set] at found'
        have elsewhere : miss ≠ some sid := by
          intro missed
          rw [missed] at registers
          cases registers
          omega
        simpa [elsewhere] using recorded.absent (List.getElem?_eq_none found')

theorem run_recorded (run : (recorder alloc).system.Run trace control) : Recorded trace control := by
  refine run.invariant ?_ ?_
  · rintro _ rfl
    exact ⟨by simp [recorder], by simp [Missed]⟩
  · rintro trace before _ after run recorded ⟨event, stepped⟩
    obtain ⟨⟨after, observation⟩, stepped', same⟩ := Option.map_eq_some_iff.mp stepped
    cases same
    exact recorded_preserved (run_told (recorder_run run)) recorded stepped'

/-- No entry at all, or an add entry and then the remove entry for the same
address. -/
def Paired (pushed : List Act) : Prop :=
  pushed = [] ∨ ∃ a, pushed = [.pushAdd a, .pushRemove a]

/-- Paired so far: an add entry may still be without its remove entry. -/
def PairedSoFar (pushed : List Act) : Prop :=
  Paired pushed ∨ ∃ a, pushed = [.pushAdd a]

/-- What a session may have pushed, and what that says about its registration. -/
theorem run_pushes (run : (recorder alloc).system.Run trace control)
    (at' : control.sessions[sid]? = some session) :
    (¬ Missed sid trace ∧ PairedSoFar (pushes sid trace) ∧
      (session.pc = .ended → Paired (pushes sid trace))) ∨
    (Missed sid trace ∧ (session.pc = .ended → ∃ a, pushes sid trace = [.pushRemove a])) := by
  have shape := (run_told (recorder_run run)).at' at'
  have recorded := (run_recorded run).at' at'
  simp only [Session.PastRegistration] at recorded
  cases pc : session.pc <;> simp only [pc, reduceCtorEq, or_false, or_true, true_and, false_and,
    or_self] at recorded <;> simp only [Shape, pc] at shape
  case handshake | denied => simp [recorded, pushes, shape, Paired, PairedSoFar]
  case obtaining => simp [recorded, pushes, shape, Paired, PairedSoFar]
  case sendingIp | registering =>
    obtain ⟨_, _, _, done⟩ := shape
    simp [recorded, pushes, done, Paired, PairedSoFar]
  case refused =>
    obtain ⟨_, assigned, _, done⟩ := shape
    simp [recorded, assigned, done]
  case exchanging =>
    obtain ⟨_, assigned, _, done⟩ := shape
    simp [recorded, pushes, assigned, done, Paired, PairedSoFar]
  case unregistering =>
    obtain ⟨_, assigned, _, done | done⟩ := shape <;>
      simp [recorded, pushes, assigned, done, Paired, PairedSoFar]
  case erasing =>
    obtain ⟨_, _, assigned, rfl | rfl, done⟩ := shape <;>
      simp [recorded, pushes, assigned, done, Paired, PairedSoFar]
  case ended =>
    obtain ⟨unassigned, done⟩ | ⟨_, _, _, assigned, rfl | rfl, rfl | rfl, done⟩ := shape <;>
      simp [pushes, *, Paired, PairedSoFar]

/-- **Register and unregister.** In every run, what a session that has come to
its end has pushed is paired exactly if it did not fail between `getNewAddress`
and its add entry; and as long as it has not failed there it has pushed nothing
else on its way. -/
theorem pushes_paired_iff (run : (recorder alloc).system.Run trace control)
    (at' : control.sessions[sid]? = some session) :
    (session.pc = .ended → (Paired (pushes sid trace) ↔ ¬ Missed sid trace)) ∧
    (¬ Missed sid trace → PairedSoFar (pushes sid trace)) := by
  rcases run_pushes run at' with ⟨clean, so_far, paired⟩ | ⟨missed, stray⟩
  · exact ⟨fun ended => iff_of_true (paired ended) clean, fun _ => so_far⟩
  · refine ⟨?_, fun clean => absurd missed clean⟩
    intro ended
    obtain ⟨a, pushed⟩ := stray ended
    simp [pushed, missed, Paired]

/-- A session that does all it is meant to do. -/
def wholeSession : List (Event Nat) :=
  [.accept, .resume 0 (.authenticated true), .resume 0 (.picks 1), .resume 0 .returns,
    .resume 0 .returns, .resume 0 .returns, .resume 0 .returns, .resume 0 .returns]

theorem pushes_paired_whole_session :
    ∃ trace control, (recorder codeAllocator).system.Run trace control ∧ Paired (pushes 0 trace) := by
  have run := Machine.replay_run
    (show (recorder codeAllocator).replay {} wholeSession = _ from rfl)
  refine ⟨_, _, run, ((pushes_paired_iff run rfl).1 rfl).mpr ?_⟩
  unfold Missed
  decide

/-- A session for which `sendIp` throws, to its end. -/
def unsentSession : List (Event Nat) :=
  [.accept, .resume 0 (.authenticated true), .resume 0 (.picks 1), .resume 0 .throws,
    .resume 0 .returns, .resume 0 .returns]

/-- It pushes a remove entry for an address it has pushed no add entry for. -/
theorem pushes_stray_remove :
    ∃ trace control, ∃ session : Session, (recorder codeAllocator).system.Run trace control ∧
      control.sessions[0]? = some session ∧ session.pc = .ended ∧
      pushes 0 trace = [.pushRemove ⟨0x0A7B0002⟩] ∧ ¬ Paired (pushes 0 trace) := by
  have run := Machine.replay_run
    (show (recorder codeAllocator).replay {} unsentSession = _ from rfl)
  refine ⟨_, _, _, run, rfl, rfl, ?_⟩
  rw [show pushes 0 _ = [.pushRemove ⟨0x0A7B0002⟩] by decide]
  simp [Paired]

end Vpverk.Sessions
