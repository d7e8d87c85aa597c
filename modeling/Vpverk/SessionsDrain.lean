import Vpverk.RouteIntegrity

/-! What sessions leave behind. A session that has ended has no route and, but for an
erase that threw, no address, whichever way it ended and whoever was overtaken on the way;
and there is no state from which the server cannot be rid of all its sessions. -/
namespace Vpverk.Sessions
open Addresses RouteQueue Transition

variable {Choice : Type} {alloc : Allocator Choice} {control after : Control}
  {trace : List Observation} {sid : Nat} {session : Session} {a : AddressV4} {target : Target}
  {result : Emptied}

/-! ### Routes and addresses end with their sessions -/

/-- Behind a route that `emptyQueue` leaves is a session that has not pushed its remove
entry yet. -/
theorem emptied_live (run : (system alloc).Run trace control)
    (ended : emptyQueue control.tunRouter control.tunQueue = some result)
    (found : result.tunRouter.lookup a = some target) :
    ∃ session ∈ control.sessions, session.pc = .exchanging ∨ session.pc = .unregistering := by
  have told := run_told run
  have routed := run_routed run
  rw [routed.emptied_at ended] at found
  split at found
  · obtain ⟨sid, session, behind⟩ := routed.behind found
    exact ⟨session, List.mem_of_getElem? behind.at', (told.registered_shape behind.registered behind.at').1⟩
  · cases found

/-- An ended session that holds an address had its erase throw. -/
theorem Told.ended_holds (told : Told trace control) (at' : control.sessions[sid]? = some session)
    (pc : session.pc = .ended) (holds : Holds trace sid a) : .eraseThrew a ∈ acts sid trace := by
  have shape := told.at' at'
  simp only [Shape, pc] at shape
  obtain ⟨obtained, notErased⟩ := holds
  obtain ⟨_, done⟩ | ⟨_, _, _, _, rfl | rfl, rfl | rfl, done⟩ := shape <;> simp_all

/-- Every session has ended. -/
def Over (control : Control) : Prop := ∀ session ∈ control.sessions, session.pc = .ended

theorem Over.unrouted (finished : Over control) (run : (system alloc).Run trace control)
    (ended : emptyQueue control.tunRouter control.tunQueue = some result) (a : AddressV4) :
    a ∉ result.tunRouter := by
  intro routed
  obtain ⟨target, found⟩ := Option.isSome_iff_exists.mp (AList.lookup_isSome.mpr routed)
  obtain ⟨session, member, live⟩ := emptied_live run ended found
  simp [finished session member] at live

theorem Over.threw (finished : Over control) (run : (system alloc).Run trace control)
    (taken : a ∈ control.pool.uniqueAddressSet) : ∃ sid, .eraseThrew a ∈ acts sid trace := by
  obtain ⟨sid, holds⟩ := ((run_owned run).taken a).mp taken
  have told := run_told run
  cases at' : control.sessions[sid]? with
  | none => simp [Holds, told.absent at'] at holds
  | some session => exact ⟨sid, told.ended_holds at' (finished session (List.mem_of_getElem? at')) holds⟩

/-- **Nothing outlives the sessions.** In every run, however the sessions were interleaved,
wherever they failed and whoever's route was taken by another's remove entry: once all of
them have ended and the queue is emptied, nothing is in `tunRouter`, and an address is still
in use only where its erase threw. -/
theorem sessions_leave_nothing (run : (system alloc).Run trace control) (finished : Over control) :
    ∃ result, emptyQueue control.tunRouter control.tunQueue = some result ∧
      (∀ a, a ∉ result.tunRouter) ∧
      ∀ a ∈ control.pool.uniqueAddressSet, ∃ sid, .eraseThrew a ∈ acts sid trace := by
  obtain ⟨result, ended⟩ := emptyQueue_returns control.tunRouter control.tunQueue
  exact ⟨result, ended, finished.unrouted run ended, fun _ taken => finished.threw run taken⟩

/-- The session that fails in `sendIp`. Its remove entry is still in the queue. -/
theorem sessions_leave_nothing_failing_session :
    ∃ trace control, (system codeAllocator).Run trace control ∧ control.tunQueue.entries ≠ [] ∧
      ∃ result, emptyQueue control.tunRouter control.tunQueue = some result ∧
        ⟨0x0A7B0002⟩ ∉ result.tunRouter := by
  have run := Machine.replay_run (show (machine codeAllocator).replay {} failingSession = _ from rfl)
  obtain ⟨result, ended, unrouted, _⟩ := sessions_leave_nothing run (fun session member => by
    rw [List.mem_singleton.mp member])
  exact ⟨_, _, run, by decide, result, ended, unrouted _⟩

/-! ### Every session can be ended -/

/-- The session has gone on to its end, by steps in which no erase threw, and the others
stand where they stood. -/
def Ends (alloc : Allocator Choice) (control : Control) (sid : Nat) : Prop :=
  ∃ later after session, (system alloc).Steps control later after ∧
    after.sessions = control.sessions.set sid session ∧ session.pc = .ended ∧
    ∀ owner a, .act owner (.eraseThrew a) ∉ later

/-- The queue is emptied, the remove entry is pushed and the address erased. -/
theorem unregistering_ends (alloc : Allocator Choice) (at' : control.sessions[sid]? = some session)
    (pc : session.pc = .unregistering) (assigned : session.assignedAddress = some a) :
    Ends alloc control sid := by
  obtain ⟨_, con, aes, _⟩ := session
  obtain rfl : _ = Pc.unregistering := pc
  obtain rfl : _ = some a := assigned
  have inside : sid < control.sessions.length := (List.getElem?_eq_some_iff.mp at').1
  obtain ⟨result, ended⟩ := emptyQueue_returns control.tunRouter control.tunQueue
  obtain ⟨tunQueue, fits⟩ :
      ∃ tunQueue, ({} : RoutesQueue).tryPush ⟨false, a, con, none⟩ = some tunQueue := ⟨_, rfl⟩
  let emptied : Control := { control with tunRouter := result.tunRouter, tunQueue := {} }
  let pushed : Control := { emptied.put sid ⟨.erasing, con, aes, some a⟩ with tunQueue := tunQueue }
  let erased : Control := { pushed.put sid ⟨.ended, con, aes, some a⟩ with pool := pushed.pool.release a }
  have empties : (system alloc).step control .emptied emptied :=
    ⟨.emptyQueue, by simp only [machine, step, ended, emptied]⟩
  have pushes : (system alloc).step emptied (.act sid (.pushRemove a)) pushed :=
    ⟨.resume sid .returns, by simp only [machine, step, emptied, at', startConnection, fits, pushed]⟩
  have at'' : pushed.sessions[sid]? = some ⟨.erasing, con, aes, some a⟩ :=
    List.getElem?_set_self inside
  have erases : (system alloc).step pushed (.act sid (.erase a)) erased :=
    ⟨.resume sid .returns, by simp only [machine, step, at'', startConnection, erased]⟩
  refine ⟨_, erased, ⟨.ended, con, aes, some a⟩,
    ((System.Steps.next .refl empties).next pushes).next erases, ?_, rfl, by simp⟩
  simp [erased, pushed, emptied, Control.put]

/-- What is left to do after one more step. -/
theorem Ends.behind {mid : Control} {moved : Session} (first : (system alloc).step control .quiet mid)
    (sessions : mid.sessions = control.sessions.set sid moved) (ends : Ends alloc mid sid) :
    Ends alloc control sid := by
  obtain ⟨later, after, session, steps, stand, pc, threw⟩ := ends
  refine ⟨_, after, session, (System.Steps.next .refl first).trans steps, ?_, pc, by simpa using threw⟩
  rw [stand, sessions, List.set_set]

/-- Whatever a session is at, it may throw; then it is about to unregister, or over. -/
theorem session_ends (told : Told trace control) (at' : control.sessions[sid]? = some session) :
    Ends alloc control sid := by
  have shape := told.at' at'
  have inside : sid < control.sessions.length := (List.getElem?_eq_some_iff.mp at').1
  have leaves : startConnection alloc control sid session .throws =
      some (control.put sid { session with pc := session.leaveTry }, .quiet) →
      Ends alloc control sid := by
    intro throws
    have first : (system alloc).step control .quiet (control.put sid { session with pc := session.leaveTry }) :=
      ⟨.resume sid .throws, by simp only [machine, step, at', throws]⟩
    cases assigned : session.assignedAddress with
    | none =>
      exact ⟨_, _, _, System.Steps.next .refl first, rfl, by simp [Session.leaveTry, assigned], by simp⟩
    | some a =>
      refine Ends.behind first rfl (unregistering_ends alloc (List.getElem?_set_self inside) ?_ assigned)
      simp [Session.leaveTry, assigned]
  cases pc : session.pc with
  | ended =>
    have same : control.sessions = control.sessions.set sid session := by
      obtain ⟨_, rfl⟩ := List.getElem?_eq_some_iff.mp at'
      simp
    exact ⟨[], control, session, .refl, same, pc, by simp⟩
  | unregistering =>
    simp only [Shape, pc] at shape
    obtain ⟨a, assigned, _⟩ := shape
    exact unregistering_ends alloc at' pc assigned
  | erasing =>
    simp only [Shape, pc] at shape
    obtain ⟨a, _, assigned, _⟩ := shape
    have erases : (system alloc).step control (.act sid (.erase a))
        { control.put sid { session with pc := .ended } with pool := control.pool.release a } :=
      ⟨.resume sid .returns, by simp only [machine, step, at', startConnection, pc, assigned]⟩
    exact ⟨_, _, _, System.Steps.next .refl erases, rfl, rfl, by simp⟩
  | _ => exact leaves (by simp only [startConnection, pc])

/-- Some of the sessions have been ended, one after another. -/
private theorem sessions_end (run : (system alloc).Run trace control) (count : Nat) :
    ∃ later after, (system alloc).Steps control later after ∧
      after.sessions.length = control.sessions.length ∧
      (∀ sid < count, ∀ session, after.sessions[sid]? = some session → session.pc = .ended) ∧
      ∀ owner a, .act owner (.eraseThrew a) ∉ later := by
  induction count with
  | zero => exact ⟨[], control, .refl, rfl, by simp, by simp⟩
  | succ count ih =>
    obtain ⟨later, mid, steps, length, finished, threw⟩ := ih
    cases at' : mid.sessions[count]? with
    | none =>
      refine ⟨later, mid, steps, length, fun sid inside session stands => ?_, threw⟩
      rcases Nat.lt_succ_iff_lt_or_eq.mp inside with earlier | rfl
      · exact finished sid earlier session stands
      · cases at'.symm.trans stands
    | some session =>
      have ends : Ends alloc mid count := session_ends (run_told (run.extend steps)) at'
      obtain ⟨more, after, session', steps', sessions, pc, threw'⟩ := ends
      refine ⟨later ++ more, after, steps.trans steps', by simp [sessions, length], ?_, ?_⟩
      · intro sid inside session stands
        rw [sessions, List.getElem?_set] at stands
        split at stands
        · split at stands <;> cases stands
          exact pc
        · exact finished sid (by omega) session stands
      · intro owner a
        simp [threw owner a, threw' owner a]

/-- **The server can always be rid of its sessions.** From every state that a run reaches
there is a way on, with no erase throwing on it, to one in which every session has ended, the
route queue and `tunRouter` are empty, and no address is in use but those whose erase threw
before. -/
theorem sessions_can_end (run : (system alloc).Run trace control) :
    ∃ later after, (system alloc).Steps control later after ∧
      (∀ owner a, .act owner (.eraseThrew a) ∉ later) ∧ Over after ∧ after.tunQueue = {} ∧
      (∀ a, a ∉ after.tunRouter) ∧
      ∀ a ∈ after.pool.uniqueAddressSet, ∃ sid, .eraseThrew a ∈ acts sid trace := by
  obtain ⟨later, mid, steps, length, ended, threw⟩ := sessions_end run control.sessions.length
  have finished : Over mid := by
    intro session member
    obtain ⟨sid, stands⟩ := List.mem_iff_getElem?.mp member
    obtain ⟨inside, _⟩ := List.getElem?_eq_some_iff.mp stands
    exact ended sid (length ▸ inside) session stands
  have run' := run.extend steps
  obtain ⟨result, emptied⟩ := emptyQueue_returns mid.tunRouter mid.tunQueue
  have empties : (system alloc).step mid .emptied
      { mid with tunRouter := result.tunRouter, tunQueue := {} } :=
    ⟨.emptyQueue, by simp only [machine, step, emptied]⟩
  refine ⟨_, _, steps.next empties, fun owner a => by simp [threw owner a], finished, rfl,
    finished.unrouted run' emptied, fun a taken => ?_⟩
  obtain ⟨sid, threw'⟩ := finished.threw run' taken
  rw [acts_append, List.mem_append] at threw'
  exact ⟨sid, threw'.resolve_right fun late => threw sid a (mem_acts.mp late)⟩

/-- From the data exchange of a session. -/
theorem sessions_can_end_exchanging :
    ∃ control later after, (system codeAllocator).Steps control later after ∧
      control.pool.uniqueAddressSet = {⟨0x0A7B0002⟩} ∧
        .act 0 (.eraseThrew ⟨0x0A7B0002⟩) ∉ later ∧ Over after ∧ ⟨0x0A7B0002⟩ ∉ after.tunRouter := by
  have run := Machine.replay_run (show (machine codeAllocator).replay {} registeringSession = _ from rfl)
  obtain ⟨later, after, steps, unthrown, finished, _, unrouted, _⟩ := sessions_can_end run
  exact ⟨_, later, after, steps, rfl, unthrown _ _, finished, unrouted _⟩

end Vpverk.Sessions
