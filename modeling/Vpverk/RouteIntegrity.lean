import Vpverk.AddressOwnership

/-! What the router holds. A route is always its present owner's: that much
survives any interleaving. That an owner always gets its route does not, since
a session that fails before its add entry still pushes a remove entry, and that
remove can meet the add of the next owner of the address. -/
namespace Vpverk.Sessions
open Addresses RouteQueue Transition

variable {Choice : Type} {alloc : Allocator Choice} {control after : Control}
  {observation : Observation} {trace : List Observation} {sid other : Nat}
  {session moved : Session} {a address : AddressV4} {target : Target}

/-! ### Sessions keep their connections -/

/-- No two sessions share a connection, and none has one not yet made. -/
structure Connected (control : Control) : Prop where
  made : ∀ {sid : Nat} {session : Session}, control.sessions[sid]? = some session →
    session.connection < control.allocated
  own : ∀ {sid other : Nat} {session session' : Session}, control.sessions[sid]? = some session →
    control.sessions[other]? = some session' → session.connection = session'.connection →
    sid = other

private theorem connected_put (connected : Connected control)
    (at' : control.sessions[sid]? = some session)
    (sessions : after.sessions = control.sessions.set sid moved)
    (same : moved.connection = session.connection) (grows : control.allocated ≤ after.allocated) :
    Connected after := by
  have before : ∀ {other : Nat} {session' : Session}, after.sessions[other]? = some session' →
      ∃ earlier, control.sessions[other]? = some earlier ∧
        earlier.connection = session'.connection := by
    intro other session' found
    rw [sessions, List.getElem?_set] at found
    split at found
    · rename_i here
      subst here
      split at found
      · cases found
        exact ⟨session, at', same.symm⟩
      · cases found
    · exact ⟨session', found, rfl⟩
  constructor
  · intro other session' found
    obtain ⟨earlier, found, kept⟩ := before found
    exact kept ▸ Nat.lt_of_lt_of_le (connected.made found) grows
  · intro first second session' session'' found found' shared
    obtain ⟨earlier, found, kept⟩ := before found
    obtain ⟨earlier', found', kept'⟩ := before found'
    exact connected.own found found' (kept.trans (shared.trans kept'.symm))

theorem connected_preserved (connected : Connected control)
    (effect : Effect alloc control after observation) : Connected after := by
  cases effect with
  | accepted =>
    have before : ∀ {sid : Nat} {session : Session},
        (control.sessions ++ [{ connection := control.allocated }])[sid]? = some session →
        control.sessions[sid]? = some session ∨
          (sid = control.sessions.length ∧ session.connection = control.allocated) := by
      intro sid session found
      rcases Nat.lt_or_ge sid control.sessions.length with inside | outside
      · rw [List.getElem?_append_left inside] at found
        exact .inl found
      · rw [List.getElem?_append_right outside] at found
        have last := (List.getElem?_eq_some_iff.mp found).1
        rw [List.length_singleton] at last
        rw [List.mem_singleton.mp (List.mem_of_getElem? found)]
        exact .inr ⟨by omega, rfl⟩
    constructor
    · intro sid session found
      rcases before found with earlier | ⟨_, new⟩
      · exact Nat.lt_succ_of_lt (connected.made earlier)
      · simp [new]
    · intro sid other session session' found found' shared
      rcases before found with earlier | ⟨here, new⟩ <;>
        rcases before found' with earlier' | ⟨here', new'⟩
      · exact connected.own earlier earlier' shared
      · exact absurd (connected.made earlier) (by simp [shared, new'])
      · exact absurd (connected.made earlier') (by simp [← shared, new])
      · exact here.trans here'.symm
  | moved at' move grows => exact connected_put connected at' rfl move.connection grows
  | waited => exact connected
  | emptied => exact ⟨connected.made, connected.own⟩
  | obtained at' | pushedAdd at' | pushedRemove at' | erased at' | eraseThrew at' =>
    exact connected_put connected at' rfl rfl (Nat.le_refl _)

theorem run_connected (run : (system alloc).Run trace control) : Connected control := by
  refine run.reachable ?_ ?_
  · rintro _ rfl
    exact ⟨by simp [machine], by simp [machine]⟩
  · rintro _ _ _ connected ⟨_, stepped⟩
    exact connected_preserved connected (step_effect stepped)

/-! ### What the router will hold -/

/-- What the entries in the queue ask of the slot of an address. -/
def Control.pending (control : Control) (a : AddressV4) : List (Option Target) :=
  requestsAt a control.tunQueue.entries

/-- What the address is to be routed to when every entry has its way. -/
def Control.wants (control : Control) (a : AddressV4) : Option Target :=
  Slot.wanted (control.tunRouter.lookup a) (control.pending a)

/-- A session that may stand behind a route. -/
structure Behind (trace : List Observation) (control : Control) (a : AddressV4) (target : Target)
    (sid : Nat) (session : Session) : Prop where
  at' : control.sessions[sid]? = some session
  assigned : session.assignedAddress = some a
  keyed : session.aes.isSome
  target : target = (session.connection, session.aes)
  registered : Registered trace sid a

/-- The invariant of the router and its queue: an address is to be routed
exactly when a session is registered for it, to that session; and no add entry
stands behind another that has not been removed. -/
structure Routed (trace : List Observation) (control : Control) : Prop where
  noClash : ∀ a, Slot.NoClash (control.tunRouter.lookup a).isSome (control.pending a)
  behind : ∀ {a target}, control.wants a = some target →
    ∃ sid session, Behind trace control a target sid session

/-- Two registered sessions with one address are one session. -/
theorem Owned.registered_distinct (owned : Owned trace control) (told : Told trace control)
    (first : Registered trace sid a) (second : Registered trace other a) : sid = other :=
  owned.distinct (told.registered_holds first) (told.registered_holds second)

/-- A registered session keeps its connection, its address and its AES session. -/
theorem registered_kept (told : Told trace control) (registered : Registered trace sid a)
    (at' : control.sessions[sid]? = some session)
    (effect : Effect alloc control after observation) :
    ∃ session', after.sessions[sid]? = some session' ∧ session'.connection = session.connection ∧
      session'.assignedAddress = session.assignedAddress ∧ session'.aes = session.aes := by
  have inside := (List.getElem?_eq_some_iff.mp at').1
  obtain ⟨pc, -⟩ := told.registered_shape registered at'
  have put : ∀ {other : Nat} {moved moved' : Session} {sessions : List Session},
      control.sessions[other]? = some moved → sessions = control.sessions.set other moved' →
      (moved.pc = .exchanging ∨ moved.pc = .unregistering → moved'.connection = moved.connection ∧
        moved'.assignedAddress = moved.assignedAddress ∧ moved'.aes = moved.aes) →
      ∃ session', sessions[sid]? = some session' ∧ session'.connection = session.connection ∧
        session'.assignedAddress = session.assignedAddress ∧ session'.aes = session.aes := by
    rintro other moved moved' _ found rfl kept
    by_cases same : other = sid
    · subst same
      obtain rfl : session = moved := by simpa [at'] using found
      exact ⟨moved', List.getElem?_set_self inside, kept pc⟩
    · exact ⟨session, by rw [List.getElem?_set_ne same, at'], rfl, rfl, rfl⟩
  cases effect with
  | accepted => exact ⟨session, by rw [List.getElem?_append_left inside, at'], rfl, rfl, rfl⟩
  | moved found move =>
    exact put found rfl fun pc => ⟨move.connection, move.assignedAddress,
      move.aes (by rcases pc with pc | pc <;> simp [pc])⟩
  | waited | emptied => exact ⟨session, at', rfl, rfl, rfl⟩
  | obtained found pc => exact put found rfl (by simp [pc])
  | pushedAdd found | pushedRemove found | erased found | eraseThrew found =>
    exact put found rfl fun _ => ⟨rfl, rfl, rfl⟩

/-- What stands behind a route goes on standing behind it while it is registered. -/
private theorem behind_kept (told : Told trace control)
    (behind : Behind trace control a target sid session)
    (effect : Effect alloc control after observation)
    (registered : Registered (trace ++ [observation]) sid a) :
    ∃ sid session, Behind (trace ++ [observation]) after a target sid session := by
  obtain ⟨session', at', connection, assigned, aes⟩ :=
    registered_kept told behind.registered behind.at' effect
  exact ⟨sid, session', at', assigned.trans behind.assigned, aes ▸ behind.keyed,
    by rw [connection, aes]; exact behind.target, registered⟩

/-- Only its own remove entry ends a registration. -/
private theorem registered_snoc (registered : Registered trace sid a)
    (notRemove : .pushRemove a ∉ observation.shows sid) :
    Registered (trace ++ [observation]) sid a := by
  simpa [Registered, notRemove] using ⟨.inl registered.1, registered.2⟩

private theorem routed_still (told : Told trace control) (routed : Routed trace control)
    (effect : Effect alloc control after observation)
    (tunRouter : after.tunRouter = control.tunRouter) (tunQueue : after.tunQueue = control.tunQueue)
    (notRemove : ∀ sid a, .pushRemove a ∉ observation.shows sid) :
    Routed (trace ++ [observation]) after := by
  have pending : ∀ a, after.pending a = control.pending a := by simp [Control.pending, tunQueue]
  constructor
  · intro a
    rw [tunRouter, pending]
    exact routed.noClash a
  · intro a target wants
    rw [Control.wants, tunRouter, pending] at wants
    obtain ⟨sid, session, behind⟩ := routed.behind wants
    exact behind_kept told behind effect (registered_snoc behind.registered (notRemove sid a))

/-- The entry has been accepted and nothing else of the router has changed. -/
structure Pushed (control after : Control) (route : Route) : Prop where
  tunRouter : after.tunRouter = control.tunRouter
  entries : after.tunQueue.entries = control.tunQueue.entries ++ [route]

namespace Pushed
variable {route : Route}

/-- A session pushes the entry and moves on. -/
theorem put (sid : Nat) (session : Session) {tunQueue : RoutesQueue}
    (pushed : control.tunQueue.tryPush route = some tunQueue) :
    Pushed control { control.put sid session with tunQueue := tunQueue } route :=
  ⟨rfl, RoutesQueue.tryPush_entries pushed⟩

/-- The entry is the last request for its address. -/
theorem pending_same (pushed : Pushed control after route) :
    after.pending route.addr = control.pending route.addr ++
      [if route.addOrRemove then some (route.con, route.aes) else none] := by
  rw [Control.pending, pushed.entries, requestsAt_append, requestsAt_same [] rfl, requestsAt_nil,
    Control.pending]

/-- It asks nothing of the other addresses. -/
theorem pending_other (pushed : Pushed control after route) (other : route.addr ≠ a) :
    after.pending a = control.pending a := by
  rw [Control.pending, pushed.entries, requestsAt_append, requestsAt_other [] other, requestsAt_nil,
    List.append_nil, Control.pending]

/-- It has its way at its address. -/
theorem wants_same (pushed : Pushed control after route) :
    after.wants route.addr = if route.addOrRemove then some (route.con, route.aes) else none := by
  rw [Control.wants, pushed.pending_same, Slot.wanted_append_singleton]

theorem wants_other (pushed : Pushed control after route) (other : route.addr ≠ a) :
    after.wants a = control.wants a := by
  rw [Control.wants, pushed.tunRouter, pushed.pending_other other, Control.wants]

end Pushed

/-- An address nobody is registered for is not to be routed. -/
theorem Routed.wants_none (routed : Routed trace control)
    (nobody : ∀ sid, ¬ Registered trace sid a) : control.wants a = none := by
  cases wants : control.wants a with
  | none => rfl
  | some target =>
    obtain ⟨sid, session, behind⟩ := routed.behind wants
    exact absurd behind.registered (nobody sid)

/-- Nobody is registered for the address of a session that is about to register. -/
theorem registering_alone (told : Told trace control) (owned : Owned trace control)
    (at' : control.sessions[sid]? = some session) (pc : session.pc = .registering)
    (assigned : session.assignedAddress = some a) (other : Nat) : ¬ Registered trace other a := by
  intro registered
  have shape := told.at' at'
  simp only [Shape, pc, assigned] at shape
  obtain ⟨_, same, _, done⟩ := shape
  cases same
  have holds : Holds trace sid a := by simp [Holds, done]
  obtain rfl := owned.distinct holds (told.registered_holds registered)
  simp [Registered, done] at registered

/-- What `emptyQueue` leaves at an address. -/
theorem Routed.emptied_at (routed : Routed trace control) {result : Emptied}
    (ended : emptyQueue control.tunRouter control.tunQueue = some result) :
    result.tunRouter.lookup a =
      if Slot.unmatched (control.tunRouter.lookup a).isSome (control.pending a) = 0 then
        control.wants a
      else none :=
  emptyQueue_at (routed.noClash a) ended

/-- A remove entry, or an add entry for an address that is not to be routed,
keeps the router and its queue as they should be. -/
private theorem routed_pushed {route : Route} (told : Told trace control)
    (routed : Routed trace control) (effect : Effect alloc control after observation)
    (pushed : Pushed control after route)
    (vacant : route.addOrRemove → control.wants route.addr = none)
    (target : ∀ target, after.wants route.addr = some target →
      ∃ sid session, Behind (trace ++ [observation]) after route.addr target sid session)
    (elsewhere : ∀ sid a, route.addr ≠ a → .pushRemove a ∉ observation.shows sid) :
    Routed (trace ++ [observation]) after := by
  constructor
  · intro a
    rw [pushed.tunRouter]
    by_cases here : route.addr = a
    · subst here
      rw [pushed.pending_same, Slot.noClash_append_singleton]
      exact ⟨routed.noClash _, fun add => vacant (by simpa using add)⟩
    · rw [pushed.pending_other here]
      exact routed.noClash a
  · intro a wanted wants
    by_cases here : route.addr = a
    · subst here
      exact target wanted wants
    · rw [pushed.wants_other here] at wants
      obtain ⟨sid, session, behind⟩ := routed.behind wants
      exact behind_kept told behind effect (registered_snoc behind.registered (elsewhere sid a here))

theorem routed_preserved (told : Told trace control) (owned : Owned trace control)
    (routed : Routed trace control) (effect : Effect alloc control after observation) :
    Routed (trace ++ [observation]) after := by
  have effect' := effect
  cases effect with
  | accepted | moved | waited =>
    exact routed_still told routed effect' rfl rfl (by simp)
  | obtained | erased | eraseThrew =>
    apply routed_still told routed effect' rfl rfl
    intro other a
    simp only [Observation.shows]
    split <;> simp
  | @emptied result ended =>
    constructor
    · intro a
      simp [Control.pending, Slot.NoClash]
    · intro a target wants
      have lookup : result.tunRouter.lookup a = some target := by
        simpa [Control.wants, Control.pending] using wants
      rw [routed.emptied_at ended] at lookup
      split at lookup
      · obtain ⟨sid, session, behind⟩ := routed.behind lookup
        exact behind_kept told behind effect' (registered_snoc behind.registered (by simp))
      · cases lookup
  | @pushedAdd sid session address tunQueue at' pc assigned pushed =>
    have entered := Pushed.put sid { session with pc := .exchanging } pushed
    refine routed_pushed told routed effect' entered
      (fun _ => routed.wants_none (registering_alone told owned at' pc assigned)) ?_ ?_
    · intro target wants
      rw [entered.wants_same] at wants
      have shape := told.at' at'
      simp only [Shape, pc, assigned] at shape
      obtain ⟨_, mine, keyed, done⟩ := shape
      cases mine
      refine ⟨sid, { session with pc := .exchanging }, ?_, assigned, keyed, ?_, ?_⟩
      · exact List.getElem?_set_self (List.getElem?_eq_some_iff.mp at').1
      · simpa using wants.symm
      · simp [Registered, done]
    · intro other a _
      simp only [Observation.shows]
      split <;> simp
  | @pushedRemove sid session address tunQueue at' pc assigned pushed =>
    have entered := Pushed.put sid { session with pc := .erasing } pushed
    refine routed_pushed told routed effect' entered (by simp) ?_ ?_
    · intro target wants
      rw [entered.wants_same] at wants
      cases wants
    · intro other a here
      by_cases mine : sid = other
      · simpa [mine] using Ne.symm here
      · simp [shows_other _ mine]

theorem run_routed (run : (system alloc).Run trace control) : Routed trace control := by
  refine run.invariant ?_ ?_
  · rintro _ rfl
    exact ⟨by simp [machine, Control.pending, Slot.NoClash],
      by simp [machine, Control.wants, Control.pending]⟩
  · rintro _ _ _ _ run routed ⟨_, stepped⟩
    exact routed_preserved (run_told run) (run_owned run) routed (step_effect stepped)

/-- **No misrouting.** At the end of every `emptyQueue` of every run, whatever is
in the router belongs to the one session that owns the connection: it was given
the address before anyone else who has it since, its add entry has been accepted
and its remove entry has not, and the AES session is its own. -/
theorem no_misrouting {con : Ptr} {aes : Option Ptr}
    (run : (system codeAllocator).Run trace control)
    (emptied : (system codeAllocator).step control .emptied after)
    (found : after.tunRouter.lookup a = some (con, aes)) :
    ∃ sid session, after.sessions[sid]? = some session ∧ session.connection = con ∧
      (∀ other session', after.sessions[other]? = some session' → session'.connection = con →
        other = sid) ∧
      session.assignedAddress = some a ∧ session.aes = aes ∧ aes.isSome ∧
      .obtain a ∈ acts sid trace ∧ .pushAdd a ∈ acts sid trace ∧
      .pushRemove a ∉ acts sid trace ∧
      ∀ earlier later, trace = earlier ++ .act sid (.obtain a) :: later →
        ∀ other, .act other (.obtain a) ∉ later := by
  have next := run.next emptied
  have wants : after.wants a = some (con, aes) := by
    obtain ⟨event, stepped⟩ := emptied
    cases step_effect stepped with
    | emptied => simpa [Control.wants, Control.pending] using found
  obtain ⟨sid, session, behind⟩ := (run_routed next).behind wants
  have registered : Registered trace sid a := by
    simpa [Registered] using behind.registered
  have holds := (run_told run).registered_holds registered
  obtain ⟨rfl, rfl⟩ := Prod.mk.inj behind.target
  exact ⟨sid, session, behind.at', rfl,
    fun other session' at' shared => (run_connected next).own at' behind.at' shared,
    behind.assigned, rfl, behind.keyed, holds.1, registered.1, registered.2,
    (run_owned run).latest holds⟩

/-- A session that gets as far as its data exchange. -/
def registeringSession : List (Event Nat) :=
  [.accept, .resume 0 (.authenticated true), .resume 0 (.picks 1), .resume 0 .returns,
    .resume 0 .returns]

theorem no_misrouting_one_session :
    ∃ trace control after, (system codeAllocator).Run trace control ∧
      (system codeAllocator).step control .emptied after ∧
      ∃ sid session, after.sessions[sid]? = some session ∧ session.connection = 0 ∧
        .pushAdd ⟨0x0A7B0002⟩ ∈ acts sid trace := by
  obtain ⟨trace, control, run, after, emptied, found⟩ :
      ∃ trace control, (system codeAllocator).Run trace control ∧
        ∃ after, (system codeAllocator).step control .emptied after ∧
          after.tunRouter.lookup ⟨0x0A7B0002⟩ = some (0, some 1) :=
    ⟨_, _, Machine.replay_run
      (show (machine codeAllocator).replay {} registeringSession = _ from rfl),
      _, ⟨.emptyQueue, rfl⟩, rfl⟩
  obtain ⟨sid, session, at', owns, _, _, _, _, _, added, _⟩ := no_misrouting run emptied found
  exact ⟨trace, control, after, run, emptied, sid, session, at', owns, added⟩

end Vpverk.Sessions
