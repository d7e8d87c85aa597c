import Vpverk.Sessions

/-! What a session has done so far is fixed by where it stands, in every run.
The lemmas here turn a step of the session system into its effect on the shared
state, and carry the shape of every session's history through a run. -/
namespace Vpverk.Sessions
open Addresses RouteQueue Transition

variable {Choice : Type} {alloc : Allocator Choice} {control after : Control}
  {observation : Observation} {trace : List Observation} {sid other : Nat}
  {session : Session} {address : AddressV4}

/-- The act an observation shows of one session. -/
def Observation.shows (sid : Nat) : Observation → List Act
  | .act owner done => if owner = sid then [done] else []
  | _ => []

/-- What one session has done, oldest first. -/
def acts (sid : Nat) (trace : List Observation) : List Act := trace.flatMap (·.shows sid)

@[simp] theorem acts_nil : acts sid [] = [] := rfl

theorem acts_append (earlier later : List Observation) :
    acts sid (earlier ++ later) = acts sid earlier ++ acts sid later :=
  List.flatMap_append

@[simp] theorem acts_snoc :
    acts sid (trace ++ [observation]) = acts sid trace ++ observation.shows sid := by
  simp [acts]

@[simp] theorem shows_quiet : Observation.quiet.shows sid = [] := rfl
@[simp] theorem shows_emptied : Observation.emptied.shows sid = [] := rfl
@[simp] theorem shows_self (done : Act) : (Observation.act sid done).shows sid = [done] := if_pos rfl

theorem shows_other (done : Act) (different : other ≠ sid) :
    (Observation.act other done).shows sid = [] :=
  if_neg different

theorem mem_acts {done : Act} : done ∈ acts sid trace ↔ .act sid done ∈ trace := by
  simp only [acts, List.mem_flatMap]
  constructor
  · rintro ⟨observation, member, shown⟩
    cases observation with
    | act owner done' =>
      simp only [Observation.shows] at shown
      split at shown
      · rename_i same
        subst same
        rwa [List.mem_singleton.mp shown]
      · cases shown
    | quiet | emptied => cases shown
  · exact fun member => ⟨_, member, by simp⟩

/-- A session that has an address has obtained it, and may have pushed its add. -/
def Begun (address : AddressV4) (done : List Act) : Prop :=
  done = [.obtain address] ∨ done = [.obtain address, .pushAdd address]

/-- What a session standing at its program counter has done to the shared state. -/
def Shape (session : Session) (done : List Act) : Prop :=
  match session.pc with
  | .handshake | .denied => session.assignedAddress = none ∧ done = []
  | .obtaining => session.assignedAddress = none ∧ done = [] ∧ session.aes.isSome
  | .sendingIp | .registering | .refused =>
    ∃ a, session.assignedAddress = some a ∧ session.aes.isSome ∧ done = [.obtain a]
  | .exchanging =>
    ∃ a, session.assignedAddress = some a ∧ session.aes.isSome ∧ done = [.obtain a, .pushAdd a]
  | .unregistering =>
    ∃ a, session.assignedAddress = some a ∧ session.aes.isSome ∧ Begun a done
  | .erasing =>
    ∃ a begun, session.assignedAddress = some a ∧ Begun a begun ∧ done = begun ++ [.pushRemove a]
  | .ended =>
    (session.assignedAddress = none ∧ done = []) ∨
    ∃ a begun last, session.assignedAddress = some a ∧ Begun a begun ∧
      (last = .erase a ∨ last = .eraseThrew a) ∧ done = begun ++ [.pushRemove a, last]

/-- A move of one session that touches nothing shared. -/
structure Move (before after : Session) : Prop where
  connection : after.connection = before.connection
  assignedAddress : after.assignedAddress = before.assignedAddress
  aes : before.pc ≠ .handshake → after.aes = before.aes
  shape : ∀ done, Shape before done → Shape after done

/-- Everything a step can do. -/
inductive Effect (alloc : Allocator Choice) (control : Control) : Control → Observation → Prop where
  | accepted :
      Effect alloc control { control with
        sessions := control.sessions ++ [{ connection := control.allocated }]
        allocated := control.allocated + 1 } .quiet
  | moved {sid : Nat} {session moved : Session} {allocated : Nat}
      (at' : control.sessions[sid]? = some session)
      (move : Move session moved) (grows : control.allocated ≤ allocated) :
      Effect alloc control { control.put sid moved with allocated := allocated } .quiet
  | waited : Effect alloc control control .quiet
  | obtained {sid : Nat} {session : Session} {choice : Choice} {address : AddressV4}
      {pool : AddressPool} (at' : control.sessions[sid]? = some session)
      (pc : session.pc = .obtaining)
      (picked : alloc.pick choice control.pool = some (address, pool)) :
      Effect alloc control
        { control.put sid { session with pc := .sendingIp, assignedAddress := some address } with
          pool := pool } (.act sid (.obtain address))
  | pushedAdd {sid : Nat} {session : Session} {address : AddressV4} {tunQueue : RoutesQueue}
      (at' : control.sessions[sid]? = some session)
      (pc : session.pc = .registering) (assigned : session.assignedAddress = some address)
      (pushed : control.tunQueue.tryPush ⟨true, address, session.connection, session.aes⟩ =
        some tunQueue) :
      Effect alloc control { control.put sid { session with pc := .exchanging } with
        tunQueue := tunQueue } (.act sid (.pushAdd address))
  | pushedRemove {sid : Nat} {session : Session} {address : AddressV4} {tunQueue : RoutesQueue}
      (at' : control.sessions[sid]? = some session)
      (pc : session.pc = .unregistering) (assigned : session.assignedAddress = some address)
      (pushed : control.tunQueue.tryPush ⟨false, address, session.connection, none⟩ =
        some tunQueue) :
      Effect alloc control { control.put sid { session with pc := .erasing } with
        tunQueue := tunQueue } (.act sid (.pushRemove address))
  | erased {sid : Nat} {session : Session} {address : AddressV4}
      (at' : control.sessions[sid]? = some session)
      (pc : session.pc = .erasing) (assigned : session.assignedAddress = some address) :
      Effect alloc control { control.put sid { session with pc := .ended } with
        pool := control.pool.release address } (.act sid (.erase address))
  | eraseThrew {sid : Nat} {session : Session} {address : AddressV4}
      (at' : control.sessions[sid]? = some session)
      (pc : session.pc = .erasing) (assigned : session.assignedAddress = some address) :
      Effect alloc control (control.put sid { session with pc := .ended })
        (.act sid (.eraseThrew address))
  | emptied {result : Emptied} (ended : emptyQueue control.tunRouter control.tunQueue = some result) :
      Effect alloc control { control with tunRouter := result.tunRouter, tunQueue := {} } .emptied

/-- Leaving the try block touches nothing shared: a session without an address
ends, one with an address goes on to its remove entry. -/
private theorem leaveTry_move (session : Session)
    (leaves : session.pc ≠ .unregistering ∧ session.pc ≠ .erasing ∧ session.pc ≠ .ended) :
    Move session { session with pc := session.leaveTry } where
  connection := rfl
  assignedAddress := rfl
  aes _ := rfl
  shape done held := by
    obtain ⟨pc, connection, aes, assignedAddress⟩ := session
    cases pc <;> simp only [Shape] at held <;> simp at leaves
    case handshake | denied => obtain ⟨rfl, rfl⟩ := held; simp [Shape, Session.leaveTry]
    case obtaining => obtain ⟨rfl, rfl, _⟩ := held; simp [Shape, Session.leaveTry]
    case sendingIp | registering | refused =>
      obtain ⟨a, rfl, keyed, rfl⟩ := held
      simp [Shape, Session.leaveTry, Begun, keyed]
    case exchanging =>
      obtain ⟨a, rfl, keyed, rfl⟩ := held
      simp [Shape, Session.leaveTry, Begun, keyed]

theorem startConnection_effect {answer : Answer Choice}
    (at' : control.sessions[sid]? = some session)
    (stepped : startConnection alloc control sid session answer = some (after, observation)) :
    Effect alloc control after observation := by
  have moves : ∀ moved, Move session moved → Effect alloc control (control.put sid moved) .quiet :=
    fun _ move => .moved at' move (Nat.le_refl control.allocated)
  have stays : ∀ pc, (∀ done, Shape session done → Shape { session with pc := pc } done) →
      Move session { session with pc := pc } := fun pc shape => ⟨rfl, rfl, fun _ => rfl, shape⟩
  have leaves : session.pc ≠ .unregistering ∧ session.pc ≠ .erasing ∧ session.pc ≠ .ended →
      Effect alloc control (control.put sid { session with pc := session.leaveTry }) .quiet :=
    fun leaves => moves _ (leaveTry_move session leaves)
  cases pc : session.pc <;> cases answer <;>
    simp only [startConnection, pc, reduceCtorEq, Option.some.injEq, Prod.mk.injEq] at stepped
  case handshake.throws | denied.throws | obtaining.throws | sendingIp.throws |
      registering.throws | refused.throws | refused.returns | exchanging.throws |
      exchanging.returns =>
    obtain ⟨rfl, rfl⟩ := stepped
    exact leaves (by simp [pc])
  case handshake.authenticated allowed =>
    cases allowed <;> simp only [Option.some.injEq, Prod.mk.injEq] at stepped <;>
      obtain ⟨rfl, rfl⟩ := stepped
    case true =>
      refine .moved at' ⟨rfl, rfl, fun started => absurd pc started, fun done held => ?_⟩
        (Nat.le_succ _)
      simpa [Shape, pc] using held
    case false => exact moves _ (stays _ fun done held => by simpa [Shape, pc] using held)
  case denied.returns =>
    obtain ⟨rfl, rfl⟩ := stepped
    exact moves _ (stays _ fun done held => .inl (by simpa [Shape, pc] using held))
  case sendingIp.returns =>
    obtain ⟨rfl, rfl⟩ := stepped
    exact moves _ (stays _ fun done held => by simpa [Shape, pc] using held)
  case obtaining.picks choice =>
    split at stepped
    · cases stepped
    · rename_i address pool picked
      cases stepped
      exact .obtained at' pc picked
  case registering.returns =>
    split at stepped
    · cases stepped
      exact leaves (by simp [pc])
    · rename_i address assigned
      split at stepped
      · cases stepped
        exact moves _ (stays _ fun done held => by simpa [Shape, pc] using held)
      · rename_i tunQueue pushed
        cases stepped
        exact .pushedAdd at' pc assigned pushed
  case unregistering.returns =>
    split at stepped
    · cases stepped
    · rename_i address assigned
      split at stepped
      · cases stepped
        exact .waited
      · rename_i tunQueue pushed
        cases stepped
        exact .pushedRemove at' pc assigned pushed
  case erasing.returns =>
    split at stepped
    · cases stepped
    · rename_i address assigned
      cases stepped
      exact .erased at' pc assigned
  case erasing.throws =>
    split at stepped
    · cases stepped
    · rename_i address assigned
      cases stepped
      exact .eraseThrew at' pc assigned

theorem step_effect {event : Event Choice}
    (stepped : step alloc control event = some (after, observation)) :
    Effect alloc control after observation := by
  cases event with
  | accept =>
    cases stepped
    exact .accepted
  | resume sid answer =>
    simp only [step] at stepped
    split at stepped
    · cases stepped
    · rename_i session at'
      exact startConnection_effect at' stepped
  | emptyQueue =>
    simp only [step] at stepped
    split at stepped
    · cases stepped
    · rename_i result ended
      cases stepped
      exact .emptied ended

/-! ### Every session has the history its program counter tells -/

/-- Every session there is has the history its program counter tells, and
nobody else has done anything. -/
structure Told (trace : List Observation) (control : Control) : Prop where
  at' : ∀ {sid session}, control.sessions[sid]? = some session → Shape session (acts sid trace)
  absent : ∀ {sid}, control.sessions[sid]? = none → acts sid trace = []

/-- One session moves, shows what it did, and the others stand still. -/
private theorem told_put {session moved : Session} {control' : Control}
    (told : Told trace control) (at' : control.sessions[sid]? = some session)
    (sessions : control'.sessions = control.sessions.set sid moved)
    (others : ∀ other, other ≠ sid → observation.shows other = [])
    (shape : Shape moved (acts sid trace ++ observation.shows sid)) :
    Told (trace ++ [observation]) control' := by
  have inside := (List.getElem?_eq_some_iff.mp at').1
  constructor
  · intro other session' found
    rw [sessions, List.getElem?_set] at found
    by_cases same : sid = other
    · subst same
      simp only [inside, if_true, Option.some.injEq] at found
      subst found
      simpa using shape
    · rw [if_neg same] at found
      simpa [others other (Ne.symm same)] using told.at' found
  · intro other found
    rw [sessions, List.getElem?_set] at found
    by_cases same : sid = other
    · simp [same ▸ inside, same] at found
    · rw [if_neg same] at found
      simpa [others other (Ne.symm same)] using told.absent found

/-- A quiet step that leaves the sessions alone tells nothing new. -/
private theorem told_still {control' : Control} (told : Told trace control)
    (sessions : control'.sessions = control.sessions) (silent : ∀ sid, observation.shows sid = []) :
    Told (trace ++ [observation]) control' :=
  ⟨fun found => by simpa [silent] using told.at' (sessions ▸ found),
    fun found => by simpa [silent] using told.absent (sessions ▸ found)⟩

theorem told_preserved (told : Told trace control)
    (effect : Effect alloc control after observation) : Told (trace ++ [observation]) after := by
  cases effect with
  | accepted =>
    constructor
    · intro sid session found
      rcases Nat.lt_or_ge sid control.sessions.length with inside | outside
      · rw [List.getElem?_append_left inside] at found
        simpa using told.at' found
      · rw [List.getElem?_append_right outside] at found
        have same := List.mem_singleton.mp (List.mem_of_getElem? found)
        subst same
        simpa [Shape] using told.absent (List.getElem?_eq_none outside)
    · intro sid found
      rw [List.getElem?_eq_none_iff, List.length_append] at found
      simpa using told.absent (List.getElem?_eq_none (by omega))
  | waited => exact told_still told rfl fun _ => rfl
  | moved at' move =>
    exact told_put told at' rfl (fun _ _ => rfl) (by simpa using move.shape _ (told.at' at'))
  | obtained at' pc picked =>
    have shape := told.at' at'
    simp only [Shape, pc] at shape
    exact told_put told at' rfl (fun _ different => shows_other _ different.symm)
      (by simp [Shape, shape])
  | pushedAdd at' pc assigned pushed =>
    have shape := told.at' at'
    simp only [Shape, pc, assigned] at shape
    obtain ⟨a, same, keyed, done⟩ := shape
    cases same
    exact told_put told at' rfl (fun _ different => shows_other _ different.symm)
      (by simp [Shape, assigned, keyed, done])
  | pushedRemove at' pc assigned pushed =>
    have shape := told.at' at'
    simp only [Shape, pc, assigned] at shape
    obtain ⟨a, same, keyed, begun⟩ := shape
    cases same
    exact told_put told at' rfl (fun _ different => shows_other _ different.symm)
      (by simpa [Shape, assigned] using begun)
  | erased at' pc assigned =>
    have shape := told.at' at'
    simp only [Shape, pc, assigned] at shape
    obtain ⟨a, begun, same, first, done⟩ := shape
    cases same
    exact told_put told at' rfl (fun _ different => shows_other _ different.symm)
      (.inr ⟨_, begun, .erase _, assigned, first, .inl rfl, by simp [done]⟩)
  | eraseThrew at' pc assigned =>
    have shape := told.at' at'
    simp only [Shape, pc, assigned] at shape
    obtain ⟨a, begun, same, first, done⟩ := shape
    cases same
    exact told_put told at' rfl (fun _ different => shows_other _ different.symm)
      (.inr ⟨_, begun, .eraseThrew _, assigned, first, .inr rfl, by simp [done]⟩)
  | emptied ended => exact told_still told rfl fun _ => rfl

theorem run_told (run : (system alloc).Run trace control) : Told trace control := by
  refine run.invariant ?_ ?_
  · rintro _ rfl
    exact ⟨by simp [machine], by simp⟩
  · rintro _ _ _ _ _ told ⟨_, stepped⟩
    exact told_preserved told (step_effect stepped)

end Vpverk.Sessions
