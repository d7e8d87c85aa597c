import Vpverk.SessionHistory

/-! Who holds which address. An address is in `unique_address_set` exactly while
one session that was given it has not erased it, through any interleaving of
sessions that may fail anywhere. -/
namespace Vpverk.Sessions
open Addresses RouteQueue Transition

variable {Choice : Type} {alloc : Allocator Choice} {control after : Control}
  {observation : Observation} {trace : List Observation} {sid other : Nat}
  {session : Session} {a address : AddressV4}

/-- The session was given the address and has not erased it. -/
def Holds (trace : List Observation) (sid : Nat) (a : AddressV4) : Prop :=
  .obtain a ∈ acts sid trace ∧ .erase a ∉ acts sid trace

/-- The session's add entry has been accepted and its remove entry has not. -/
def Registered (trace : List Observation) (sid : Nat) (a : AddressV4) : Prop :=
  .pushAdd a ∈ acts sid trace ∧ .pushRemove a ∉ acts sid trace

/-- A session whose erase has come, or thrown, has ended. -/
theorem Told.over_ended {act : Act} (told : Told trace control)
    (at' : control.sessions[sid]? = some session) (which : act = .erase a ∨ act = .eraseThrew a)
    (done : act ∈ acts sid trace) : session.pc = .ended := by
  have shape := told.at' at'
  have other : ∀ a', act ≠ .obtain a' ∧ act ≠ .pushAdd a' ∧ act ≠ .pushRemove a' := by
    rcases which with rfl | rfl <;> simp
  cases pc : session.pc <;> simp only [Shape, pc, Begun] at shape
  case ended => rfl
  case handshake | denied => simp [shape] at done
  case obtaining => simp [shape] at done
  case sendingIp | registering | refused | exchanging =>
    obtain ⟨_, _, _, all⟩ := shape
    simp [all, other] at done
  case unregistering =>
    obtain ⟨_, _, _, all | all⟩ := shape <;> simp [all, other] at done
  case erasing =>
    obtain ⟨_, _, _, rfl | rfl, all⟩ := shape <;> simp [all, other] at done

/-- A session that is registered exchanges data or is about to unregister, and has
done nothing but obtain its address and register. -/
theorem Told.registered_shape (told : Told trace control) (registered : Registered trace sid a)
    (at' : control.sessions[sid]? = some session) :
    (session.pc = .exchanging ∨ session.pc = .unregistering) ∧
      session.assignedAddress = some a ∧ session.aes.isSome ∧
      acts sid trace = [.obtain a, .pushAdd a] := by
  have shape := told.at' at'
  obtain ⟨added, notRemoved⟩ := registered
  cases pc : session.pc <;> simp only [Shape, pc, Begun] at shape
  case handshake | denied => simp [shape] at added
  case obtaining => simp [shape] at added
  case sendingIp | registering | refused =>
    obtain ⟨_, _, _, done⟩ := shape
    simp [done] at added
  case exchanging =>
    obtain ⟨_, assigned, keyed, done⟩ := shape
    simp_all
  case unregistering =>
    obtain ⟨_, assigned, keyed, done | done⟩ := shape <;> simp_all
  case erasing =>
    obtain ⟨_, _, _, rfl | rfl, done⟩ := shape <;> simp_all
  case ended =>
    obtain ⟨_, done⟩ | ⟨_, _, _, _, rfl | rfl, rfl | rfl, done⟩ := shape <;> simp_all

/-- A registered session holds its address. -/
theorem Told.registered_holds (told : Told trace control) (registered : Registered trace sid a) :
    Holds trace sid a := by
  cases found : control.sessions[sid]? with
  | none => simp [Registered, told.absent found] at registered
  | some session =>
    obtain ⟨_, _, _, done⟩ := told.registered_shape registered found
    simp [Holds, done]

/-- The invariant of the address pool. -/
structure Owned (trace : List Observation) (control : Control) : Prop where
  taken : ∀ a, a ∈ control.pool.uniqueAddressSet ↔ ∃ sid, Holds trace sid a
  distinct : ∀ {sid other a}, Holds trace sid a → Holds trace other a → sid = other
  latest : ∀ {sid a}, Holds trace sid a → ∀ earlier later,
    trace = earlier ++ .act sid (.obtain a) :: later → ∀ other, .act other (.obtain a) ∉ later

/-- An observation that neither gives out nor takes back an address. -/
def Neutral (observation : Observation) : Prop :=
  ∀ sid a, .obtain a ∉ observation.shows sid ∧ .erase a ∉ observation.shows sid

theorem Neutral.holds (neutral : Neutral observation) :
    Holds (trace ++ [observation]) sid a ↔ Holds trace sid a := by
  simp [Holds, neutral sid a]

/-- A later observation changes nothing about the order of those before it. -/
private theorem latest_snoc
    (latest : ∀ earlier later, trace = earlier ++ .act sid (.obtain a) :: later →
      ∀ other, .act other (.obtain a) ∉ later)
    (fresh : ∀ other, observation ≠ .act other (.obtain a)) :
    ∀ earlier later, trace ++ [observation] = earlier ++ .act sid (.obtain a) :: later →
      ∀ other, .act other (.obtain a) ∉ later := by
  intro earlier later split other
  rcases snoc_split split with ⟨_, _, rfl⟩ | ⟨init, rfl, same⟩
  · exact List.not_mem_nil
  · simp only [List.mem_append, List.mem_singleton, not_or]
    exact ⟨latest earlier init same other, (fresh other).symm⟩

private theorem owned_neutral (owned : Owned trace control) (neutral : Neutral observation)
    (pool : after.pool.uniqueAddressSet = control.pool.uniqueAddressSet) :
    Owned (trace ++ [observation]) after where
  taken a := by simp only [pool, owned.taken, neutral.holds]
  distinct first second := owned.distinct (neutral.holds.mp first) (neutral.holds.mp second)
  latest {sid a} holds := latest_snoc (owned.latest (neutral.holds.mp holds)) fun other shown => by
    subst shown
    have := (neutral other a).1
    simp at this

/-- Who holds what after an address has been handed out to a newcomer. -/
private theorem holds_obtained {owner : Nat} {address : AddressV4}
    (nothing : acts owner trace = []) :
    Holds (trace ++ [.act owner (.obtain address)]) sid a ↔
      (sid = owner ∧ a = address) ∨ (sid ≠ owner ∧ Holds trace sid a) := by
  by_cases same : sid = owner
  · subst same
    simp [Holds, nothing]
  · simp [Holds, shows_other _ (Ne.symm same), same]

/-- Who holds what after the holder of an address has erased it. -/
private theorem holds_erased {owner : Nat} {address : AddressV4} (owned : Owned trace control)
    (held : Holds trace owner address) :
    Holds (trace ++ [.act owner (.erase address)]) sid a ↔ Holds trace sid a ∧ a ≠ address := by
  by_cases same : sid = owner
  · subst same
    by_cases here : a = address <;> simp [Holds, here]
  · simp only [Holds, acts_snoc, shows_other _ (Ne.symm same), List.append_nil]
    exact ⟨fun holds => ⟨holds, fun here => same (owned.distinct (here ▸ holds) held)⟩, And.left⟩

theorem owned_preserved (told : Told trace control) (owned : Owned trace control)
    (effect : Effect alloc control after observation) : Owned (trace ++ [observation]) after := by
  have silent : ∀ {sid act}, (∀ a, act ≠ .obtain a) → (∀ a, act ≠ .erase a) →
      Neutral (.act sid act) := by
    intro sid act notObtain notErase other a
    simp only [Observation.shows]
    split <;> simp [(notObtain a).symm, (notErase a).symm]
  cases effect with
  | accepted | waited => exact owned_neutral owned (by simp [Neutral]) rfl
  | moved | emptied => exact owned_neutral owned (by simp [Neutral]) rfl
  | pushedAdd | pushedRemove | eraseThrew =>
    exact owned_neutral owned (silent (by simp) (by simp)) rfl
  | @obtained owner session choice address pool at' pc picked =>
    obtain ⟨free, grown⟩ := alloc.free picked
    have nothing : acts owner trace = [] := by
      have := told.at' at'
      simp only [Shape, pc] at this
      exact this.2.1
    have vacant : ∀ sid, ¬ Holds trace sid address :=
      fun sid held => free ((owned.taken address).mpr ⟨sid, held⟩)
    refine ⟨fun a => ?_, fun {sid other a} first second => ?_, fun {sid a} held => ?_⟩
    · simp only [grown, Finset.mem_insert, owned.taken, holds_obtained nothing]
      constructor
      · rintro (rfl | ⟨sid, held⟩)
        · exact ⟨owner, .inl ⟨rfl, rfl⟩⟩
        · refine ⟨sid, .inr ⟨?_, held⟩⟩
          rintro rfl
          simp [Holds, nothing] at held
      · rintro ⟨sid, ⟨_, rfl⟩ | ⟨_, held⟩⟩
        · exact .inl rfl
        · exact .inr ⟨sid, held⟩
    · rcases (holds_obtained nothing).mp first with ⟨rfl, rfl⟩ | ⟨_, earlier⟩ <;>
        rcases (holds_obtained nothing).mp second with ⟨rfl, same⟩ | ⟨_, later⟩
      · rfl
      · exact absurd later (vacant _)
      · exact absurd (same ▸ earlier) (vacant _)
      · exact owned.distinct earlier later
    · rcases (holds_obtained nothing).mp held with ⟨rfl, rfl⟩ | ⟨_, held⟩
      · -- The newcomer's grant is the last thing that happened.
        intro earlier later split other
        rcases snoc_split split with ⟨_, _, rfl⟩ | ⟨init, rfl, same⟩
        · exact List.not_mem_nil
        · have : Act.obtain a ∈ acts sid trace := mem_acts.mpr (by simp [same])
          simp [nothing] at this
      · apply latest_snoc (owned.latest held)
        intro other shown
        cases shown
        exact vacant _ held
  | @erased owner session address at' pc assigned =>
    obtain ⟨begun, first, done⟩ : ∃ begun, Begun address begun ∧
        acts owner trace = begun ++ [.pushRemove address] := by
      have := told.at' at'
      simp only [Shape, pc, assigned] at this
      obtain ⟨a, begun, same, first, done⟩ := this
      cases same
      exact ⟨begun, first, done⟩
    have held : Holds trace owner address := by
      rcases first with rfl | rfl <;> simp [Holds, done]
    refine ⟨fun a => ?_, fun first second => ?_, fun {sid a} holding => ?_⟩
    · simp only [AddressPool.release, Finset.mem_erase, owned.taken, holds_erased owned held]
      constructor
      · rintro ⟨different, sid, holding⟩
        exact ⟨sid, holding, different⟩
      · rintro ⟨sid, holding, different⟩
        exact ⟨different, sid, holding⟩
    · exact owned.distinct ((holds_erased owned held).mp first).1 ((holds_erased owned held).mp second).1
    · exact latest_snoc (owned.latest ((holds_erased owned held).mp holding).1) (by simp)

/-- In every run the address pool is owned. -/
theorem run_owned (run : (system alloc).Run trace control) : Owned trace control := by
  refine run.invariant ?_ ?_
  · rintro _ rfl
    exact ⟨by simp [machine, Holds], by simp [Holds], by simp [Holds]⟩
  · rintro _ _ _ _ run owned ⟨_, stepped⟩
    exact owned_preserved (run_told run) owned (step_effect stepped)

/-- A session that has erased its address did so last, right after its remove
entry was accepted. -/
theorem Told.erase_last (told : Told trace control) (erased : .erase a ∈ acts sid trace) :
    ∃ begun, Begun a begun ∧ acts sid trace = begun ++ [.pushRemove a, .erase a] := by
  cases found : control.sessions[sid]? with
  | none => simp [told.absent found] at erased
  | some session =>
    have shape := told.at' found
    simp only [Shape, told.over_ended found (.inl rfl) erased] at shape
    obtain ⟨_, done⟩ | ⟨a', begun, last, _, first, which, done⟩ := shape
    · simp [done] at erased
    · have notBegun : .erase a ∉ begun := by rcases first with rfl | rfl <;> simp
      have same : .erase a = last := by simpa [done, notBegun] using erased
      rcases which with rfl | rfl
      · cases same
        exact ⟨begun, first, done⟩
      · cases same

/-- A session whose erase threw has ended and holds its address still. -/
theorem Told.threw_holds (told : Told trace control) (threw : .eraseThrew a ∈ acts sid trace) :
    ∃ session, control.sessions[sid]? = some session ∧ session.pc = .ended ∧ Holds trace sid a := by
  cases found : control.sessions[sid]? with
  | none => simp [told.absent found] at threw
  | some session =>
    have pc := told.over_ended found (.inr rfl) threw
    have shape := told.at' found
    simp only [Shape, pc] at shape
    refine ⟨session, rfl, pc, ?_⟩
    obtain ⟨_, done⟩ | ⟨_, _, _, _, rfl | rfl, rfl | rfl, done⟩ := shape <;> simp_all [Holds]

/-- **Address ownership.** In every run of the code, however its sessions are
interleaved and wherever they fail: no two sessions hold one address; the
addresses in use are the addresses held; a session erases at most once and only
after its remove entry has been accepted; and a session that was given an
address and has come to its end has erased it, unless the lock or the erase
itself threw: then it has ended without the erase, and its address stays in use. -/
theorem address_ownership (run : (system codeAllocator).Run trace control) :
    (∀ sid other a, Holds trace sid a → Holds trace other a → sid = other) ∧
    (∀ a, a ∈ control.pool.uniqueAddressSet ↔ ∃ sid, Holds trace sid a) ∧
    (∀ sid a, (acts sid trace).count (.erase a) ≤ 1 ∧
      ∀ earlier later, acts sid trace = earlier ++ .erase a :: later → .pushRemove a ∈ earlier) ∧
    (∀ sid session a, control.sessions[sid]? = some session → session.pc = .ended →
      .obtain a ∈ acts sid trace → .eraseThrew a ∉ acts sid trace →
      (acts sid trace).count (.erase a) = 1) ∧
    (∀ sid a, .eraseThrew a ∈ acts sid trace →
      (∃ session, control.sessions[sid]? = some session ∧ session.pc = .ended) ∧
      .erase a ∉ acts sid trace ∧ a ∈ control.pool.uniqueAddressSet) := by
  have told := run_told run
  have owned := run_owned run
  refine ⟨fun _ _ _ => owned.distinct, owned.taken, fun sid a => ⟨?_, ?_⟩, ?_, ?_⟩
  · by_cases erased : .erase a ∈ acts sid trace
    · obtain ⟨begun, first, done⟩ := told.erase_last erased
      rcases first with rfl | rfl <;> simp [done]
    · simp [List.count_eq_zero_of_not_mem erased]
  · intro earlier later split
    obtain ⟨begun, first, done⟩ := told.erase_last (by simp [split] : .erase a ∈ acts sid trace)
    have list : (begun ++ [.pushRemove a]) ++ [.erase a] = earlier ++ .erase a :: later := by
      simpa [split] using done.symm
    rcases snoc_split list with ⟨rfl, _, _⟩ | ⟨init, _, inside⟩
    · simp
    · have : Act.erase a ∈ begun ++ [.pushRemove a] := by simp [inside]
      rcases first with rfl | rfl <;> simp at this
  · intro sid session a at' pc obtained notThrew
    have shape := told.at' at'
    simp only [Shape, pc] at shape
    obtain ⟨_, done⟩ | ⟨a', begun, last, _, first, which, done⟩ := shape
    · simp [done] at obtained
    · rcases first with rfl | rfl <;> rcases which with rfl | rfl <;>
        simp_all
  · intro sid a threw
    obtain ⟨session, at', pc, holds⟩ := told.threw_holds threw
    exact ⟨⟨session, at', pc⟩, holds.2, (owned.taken a).mpr ⟨sid, holds⟩⟩

/-- A session that fails in `sendIp` and ends. -/
def failingSession : List (Event Nat) :=
  [.accept, .resume 0 (.authenticated true), .resume 0 (.picks 1), .resume 0 .throws,
    .resume 0 .returns, .resume 0 .returns]

theorem address_ownership_failing_session :
    ∃ trace control, (system codeAllocator).Run trace control ∧
      (acts 0 trace).count (.erase ⟨0x0A7B0002⟩) = 1 := by
  have run := Machine.replay_run (show (machine codeAllocator).replay {} failingSession = _ from rfl)
  refine ⟨_, _, run, (address_ownership run).2.2.2.1 0 _ ⟨0x0A7B0002⟩ rfl rfl ?_ ?_⟩
  · decide
  · decide

/-- The same session, with the lock at the end of `startConnection` throwing. -/
def throwingSession : List (Event Nat) :=
  [.accept, .resume 0 (.authenticated true), .resume 0 (.picks 1), .resume 0 .throws,
    .resume 0 .returns, .resume 0 .throws]

/-- The exception is logged and the session ends, its address still in use. -/
theorem address_kept_after_throw :
    ∃ trace control session, (system codeAllocator).Run trace control ∧
      control.sessions[0]? = some session ∧ session.pc = .ended ∧
      acts 0 trace = [.obtain ⟨0x0A7B0002⟩, .pushRemove ⟨0x0A7B0002⟩, .eraseThrew ⟨0x0A7B0002⟩] ∧
      ⟨0x0A7B0002⟩ ∈ control.pool.uniqueAddressSet := by
  have run := Machine.replay_run (show (machine codeAllocator).replay {} throwingSession = _ from rfl)
  refine ⟨_, _, _, run, rfl, rfl, ?_, ?_⟩
  · decide
  · decide

end Vpverk.Sessions
