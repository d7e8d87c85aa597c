import Vpverk.RouterFrames

/-! The entry assertion of `routeTunToClients`, in every run of the router: the
first entry passes, a nested entry never does, and a restart passes while nobody
is routed. -/
namespace Vpverk.RouterFrames
open Addresses RouteQueue Sessions Transition

variable {Choice : Type} {alloc : Allocator Choice} {state before after : RouterState}
  {event : RouterEvent Choice} {result : RouterState × Entry} {trace : List Entry} {frames callers : List Frame}
  {frame : Frame} {k : Nat} {con : Ptr} {chains : List (List Frame)}

/-- A packet finds the write lock of the connection it is routed to free, and an
exception leaves a call only while nobody is routed. -/
def Uncontended (state : RouterState) (entry : Entry) : Prop :=
  match entry.cause with
  | .packet dst => ∀ emptied,
      emptyQueue state.control.tunRouter state.control.tunQueue = some emptied →
      ∀ con aes, emptied.tunRouter.lookup dst = some (con, aes) → state.writeLock con = false
  | .exception => state.empty
  | .start | .retry | .other => True

/-- No call waits for one it nested. -/
def Level (chains : List (List Frame)) : Prop :=
  ∀ frames ∈ chains, ∀ frame ∈ frames, ∀ con, frame.pc ≠ .locking con

/-- Before `asyncStart` there are neither routes nor calls, and no call ever waits
for one it nested. -/
structure Steady (state : RouterState) : Prop where
  unstarted : state.started = false → state.empty ∧ state.chains = []
  level : Level state.chains

private theorem Level.set (level : Level chains)
    (own : ∀ frame ∈ frames, ∀ con, frame.pc ≠ .locking con) : Level (chains.set k frames) := by
  intro other member
  rcases List.mem_or_eq_of_mem_set member with old | rfl
  · exact level other old
  · exact own

private theorem Level.append_nil (level : Level chains) : Level (chains ++ [[]]) := by
  intro frames member
  rcases List.mem_append.mp member with old | new
  · exact level frames old
  · simp [List.mem_singleton.mp new]

/-- What a step comes to: the state is steady again, the entry passes exactly if
the step was uncontended, and only a failed entry ends the process. -/
structure Comes (before : RouterState) (result : RouterState × Entry) : Prop where
  steady : Steady result.1
  passes : result.2.passes ≠ some false ↔ Uncontended before result.2
  fatal : result.1.aborted = true ↔ result.2.passes = some false

/-- A state in which the router runs. -/
structure Going (state : RouterState) : Prop where
  started : state.started = true
  alive : state.aborted = false
  level : Level state.chains

/-- A step without an entry. -/
private theorem Going.comes {cause : Cause} (going : Going after)
    (uncontended : Uncontended before ⟨cause, none⟩) : Comes before (after, ⟨cause, none⟩) where
  steady := ⟨by simp [going.started], going.level⟩
  passes := by simpa using uncontended
  fatal := by simp [going.alive]

private theorem Going.put (going : Going state)
    (own : ∀ frame ∈ frames, ∀ con, frame.pc ≠ .locking con) : Going (state.put k frames) :=
  ⟨going.started, going.alive, going.level.set own⟩

private theorem Going.loop (going : Going state)
    (level : ∀ frame ∈ callers, ∀ con, frame.pc ≠ .locking con) :
    Going (state.loop k frame callers) := by
  apply going.put
  intro frame' member
  split at member
  · exact level frame' member
  · rcases List.mem_cons.mp member with rfl | member
    · simp
    · exact level frame' member

private theorem Going.close (going : Going state)
    (level : ∀ frame ∈ callers, ∀ con, frame.pc ≠ .locking con) :
    Going (state.close k frame callers con) := by
  unfold RouterState.close
  split
  · refine Going.put ⟨going.started, going.alive, going.level⟩ ?_
    simpa using level
  · exact going.loop level

/-- An entry whose assertion decides whether the step was uncontended. -/
private theorem Going.enter {useLoop : Bool} {cause : Cause} (going : Going state)
    (level : state.empty = true → ∀ frame ∈ callers, ∀ con, frame.pc ≠ .locking con)
    (decides : ∀ passes, Uncontended before ⟨cause, passes⟩ ↔ state.empty = true) :
    Comes before (state.enter k useLoop callers cause) := by
  unfold RouterState.enter
  cases empty : state.empty with
  | true =>
    have looped : Going (state.loop k { useLoop } callers) := going.loop (level empty)
    exact ⟨⟨by simp [looped.started], looped.level⟩, by simp [decides, empty],
      by simp [looped.alive]⟩
  | false =>
    exact ⟨⟨by simp [going.started], going.level⟩, by simp [decides, empty], by simp⟩

private theorem Going.restart (going : Going state)
    (level : ∀ frame ∈ callers, ∀ con, frame.pc ≠ .locking con)
    (same : state.empty = before.empty) :
    Comes before (state.restart k callers) := by
  have put : Going (state.put k callers) := going.put level
  exact Going.enter ⟨put.started, put.alive, put.level.append_nil⟩ (by simp)
    fun _ => show before.empty = true ↔ state.empty = true by rw [same]

/-- A packet for a routed connection: if its lock is held, the nested entry fails,
because the packet's own route is there. -/
private theorem Going.packet {dst : AddressV4} {aes : Option Ptr} {encrypts : Bool}
    {emptied : Emptied} (going : Going state)
    (level : ∀ frame ∈ callers, ∀ con, frame.pc ≠ .locking con)
    (ended : emptyQueue before.control.tunRouter before.control.tunQueue = some emptied)
    (router : state.control.tunRouter = emptied.tunRouter)
    (locks : state.writeLock = before.writeLock)
    (routed : emptied.tunRouter.lookup dst = some (con, aes)) :
    Comes before (state.takeWriteLock k frame callers con encrypts (.packet dst)) := by
  have decides : ∀ passes, Uncontended before ⟨.packet dst, passes⟩ ↔
      before.writeLock con = false := by
    simp [Uncontended, ended, routed]
  unfold RouterState.takeWriteLock
  rw [locks]
  cases held : before.writeLock con with
  | true =>
    have present : state.empty = false := by
      have member : dst ∈ state.control.tunRouter := by
        rw [router]
        exact AList.lookup_isSome.mp (by simp [routed])
      rw [RouterState.empty, ← Bool.not_eq_true, List.isEmpty_iff]
      intro nothing
      rw [AList.mem_keys, AList.keys, nothing] at member
      cases member
    exact going.enter (by simp [present]) (by simp [decides, held, present])
  | false =>
    cases encrypts with
    | true =>
      refine Going.comes (Going.put ⟨going.started, going.alive, going.level⟩ ?_) ?_
      · simpa using level
      · rw [decides, held]
    | false => exact (going.close level).comes (by rw [decides, held])

/-- What the innermost call of a chain comes to. -/
theorem routeTunToClients_comes {answer : FrameAnswer} (steady : Steady state)
    (alive : state.aborted = false) (found : state.chains[k]? = some (frame :: callers))
    (stepped : routeTunToClients state k frame callers answer = some result) :
    Comes state result := by
  have member : frame :: callers ∈ state.chains := List.mem_of_getElem? found
  have started : state.started = true := by
    by_contra unstarted
    simp [(steady.unstarted (by simpa using unstarted)).2] at member
  have going : Going state := ⟨started, alive, steady.level⟩
  have own := steady.level _ member frame (by simp)
  have level : ∀ frame ∈ callers, ∀ con, frame.pc ≠ .locking con :=
    fun frame' inside => steady.level _ member frame' (by simp [inside])
  cases pc : frame.pc with
  | locking con => exact absurd pc (own con)
  | reading =>
    cases answer <;> simp only [routeTunToClients, pc, reduceCtorEq] at stepped
    case throws => cases stepped; exact going.restart level rfl
    case timeout | skipped =>
      split at stepped <;> cases stepped
      exact Going.comes (Going.loop ⟨started, alive, steady.level⟩ level) trivial
    case packet dst encrypts =>
      split at stepped
      · cases stepped
      · rename_i emptied ended
        split at stepped
        · rename_i unrouted
          cases stepped
          refine Going.comes (Going.loop ⟨started, alive, steady.level⟩ level) ?_
          simp [Uncontended, ended, unrouted]
        · rename_i con aes routed
          cases stepped
          exact Going.packet ⟨started, alive, steady.level⟩ level ended rfl rfl routed
  | sending con =>
    have unlocked : Going (state.setWriteLock con false) := ⟨started, alive, steady.level⟩
    cases answer <;> simp only [routeTunToClients, pc, reduceCtorEq] at stepped
    case throws => cases stepped; exact unlocked.restart level rfl
    case sent =>
      cases stepped
      split
      · exact (unlocked.loop level).comes trivial
      · exact (unlocked.put level).comes trivial
    case sendFails => cases stepped; exact (unlocked.close level).comes trivial
  | closing con =>
    cases answer <;> simp only [routeTunToClients, pc, reduceCtorEq] at stepped
    case throws => split at stepped <;> cases stepped; exact going.restart level rfl
    case closed => split at stepped <;> cases stepped; exact (going.loop level).comes trivial

/-- Sessions leave the router alone; only its own `emptyQueue` changes it. -/
private theorem session_keeps_router {control control' : Control} {event : Event Choice}
    {observation : Observation}
    (stepped : Sessions.step alloc control event = some (control', observation))
    (other : observation ≠ .emptied) : control'.tunRouter = control.tunRouter := by
  cases step_effect stepped <;> first | rfl | exact absurd rfl other

/-- A step that changes neither the routes, the calls nor the two flags. -/
private theorem Steady.comes (steady : Steady state) (alive : state.aborted = false)
    (router : after.control.tunRouter = state.control.tunRouter)
    (chains : after.chains = state.chains) (started : after.started = state.started)
    (aborted : after.aborted = state.aborted) : Comes state (after, ⟨.other, none⟩) where
  steady := by
    refine ⟨?_, chains ▸ steady.level⟩
    rw [started, chains, RouterState.empty, router]
    exact steady.unstarted
  passes := by simp [Uncontended]
  fatal := by simp [aborted, alive]

/-- **What every step comes to.** -/
theorem live_comes (steady : Steady state) (alive : state.aborted = false)
    (stepped : live alloc state event = some result) : Comes state result := by
  cases event with
  | session event =>
    simp only [live] at stepped
    split at stepped
    · cases stepped
    · cases stepped
    · rename_i control observation other ran
      cases stepped
      exact steady.comes alive (session_keeps_router ran other) rfl rfl rfl
  | asyncStart =>
    simp only [live] at stepped
    split at stepped
    · cases stepped
    · rename_i unstarted
      cases stepped
      obtain ⟨empty, _⟩ := steady.unstarted (by simpa using unstarted)
      have passes : ∀ passes, Uncontended state ⟨.start, passes⟩ ↔ state.empty = true :=
        fun _ => ⟨fun _ => empty, fun _ => trivial⟩
      exact Going.enter ⟨rfl, alive, steady.level.append_nil⟩ (by simp) passes
  | stop => cases stepped; exact steady.comes alive rfl rfl rfl rfl
  | close con => simp only [live] at stepped; split at stepped <;> cases stepped <;>
      exact steady.comes alive rfl rfl rfl rfl
  | closeLocks con | closeEnds con =>
    simp only [live] at stepped
    split at stepped <;> cases stepped
    exact steady.comes alive rfl rfl rfl rfl
  | resume k answer =>
    simp only [live] at stepped
    split at stepped
    · rename_i frame callers found
      exact routeTunToClients_comes steady alive found stepped
    · cases stepped

theorem step_comes {entry : Entry} (steady : Steady before)
    (stepped : (system alloc).step before entry after) :
    before.aborted = false ∧ Comes before (after, entry) := by
  obtain ⟨event, stepped⟩ := stepped
  simp only [machine, step] at stepped
  split at stepped
  · cases stepped
  · rename_i alive
    have alive : before.aborted = false := by simpa using alive
    exact ⟨alive, live_comes steady alive stepped⟩

/-- In every run the state is steady. -/
theorem run_steady (run : (system alloc).Run trace state) : Steady state :=
  run.reachable (by rintro _ rfl; exact ⟨fun _ => ⟨rfl, rfl⟩, by simp [machine, Level]⟩)
    fun _ _ _ steady stepped => (step_comes steady stepped).2.steady

/-- The process has ended exactly if an entry has failed. -/
def Fatal (trace : List Entry) (state : RouterState) : Prop :=
  state.aborted = true ↔ ∃ entry ∈ trace, entry.passes = some false

theorem run_fatal (run : (system alloc).Run trace state) : Fatal trace state := by
  refine run.invariant ?_ ?_
  · rintro _ rfl
    simp [machine, Fatal]
  · intro trace before entry after run ended stepped
    obtain ⟨alive, comes⟩ := step_comes (run_steady run) stepped
    simp only [Fatal, alive, Bool.false_eq_true, false_iff, not_exists, not_and] at ended
    rw [Fatal, comes.fatal]
    constructor
    · exact fun failed => ⟨entry, by simp, failed⟩
    · rintro ⟨entry', member, failed⟩
      rcases List.mem_append.mp member with old | new
      · exact absurd failed (ended entry' old)
      · rwa [← List.mem_singleton.mp new]

/-- **Re-entering the router.** In every run, every entry into `routeTunToClients`
passes, and the process goes on, exactly if every step was uncontended: a packet
always found the write lock of its connection free, and no exception left a call
while somebody was routed. -/
theorem router_entries (run : (system alloc).Run trace state) :
    (state.aborted = false ∧ ∀ entry ∈ trace, entry.passes ≠ some false) ↔
      ((system alloc).guarded Uncontended).Run trace state := by
  have agrees : ∀ trace before entry after, (system alloc).Run trace before →
      (system alloc).step before entry after →
      (entry.passes ≠ some false ↔ Uncontended before entry) :=
    fun _ _ _ _ earlier stepped => (step_comes (run_steady earlier) stepped).2.passes
  have fatal : state.aborted = true ↔ _ := run_fatal run
  rw [← run.guarded_iff agrees, ← Bool.not_eq_true, fatal]
  simp

/-- The router starts, and a session comes as far as its route being in it. -/
def registered : List (RouterEvent Nat) :=
  [.asyncStart, .session .accept, .session (.resume 0 (.authenticated true)),
    .session (.resume 0 (.picks 1)), .session (.resume 0 .returns),
    .session (.resume 0 .returns), .resume 0 .timeout]

/-- A packet sent to the one registered session. -/
theorem router_entries_one_packet :
    ∃ state, ((system codeAllocator).guarded Uncontended).Run
      (⟨.start, some true⟩ :: List.replicate 6 ⟨.other, none⟩ ++
        [⟨.packet ⟨0x0A7B0002⟩, none⟩, ⟨.other, none⟩]) state := by
  have run := Machine.replay_run (show (machine codeAllocator).replay {}
    (registered ++ [.resume 0 (.packet ⟨0x0A7B0002⟩ true), .resume 0 .sent]) = _ from rfl)
  exact ⟨_, (router_entries run).mp ⟨rfl, by decide⟩⟩

/-- A packet that comes while a sweep closes its connection ends the server, and
so does an exception while that connection's session is registered. -/
theorem entry_fails :
    (∃ trace state, (system codeAllocator).Run
      (trace ++ [⟨.packet ⟨0x0A7B0002⟩, some false⟩]) state ∧ state.aborted = true) ∧
    (∃ trace state, (system codeAllocator).Run
      (trace ++ [⟨.exception, some false⟩]) state ∧ state.aborted = true) := by
  have contended := Machine.replay_run (show (machine codeAllocator).replay {}
    (registered ++ [.close 0, .closeLocks 0, .resume 0 (.packet ⟨0x0A7B0002⟩ true)]) = _ from rfl)
  have threw := Machine.replay_run (show (machine codeAllocator).replay {}
    (registered ++ [.resume 0 .throws]) = _ from rfl)
  exact ⟨⟨⟨.start, some true⟩ :: List.replicate 8 ⟨.other, none⟩, _, contended, rfl⟩,
    ⟨⟨.start, some true⟩ :: List.replicate 6 ⟨.other, none⟩, _, threw, rfl⟩⟩

end Vpverk.RouterFrames
