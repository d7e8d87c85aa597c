import Vpverk.RouteIntegrity

/-! When the owner of an address gets its route. A session that fails between
`getNewAddress` and its add entry pushes a remove entry all the same; in the
batch of the next owner's add entry that remove finds nothing, is put back, and
then takes the new route away. -/
namespace Vpverk.Sessions
open Addresses RouteQueue Transition

variable {Choice : Type} {alloc : Allocator Choice} {control mid after : Control}
  {observation : Observation} {trace : List Observation} {sid other : Nat}
  {session : Session} {a address : AddressV4}

/-- Every remove entry of the address in the queue has something to remove: the
queue removes it no more often than it adds it, counting a route there is. -/
def Control.RemovesMatched (control : Control) (a : AddressV4) : Prop :=
  Slot.deletes (control.pending a) ≤
    (control.tunRouter.lookup a).isSome.toNat + Slot.inserts (control.pending a)

instance : Decidable (control.RemovesMatched a) := inferInstanceAs (Decidable (_ ≤ _))

/-- An add entry is only pushed when the removes before it are matched. -/
def AddsMeetMatched (control : Control) : Observation → Prop
  | .act _ (.pushAdd a) => control.RemovesMatched a
  | _ => True

instance : Decidable (AddsMeetMatched control observation) :=
  match observation with
  | .act _ (.pushAdd a) => inferInstanceAs (Decidable (control.RemovesMatched a))
  | .act _ (.obtain _) | .act _ (.pushRemove _) | .act _ (.erase _) | .act _ (.eraseThrew _)
  | .quiet | .emptied => isTrue trivial

/-- The removes the queue leaves unmatched when nobody is to be routed. -/
theorem Routed.removesMatched_iff (routed : Routed trace control) (vacant : control.wants a = none) :
    control.RemovesMatched a ↔
      Slot.unmatched (control.tunRouter.lookup a).isSome (control.pending a) = 0 := by
  have balance := Slot.unmatched_balance (routed.noClash a)
  change _ = (control.wants a).isSome.toNat + _ at balance
  rw [vacant] at balance
  simp only [Option.isSome_none, Bool.toNat_false] at balance
  unfold Control.RemovesMatched
  omega

/-- Every registered session is to be routed, and no remove stands in the way. -/
def Delivered (trace : List Observation) (control : Control) : Prop :=
  ∀ sid a, Registered trace sid a → (control.wants a).isSome ∧
    Slot.unmatched (control.tunRouter.lookup a).isSome (control.pending a) = 0

/-- A registered session that is to be routed is routed to itself. -/
theorem Routed.wants_own (told : Told trace control) (owned : Owned trace control)
    (routed : Routed trace control) (registered : Registered trace sid a)
    (at' : control.sessions[sid]? = some session) (wanted : (control.wants a).isSome) :
    control.wants a = some (session.connection, session.aes) := by
  obtain ⟨target, wants⟩ := Option.isSome_iff_exists.mp wanted
  obtain ⟨other, session', behind⟩ := routed.behind wants
  obtain rfl := owned.registered_distinct told registered behind.registered
  obtain rfl : session = session' := by simpa [at'] using behind.at'
  rw [wants, behind.target]

private theorem delivered_still (delivered : Delivered trace control)
    (tunRouter : after.tunRouter = control.tunRouter) (tunQueue : after.tunQueue = control.tunQueue)
    (notAdd : ∀ sid a, .pushAdd a ∉ observation.shows sid) :
    Delivered (trace ++ [observation]) after := by
  intro sid a registered
  have earlier : Registered trace sid a := by
    have := registered
    simp only [Registered, acts_snoc, List.mem_append, notAdd, or_false, not_or] at this
    exact ⟨this.1, this.2.1⟩
  have held := delivered sid a earlier
  rwa [Control.wants, Control.pending, tunRouter, tunQueue]

theorem delivered_preserved (told : Told trace control) (owned : Owned trace control)
    (routed : Routed trace control) (delivered : Delivered trace control)
    (effect : Effect alloc control after observation) (meets : AddsMeetMatched control observation) :
    Delivered (trace ++ [observation]) after := by
  cases effect with
  | accepted | moved | waited => exact delivered_still delivered rfl rfl (by simp)
  | obtained | erased | eraseThrew =>
    apply delivered_still delivered rfl rfl
    intro other a
    simp only [Observation.shows]
    split <;> simp
  | @emptied result ended =>
    intro sid a registered
    obtain ⟨wanted, matched⟩ := delivered sid a (by simpa [Registered] using registered)
    have lookup := routed.emptied_at (a := a) ended
    rw [if_pos matched] at lookup
    refine ⟨?_, by simp [Control.pending, Slot.unmatched]⟩
    simpa [Control.wants, Control.pending, lookup] using wanted
  | @pushedAdd owner session address tunQueue at' pc assigned pushed =>
    have entered := Pushed.put owner { session with pc := .exchanging } pushed
    intro sid a registered
    by_cases here : address = a
    · subst here
      have vacant := routed.wants_none (registering_alone told owned at' pc assigned)
      have matched := (routed.removesMatched_iff vacant).mp meets
      rw [entered.wants_same, entered.pending_same]
      exact ⟨rfl, Slot.unmatched_append_insert.trans matched⟩
    · have earlier : Registered trace sid a := by
        by_cases mine : owner = sid
        · subst mine
          simpa [Registered, Ne.symm here] using registered
        · simpa [Registered, shows_other _ mine] using registered
      rw [entered.wants_other here, entered.pending_other here]
      exact delivered sid a earlier
  | @pushedRemove owner session address tunQueue at' pc assigned pushed =>
    intro sid a registered
    have earlier : Registered trace sid a := by
      by_cases mine : owner = sid
      · subst mine
        have := registered
        simp only [Registered, acts_snoc, shows_self, List.mem_append, List.mem_singleton,
          reduceCtorEq, or_false, not_or] at this
        exact ⟨this.1, this.2.1⟩
      · simpa [Registered, shows_other _ mine] using registered
    have elsewhere : address ≠ a := by
      rintro rfl
      have shape := told.at' at'
      simp only [Shape, pc, assigned] at shape
      obtain ⟨_, same, _, begun⟩ := shape
      cases same
      have holds : Holds trace owner address := by
        rcases begun with done | done <;> simp [Holds, done]
      obtain rfl := owned.distinct holds (told.registered_holds earlier)
      simp [Registered] at registered
    have entered := Pushed.put owner { session with pc := .erasing } pushed
    rw [entered.wants_other elsewhere, entered.pending_other elsewhere]
    exact delivered sid a earlier

theorem run_delivered (run : ((system alloc).guarded AddsMeetMatched).Run trace control) :
    Delivered trace control := by
  refine run.invariant ?_ ?_
  · rintro _ rfl
    simp [Delivered, Registered]
  · rintro _ _ _ _ run delivered ⟨⟨_, stepped⟩, meets⟩
    have run := run.unguarded
    exact delivered_preserved (run_told run) (run_owned run) (run_routed run) delivered
      (step_effect stepped) meets

/-- What an accepted add entry asks, and what it leaves unmatched. -/
theorem pushed_add (at' : control.sessions[sid]? = some session)
    (effect : Effect alloc control mid (.act sid (.pushAdd a))) :
    session.pc = .registering ∧ session.assignedAddress = some a ∧
      mid.wants a = some (session.connection, session.aes) ∧
      Slot.unmatched (mid.tunRouter.lookup a).isSome (mid.pending a) =
        Slot.unmatched (control.tunRouter.lookup a).isSome (control.pending a) := by
  cases effect with
  | @pushedAdd _ session' _ tunQueue found pc assigned pushed =>
    obtain rfl : session = session' := by simpa [at'] using found
    have entered := Pushed.put sid { session with pc := .exchanging } pushed
    refine ⟨pc, assigned, entered.wants_same, ?_⟩
    rw [entered.pending_same]
    exact Slot.unmatched_append_insert

/-- **No lost route, and when.** Whichever free addresses are picked: in every
run whose add entries are pushed only when the removes before them are matched,
every `emptyQueue` ends with each registered session routed under its address to
its own connection and AES session. And in any run, when a session pushes its
add entry and `emptyQueue` comes next, the session is routed exactly if the
removes before its add entry were matched. -/
theorem no_lost_route (alloc : Allocator Choice) :
    (∀ trace control after, ((system alloc).guarded AddsMeetMatched).Run trace control →
      (system alloc).step control .emptied after →
      ∀ sid session a, after.sessions[sid]? = some session → Registered trace sid a →
        after.tunRouter.lookup a = some (session.connection, session.aes)) ∧
    (∀ trace control mid after sid session a, (system alloc).Run trace control →
      control.sessions[sid]? = some session →
      (system alloc).step control (.act sid (.pushAdd a)) mid →
      (system alloc).step mid .emptied after →
      (after.tunRouter.lookup a = some (session.connection, session.aes) ↔
        control.RemovesMatched a)) := by
  constructor
  · intro trace control after run emptied sid session a at' registered
    have plain := run.unguarded
    obtain ⟨wanted, matched⟩ := run_delivered run sid a registered
    obtain ⟨event, stepped⟩ := emptied
    cases step_effect stepped with
    | @emptied result ended =>
      change result.tunRouter.lookup a = _
      rw [(run_routed plain).emptied_at ended, if_pos matched]
      exact (run_routed plain).wants_own (run_told plain) (run_owned plain) registered at' wanted
  · intro trace control mid after sid session a run at' pushed emptied
    have routed := run_routed run
    have next := run_routed (run.next pushed)
    obtain ⟨event, stepped⟩ := pushed
    obtain ⟨pc, assigned, wants, unmatched⟩ := pushed_add at' (step_effect stepped)
    have vacant := routed.wants_none
      (registering_alone (run_told run) (run_owned run) at' pc assigned)
    obtain ⟨event, stepped⟩ := emptied
    cases step_effect stepped with
    | @emptied result ended =>
      change result.tunRouter.lookup a = _ ↔ _
      rw [next.emptied_at ended, unmatched, wants, routed.removesMatched_iff vacant]
      split <;> simp [*]

theorem no_lost_route_one_session :
    ∃ trace control after, ((system codeAllocator).guarded AddsMeetMatched).Run trace control ∧
      (system codeAllocator).step control .emptied after ∧ Registered trace 0 ⟨0x0A7B0002⟩ ∧
      after.tunRouter.lookup ⟨0x0A7B0002⟩ = some (0, some 1) := by
  obtain ⟨trace, control, run, after, emptied, at', registered⟩ :
      ∃ trace control, ((system codeAllocator).guarded AddsMeetMatched).Run trace control ∧
        ∃ after, (system codeAllocator).step control .emptied after ∧
          after.sessions[0]? = some ⟨.exchanging, 0, some 1, some ⟨0x0A7B0002⟩⟩ ∧
          Registered trace 0 ⟨0x0A7B0002⟩ :=
    ⟨_, _, Machine.guarded_run (Machine.replay_run (show
      ((machine codeAllocator).guarded AddsMeetMatched).replay {} registeringSession = _ from rfl)),
      _, ⟨.emptyQueue, rfl⟩, rfl, by decide, by decide⟩
  exact ⟨trace, control, after, run, emptied, registered,
    (no_lost_route codeAllocator).1 trace control after run emptied 0 _ _ at' registered⟩

/-! ### A run that loses a route

Session 0 is given 10.123.0.2 and waits in `sendIp`. Sessions come and fail
there until the counter has gone round; then session 0 fails too, and the next
session is given 10.123.0.2 and registers before `emptyQueue` runs. -/

/-- 10.123.0.2, the first address given out. -/
def firstAddress : AddressV4 := ⟨0x0A7B0002⟩

/-- Session 0 as long as it waits in `sendIp`. -/
def waitingSession : Session := ⟨.sendingIp, 0, some 1, some firstAddress⟩

/-- Session 0 waits, `count` others have come and gone, and the counter is that
much further. -/
structure Waiting (count : Nat) (trace : List Observation) (control : Control) : Prop where
  run : (system codeAllocator).Run trace control
  tunRouter : control.tunRouter = ∅
  tunQueue : control.tunQueue = {}
  taken : control.pool.uniqueAddressSet = {firstAddress}
  counter : control.pool.uniqueAddressCounter.toNat = 2 + count
  waits : control.sessions[0]? = some waitingSession

/-- A session that fails in `sendIp`, up to the end of its `startConnection`. -/
def visit (sid : Nat) : List (Event Nat) :=
  [.accept, .resume sid (.authenticated true), .resume sid (.picks 1), .resume sid .throws,
    .resume sid .returns, .resume sid .returns, .emptyQueue]

/-- A remove entry on its own is tried, put back and dropped. -/
private theorem emptyQueue_stray (a : AddressV4) (con : Ptr) (bounded) :
    emptyQueue ∅ ⟨[⟨false, a, con, none⟩], bounded⟩ = some ⟨∅, [], [⟨false, a, con, none⟩]⟩ := by
  simp [emptyQueue, RouteQueue.pass, applyRoute, retry, Pass.again, sizeMinusOne]

private theorem pick_next {pool : AddressPool}
    (free : candidate (nextCounter pool.uniqueAddressCounter) ∉ pool.uniqueAddressSet) :
    codeAllocator.pick 1 pool = some (candidate (nextCounter pool.uniqueAddressCounter),
      ⟨nextCounter pool.uniqueAddressCounter,
        insert (candidate (nextCounter pool.uniqueAddressCounter)) pool.uniqueAddressSet⟩) := by
  simp [codeAllocator, getNewAddress_first free]

private theorem waiting_visit {count : Nat} (waiting : Waiting count trace control)
    (bound : count < 65532) : ∃ trace control, Waiting (count + 1) trace control := by
  obtain ⟨run, tunRouter, tunQueue, taken, counter, waits⟩ := waiting
  obtain ⟨router, queue, pool, sessions, allocated⟩ := control
  dsimp only at tunRouter tunQueue taken counter waits
  subst tunRouter tunQueue
  have grows : (nextCounter pool.uniqueAddressCounter).toNat = 2 + (count + 1) :=
    (nextCounter_toNat (by omega)).trans (by omega)
  have other : candidate (nextCounter pool.uniqueAddressCounter) ≠ firstAddress := by
    intro same
    have := candidate_injective (same.trans (show firstAddress = candidate 2 from rfl))
    rw [this] at grows
    simp at grows
  have free : candidate (nextCounter pool.uniqueAddressCounter) ∉ pool.uniqueAddressSet := by
    simpa [taken] using other
  have replayed : ∃ trace control, (machine codeAllocator).replay
      ⟨∅, {}, pool, sessions, allocated⟩ (visit sessions.length) = some (trace, control) ∧
      control.tunRouter = ∅ ∧ control.tunQueue = {} ∧
      control.pool.uniqueAddressSet = {firstAddress} ∧
      control.pool.uniqueAddressCounter = nextCounter pool.uniqueAddressCounter ∧
      control.sessions[0]? = some waitingSession := by
    obtain ⟨inside, waits⟩ := List.getElem?_eq_some_iff.mp waits
    simp [visit, Machine.replay, machine, step, startConnection, Control.put, pick_next free,
      Session.leaveTry, RoutesQueue.tryPush, CAPACITY, emptyQueue_stray, AddressPool.release,
      taken, other, List.getElem_append_left inside, waits]
  obtain ⟨trace', control', replayed, tunRouter, tunQueue, taken', counter', waits'⟩ := replayed
  exact ⟨_, control', run.extend (Machine.replay_steps replayed), tunRouter, tunQueue, taken',
    counter'.symm ▸ grows, waits'⟩

private theorem waiting_round {count : Nat} (bound : count ≤ 65532) :
    ∃ trace control, Waiting count trace control := by
  induction count with
  | zero =>
    exact ⟨_, _, Machine.replay_run (show (machine codeAllocator).replay {}
      [.accept, .resume 0 (.authenticated true), .resume 0 (.picks 1)] = _ from rfl),
      rfl, rfl, rfl, rfl, rfl⟩
  | succ count ih =>
    obtain ⟨trace, control, waiting⟩ := ih (by omega)
    exact waiting_visit waiting bound

/-- Session 0 fails in `sendIp`, and a session that comes now gets as far as its
data exchange. -/
def takeOver (sid : Nat) : List (Event Nat) :=
  [.resume 0 .throws, .resume 0 .returns, .resume 0 .returns, .accept,
    .resume sid (.authenticated true), .resume sid (.picks 1), .resume sid .returns,
    .resume sid .returns]

/-- The stray remove takes away the route of the add behind it. -/
private theorem emptyQueue_overtaken (a : AddressV4) (con con' : Ptr) (aes : Option Ptr) (bounded) :
    ∃ result, emptyQueue ∅ ⟨[⟨false, a, con, none⟩, ⟨true, a, con', aes⟩], bounded⟩ = some result ∧
      result.tunRouter.lookup a = none := by
  obtain ⟨result, ended⟩ := emptyQueue_returns ∅ ⟨[⟨false, a, con, none⟩, ⟨true, a, con', aes⟩], bounded⟩
  refine ⟨result, ended, ?_⟩
  have lookup := emptyQueue_at (a := a) (by simp [requestsAt, Slot.NoClash]) ended
  simpa [requestsAt, Slot.unmatched] using lookup

/-- A registered session is left without a route by `emptyQueue`. -/
theorem route_lost :
    ∃ trace control after sid session, (system codeAllocator).Run trace control ∧
      (system codeAllocator).step control .emptied after ∧
      after.sessions[sid]? = some session ∧ Registered trace sid firstAddress ∧
      after.tunRouter.lookup firstAddress = none := by
  obtain ⟨trace, control, run, tunRouter, tunQueue, taken, counter, waits⟩ :=
    waiting_round (Nat.le_refl 65532)
  obtain ⟨router, queue, ⟨uniqueAddressCounter, uniqueAddressSet⟩, sessions, allocated⟩ := control
  dsimp only at tunRouter tunQueue taken counter waits
  subst tunRouter tunQueue taken
  obtain rfl : uniqueAddressCounter = 65534 := UInt16.toNat_inj.mp counter
  obtain ⟨rest, rfl⟩ : ∃ rest, sessions = waitingSession :: rest := by
    cases sessions with
    | nil => cases waits
    | cons first rest => exact ⟨rest, by simpa using waits⟩
  have picked : codeAllocator.pick 1 ⟨65534, ∅⟩ = some (firstAddress, ⟨2, {firstAddress}⟩) := rfl
  have unheard : acts (rest.length + 1) trace = [] := (run_told run).absent (by simp)
  obtain ⟨trace', control', replayed, router, queue, session, at', done⟩ :
      ∃ trace control, (machine codeAllocator).replay
        ⟨∅, {}, ⟨65534, {firstAddress}⟩, waitingSession :: rest, allocated⟩
          (takeOver (rest.length + 1)) = some (trace, control) ∧
      control.tunRouter = ∅ ∧
      control.tunQueue.entries = [⟨false, firstAddress, 0, none⟩,
        ⟨true, firstAddress, allocated, some (allocated + 1)⟩] ∧
      ∃ session, control.sessions[rest.length + 1]? = some session ∧
      acts (rest.length + 1) trace = [.obtain firstAddress, .pushAdd firstAddress] := by
    simp [takeOver, waitingSession, Machine.replay, machine, step, startConnection, Control.put,
      Session.leaveTry, RoutesQueue.tryPush, CAPACITY, AddressPool.release, picked, acts,
      Observation.shows]
  obtain ⟨router', ⟨entries, bounded⟩, pool, sessions, allocated'⟩ := control'
  dsimp only at router queue at'
  subst router queue
  obtain ⟨result, ended, lookup⟩ := emptyQueue_overtaken firstAddress 0 allocated
    (some (allocated + 1)) bounded
  refine ⟨_, _, ⟨result.tunRouter, {}, pool, sessions, allocated'⟩, rest.length + 1, session,
    run.extend (Machine.replay_steps replayed), ⟨.emptyQueue, ?_⟩, at', ?_, lookup⟩
  · simp [machine, step, ended]
  · have heard : acts (rest.length + 1) (trace ++ trace') =
        [.obtain firstAddress, .pushAdd firstAddress] := by
      rw [acts_append, unheard, done, List.nil_append]
    simp [Registered, heard]

end Vpverk.Sessions
