import Vpverk.RouteQueue

/-! `emptyQueue` and the order of the queue. Which add entry an address ends up
with depends on the order; whether it ends up with one at all does not. The
passes balance the entries of an address against each other, and the loop gives
up only when nothing that is left applies. -/
namespace Vpverk.RouteQueue
open Addresses

/-- The add entries for an address. -/
def adds (a : AddressV4) (routes : List Route) : Nat :=
  routes.countP fun route => route.addr = a ∧ route.addOrRemove

/-- The remove entries for an address. -/
def removes (a : AddressV4) (routes : List Route) : Nat :=
  routes.countP fun route => route.addr = a ∧ !route.addOrRemove

variable {tunRouter tunRouter' : Router} {route : Route} {routes : List Route} {a : AddressV4}
  {state : Pass} {emptied : Emptied}

theorem inserts_requestsAt : Slot.inserts (requestsAt a routes) = adds a routes := by
  rw [Slot.inserts, requestsAt, List.countP_map, List.countP_filter, adds]
  congr 1
  funext route
  cases add : route.addOrRemove <;> simp [add]

theorem deletes_requestsAt : Slot.deletes (requestsAt a routes) = removes a routes := by
  rw [Slot.deletes, requestsAt, List.countP_map, List.countP_filter, removes]
  congr 1
  funext route
  cases add : route.addOrRemove <;> simp [add]

/-! ### What is left does not apply -/

/-- Nothing of this applies to the router. -/
def Stalled (tunRouter : Router) (routes : List Route) : Prop :=
  ∀ route ∈ routes, applyRoute tunRouter route = none

/-- A pass that requeues as many entries as it met has met none that applies. -/
private theorem pass_stalled
    (all : (pass tunRouter routes).localHandle.length = routes.length) :
    Stalled tunRouter routes ∧ (pass tunRouter routes).tunRouter = tunRouter ∧
      (pass tunRouter routes).localHandle = routes := by
  induction routes with
  | nil => simp [Stalled, pass]
  | cons route rest ih =>
    cases applied : applyRoute tunRouter route with
    | some tunRouter' =>
      simp only [pass, applied, List.length_cons] at all
      have := pass_keeps_at_most tunRouter' rest
      omega
    | none =>
      simp only [pass, applied, List.length_cons, Nat.add_right_cancel_iff] at all ⊢
      obtain ⟨stalled, router, left⟩ := ih all
      exact ⟨List.forall_mem_cons.mpr ⟨applied, stalled⟩, router, by rw [left]⟩

private theorem stalled_again (all : state.again.localHandle.length = state.localHandle.length) :
    Stalled state.again.tunRouter state.again.localHandle := by
  obtain ⟨stalled, router, left⟩ := pass_stalled all
  change Stalled (pass _ _).tunRouter (pass _ _).localHandle
  rwa [router, left]

/-- An add entry that does not apply finds its address routed, a remove entry
finds it not routed. -/
theorem Stalled.counts (stalled : Stalled tunRouter routes) :
    if a ∈ tunRouter then removes a routes = 0 else adds a routes = 0 := by
  split
  · rename_i routed
    apply List.countP_eq_zero.mpr
    intro route member remove
    simp only [Bool.not_eq_true', decide_eq_true_eq] at remove
    obtain ⟨rfl, remove⟩ := remove
    obtain ⟨target, found⟩ := Option.isSome_iff_exists.mp (AList.lookup_isSome.mpr routed)
    simpa [applyRoute, remove, found] using stalled route member
  · rename_i vacant
    apply List.countP_eq_zero.mpr
    intro route member add
    simp only [decide_eq_true_eq] at add
    simpa [applyRoute, add, vacant] using stalled route member

/-! ### The balance of an address -/

/-- From one router and one list of entries to another without an entry having
been dropped. -/
def Balanced (before after : Router) (entries left : List Route) : Prop :=
  ∀ a, (if a ∈ before then 1 else 0) + adds a entries + removes a left =
    (if a ∈ after then 1 else 0) + adds a left + removes a entries

private theorem isSome_lookup (tunRouter : Router) (a : AddressV4) :
    (tunRouter.lookup a).isSome.toNat = if a ∈ tunRouter then 1 else 0 := by
  split <;> simp_all [← AList.lookup_isSome]

theorem pass_balanced (tunRouter : Router) (routes : List Route) :
    Balanced tunRouter (pass tunRouter routes).tunRouter routes
      (pass tunRouter routes).localHandle := by
  intro a
  have slot := pass_at a tunRouter routes
  have balance := @Slot.pass_balance _ (tunRouter.lookup a) (requestsAt a routes)
  rw [← slot] at balance
  simpa only [inserts_requestsAt, deletes_requestsAt, isSome_lookup] using balance

theorem Balanced.trans {first second third : Router} {entries left rest : List Route}
    (one : Balanced first second entries left) (two : Balanced second third left rest) :
    Balanced first third entries rest := by
  intro a
  have := one a
  have := two a
  omega

/-- The retry loop ends with nothing left that applies, and has dropped nothing
on the way. `size` counts `local_handle` from the second time round on. -/
private theorem retry_balanced (passes prevSize size : Nat)
    (counted : size ≠ sizeMinusOne → size = state.localHandle.length)
    (small : state.localHandle.length < sizeMinusOne)
    (stopped : prevSize = size → Stalled state.tunRouter state.localHandle)
    (ended : retry passes prevSize size state = some emptied) :
    Stalled emptied.tunRouter emptied.dropped ∧
      Balanced state.tunRouter emptied.tunRouter state.localHandle emptied.dropped := by
  induction passes generalizing prevSize size state with
  | zero => cases ended
  | succ passes ih =>
    rw [retry] at ended
    split at ended
    · rename_i stop
      cases ended
      exact ⟨stopped stop, fun a => rfl⟩
    · have balanced : Balanced state.tunRouter state.again.tunRouter state.localHandle
          state.again.localHandle := pass_balanced state.tunRouter state.localHandle
      have fewer := state.again_keeps_at_most
      dsimp only at ended
      split at ended
      · rename_i nothing
        cases ended
        rw [List.length_eq_zero_iff.mp nothing] at balanced
        exact ⟨by simp [Stalled], balanced⟩
      · obtain ⟨stalled, balanced'⟩ := ih size state.again.localHandle.length (fun _ => rfl)
          (by omega) (fun stop => stalled_again (by rw [← stop, counted (by omega)])) ended
        exact ⟨stalled, balanced.trans balanced'⟩

theorem emptyQueue_balanced {tunQueue : RoutesQueue}
    (ended : emptyQueue tunRouter tunQueue = some emptied) :
    Stalled emptied.tunRouter emptied.dropped ∧
      Balanced tunRouter emptied.tunRouter tunQueue.entries emptied.dropped := by
  have balanced := pass_balanced tunRouter tunQueue.entries
  unfold emptyQueue at ended
  dsimp only at ended
  split at ended
  · rename_i nothing
    cases ended
    rw [List.length_eq_zero_iff.mp nothing] at balanced
    exact ⟨by simp [Stalled], balanced⟩
  · have fewer := pass_keeps_at_most tunRouter tunQueue.entries
    have bounded := tunQueue.bounded
    have small : (pass tunRouter tunQueue.entries).localHandle.length < sizeMinusOne := by
      unfold CAPACITY at bounded
      unfold sizeMinusOne UInt64.size
      omega
    obtain ⟨stalled, balanced'⟩ := retry_balanced _ _ _ (by simp) small
      (fun stop => absurd stop (Nat.ne_of_lt small)) ended
    exact ⟨stalled, balanced.trans balanced'⟩

/-- What the balance comes to where nothing that is left applies. -/
private theorem Balanced.stalled {entries left : List Route}
    (balanced : Balanced tunRouter tunRouter' entries left) (stalled : Stalled tunRouter' left)
    (a : AddressV4) :
    (a ∈ tunRouter' ↔ (1 : Int) ≤ (if a ∈ tunRouter then 1 else 0) + adds a entries -
      removes a entries) ∧
    (adds a left : Int) =
      max 0 ((if a ∈ tunRouter then 1 else 0) + adds a entries - removes a entries - 1) ∧
    (removes a left : Int) =
      max 0 (removes a entries - adds a entries - if a ∈ tunRouter then 1 else 0) := by
  have balance := balanced a
  have counts := stalled.counts (a := a)
  by_cases routed : a ∈ tunRouter' <;> by_cases before : a ∈ tunRouter <;>
    simp only [routed, before, if_true, if_false, true_iff, false_iff] at balance counts ⊢ <;> omega

/-- **The order of the queue does not decide who is routed.** `emptyQueue` comes
to an end; an address is in the router then exactly if its adds and its place in
the router before outnumber its removes; what is logged and dropped of its
entries is the excess on one side; and a queue with the same entries in another
order routes the same addresses. -/
theorem emptyQueue_order (tunRouter : Router) (tunQueue : RoutesQueue) :
    ∃ emptied, emptyQueue tunRouter tunQueue = some emptied ∧
      (∀ a,
        (a ∈ emptied.tunRouter ↔ (1 : Int) ≤ (if a ∈ tunRouter then 1 else 0) +
          adds a tunQueue.entries - removes a tunQueue.entries) ∧
        (adds a emptied.dropped : Int) = max 0 ((if a ∈ tunRouter then 1 else 0) +
          adds a tunQueue.entries - removes a tunQueue.entries - 1) ∧
        (removes a emptied.dropped : Int) = max 0 (removes a tunQueue.entries -
          adds a tunQueue.entries - if a ∈ tunRouter then 1 else 0)) ∧
      ∀ (permuted : RoutesQueue), permuted.entries.Perm tunQueue.entries →
        ∃ emptied', emptyQueue tunRouter permuted = some emptied' ∧
          ∀ a, a ∈ emptied'.tunRouter ↔ a ∈ emptied.tunRouter := by
  obtain ⟨emptied, ended⟩ := emptyQueue_returns tunRouter tunQueue
  obtain ⟨stalled, balanced⟩ := emptyQueue_balanced ended
  refine ⟨emptied, ended, balanced.stalled stalled, fun permuted perm => ?_⟩
  obtain ⟨emptied', ended'⟩ := emptyQueue_returns tunRouter permuted
  obtain ⟨stalled', balanced'⟩ := emptyQueue_balanced ended'
  refine ⟨emptied', ended', fun a => ?_⟩
  rw [(balanced'.stalled stalled' a).1, (balanced.stalled stalled a).1, adds, removes,
    perm.countP_eq, perm.countP_eq, adds, removes]

/-- An add entry and its remove entry, and the same the other way round. -/
def addFirst : RoutesQueue :=
  ⟨[⟨true, ⟨0x0A7B0002⟩, 0, some 1⟩, ⟨false, ⟨0x0A7B0002⟩, 0, none⟩], by decide⟩
def removeFirst : RoutesQueue :=
  ⟨[⟨false, ⟨0x0A7B0002⟩, 0, none⟩, ⟨true, ⟨0x0A7B0002⟩, 0, some 1⟩], by decide⟩

theorem emptyQueue_order_swapped :
    ∃ emptied, emptyQueue ∅ removeFirst = some emptied ∧ ⟨0x0A7B0002⟩ ∉ emptied.tunRouter := by
  obtain ⟨_, _, counts, permuted⟩ := emptyQueue_order ∅ addFirst
  obtain ⟨emptied, ended, same⟩ := permuted removeFirst (.swap _ _ _)
  exact ⟨emptied, ended, by rw [same, (counts _).1]; decide⟩

end Vpverk.RouteQueue
