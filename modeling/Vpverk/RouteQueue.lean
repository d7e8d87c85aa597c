import Mathlib.Data.List.AList
import Vpverk.Addresses
import Vpverk.Slot

/-! The route queue and `SessionsControl::emptyQueue`: sessions push add and
remove entries, and the router applies them to `tunRouter` between two reads of
the tun device. An entry that does not apply is requeued in `local_handle` and
retried until a whole pass changes nothing; what is left then is dropped. -/
namespace Vpverk.RouteQueue
open Addresses

/-- The identity of an object behind a `shared_ptr`. -/
abbrev Ptr := Nat

/-- A value of `tunRouter`: the connection and the AES session of a route. -/
abbrev Target := Ptr × Option Ptr

/-- `aq_route`. A remove entry carries no AES session. -/
structure Route where
  addOrRemove : Bool
  addr : AddressV4
  con : Ptr
  aes : Option Ptr := none
  deriving DecidableEq, Repr

/-- `routes_q::CAPACITY`. -/
def CAPACITY : Nat := 1024 * 4

/-- `routes_queue`, oldest entry first. -/
structure RoutesQueue where
  entries : List Route := []
  bounded : entries.length ≤ CAPACITY := by exact Nat.zero_le _
  deriving DecidableEq

/-- `try_push`: refused when the queue is full. -/
def RoutesQueue.tryPush (queue : RoutesQueue) (route : Route) : Option RoutesQueue :=
  if room : queue.entries.length < CAPACITY then
    some ⟨queue.entries ++ [route], by simpa using Nat.succ_le_of_lt room⟩
  else none

theorem RoutesQueue.tryPush_entries {queue after : RoutesQueue} {route : Route}
    (pushed : queue.tryPush route = some after) : after.entries = queue.entries ++ [route] := by
  unfold RoutesQueue.tryPush at pushed
  split at pushed <;> cases pushed
  rfl

/-- `tunRouter`. -/
abbrev Router := AList (fun _ : AddressV4 => Target)

/-- One entry against the router, as both loops of `emptyQueue` handle it;
`none` when the entry is requeued. -/
def applyRoute (tunRouter : Router) (route : Route) : Option Router :=
  if route.addOrRemove then
    if route.addr ∈ tunRouter then none
    else some (tunRouter.insert route.addr (route.con, route.aes))
  else
    match tunRouter.lookup route.addr with
    | none => none
    | some _ => some (tunRouter.erase route.addr)

/-- The router and `local_handle` after a pass, with the entries the pass
applied and deleted, in order. -/
structure Pass where
  tunRouter : Router
  applied : List Route
  localHandle : List Route

/-- One pass: every entry met once, and requeued behind the others when it does
not apply. -/
def pass : Router → List Route → Pass
  | tunRouter, [] => ⟨tunRouter, [], []⟩
  | tunRouter, route :: rest =>
    match applyRoute tunRouter route with
    | some tunRouter' =>
      let done := pass tunRouter' rest
      { done with applied := route :: done.applied }
    | none =>
      let done := pass tunRouter rest
      { done with localHandle := route :: done.localHandle }

/-- One more pass, over what the passes so far have left. -/
def Pass.again (state : Pass) : Pass :=
  let next := pass state.tunRouter state.localHandle
  { next with applied := state.applied ++ next.applied }

/-- How `emptyQueue` leaves things: the router, the entries applied and deleted
in order, and the entries logged, dropped and deleted. -/
structure Emptied where
  tunRouter : Router
  applied : List Route
  dropped : List Route

/-- The do-while loop over `local_handle`, at most `passes` times round; `none`
while it is still running. -/
def retry : Nat → (prevSize size : Nat) → Pass → Option Emptied
  | 0, _, _, _ => none
  | passes + 1, prevSize, size, state =>
    if prevSize = size then some ⟨state.tunRouter, state.applied, state.localHandle⟩
    else
      let next := state.again
      if next.localHandle.length = 0 then some ⟨next.tunRouter, next.applied, []⟩
      else retry passes size next.localHandle.length next

/-- `size_t size = -1`. -/
def sizeMinusOne : Nat := UInt64.size - 1

/-- `SessionsControl::emptyQueue`. The bound on the second loop is never what
ends it (`emptyQueue_returns`). -/
def emptyQueue (tunRouter : Router) (tunQueue : RoutesQueue) : Option Emptied :=
  let first := pass tunRouter tunQueue.entries
  if first.localHandle.length = 0 then some ⟨first.tunRouter, first.applied, []⟩
  else retry (first.localHandle.length + 2) first.localHandle.length sizeMinusOne first

variable {tunRouter tunRouter' : Router} {route : Route} {a : AddressV4}

theorem pass_keeps_at_most (tunRouter : Router) (routes : List Route) :
    (pass tunRouter routes).localHandle.length ≤ routes.length := by
  induction routes generalizing tunRouter with
  | nil => simp [pass]
  | cons route rest ih =>
    simp only [pass]
    split
    · exact Nat.le_succ_of_le (ih _)
    · simpa using ih _

theorem Pass.again_keeps_at_most (state : Pass) :
    state.again.localHandle.length ≤ state.localHandle.length :=
  pass_keeps_at_most state.tunRouter state.localHandle

/-- Once the size counts `local_handle`, every further pass either shortens it
or is the last. -/
private theorem retry_returns (passes prevSize : Nat) (state : Pass)
    (enough : state.localHandle.length < passes) :
    (retry passes prevSize state.localHandle.length state).isSome := by
  induction passes generalizing prevSize state with
  | zero => omega
  | succ passes ih =>
    have shorter := state.again_keeps_at_most
    rw [retry]
    split
    · rfl
    · dsimp only
      split
      · rfl
      · by_cases stalled : state.again.localHandle.length = state.localHandle.length
        · obtain ⟨passes, rfl⟩ : ∃ n, passes = n + 1 := ⟨passes - 1, by omega⟩
          rw [retry, if_pos stalled.symm]
          rfl
        · exact ih _ _ (by omega)

/-- `emptyQueue` always comes to an end within its bound. -/
theorem emptyQueue_returns (tunRouter : Router) (tunQueue : RoutesQueue) :
    ∃ emptied, emptyQueue tunRouter tunQueue = some emptied := by
  apply Option.isSome_iff_exists.mp
  unfold emptyQueue
  dsimp only
  split
  · rfl
  · have shorter := (pass tunRouter tunQueue.entries).again_keeps_at_most
    rw [retry]
    split
    · rfl
    · dsimp only
      split
      · rfl
      · exact retry_returns _ _ _ (by omega)

/-! ### One address at a time -/

/-- What the entries for one address ask of its slot in the router. -/
def requestsAt (a : AddressV4) (routes : List Route) : List (Option Target) :=
  (routes.filter (·.addr = a)).map fun route =>
    if route.addOrRemove then some (route.con, route.aes) else none

@[simp] theorem requestsAt_nil : requestsAt a [] = [] := rfl

theorem requestsAt_append (first second : List Route) :
    requestsAt a (first ++ second) = requestsAt a first ++ requestsAt a second := by
  simp [requestsAt]

theorem requestsAt_same (rest : List Route) (same : route.addr = a) :
    requestsAt a (route :: rest) =
      (if route.addOrRemove then some (route.con, route.aes) else none) :: requestsAt a rest := by
  simp [requestsAt, same]

theorem requestsAt_other (rest : List Route) (other : route.addr ≠ a) :
    requestsAt a (route :: rest) = requestsAt a rest := by
  simp [requestsAt, other]

/-- An entry acts on the slot of its own address as a request does. -/
theorem applyRoute_same (tunRouter : Router) (route : Route) :
    (applyRoute tunRouter route).map (·.lookup route.addr) =
      Slot.apply (tunRouter.lookup route.addr)
        (if route.addOrRemove then some (route.con, route.aes) else none) := by
  unfold applyRoute
  cases found : tunRouter.lookup route.addr with
  | none =>
    have absent : route.addr ∉ tunRouter := AList.lookup_eq_none.mp found
    by_cases add : route.addOrRemove <;> simp [add, absent, Slot.apply]
  | some target =>
    have present : route.addr ∈ tunRouter := AList.lookup_isSome.mp (by simp [found])
    by_cases add : route.addOrRemove <;> simp [add, present, Slot.apply]

/-- An entry leaves the slot of every other address alone. -/
theorem applyRoute_other (applied : applyRoute tunRouter route = some tunRouter')
    (other : route.addr ≠ a) : tunRouter'.lookup a = tunRouter.lookup a := by
  unfold applyRoute at applied
  split at applied
  · split at applied
    · cases applied
    · cases applied
      exact AList.lookup_insert_ne other.symm
  · split at applied
    · cases applied
    · cases applied
      exact AList.lookup_erase_ne other.symm

/-- A pass over the queue is, at each address, a pass over that address's
requests. -/
theorem pass_at (a : AddressV4) (tunRouter : Router) (routes : List Route) :
    ((pass tunRouter routes).tunRouter.lookup a,
        requestsAt a (pass tunRouter routes).localHandle) =
      Slot.pass (tunRouter.lookup a) (requestsAt a routes) := by
  induction routes generalizing tunRouter with
  | nil => rfl
  | cons route rest ih =>
    by_cases same : route.addr = a
    · subst same
      have acts := applyRoute_same tunRouter route
      rw [requestsAt_same rest rfl]
      cases applied : applyRoute tunRouter route with
      | some tunRouter' =>
        simp only [applied, Option.map_some] at acts
        simp only [pass, applied, Slot.pass, ← acts]
        exact ih tunRouter'
      | none =>
        simp only [applied, Option.map_none] at acts
        simp only [pass, applied, Slot.pass, ← acts, ← ih tunRouter, requestsAt_same _ rfl]
    · rw [requestsAt_other rest same]
      cases applied : applyRoute tunRouter route with
      | some tunRouter' =>
        simp only [pass, applied]
        rw [ih tunRouter', applyRoute_other applied same]
      | none =>
        simp only [pass, applied, requestsAt_other _ same]
        exact ih tunRouter

/-- When only removes of an address are left to retry, the first of them that is
met with the address routed takes the route away, and the others do nothing. -/
private theorem retry_removes (passes prevSize size count : Nat) (state : Pass) (emptied : Emptied)
    (removes : requestsAt a state.localHandle = List.replicate count none)
    (stopped : prevSize = size → count = 0 ∨ state.tunRouter.lookup a = none)
    (ended : retry passes prevSize size state = some emptied) :
    emptied.tunRouter.lookup a = if count = 0 then state.tunRouter.lookup a else none := by
  induction passes generalizing prevSize size count state with
  | zero => cases ended
  | succ passes ih =>
    rw [retry] at ended
    split at ended
    · rename_i stop
      cases ended
      rcases stopped stop with none_left | gone
      · simp [none_left]
      · simp [gone]
    · have slot : (state.again.tunRouter.lookup a, requestsAt a state.again.localHandle) = _ :=
        pass_at a state.tunRouter state.localHandle
      rw [removes, Slot.pass_deletes] at slot
      obtain ⟨here, kept⟩ := Prod.mk.inj slot
      dsimp only at ended
      split at ended
      · cases ended
        exact here
      · have rest := ih _ _ _ _ kept
          (by rw [here]; by_cases c : count = 0 <;> simp [c]) ended
        rw [rest, here]
        by_cases c : count = 0 <;> simp [c]

/-- Where no add ever meets a routed address, `emptyQueue` grants the last
request for the address, unless a remove in the batch found nothing to remove:
then the address ends up unrouted. -/
theorem emptyQueue_at {tunQueue : RoutesQueue} {emptied : Emptied}
    (noClash : Slot.NoClash (tunRouter.lookup a).isSome (requestsAt a tunQueue.entries))
    (ended : emptyQueue tunRouter tunQueue = some emptied) :
    emptied.tunRouter.lookup a =
      if Slot.unmatched (tunRouter.lookup a).isSome (requestsAt a tunQueue.entries) = 0 then
        Slot.wanted (tunRouter.lookup a) (requestsAt a tunQueue.entries)
      else none := by
  have slot := pass_at a tunRouter tunQueue.entries
  rw [Slot.pass_of_noClash noClash] at slot
  obtain ⟨here, kept⟩ := Prod.mk.inj slot
  unfold emptyQueue at ended
  dsimp only at ended
  split at ended
  · rename_i nothing
    cases ended
    rw [List.length_eq_zero_iff.mp nothing, requestsAt_nil] at kept
    rw [here, if_pos (by simpa using kept.symm)]
  · have small := pass_keeps_at_most tunRouter tunQueue.entries
    have bounded := tunQueue.bounded
    have differs : (pass tunRouter tunQueue.entries).localHandle.length ≠ sizeMinusOne := by
      unfold CAPACITY at bounded
      unfold sizeMinusOne UInt64.size
      omega
    rw [retry_removes _ _ _ _ _ _ kept (fun stop => absurd stop differs) ended, here]

/-! ### Where the routes come from -/

section
variable {valid : AddressV4 → Target → Prop}

/-- Every route is one of these. -/
def Router.All (valid : AddressV4 → Target → Prop) (tunRouter : Router) : Prop :=
  ∀ a target, tunRouter.lookup a = some target → valid a target

/-- So is every route that is asked for. -/
def AllAsked (valid : AddressV4 → Target → Prop) (routes : List Route) : Prop :=
  ∀ route ∈ routes, route.addOrRemove = true → valid route.addr (route.con, route.aes)

private theorem applyRoute_all (all : Router.All valid tunRouter)
    (asked : route.addOrRemove = true → valid route.addr (route.con, route.aes))
    (applied : applyRoute tunRouter route = some tunRouter') : Router.All valid tunRouter' := by
  intro a target found
  by_cases same : route.addr = a
  · subst same
    have acts := applyRoute_same tunRouter route
    rw [applied, Option.map_some, found] at acts
    cases here : tunRouter.lookup route.addr with
    | some _ => cases add : route.addOrRemove <;> simp [here, add, Slot.apply] at acts
    | none =>
      cases add : route.addOrRemove with
      | false => simp [here, add, Slot.apply] at acts
      | true =>
        obtain rfl : target = _ := by simpa [here, add, Slot.apply] using acts
        exact asked add
  · exact all a target ((applyRoute_other applied same).symm.trans found)

private theorem pass_all {routes : List Route} (all : Router.All valid tunRouter)
    (asked : AllAsked valid routes) : Router.All valid (pass tunRouter routes).tunRouter ∧
      AllAsked valid (pass tunRouter routes).localHandle := by
  induction routes generalizing tunRouter with
  | nil => exact ⟨all, asked⟩
  | cons route rest ih =>
    obtain ⟨here, later⟩ := List.forall_mem_cons.mp asked
    cases applied : applyRoute tunRouter route with
    | some tunRouter' =>
      simp only [pass, applied]
      exact ih (applyRoute_all all here applied) later
    | none =>
      simp only [pass, applied]
      obtain ⟨all, left⟩ := ih all later
      exact ⟨all, List.forall_mem_cons.mpr ⟨here, left⟩⟩

private theorem retry_all {passes prevSize size : Nat} {state : Pass} {emptied : Emptied}
    (all : Router.All valid state.tunRouter) (asked : AllAsked valid state.localHandle)
    (ended : retry passes prevSize size state = some emptied) :
    Router.All valid emptied.tunRouter := by
  induction passes generalizing prevSize size state with
  | zero => cases ended
  | succ passes ih =>
    have again : Router.All valid state.again.tunRouter ∧ AllAsked valid state.again.localHandle :=
      pass_all all asked
    rw [retry] at ended
    split at ended
    · cases ended
      exact all
    · dsimp only at ended
      split at ended
      · cases ended
        exact again.1
      · exact ih again.1 again.2 ended

/-- `emptyQueue` makes no route that nobody has asked for. -/
theorem emptyQueue_all {tunQueue : RoutesQueue} {emptied : Emptied} (all : Router.All valid tunRouter)
    (asked : AllAsked valid tunQueue.entries)
    (ended : emptyQueue tunRouter tunQueue = some emptied) : Router.All valid emptied.tunRouter := by
  have first := pass_all all asked
  unfold emptyQueue at ended
  dsimp only at ended
  split at ended
  · cases ended
    exact first.1
  · exact retry_all first.1 first.2 ended

end

end Vpverk.RouteQueue
