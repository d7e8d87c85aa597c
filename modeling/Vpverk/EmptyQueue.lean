import Vpverk.Asioapi
import Vpverk.QueueOrder

/-! `SessionsControl::emptyQueue` with its pointers. The queue owns what it
holds; a popped entry is owned by `local_handle` or by the loop that holds it,
and whoever owns it last deletes it. An entry that is read or deleted when it is
no longer there, or a `front` of an empty queue, leaves what the language
defines. -/
namespace Vpverk.EmptyQueue
open Addresses RouteQueue Coroutine Asioapi

/-- An `aq_route*`, which is what `routes_q::Element` is. -/
abbrev Element := Nat

/-- `routes_q::NIL`. -/
def NIL : Element := 0

/-- What becomes of an entry. -/
inductive Event where
  /-- It changed the router. -/
  | applied (ptr : Element)
  /-- It was written to the log, unapplied. -/
  | dropped (ptr : Element)
  | deleted (ptr : Element)
  deriving DecidableEq

def Event.ptr : Event → Element
  | .applied ptr | .dropped ptr | .deleted ptr => ptr

/-- What `emptyQueue` works on, and what it has done so far. -/
structure World where
  heap : Element → Option Route
  tunRouter : Router
  tunQueue : List Element
  localHandle : List Element := []
  events : List Event := []

/-- `*ptr` -/
def deref (ptr : Element) : Coroutine World Route := do
  let world ← look
  match world.heap ptr with
  | none => stop .undefined
  | some route => pure route

/-- `delete ptr` -/
def delete (ptr : Element) : Coroutine World Unit := do
  let world ← look
  match world.heap ptr with
  | none => stop .undefined
  | some _ => change fun world =>
    { world with heap := Function.update world.heap ptr none
                 events := world.events ++ [.deleted ptr] }

/-- What both loops do with an entry: apply and delete it, or put it off. -/
def handle (ptr : Element) : Coroutine World Unit := do
  let route ← deref ptr
  let world ← look
  match applyRoute world.tunRouter route with
  | none => change fun world => { world with localHandle := world.localHandle ++ [ptr] }
  | some tunRouter => do
    change fun world =>
      { world with tunRouter := tunRouter, events := world.events ++ [.applied ptr] }
    delete ptr

/-- The loop over `tunQueue`, at most `passes` times round. Nobody else pops, so
what is not empty can be popped. -/
def popAll : Nat → Coroutine World Unit
  | 0 => running
  | passes + 1 => do
    let world ← look
    match world.tunQueue with
    | [] => pure ()
    | ptr :: rest => do
      change fun world => { world with tunQueue := rest }
      cussert (ptr ≠ NIL) "ptr not_eq nullptr"
      handle ptr
      popAll passes

/-- The first entry of `local_handle`, which `front` and `pop` take. -/
def takeFront : Coroutine World Element := do
  let world ← look
  match world.localHandle with
  | [] => stop .undefined
  | ptr :: rest => do
    change fun world => { world with localHandle := rest }
    pure ptr

/-- The for loop over the entries put off, with `left` of them to go. -/
def retryEach : (left : Nat) → Coroutine World Unit
  | 0 => pure ()
  | left + 1 => do
    let ptr ← takeFront
    handle ptr
    retryEach left

/-- The loop that gives up, at most `passes` times round. -/
def dropAll : Nat → Coroutine World Unit
  | 0 => running
  | passes + 1 => do
    let world ← look
    if world.localHandle.length = 0 then pure ()
    else do
      let ptr ← takeFront
      let _ ← deref ptr
      change fun world => { world with events := world.events ++ [.dropped ptr] }
      delete ptr
      dropAll passes

/-- The do-while loop, at most `passes` times round. -/
def retry (bound : Nat) : (passes prevSize size : Nat) → Coroutine World Unit
  | 0, _, _ => running
  | passes + 1, prevSize, size =>
    if prevSize = size then dropAll bound
    else do
      let world ← look
      retryEach world.localHandle.length
      let world ← look
      if world.localHandle.length = 0 then pure ()
      else retry bound passes size world.localHandle.length

/-- `SessionsControl::emptyQueue`, with `passes` as the bound on each of its
while loops. -/
def emptyQueue (passes : Nat) : Coroutine World Unit := do
  popAll passes
  let world ← look
  if world.localHandle.length = 0 then pure ()
  else retry passes passes world.localHandle.length sizeMinusOne

/-- `tunQueue` as `emptyQueue` finds it. Every entry was made by a `new` of its
own and given away by the push. -/
structure Queued where
  entries : List Element
  heap : Element → Option Route
  bounded : entries.length ≤ CAPACITY
  live : ∀ ptr ∈ entries, ∃ route, heap ptr = some route
  nil : heap NIL = none
  nodup : entries.Nodup

/-- The world a call begins in. -/
def Queued.world (queued : Queued) (tunRouter : Router) : World where
  heap := queued.heap
  tunRouter := tunRouter
  tunQueue := queued.entries

variable {world after : World} {ptr : Element} {ptrs rest applied dropped left : List Element}
  {route : Route} {heap : Element → Option Route} {passes bound : Nat}

/-! ### One entry -/

theorem handle_applies {tunRouter : Router} (found : world.heap ptr = some route)
    (applies : applyRoute world.tunRouter route = some tunRouter) :
    (handle ptr).run world = (.ok (),
      { world with tunRouter := tunRouter
                   heap := Function.update world.heap ptr none
                   events := world.events ++ [.applied ptr, .deleted ptr] }) := by
  have read : (deref ptr).run world = (.ok route, world) := by simp [deref, found]
  rw [handle, bind_ok read]
  simp [applies, delete, found]

theorem handle_requeues (found : world.heap ptr = some route)
    (refused : applyRoute world.tunRouter route = none) :
    (handle ptr).run world = (.ok (), { world with localHandle := world.localHandle ++ [ptr] }) := by
  have read : (deref ptr).run world = (.ok route, world) := by simp [deref, found]
  rw [handle, bind_ok read]
  simp [refused]

/-- These entries are there to be read and deleted, each of them once. -/
structure Owned (heap : Element → Option Route) (world : World) (ptrs : List Element) : Prop where
  nodup : ptrs.Nodup
  live : ∀ ptr ∈ ptrs, ∃ route, heap ptr = some route ∧ world.heap ptr = some route

/-- With the first of them deleted, the others are still there. -/
theorem Owned.deleted (owned : Owned heap world (ptr :: rest))
    (gone : after.heap = Function.update world.heap ptr none) : Owned heap after rest := by
  obtain ⟨fresh, nodup⟩ := List.nodup_cons.mp owned.nodup
  refine ⟨nodup, ?_⟩
  intro other member
  obtain ⟨route, found, here⟩ := owned.live other (.tail _ member)
  have differs : other ≠ ptr := by
    rintro rfl
    exact fresh member
  exact ⟨route, found, by simpa [gone, Function.update, differs] using here⟩

/-- From one world to the next, these entries were met in this order, and of
them some were applied and deleted and the others left. -/
structure Met (heap : Element → Option Route) (world after : World)
    (ptrs applied left : List Element) : Prop where
  perm : (applied ++ left).Perm ptrs
  pass : pass world.tunRouter (ptrs.filterMap heap) =
    ⟨after.tunRouter, applied.filterMap heap, left.filterMap heap⟩
  heap : ∀ ptr, after.heap ptr = if ptr ∈ applied then none else world.heap ptr
  events : after.events = world.events ++ applied.flatMap fun ptr => [.applied ptr, .deleted ptr]

theorem Met.nil : Met heap world world [] [] [] := ⟨.nil, rfl, by simp, by simp⟩

theorem Met.cons_applied {tunRouter : Router} {handled : World} (found : heap ptr = some route)
    (applies : applyRoute world.tunRouter route = some tunRouter)
    (met : Met heap handled after rest applied left) (router : handled.tunRouter = tunRouter)
    (gone : handled.heap = Function.update world.heap ptr none)
    (told : handled.events = world.events ++ [.applied ptr, .deleted ptr]) :
    Met heap world after (ptr :: rest) (ptr :: applied) left where
  perm := met.perm.cons ptr
  pass := by
    have later := met.pass
    rw [router] at later
    simp [found, RouteQueue.pass, applies, later]
  heap other := by
    rw [met.heap other, gone]
    by_cases same : other = ptr <;> simp [same, Function.update]
  events := by rw [met.events, told]; simp

theorem Met.cons_requeued {handled : World} (found : heap ptr = some route)
    (refused : applyRoute world.tunRouter route = none)
    (met : Met heap handled after rest applied left)
    (router : handled.tunRouter = world.tunRouter) (same : handled.heap = world.heap)
    (told : handled.events = world.events) :
    Met heap world after (ptr :: rest) applied (ptr :: left) where
  perm := List.perm_middle.trans (met.perm.cons ptr)
  pass := by
    have later := met.pass
    rw [router] at later
    simp [found, RouteQueue.pass, refused, later]
  heap other := by rw [met.heap other, same]
  events := by rw [met.events, told]

/-- An entry is met: what `handle` does with it, whatever then becomes of the
others. -/
theorem handle_met (owned : Owned heap world (ptr :: rest)) :
    ∃ handled put, (handle ptr).run world = (.ok (), handled) ∧
      handled.tunQueue = world.tunQueue ∧ handled.localHandle = world.localHandle ++ put ∧
      Owned heap handled rest ∧
      ∀ {after applied left}, Met heap handled after rest applied left →
        ∃ applied', Met heap world after (ptr :: rest) applied' (put ++ left) := by
  obtain ⟨_, nodup⟩ := List.nodup_cons.mp owned.nodup
  obtain ⟨⟨route, found, here⟩, live⟩ := List.forall_mem_cons.mp owned.live
  cases applies : applyRoute world.tunRouter route with
  | some tunRouter =>
    refine ⟨_, [], handle_applies here applies, rfl, (List.append_nil _).symm, owned.deleted rfl, ?_⟩
    intro after applied left met
    exact ⟨_, .cons_applied found applies met rfl rfl rfl⟩
  | none =>
    refine ⟨_, [ptr], handle_requeues here applies, rfl, rfl, ⟨nodup, live⟩, ?_⟩
    intro after applied left met
    exact ⟨_, .cons_requeued found applies met rfl rfl rfl⟩

/-! ### The passes -/

theorem popAll_met (queue : world.tunQueue = ptrs) (owned : Owned heap world ptrs)
    (nil : heap NIL = none) :
    ∃ applied left after,
      (∀ passes, ptrs.length < passes → (popAll passes).run world = (.ok (), after)) ∧
      Met heap world after ptrs applied left ∧ after.tunQueue = [] ∧
      after.localHandle = world.localHandle ++ left := by
  induction ptrs generalizing world with
  | nil =>
    refine ⟨[], [], world, ?_, .nil, queue, by simp⟩
    intro passes enough
    obtain ⟨passes, rfl⟩ := Nat.exists_eq_add_of_lt enough
    simp [popAll, queue]
  | cons ptr rest ih =>
    have popped : Owned heap { world with tunQueue := rest } (ptr :: rest) := ⟨owned.nodup, owned.live⟩
    obtain ⟨handled, put, ran, queue', kept, owned', rejoin⟩ := handle_met popped
    obtain ⟨applied, left, after, ran', met, queue'', kept'⟩ := ih queue' owned'
    obtain ⟨applied', met'⟩ := rejoin met
    have notNil : ptr ≠ NIL := by
      rintro rfl
      obtain ⟨route, found, _⟩ := owned.live NIL (by simp)
      simp [nil] at found
    refine ⟨applied', put ++ left, after, ?_, ⟨met'.perm, met'.pass, met'.heap, met'.events⟩,
      queue'', by rw [kept', kept, List.append_assoc]⟩
    intro passes enough
    obtain ⟨passes, rfl⟩ : ∃ n, passes = n + 1 := ⟨passes - 1, by omega⟩
    simp only [popAll, bind_look_run, queue, bind_change_run]
    rw [bind_ok (cussert_run _ (by simpa using notNil)), bind_ok ran,
      ran' passes (by simpa using enough)]

/-- The for loop meets the entries that were put off when it began, and puts
those that still do not apply behind. -/
theorem retryEach_met {kept : List Element} (queue : world.localHandle = ptrs ++ kept)
    (owned : Owned heap world ptrs) :
    ∃ applied left after, (retryEach ptrs.length).run world = (.ok (), after) ∧
      Met heap world after ptrs applied left ∧ after.tunQueue = world.tunQueue ∧
      after.localHandle = kept ++ left := by
  induction ptrs generalizing world kept with
  | nil => exact ⟨[], [], world, rfl, .nil, rfl, by simpa using queue⟩
  | cons ptr rest ih =>
    have took : takeFront.run world = (.ok ptr, { world with localHandle := rest ++ kept }) := by
      simp [takeFront, queue]
    have popped : Owned heap { world with localHandle := rest ++ kept } (ptr :: rest) :=
      ⟨owned.nodup, owned.live⟩
    obtain ⟨handled, put, ran, queue', behind, owned', rejoin⟩ := handle_met popped
    have behind_kept : handled.localHandle = rest ++ (kept ++ put) := by
      rw [behind, List.append_assoc]
    obtain ⟨applied, left, after, ran', met, queue'', behind'⟩ := ih behind_kept owned'
    obtain ⟨applied', met'⟩ := rejoin met
    refine ⟨applied', put ++ left, after, ?_, ⟨met'.perm, met'.pass, met'.heap, met'.events⟩,
      queue''.trans queue', by rw [behind', List.append_assoc]⟩
    rw [List.length_cons, retryEach, bind_ok took, bind_ok ran, ran']

theorem Met.owned {kept : List Element} (met : Met heap world after ptrs applied left)
    (owned : Owned heap world ptrs) (same : kept = left) : Owned heap after kept where
  nodup := by
    have nodup := (met.perm.nodup_iff.mpr owned.nodup)
    rw [same]
    exact (List.nodup_append.mp nodup).2.1
  live ptr member := by
    have nodup := met.perm.nodup_iff.mpr owned.nodup
    rw [same] at member
    obtain ⟨route, found, here⟩ := owned.live ptr (met.perm.mem_iff.mp (by simp [member]))
    have spared : ptr ∉ applied := by
      intro member'
      exact (List.nodup_append.mp nodup).2.2 ptr member' ptr member rfl
    exact ⟨route, found, by rw [met.heap, if_neg spared, here]⟩

/-- Giving up: every entry that is left is logged and deleted. -/
theorem dropAll_run (queue : world.localHandle = ptrs) (owned : Owned heap world ptrs) :
    ∃ after,
      (∀ passes, ptrs.length < passes → (dropAll passes).run world = (.ok (), after)) ∧
      after.tunQueue = world.tunQueue ∧ after.tunRouter = world.tunRouter ∧
      after.localHandle = [] ∧
      (∀ ptr, after.heap ptr = if ptr ∈ ptrs then none else world.heap ptr) ∧
      after.events = world.events ++ ptrs.flatMap fun ptr => [.dropped ptr, .deleted ptr] := by
  induction ptrs generalizing world with
  | nil =>
    refine ⟨world, ?_, rfl, rfl, queue, by simp, by simp⟩
    intro passes enough
    obtain ⟨passes, rfl⟩ := Nat.exists_eq_add_of_lt enough
    simp [dropAll, queue]
  | cons ptr rest ih =>
    obtain ⟨route, found, here⟩ := owned.live ptr (List.mem_cons_self ..)
    have took : takeFront.run world = (.ok ptr, { world with localHandle := rest }) := by
      simp [takeFront, queue]
    let dropped : World := { world with
      localHandle := rest
      heap := Function.update world.heap ptr none
      events := world.events ++ [.dropped ptr, .deleted ptr] }
    have owned' : Owned heap dropped rest := owned.deleted rfl
    have popped : dropped.localHandle = rest := rfl
    obtain ⟨after, ran, queue', router, nothing, gone, told⟩ := ih popped owned'
    refine ⟨after, ?_, queue', router, nothing, ?_, by simp [told, dropped]⟩
    · intro passes enough
      obtain ⟨passes, rfl⟩ : ∃ n, passes = n + 1 := ⟨passes - 1, by omega⟩
      have read : (deref ptr).run { world with localHandle := rest } =
          (.ok route, { world with localHandle := rest }) := by
        simp [deref, here]
      have deleted : (delete ptr).run { world with
          localHandle := rest, events := world.events ++ [.dropped ptr] } = (.ok (), dropped) := by
        simp [delete, here, dropped]
      simp only [dropAll, bind_look_run, queue]
      rw [if_neg (by simp), bind_ok took, bind_ok read, bind_change_run, bind_ok deleted,
        ran passes (by simpa using enough)]
    · intro other
      rw [gone]
      by_cases same : other = ptr <;> simp [dropped, same, Function.update]

/-! ### To the end -/

theorem Owned.length_routes (owned : Owned heap world ptrs) :
    (ptrs.filterMap heap).length = ptrs.length := by
  have every : ∀ ptr ∈ ptrs, (heap ptr).isSome := by
    intro ptr member
    obtain ⟨route, found, _⟩ := owned.live ptr member
    simp [found]
  clear owned
  induction ptrs with
  | nil => rfl
  | cons ptr rest ih =>
    obtain ⟨here, later⟩ := List.forall_mem_cons.mp every
    obtain ⟨route, found⟩ := Option.isSome_iff_exists.mp here
    simp [found, ih later]

/-- From one world to the next these entries were all deleted, some of them
applied before that and then the others dropped. -/
structure Settled (world after : World) (ptrs applied dropped : List Element) : Prop where
  perm : (applied ++ dropped).Perm ptrs
  heap : ∀ ptr, after.heap ptr = if ptr ∈ ptrs then none else world.heap ptr
  events : after.events = world.events ++
    (applied.flatMap fun ptr => [.applied ptr, .deleted ptr]) ++
      dropped.flatMap fun ptr => [.dropped ptr, .deleted ptr]

/-- No more is left than there was. -/
theorem Met.fewer (met : Met heap world after ptrs applied left) : left.length ≤ ptrs.length := by
  have length := met.perm.length_eq
  rw [List.length_append] at length
  omega

theorem Met.settled (met : Met heap world after ptrs applied []) :
    Settled world after ptrs applied [] where
  perm := met.perm
  heap ptr := by
    rw [met.heap]
    simp [← met.perm.mem_iff]
  events := by simp [met.events]

theorem Met.then_settled {mid : World} {applied' : List Element}
    (met : Met heap world mid ptrs applied left)
    (settled : Settled mid after left applied' dropped) :
    Settled world after ptrs (applied ++ applied') dropped where
  perm := by
    rw [List.append_assoc]
    exact (settled.perm.append_left applied).trans met.perm
  heap ptr := by
    rw [settled.heap, met.heap]
    by_cases one : ptr ∈ left <;> by_cases other : ptr ∈ applied <;>
      simp [← met.perm.mem_iff, one, other]
  events := by simp [settled.events, met.events]

/-- The do-while loop does with the pointers what the loop over the entries does
with the entries. -/
theorem retry_refines {fuel prevSize size : Nat} {state : Pass} {emptied : Emptied}
    (router : state.tunRouter = world.tunRouter)
    (queue : state.localHandle = world.localHandle.filterMap heap)
    (owned : Owned heap world world.localHandle)
    (ended : RouteQueue.retry fuel prevSize size state = some emptied) :
    ∃ applied dropped after,
      (∀ bound passes, world.localHandle.length < bound → fuel ≤ passes →
        (retry bound passes prevSize size).run world = (.ok (), after)) ∧
      after.tunQueue = world.tunQueue ∧ after.localHandle = [] ∧
      Settled world after world.localHandle applied dropped ∧
      emptied = ⟨after.tunRouter, state.applied ++ applied.filterMap heap, dropped.filterMap heap⟩ := by
  induction fuel generalizing world prevSize size state with
  | zero => cases ended
  | succ fuel ih =>
    rw [RouteQueue.retry] at ended
    split at ended
    · rename_i stop
      cases ended
      obtain ⟨after, ran, queue', router', nothing, gone, told⟩ := dropAll_run rfl owned
      refine ⟨[], world.localHandle, after, ?_, queue', nothing,
        ⟨.refl _, gone, by simp [told]⟩, by simp [router, router', queue]⟩
      intro bound passes room enough
      obtain ⟨passes, rfl⟩ : ∃ n, passes = n + 1 := ⟨passes - 1, by omega⟩
      rw [retry, if_pos stop, ran bound room]
    · rename_i goes
      obtain ⟨applied, left, mid, ran, met, queue', behind⟩ :=
        retryEach_met (List.append_nil _).symm owned
      rw [List.nil_append] at behind
      have again : state.again =
          ⟨mid.tunRouter, state.applied ++ applied.filterMap heap, left.filterMap heap⟩ := by
        rw [Pass.again, router, queue, met.pass]
      have owned' : Owned heap mid mid.localHandle := met.owned owned behind
      have size' : (left.filterMap heap).length = mid.localHandle.length := by
        rw [← behind, owned'.length_routes]
      simp only [again, size'] at ended
      split at ended
      · rename_i nothing
        cases ended
        have none_left : mid.localHandle = [] := List.length_eq_zero_iff.mp nothing
        rw [behind] at none_left
        subst none_left
        refine ⟨applied, [], mid, ?_, queue', behind, met.settled, by simp⟩
        intro bound passes room enough
        obtain ⟨passes, rfl⟩ : ∃ n, passes = n + 1 := ⟨passes - 1, by omega⟩
        rw [retry, if_neg goes, bind_look_run, bind_ok ran, bind_look_run, if_pos nothing]
        rfl
      · rename_i more
        obtain ⟨applied', dropped, after, ran', queue'', nothing, settled, same⟩ :=
          ih rfl (by simp [behind]) owned' ended
        rw [behind] at settled
        refine ⟨applied ++ applied', dropped, after, ?_, queue''.trans queue', nothing,
          met.then_settled settled, by simp [same]⟩
        intro bound passes room enough
        obtain ⟨passes, rfl⟩ : ∃ n, passes = n + 1 := ⟨passes - 1, by omega⟩
        have fewer : mid.localHandle.length ≤ world.localHandle.length := behind ▸ met.fewer
        rw [retry, if_neg goes, bind_look_run, bind_ok ran, bind_look_run, if_neg more,
          ran' bound passes (by omega) (by omega)]

/-- The entries behind these pointers. -/
def Queued.routes (queued : Queued) (ptrs : List Element) : List Route :=
  ptrs.filterMap queued.heap

/-- The queue as a queue of entries. -/
def Queued.toRoutesQueue (queued : Queued) : RoutesQueue :=
  ⟨queued.routes queued.entries, (List.length_filterMap_le _ _).trans queued.bounded⟩

/-- `emptyQueue` comes to its end, and does with the pointers what it does with
the entries. -/
theorem emptyQueue_refines (queued : Queued) (tunRouter : Router) :
    ∃ applied dropped after,
      (∀ passes, queued.entries.length + 2 ≤ passes →
        (emptyQueue passes).run (queued.world tunRouter) = (.ok (), after)) ∧
      after.tunQueue = [] ∧ after.localHandle = [] ∧
      Settled (queued.world tunRouter) after queued.entries applied dropped ∧
      RouteQueue.emptyQueue tunRouter queued.toRoutesQueue =
        some ⟨after.tunRouter, queued.routes applied, queued.routes dropped⟩ := by
  have owned : Owned queued.heap (queued.world tunRouter) queued.entries := by
    refine ⟨queued.nodup, ?_⟩
    intro ptr member
    obtain ⟨route, found⟩ := queued.live ptr member
    exact ⟨route, found, found⟩
  have begun : (queued.world tunRouter).tunQueue = queued.entries := rfl
  obtain ⟨applied, left, mid, ran, met, queue, behind⟩ := popAll_met begun owned queued.nil
  replace behind : mid.localHandle = left := behind
  obtain ⟨emptied, ended⟩ := emptyQueue_returns tunRouter queued.toRoutesQueue
  have pass : pass tunRouter queued.toRoutesQueue.entries =
      ⟨mid.tunRouter, queued.routes applied, queued.routes left⟩ := met.pass
  have owned' : Owned queued.heap mid mid.localHandle := met.owned owned behind
  have size : (queued.routes left).length = mid.localHandle.length := by
    rw [← owned'.length_routes, behind, Queued.routes]
  have fewer : mid.localHandle.length ≤ queued.entries.length := behind ▸ met.fewer
  rw [ended]
  unfold RouteQueue.emptyQueue at ended
  simp only [pass, size] at ended
  split at ended
  · rename_i nothing
    cases ended
    have none_left : mid.localHandle = [] := List.length_eq_zero_iff.mp nothing
    rw [behind] at none_left
    subst none_left
    refine ⟨applied, [], mid, ?_, queue, behind, met.settled, by simp [Queued.routes]⟩
    intro passes enough
    rw [emptyQueue, bind_ok (ran passes (by omega)), bind_look_run, if_pos nothing]
    rfl
  · rename_i more
    obtain ⟨applied', dropped, after, ran', queue', nothing, settled, same⟩ :=
      retry_refines rfl (by simp [behind, Queued.routes]) owned' ended
    rw [behind] at settled
    refine ⟨applied ++ applied', dropped, after, ?_, queue'.trans queue, nothing,
      met.then_settled settled, by simp [same, Queued.routes]⟩
    intro passes enough
    rw [emptyQueue, bind_ok (ran passes (by omega)), bind_look_run, if_neg more,
      ran' passes passes (by omega) (by omega)]

/-! ### What became of each entry -/

private theorem filter_flatMap (pairs : Element → List Event) (own : ∀ p, ∀ e ∈ pairs p, e.ptr = p)
    (nodup : ptrs.Nodup) :
    (ptrs.flatMap pairs).filter (·.ptr = ptr) = if ptr ∈ ptrs then pairs ptr else [] := by
  induction ptrs with
  | nil => simp
  | cons other rest ih =>
    obtain ⟨fresh, nodup⟩ := List.nodup_cons.mp nodup
    rw [List.flatMap_cons, List.filter_append, ih nodup]
    by_cases same : ptr = other
    · subst same
      rw [List.filter_eq_self.mpr (by simpa using own ptr)]
      simp [fresh]
    · have none : (pairs other).filter (·.ptr = ptr) = [] := by
        apply List.filter_eq_nil_iff.mpr
        intro event member
        simpa [own other event member] using Ne.symm same
      simp [none, same]

/-- Each entry was applied or dropped, and then deleted, and nothing else was
done with it. -/
theorem Settled.each (settled : Settled world after ptrs applied dropped) (nodup : ptrs.Nodup)
    (before : world.events = []) (ptr : Element) :
    after.events.filter (·.ptr = ptr) =
      if ptr ∈ applied then [.applied ptr, .deleted ptr]
      else if ptr ∈ dropped then [.dropped ptr, .deleted ptr] else [] := by
  obtain ⟨one, other, apart⟩ := List.nodup_append.mp (settled.perm.nodup_iff.mpr nodup)
  rw [settled.events, before, List.nil_append, List.filter_append,
    filter_flatMap _ (by simp [Event.ptr]) one, filter_flatMap _ (by simp [Event.ptr]) other]
  by_cases member : ptr ∈ applied
  · have not_dropped : ptr ∉ dropped := fun member' => apart ptr member ptr member' rfl
    simp [member, not_dropped]
  · simp [member]

/-- An entry that does not apply is an add of an address that is there or a
remove of one that is not. -/
theorem applyRoute_none_iff {tunRouter : Router} :
    applyRoute tunRouter route = none ↔ (route.addOrRemove = true ↔ route.addr ∈ tunRouter) := by
  unfold applyRoute
  cases found : tunRouter.lookup route.addr with
  | none =>
    have absent : route.addr ∉ tunRouter := AList.lookup_eq_none.mp found
    cases route.addOrRemove <;> simp [absent]
  | some target =>
    have present : route.addr ∈ tunRouter := AList.lookup_isSome.mp (by simp [found])
    cases route.addOrRemove <;> simp [present]

private theorem pass_applies (tunRouter : Router) (routes : List Route) :
    (RouteQueue.pass tunRouter routes).applied.foldlM applyRoute tunRouter =
      some (RouteQueue.pass tunRouter routes).tunRouter := by
  induction routes generalizing tunRouter with
  | nil => rfl
  | cons route rest ih =>
    simp only [RouteQueue.pass]
    split
    · rename_i applies
      simp [applies, ih]
    · exact ih tunRouter

private theorem retry_applies {tunRouter : Router} {fuel prevSize size : Nat} {state : Pass}
    {emptied : Emptied} (so_far : state.applied.foldlM applyRoute tunRouter = some state.tunRouter)
    (ended : RouteQueue.retry fuel prevSize size state = some emptied) :
    emptied.applied.foldlM applyRoute tunRouter = some emptied.tunRouter := by
  induction fuel generalizing prevSize size state with
  | zero => cases ended
  | succ fuel ih =>
    have again : state.again.applied.foldlM applyRoute tunRouter = some state.again.tunRouter := by
      simp [Pass.again, so_far, pass_applies]
    rw [RouteQueue.retry] at ended
    split at ended
    · cases ended
      exact so_far
    · dsimp only at ended
      split at ended
      · cases ended
        exact again
      · exact ih again ended

/-- The router at the end is the router at the beginning with the applied
entries applied to it one after the other. -/
theorem emptyQueue_applies {tunRouter : Router} {tunQueue : RoutesQueue} {emptied : Emptied}
    (ended : RouteQueue.emptyQueue tunRouter tunQueue = some emptied) :
    emptied.applied.foldlM applyRoute tunRouter = some emptied.tunRouter := by
  have first := pass_applies tunRouter tunQueue.entries
  unfold RouteQueue.emptyQueue at ended
  dsimp only at ended
  split at ended
  · cases ended
    exact first
  · exact retry_applies first ended

/-- **`emptyQueue` accounts for every entry.** Whatever the queue and the router
are, it comes to its end with the queue and `local_handle` empty. Every entry has
been deleted exactly once, after it had been applied once or dropped; nothing
that is not an entry has been touched. The router is what the applied entries
make of it. Nothing is applied once something has been dropped, and of the
dropped entries an add finds its address in the router and a remove finds it
missing. -/
theorem emptyQueue_accounts (queued : Queued) (tunRouter : Router) :
    ∃ applied dropped after,
      (∀ passes, queued.entries.length + 2 ≤ passes →
        (emptyQueue passes).run (queued.world tunRouter) = (.ok (), after)) ∧
      after.tunQueue = [] ∧ after.localHandle = [] ∧
      (applied ++ dropped).Perm queued.entries ∧
      after.events = (applied.flatMap fun ptr => [.applied ptr, .deleted ptr]) ++
        (dropped.flatMap fun ptr => [.dropped ptr, .deleted ptr]) ∧
      (∀ ptr, after.events.filter (·.ptr = ptr) =
        if ptr ∈ applied then [.applied ptr, .deleted ptr]
        else if ptr ∈ dropped then [.dropped ptr, .deleted ptr] else []) ∧
      (∀ ptr, after.heap ptr = if ptr ∈ queued.entries then none else queued.heap ptr) ∧
      (queued.routes applied).foldlM applyRoute tunRouter = some after.tunRouter ∧
      ∀ ptr ∈ dropped, ∀ route, queued.heap ptr = some route →
        (route.addOrRemove = true ↔ route.addr ∈ after.tunRouter) := by
  obtain ⟨applied, dropped, after, ran, queue, nothing, settled, ended⟩ :=
    emptyQueue_refines queued tunRouter
  refine ⟨applied, dropped, after, ran, queue, nothing, settled.perm, settled.events,
    settled.each queued.nodup rfl, settled.heap, emptyQueue_applies ended, ?_⟩
  intro ptr member route found
  apply applyRoute_none_iff.mp
  exact (emptyQueue_balanced ended).1 route (List.mem_filterMap.mpr ⟨ptr, member, found⟩)

end Vpverk.EmptyQueue
