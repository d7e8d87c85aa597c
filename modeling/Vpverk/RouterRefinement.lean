import Vpverk.NestedCalls
import Vpverk.RouterCalls

/-! `routeTunToClients` in one piece and from one await to the next. What the recursion of
`Vpverk.RouterCalls` does with the tun device and the connections, the calls of `Vpverk.NestedCalls`
on one chain do in their steps. -/
namespace Vpverk.RouterRefinement
open Addresses RouteQueue Coroutine Octets Asioapi Peer RouterIteration RouterCalls Transition
open Sessions (Allocator)
open RouterIsolation (place twoClients)
open RouterFrames (FramePc Frame FrameAnswer RouterState RouterEvent)

/-! ### One chain of calls, with everybody else standing still -/

variable {Choice : Type} {alloc : Allocator Choice} {k : Nat} {state mid after : RouterState}
  {frame : Frame} {callers : List Frame} {answer : FrameAnswer} {reads reads' : List FrameAnswer}
  {con : Ptr}

/-- Where the innermost call of the chain stands. -/
def innermost (k : Nat) (state : RouterState) : Option FramePc :=
  (state.chains[k]?.bind List.head?).map Frame.pc

/-- What a step of the chain has from `Tun::read`; `none` if it is a step of somebody else. A call
that closes a connection takes the steps of `close` itself. -/
def own (k : Nat) (state : RouterState) : RouterEvent Choice → Option (List FrameAnswer)
  | .resume k' answer =>
    if k' = k then some (if innermost k state = some .reading then [answer] else []) else none
  | .closeLocks con | .closeEnds con =>
    if innermost k state = some (.closing con) then some [] else none
  | .session _ | .asyncStart | .stop | .close _ => none

def alone (alloc : Allocator Choice) (k : Nat) :
    Machine RouterState (RouterEvent Choice) (List FrameAnswer) where
  initial := {}
  step state event :=
    match own k state event, NestedCalls.step alloc state event with
    | some reads, some (after, _) => some (after, reads)
    | _, _ => none

/-- The chain comes from the one state to the other, and has this from `Tun::read`. -/
def Reaches (alloc : Allocator Choice) (k : Nat) (state after : RouterState)
    (reads : List FrameAnswer) : Prop :=
  ∃ trace, (alone alloc k).system.Steps state trace after ∧ trace.flatten = reads

theorem reaches_self : Reaches alloc k state state [] := ⟨[], .refl, rfl⟩

theorem Reaches.trans (first : Reaches alloc k state mid reads)
    (second : Reaches alloc k mid after reads') :
    Reaches alloc k state after (reads ++ reads') := by
  obtain ⟨trace, steps, rfl⟩ := first
  obtain ⟨trace', steps', rfl⟩ := second
  exact ⟨trace ++ trace', steps.trans steps', List.flatten_append⟩

theorem reaches_step {event : RouterEvent Choice} {label : NestedCalls.Label}
    (its : own k state event = some reads)
    (stepped : NestedCalls.step alloc state event = some (after, label)) :
    Reaches alloc k state after reads :=
  ⟨[reads], .next .refl ⟨event, by simp [alone, its, stepped]⟩, List.flatten_singleton⟩

/-- What the chain does alone is a run of the router among its sessions. -/
theorem Reaches.steps (reaches : Reaches alloc k state after reads) :
    ∃ trace, (NestedCalls.system alloc).Steps state trace after := by
  obtain ⟨_, steps, -⟩ := reaches
  induction steps with
  | refl => exact ⟨[], .refl⟩
  | next _ step ih =>
    obtain ⟨trace, earlier⟩ := ih
    obtain ⟨event, stepped⟩ := step
    simp only [alone] at stepped
    split at stepped
    · rename_i went
      cases stepped
      exact ⟨_, earlier.next ⟨event, went⟩⟩
    · cases stepped

/-- `Tun::read` comes back. -/
theorem reaches_read (alloc : Allocator Choice) (answer : FrameAnswer) {useLoop : Bool}
    (found : state.chains[k]? = some (⟨useLoop, .reading⟩ :: callers))
    (went : NestedCalls.routeTunToClients state k ⟨useLoop, .reading⟩ callers answer = some after) :
    Reaches alloc k state after [answer] := by
  have its : own k state (.resume k answer : RouterEvent Choice) = some [answer] := by
    simp [own, innermost, found]
  exact reaches_step its (by simp only [NestedCalls.step, found, went, Option.map_some]; rfl)

/-- Another await of the chain comes back. -/
theorem reaches_resume (alloc : Allocator Choice) (answer : FrameAnswer)
    (found : state.chains[k]? = some (frame :: callers)) (elsewhere : frame.pc ≠ .reading)
    (went : NestedCalls.routeTunToClients state k frame callers answer = some after) :
    Reaches alloc k state after [] := by
  have its : own k state (.resume k answer : RouterEvent Choice) = some [] := by
    simp [own, innermost, found, elsewhere]
  exact reaches_step its (by simp only [NestedCalls.step, found, went, Option.map_some]; rfl)

/-! ### What both know -/

variable {world left : RouterWorld}

/-- The world in one piece and the state between two awaits tell the same. -/
structure Matches (world : RouterWorld) (state : RouterState) : Prop where
  tunRouter : state.control.tunRouter = world.tunRouter
  tunQueue : state.control.tunQueue = world.tunQueue
  writeLock : ∀ con, state.writeLock con = (world.connections con).writeLock
  closed : ∀ con, state.closers con = .uncalled ↔ (world.connections con).closed = false
  stopRequested : state.stopRequested = world.stopRequested

theorem Matches.put (same : Matches world state) (frames : List Frame) :
    Matches world (state.put k frames) :=
  ⟨same.tunRouter, same.tunQueue, same.writeLock, same.closed, same.stopRequested⟩

theorem Matches.loop (same : Matches world state) : Matches world (state.loop k frame callers) :=
  same.put _

theorem Matches.enterNew (same : Matches world state) : Matches world (NestedCalls.enterNew state) :=
  ⟨same.tunRouter, same.tunQueue, same.writeLock, same.closed, same.stopRequested⟩

theorem Matches.emptied {emptied : Emptied} (same : Matches world state)
    (ended : emptyQueue world.tunRouter world.tunQueue = some emptied) :
    Matches world.emptied (NestedCalls.withEmptied state emptied) := by
  rw [RouterWorld.emptied, ended]
  exact ⟨rfl, rfl, same.writeLock, same.closed, same.stopRequested⟩

/-- A connection with its lock taken or given back. -/
theorem Matches.setWriteLock (same : Matches world state) (con : Ptr) (held : Bool)
    {changed : Connection} (locked : changed.writeLock = held)
    (closed : changed.closed = (world.connections con).closed) :
    Matches (place world con changed) (state.setWriteLock con held) := by
  refine ⟨same.tunRouter, same.tunQueue, fun other => ?_, fun other => ?_, same.stopRequested⟩
  · by_cases here : other = con
    · subst here
      simp [RouterState.setWriteLock, locked]
    · simp [RouterState.setWriteLock, here, same.writeLock other]
  · by_cases here : other = con
    · subst here
      simpa [RouterState.setWriteLock, closed] using same.closed other
    · simpa [RouterState.setWriteLock, here] using same.closed other

theorem Matches.replace (same : Matches world state) {changed : Connection}
    (locked : changed.writeLock = (world.connections con).writeLock)
    (closed : changed.closed = (world.connections con).closed) :
    Matches (place world con changed) state := by
  have kept := same.setWriteLock con _ locked closed
  rw [← same.writeLock con, RouterState.setWriteLock, Function.update_eq_self] at kept
  exact kept

@[simp] theorem put_chains_length (frames : List Frame) :
    (state.put k frames).chains.length = state.chains.length := List.length_set

theorem put_found {frames : List Frame} (inside : k < state.chains.length) :
    (state.put k frames).chains[k]? = some frames := by
  simp [RouterState.put, inside]

theorem restarted_found {frames : List Frame} (inside : k < state.chains.length) :
    (NestedCalls.enterNew (state.put k frames)).chains[k]? = some frames := by
  simp [NestedCalls.enterNew, NestedCalls.enter, RouterState.loop, RouterState.put, inside,
    List.getElem?_append]

/-! ### A packet under the write lock -/

/-- The chain where all calls wait: the innermost in `Tun::read`, each of the others for the write
lock of a connection, which is held. -/
def Stands (k : Nat) (callers : List Frame) (after : RouterState) : Prop :=
  ∃ useLoop waiting, after.chains[k]? = some (⟨useLoop, .reading⟩ :: waiting ++ callers) ∧
    ∀ frame ∈ waiting, ∃ con, frame.pc = .locking con ∧ after.writeLock con = true

/-- Where a call that has handled a packet, or stops over it, leaves the router. -/
def Leaves (k : Nat) (useLoop : Bool) (callers : List Frame) (left : RouterWorld)
    (after : RouterState) : Except Stop Handled → Prop
  | .ok handled => ∃ mid, Matches left mid ∧ k < mid.chains.length ∧
      after = match handled with
        | .forwarded _ => if useLoop then mid.loop k { useLoop } callers else mid.put k callers
        | .timeout | .skipped | .closed _ => mid.loop k { useLoop } callers
  | .error (.throws _) => ∃ mid, Matches left mid ∧ k < mid.chains.length ∧
      after = NestedCalls.enterNew (mid.put k callers)
  | .error .waits => Matches left after ∧ left.tun.reads = [] ∧ Stands k callers after
  | .error how => Fatal how ∨ how = .runs

theorem leaves_fatal {how : Stop} {useLoop : Bool} (fatal : Fatal how) :
    Leaves k useLoop callers left after (.error how) := by
  cases how with
  | aborts | undefined => exact .inl trivial
  | _ => exact fatal.elim

/-- Of the tun device and the connections, nothing but the one connection has changed. -/
structure Only (con : Ptr) (world left : RouterWorld) : Prop where
  tun : left.tun = world.tun
  others : ∀ other, other ≠ con → left.connections other = world.connections other

theorem only_place (world : RouterWorld) (con : Ptr) (changed : Connection) :
    Only con world (place world con changed) :=
  ⟨rfl, fun _ apart => RouterIsolation.place_other world changed apart⟩

theorem Only.trans {between : RouterWorld} (first : Only con world between)
    (second : Only con between left) : Only con world left :=
  ⟨second.tun.trans first.tun,
    fun other apart => (second.others other apart).trans (first.others other apart)⟩

/-- What is left of a connection that has been closed. -/
def ended (state : RouterState) (con : Ptr) : RouterState :=
  RouterState.setWriteLock { state with closers := Function.update state.closers con .ended } con false

theorem Matches.close (same : Matches world state) {changed : Connection} (closed : Closed changed) :
    Matches (place world con changed) (ended state con) := by
  refine ⟨same.tunRouter, same.tunQueue, fun other => ?_, fun other => ?_, same.stopRequested⟩
  · by_cases here : other = con
    · subst here
      simp [ended, RouterState.setWriteLock, closed.free]
    · simp [ended, RouterState.setWriteLock, here, same.writeLock other]
  · by_cases here : other = con
    · subst here
      simp [ended, RouterState.setWriteLock, closed.closed]
    · simpa [ended, RouterState.setWriteLock, here] using same.closed other

/-- `close` takes the lock, writes its message and gives the lock back. -/
theorem closer_reaches (alloc : Allocator Choice) (k : Nat) (state : RouterState)
    (waits : innermost k state = some (.closing con)) (free : state.writeLock con = false) :
    Reaches alloc k { state with closers := Function.update state.closers con .locking }
      (ended state con) [] := by
  let locking : RouterState := { state with closers := Function.update state.closers con .locking }
  let closing : RouterState := RouterState.setWriteLock
    { locking with closers := Function.update locking.closers con .closing } con true
  have locks : Reaches alloc k locking closing [] := by
    have its : own k locking (.closeLocks con : RouterEvent Choice) = some [] := if_pos waits
    have stepped : NestedCalls.step alloc locking (.closeLocks con) = some (closing, .other) := by
      simp [NestedCalls.step, RouterFrames.live, locking, closing, free]
    exact reaches_step its stepped
  have ends : Reaches alloc k closing (ended state con) [] := by
    have its : own k closing (.closeEnds con : RouterEvent Choice) = some [] := if_pos waits
    have stepped : NestedCalls.step alloc closing (.closeEnds con) =
        some (ended state con, .other) := by
      simp [NestedCalls.step, RouterFrames.live, locking, closing, ended, RouterState.setWriteLock]
    exact reaches_step its stepped
  exact locks.trans ends

/-- `close`, called by the router with the write lock free. -/
theorem close_reaches (alloc : Allocator Choice) (useLoop : Bool) (callers : List Frame) (reason : Bytes)
    (same : Matches world state) (inside : k < state.chains.length)
    (free : (world.connections con).writeLock = false) (pc : FramePc) :
    ∃ answer left after,
      (RouterWorld.onConnection con (Connection.close reason)).run world = (answer, left) ∧
      Only con world left ∧ Reaches alloc k (state.close k ⟨useLoop, pc⟩ callers con) after [] ∧
      Leaves k useLoop callers left after (answer.map fun _ => .closed con) := by
  by_cases opened : (world.connections con).closed = false
  · have uncalled := (same.closed con).mpr opened
    have unlocked : state.writeLock con = false := (same.writeLock con).trans free
    let before : RouterState := state.put k (⟨useLoop, .closing con⟩ :: callers)
    have starts : state.close k ⟨useLoop, pc⟩ callers con =
        { before with closers := Function.update before.closers con .locking } := if_pos uncalled
    have found : (ended before con).chains[k]? = some (⟨useLoop, .closing con⟩ :: callers) :=
      put_found inside
    have waits : innermost k before = some (.closing con) := by
      rw [innermost, show before.chains[k]? = _ from found]
      rfl
    have closes := closer_reaches alloc k before waits unlocked
    rw [← starts] at closes
    have finished : (ended before con).closers con = .ended := by simp [ended, RouterState.setWriteLock]
    have length : k < (ended before con).chains.length := by
      simpa [ended, before, RouterState.setWriteLock, RouterState.put] using inside
    cases ran : (Connection.close reason).run (world.connections con) with
    | mk answer changed =>
      have left := RouterWorld.onConnection_run ran
      cases answer with
      | ok =>
        have closed := (close_leaves reason).ends _ _ _ ⟨opened, free⟩ ran
        have returns := reaches_resume alloc .closed found (by simp)
          (by simp only [NestedCalls.routeTunToClients, finished, if_true]; rfl)
        exact ⟨_, _, _, left, only_place .., closes.trans returns, _, (same.put _).close closed, length,
          rfl⟩
      | error how =>
        obtain ⟨stops, closed⟩ := (close_leaves reason).stops _ _ _ ⟨opened, free⟩ ran
        rcases stops with fatal | ⟨what, rfl⟩
        · exact ⟨_, _, _, left, only_place .., closes, leaves_fatal fatal⟩
        · have throws := reaches_resume alloc .throws found (by simp)
            (by simp only [NestedCalls.routeTunToClients, finished, if_true]; rfl)
          exact ⟨_, _, _, left, only_place .., closes.trans throws, _, (same.put _).close closed, length,
            rfl⟩
  · have called : state.closers con ≠ .uncalled :=
      fun uncalled => opened ((same.closed con).mp uncalled)
    have ran : (Connection.close reason).run (world.connections con) =
        (.ok (), world.connections con) := by
      rw [Connection.close, bind_look_run, if_pos (by simpa using opened)]
      rfl
    refine ⟨_, _, _, RouterWorld.onConnection_run ran, only_place .., reaches_self, state, ?_, inside,
      if_neg called⟩
    simpa using same

/-- The write lock of a connection taken, or given back. -/
def locked (world : RouterWorld) (con : Ptr) (held : Bool) : RouterWorld :=
  place world con { world.connections con with writeLock := held }

theorem setWriteLock_run (con : Ptr) (held : Bool) (world : RouterWorld) :
    (setWriteLock con held).run world = (.ok (), locked world con held) := rfl

theorem Matches.lock (same : Matches world state) (con : Ptr) (held : Bool) :
    Matches (locked world con held) (state.setWriteLock con held) := same.setWriteLock con held rfl rfl

@[simp] theorem locked_writeLock (world : RouterWorld) (con : Ptr) (held : Bool) :
    ((locked world con held).connections con).writeLock = held := by simp [locked, place]

/-- The write lock given back, and the connection closed. -/
theorem unlock_close_reaches (alloc : Allocator Choice) (useLoop : Bool) (callers : List Frame)
    (reason : Bytes) (same : Matches (locked world con false) state) (inside : k < state.chains.length)
    (pc : FramePc) :
    ∃ answer left after, (do
        setWriteLock con false
        RouterWorld.onConnection con (Connection.close reason)
        pure (Handled.closed con)).run world = (answer, left) ∧
      Only con world left ∧ Reaches alloc k (state.close k ⟨useLoop, pc⟩ callers con) after [] ∧
      Leaves k useLoop callers left after answer := by
  obtain ⟨answer, left, after, ran, only, reaches, leaves⟩ :=
    close_reaches alloc useLoop callers reason same inside (locked_writeLock world con false) pc
  have only : Only con world left := (only_place ..).trans only
  rw [bind_ok (setWriteLock_run con false world)]
  cases answer with
  | ok => exact ⟨_, left, after, bind_ok ran, only, reaches, leaves⟩
  | error how => exact ⟨_, left, after, bind_error ran, only, reaches, leaves⟩

/-- What is done under the write lock, from where it is taken on. -/
theorem forward_reaches (alloc : Allocator Choice) (encrypt : Encrypt) (useLoop : Bool)
    (callers : List Frame) (aes : Ptr) (packet : Bytes) (same : Matches world state)
    (inside : k < state.chains.length) (free : (world.connections con).writeLock = false)
    (pc : FramePc) :
    ∃ encrypts answer left after,
      (forward encrypt con aes packet).run (locked world con true) = (answer, left) ∧
      Only con world left ∧
      Reaches alloc k (NestedCalls.takeWriteLock state k ⟨useLoop, pc⟩ callers con encrypts) after [] ∧
      Leaves k useLoop callers left after answer := by
  have unlocked : state.writeLock con = false := (same.writeLock con).trans free
  rw [forward, bind_look_run]
  have again : state.setWriteLock con false = state := by
    rw [RouterState.setWriteLock, ← unlocked, Function.update_eq_self]
  cases encrypts : encrypt ((locked world con true).aesSessions aes) packet packet.length with
  | error code =>
    have matched := (same.lock con true).lock con false
    have back : (state.setWriteLock con true).setWriteLock con false = state := by
      rw [← again]
      simp [RouterState.setWriteLock]
    rw [back] at matched
    obtain ⟨answer, left, after, ran, only, reaches, leaves⟩ := unlock_close_reaches alloc useLoop
      callers (utf8 "server failed to encrypt") matched inside pc
    refine ⟨false, answer, left, after, ran, (only_place ..).trans only, ?_, leaves⟩
    rwa [NestedCalls.takeWriteLock, if_neg (by simp [unlocked]), if_neg (by simp)]
  | ok result =>
    obtain ⟨encrypted, session⟩ := result
    let sending : RouterState :=
      (state.setWriteLock con true).put k (⟨useLoop, .sending con⟩ :: callers)
    let encrypting : RouterWorld := { locked world con true with
      aesSessions := Function.update (locked world con true).aesSessions aes session }
    have matched : Matches encrypting sending :=
      let kept := (same.lock con true).put (⟨useLoop, .sending con⟩ :: callers)
      ⟨kept.tunRouter, kept.tunQueue, kept.writeLock, kept.closed, kept.stopRequested⟩
    have starts : NestedCalls.takeWriteLock state k ⟨useLoop, pc⟩ callers con true = sending := by
      rw [NestedCalls.takeWriteLock, if_neg (by simp [unlocked]), if_pos rfl]
    have found : sending.chains[k]? = some (⟨useLoop, .sending con⟩ :: callers) := put_found inside
    have length : k < sending.chains.length := by
      simpa [sending, RouterState.setWriteLock] using inside
    dsimp only
    rw [bind_change_run]
    refine ⟨true, ?_⟩
    rw [starts]
    cases ran : (send encrypted).run (encrypting.connections con).socket with
    | mk answer socket =>
      have sent := RouterWorld.onConnection_run (Connection.onSocket_run ran)
      let left : RouterWorld := place encrypting con { encrypting.connections con with socket := socket }
      have matched' : Matches left sending := matched.replace rfl rfl
      have only : Only con world left :=
        (only_place world con _).trans ⟨rfl, (only_place encrypting con _).others⟩
      cases answer with
      | error how =>
        exact ⟨_, left, sending, bind_error sent, only, reaches_self,
          leaves_fatal ((send_stops encrypted).stops _ _ _ trivial ran)⟩
      | ok answer =>
        rw [bind_ok sent]
        cases answer with
        | error code =>
          have fails := reaches_resume alloc .sendFails found (by simp) rfl
          obtain ⟨answer, after', after, ran, only', reaches, leaves⟩ := unlock_close_reaches alloc
            useLoop callers (utf8 "server failed to send") (matched'.lock con false) length (.sending con)
          exact ⟨answer, after', after, ran, only.trans only', fails.trans reaches, leaves⟩
        | ok =>
          have goes := reaches_resume alloc .sent found (by simp) rfl
          exact ⟨_, _, _, rfl, only.trans (only_place ..), goes, _, matched'.lock con false, length, rfl⟩

/-! ### The calls -/

/-- What the chain is told of a read, as the buffer stands. -/
def Answered : TunRead → FrameAnswer → Prop
  | .timeout, .timeout | .throws _, .throws => True
  | .packet packet, .skipped => ∃ leftover, ipVersion packet.bytes leftover ≠ 4
  | .packet packet, .packet address _ =>
    ∃ leftover, ipVersion packet.bytes leftover = 4 ∧ dst packet.bytes leftover = address
  | _, _ => False

/-- The chain goes from the one state to the other, told of the reads that are gone. The write locks
that were held still are. -/
structure Goes (alloc : Allocator Choice) (k : Nat) (world left : RouterWorld)
    (state after : RouterState) : Prop where
  reaches : ∃ taken reads, world.tun.reads = taken ++ left.tun.reads ∧
    List.Forall₂ Answered taken reads ∧ Reaches alloc k state after reads
  held : ∀ con, (world.connections con).writeLock = true → (left.connections con).writeLock = true

theorem goes_self : Goes alloc k world world state state :=
  ⟨⟨[], [], rfl, .nil, reaches_self⟩, fun _ held => held⟩

/-- Where it goes with a connection whose lock was free. -/
theorem Reaches.goes (reaches : Reaches alloc k state after []) (only : Only con world left)
    (free : (world.connections con).writeLock = false) : Goes alloc k world left state after := by
  refine ⟨⟨[], [], by rw [only.tun, List.nil_append], .nil, reaches⟩, fun other held => ?_⟩
  have apart : other ≠ con := by
    rintro rfl
    cases free.symm.trans held
  rw [only.others other apart, held]

theorem Goes.trans {between : RouterWorld} (first : Goes alloc k world between state mid)
    (second : Goes alloc k between left mid after) : Goes alloc k world left state after := by
  obtain ⟨⟨taken, reads, gone, answered, reaches⟩, held⟩ := first
  obtain ⟨⟨taken', reads', gone', answered', reaches'⟩, held'⟩ := second
  exact ⟨⟨taken ++ taken', reads ++ reads', by rw [gone, gone', List.append_assoc],
    List.rel_append answered answered', reaches.trans reaches'⟩,
    fun con still => held' con (held con still)⟩

/-- Where a call stands that is over, or stops. -/
def Ends (k : Nat) (callers : List Frame) (left : RouterWorld) (after : RouterState) :
    Except Stop Unit → Prop
  | .ok () => Matches left after ∧ after.chains[k]? = some callers
  | .error .waits => Matches left after ∧ left.tun.reads = [] ∧ Stands k callers after
  | .error how => Fatal how ∨ how = .runs

/-- A call in one piece does what one on a chain does. -/
def Refines (alloc : Allocator Choice) (call : Coroutine RouterWorld Unit) (useLoop : Bool) : Prop :=
  ∀ (k : Nat) (callers : List Frame) (world : RouterWorld) (state : RouterState), Matches world state →
    k < state.chains.length → ∃ answer left after, call.run world = (answer, left) ∧
      Goes alloc k world left (state.loop k { useLoop } callers) after ∧ Ends k callers left after answer

theorem Stands.below {useLoop : Bool} (stands : Stands k (⟨useLoop, .locking con⟩ :: callers) after)
    (held : after.writeLock con = true) : Stands k callers after := by
  obtain ⟨innermost, waiting, found, locking⟩ := stands
  refine ⟨innermost, waiting ++ [⟨useLoop, .locking con⟩], by simpa using found, ?_⟩
  intro frame member
  rcases List.mem_append.mp member with earlier | last
  · exact locking frame earlier
  · exact ⟨con, by rw [List.mem_singleton.mp last], held⟩

variable {encrypt : Encrypt} {nested : Coroutine RouterWorld Unit}

/-- The loop that takes the write lock, and what is done under it. -/
theorem takeWriteLock_goes (refines : Refines alloc nested false) (encrypt : Encrypt) (useLoop : Bool)
    (callers : List Frame) (con aes : Ptr) (packet : Bytes) (passes : Nat) (same : Matches world state)
    (inside : k < state.chains.length) (pc : FramePc) :
    ∃ encrypts answer left after, (do
        RouterIteration.takeWriteLock nested con passes
        forward encrypt con aes packet).run world = (answer, left) ∧
      Goes alloc k world left
        (NestedCalls.takeWriteLock state k ⟨useLoop, pc⟩ callers con encrypts) after ∧
      Leaves k useLoop callers left after answer := by
  induction passes generalizing world state pc with
  | zero => exact ⟨true, _, world, _, bind_error rfl, goes_self, .inr rfl⟩
  | succ passes ih =>
    rw [RouterIteration.takeWriteLock, bind_assoc, bind_look_run]
    cases held : (world.connections con).writeLock with
    | false =>
      obtain ⟨encrypts, answer, left, after, ran, only, reaches, leaves⟩ :=
        forward_reaches alloc encrypt useLoop callers aes packet same inside held pc
      exact ⟨encrypts, answer, left, after, ran, reaches.goes only held, leaves⟩
    | true =>
      obtain ⟨answer, left, after, ran, goes, ends⟩ :=
        refines k (⟨useLoop, .locking con⟩ :: callers) world state same inside
      have starts (encrypts : Bool) :
          NestedCalls.takeWriteLock state k ⟨useLoop, pc⟩ callers con encrypts =
            state.loop k { useLoop := false } (⟨useLoop, .locking con⟩ :: callers) := by
        rw [NestedCalls.takeWriteLock, if_pos ((same.writeLock con).trans held)]
        rfl
      rw [if_pos rfl, bind_assoc]
      cases answer with
      | ok =>
        obtain ⟨same', found⟩ := ends
        obtain ⟨inside', _⟩ := List.getElem?_eq_some_iff.mp found
        obtain ⟨encrypts, answer, left', after', ran', goes', leaves⟩ := ih same' inside' (.locking con)
        have returns : Goes alloc k left left after _ :=
          ⟨⟨[], [], rfl, .nil, reaches_resume alloc (.nestedEnds encrypts) found (by simp) rfl⟩,
            fun _ held => held⟩
        exact ⟨encrypts, answer, left', after', (bind_ok ran).trans ran',
          starts encrypts ▸ (goes.trans returns).trans goes', leaves⟩
      | error how =>
        refine ⟨true, _, left, after, bind_error ran, starts true ▸ goes, ?_⟩
        cases how with
        | waits =>
          have still := (ends.1.writeLock con).trans (goes.held con held)
          exact ⟨ends.1, ends.2.1, ends.2.2.below still⟩
        | throws what => exact ends.elim False.elim fun same => by cases same
        | aborts | undefined => exact .inl trivial
        | runs => exact .inr rfl

/-- An iteration, from its read on. -/
theorem iteration_goes (refines : Refines alloc nested false) (encrypt : Encrypt) (useLoop : Bool)
    (callers : List Frame) (passes : Nat) (leftover : Nat → UInt8) (same : Matches world state)
    (inside : k < state.chains.length) :
    ∃ answer left after, (iteration false encrypt nested passes leftover).run world = (answer, left) ∧
      Goes alloc k world left (state.put k (⟨useLoop, .reading⟩ :: callers)) after ∧
      Leaves k useLoop callers left after answer := by
  let reading : RouterState := state.put k (⟨useLoop, .reading⟩ :: callers)
  have found : reading.chains[k]? = some (⟨useLoop, .reading⟩ :: callers) := put_found inside
  have length : k < reading.chains.length := by simpa [reading] using inside
  have same' : Matches world reading := same.put _
  cases next : world.tun.reads with
  | nil =>
    have read : Tun.read.run world.tun = (.error .waits, world.tun) := by simp [Tun.read, next]
    exact ⟨_, world, reading, bind_error (RouterWorld.onTun_run read), goes_self, same', next,
      useLoop, [], found, by simp⟩
  | cons result rest =>
    let device : Tun := { world.tun with reads := rest }
    -- What is read is gone, whatever becomes of it.
    have takes {left : RouterWorld} {answer : FrameAnswer} (tun : left.tun = device)
        (connections : left.connections = world.connections)
        {after : RouterState} (reaches : Reaches alloc k reading after [answer])
        (answered : Answered result answer) : Goes alloc k world left reading after :=
      ⟨⟨[result], [answer], by rw [tun, next]; rfl, .cons answered .nil, reaches⟩,
        fun con held => by rw [connections, held]⟩
    obtain ⟨emptied, ended⟩ := emptyQueue_returns world.tunRouter world.tunQueue
    have ended' : emptyQueue reading.control.tunRouter reading.control.tunQueue = some emptied := by
      rw [same'.tunRouter, same'.tunQueue, ended]
    let onward : RouterWorld := { world with tun := device }
    have read_matched : Matches onward reading :=
      ⟨same'.tunRouter, same'.tunQueue, same'.writeLock, same'.closed, same'.stopRequested⟩
    have matched : Matches onward.emptied (NestedCalls.withEmptied reading emptied) :=
      read_matched.emptied ended
    have emptied_takes {answer : FrameAnswer} {after : RouterState}
        (reaches : Reaches alloc k reading after [answer]) (answered : Answered result answer) :
        Goes alloc k world onward.emptied reading after := by
      refine takes ?_ ?_ reaches answered <;> rw [RouterWorld.emptied] <;> split <;> rfl
    cases result with
    | throws what =>
      have read : Tun.read.run world.tun = (.error (.throws what), device) := by
        simp [Tun.read, next, device]
      have step := reaches_read alloc .throws found rfl
      have gone : onward.tun = device := rfl
      exact ⟨_, onward, _, bind_error (RouterWorld.onTun_run read), takes gone rfl step trivial, reading,
        read_matched, length, rfl⟩
    | timeout =>
      have read : Tun.read.run world.tun = (.ok [], device) := by simp [Tun.read, next, device]
      have step := reaches_read alloc .timeout found
        (by simp only [NestedCalls.routeTunToClients, ended', Option.map_some]; rfl)
      have ran : (iteration false encrypt nested passes leftover).run world =
          (.ok .timeout, onward.emptied) := by
        rw [iteration, bind_ok (RouterWorld.onTun_run read), bind_ok (cussert_run _ (by simp)),
          bind_ok callEmptyQueue_run, if_pos rfl]
        rfl
      exact ⟨_, _, _, ran, emptied_takes step trivial, _, matched, length, rfl⟩
    | packet packet =>
      rw [iteration_packet next, routePacket]
      by_cases version : ipVersion packet.bytes leftover = 4
      · rw [if_neg (by simpa using version), if_neg (by simp), bind_look_run]
        have its (encrypts : Bool) : Answered (.packet packet)
            (.packet (dst packet.bytes leftover) encrypts) := ⟨leftover, version, rfl⟩
        have router : onward.emptied.tunRouter = emptied.tunRouter := matched.tunRouter.symm
        rw [router]
        cases routed : emptied.tunRouter.lookup (dst packet.bytes leftover) with
        | none =>
          have step := reaches_read alloc (.packet (dst packet.bytes leftover) true) found
            (by simp only [NestedCalls.routeTunToClients, ended', Option.map_some, routed]; rfl)
          exact ⟨_, _, _, rfl, emptied_takes step (its true), _, matched, length, rfl⟩
        | some target =>
          obtain ⟨con, aes⟩ := target
          have step (encrypts : Bool) : Reaches alloc k reading
              (NestedCalls.takeWriteLock (NestedCalls.withEmptied reading emptied) k
                ⟨useLoop, .reading⟩ callers con encrypts)
              [.packet (dst packet.bytes leftover) encrypts] :=
            reaches_read alloc _ found
              (by simp only [NestedCalls.routeTunToClients, ended', Option.map_some, routed])
          cases aes with
          | none => exact ⟨_, _, _, rfl, emptied_takes (step true) (its true), .inl trivial⟩
          | some aes =>
            obtain ⟨encrypts, answer, left, after, ran, goes, leaves⟩ := takeWriteLock_goes refines
              encrypt useLoop callers con aes (encode packet.bytes.length.toUInt32 ++ packet.bytes) passes
              matched length .reading
            exact ⟨answer, left, after, ran,
              (emptied_takes (step encrypts) (its encrypts)).trans goes, leaves⟩
      · rw [if_pos version]
        have step := reaches_read alloc .skipped found
          (by simp only [NestedCalls.routeTunToClients, ended', Option.map_some]; rfl)
        exact ⟨_, _, _, rfl, emptied_takes step ⟨leftover, version⟩, _, matched, length, rfl⟩

/-- The loop of a call. -/
theorem routeLoop_goes (refines : Refines alloc nested false) (encrypt : Encrypt) (useLoop : Bool)
    (callers : List Frame) (leftover : Nat → Nat → UInt8) (passes : Nat) (same : Matches world state)
    (inside : k < state.chains.length) :
    ∃ answer left after, (routeLoop false encrypt nested leftover useLoop passes).run world =
        (answer, left) ∧ Goes alloc k world left (state.loop k { useLoop } callers) after ∧
      Ends k callers left after (caught answer) := by
  induction passes generalizing world state with
  | zero => exact ⟨_, world, _, rfl, goes_self, .inr rfl⟩
  | succ passes ih =>
    rw [routeLoop, bind_look_run]
    cases stop : world.stopRequested with
    | true =>
      have returned : state.loop k { useLoop } callers = state.put k callers := by
        rw [RouterState.loop, if_pos (same.stopRequested.trans stop)]
      rw [returned]
      exact ⟨_, world, _, rfl, goes_self, same.put _, put_found inside⟩
    | false =>
      have reads : state.loop k { useLoop } callers = state.put k (⟨useLoop, .reading⟩ :: callers) := by
        rw [RouterState.loop, if_neg (by simp [same.stopRequested, stop])]
      obtain ⟨answer, left, after, ran, goes, leaves⟩ :=
        iteration_goes refines encrypt useLoop callers passes (leftover passes) same inside
      rw [if_neg (by simp), reads]
      cases answer with
      | error how =>
        refine ⟨_, left, after, bind_error ran, goes, ?_⟩
        cases how with
        | throws what =>
          obtain ⟨mid, same', inside', rfl⟩ := leaves
          exact ⟨(same'.put _).enterNew, restarted_found inside'⟩
        | _ => exact leaves
      | ok handled =>
        obtain ⟨mid, same', inside', at_end⟩ := leaves
        -- The call goes back to the head of its loop, or it is over.
        have onward (ends : after = mid.loop k { useLoop } callers) :
            ∃ answer left' after', (routeLoop false encrypt nested leftover useLoop passes).run left =
                (answer, left') ∧
              Goes alloc k world left' (state.put k (⟨useLoop, .reading⟩ :: callers)) after' ∧
              Ends k callers left' after' (caught answer) := by
          obtain ⟨answer, left', after', ran', goes', ends'⟩ := ih same' inside'
          exact ⟨answer, left', after', ran', goes.trans (ends ▸ goes'), ends'⟩
        rw [bind_ok ran]
        cases handled with
        | forwarded con =>
          cases useLoop with
          | true => exact onward at_end
          | false =>
            subst at_end
            exact ⟨_, left, _, rfl, goes, same'.put _, put_found inside'⟩
        | timeout | skipped | closed con => exact onward at_end

/-- **The recursion is the calls of one chain.** However deep it goes, `routeTunToClients` in one
piece is a run of the router from its entry on, with everybody else standing still: the chain is
told of the reads that it takes, no write lock that was held is given back, and where it stops both
know the same. A call that is over has given its caller the chain back; one that waits, as every
write to a connection comes to an end, has taken every read, and does so in the `Tun::read` of its
innermost call, each of the others for a write lock that is held. -/
theorem router_refines (alloc : Allocator Choice) (encrypt : Encrypt)
    (leftover : Nat → Nat → Nat → UInt8) (passes calls : Nat) (useLoop : Bool) (k : Nat)
    (callers : List Frame) (world : RouterWorld) (state : RouterState) (same : Matches world state)
    (inside : k < state.chains.length) :
    ∃ answer left after,
      (routeTunToClients encrypt leftover passes calls useLoop).run world = (answer, left) ∧
      Goes alloc k world left (NestedCalls.enter state k useLoop callers) after ∧
      (∃ trace, (NestedCalls.system alloc).Steps (NestedCalls.enter state k useLoop callers) trace
        after) ∧
      Ends k callers left after answer ∧
      (world.tun.reads.length < passes → world.tun.reads.length < calls → answer ≠ .error .runs) := by
  have refines (calls : Nat) (useLoop : Bool) :
      Refines alloc (routeTunToClients encrypt leftover passes calls useLoop) useLoop := by
    induction calls generalizing useLoop with
    | zero => exact fun k callers world state _ _ => ⟨_, world, _, rfl, goes_self, .inr rfl⟩
    | succ calls ih =>
      intro k callers world state same inside
      obtain ⟨answer, left, after, ran, goes, ends⟩ :=
        routeLoop_goes (ih false) encrypt useLoop callers (leftover calls) passes same inside
      refine ⟨caught answer, left, after, ?_, goes, ends⟩
      rw [routeTunToClients, caught_run, ran]
  obtain ⟨answer, left, after, ran, goes, ends⟩ :=
    refines calls useLoop k callers world state same inside
  obtain ⟨_, _, _, _, reaches⟩ := goes.reaches
  refine ⟨answer, left, after, ran, goes, reaches.steps, ends, fun enough deep => ?_⟩
  have stops := enough_passes encrypt leftover useLoop enough deep
  rwa [ran] at stops

/-- The first connection is being closed, and its write lock is held. -/
def closingFirst : RouterState where
  control := { tunRouter := (twoClients {}).tunRouter }
  writeLock := Function.update (fun _ => false) 0 true
  closers := Function.update (fun _ => .uncalled) 0 .closing
  chains := [[]]

/-- The packet for the first client waits, and the one for the second is sent by a nested call. -/
theorem router_refines_closing_first :
    ∃ answer left after,
      (routeTunToClients (AesSession.encrypt fun _ _ _ => 0) (fun _ _ _ => 0) 4 3 true).run
        (twoClients { closed := true, writeLock := true }) = (answer, left) ∧
      Goes Sessions.codeAllocator 0 (twoClients { closed := true, writeLock := true }) left
        (NestedCalls.enter closingFirst 0 true []) after ∧
      (∃ trace, (NestedCalls.system Sessions.codeAllocator).Steps
        (NestedCalls.enter closingFirst 0 true []) trace after) ∧
      Ends 0 [] left after answer ∧ answer ≠ .error .runs := by
  have same : Matches (twoClients { closed := true, writeLock := true }) closingFirst := by
    refine ⟨rfl, rfl, fun con => ?_, fun con => ?_, rfl⟩
    · by_cases first : con = 0 <;> simp [twoClients, closingFirst, first]
    · by_cases first : con = 0 <;> simp [twoClients, closingFirst, first]
  obtain ⟨answer, left, after, ran, goes, steps, ends, stops⟩ := router_refines Sessions.codeAllocator
    (AesSession.encrypt fun _ _ _ => 0) (fun _ _ _ => 0) 4 3 true 0 [] _ _ same (by simp [closingFirst])
  exact ⟨answer, left, after, ran, goes, steps, ends, stops (by decide) (by decide)⟩

end Vpverk.RouterRefinement
