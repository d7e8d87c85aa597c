import Vpverk.Peer

/-! `closeOldSessions` while no other coroutine changes `connections_`. A sweep
looks at the connections one after another and takes those out that are not active
or too old. What a probe or a `close` throws ends the sweep, and the process. -/
namespace Vpverk.Sweep
open Coroutine Octets Asioapi Peer

/-! ### Removal by the last element -/

section
variable {α : Type}

/-- `v[i] = std::move(v.back()); v.pop_back();`. -/
def swapRemove (vector : List α) (i : Nat) : Option (List α) :=
  match vector.getLast? with
  | none => none
  | some back => if i < vector.length then some (vector.set i back).dropLast else none

/-- What stands behind the element goes on standing there, its last in front. -/
theorem swapRemove_append (seen : List α) (element : α) (rest : List α) :
    ∃ moved, swapRemove (seen ++ element :: rest) seen.length = some (seen ++ moved) ∧
      moved.Perm rest := by
  rcases List.eq_nil_or_concat rest with rfl | ⟨init, last, rfl⟩
  · exact ⟨[], by simp [swapRemove], .nil⟩
  · refine ⟨last :: init, ?_, by simpa using (List.perm_append_singleton last init).symm⟩
    have back : (seen ++ element :: init ++ [last]).getLast? = some last :=
      List.getLast?_concat ..
    have set : (seen ++ element :: init ++ [last]).set seen.length last =
        seen ++ last :: init ++ [last] := by simp
    rw [List.concat_eq_append, ← List.cons_append, ← List.append_assoc, swapRemove, back]
    dsimp only
    rw [if_pos (by simp), set, List.dropLast_concat]

theorem swapRemove_perm {vector : List α} {i : Nat} {element : α} (here : vector[i]? = some element) :
    ∃ left, swapRemove vector i = some left ∧ vector.Perm (element :: left) := by
  obtain ⟨inside, rfl⟩ := List.getElem?_eq_some_iff.mp here
  obtain ⟨moved, removed, perm⟩ :=
    swapRemove_append (vector.take i) vector[i] (vector.drop (i + 1))
  have whole : vector.take i ++ vector[i] :: vector.drop (i + 1) = vector := by simp
  rw [whole, List.length_take_of_le (Nat.le_of_lt inside)] at removed
  refine ⟨_, removed, ?_⟩
  conv_lhs => rw [← whole]
  exact List.perm_middle.trans ((perm.symm.append_left _).cons _)

/-- What is left stands where it stood, or was the last and stands where the element
was. -/
theorem swapRemove_getElem? {vector left : List α} {i place : Nat} {element : α}
    (removed : swapRemove vector i = some left) (there : left[place]? = some element) :
    ∃ before, vector[before]? = some element ∧ place ≤ before ∧ before ≠ i ∧
      (before = place ∨ place = i) := by
  unfold swapRemove at removed
  split at removed
  · cases removed
  · rename_i back last
    split at removed <;> cases removed
    rename_i inside
    rw [List.getElem?_dropLast, List.length_set] at there
    split at there
    · rename_i shorter
      by_cases moved : place = i
      · subst moved
        rw [List.getElem?_set_self inside] at there
        rw [List.getLast?_eq_getElem?] at last
        exact ⟨vector.length - 1, last.trans there, by omega, by omega, .inr rfl⟩
      · rw [List.getElem?_set_ne (Ne.symm moved)] at there
        exact ⟨place, there, Nat.le_refl _, moved, .inl rfl⟩
    · cases there

theorem swapRemove_length {vector left : List α} {i : Nat} (removed : swapRemove vector i = some left) :
    i < vector.length ∧ left.length + 1 = vector.length := by
  unfold swapRemove at removed
  split at removed
  · cases removed
  · split at removed <;> cases removed
    rename_i inside
    exact ⟨inside, by simp; omega⟩

end

/-! ### The sweep -/

/-- A connection as a sweep finds it. -/
structure Watched where
  con : Connection := {}
  readLock : Bool := false
  /-- `alive_time`, in seconds. -/
  aliveTime : Int := 0
  /-- What those who hold the write lock leave behind when they give it back, if they
  ever do. -/
  released : Option Connection := none

/-- `connections_`, with what the sweep has looked at as it found it, and what it
has closed. -/
structure SweepWorld where
  connections : List Watched := []
  examined : List Watched := []
  closed : List Watched := []

def Watched.onCon {α : Type} (inner : Coroutine Connection α) : Coroutine Watched α :=
  within Watched.con (fun con watched => { watched with con := con }) inner

/-- `Connection::is_active`: nothing while the read lock is held. -/
def Watched.isActive : Coroutine Watched (Option Bool) := do
  if (← look).readLock then pure none
  else
    change fun watched => { watched with readLock := true }
    let exp ← onCon (Connection.onSocket reliableIsOpen)
    change fun watched => { watched with readLock := false }
    match exp with
    | .ok isOpen => pure (some isOpen)
    | .error code => throw ("reliable is open unexpected error code: " ++ code.message)

/-- The connection when its `close` comes to the write lock: as those have left it who
held the lock until then. -/
def Watched.turn (conn : Watched) : Connection :=
  match conn.released with
  | some released =>
    if !conn.con.closed && conn.con.writeLock then
      { released with closed := false, writeLock := false }
    else conn.con
  | none => conn.con

/-- The await of `close`. It waits for the write lock as long as that is held. -/
def Watched.close (reason : Bytes) : Coroutine Watched Unit := do
  change fun watched => { watched with con := watched.turn }
  onCon (Connection.close reason)

/-- What is done to a connection the sweep holds. -/
def held {α : Type} (inner : Coroutine Watched α) (conn : Watched) :
    Coroutine SweepWorld (α × Watched) :=
  match inner.run conn with
  | (.ok value, conn) => pure (value, conn)
  | (.error how, _) => stop how

/-- The connection is taken out and closed. -/
def removeAt (i : Nat) (conn : Watched) (reason : String) : Coroutine SweepWorld Unit := do
  match swapRemove (← look).connections i with
  | none => stop .undefined
  | some connections =>
    change fun world => { world with connections := connections }
    let (_, conn) ← held (Watched.close (utf8 reason)) conn
    change fun world => { world with closed := world.closed ++ [conn] }

/-- The loop of `closeOldSessions`, at most `passes` times round. -/
def sweepFrom (maxAliveTime : Int) : Nat → Nat → Coroutine SweepWorld Unit
  | 0, _ => running
  | passes + 1, i => do
    match (← look).connections[i]? with
    | none => pure ()
    | some conn =>
      change fun world => { world with examined := world.examined ++ [conn] }
      match ← held Watched.isActive conn with
      | (none, _) => sweepFrom maxAliveTime passes (i + 1)
      | (some false, conn) =>
        removeAt i conn "not active (should be no-op)"
        sweepFrom maxAliveTime passes (min i (← look).connections.length)
      | (some true, conn) =>
        if maxAliveTime ≤ conn.aliveTime then
          removeAt i conn "session expired"
          sweepFrom maxAliveTime passes (min i (← look).connections.length)
        else
          change fun world => { world with connections := world.connections.set i conn }
          sweepFrom maxAliveTime passes (i + 1)

/-- `closeOldSessions` with the `max_alive_time` of its settings. -/
def closeOldSessions (maxAliveTime : Int) : Coroutine SweepWorld Unit :=
  tryCatch (do sweepFrom maxAliveTime ((← look).connections.length + 1) 0)
    fun what => abort ("exception in close old: " ++ what)

/-! ### One connection -/

/-- A socket with an error that `reliable_is_open` does not expect. -/
def Unexpected (socket : Socket) : Prop :=
  socket.isOpen = true ∧ ∃ code rest, socket.arrivals = .fails code :: rest ∧ code ≠ .eof ∧
    code ≠ .connectionReset

/-- The connection after its socket has been looked at. -/
def Watched.probed (conn : Watched) : Watched :=
  { conn with con := { conn.con with socket := (reliableIsOpen.run conn.con.socket).2 } }

/-- What the sweep leaves of a connection that it does not take out. -/
def Watched.settled (conn : Watched) : Watched :=
  if conn.readLock then conn else conn.probed

/-- Why the sweep takes the connection out, if it does. -/
def Watched.reason (maxAliveTime : Int) (conn : Watched) : Option String :=
  if conn.readLock then none
  else
    match (reliableIsOpen.run conn.con.socket).1 with
    | .ok (.ok false) => some "not active (should be no-op)"
    | .ok (.ok true) => if maxAliveTime ≤ conn.aliveTime then some "session expired" else none
    | .ok (.error _) | .error _ => none

/-- The connection where it is kept. -/
def Watched.kept (maxAliveTime : Int) (conn : Watched) : Option Watched :=
  match conn.reason maxAliveTime with
  | none => some conn.settled
  | some _ => none

/-- The connection after its `close` where it is taken out. -/
def Watched.takenOut (maxAliveTime : Int) (conn : Watched) : Option Watched :=
  (conn.reason maxAliveTime).map fun reason => ((Watched.close (utf8 reason)).run conn.probed).2

/-- Nothing that the sweep does with the connection throws, and its `close` does not wait
for a write lock that nobody gives back. -/
structure Harmless (maxAliveTime : Int) (conn : Watched) : Prop where
  expected : conn.readLock = false → ¬ Unexpected conn.con.socket
  closes : ∀ reason, conn.reason maxAliveTime = some reason →
    ∃ after, (Watched.close (utf8 reason)).run conn.probed = (.ok (), after)

variable {maxAliveTime : Int} {conn : Watched} {world : SweepWorld} {passes : Nat}
  {seen rest : List Watched}

theorem isActive_busy (busy : conn.readLock = true) :
    Watched.isActive.run conn = (.ok none, conn) := by
  rw [Watched.isActive, bind_look_run, if_pos busy]
  rfl

/-- `reliable_is_open` answers, with an error exactly when it does not expect it. -/
theorem reliableIsOpen_cases (socket : Socket) :
    (∃ isOpen, (reliableIsOpen.run socket).1 = .ok (.ok isOpen) ∧ ¬ Unexpected socket) ∨
      ∃ code, (reliableIsOpen.run socket).1 = .ok (.error code) ∧ Unexpected socket := by
  obtain ⟨isOpen, arrivals, accepts, sent, strayHandler⟩ := socket
  cases isOpen with
  | false => exact .inl ⟨false, rfl, by simp [Unexpected]⟩
  | true =>
    cases arrivals with
    | nil => exact .inl ⟨true, rfl, by simp [Unexpected]⟩
    | cons arrival rest =>
      cases arrival with
      | bytes | nothing => exact .inl ⟨true, rfl, by simp [Unexpected]⟩
      | fails code =>
        cases code with
        | eof | connectionReset => exact .inl ⟨false, rfl, by simp [Unexpected]⟩
        | _ => exact .inr ⟨_, rfl, rfl, _, _, rfl, by simp, by simp⟩

private theorem onSocket_reliableIsOpen (con : Connection) :
    (Connection.onSocket reliableIsOpen).run con =
      ((reliableIsOpen.run con.socket).1, { con with socket := (reliableIsOpen.run con.socket).2 }) :=
  Connection.onSocket_run rfl

theorem isActive_free (free : conn.readLock = false) :
    Watched.isActive.run conn =
      match (reliableIsOpen.run conn.con.socket).1 with
      | .ok (.ok isOpen) => (.ok (some isOpen), conn.probed)
      | .ok (.error code) =>
        (.error (.throws ("reliable is open unexpected error code: " ++ code.message)), conn.probed)
      | .error how => (.error how, { conn.probed with readLock := true }) := by
  have look : (Watched.onCon (Connection.onSocket reliableIsOpen)).run
      { conn with readLock := true } =
        ((reliableIsOpen.run conn.con.socket).1, { conn.probed with readLock := true }) :=
    within_run (onSocket_reliableIsOpen conn.con)
  have restored : { conn.probed with readLock := false } = conn.probed := by
    simp [Watched.probed, ← free]
  rw [Watched.isActive, bind_look_run, if_neg (by simp [free]), bind_change_run]
  cases answer : (reliableIsOpen.run conn.con.socket).1 with
  | error how =>
    rw [answer] at look
    exact bind_error look
  | ok exp =>
    rw [answer] at look
    rw [bind_ok look, bind_change_run]
    cases exp <;> simp only [restored] <;> rfl

theorem held_ok {α : Type} {inner : Coroutine Watched α} {value : α} {after : Watched}
    (ran : inner.run conn = (.ok value, after)) : held inner conn = pure (value, after) := by
  simp [held, ran]

theorem held_error {α : Type} {inner : Coroutine Watched α} {how : Stop} {after : Watched}
    (ran : inner.run conn = (.error how, after)) : held inner conn = stop how := by
  simp [held, ran]

/-! ### One pass -/

/-- The world in which the sweep has looked at the connection. -/
theorem pass_looks (stands : world.connections = seen ++ conn :: rest) :
    (sweepFrom maxAliveTime (passes + 1) seen.length).run world =
      (held Watched.isActive conn >>= fun answer =>
        match answer with
        | (none, _) => sweepFrom maxAliveTime passes (seen.length + 1)
        | (some false, conn) => do
          removeAt seen.length conn "not active (should be no-op)"
          sweepFrom maxAliveTime passes (min seen.length (← look).connections.length)
        | (some true, conn) =>
          if maxAliveTime ≤ conn.aliveTime then do
            removeAt seen.length conn "session expired"
            sweepFrom maxAliveTime passes (min seen.length (← look).connections.length)
          else do
            change fun world => { world with connections := world.connections.set seen.length conn }
            sweepFrom maxAliveTime passes (seen.length + 1)).run
        { world with examined := world.examined ++ [conn] } := by
  have here : world.connections[seen.length]? = some conn := by simp [stands]
  rw [sweepFrom, bind_look_run, here]
  rfl

/-- A connection with an error that is not expected ends the sweep. -/
theorem pass_unexpected (stands : world.connections = seen ++ conn :: rest)
    (free : conn.readLock = false) (unexpected : Unexpected conn.con.socket) :
    ∃ code after, (sweepFrom maxAliveTime (passes + 1) seen.length).run world =
      (.error (.throws ("reliable is open unexpected error code: " ++ ErrorCode.message code)), after) := by
  rcases reliableIsOpen_cases conn.con.socket with ⟨_, _, expected⟩ | ⟨code, answer, _⟩
  · exact absurd unexpected expected
  · have looked := isActive_free free
    rw [answer] at looked
    refine ⟨code, { world with examined := world.examined ++ [conn] }, (pass_looks stands).trans ?_⟩
    rw [held_error looked]
    rfl

/-- A connection that is busy, or active and young enough, stays. -/
theorem pass_kept (passes : Nat) (stands : world.connections = seen ++ conn :: rest)
    (expected : conn.readLock = false → ¬ Unexpected conn.con.socket)
    (kept : conn.reason maxAliveTime = none) :
    (sweepFrom maxAliveTime (passes + 1) seen.length).run world =
      (sweepFrom maxAliveTime passes (seen.length + 1)).run { world with
        connections := seen ++ conn.settled :: rest
        examined := world.examined ++ [conn] } := by
  cases lock : conn.readLock with
  | true =>
    apply (pass_looks stands).trans
    rw [held_ok (isActive_busy lock), Watched.settled, if_pos lock, ← stands]
    rfl
  | false =>
    rcases reliableIsOpen_cases conn.con.socket with ⟨isOpen, answer, _⟩ | ⟨_, _, unexpected⟩
    · have looked := isActive_free lock
      rw [answer] at looked
      simp only [Watched.reason, lock, Bool.false_eq_true, if_false, answer] at kept
      cases isOpen with
      | false => cases kept
      | true =>
        have young : ¬ maxAliveTime ≤ conn.probed.aliveTime := fun old => by
          rw [if_pos (show maxAliveTime ≤ conn.aliveTime from old)] at kept
          cases kept
        apply (pass_looks stands).trans
        rw [held_ok looked, bind_pure_run]
        dsimp only
        rw [if_neg young, bind_change_run]
        simp [stands, Watched.settled, lock]
    · exact absurd unexpected (expected lock)

/-- A connection that is not active or too old is taken out. -/
theorem pass_removes {reason : String} (stands : world.connections = seen ++ conn :: rest)
    (removed : conn.reason maxAliveTime = some reason) :
    (sweepFrom maxAliveTime (passes + 1) seen.length).run world =
      (do
        removeAt seen.length conn.probed reason
        sweepFrom maxAliveTime passes (min seen.length (← look).connections.length)).run
        { world with examined := world.examined ++ [conn] } := by
  unfold Watched.reason at removed
  split at removed
  · cases removed
  · rename_i free
    have looked := isActive_free (by simpa using free)
    apply (pass_looks stands).trans
    split at removed
    · rename_i answer
      rw [answer] at looked
      cases removed
      rw [held_ok looked]
      rfl
    · rename_i answer
      rw [answer] at looked
      split at removed
      · rename_i old
        have old : maxAliveTime ≤ conn.probed.aliveTime := old
        cases removed
        rw [held_ok looked, bind_pure_run]
        dsimp only
        rw [if_pos old]
      · cases removed
    · cases removed
    · cases removed

/-- What is behind a connection that is taken out is still to be looked at. -/
private theorem removeAt_closes {after : Watched} (world : SweepWorld) (reason : String) (removed : Watched)
    (stands : world.connections = seen ++ conn :: rest)
    (closes : (Watched.close (utf8 reason)).run removed = (.ok (), after)) :
    ∃ moved, moved.Perm rest ∧ (removeAt seen.length removed reason).run world = (.ok (),
      { world with connections := seen ++ moved, closed := world.closed ++ [after] }) := by
  obtain ⟨moved, swapped, perm⟩ := swapRemove_append seen conn rest
  refine ⟨moved, perm, ?_⟩
  rw [removeAt, bind_look_run, stands, swapped]
  dsimp only
  rw [bind_change_run, held_ok closes]
  rfl

private theorem removeAt_throws (world : SweepWorld) (reason : String) (removed : Watched)
    (stands : world.connections = seen ++ conn :: rest)
    (throws : ¬ ∃ after, (Watched.close (utf8 reason)).run removed = (.ok (), after)) :
    ∃ how after, (removeAt seen.length removed reason).run world = (.error how, after) := by
  obtain ⟨moved, swapped, _⟩ := swapRemove_append seen conn rest
  cases ran : (Watched.close (utf8 reason)).run removed with
  | mk answer after =>
    cases answer with
    | ok _ => exact absurd ⟨after, ran⟩ throws
    | error how =>
      refine ⟨how, { world with connections := seen ++ moved }, ?_⟩
      rw [removeAt, bind_look_run, stands, swapped]
      dsimp only
      rw [bind_change_run, held_error ran]
      rfl

/-- A harmless connection is looked at, and the sweep goes on to those behind it. -/
theorem pass_harmless (passes : Nat) (stands : world.connections = seen ++ conn :: rest)
    (harmless : Harmless maxAliveTime conn) :
    ∃ moved after, moved.Perm rest ∧
      after.connections = seen ++ (conn.kept maxAliveTime).toList ++ moved ∧
      after.examined = world.examined ++ [conn] ∧
      after.closed = world.closed ++ (conn.takenOut maxAliveTime).toList ∧
      (sweepFrom maxAliveTime (passes + 1) seen.length).run world =
        (sweepFrom maxAliveTime passes (seen ++ (conn.kept maxAliveTime).toList).length).run after := by
  cases reason : conn.reason maxAliveTime with
  | none =>
    have ran := pass_kept passes stands harmless.expected reason
    refine ⟨rest, { world with
      connections := seen ++ conn.settled :: rest
      examined := world.examined ++ [conn] }, .refl _, ?_, rfl, ?_, ran.trans ?_⟩
    · simp [Watched.kept, reason]
    · simp [Watched.takenOut, reason]
    · simp [Watched.kept, reason]
  | some why =>
    obtain ⟨after, closes⟩ := harmless.closes why reason
    obtain ⟨moved, perm, removed⟩ := removeAt_closes
      { world with examined := world.examined ++ [conn] } why conn.probed stands closes
    refine ⟨moved, { world with
      connections := seen ++ moved
      examined := world.examined ++ [conn]
      closed := world.closed ++ [after] }, perm, ?_, rfl, ?_, (pass_removes stands reason).trans ?_⟩
    · simp [Watched.kept, reason]
    · simp [Watched.takenOut, reason, closes]
    · rw [bind_ok removed, bind_look_run]
      simp [Watched.kept, reason]

/-- Another ends the sweep. -/
theorem pass_harmful (passes : Nat) (stands : world.connections = seen ++ conn :: rest)
    (harmful : ¬ Harmless maxAliveTime conn) :
    ∃ how after, (sweepFrom maxAliveTime (passes + 1) seen.length).run world =
      (.error how, after) := by
  by_cases unexpected : conn.readLock = false ∧ Unexpected conn.con.socket
  · obtain ⟨code, after, ran⟩ := pass_unexpected stands unexpected.1 unexpected.2
    exact ⟨_, after, ran⟩
  · by_contra ends
    refine harmful ⟨fun free => fun bad => unexpected ⟨free, bad⟩, fun why reason => ?_⟩
    by_contra throws
    obtain ⟨how, after, ran⟩ := removeAt_throws
      { world with examined := world.examined ++ [conn] } why conn.probed stands throws
    exact ends ⟨how, after, (pass_removes stands reason).trans (bind_error ran)⟩

/-! ### The whole list -/

/-- The sweep has gone through what stood behind `seen`. -/
structure Swept (maxAliveTime : Int) (seen rest : List Watched) (before after : SweepWorld) :
    Prop where
  examined : after.examined.Perm (before.examined ++ rest)
  closed : after.closed.Perm (before.closed ++ rest.filterMap (Watched.takenOut maxAliveTime))
  connections : after.connections.Perm (seen ++ rest.filterMap (Watched.kept maxAliveTime))

theorem filterMap_toList {α β : Type} (f : α → Option β) (first : α) (rest : List α) :
    (first :: rest).filterMap f = (f first).toList ++ rest.filterMap f := by
  cases answer : f first <;> simp [answer]

/-- One connection more in front of those the sweep goes through. -/
theorem Swept.cons {before mid after : SweepWorld} {moved : List Watched}
    (examined : mid.examined = before.examined ++ [conn])
    (closed : mid.closed = before.closed ++ (conn.takenOut maxAliveTime).toList)
    (perm : moved.Perm rest)
    (swept : Swept maxAliveTime (seen ++ (conn.kept maxAliveTime).toList) moved mid after) :
    Swept maxAliveTime seen (conn :: rest) before after := by
  constructor
  · apply swept.examined.trans
    rw [examined, List.append_assoc]
    exact (perm.cons conn).append_left _
  · apply swept.closed.trans
    rw [closed, List.append_assoc, filterMap_toList]
    exact ((perm.filterMap _).append_left _).append_left _
  · apply swept.connections.trans
    rw [List.append_assoc, filterMap_toList]
    exact ((perm.filterMap _).append_left _).append_left _

/-- From where it stands the sweep goes through what is left exactly if none of it
does harm. -/
theorem sweepFrom_through (passes : Nat) (seen rest : List Watched) (world : SweepWorld)
    (stands : world.connections = seen ++ rest) (enough : rest.length < passes) :
    (∃ after, (sweepFrom maxAliveTime passes seen.length).run world = (.ok (), after) ∧
      Swept maxAliveTime seen rest world after) ∧
        (∀ conn ∈ rest, Harmless maxAliveTime conn) ∨
    (∃ how after, (sweepFrom maxAliveTime passes seen.length).run world = (.error how, after)) ∧
        ¬ ∀ conn ∈ rest, Harmless maxAliveTime conn := by
  induction passes generalizing seen rest world with
  | zero => omega
  | succ passes ih =>
    cases rest with
    | nil =>
      refine .inl ⟨⟨world, ?_, ⟨by simp, by simp, by simp [stands]⟩⟩, by simp⟩
      rw [sweepFrom, bind_look_run, stands]
      simp
    | cons conn rest =>
      by_cases harmless : Harmless maxAliveTime conn
      · obtain ⟨moved, mid, perm, stands', examined, closed, ran⟩ :=
          pass_harmless passes stands harmless
        have fewer : moved.length < passes := by
          rw [perm.length_eq]
          simpa using enough
        have same : (∀ other ∈ moved, Harmless maxAliveTime other) ↔
            ∀ other ∈ conn :: rest, Harmless maxAliveTime other := by
          simp only [List.forall_mem_cons, harmless, true_and, perm.mem_iff]
        rw [ran, ← same]
        refine (ih _ moved mid stands' fewer).imp_left fun ⟨⟨after, ended, swept⟩, harmless⟩ => ?_
        exact ⟨⟨after, ended, swept.cons examined closed perm⟩, harmless⟩
      · obtain ⟨how, after, ran⟩ := pass_harmful passes stands harmless
        exact .inr ⟨⟨how, after, ran⟩, fun all => harmless (all conn (List.mem_cons_self ..))⟩

/-- **The sweep survives exactly the connections that do no harm.** It goes through
the whole of `connections_`, each connection looked at once, if and only if none
that it probes has an error `reliable_is_open` does not expect and the `close` of each
that it takes out comes back without an exception. -/
theorem sweep_isolated (maxAliveTime : Int) (world : SweepWorld) :
    (∃ after, (closeOldSessions maxAliveTime).run world = (.ok (), after) ∧
      after.examined.Perm (world.examined ++ world.connections)) ↔
    ∀ conn ∈ world.connections, Harmless maxAliveTime conn := by
  have body : (look >>= fun found => sweepFrom maxAliveTime
      (SweepWorld.connections found).length.succ 0).run world =
        (sweepFrom maxAliveTime (world.connections.length + 1) 0).run world := rfl
  rcases sweepFrom_through (world.connections.length + 1) [] world.connections world rfl
    (Nat.lt_succ_self _) with ⟨⟨after, ran, swept⟩, harmless⟩ | ⟨⟨how, after, ran⟩, harmful⟩
  · exact ⟨fun _ => harmless, fun _ => ⟨after, tryCatch_body (body.trans ran) (by simp), swept.examined⟩⟩
  · refine ⟨fun ⟨after', ended, _⟩ => ?_, fun all => absurd all harmful⟩
    cases how with
    | throws what => cases ended.symm.trans (tryCatch_throws (body.trans ran))
    | _ => cases ended.symm.trans (tryCatch_body (body.trans ran) (by simp))

/-- A peer that answers no more, and an active one. -/
def timedOut : Watched := { con := { socket := { arrivals := [.fails (.other "Connection timed out")] } } }
def active : Watched := {}

/-- One client's network fault kills the server before the other client is looked at. -/
theorem timed_out_aborts :
    ∃ after, (closeOldSessions 3600).run { connections := [timedOut, active] } =
        (.error (.aborts ("exception in close old: reliable is open unexpected error code: " ++
          "Connection timed out")), after) ∧
      after.examined = [timedOut] ∧ after.connections = [timedOut, active] :=
  ⟨_, rfl, rfl, rfl⟩

end Vpverk.Sweep
