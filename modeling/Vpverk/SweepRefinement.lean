import Vpverk.SweepBookkeeping
import Vpverk.SweepExact

/-! One sweep of the machine and the coroutine it stands for. `closeOldSessions` with its probes
and its `close` calls does what a sweep of the machine does that nobody interrupts: from where
its settings come, steps of the machine lead to where it ends or stops, with the same
connections looked at, left and closed, in the same order and for the same reasons. -/
namespace Vpverk.SweepRefinement
open Coroutine Octets Asioapi Peer Transition
open Vpverk.Sweep (Watched SweepWorld swapRemove sweepFrom closeOldSessions removeAt Unexpected
  pass_looks pass_kept pass_removes held_ok held_error isActive_throws reason_eq)
open SweepBookkeeping (Control Label Event Pc step probes)

/-! ### The element that is moved -/

/-- What is left behind an element that is taken out: the last of it comes to the front. -/
def rotated {α : Type} (rest : List α) : List α :=
  match rest.getLast? with
  | none => []
  | some last => last :: rest.dropLast

theorem rotated_map {α β : Type} (f : α → β) (rest : List α) :
    rotated (rest.map f) = (rotated rest).map f := by
  unfold rotated
  rw [List.getLast?_map]
  cases rest.getLast? <;> simp [List.map_dropLast]

theorem rotated_length {α : Type} (rest : List α) : (rotated rest).length = rest.length := by
  rcases List.eq_nil_or_concat rest with rfl | ⟨init, last, rfl⟩
  · rfl
  · simp [rotated]

theorem swapRemove_rotated {α : Type} (seen : List α) (element : α) (rest : List α) :
    swapRemove (seen ++ element :: rest) seen.length = some (seen ++ rotated rest) := by
  rcases List.eq_nil_or_concat rest with rfl | ⟨init, last, rfl⟩
  · simp [swapRemove, rotated]
  · have back : (seen ++ element :: init ++ [last]).getLast? = some last := List.getLast?_concat ..
    have set : (seen ++ element :: init ++ [last]).set seen.length last = seen ++ last :: init ++ [last] := by
      simp
    rw [List.concat_eq_append, ← List.cons_append, ← List.append_assoc, swapRemove, back]
    dsimp only
    rw [if_pos (by simp), set, List.dropLast_concat, rotated]
    simp

/-! ### The steps of the machine -/

/-- The connections the sweep has closed, with the reasons it gave. -/
def closings (k : Nat) (trace : List Label) : List (Nat × String) :=
  trace.filterMap fun
    | .closes sweep conn reason => if sweep = k then some (conn, reason) else none
    | _ => none

@[simp] theorem probes_append (k : Nat) (trace later : List Label) :
    probes k (trace ++ later) = probes k trace ++ probes k later := List.filterMap_append ..

@[simp] theorem closings_append (k : Nat) (trace later : List Label) :
    closings k (trace ++ later) = closings k trace ++ closings k later := List.filterMap_append ..

/-- What the machine is told of a connection is what the connection is. -/
def Told (found : Nat → Watched) : Label → Prop
  | .probed _ conn isActive => isActive = (found conn).answer
  | .aged _ conn aliveTime => aliveTime = (found conn).aliveTime
  | _ => True

/-- Where a sweep stands, and what it works on. -/
structure Stands (k : Nat) (sweep : SweepBookkeeping.Sweep) (connections : List Nat)
    (running : Option Nat) (control : Control) : Prop where
  lives : control.fate = .lives
  running : control.running = running
  stands : control.sweeps[k]? = some sweep
  connections : control.connections = connections

/-- Steps of the machine lead to where the sweep stands here, has looked at these connections
and closed these. -/
structure Leads (found : Nat → Watched) (start : Control) (k : Nat) (sweep : SweepBookkeeping.Sweep)
    (connections : List Nat) (running : Option Nat) (probed : List Nat)
    (closed : List (Nat × String)) (trace : List Label) (after : Control) : Prop where
  steps : SweepBookkeeping.system.Steps start trace after
  stands : Stands k sweep connections running after
  told : ∀ label ∈ trace, Told found label
  probed : probes k trace = probed
  closed : closings k trace = closed

def Reaches (found : Nat → Watched) (start : Control) (k : Nat) (sweep : SweepBookkeeping.Sweep)
    (connections : List Nat) (running : Option Nat) (probed : List Nat)
    (closed : List (Nat × String)) : Prop :=
  ∃ trace after, Leads found start k sweep connections running probed closed trace after

variable {found : Nat → Watched} {start control : Control} {k i : Nat}
  {sweep changed : SweepBookkeeping.Sweep} {label : Label} {conn : Nat} {reason : String}
  {connections connections' : List Nat} {running running' : Option Nat} {probed : List Nat}
  {closed : List (Nat × String)} {maxAliveTime : Int}

theorem Stands.put (stands : Stands k sweep connections running control)
    (changed : SweepBookkeeping.Sweep) (connections' : List Nat) (running' : Option Nat) :
    Stands k changed connections' running'
      { control.put k changed with connections := connections', running := running' } :=
  ⟨stands.lives, rfl, List.getElem?_set_self (List.getElem?_eq_some_iff.mp stands.stands).1, rfl⟩

/-- One more step. -/
theorem Reaches.next (reaches : Reaches found start k sweep connections running probed closed)
    (event : Event) (label : Label) (changed : SweepBookkeeping.Sweep) (connections' : List Nat)
    (running' : Option Nat) (told : Told found label)
    (goes : ∀ control, Stands k sweep connections running control → step control event =
      some ({ control.put k changed with connections := connections', running := running' }, label)) :
    Reaches found start k changed connections' running' (probed ++ probes k [label])
      (closed ++ closings k [label]) := by
  obtain ⟨trace, control, leads⟩ := reaches
  refine ⟨_, _, leads.steps.next ⟨event, goes control leads.stands⟩, leads.stands.put _ _ _, ?_, ?_, ?_⟩
  · simpa [or_imp, forall_and] using ⟨leads.told, told⟩
  · rw [probes_append, leads.probed]
  · rw [closings_append, leads.closed]

/-- The sweep comes to the connection at its index. -/
theorem Reaches.looks
    (reaches : Reaches found start k ⟨.looping, i, maxAliveTime⟩ connections (some k) probed closed)
    (here : connections[i]? = some conn) :
    Reaches found start k ⟨.probing conn, i, maxAliveTime⟩ connections (some k) probed closed := by
  have inside : i < connections.length := (List.getElem?_eq_some_iff.mp here).1
  have indexing := reaches.next .goesOn .quiet ⟨.indexing, i, maxAliveTime⟩ connections
    (some k) trivial fun control now => by
      obtain ⟨lives, runs, stands, rfl⟩ := now
      simp [step, SweepBookkeeping.run, lives, runs, stands, inside, Control.put]
  have probing := indexing.next .goesOn .quiet ⟨.probing conn, i, maxAliveTime⟩
    connections (some k) trivial fun control now => by
      obtain ⟨lives, runs, stands, rfl⟩ := now
      simp [step, SweepBookkeeping.run, lives, runs, stands, here, Control.put]
  simpa [probes, closings] using probing

/-- The connection stays. -/
theorem Reaches.keeps (reaches :
      Reaches found start k ⟨.probing conn, i, maxAliveTime⟩ connections (some k) probed closed)
    (kept : (found conn).stale maxAliveTime = false) :
    Reaches found start k ⟨.looping, i + 1, maxAliveTime⟩ connections (some k) (probed ++ [conn])
      closed := by
  unfold Watched.stale at kept
  split at kept
  · rename_i busy
    have looping := reaches.next (.probe (.ok none)) (.probed k conn none)
      ⟨.looping, i + 1, maxAliveTime⟩ connections (some k) busy.symm
      fun control now => by
        obtain ⟨lives, runs, stands, rfl⟩ := now
        simp [step, SweepBookkeeping.run, lives, runs, stands, Control.put]
    simpa [probes, closings] using looping
  · cases kept
  · rename_i active
    have young : ¬ maxAliveTime ≤ (found conn).aliveTime := of_decide_eq_false kept
    have aging := reaches.next (.probe (.ok (some true))) (.probed k conn (some true))
      ⟨.aging conn, i, maxAliveTime⟩ connections (some k) active.symm
      fun control now => by
        obtain ⟨lives, runs, stands, rfl⟩ := now
        simp [step, SweepBookkeeping.run, lives, runs, stands, Control.put]
    have looping := aging.next (.age (found conn).aliveTime)
      (.aged k conn (found conn).aliveTime) ⟨.looping, i + 1, maxAliveTime⟩ connections (some k) rfl
      fun control now => by
        obtain ⟨lives, runs, stands, rfl⟩ := now
        simp [step, SweepBookkeeping.run, lives, runs, stands, young, Control.put]
    simpa [probes, closings] using looping

/-- The connection is to be taken out. -/
theorem Reaches.condemns (reaches :
      Reaches found start k ⟨.probing conn, i, maxAliveTime⟩ connections (some k) probed closed)
    (stale : (found conn).stale maxAliveTime = true) :
    Reaches found start k ⟨.removing conn (found conn).farewell, i, maxAliveTime⟩ connections
      (some k) (probed ++ [conn]) closed := by
  unfold Watched.stale at stale
  split at stale
  · cases stale
  · rename_i inactive
    have removing := reaches.next (.probe (.ok (some false))) (.probed k conn (some false))
      ⟨.removing conn (found conn).farewell, i, maxAliveTime⟩ connections (some k) inactive.symm
      fun control now => by
        obtain ⟨lives, runs, stands, rfl⟩ := now
        simp [step, SweepBookkeeping.run, lives, runs, stands, Control.put, Watched.farewell, inactive]
    simpa [probes, closings] using removing
  · rename_i active
    have old : maxAliveTime ≤ (found conn).aliveTime := of_decide_eq_true stale
    have aging := reaches.next (.probe (.ok (some true))) (.probed k conn (some true))
      ⟨.aging conn, i, maxAliveTime⟩ connections (some k) active.symm
      fun control now => by
        obtain ⟨lives, runs, stands, rfl⟩ := now
        simp [step, SweepBookkeeping.run, lives, runs, stands, Control.put]
    have removing := aging.next (.age (found conn).aliveTime)
      (.aged k conn (found conn).aliveTime) ⟨.removing conn (found conn).farewell, i, maxAliveTime⟩
      connections (some k) rfl fun control now => by
        obtain ⟨lives, runs, stands, rfl⟩ := now
        simp [step, SweepBookkeeping.run, lives, runs, stands, old, Control.put, Watched.farewell, active]
    simpa [probes, closings] using removing

/-- It is taken out, and its `close` is called. -/
theorem Reaches.calls {seen rest : List Nat} (reaches : Reaches found start k
      ⟨.removing conn reason, seen.length, maxAliveTime⟩ (seen ++ conn :: rest) (some k) probed closed) :
    Reaches found start k ⟨.closing, seen.length, maxAliveTime⟩ (seen ++ rotated rest) none probed
      (closed ++ [(conn, reason)]) := by
  have here : (seen ++ conn :: rest)[seen.length]? = some conn := by simp
  have calling := reaches.next .goesOn (.removed k conn)
    ⟨.calling conn reason, seen.length, maxAliveTime⟩ (seen ++ rotated rest) (some k) trivial
    fun control now => by
      obtain ⟨lives, runs, stands, same⟩ := now
      simp only [step, SweepBookkeeping.run, lives, runs, stands, same, here, swapRemove_rotated]
      simp [Control.put, runs]
  have closing := calling.next .goesOn (.closes k conn reason)
    ⟨.closing, seen.length, maxAliveTime⟩ (seen ++ rotated rest) none trivial
    fun control now => by
      obtain ⟨lives, runs, stands, same⟩ := now
      rw [← same]
      simp [step, SweepBookkeeping.run, lives, runs, stands, Control.put]
  simpa [probes, closings] using closing

/-- The `close` comes to its end. -/
theorem Reaches.returns
    (reaches : Reaches found start k ⟨.closing, i, maxAliveTime⟩ connections none probed closed) :
    Reaches found start k ⟨.looping, min i connections.length, maxAliveTime⟩ connections (some k)
      probed closed := by
  have looping := reaches.next (.returns k (.ok ())) .quiet
    ⟨.looping, min i connections.length, maxAliveTime⟩ connections (some k) trivial
    fun control now => by
      obtain ⟨lives, runs, stands, rfl⟩ := now
      simp [step, lives, runs, stands, Control.put]
  simpa [probes, closings] using looping

/-- There is nothing left to look at. -/
theorem Reaches.ends
    (reaches : Reaches found start k ⟨.looping, i, maxAliveTime⟩ connections (some k) probed closed)
    (through : ¬ i < connections.length) :
    Reaches found start k ⟨.ended, i, maxAliveTime⟩ connections none probed closed := by
  have ended := reaches.next .goesOn .quiet ⟨.ended, i, maxAliveTime⟩ connections none
    trivial fun control now => by
      obtain ⟨lives, runs, stands, rfl⟩ := now
      simp [step, SweepBookkeeping.run, lives, runs, stands, through, Control.put]
  simpa [probes, closings] using ended

/-! ### How a sweep comes out -/

/-- The connection after a `close` by the sweep. -/
def shut (found : Nat → Watched) (closing : Nat × String) : Watched :=
  ((Watched.close (utf8 closing.2)).run (found closing.1).probed).2

/-- Steps of the machine lead to the end of the process. -/
def Aborts (found : Nat → Watched) (start : Control) (k : Nat) (what : String) (probed : List Nat)
    (closed : List (Nat × String)) : Prop :=
  ∃ trace after, SweepBookkeeping.system.Steps start
      (trace ++ [.aborts ("exception in close old: " ++ what)]) after ∧ after.fate = .aborted ∧
    (∀ label ∈ trace, Told found label) ∧ probes k trace = probed ∧ closings k trace = closed

theorem Reaches.aborts (reaches : Reaches found start k sweep connections running probed closed)
    (event : Event) (what : String)
    (goes : ∀ control, Stands k sweep connections running control →
      step control event = some (control.abort what)) :
    Aborts found start k what probed closed := by
  obtain ⟨trace, control, leads⟩ := reaches
  exact ⟨trace, _, leads.steps.next ⟨event, goes control leads.stands⟩, rfl, leads.told, leads.probed,
    leads.closed⟩

theorem Reaches.probeThrows (reaches :
      Reaches found start k ⟨.probing conn, i, maxAliveTime⟩ connections (some k) probed closed)
    (what : String) : Aborts found start k what probed closed :=
  reaches.aborts (.probe (.error what)) what fun control now => by
    obtain ⟨lives, runs, stands, _⟩ := now
    simp [step, SweepBookkeeping.run, lives, runs, stands]

theorem Reaches.closeThrows
    (reaches : Reaches found start k ⟨.closing, i, maxAliveTime⟩ connections none probed closed)
    (what : String) : Aborts found start k what probed closed :=
  reaches.aborts (.returns k (.error what)) what fun control now => by
    obtain ⟨lives, runs, stands, _⟩ := now
    simp [step, lives, runs, stands]

/-- How the coroutine comes out, and the sweep of the machine with it. -/
inductive ComesOut (found : Nat → Watched) (start : Control) (k : Nat) (maxAliveTime : Int) :
    Except Stop Unit × SweepWorld → Prop where
  /-- Both come to their end, with the same connections left. -/
  | ends {probed closed left i world} :
    Reaches found start k ⟨.ended, i, maxAliveTime⟩ left none probed closed →
    world.connections = left.map (fun conn => (found conn).settled) →
    world.examined = probed.map found → world.closed = closed.map (shut found) →
    ComesOut found start k maxAliveTime (.ok (), world)
  /-- A probe throws, which ends the process. -/
  | probeThrows {probed closed world conn what} :
    Aborts found start k what probed closed →
    (Watched.isActive.run (found conn)).1 = .error (.throws what) →
    world.examined = (probed ++ [conn]).map found → world.closed = closed.map (shut found) →
    ComesOut found start k maxAliveTime
      (.error (.aborts ("exception in close old: " ++ what)), world)
  /-- A `close` throws, which ends the process. -/
  | closeThrows {probed closed world conn reason what} :
    Aborts found start k what probed (closed ++ [(conn, reason)]) →
    ((Watched.close (utf8 reason)).run (found conn).probed).1 = .error (.throws what) →
    world.examined = probed.map found → world.closed = closed.map (shut found) →
    ComesOut found start k maxAliveTime
      (.error (.aborts ("exception in close old: " ++ what)), world)
  /-- A `close` stops in another way, and both stand there. -/
  | closeStops {probed closed left i world conn reason how} :
    Reaches found start k ⟨.closing, i, maxAliveTime⟩ left none probed (closed ++ [(conn, reason)]) →
    ((Watched.close (utf8 reason)).run (found conn).probed).1 = .error how →
    (∀ what, how ≠ .throws what) →
    world.examined = probed.map found → world.closed = closed.map (shut found) →
    ComesOut found start k maxAliveTime (.error how, world)

/-- The loop within its try block. -/
def caught (maxAliveTime : Int) (passes i : Nat) : Coroutine SweepWorld Unit :=
  tryCatch (sweepFrom maxAliveTime passes i) fun what => abort ("exception in close old: " ++ what)

theorem caught_congr {passes passes' j : Nat} {world world' : SweepWorld}
    (same : (sweepFrom maxAliveTime passes i).run world = (sweepFrom maxAliveTime passes' j).run world') :
    (caught maxAliveTime passes i).run world = (caught maxAliveTime passes' j).run world' := by
  simp only [caught, Coroutine.tryCatch, same]

theorem pass_throws {world : SweepWorld} {seen rest : List Watched} {conn after : Watched}
    {how : Stop} (maxAliveTime : Int) (passes : Nat) (stands : world.connections = seen ++ conn :: rest)
    (throws : Watched.isActive.run conn = (.error how, after)) :
    (sweepFrom maxAliveTime (passes + 1) seen.length).run world =
      (.error how, { world with examined := world.examined ++ [conn] }) := by
  apply (pass_looks stands).trans
  rw [held_error throws]
  rfl

theorem removeAt_run {world : SweepWorld} {seen rest : List Watched} {conn : Watched}
    (reason : String) (removed : Watched) (stands : world.connections = seen ++ conn :: rest) :
    (removeAt seen.length removed reason).run world =
      match (Watched.close (utf8 reason)).run removed with
      | (.ok (), after) => (.ok (),
        { world with connections := seen ++ rotated rest, closed := world.closed ++ [after] })
      | (.error how, _) => (.error how, { world with connections := seen ++ rotated rest }) := by
  rw [removeAt, bind_look_run, stands, swapRemove_rotated]
  dsimp only
  rw [bind_change_run]
  cases ran : (Watched.close (utf8 reason)).run removed with
  | mk answer after =>
    cases answer with
    | ok _ =>
      rw [held_ok ran]
      rfl
    | error how =>
      rw [held_error ran]
      rfl

/-- The coroutine and the sweep of the machine have both come to where `rest` is to be looked at. -/
structure Level (found : Nat → Watched) (start : Control) (k : Nat) (maxAliveTime : Int)
    (seen rest probed : List Nat) (closed : List (Nat × String)) (world : SweepWorld) : Prop where
  reaches : Reaches found start k ⟨.looping, seen.length, maxAliveTime⟩ (seen ++ rest) (some k)
    probed closed
  connections : world.connections = (seen.map fun conn => (found conn).settled) ++ rest.map found
  examined : world.examined = probed.map found
  closed : world.closed = closed.map (shut found)

variable {seen rest : List Nat} {world : SweepWorld}

/-- A connection that stays. -/
theorem Level.keeps (level : Level found start k maxAliveTime seen (conn :: rest) probed closed world)
    (passes : Nat) (expected : (found conn).readLock = false → ¬ Unexpected (found conn).con.socket)
    (kept : (found conn).stale maxAliveTime = false) :
    ∃ world', Level found start k maxAliveTime (seen ++ [conn]) rest (probed ++ [conn]) closed world' ∧
      (sweepFrom maxAliveTime (passes + 1) seen.length).run world =
        (sweepFrom maxAliveTime passes (seen ++ [conn]).length).run world' := by
  have here : (seen ++ conn :: rest)[seen.length]? = some conn := by simp
  have stays : (found conn).reason maxAliveTime = none := by
    rw [reason_eq, kept]
    rfl
  have ran := pass_kept passes level.connections expected stays
  rw [List.length_map] at ran
  refine ⟨{ world with
    connections := (seen.map fun conn => (found conn).settled) ++ (found conn).settled :: rest.map found
    examined := world.examined ++ [found conn] }, ⟨?_, ?_, ?_, ?_⟩, ran.trans ?_⟩
  · simpa using (level.reaches.looks here).keeps kept
  · simp
  · simp [level.examined]
  · exact level.closed
  · simp

/-- A connection that is taken out. -/
theorem Level.removes
    (level : Level found start k maxAliveTime seen (conn :: rest) probed closed world) (passes : Nat)
    (stale : (found conn).stale maxAliveTime = true) :
    (∃ world', Level found start k maxAliveTime seen (rotated rest) (probed ++ [conn])
        (closed ++ [(conn, (found conn).farewell)]) world' ∧
      (sweepFrom maxAliveTime (passes + 1) seen.length).run world =
        (sweepFrom maxAliveTime passes seen.length).run world') ∨
    ComesOut found start k maxAliveTime ((caught maxAliveTime (passes + 1) seen.length).run world) := by
  have here : (seen ++ conn :: rest)[seen.length]? = some conn := by simp
  have taken : (found conn).reason maxAliveTime = some (found conn).farewell := by
    rw [reason_eq, stale]
    rfl
  have closing := ((level.reaches.looks here).condemns stale).calls
  have stands : { world with examined := world.examined ++ [found conn] }.connections =
      (seen.map fun conn => (found conn).settled) ++ found conn :: rest.map found := level.connections
  have ran : (sweepFrom maxAliveTime (passes + 1) _).run world = _ :=
    pass_removes level.connections taken
  have removes := removeAt_run (found conn).farewell (found conn).probed stands
  rw [List.length_map] at ran removes
  cases closes : (Watched.close (utf8 (found conn).farewell)).run (found conn).probed with
  | mk answer after =>
    rw [closes] at removes
    cases answer with
    | ok _ =>
      left
      refine ⟨{ world with
        connections := (seen.map fun conn => (found conn).settled) ++ rotated (rest.map found)
        examined := world.examined ++ [found conn]
        closed := world.closed ++ [after] }, ⟨?_, ?_, ?_, ?_⟩, ran.trans ((bind_ok removes).trans ?_)⟩
      · simpa using closing.returns
      · rw [← rotated_map]
      · simp [level.examined]
      · simp [level.closed, shut, closes]
      · rw [bind_look_run]
        simp
    | error how =>
      right
      have stopped := ran.trans (bind_error removes)
      have examined : world.examined ++ [found conn] = (probed ++ [conn]).map found := by
        simp [level.examined]
      cases how with
      | throws what =>
        rw [caught, tryCatch_throws stopped]
        exact .closeThrows (closing.closeThrows what) (by rw [closes]) examined level.closed
      | aborts | waits | undefined | runs =>
        rw [caught, tryCatch_body stopped (by simp)]
        exact .closeStops closing (by rw [closes]) (by simp) examined level.closed

/-- One pass. -/
theorem Level.pass (level : Level found start k maxAliveTime seen (conn :: rest) probed closed world)
    (passes : Nat) :
    (∃ seen' rest' probed' closed' world', rest'.length = rest.length ∧
      Level found start k maxAliveTime seen' rest' probed' closed' world' ∧
      (sweepFrom maxAliveTime (passes + 1) seen.length).run world =
        (sweepFrom maxAliveTime passes seen'.length).run world') ∨
    ComesOut found start k maxAliveTime ((caught maxAliveTime (passes + 1) seen.length).run world) := by
  by_cases unexpected : (found conn).readLock = false ∧ Unexpected (found conn).con.socket
  · obtain ⟨what, throws⟩ := isActive_throws unexpected.1 unexpected.2
    have here : (seen ++ conn :: rest)[seen.length]? = some conn := by simp
    have ran := pass_throws maxAliveTime passes level.connections throws
    rw [List.length_map] at ran
    rw [caught, tryCatch_throws ran]
    exact .inr (.probeThrows ((level.reaches.looks here).probeThrows what) (by rw [throws])
      (by simp [level.examined]) level.closed)
  · cases stale : (found conn).stale maxAliveTime with
    | false =>
      obtain ⟨world', level', ran⟩ := level.keeps passes (fun free bad => unexpected ⟨free, bad⟩) stale
      exact .inl ⟨_, _, _, _, world', rfl, level', ran⟩
    | true =>
      refine (level.removes passes stale).imp_left fun removed => ?_
      obtain ⟨world', level', ran⟩ := removed
      exact ⟨_, _, _, _, world', rotated_length rest, level', ran⟩

/-- The whole loop. -/
theorem Level.comesOut (level : Level found start k maxAliveTime seen rest probed closed world)
    (passes : Nat) (enough : rest.length < passes) :
    ComesOut found start k maxAliveTime ((caught maxAliveTime passes seen.length).run world) := by
  induction passes generalizing seen rest probed closed world with
  | zero => omega
  | succ passes ih =>
    cases rest with
    | nil =>
      have ran : (sweepFrom maxAliveTime (passes + 1) seen.length).run world = (.ok (), world) := by
        rw [sweepFrom, bind_look_run, level.connections]
        simp
      rw [caught, tryCatch_body ran (by simp)]
      exact .ends (level.reaches.ends (by simp)) (by simpa using level.connections) level.examined
        level.closed
    | cons conn rest =>
      rcases level.pass passes with ⟨seen', rest', _, _, world', fewer, level', ran⟩ | out
      · rw [caught_congr ran]
        exact ih level' (by simpa [fewer] using enough)
      · exact out

/-- **The sweep by itself is a sweep of the machine.** From where its settings are awaited and
nothing else runs, the machine has steps that are told of every connection what it is, and
through which the sweep comes out as the coroutine does. -/
theorem sweep_refines (found : Nat → Watched) (start : Control) (k : Nat) (maxAliveTime : Int)
    (lives : start.fate = .lives) (rests : start.running = none)
    (stands : start.sweeps[k]? = some {}) :
    ComesOut found start k maxAliveTime ((closeOldSessions maxAliveTime).run
      { connections := start.connections.map found }) := by
  have requesting : Reaches found start k {} start.connections none [] [] :=
    ⟨[], start, .refl, ⟨lives, rests, stands, rfl⟩, by simp, rfl, rfl⟩
  have looping := requesting.next (.settings k (.ok maxAliveTime)) (.answered k maxAliveTime)
    ⟨.looping, 0, maxAliveTime⟩ start.connections (some k) trivial
    fun control now => by
      obtain ⟨lives, runs, stands, same⟩ := now
      rw [← same]
      simp [step, lives, runs, stands, Control.put]
  have level : Level found start k maxAliveTime [] start.connections [] []
      { connections := start.connections.map found } :=
    ⟨by simpa [probes, closings] using looping, rfl, rfl, rfl⟩
  have out := level.comesOut ((start.connections.map found).length + 1) (by simp)
  exact out

/-- An expired connection, a busy one and one that has gone. -/
def threeFound (conn : Nat) : Watched :=
  if conn = 0 then { aliveTime := 3600 }
  else if conn = 1 then { readLock := true }
  else { con := { socket := { arrivals := [.fails .eof] } } }

theorem sweep_refines_moved_up :
    ((closeOldSessions 3600).run { connections := [0, 1, 2].map threeFound }).1 = .ok () ∧
      ComesOut threeFound { connections := [0, 1, 2], accepted := 3, sweeps := [{}] } 0 3600
        ((closeOldSessions 3600).run { connections := [0, 1, 2].map threeFound }) :=
  ⟨rfl, sweep_refines threeFound { connections := [0, 1, 2], accepted := 3, sweeps := [{}] } 0 3600
    rfl rfl rfl⟩

end Vpverk.SweepRefinement
