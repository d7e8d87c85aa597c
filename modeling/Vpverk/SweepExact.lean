import Vpverk.SocketTriples
import Vpverk.Sweep

/-! What one sweep does to `connections_`, told from what its probes answer. Taking
an element out moves the last one to its place, which the sweep looks at next; so
the order changes, and nothing else does. -/
namespace Vpverk.Sweep
open Coroutine Octets Asioapi Peer

/-! ### What a `close` leaves -/

/-- What a `close` that comes back has done. A connection that had been closed is left as it
was. Any other is marked, and where its socket is still found open it is told the reason and
shut; where it is not, nothing is sent. -/
structure Shut (reason : Bytes) (before after : Connection) : Prop where
  marked : after.closed = true
  again : before.closed = true → after = before
  shut : before.closed = false → (reliableIsOpen.run before.socket).1 = .ok (.ok true) →
    after.socket.isOpen = false ∧ ∃ told, told <+: errorMessage reason ∧
      after.socket.sent = before.socket.sent ++ told ∧
      (before.socket.Healthy → told = errorMessage reason)
  gone : before.closed = false → (reliableIsOpen.run before.socket).1 ≠ .ok (.ok true) →
    after.socket.sent = before.socket.sent

/-- The message goes through as a whole on a healthy socket. -/
theorem send_whole {buffer : Bytes} {socket looked : Socket} (healthy : socket.Healthy)
    (nonempty : buffer ≠ []) (small : buffer.length ≤ maxUint32)
    (isOpen : reliableIsOpen.run socket = (.ok (.ok true), looked)) :
    ((send buffer).run looked).1 = .ok (.ok ()) := by
  obtain ⟨_, found, moved⟩ := reliableIsOpen_healthy healthy
  cases isOpen.symm.trans found
  obtain ⟨_, sends, _⟩ := send_healthy buffer moved.healthy nonempty small
  rw [sends]

theorem close_shuts {reason : Bytes} {before after : Connection}
    (small : (errorMessage reason).length ≤ maxUint32)
    (ran : (Connection.close reason).run before = (.ok (), after)) : Shut reason before after := by
  rw [Connection.close, bind_look_run] at ran
  split at ran
  · rename_i closed
    cases ran
    refine ⟨closed, fun _ => rfl, ?_, ?_⟩
    · intro opened
      cases opened.symm.trans closed
    · intro opened
      cases opened.symm.trans closed
  · rename_i opened
    rw [bind_change_run, bind_look_run] at ran
    split at ran
    · cases ran
    · obtain ⟨answer, _, probed, ran⟩ := bind_run_ok ran
      obtain ⟨looked, looks, rfl⟩ := within_run_iff.mp probed
      dsimp only at looks
      have same : looked.sent = before.socket.sent := by
        have silent := (silent_reliableIsOpen before.socket.sent).run rfl
        rwa [looks] at silent
      split at ran
      · obtain ⟨_, _, written, ran⟩ := bind_run_ok ran
        obtain ⟨left, sends, rfl⟩ := within_run_iff.mp written
        dsimp only at sends
        obtain ⟨told, part, sent, whole⟩ := send_tells (errorMessage reason) looked
        rw [sends] at sent whole
        rw [bind_look_run] at ran
        split at ran
        · cases ran
        · cases ran
          refine ⟨rfl, fun closed => absurd closed opened, fun _ _ => ⟨rfl, told, part, ?_, ?_⟩, ?_⟩
          · rw [← same]
            exact sent
          · intro healthy
            apply whole
            rw [← send_whole healthy (by simp [errorMessage]) small looks, sends]
          · intro _ found
            rw [looks] at found
            exact absurd rfl found
      all_goals
        cases ran
        refine ⟨rfl, fun closed => absurd closed opened, fun _ found => ?_, fun _ _ => same⟩
        rw [looks] at found
        cases found

/-- With its write lock free a `close` comes back, or throws. -/
theorem close_throws (reason : Bytes) :
    Ensures (fun con => (con.closed = false → con.writeLock = false) ∧ con.socket.strayHandler = false)
      (Connection.close reason) (fun _ _ => True) fun how _ => ∃ what, how = .throws what := by
  have onSocket {α : Type} {inner : Coroutine Socket (Except ErrorCode α)}
      (ends : Ensures (fun socket => socket.strayHandler = false) inner
        (Answers (fun socket => socket.strayHandler = false) fun _ => True) fun _ _ => False) :
      Ensures (fun con => con.socket.strayHandler = false) (Connection.onSocket inner)
        (fun _ con => con.socket.strayHandler = false) fun how _ => ∃ what, how = .throws what := by
    have within := ends.within Connection.socket (fun socket con => { con with socket := socket })
      (fun _ => True) (fun _ _ => rfl) fun _ _ _ => trivial
    exact within.weaken (fun _ awaited => ⟨awaited, trivial⟩) (fun _ _ kept => kept.1.1)
      fun _ _ never => never.1.elim
  apply ensures_look_bind
  rintro con ⟨free, awaited⟩
  split
  · exact ensures_pure fun _ _ => trivial
  · rename_i opened
    have marks : Ensures (fun before => before = con) (change fun con => { con with closed := true })
        (fun _ con => con.writeLock = false ∧ con.socket.strayHandler = false)
        fun how _ => ∃ what, how = .throws what :=
      ensures_change fun _ same => same ▸ ⟨free (by simpa using opened), awaited⟩
    apply marks.bind
    intro _
    apply ensures_look_bind
    rintro marked ⟨free, awaited⟩
    rw [if_neg (by simp [free])]
    apply ((onSocket reliableIsOpen_ends).seen awaited).bind
    intro isOpen
    split
    · apply (onSocket (send_ends (by simp [errorMessage]))).bind
      intro _
      apply ensures_look_bind
      intro told _
      split
      · exact ensures_stop fun _ _ => ⟨_, rfl⟩
      · exact ensures_change fun _ _ => trivial
    · exact ensures_pure fun _ _ => trivial
    · exact ensures_pure fun _ _ => trivial

/-! ### Told from the probes -/

/-- What `is_active` answers: nothing while the lock is busy. -/
def Watched.answer (conn : Watched) : Option Bool :=
  if conn.readLock then none
  else
    match (reliableIsOpen.run conn.con.socket).1 with
    | .ok (.ok isOpen) => some isOpen
    | .ok (.error _) | .error _ => none

/-- Whether a sweep closes the connection: it is inactive, or has lived for at least
`max_alive_time`. -/
def Watched.stale (maxAliveTime : Int) (conn : Watched) : Bool :=
  match conn.answer with
  | none => false
  | some false => true
  | some true => decide (maxAliveTime ≤ conn.aliveTime)

/-- The text its `close` is given. -/
def Watched.farewell (conn : Watched) : String :=
  if conn.answer = some true then "session expired" else "not active (should be no-op)"

/-- The connection after that `close`. -/
def Watched.closed (conn : Watched) : Watched :=
  ((Watched.close (utf8 conn.farewell)).run conn.settled).2

variable {maxAliveTime : Int} {conn : Watched}

/-- A probe that does not throw answers. -/
theorem isActive_answers (expected : conn.readLock = false → ¬ Unexpected conn.con.socket) :
    Watched.isActive.run conn = (.ok conn.answer, conn.settled) := by
  cases lock : conn.readLock with
  | true => rw [isActive_busy lock, Watched.answer, Watched.settled, if_pos lock, if_pos lock]
  | false =>
    have free : ¬ conn.readLock = true := by simp [lock]
    rcases reliableIsOpen_cases conn.con.socket with ⟨isOpen, answer, _⟩ | ⟨_, _, unexpected⟩
    · have looked := isActive_free lock
      rw [answer] at looked
      rw [looked, Watched.answer, Watched.settled, if_neg free, if_neg free, answer]
    · exact absurd unexpected (expected lock)

/-- The sweep takes out what is stale. -/
theorem reason_eq (conn : Watched) :
    conn.reason maxAliveTime = if conn.stale maxAliveTime then some conn.farewell else none := by
  unfold Watched.reason Watched.stale Watched.farewell Watched.answer
  cases lock : conn.readLock with
  | true => simp
  | false =>
    rcases reliableIsOpen_cases conn.con.socket with ⟨isOpen, answer, _⟩ | ⟨code, answer, _⟩
    · cases isOpen <;> simp [answer]
    · simp [answer]

/-- A busy connection is not stale. -/
theorem free_of_stale (stale : conn.stale maxAliveTime = true) : conn.readLock = false := by
  cases lock : conn.readLock with
  | true => simp [Watched.stale, Watched.answer, lock] at stale
  | false => rfl

theorem kept_eq (conn : Watched) :
    conn.kept maxAliveTime = if conn.stale maxAliveTime then none else some conn.settled := by
  rw [Watched.kept, reason_eq]
  cases conn.stale maxAliveTime <;> rfl

theorem takenOut_eq (conn : Watched) :
    conn.takenOut maxAliveTime = if conn.stale maxAliveTime then some conn.closed else none := by
  rw [Watched.takenOut, reason_eq]
  cases stale : conn.stale maxAliveTime with
  | false => rfl
  | true => simp [Watched.closed, Watched.settled, free_of_stale stale]

/-- The connections a test lets through, each changed. -/
theorem filterMap_test {α β : Type} (test : α → Bool) (change : α → β) (elements : List α) :
    elements.filterMap (fun element => if test element then some (change element) else none) =
      (elements.filter test).map change := by
  induction elements with
  | nil => rfl
  | cons first rest ih => cases passes : test first <;> simp [passes, ih]

/-! ### What the sweep rests on -/

/-- Whoever holds the write lock of a connection when its `close` is called gives it back. -/
def Watched.GivenBack (conn : Watched) : Prop :=
  conn.con.closed = false → conn.con.writeLock = true → conn.released.isSome = true

/-- The `close` is that of the connection, once it has the write lock. -/
theorem close_run (reason : Bytes) (conn : Watched) :
    (Watched.close reason).run conn = (((Connection.close reason).run conn.turn).1,
      { conn with con := ((Connection.close reason).run conn.turn).2 }) := rfl

theorem turn_free (givenBack : conn.GivenBack) (opened : conn.turn.closed = false) :
    conn.turn.writeLock = false := by
  unfold Watched.turn at opened ⊢
  cases back : conn.released with
  | some released =>
    rw [back] at opened
    dsimp only at opened ⊢
    split
    · rfl
    · rename_i held
      rw [if_neg held] at opened
      simpa [opened] using held
  | none =>
    rw [back] at opened
    dsimp only at opened ⊢
    by_contra held
    have never := givenBack opened (by simpa using held)
    simp [back] at never

/-- The probe leaves the lock as it is, and who holds it. -/
theorem settled_givenBack (givenBack : conn.GivenBack) : conn.settled.GivenBack := by
  unfold Watched.settled
  split
  · exact givenBack
  · exact givenBack

/-- An error that is not expected leaves the probe as an exception. -/
theorem isActive_throws (free : conn.readLock = false) (unexpected : Unexpected conn.con.socket) :
    ∃ what, Watched.isActive.run conn = (.error (.throws what), conn.probed) := by
  rcases reliableIsOpen_cases conn.con.socket with ⟨_, _, expected⟩ | ⟨code, answer, _⟩
  · exact absurd unexpected expected
  · have looked := isActive_free free
    rw [answer] at looked
    exact ⟨_, looked⟩

/-- Where the lock is given back and no exception is thrown, a `close` comes back. -/
theorem close_ends {reason : Bytes}
    (closes : ∀ what after, (Watched.close reason).run conn ≠ (.error (.throws what), after))
    (givenBack : conn.GivenBack) (awaited : conn.turn.socket.strayHandler = false) :
    ∃ after, (Watched.close reason).run conn = (.ok (), after) := by
  cases ran : (Connection.close reason).run conn.turn with
  | mk answer con =>
    cases answer with
    | ok =>
      refine ⟨{ conn with con := con }, ?_⟩
      rw [close_run, ran]
    | error how =>
      obtain ⟨what, rfl⟩ := (close_throws reason).stops _ _ _ ⟨turn_free givenBack, awaited⟩ ran
      refine absurd ?_ (closes what { conn with con := con })
      rw [close_run, ran]

theorem farewell_small (conn : Watched) : (errorMessage (utf8 conn.farewell)).length ≤ maxUint32 := by
  unfold Watched.farewell
  split <;> decide

/-- A connection that stays is left as it was found: a probe marks nothing, sends nothing and
shuts nothing. -/
structure Spared (before after : Connection) : Prop where
  marked : after.closed = before.closed
  isOpen : after.socket.isOpen = before.socket.isOpen
  sent : after.socket.sent = before.socket.sent

theorem settled_spared (conn : Watched) : Spared conn.con conn.settled.con := by
  have probed : Spared conn.con conn.probed.con := by
    obtain ⟨⟨⟨isOpen, arrivals, accepts, sent, stray⟩, closed, lock, shutdown⟩, _⟩ := conn
    unfold Watched.probed reliableIsOpen
    dsimp only
    split
    · exact ⟨rfl, rfl, rfl⟩
    · split <;> exact ⟨rfl, rfl, rfl⟩
  unfold Watched.settled
  split
  · exact ⟨rfl, rfl, rfl⟩
  · exact probed

/-- Three connections, of which the first has expired while somebody writes to it and the last
is inactive: the last is moved to the front and taken out there. -/
def movedUp : List Watched :=
  [{ con := { writeLock := true }, aliveTime := 3600, released := some {} }, { readLock := true },
    { con := { socket := { arrivals := [.fails .eof] } } }]

end Vpverk.Sweep
