import Vpverk.RouterIsolation

/-! `routeTunToClients` in one piece, with the calls of it that it awaits: the entry assertion and
the diagnostic block are read as removed. Each nested call takes a read from the tun device, so
the recursion is as deep as there are reads, and no deeper. The writes to a connection come to an
end, with an error if not with a byte. -/
namespace Vpverk.RouterCalls
open Addresses RouteQueue Coroutine Octets Asioapi Peer RouterIteration
open RouterIsolation (place)

variable {con : Ptr} {world : RouterWorld} {nested : Coroutine RouterWorld Unit}

/-- `routeTunToClients`, its calls at most `calls` deep and no loop of it more than `passes` times
round. The call that the catch block starts is a coroutine of its own: nobody awaits it. -/
def routeTunToClients (encrypt : Encrypt) (leftover : Nat → Nat → Nat → UInt8) (passes : Nat) :
    Nat → Bool → Coroutine RouterWorld Unit
  | 0, _ => running
  | calls + 1, useLoop =>
    tryCatch (routeLoop false encrypt (routeTunToClients encrypt leftover passes calls false)
      (leftover calls) useLoop passes) fun _ => pure ()

/-- The catch block: the call is over. -/
def caught : Except Stop Unit → Except Stop Unit
  | .error (.throws _) => .ok ()
  | answer => answer

theorem caught_run {World : Type} (body : Coroutine World Unit) (world : World) :
    (tryCatch body fun _ => pure ()).run world = (caught (body.run world).1, (body.run world).2) := by
  unfold Coroutine.tryCatch
  dsimp only
  cases body.run world with
  | mk answer left =>
    cases answer with
    | ok => rfl
    | error how => cases how <;> rfl

/-! ### `send` and `close` -/

/-- Where a call stops for good: the process ends, or leaves what the language defines. -/
def Fatal : Stop → Prop
  | .aborts _ | .undefined => True
  | .throws _ | .waits | .runs => False

theorem reliableIsOpen_stops :
    Ensures (fun _ => True) reliableIsOpen (fun _ _ => True) fun how _ => Fatal how := by
  constructor
  · exact fun _ _ _ _ _ => trivial
  · intro socket how after _ ran
    unfold reliableIsOpen at ran
    dsimp only at ran
    split at ran
    · cases ran
    · split at ran <;> cases ran

theorem awaitSend_stops (buffer : Bytes) :
    Ensures (fun _ => True) (awaitSend buffer) (fun _ _ => True) fun how _ => Fatal how := by
  constructor
  · exact fun _ _ _ _ _ => trivial
  · intro socket how after _ ran
    unfold awaitSend at ran
    dsimp only at ran
    split at ran
    · cases ran
      trivial
    · split at ran <;> cases ran

theorem send_stops (buffer : Bytes) :
    Ensures (fun _ => True) (send buffer) (fun _ _ => True) fun how _ => Fatal how := by
  by_cases nonempty : buffer = []
  · subst nonempty
    constructor
    · exact fun _ _ _ _ _ => trivial
    · intro socket how after _ ran
      cases ran
      trivial
  · have answers {α : Type} {inner : Coroutine Socket (Except ErrorCode α)}
        (stops : Ensures (fun _ => True) inner (fun _ _ => True) fun how _ => Fatal how) :
        Ensures (fun _ => True) inner (Answers (fun _ => True) fun _ => True) fun how _ => Fatal how :=
      stops.weaken (fun _ _ => trivial) (fun _ _ _ => ⟨trivial, fun _ _ => trivial⟩)
        fun _ _ fatal => fatal
    have sends : Ensures _ (send buffer) _ fun how _ => Fatal how :=
      ensures_send (fun empty => absurd empty nonempty) trivial trivial
        (answers reliableIsOpen_stops) fun buffer => answers (awaitSend_stops buffer)
    exact sends.weaken (fun _ _ => trivial) (fun _ _ _ => trivial) fun _ _ fatal => fatal

/-- A connection that has been closed, with its lock free. -/
structure Closed (con : Connection) : Prop where
  closed : con.closed = true
  free : con.writeLock = false

/-- How a `close` may stop that has the lock. It does not wait. -/
def CloseStops (how : Stop) (con : Connection) : Prop :=
  (Fatal how ∨ ∃ what, how = .throws what) ∧ Closed con

/-- An open connection that is closed with its lock free is closed, whichever way it goes, and
its lock is free again. -/
theorem close_leaves (reason : Bytes) :
    Ensures (fun con => con.closed = false ∧ con.writeLock = false) (Connection.close reason)
      (fun _ => Closed) CloseStops := by
  have onSocket {α : Type} {inner : Coroutine Socket α}
      (stops : Ensures (fun _ => True) inner (fun _ _ => True) fun how _ => Fatal how) :
      Ensures Closed (Connection.onSocket inner) (fun _ => Closed) CloseStops := by
    have within := stops.within Connection.socket (fun socket con => { con with socket := socket })
      Closed (fun _ _ => rfl) fun _ _ kept => ⟨kept.closed, kept.free⟩
    exact within.weaken (fun _ kept => ⟨trivial, kept⟩) (fun _ _ kept => kept.2)
      fun _ _ kept => ⟨.inl kept.1, kept.2⟩
  apply ensures_look_bind
  intro seen opened
  rw [if_neg (by simp [opened.1])]
  have marks : Ensures (fun con => con = seen) (change fun con => { con with closed := true })
      (fun _ => Closed) CloseStops := ensures_change fun _ same => same ▸ ⟨rfl, opened.2⟩
  apply marks.bind
  intro _
  apply ensures_look_bind
  intro marked kept
  rw [if_neg (by simp [kept.free])]
  apply ((onSocket reliableIsOpen_stops).seen kept).bind
  intro isOpen
  split
  · apply (onSocket (send_stops _)).bind
    intro answer
    apply ensures_look_bind
    intro told kept
    split
    · exact ensures_stop fun _ same => ⟨.inr ⟨_, rfl⟩, same ▸ kept⟩
    · exact ensures_change fun _ same => same ▸ ⟨kept.closed, kept.free⟩
  · exact ensures_pure fun _ kept => kept
  · exact ensures_pure fun _ kept => kept

/-! ### How many passes are enough -/

/-- Stop is not requested, and no more reads are to come than this. -/
def Left (n : Nat) (world : RouterWorld) : Prop :=
  world.stopRequested = false ∧ world.tun.reads.length ≤ n

/-- Fewer reads are to come. -/
def Fewer (n : Nat) (world : RouterWorld) : Prop :=
  world.stopRequested = false ∧ world.tun.reads.length < n

/-- It is not for want of passes that a call stops. -/
def Stopped (n : Nat) (how : Stop) (world : RouterWorld) : Prop :=
  how ≠ .runs ∧ (how = .waits ∨ Left n world)

variable {n : Nat}

theorem Left.mono {m : Nat} (left : Left m world) (few : m ≤ n) : Left n world :=
  ⟨left.1, left.2.trans few⟩

theorem Fewer.mono {m : Nat} (fewer : Fewer m world) (few : m ≤ n) : Fewer n world :=
  ⟨fewer.1, fewer.2.trans_le few⟩

theorem Stopped.mono {m : Nat} {how : Stop} (stopped : Stopped m how world) (few : m ≤ n) :
    Stopped n how world :=
  ⟨stopped.1, stopped.2.imp_right fun left => left.mono few⟩

/-- What follows a read has one read less. -/
theorem ensures_fewer {α : Type} {inner : Coroutine RouterWorld α} {post : α → RouterWorld → Prop}
    {stopped : Stop → RouterWorld → Prop}
    (rest : ∀ m, n = m + 1 → Ensures (Left m) inner post stopped) :
    Ensures (Fewer n) inner post stopped := by
  cases n with
  | zero => exact ensures_knowing (fun _ fewer => absurd fewer.2 (Nat.not_lt_zero _)) False.elim
  | succ n => exact (rest n rfl).begun fun _ fewer => ⟨fewer.1, Nat.le_of_lt_succ fewer.2⟩

theorem fatal_stops {how : Stop} (fatal : Fatal how) : how ≠ .runs := by
  rintro rfl
  exact fatal

theorem onConnection_left {α : Type} {inner : Coroutine Connection α}
    (stops : Ensures (fun _ => True) inner (fun _ _ => True) fun how _ => how ≠ .runs) :
    Ensures (Left n) (RouterWorld.onConnection con inner) (fun _ => Left n) (Stopped n) := by
  have within := stops.within (fun world : RouterWorld => world.connections con)
    (fun changed world => place world con changed) (Left n)
    (fun changed world => RouterIsolation.place_self world con changed) fun _ _ left => left
  exact within.weaken (fun _ left => ⟨trivial, left⟩) (fun _ _ left => left.2)
    fun _ _ left => ⟨left.1, .inr left.2⟩

theorem onSocket_stops {α : Type} {inner : Coroutine Socket α}
    (stops : Ensures (fun _ => True) inner (fun _ _ => True) fun how _ => Fatal how) :
    Ensures (fun _ => True) (Connection.onSocket inner) (fun _ _ => True) fun how _ => how ≠ .runs := by
  have within := stops.within Connection.socket (fun socket con => { con with socket := socket })
    (fun _ => True) (fun _ _ => rfl) fun _ _ same => same
  exact within.weaken (fun _ _ => ⟨trivial, trivial⟩) (fun _ _ _ => trivial)
    fun _ _ kept => fatal_stops kept.1

theorem close_stops (reason : Bytes) :
    Ensures (fun _ => True) (Connection.close reason) (fun _ _ => True) fun how _ => how ≠ .runs := by
  constructor
  · exact fun _ _ _ _ _ => trivial
  · intro con how after _ ran
    cases closed : con.closed with
    | true =>
      rw [Connection.close, bind_look_run, if_pos closed] at ran
      cases ran
    | false =>
      cases held : con.writeLock with
      | true =>
        rw [Connection.close, bind_look_run, if_neg (by simp [closed]), bind_change_run, bind_look_run,
          if_pos held] at ran
        cases ran
        simp
      | false =>
        rcases ((close_leaves reason).stops _ _ _ ⟨closed, held⟩ ran).1 with fatal | ⟨what, rfl⟩
        · exact fatal_stops fatal
        · simp

theorem setWriteLock_left (con : Ptr) (held : Bool) :
    Ensures (Left n) (setWriteLock con held) (fun _ => Left n) (Stopped n) :=
  onConnection_left (ensures_change fun _ _ => trivial)

theorem forward_left (encrypt : Encrypt) (con aes : Ptr) (packet : Bytes) :
    Ensures (Left n) (forward encrypt con aes packet) (fun _ => Left n) (Stopped n) := by
  have closes (reason : Bytes) : Ensures (Left n) (do
      setWriteLock con false
      RouterWorld.onConnection con (Connection.close reason)
      pure (Handled.closed con)) (fun _ => Left n) (Stopped n) := by
    apply (setWriteLock_left con false).bind
    intro _
    apply (onConnection_left (close_stops reason)).bind
    exact fun _ => ensures_pure fun _ left => left
  apply ensures_look_bind
  intro seen left
  split
  · exact (closes _).seen left
  · have encrypts (session : AesSession) : Ensures (fun world => world = seen)
        (change fun world : RouterWorld =>
          { world with aesSessions := Function.update world.aesSessions aes session })
        (fun _ => Left n) (Stopped n) := ensures_change fun _ same => same ▸ left
    apply (encrypts _).bind
    intro _
    apply (onConnection_left (onSocket_stops (send_stops _))).bind
    intro answer
    split
    · exact closes _
    · apply (setWriteLock_left con false).bind
      exact fun _ => ensures_pure fun _ left => left

/-- Each nested call takes a read. -/
theorem takeWriteLock_left (con : Ptr) (passes : Nat) (enough : n < passes)
    (calls : ∀ m, m ≤ n → Ensures (Left m) nested (fun _ => Fewer m) (Stopped m)) :
    Ensures (Left n) (takeWriteLock nested con passes) (fun _ => Left n) (Stopped n) := by
  induction passes generalizing n with
  | zero => omega
  | succ passes ih =>
    apply ensures_look_bind
    intro seen left
    split
    · apply ((calls n (Nat.le_refl n)).seen left).bind
      intro _
      apply ensures_fewer
      rintro m rfl
      have fewer : m < passes := by omega
      apply (ih fewer fun m' few => calls m' (by omega)).weaken
      · exact fun _ left => left
      · exact fun _ _ left => left.mono (Nat.le_succ m)
      · exact fun _ _ stopped => stopped.mono (Nat.le_succ m)
    · exact (setWriteLock_left con true).seen left

theorem routePacket_left (encrypt : Encrypt) (passes : Nat) (leftover : Nat → UInt8) (packet : Bytes)
    (enough : n < passes) (calls : ∀ m, m ≤ n → Ensures (Left m) nested (fun _ => Fewer m) (Stopped m)) :
    Ensures (Left n) (routePacket false encrypt nested passes leftover packet) (fun _ => Left n)
      (Stopped n) := by
  unfold routePacket
  split
  · exact ensures_pure fun _ left => left
  · rw [if_neg (by simp)]
    apply ensures_look_bind
    intro seen left
    split
    · exact ensures_pure fun _ same => same ▸ left
    · exact ensures_stop fun _ same => ⟨by simp, .inr (same ▸ left)⟩
    · rename_i con aes _
      apply ((takeWriteLock_left con passes enough calls).seen left).bind
      exact fun _ => forward_left encrypt con aes _

/-- An iteration that comes to its end has taken a read, and so has one that throws. -/
def Took (n : Nat) (how : Stop) (world : RouterWorld) : Prop :=
  how ≠ .runs ∧ (how = .waits ∨ Fewer n world)

theorem read_left : Ensures (Left n) (RouterWorld.onTun Tun.read) (fun _ => Fewer n) (Took n) := by
  constructor
  · intro world packet after left ran
    obtain ⟨device, read, rfl⟩ := within_run_iff.mp ran
    refine ⟨left.1, ?_⟩
    have few := left.2
    unfold Tun.read at read
    dsimp only at read
    split at read
    · cases read
    · rename_i rest next
      cases read
      rw [next, List.length_cons] at few
      exact few
    · rename_i packet rest next
      cases read
      rw [next, List.length_cons] at few
      exact few
    · cases read
  · intro world how after left ran
    obtain ⟨device, read, rfl⟩ := within_run_iff.mp ran
    have few := left.2
    unfold Tun.read at read
    dsimp only at read
    split at read
    · cases read
      exact ⟨by simp, .inl rfl⟩
    · cases read
    · cases read
    · rename_i what rest next
      cases read
      rw [next, List.length_cons] at few
      exact ⟨by simp, .inr ⟨left.1, few⟩⟩

theorem iteration_left (encrypt : Encrypt) (passes : Nat) (leftover : Nat → UInt8) (enough : n ≤ passes)
    (calls : ∀ m, m < n → Ensures (Left m) nested (fun _ => Fewer m) (Stopped m)) :
    Ensures (Left n) (iteration false encrypt nested passes leftover) (fun _ => Fewer n) (Took n) := by
  apply read_left.bind
  intro packet
  apply ensures_fewer
  rintro m rfl
  have ends {α : Type} {inner : Coroutine RouterWorld α}
      (ensures : Ensures (Left m) inner (fun _ => Left m) (Stopped m)) :
      Ensures (Left m) inner (fun _ => Fewer (m + 1)) (Took (m + 1)) := by
    apply ensures.weaken
    · exact fun _ left => left
    · exact fun _ _ left => ⟨left.1, Nat.lt_succ_of_le left.2⟩
    · exact fun _ _ stopped =>
        ⟨stopped.1, stopped.2.imp_right fun left => ⟨left.1, Nat.lt_succ_of_le left.2⟩⟩
  apply ends
  have asserts : Ensures (Left m)
      (cussert (packet.length ≤ maxPacket) "got_packet_size <= max_possible_size_on_tun")
      (fun _ => Left m) (Stopped m) := by
    unfold cussert
    split
    · exact ensures_pure fun _ left => left
    · exact ensures_stop fun _ left => ⟨by simp, .inr left⟩
  apply asserts.bind
  intro _
  have empties : Ensures (Left m) callEmptyQueue (fun _ => Left m) (Stopped m) := by
    constructor
    · intro world _ after left ran
      rw [callEmptyQueue_run] at ran
      cases ran
      rw [RouterWorld.emptied]
      split <;> exact left
    · intro world how after left ran
      rw [callEmptyQueue_run] at ran
      cases ran
  apply empties.bind
  intro _
  split
  · exact ensures_pure fun _ left => left
  · exact routePacket_left encrypt passes leftover packet (by omega) fun m few => calls m (by omega)

theorem routeLoop_left (encrypt : Encrypt) (leftover : Nat → Nat → UInt8) (useLoop : Bool)
    (passes : Nat) (enough : n < passes)
    (calls : ∀ m, m < n → Ensures (Left m) nested (fun _ => Fewer m) (Stopped m)) :
    Ensures (Left n) (routeLoop false encrypt nested leftover useLoop passes) (fun _ => Fewer n)
      (Took n) := by
  induction passes generalizing n with
  | zero => omega
  | succ passes ih =>
    apply ensures_look_bind
    intro seen left
    rw [if_neg (by simp [left.1])]
    apply ((iteration_left encrypt passes (leftover passes) (by omega) calls).seen left).bind
    intro handled
    have again : Ensures (Fewer n) (routeLoop false encrypt nested leftover useLoop passes)
        (fun _ => Fewer n) (Took n) := by
      apply ensures_fewer
      rintro m rfl
      have fewer : m < passes := by omega
      apply (ih fewer fun m' few => calls m' (by omega)).weaken
      · exact fun _ left => left
      · exact fun _ _ fewer => fewer.mono (Nat.le_succ m)
      · exact fun _ _ took => ⟨took.1, took.2.imp_right fun fewer => fewer.mono (Nat.le_succ m)⟩
    split
    · split
      · exact again
      · exact ensures_pure fun _ fewer => fewer
    · exact again
    · exact again
    · exact again

/-- As many passes and calls as there are reads, and one more, are enough. -/
theorem routeTunToClients_left (encrypt : Encrypt) (leftover : Nat → Nat → Nat → UInt8)
    (passes calls : Nat) (useLoop : Bool) (enough : n < passes) (deep : n < calls) :
    Ensures (Left n) (routeTunToClients encrypt leftover passes calls useLoop) (fun _ => Fewer n)
      (Stopped n) := by
  induction calls generalizing n useLoop with
  | zero => omega
  | succ calls ih =>
    apply ensures_tryCatch (routeLoop_left encrypt (leftover calls) useLoop passes enough
      fun m few => ih false (by omega) (by omega))
    · intro what
      exact ensures_pure fun _ took => took.2.resolve_left (by simp)
    · exact fun how _ _ took => ⟨took.1, took.2.imp_right fun fewer => ⟨fewer.1, fewer.2.le⟩⟩

theorem enough_passes (encrypt : Encrypt) (leftover : Nat → Nat → Nat → UInt8) {passes calls : Nat}
    (useLoop : Bool) (enough : world.tun.reads.length < passes)
    (deep : world.tun.reads.length < calls) :
    ((routeTunToClients encrypt leftover passes calls useLoop).run world).1 ≠ .error .runs := by
  intro runs
  cases stop : world.stopRequested with
  | false =>
    have left : Left world.tun.reads.length world := ⟨stop, Nat.le_refl _⟩
    exact ((routeTunToClients_left encrypt leftover passes calls useLoop enough deep).stops _ _ _ left
      (Prod.ext runs rfl)).1 rfl
  | true =>
    obtain ⟨passes, rfl⟩ := Nat.exists_eq_add_of_lt (Nat.zero_lt_of_lt enough)
    obtain ⟨calls, rfl⟩ := Nat.exists_eq_add_of_lt (Nat.zero_lt_of_lt deep)
    rw [Nat.zero_add, routeTunToClients, caught_run, routeLoop, bind_look_run, stop] at runs
    cases runs

end Vpverk.RouterCalls
