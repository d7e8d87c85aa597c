import Vpverk.CoroutinePairs
import Vpverk.SocketTriples
import Vpverk.RouterIteration

/-! What one client's connection does makes no difference to the others. Two routers are run side
by side that differ in one connection alone, in one of them failing wherever it likes: they read
the same packets, and do the same with every other connection. Each write comes to an end, with at
least a byte or an error: the loop awaits its `send`, and a client that read no more would hold it
there, and everybody else with it. -/
namespace Vpverk.RouterIsolation
open Addresses RouteQueue Coroutine Octets Asioapi Peer RouterIteration

variable {client con aes : Ptr} {one other world : RouterWorld} {diagnostics : Bool} {encrypt : Encrypt}
  {nested : Coroutine RouterWorld Unit} {passes : Nat} {leftover : Nat → UInt8} {packet : Bytes}

/-- Two routers that differ in nothing but one connection. -/
structure AlikeBut (client : Ptr) (one other : RouterWorld) : Prop where
  tun : one.tun = other.tun
  tunRouter : one.tunRouter = other.tunRouter
  tunQueue : one.tunQueue = other.tunQueue
  aesSessions : one.aesSessions = other.aesSessions
  stopRequested : one.stopRequested = other.stopRequested
  connections : ∀ con, con ≠ client → one.connections con = other.connections con

/-- A connection on which no call throws. Its socket may be closed, and fail in any other way. -/
structure Quiet (con : Connection) : Prop where
  shutdown : con.shutdown = none
  noStray : con.socket.strayHandler = false

/-- Its write lock is free too. -/
structure Calm (con : Connection) : Prop extends Quiet con where
  free : con.writeLock = false

/-- Two such routers with every write lock free. -/
structure Isolated (client : Ptr) (one other : RouterWorld) : Prop where
  alike : AlikeBut client one other
  free : ∀ con, con ≠ client → (one.connections con).writeLock = false
  calm : Calm (one.connections client)
  calm' : Calm (other.connections client)

/-! ### The client -/

theorem onSocket_calm {α : Type} {inner : Coroutine Socket α}
    (ends : Ensures (fun socket => socket.strayHandler = false) inner
      (fun _ socket => socket.strayHandler = false) fun _ _ => False) :
    Ensures Calm (Connection.onSocket inner) (fun _ => Calm) fun _ _ => False := by
  have within := ends.within Connection.socket (fun socket con => { con with socket := socket })
    (fun con => con.writeLock = false ∧ con.shutdown = none) (fun _ _ => rfl) fun _ _ same => same
  apply within.weaken
  · exact fun _ calm => ⟨calm.noStray, calm.free, calm.shutdown⟩
  · rintro _ _ ⟨noStray, free, shutdown⟩
    exact ⟨⟨shutdown, noStray⟩, free⟩
  · exact fun _ _ never => never.1

theorem onSocket_quiet {α : Type} {inner : Coroutine Socket α}
    (ends : Ensures (fun socket => socket.strayHandler = false) inner
      (fun _ socket => socket.strayHandler = false) fun _ _ => False) :
    Ensures Quiet (Connection.onSocket inner) (fun _ => Quiet) fun _ _ => False := by
  have within := ends.within Connection.socket (fun socket con => { con with socket := socket })
    (fun con => con.shutdown = none) (fun _ _ => rfl) fun _ _ same => same
  exact within.weaken (fun _ quiet => ⟨quiet.noStray, quiet.shutdown⟩)
    (fun _ _ kept => ⟨kept.2, kept.1⟩) fun _ _ never => never.1

theorem send_quiet {buffer : Bytes} (nonempty : buffer ≠ []) :
    Ensures Quiet (Connection.onSocket (send buffer)) (fun _ => Quiet) fun _ _ => False :=
  onSocket_quiet ((send_ends nonempty).weaken (fun _ same => same) (fun _ _ answers => answers.1)
    fun _ _ never => never)

theorem send_calm {buffer : Bytes} (nonempty : buffer ≠ []) :
    Ensures Calm (Connection.onSocket (send buffer)) (fun _ => Calm) fun _ _ => False :=
  onSocket_calm ((send_ends nonempty).weaken (fun _ same => same) (fun _ _ answers => answers.1)
    fun _ _ never => never)

theorem reliableIsOpen_calm : Ensures Calm (Connection.onSocket reliableIsOpen) (fun _ => Calm)
    fun _ _ => False :=
  onSocket_calm (reliableIsOpen_ends.weaken (fun _ same => same) (fun _ _ answers => answers.1)
    fun _ _ never => never)

/-- On a calm connection `close` comes to its end. -/
theorem close_calm (reason : Bytes) :
    Ensures Calm (Connection.close reason) (fun _ => Calm) fun _ _ => False := by
  apply ensures_look_bind
  intro seen calm
  split
  · exact ensures_pure fun _ same => same ▸ calm
  · have marks : Ensures (fun con => con = seen) (change fun con => { con with closed := true })
        (fun _ => Calm) fun _ _ => False :=
      ensures_change fun _ same => same ▸ ⟨⟨calm.shutdown, calm.noStray⟩, calm.free⟩
    apply marks.bind
    intro _
    apply ensures_look_bind
    intro marked calm
    rw [if_neg (by simp [calm.free])]
    apply (reliableIsOpen_calm.seen calm).bind
    intro isOpen
    split
    · apply (send_calm (by simp [errorMessage])).bind
      intro answer
      apply ensures_look_bind
      intro told calm
      rw [calm.shutdown]
      exact ensures_change fun _ same => same ▸ ⟨⟨calm.shutdown, calm.noStray⟩, calm.free⟩
    · exact ensures_pure fun _ calm => calm
    · exact ensures_pure fun _ calm => calm

/-- `close` gives the write lock back. -/
theorem close_free (reason : Bytes) :
    Ensures (fun con => con.writeLock = false) (Connection.close reason)
      (fun _ con => con.writeLock = false) fun _ _ => True := by
  have onSocket {α : Type} (inner : Coroutine Socket α) :
      Ensures (fun con : Connection => con.writeLock = false) (Connection.onSocket inner)
        (fun _ con => con.writeLock = false) fun _ _ => True :=
    ensures_within (fun _ _ free => free) fun _ _ _ => trivial
  have changes (f : Connection → Connection) (still : ∀ con, (f con).writeLock = con.writeLock) :
      Ensures (fun con : Connection => con.writeLock = false) (change f)
        (fun _ con => con.writeLock = false) fun _ _ => True :=
    ensures_change fun con free => (still con).trans free
  apply ensures_look_bind
  intro seen free
  split
  · exact ensures_pure fun _ same => same ▸ free
  · refine ((changes _ ?_).seen free).bind fun _ => ?_
    · exact fun _ => rfl
    apply ensures_look_bind
    intro marked free
    split
    · exact ensures_stop fun _ _ => trivial
    · apply ((onSocket reliableIsOpen).seen free).bind
      intro isOpen
      split
      · apply (onSocket _).bind
        intro answer
        apply ensures_look_bind
        intro told free
        split
        · exact ensures_stop fun _ _ => trivial
        · refine (changes _ ?_).seen free
          exact fun _ => rfl
      · exact ensures_pure fun _ free => free
      · exact ensures_pure fun _ free => free

/-! ### Under a write lock -/

/-- Two such routers with the write lock of one connection taken. -/
structure Holding (client con : Ptr) (one other : RouterWorld) : Prop where
  alike : AlikeBut client one other
  free : ∀ other, other ≠ client → other ≠ con → (one.connections other).writeLock = false
  quiet : Quiet (one.connections client)
  quiet' : Quiet (other.connections client)
  calm : con ≠ client → Calm (one.connections client) ∧ Calm (other.connections client)

/-- A connection is changed. -/
def place (world : RouterWorld) (con : Ptr) (changed : Connection) : RouterWorld :=
  { world with connections := Function.update world.connections con changed }

@[simp] theorem place_self (world : RouterWorld) (con : Ptr) (changed : Connection) :
    (place world con changed).connections con = changed := Function.update_self ..

@[simp] theorem place_other (world : RouterWorld) {con con' : Ptr} (changed : Connection)
    (apart : con' ≠ con) : (place world con changed).connections con' = world.connections con' :=
  Function.update_of_ne apart ..

theorem AlikeBut.same (alike : AlikeBut client one other) (apart : con ≠ client) (changed : Connection) :
    AlikeBut client (place one con changed)
      (place other con changed) where
  tun := alike.tun
  tunRouter := alike.tunRouter
  tunQueue := alike.tunQueue
  aesSessions := alike.aesSessions
  stopRequested := alike.stopRequested
  connections con' apart' := by
    by_cases here : con' = con
    · subst here
      simp
    · simp [here, alike.connections con' apart']

theorem AlikeBut.left (alike : AlikeBut client one other) (changed : Connection) :
    AlikeBut client (place one client changed) other where
  tun := alike.tun
  tunRouter := alike.tunRouter
  tunQueue := alike.tunQueue
  aesSessions := alike.aesSessions
  stopRequested := alike.stopRequested
  connections con apart := by simp [apart, alike.connections con apart]

theorem AlikeBut.symm (alike : AlikeBut client one other) : AlikeBut client other one where
  tun := alike.tun.symm
  tunRouter := alike.tunRouter.symm
  tunQueue := alike.tunQueue.symm
  aesSessions := alike.aesSessions.symm
  stopRequested := alike.stopRequested.symm
  connections con apart := (alike.connections con apart).symm

theorem AlikeBut.right (alike : AlikeBut client one other) (changed : Connection) :
    AlikeBut client one (place other client changed) :=
  (alike.symm.left changed).symm

/-- What is done with another connection is done in both routers. -/
theorem other_together {α : Type} {inner : Coroutine Connection α}
    {pre : RouterWorld → RouterWorld → Prop} {post : α → α → RouterWorld → RouterWorld → Prop} {holds : Connection → Prop}
    {kept : α → Connection → Prop} {stopped : Stop → Connection → Prop}
    (ensures : Ensures holds inner kept stopped) (apart : con ≠ client)
    (alike : ∀ one other, pre one other → AlikeBut client one other ∧ holds (one.connections con))
    (ends : ∀ value changed one other, pre one other → kept value changed →
      post value value (place one con changed)
        (place other con changed)) :
    Together pre (RouterWorld.onConnection con inner) (RouterWorld.onConnection con inner) post
      (AlikeBut client) :=
  together_within ensures
    (fun one other good => ⟨(alike one other good).1.connections con apart, (alike one other good).2⟩) ends
    fun changed one other good => (alike one other good).1.same apart changed

/-- What is done with the client comes to its end in both, in whichever way. -/
theorem client_together {α : Type} {inner : Coroutine Connection α}
    {pre : RouterWorld → RouterWorld → Prop} {post : α → α → RouterWorld → RouterWorld → Prop} {holds kept : Connection → Prop}
    (ensures : Ensures holds inner (fun _ => kept) fun _ _ => False)
    (sound : ∀ one other, pre one other →
      holds (one.connections client) ∧ holds (other.connections client))
    (ends : ∀ value value' changed changed' one other, pre one other → kept changed → kept changed' →
      post value value' (place one client changed)
        (place other client changed')) :
    Together pre (RouterWorld.onConnection client inner) (RouterWorld.onConnection client inner) post
      (AlikeBut client) := by
  intro one other good
  cases ran : inner.run (one.connections client) with
  | mk answer changed =>
    cases ran' : inner.run (other.connections client) with
    | mk answer' changed' =>
      cases answer with
      | error how => exact (ensures.stops _ _ _ (sound _ _ good).1 ran).elim
      | ok value =>
        cases answer' with
        | error how => exact (ensures.stops _ _ _ (sound _ _ good).2 ran').elim
        | ok value' =>
          rw [RouterWorld.onConnection_run ran, RouterWorld.onConnection_run ran']
          exact .ends (ends _ _ _ _ _ _ good (ensures.ends _ _ _ (sound _ _ good).1 ran)
            (ensures.ends _ _ _ (sound _ _ good).2 ran'))

theorem lock_together (client con : Ptr) :
    Together (Isolated client) (setWriteLock con true) (setWriteLock con true)
      (fun _ _ => Holding client con) (AlikeBut client) := by
  by_cases here : con = client
  · subst here
    have locks : Ensures Calm (change fun changed : Connection => { changed with writeLock := true })
        (fun _ => Quiet) fun _ _ => False := ensures_change fun _ calm => ⟨calm.shutdown, calm.noStray⟩
    apply client_together locks fun _ _ isolated => ⟨isolated.calm, isolated.calm'⟩
    intro _ _ changed changed' one other isolated quiet quiet'
    exact ⟨(isolated.alike.left changed).right changed', fun con' apart _ => by
      simp [apart, isolated.free con' apart], by simpa using quiet, by simpa using quiet',
      fun apart => absurd rfl apart⟩
  · apply other_together (ensures_any _) here fun _ _ isolated => ⟨isolated.alike, trivial⟩
    intro _ changed one other isolated _
    have still (world : RouterWorld) := place_other world changed (Ne.symm here)
    exact ⟨isolated.alike.same here changed, fun con' apart apart' => by
      simp [apart', isolated.free con' apart], still one ▸ isolated.calm.toQuiet,
      still other ▸ isolated.calm'.toQuiet,
      fun _ => ⟨still one ▸ isolated.calm, still other ▸ isolated.calm'⟩⟩

theorem unlock_together (client con : Ptr) :
    Together (Holding client con) (setWriteLock con false) (setWriteLock con false)
      (fun _ _ => Isolated client) (AlikeBut client) := by
  by_cases here : con = client
  · subst here
    have unlocks : Ensures Quiet (change fun changed : Connection => { changed with writeLock := false })
        (fun _ => Calm) fun _ _ => False :=
      ensures_change fun _ quiet => ⟨⟨quiet.shutdown, quiet.noStray⟩, rfl⟩
    apply client_together unlocks fun _ _ holding => ⟨holding.quiet, holding.quiet'⟩
    intro _ _ changed changed' one other holding calm calm'
    exact ⟨(holding.alike.left changed).right changed', fun con' apart => by
      simp [apart, holding.free con' apart apart], by simpa using calm, by simpa using calm'⟩
  · have unlocks : Ensures (fun _ => True)
        (change fun changed : Connection => { changed with writeLock := false })
        (fun _ changed => changed.writeLock = false) fun _ _ => True := ensures_change fun _ _ => rfl
    apply other_together unlocks here fun _ _ holding => ⟨holding.alike, trivial⟩
    intro _ changed one other holding free
    have still (world : RouterWorld) := place_other world changed (Ne.symm here)
    refine ⟨holding.alike.same here changed, fun con' apart => ?_, still one ▸ (holding.calm here).1,
      still other ▸ (holding.calm here).2⟩
    by_cases its : con' = con
    · simpa [its] using free
    · simpa [its] using holding.free con' apart its

/-- A send ends in both routers, and alike unless it is to the client. -/
theorem send_together (client con : Ptr) {buffer : Bytes} (nonempty : buffer ≠ []) :
    Together (Holding client con) (RouterWorld.onConnection con (Connection.onSocket (send buffer)))
      (RouterWorld.onConnection con (Connection.onSocket (send buffer)))
      (fun answer answer' one other => Holding client con one other ∧ (con ≠ client → answer = answer'))
      (AlikeBut client) := by
  by_cases here : con = client
  · subst here
    apply client_together (send_quiet nonempty) fun _ _ holding => ⟨holding.quiet, holding.quiet'⟩
    intro _ _ changed changed' one other holding quiet quiet'
    refine ⟨⟨(holding.alike.left changed).right changed', fun con' apart apart' => ?_,
      by simpa using quiet, by simpa using quiet', fun apart => absurd rfl apart⟩,
      fun apart => absurd rfl apart⟩
    simpa [apart] using holding.free con' apart apart'
  · apply other_together (ensures_any _) here fun _ _ holding => ⟨holding.alike, trivial⟩
    intro _ changed one other holding _
    have still (world : RouterWorld) := place_other world changed (Ne.symm here)
    refine ⟨⟨holding.alike.same here changed, fun con' apart apart' => ?_, still one ▸ holding.quiet,
      still other ▸ holding.quiet', fun _ => ⟨still one ▸ (holding.calm here).1,
        still other ▸ (holding.calm here).2⟩⟩, fun _ => rfl⟩
    simpa [apart'] using holding.free con' apart apart'

/-! ### Without a write lock -/

theorem close_left (client : Ptr) (reason : Bytes) (other : RouterWorld) :
    Ensures (fun one => Isolated client one other) (RouterWorld.onConnection client (Connection.close reason))
      (fun _ one => Isolated client one other) fun _ _ => False := by
  constructor
  · intro one _ after isolated ran
    obtain ⟨changed, closed, rfl⟩ := within_run_iff.mp ran
    have calm := (close_calm reason).ends _ _ _ isolated.calm closed
    exact ⟨isolated.alike.left changed, fun con apart => by simp [apart, isolated.free con apart],
      by simpa using calm, isolated.calm'⟩
  · intro one how after isolated ran
    obtain ⟨changed, closed, rfl⟩ := within_run_iff.mp ran
    exact (close_calm reason).stops _ _ _ isolated.calm closed

theorem Isolated.symm (isolated : Isolated client one other) : Isolated client other one where
  alike := isolated.alike.symm
  free con apart := isolated.alike.connections con apart ▸ isolated.free con apart
  calm := isolated.calm'
  calm' := isolated.calm

theorem close_right (client : Ptr) (reason : Bytes) (one : RouterWorld) :
    Ensures (fun other => Isolated client one other) (RouterWorld.onConnection client (Connection.close reason))
      (fun _ other => Isolated client one other) fun _ _ => False :=
  (close_left client reason one).weaken (fun _ isolated => isolated.symm) (fun _ _ isolated => isolated.symm)
    fun _ _ never => never

theorem close_together (client con : Ptr) (reason : Bytes) :
    Together (Isolated client) (RouterWorld.onConnection con (Connection.close reason))
      (RouterWorld.onConnection con (Connection.close reason)) (fun _ _ => Isolated client)
      (AlikeBut client) := by
  by_cases here : con = client
  · subst here
    apply client_together (close_calm reason) fun _ _ isolated => ⟨isolated.calm, isolated.calm'⟩
    intro _ _ changed changed' one other isolated calm calm'
    exact ⟨(isolated.alike.left changed).right changed', fun con' apart => by
      simp [apart, isolated.free con' apart], by simpa using calm, by simpa using calm'⟩
  · apply other_together (close_free reason) here fun _ _ isolated => ⟨isolated.alike, isolated.free _ here⟩
    intro _ changed one other isolated free
    have still (world : RouterWorld) := place_other world changed (Ne.symm here)
    refine ⟨isolated.alike.same here changed, fun con' apart => ?_, still one ▸ isolated.calm,
      still other ▸ isolated.calm'⟩
    by_cases its : con' = con
    · simpa [its] using free
    · simpa [its] using isolated.free con' apart

/-! ### The loop -/

/-- A free write lock is taken in both routers, at once. -/
theorem takeWriteLock_together (client con : Ptr) (nested : Coroutine RouterWorld Unit) (passes : Nat) :
    Together (Isolated client) (takeWriteLock nested con passes) (takeWriteLock nested con passes)
      (fun _ _ => Holding client con) (AlikeBut client) := by
  cases passes with
  | zero => exact together_stop _ fun _ _ isolated => isolated.alike
  | succ passes =>
    apply together_look_bind
    intro seen seen' isolated
    have free : (seen.connections con).writeLock = false ∧ (seen'.connections con).writeLock = false := by
      by_cases here : con = client
      · exact here ▸ ⟨isolated.calm.free, isolated.calm'.free⟩
      · exact ⟨isolated.free con here, isolated.symm.free con here⟩
    rw [if_neg (by simp [free.1]), if_neg (by simp [free.2])]
    exact (lock_together client con).seen isolated

/-- What is under the write lock ends in both routers, forwarded or closed. -/
theorem forward_together (cipher : Cipher) (client con aes : Ptr) {plain : Bytes} (nonempty : plain ≠ []) :
    Together (Holding client con) (forward (AesSession.encrypt cipher) con aes plain)
      (forward (AesSession.encrypt cipher) con aes plain)
      (fun handled handled' one other => Isolated client one other ∧
        (con ≠ client → handled = handled')) (AlikeBut client) := by
  apply together_look_bind
  intro seen seen' holding
  rw [holding.alike.aesSessions, AesSession.encrypt_ok (Nat.le_refl _)]
  dsimp only
  generalize ({ seen'.aesSessions aes with
    encrypted := (seen'.aesSessions aes).encrypted + plain.length } : AesSession) = session
  have changes : Together (fun one other => one = seen ∧ other = seen')
      (change fun world => { world with aesSessions := Function.update world.aesSessions aes session })
      (change fun world => { world with aesSessions := Function.update world.aesSessions aes session })
      (fun _ _ => Holding client con) (AlikeBut client) := by
    apply together_change
    rintro _ _ ⟨rfl, rfl⟩
    exact ⟨⟨holding.alike.tun, holding.alike.tunRouter, holding.alike.tunQueue,
      by rw [holding.alike.aesSessions], holding.alike.stopRequested, holding.alike.connections⟩,
      holding.free, holding.quiet, holding.quiet', holding.calm⟩
  apply changes.bind
  intro _ _
  have some_bytes : mask (cipher (seen'.aesSessions aes).key (seen'.aesSessions aes).encryptIv)
      (seen'.aesSessions aes).encrypted plain ≠ [] := by
    rw [← List.length_pos_iff, mask_length, List.length_pos_iff]
    exact nonempty
  apply (send_together client con some_bytes).bind
  intro answer answer'
  have unlocks (answer answer' : Except ErrorCode Unit) : Together
      (fun one other => Holding client con one other ∧ (con ≠ client → answer = answer'))
      (setWriteLock con false) (setWriteLock con false) (fun _ _ => Isolated client) (AlikeBut client) :=
    (unlock_together client con).weaken (fun _ _ holds => holds.1) fun _ _ _ _ isolated => isolated
  -- Where the answers differ, the send was to the client.
  have different {answer answer' : Except ErrorCode Unit} (differ : answer ≠ answer') (one other : RouterWorld)
      (holds : Holding client con one other ∧ (con ≠ client → answer = answer')) : con = client :=
    of_not_not fun apart => differ (holds.2 apart)
  rcases answer with code | _ <;> rcases answer' with code' | _ <;> dsimp only
  · apply (unlocks _ _).bind
    intro _ _
    apply (close_together client con _).bind
    intro _ _
    exact together_pure fun _ _ isolated => ⟨isolated, fun _ => rfl⟩
  · apply together_knowing (different (by simp))
    rintro rfl
    apply (unlocks _ _).bind
    intro _ _
    apply together_bind_left (close_left con _)
    intro _
    exact together_pure fun _ _ isolated => ⟨isolated, fun apart => absurd rfl apart⟩
  · apply together_knowing (different (by simp))
    rintro rfl
    apply (unlocks _ _).bind
    intro _ _
    apply together_bind_right (close_right con _)
    intro _
    exact together_pure fun _ _ isolated => ⟨isolated, fun apart => absurd rfl apart⟩
  · apply (unlocks _ _).bind
    intro _ _
    exact together_pure fun _ _ isolated => ⟨isolated, fun _ => rfl⟩

theorem routePacket_together (cipher : Cipher) (client : Ptr) (diagnostics : Bool)
    (nested : Coroutine RouterWorld Unit) (passes : Nat) (leftover : Nat → UInt8) (packet : Bytes) :
    Together (Isolated client)
      (routePacket diagnostics (AesSession.encrypt cipher) nested passes leftover packet)
      (routePacket diagnostics (AesSession.encrypt cipher) nested passes leftover packet)
      (fun _ _ => Isolated client) (AlikeBut client) := by
  unfold routePacket
  split
  · exact together_pure fun _ _ isolated => isolated
  · split
    · exact together_stop _ fun _ _ isolated => isolated.alike
    · apply together_look_bind
      intro seen seen' isolated
      rw [isolated.alike.tunRouter]
      split
      · rintro _ _ ⟨rfl, rfl⟩
        exact .ends isolated
      · rintro _ _ ⟨rfl, rfl⟩
        exact .stops _ isolated.alike
      · rename_i con aes _
        apply ((takeWriteLock_together client con nested passes).seen isolated).bind
        intro _ _
        apply (forward_together cipher client con aes (by simp [encode])).weaken
        · exact fun _ _ holding => holding
        · exact fun _ _ _ _ ended => ended.1

/-- An iteration of both routers. -/
theorem iteration_together (cipher : Cipher) (client : Ptr) (diagnostics : Bool)
    (nested : Coroutine RouterWorld Unit) (passes : Nat) (leftover : Nat → UInt8) :
    Together (Isolated client)
      (iteration diagnostics (AesSession.encrypt cipher) nested passes leftover)
      (iteration diagnostics (AesSession.encrypt cipher) nested passes leftover)
      (fun _ _ => Isolated client) (AlikeBut client) := by
  have reads : Together (Isolated client) (RouterWorld.onTun Tun.read) (RouterWorld.onTun Tun.read)
      (fun packet packet' one other => packet = packet' ∧ Isolated client one other) (AlikeBut client) := by
    have still (changed : Tun) (one other : RouterWorld) (alike : AlikeBut client one other) :
        AlikeBut client { one with tun := changed } { other with tun := changed } :=
      ⟨rfl, alike.tunRouter, alike.tunQueue, alike.aesSessions, alike.stopRequested, alike.connections⟩
    apply together_within (ensures_any Tun.read)
    · exact fun _ _ isolated => ⟨isolated.alike.tun, trivial⟩
    · exact fun _ changed _ _ isolated _ =>
        ⟨rfl, still changed _ _ isolated.alike, isolated.free, isolated.calm, isolated.calm'⟩
    · exact fun changed _ _ isolated => still changed _ _ isolated.alike
  apply reads.bind
  intro packet packet'
  apply together_knowing fun _ _ holds => holds.1
  rintro rfl
  have asserts : Together (fun one other => packet = packet ∧ Isolated client one other)
      (cussert (packet.length ≤ maxPacket) "got_packet_size <= max_possible_size_on_tun")
      (cussert (packet.length ≤ maxPacket) "got_packet_size <= max_possible_size_on_tun")
      (fun _ _ => Isolated client) (AlikeBut client) := by
    unfold cussert
    split
    · exact together_pure fun _ _ holds => holds.2
    · exact together_stop _ fun _ _ holds => holds.2.alike
  apply asserts.bind
  intro _ _
  have empties : Together (Isolated client) callEmptyQueue callEmptyQueue (fun _ _ => Isolated client)
      (AlikeBut client) := by
    apply together_look_bind
    intro seen seen' isolated
    rw [isolated.alike.tunRouter, isolated.alike.tunQueue]
    split
    · rintro _ _ ⟨rfl, rfl⟩
      exact .stops _ isolated.alike
    · apply together_change
      rintro _ _ ⟨rfl, rfl⟩
      exact ⟨⟨isolated.alike.tun, rfl, rfl, isolated.alike.aesSessions, isolated.alike.stopRequested,
        isolated.alike.connections⟩, isolated.free, isolated.calm, isolated.calm'⟩
  apply empties.bind
  intro _ _
  split
  · exact together_pure fun _ _ isolated => isolated
  · exact routePacket_together cipher client diagnostics nested passes leftover packet

theorem routeLoop_together (cipher : Cipher) (client : Ptr) (diagnostics : Bool)
    (nested : Coroutine RouterWorld Unit) (leftover : Nat → Nat → UInt8) (passes : Nat) :
    Together (Isolated client)
      (routeLoop diagnostics (AesSession.encrypt cipher) nested leftover true passes)
      (routeLoop diagnostics (AesSession.encrypt cipher) nested leftover true passes)
      (fun _ _ => AlikeBut client) (AlikeBut client) := by
  induction passes with
  | zero => exact together_stop _ fun _ _ isolated => isolated.alike
  | succ passes ih =>
    apply together_look_bind
    intro seen seen' isolated
    rw [isolated.alike.stopRequested]
    split
    · rintro _ _ ⟨rfl, rfl⟩
      exact .ends isolated.alike
    · apply ((iteration_together cipher client diagnostics nested passes (leftover passes)).seen
        isolated).bind
      intro handled handled'
      cases handled <;> cases handled' <;> exact ih

/-- **A client that fails fails alone**, as long as no write to it waits for ever. Two routers begin
alike, with every write lock free, but for one client's connection: its socket may be closed in one
of them, cut off anywhere, take as little as a byte at a time. However long they run, they end alike, have read the same packets, emptied
the same queue into the same routes, advanced the AES sessions by the same bytes, and what every
other connection has been sent is the same. -/
theorem failing_client_isolated (cipher : Cipher) (client : Ptr) (diagnostics : Bool)
    (nested : Coroutine RouterWorld Unit) (leftover : Nat → Nat → UInt8) (passes : Nat)
    (one other : RouterWorld) (isolated : Isolated client one other) :
    ∃ answer after after',
      (routeLoop diagnostics (AesSession.encrypt cipher) nested leftover true passes).run one =
        (answer, after) ∧
      (routeLoop diagnostics (AesSession.encrypt cipher) nested leftover true passes).run other =
        (answer, after') ∧
      AlikeBut client after after' := by
  have ended := routeLoop_together cipher client diagnostics nested leftover passes one other isolated
  generalize (routeLoop diagnostics (AesSession.encrypt cipher) nested leftover true passes).run one =
    ran at ended ⊢
  generalize (routeLoop diagnostics (AesSession.encrypt cipher) nested leftover true passes).run other =
    ran' at ended ⊢
  cases ended with
  | ends alike => exact ⟨_, _, _, rfl, rfl, alike⟩
  | stops how alike => exact ⟨_, _, _, rfl, rfl, alike⟩

/-- Two clients, and a packet for each, the first connection as it is given. -/
def twoClients (first : Connection) : RouterWorld where
  tun := { reads := [.packet ipv4Packet, .packet ⟨ipv4Packet.bytes.set 19 3, by simp [ipv4Packet], by decide⟩] }
  tunRouter := ((∅ : Router).insert ⟨0x0A7B0002⟩ (0, some 0) : Router).insert ⟨0x0A7B0003⟩ (1, some 1)
  connections := Function.update (fun _ => {}) 0 first
  aesSessions := fun _ => ⟨[], [], [], 0, 0⟩

/-- The second client gets its packet, be the first connected or not. -/
theorem failing_client_isolated_cut_off :
    ((routeLoop false (AesSession.encrypt fun _ _ _ => 0) running (fun _ _ => 0) true 3).run
        (twoClients {})).2.connections 1 =
      ((routeLoop false (AesSession.encrypt fun _ _ _ => 0) running (fun _ _ => 0) true 3).run
        (twoClients { socket := { accepts := [.ok 3, .error .connectionReset] } })).2.connections 1 := by
  have isolated : Isolated 0 (twoClients {})
      (twoClients { socket := { accepts := [.ok 3, .error .connectionReset] } }) :=
    ⟨⟨rfl, rfl, rfl, rfl, rfl, fun con apart => by simp [twoClients, apart]⟩,
      fun con apart => by simp [twoClients], ⟨⟨rfl, rfl⟩, rfl⟩, ⟨⟨rfl, rfl⟩, rfl⟩⟩
  obtain ⟨answer, after, after', ran, ran', alike⟩ := failing_client_isolated (fun _ _ _ => 0) 0 false
    running (fun _ _ => 0) 3 _ _ isolated
  rw [ran, ran']
  exact alike.connections 1 (by decide)

end Vpverk.RouterIsolation
