import Vpverk.SocketTriples
import Vpverk.LoginExchange
import Vpverk.Rejection

/-! Who is let in. Until `authenticateUser` has answered, a peer of `startConnection` gets
nothing of the server but the beginning of one error message, and the answer lies in the
bytes it has sent alone, however they come and whatever fails meanwhile. -/
namespace Vpverk.Admission
open Addresses RouteQueue Coroutine Octets Asioapi Peer DataExchange Handshake Delivery Rejection StreamSync

variable {setup : Setup} {world start : Lifecycle} {sent stream : Bytes}

/-! ### What is sent -/

/-- What a peer is told that is turned away. -/
def refusals : List Bytes :=
  [utf8 "Protocol violation", utf8 "Decryption failure", utf8 "Access denied"]

/-- Nothing has been sent but the beginning of one of these messages. -/
def Refused (sent : Bytes) (con : Connection) : Prop :=
  ∃ reason ∈ refusals, ∃ told, told <+: errorMessage reason ∧ con.socket.sent = sent ++ told

theorem refused_silent {con : Connection} (same : con.socket.sent = sent) : Refused sent con :=
  ⟨_, List.mem_cons_self .., [], List.nil_prefix, by simp [same]⟩

theorem onSocket_silent {α : Type} {inner : Coroutine Socket α} (silent : Silent inner) (sent : Bytes) :
    Ensures (fun con => con.socket.sent = sent) (Connection.onSocket inner)
      (fun _ con => con.socket.sent = sent) fun _ con => con.socket.sent = sent := by
  constructor
  · intro before value after same ran
    obtain ⟨socket, inside, rfl⟩ := within_run_iff.mp ran
    exact (silent sent).ends _ _ _ same inside
  · intro before how after same ran
    obtain ⟨socket, inside, rfl⟩ := within_run_iff.mp ran
    exact (silent sent).stops _ _ _ same inside

/-- However it ends, `close` has sent the beginning of its message. -/
theorem close_refuses {reason : Bytes} (listed : reason ∈ refusals) (sent : Bytes) :
    Ensures (fun con => con.socket.sent = sent) (Connection.close reason)
      (fun _ => Refused sent) fun _ => Refused sent := by
  apply ensures_look_bind
  intro seen same
  split
  · exact ensures_pure fun _ seen => refused_silent (seen ▸ same)
  · have marks : Ensures (fun con => con = seen) (change fun con => { con with closed := true })
        (fun _ con => con.socket.sent = sent) fun _ => Refused sent := by
      apply ensures_change
      rintro _ rfl
      exact same
    apply marks.bind
    intro _
    apply ensures_look_bind
    intro marked same
    split
    · exact ensures_stop fun _ seen => refused_silent (seen ▸ same)
    · have probes : Ensures (fun con => con = marked) (Connection.onSocket reliableIsOpen)
          (fun _ con => con.socket.sent = sent) fun _ => Refused sent :=
        (onSocket_silent silent_reliableIsOpen sent).weaken (fun _ seen => seen ▸ same)
          (fun _ _ same => same) fun _ _ same => refused_silent same
      apply probes.bind
      intro isOpen
      split
      · have sends : Ensures (fun con => con.socket.sent = sent)
            (Connection.onSocket (send (errorMessage reason))) (fun _ => Refused sent)
            fun _ => Refused sent := by
          have tells : ∀ con answer con', con.socket.sent = sent →
              (Connection.onSocket (send (errorMessage reason))).run con = (answer, con') →
              Refused sent con' := by
            intro con answer con' same ran
            obtain ⟨socket, inside, rfl⟩ := within_run_iff.mp ran
            obtain ⟨told, part, written, _⟩ := send_tells (errorMessage reason) con.socket
            rw [inside, same] at written
            exact ⟨reason, listed, told, part, written⟩
          exact ⟨fun con _ con' same ran => tells con _ con' same ran,
            fun con _ con' same ran => tells con _ con' same ran⟩
        apply sends.bind
        intro answer
        apply ensures_look_bind
        intro told refused
        split
        · exact ensures_stop fun _ seen => seen ▸ refused
        · apply ensures_change
          rintro _ rfl
          exact refused
      · exact ensures_pure fun _ same => refused_silent same
      · exact ensures_pure fun _ same => refused_silent same

/-! ### What is read -/

theorem isActiveNolock_silent (sent : Bytes) :
    Ensures (fun con => con.socket.sent = sent) isActiveNolock
      (fun _ con => con.socket.sent = sent) fun _ con => con.socket.sent = sent := by
  apply (onSocket_silent silent_reliableIsOpen sent).bind
  intro answer
  cases answer with
  | ok isOpen => exact ensures_pure fun _ same => same
  | error code => exact ensures_stop fun _ same => same

theorem isActiveNolock_ok {con con' : Connection} {active : Bool}
    (ran : isActiveNolock.run con = (.ok active, con')) : con'.socket.stream = con.socket.stream := by
  obtain ⟨answer, mid, within, ran⟩ := bind_run_ok ran
  obtain ⟨socket, probed, rfl⟩ := within_run_iff.mp within
  obtain ⟨_, stream, rfl⟩ := takes_reliableIsOpen _ _ _ probed
  cases answer with
  | ok isOpen =>
    cases ran
    exact stream.symm
  | error code => cases ran

/-- The session whose key block came under the RSA key, and what has come behind it. -/
def Keyed (setup : Setup) (stream : Bytes) (aes : AesSession) (rest : Bytes) : Prop :=
  ∃ sealed block, stream = encode 256 ++ (sealed ++ rest) ∧ sealed.length = 256 ∧
    setup.rsa.decrypt sealed = .ok block ∧ block.length = 64 ∧ aes = sessionOf block

/-- What a peer has to send to be let in: its key block under the RSA key, and a login of the
list under the session's key. -/
def LetIn (setup : Setup) (stream : Bytes) : Prop :=
  ∃ aes login rest, Keyed setup stream aes (sealedLogin setup.cipher aes login ++ rest) ∧
    login.length ≤ 200 ∧ login ∈ setup.allowedLogins

theorem exchangeAESkey_ok {con con' : Connection} {aes : AesSession}
    (ran : (exchangeAESkey setup.rsa).run con = (.ok aes, con')) :
    Keyed setup con.socket.stream aes con'.socket.stream := by
  obtain ⟨header, mid, read, ran⟩ := bind_run_ok ran
  obtain ⟨stream, four⟩ := readSomeReliable_ok read
  split at ran
  · obtain ⟨_, _, _, thrown⟩ := bind_run_ok ran
    cases thrown
  · rename_i right
    obtain ⟨sealed, mid', read', ran⟩ := bind_run_ok ran
    obtain ⟨stream', length⟩ := readSomeReliable_ok read'
    have first : header = encode 256 := by
      have size : decode header = 256 := by
        apply UInt32.toNat_inj.mp
        exact (not_not.mp right).symm
      rw [← size, encode_decode four]
    split at ran
    · cases ran
    · rename_i block opens
      split at ran
      · cases ran
      · rename_i whole
        have whole : block.length = 64 := not_not.mp whole
        dsimp only at ran
        have created : AesSession.create ((salted block).take 32) (((salted block).drop 32).take 16)
            (((salted block).drop 48).take 16) = .ok (sessionOf block) :=
          if_neg (by simp [salted_length, whole])
        rw [created] at ran
        cases ran
        exact ⟨sealed, block, by rw [stream, stream', first], length, opens, whole, rfl⟩

theorem readSomeReliable_refuses (buffer amount : Nat) (context : String) (sent : Bytes) :
    Ensures (fun con => con.socket.sent = sent) (Connection.readSomeReliable buffer amount context)
      (fun _ con => con.socket.sent = sent) fun _ => Refused sent := by
  apply ((onSocket_silent (silent_readSome buffer amount) sent).weaken (fun _ same => same)
    (fun _ _ same => same) fun _ _ same => refused_silent same).bind
  intro answer
  cases answer with
  | ok bytes => exact ensures_pure fun _ same => same
  | error code => exact ensures_stop fun _ same => refused_silent same

/-- Behind a message of refusal nothing follows. -/
theorem closes_refuses {α : Type} {reason : Bytes} (listed : reason ∈ refusals) (what : String)
    (sent : Bytes) {post : α → Connection → Prop} :
    Ensures (fun con => con.socket.sent = sent)
      (Connection.close reason >>= fun _ => (throw what : Coroutine Connection α)) post
      fun _ => Refused sent :=
  (close_refuses listed sent).bind fun _ => ensures_stop fun _ refused => refused

theorem exchangeAESkey_refuses (rsa : Rsa) (sent : Bytes) :
    Ensures (fun con => con.socket.sent = sent) (exchangeAESkey rsa)
      (fun _ con => con.socket.sent = sent) fun _ => Refused sent := by
  apply (readSomeReliable_refuses _ _ _ _).bind
  intro header
  split
  · exact closes_refuses (by simp [refusals]) _ _
  · apply (readSomeReliable_refuses _ _ _ _).bind
    intro sealed
    split
    · exact ensures_stop fun _ same => refused_silent same
    · split
      · exact ensures_stop fun _ same => refused_silent same
      · dsimp only
        split
        · exact closes_refuses (by simp [refusals]) _ _
        · exact ensures_pure fun _ same => same

/-- What `binary_search` finds is there, be the list sorted or not. -/
theorem binarySearch_mem {logins : List Bytes} {login : Bytes} (found : binarySearch logins login = true) :
    login ∈ logins := by
  unfold binarySearch at found
  split at found
  · cases found
  · rename_i element first
    have least : ¬ element < login := by simpa using List.find?_some first
    have most : ¬ login < element := by simpa using found
    rw [List.le_antisymm least most]
    exact List.mem_of_find?_eq_some first

/-- A size and what is decrypted behind it are the login the peer sealed. -/
theorem sealedLogin_read {cipher : Cipher} {aes : AesSession} {readCrypt loginCrypt : Bytes}
    (four : readCrypt.length = 4) (length : loginCrypt.length = headerSize cipher aes readCrypt) :
    sealedLogin cipher aes (mask (cipher aes.key aes.decryptIv) (aes.decrypted + 4) loginCrypt) =
      readCrypt ++ loginCrypt := by
  have header : encode loginCrypt.length.toUInt32 =
      mask (cipher aes.key aes.decryptIv) aes.decrypted readCrypt := by
    rw [length, headerSize]
    change encode (UInt32.ofNat (UInt32.toNat _)) = _
    rw [UInt32.ofNat_toNat, encode_decode (by simp [four])]
  rw [sealedLogin, mask_length, header, mask_append, mask_mask, mask_length, four, mask_mask]

theorem authenticateUser_ok {con con' : Connection} {aes aes' : AesSession} {allowed : Bool}
    (ran : (authenticateUser setup.cipher setup.allowedLogins aes).run con = (.ok (allowed, aes'), con')) :
    ∃ login, con.socket.stream = sealedLogin setup.cipher aes login ++ con'.socket.stream ∧
      login.length ≤ 200 ∧ (allowed = true → login ∈ setup.allowedLogins) ∧
      aes' = { aes with decrypted := aes.decrypted + 4 + login.length } := by
  obtain ⟨readCrypt, mid, read, ran⟩ := bind_run_ok ran
  obtain ⟨stream, four⟩ := readSomeReliable_ok read
  have four : readCrypt.length = 4 := four
  rw [AesSession.decrypt_ok (by omega)] at ran
  simp only [decrypted, bind_pure_run] at ran
  split at ran
  · cases ran
  · rename_i small
    obtain ⟨loginCrypt, mid', read', ran⟩ := bind_run_ok ran
    obtain ⟨stream', length⟩ := readSomeReliable_ok read'
    have length : loginCrypt.length =
        (decode (mask (setup.cipher aes.key aes.decryptIv) aes.decrypted readCrypt)).toNat := length
    rw [AesSession.decrypt_ok (Nat.le_of_eq length)] at ran
    cases ran
    refine ⟨mask (setup.cipher aes.key aes.decryptIv) (aes.decrypted + 4) loginCrypt, ?_, ?_, ?_, ?_⟩
    · rw [sealedLogin_read four length, stream, stream', List.append_assoc]
    · rw [mask_length, length]
      exact Nat.le_of_not_lt small
    · intro found
      have found := binarySearch_mem found
      rwa [four] at found
    · rw [mask_length, four]

theorem decrypted_refuses (answer : Except ErrorCode (Bytes × AesSession)) (context : String)
    (sent : Bytes) :
    Ensures (fun con => con.socket.sent = sent) (decrypted answer context)
      (fun _ con => con.socket.sent = sent) fun _ => Refused sent := by
  cases answer with
  | ok value => exact ensures_pure fun _ same => same
  | error code => exact closes_refuses (by simp [refusals]) _ _

theorem authenticateUser_refuses (cipher : Cipher) (allowedLogins : List Bytes) (aes : AesSession)
    (sent : Bytes) :
    Ensures (fun con => con.socket.sent = sent) (authenticateUser cipher allowedLogins aes)
      (fun _ con => con.socket.sent = sent) fun _ => Refused sent := by
  apply (readSomeReliable_refuses _ _ _ _).bind
  intro readCrypt
  apply (decrypted_refuses _ _ _).bind
  intro header
  dsimp only
  split
  · exact ensures_stop fun _ same => refused_silent same
  · apply (readSomeReliable_refuses _ _ _ _).bind
    intro loginCrypt
    apply (decrypted_refuses _ _ _).bind
    intro login
    exact ensures_pure fun _ same => same

/-! ### Who is turned away -/

/-- Nothing of the server but its connection has been touched. -/
def Untouched (start world : Lifecycle) : Prop :=
  world.assignedAddress = start.assignedAddress ∧ world.pool = start.pool ∧
    world.tunQueue = start.tunQueue ∧ world.server.tun = start.server.tun

/-- The peer has been turned away. -/
def TurnedAway (start world : Lifecycle) : Prop :=
  Refused start.server.con.socket.sent world.server.con ∧ Untouched start world

/-- What holds of the connection, and nothing else has been touched. -/
def Beside (start : Lifecycle) (holds : Connection → Prop) (world : Lifecycle) : Prop :=
  holds world.server.con ∧ Untouched start world

theorem onCon_beside {α : Type} {inner : Coroutine Connection α} {pre : Connection → Prop}
    {post : α → Connection → Prop} {stopped : Stop → Connection → Prop}
    (ensures : Ensures pre inner post stopped) (start : Lifecycle) :
    Ensures (Beside start pre) (Lifecycle.onCon inner) (fun value => Beside start (post value))
      fun how => Beside start (stopped how) := by
  have onServer : Ensures (fun server : Server => pre server.con ∧ server.tun = start.server.tun)
      (Server.onCon inner) (fun value server => post value server.con ∧ server.tun = start.server.tun)
      fun how server => stopped how server.con ∧ server.tun = start.server.tun :=
    ensures.within _ _ (fun server : Server => server.tun = start.server.tun)
      (fun _ _ => rfl) fun _ _ same => same
  let frame (world : Lifecycle) : Prop := world.assignedAddress = start.assignedAddress ∧
    world.pool = start.pool ∧ world.tunQueue = start.tunQueue
  have onWorld : Ensures
      (fun world : Lifecycle => (pre world.server.con ∧ world.server.tun = start.server.tun) ∧ frame world)
      (Lifecycle.onCon inner)
      (fun value world => (post value world.server.con ∧ world.server.tun = start.server.tun) ∧ frame world)
      fun how world => (stopped how world.server.con ∧ world.server.tun = start.server.tun) ∧ frame world :=
    onServer.within Lifecycle.server (fun server world => { world with server := server }) frame
      (fun _ _ => rfl) fun _ _ same => same
  apply onWorld.weaken
  · rintro world ⟨holds, assigned, pool, tunQueue, tun⟩
    exact ⟨⟨holds, tun⟩, assigned, pool, tunQueue⟩
  · rintro value world ⟨⟨holds, tun⟩, assigned, pool, tunQueue⟩
    exact ⟨holds, assigned, pool, tunQueue, tun⟩
  · rintro how world ⟨⟨holds, tun⟩, assigned, pool, tunQueue⟩
    exact ⟨holds, assigned, pool, tunQueue, tun⟩

/-- The peer's bytes, none of them read, and nothing sent. -/
def Fresh (stream sent : Bytes) (con : Connection) : Prop :=
  con.socket.stream = stream ∧ con.socket.sent = sent

theorem isActiveNolock_ensures (stream sent : Bytes) :
    Ensures (Fresh stream sent) isActiveNolock (fun _ => Fresh stream sent) fun _ => Refused sent where
  ends _ _ _ fresh ran :=
    ⟨(isActiveNolock_ok ran).trans fresh.1, (isActiveNolock_silent sent).ends _ _ _ fresh.2 ran⟩
  stops _ _ _ fresh ran := refused_silent ((isActiveNolock_silent sent).stops _ _ _ fresh.2 ran)

theorem exchangeAESkey_ensures (setup : Setup) (stream sent : Bytes) :
    Ensures (Fresh stream sent) (exchangeAESkey setup.rsa)
      (fun aes con => Keyed setup stream aes con.socket.stream ∧ con.socket.sent = sent)
      fun _ => Refused sent where
  ends _ _ _ fresh ran :=
    ⟨fresh.1 ▸ exchangeAESkey_ok ran, (exchangeAESkey_refuses setup.rsa sent).ends _ _ _ fresh.2 ran⟩
  stops _ _ _ fresh ran := (exchangeAESkey_refuses setup.rsa sent).stops _ _ _ fresh.2 ran

theorem authenticateUser_ensures (setup : Setup) (aes : AesSession) (stream sent : Bytes) :
    Ensures (fun con => Keyed setup stream aes con.socket.stream ∧ con.socket.sent = sent)
      (authenticateUser setup.cipher setup.allowedLogins aes)
      (fun answer con => (answer.1 = true → LetIn setup stream) ∧ con.socket.sent = sent)
      fun _ => Refused sent where
  ends := by
    rintro before ⟨allowed, aes'⟩ after ⟨keyed, same⟩ ran
    obtain ⟨login, behind, short, listed, _⟩ := authenticateUser_ok ran
    rw [behind] at keyed
    exact ⟨fun yes => ⟨aes, login, _, keyed, short, listed yes⟩,
      (authenticateUser_refuses _ _ _ sent).ends _ _ _ same ran⟩
  stops _ _ _ holds ran := (authenticateUser_refuses _ _ _ sent).stops _ _ _ holds.2 ran

theorem tryBlock_turns_away (stranger : ¬LetIn setup start.server.con.socket.stream) :
    Ensures (fun world => world = start) (tryBlock setup) (fun _ => TurnedAway start)
      fun _ => TurnedAway start := by
  have probes := onCon_beside
    (isActiveNolock_ensures start.server.con.socket.stream start.server.con.socket.sent) start
  have begins : ∀ world, world = start → Beside start
      (Fresh start.server.con.socket.stream start.server.con.socket.sent) world := by
    rintro _ rfl
    exact ⟨⟨rfl, rfl⟩, rfl, rfl, rfl, rfl⟩
  apply (probes.begun begins).bind
  intro active
  apply (onCon_beside (exchangeAESkey_ensures setup _ _) start).bind
  intro aeskey
  apply (onCon_beside (authenticateUser_ensures setup aeskey _ _) start).bind
  rintro ⟨allowed, aeskey⟩
  dsimp only
  cases allowed with
  | false =>
    have listed : utf8 "Access denied" ∈ refusals := by simp [refusals]
    have closes := onCon_beside (close_refuses listed start.server.con.socket.sent) start
    apply (closes.begun fun _ holds => ⟨holds.1.2, holds.2⟩).bind
    intro _
    exact ensures_pure fun _ away => away
  | true => exact ensures_knowing (fun _ holds => holds.1.1 rfl) fun letIn => absurd letIn stranger

/-- What the try block leaves, the rest of `startConnection` leaves. -/
theorem startConnection_leaves {pre holds : Lifecycle → Prop}
    (body : Ensures pre (tryBlock setup) (fun _ => holds) fun _ => holds)
    (logs : ∀ line world, holds world → holds { world with log := world.log ++ [line] })
    (last : ∀ address, Ensures (fun world => holds world ∧ world.assignedAddress = some address)
      (unregister setup address) (fun _ => holds) fun _ => holds) :
    Ensures pre (startConnection setup) (fun _ => holds) fun _ => holds := by
  have caught : Ensures pre
      (tryCatch (tryBlock setup) fun what => do
        Lifecycle.writeServ ("exception in startConnection (lifecycle): " ++ what)
        pure false)
      (fun _ => holds) fun _ => holds := by
    apply ensures_tryCatch body
    · intro what
      have writes : Ensures holds
          (Lifecycle.writeServ ("exception in startConnection (lifecycle): " ++ what))
          (fun _ => holds) fun _ => holds := ensures_change (logs _)
      exact writes.bind fun _ => ensures_pure fun _ kept => kept
    · exact fun _ _ _ kept => kept
  apply caught.bind
  intro returned
  cases returned with
  | true => exact ensures_pure fun _ kept => kept
  | false =>
    apply ensures_look_bind
    intro seen kept
    cases assigned : seen.assignedAddress with
    | none => exact ensures_pure fun _ same => same ▸ kept
    | some address => exact (last address).begun fun _ same => same ▸ ⟨kept, assigned⟩

theorem startConnection_turns_away (unassigned : start.assignedAddress = none)
    (stranger : ¬LetIn setup start.server.con.socket.stream) :
    TurnedAway start ((startConnection setup).run start).2 := by
  have unregisters (address : AddressV4) : Ensures
      (fun world => TurnedAway start world ∧ world.assignedAddress = some address)
      (unregister setup address) (fun _ => TurnedAway start) fun _ => TurnedAway start := by
    refine ensures_knowing (?_ : ∀ world, _ → False) False.elim
    · rintro world ⟨away, assigned⟩
      rw [away.2.1, unassigned] at assigned
      cases assigned
  exact (startConnection_leaves (tryBlock_turns_away stranger) (fun _ _ away => away) unregisters).anyway rfl

/-- **A stranger gets nothing.** Whatever a peer sends, unless it begins with a key block under
the server's RSA key and a login of the list under that key, and however the bytes come and the
socket fails: the session is assigned no address, no entry is pushed, nothing is written to the
tun device, and nothing is sent by `startConnection` but the beginning of one error message. -/
theorem strangers_get_nothing (setup : Setup) (start : Lifecycle)
    (unassigned : start.assignedAddress = none)
    (stranger : ¬LetIn setup start.server.con.socket.stream) :
    ((startConnection setup).run start).2.assignedAddress = none ∧
      ((startConnection setup).run start).2.pool = start.pool ∧
      ((startConnection setup).run start).2.tunQueue = start.tunQueue ∧
      ((startConnection setup).run start).2.server.tun = start.server.tun ∧
      ∃ reason ∈ refusals, ∃ told, told <+: errorMessage reason ∧
        ((startConnection setup).run start).2.server.con.socket.sent =
          start.server.con.socket.sent ++ told := by
  obtain ⟨refused, assigned, pool, tunQueue, tun⟩ := startConnection_turns_away unassigned stranger
  exact ⟨assigned.trans unassigned, pool, tunQueue, tun, refused⟩

/-- A peer that gives its key and hangs up within the header of its login. -/
theorem strangers_get_nothing_hung_up :
    ((startConnection oneListed).run (keyedPeer [1, 0, 0])).2.tunQueue = {} := by
  have stranger : ¬LetIn oneListed (keyedPeer [1, 0, 0]).server.con.socket.stream := by
    rintro ⟨aes, login, rest, ⟨sealed, block, stream, length, _⟩, _⟩
    have all : (keyedPeer [1, 0, 0]).server.con.socket.stream =
        encode 256 ++ (List.replicate 256 0 ++ [1, 0, 0]) := List.append_nil _
    rw [all] at stream
    have short := congrArg List.length (List.append_cancel_left stream)
    rw [sealedLogin, List.length_append, List.length_append, length, List.length_append, mask_length,
      List.length_append, List.length_replicate] at short
    simp [encode] at short
    omega
  exact (strangers_get_nothing oneListed _ rfl stranger).2.2.1

/-! ### Who is let in -/

def Assigned (address : AddressV4) (world : Lifecycle) : Prop := world.assignedAddress = some address

variable {address : AddressV4} {pool : AddressPool}

theorem onServer_assigned {α : Type} (inner : Coroutine Server α) :
    Ensures (Assigned address) (Lifecycle.onServer inner) (fun _ => Assigned address)
      fun _ => Assigned address :=
  ensures_within (fun _ _ assigned => assigned) fun _ _ assigned => assigned

theorem pushRoute_assigned (setup : Setup) :
    Ensures (Assigned address) (pushRoute setup address) (fun _ => Assigned address)
      fun _ => Assigned address := by
  apply ensures_look_bind
  intro seen assigned
  split
  · apply ensures_change
    rintro _ rfl
    exact assigned
  · have writes : Ensures (fun world => world = seen)
        (Lifecycle.writeServ "failed to add pointer to atomic queue") (fun _ => Assigned address)
        fun _ => Assigned address := by
      apply ensures_change
      rintro _ rfl
      exact assigned
    apply writes.bind
    intro _
    apply (onServer_assigned _).bind
    intro _
    exact ensures_stop fun _ assigned => assigned

theorem register_assigns (aes : AesSession)
    (free : getNewAddress setup.diagnostics setup.passes start.pool = some (.returns (address, pool))) :
    Ensures (fun world => world.pool = start.pool) (register setup aes) (fun _ => Assigned address)
      fun _ => Assigned address := by
  have assigns : Ensures (fun world : Lifecycle => world.pool = start.pool) (assignAddress setup)
      (fun given world => given = address ∧ Assigned address world) fun _ => Assigned address := by
    apply ensures_look_bind
    intro seen same
    rw [same, free]
    have changes : Ensures (fun world => world = seen)
        (change fun world => { world with pool := pool, assignedAddress := some address })
        (fun _ => Assigned address) fun _ => Assigned address := ensures_change fun _ _ => rfl
    exact changes.bind fun _ => ensures_pure fun _ assigned => ⟨rfl, assigned⟩
  apply assigns.bind
  intro given
  apply ensures_knowing fun _ holds => holds.1
  rintro rfl
  apply ((onServer_assigned _).begun fun _ holds => holds.2).bind
  intro aes'
  exact (pushRoute_assigned setup).bind fun _ => ensures_pure fun _ assigned => assigned

theorem unregister_assigned (setup : Setup) :
    Ensures (Assigned address) (unregister setup address) (fun _ => Assigned address)
      fun _ => Assigned address := by
  apply ensures_look_bind
  intro seen assigned
  split
  · exact ensures_stop fun _ same => same ▸ assigned
  · rename_i tunQueue _
    have pushes : Ensures (fun world => world = seen)
        (change fun world => { world with tunQueue := tunQueue }) (fun _ => Assigned address)
        fun _ => Assigned address := ensures_change fun _ same => same ▸ assigned
    exact pushes.bind fun _ => ensures_change fun _ assigned => assigned

/-- A peer that has sent what lets it in is assigned its address. -/
theorem tryBlock_assigns {bytes : Bytes} (sorted : setup.allowedLogins.Pairwise (· ≤ ·))
    (delivers : Delivers start.server.con.socket bytes []) (letIn : LetIn setup bytes)
    (free : getNewAddress setup.diagnostics setup.passes start.pool = some (.returns (address, pool))) :
    Ensures (fun world => world = start) (tryBlock setup) (fun _ => Assigned address)
      fun _ => Assigned address := by
  obtain ⟨aes, login, rest, ⟨sealed, block, rfl, length, opens, whole, rfl⟩, short, listed⟩ := letIn
  obtain ⟨socket, keyed, delivers'⟩ := keyed_delivers delivers length opens whole
  obtain ⟨active, mid, probed, exchanged⟩ := bind_run_ok keyed
  have delivers' : Delivers ({ start.server.con with socket := socket } : Connection).socket
      (sealedLogin setup.cipher (sessionOf block) login ++ rest) [] := delivers'
  obtain ⟨socket', allowed, _⟩ := authenticateUser_delivers setup.allowedLogins delivers' short
  rw [(LoginExchange.binarySearch_iff sorted).mpr listed] at allowed
  let aes' : AesSession :=
    { sessionOf block with decrypted := (sessionOf block).decrypted + 4 + login.length }
  let rest' : Coroutine Lifecycle Bool := register setup aes' >>= fun aes =>
    Lifecycle.onServer (performDataExchange setup.cipher setup.passes aes) >>= fun _ => pure false
  have registers : Ensures (fun world : Lifecycle => world.pool = start.pool) rest'
      (fun _ => Assigned address) fun _ => Assigned address :=
    (register_assigns _ free).bind fun _ =>
      (onServer_assigned _).bind fun _ => ensures_pure fun _ assigned => assigned
  let mid' : Lifecycle :=
    { start with server := { start.server with con := { start.server.con with socket := socket' } } }
  have same : mid'.pool = start.pool := rfl
  have runs : (tryBlock setup).run start = rest'.run mid' := by
    rw [tryBlock, bind_ok (Lifecycle.onCon_run probed), bind_ok (Lifecycle.onCon_run exchanged),
      bind_ok (Lifecycle.onCon_run allowed)]
    rfl
  constructor
  · rintro _ value after rfl ran
    exact registers.ends _ _ _ same (runs.symm.trans ran)
  · rintro _ how after rfl ran
    exact registers.stops _ _ _ same (runs.symm.trans ran)

/-- **Exactly the listed are let in.** On a socket that delivers a peer's bytes, in any pieces
and with nothing behind them, and with an address that `getNewAddress` returns: the peer is
assigned it exactly if its bytes begin with a key block under the server's RSA key and a login
of the list under that key. -/
theorem assigned_iff_let_in (setup : Setup) (start : Lifecycle) {bytes : Bytes}
    (unassigned : start.assignedAddress = none) (sorted : setup.allowedLogins.Pairwise (· ≤ ·))
    (free : getNewAddress setup.diagnostics setup.passes start.pool = some (.returns (address, pool)))
    (delivers : Delivers start.server.con.socket bytes []) :
    ((startConnection setup).run start).2.assignedAddress = some address ↔ LetIn setup bytes := by
  constructor
  · intro assigned
    by_contra stranger
    have all : start.server.con.socket.stream = bytes := by
      rw [delivers.stream]
      simp [BlockSize.content]
    rw [← all] at stranger
    have away := startConnection_turns_away unassigned stranger
    rw [away.2.1, unassigned] at assigned
    cases assigned
  · intro letIn
    have unregisters (given : AddressV4) : Ensures
        (fun world => Assigned address world ∧ world.assignedAddress = some given)
        (unregister setup given) (fun _ => Assigned address) fun _ => Assigned address := by
      apply ensures_knowing fun _ holds => Option.some.inj (holds.2.symm.trans holds.1)
      rintro rfl
      exact (unregister_assigned setup).begun fun _ holds => holds.1
    exact (startConnection_leaves (tryBlock_assigns sorted delivers letIn free)
      (fun _ _ assigned => assigned) unregisters).anyway rfl

/-- The one listed login gets the first address. -/
theorem assigned_iff_let_in_listed :
    ((startConnection oneListed).run (keyedPeer (sealedLogin plain (sessionOf (List.replicate 64 0))
      (utf8 "login")))).2.assignedAddress = some (candidate 2) := by
  have opens : oneListed.rsa.decrypt (List.replicate 256 0) = .ok (List.replicate 64 0) :=
    congrArg Except.ok (List.take_replicate ..)
  have letIn : LetIn oneListed (encode 256 ++ (List.replicate 256 0 ++
      sealedLogin plain (sessionOf (List.replicate 64 0)) (utf8 "login"))) :=
    ⟨_, utf8 "login", [], ⟨_, _, by rw [List.append_nil]; rfl, List.length_replicate, opens,
      List.length_replicate, rfl⟩, by decide, List.mem_singleton.mpr rfl⟩
  exact (assigned_iff_let_in oneListed (keyedPeer _) rfl (List.pairwise_singleton ..) rfl
    (delivers_segment _)).mpr letIn

end Vpverk.Admission
