import Vpverk.Delivery
import Vpverk.RouteQueue
import Vpverk.StreamSync

/-! `startConnection` from the accepted connection to its end, and what becomes of
the connection when the peer breaks the protocol. Five checks reject what it
sends, and the exception of each ends in the same catch block, which only logs. -/
namespace Vpverk.Rejection
open Addresses RouteQueue Coroutine Octets Asioapi Peer DataExchange BlockSize Handshake StreamSync
open Delivery

/-- What `startConnection` works on: its connection and the tun device, the
addresses in use, the route queue, its `assigned_address`, and what it logs. -/
structure Lifecycle where
  server : Server := {}
  pool : AddressPool := {}
  tunQueue : RoutesQueue := {}
  assignedAddress : Option AddressV4 := none
  log : List String := []

def Lifecycle.onServer {α : Type} (inner : Coroutine Server α) : Coroutine Lifecycle α :=
  within Lifecycle.server (fun server world => { world with server := server }) inner

def Lifecycle.onCon {α : Type} (inner : Coroutine Connection α) : Coroutine Lifecycle α :=
  Lifecycle.onServer (Server.onCon inner)

theorem Lifecycle.onServer_run {α : Type} {inner : Coroutine Server α} {world : Lifecycle}
    {answer : Except Stop α} {server : Server} (ran : inner.run world.server = (answer, server)) :
    (Lifecycle.onServer inner).run world = (answer, { world with server := server }) :=
  within_run ran

theorem Lifecycle.onCon_run {α : Type} {inner : Coroutine Connection α} {world : Lifecycle}
    {answer : Except Stop α} {con : Connection}
    (ran : inner.run world.server.con = (answer, con)) :
    (Lifecycle.onCon inner).run world =
      (answer, { world with server := { world.server with con := con } }) :=
  Lifecycle.onServer_run (Server.onCon_run ran)

/-- A log line. -/
def Lifecycle.writeServ (line : String) : Coroutine Lifecycle Unit :=
  change fun world => { world with log := world.log ++ [line] }

/-- What a session is run with: the ciphers, the login list of its settings
snapshot, whether the diagnostic block of `getNewAddress` is there, a bound on
the passes of a loop, and the pointers its routes hold. -/
structure Setup where
  cipher : Cipher
  rsa : Rsa
  allowedLogins : List Bytes
  diagnostics : Bool
  passes : Nat
  connection : Ptr
  aes : Ptr

/-- `assigned_address = getNewAddress()`. -/
def assignAddress (setup : Setup) : Coroutine Lifecycle AddressV4 := do
  match getNewAddress setup.diagnostics setup.passes (← look).pool with
  | none => running
  | some (.aborts info) => abort info
  | some (.returns (address, pool)) =>
    change fun world => { world with pool := pool, assignedAddress := some address }
    pure address

/-- The push of the add entry. -/
def pushRoute (setup : Setup) (address : AddressV4) : Coroutine Lifecycle Unit := do
  match (← look).tunQueue.tryPush ⟨true, address, setup.connection, some setup.aes⟩ with
  | some tunQueue => change fun world => { world with tunQueue := tunQueue }
  | none =>
    let msg := "failed to add pointer to atomic queue"
    Lifecycle.writeServ msg
    Lifecycle.onCon (Connection.close (utf8 "server error: queue full"))
    throw msg

/-- The registration: the address is assigned, sent and routed. -/
def register (setup : Setup) (aes : AesSession) : Coroutine Lifecycle AesSession := do
  let address ← assignAddress setup
  let aes ← Lifecycle.onCon (sendIp setup.cipher aes address.toUint)
  pushRoute setup address
  pure aes

/-- The try block of `startConnection`, and whether it returned from within. The
assertion looks only at whether `is_active` came by the read lock, which nobody
else holds yet. -/
def tryBlock (setup : Setup) : Coroutine Lifecycle Bool := do
  let _ ← Lifecycle.onCon isActiveNolock
  let aeskey ← Lifecycle.onCon (exchangeAESkey setup.rsa)
  let (allowed, aeskey) ←
    Lifecycle.onCon (authenticateUser setup.cipher setup.allowedLogins aeskey)
  if !allowed then
    Lifecycle.onCon (Connection.close (utf8 "Access denied"))
    pure true
  else
    let aes ← register setup aeskey
    let _ ← Lifecycle.onServer (performDataExchange setup.cipher setup.passes aes)
    pure false

/-- What follows the catch block: the remove entry is pushed, with a new attempt
as long as the queue is full, and the address is released. -/
def unregister (setup : Setup) (address : AddressV4) : Coroutine Lifecycle Unit := do
  match (← look).tunQueue.tryPush ⟨false, address, setup.connection, none⟩ with
  | none => wait
  | some tunQueue =>
    change fun world => { world with tunQueue := tunQueue }
    change fun world => { world with pool := world.pool.release address }

/-- `SessionsControl::startConnection`. -/
def startConnection (setup : Setup) : Coroutine Lifecycle Unit := do
  let returned ← tryCatch (tryBlock setup) fun what => do
    Lifecycle.writeServ ("exception in startConnection (lifecycle): " ++ what)
    pure false
  if returned then pure ()
  else
    match (← look).assignedAddress with
    | none => pure ()
    | some address => unregister setup address

/-! ### What a peer does wrong -/

/-- What the server checks of what its peer sends. -/
inductive Offence where
  /-- A first header that is not 256. -/
  | firstHeader
  /-- An RSA block that does not decrypt to 64 bytes, or not at all. -/
  | sealedBlock
  /-- A login header above 200. -/
  | loginHeader
  /-- A login that is not in the list. -/
  | login
  /-- A data frame header above 1500. -/
  | dataHeader
  deriving DecidableEq, Repr

/-- The key exchange of this connection comes to its end, and leaves it like this. -/
def Keyed (setup : Setup) (world : Lifecycle) (aes : AesSession) (con : Connection) : Prop :=
  (isActiveNolock >>= fun _ => exchangeAESkey setup.rsa).run world.server.con = (.ok aes, con)

/-- The peer is let in and has its address and its route: the data exchange starts
here. -/
def Admitted (setup : Setup) (world : Lifecycle) (aes : AesSession) (started : Lifecycle) : Prop :=
  ∃ aes₁ con₁ aes₂ con₂, Keyed setup world aes₁ con₁ ∧
    (authenticateUser setup.cipher setup.allowedLogins aes₁).run con₁ = (.ok (true, aes₂), con₂) ∧
    (register setup aes₂).run { world with server := { world.server with con := con₂ } } =
      (.ok aes, started)

/-- The session reads something from its peer that it has to reject. What comes
before and how the bytes are cut is open. -/
inductive Meets (setup : Setup) (world : Lifecycle) : Offence → Prop
  | firstHeader {active : Bool} {con con' : Connection} {header : Bytes}
      (probed : isActiveNolock.run world.server.con = (.ok active, con))
      (read : (Connection.readSomeReliable 4 0 "error read on key exchange: ").run con =
        (.ok header, con'))
      (wrong : expectedFirstMsgSize ≠ (decode header).toNat) : Meets setup world .firstHeader
  | sealedBlock {active : Bool} {con con' con'' : Connection} {header aesKeyUnderRsa : Bytes}
      (probed : isActiveNolock.run world.server.con = (.ok active, con))
      (read : (Connection.readSomeReliable 4 0 "error read on key exchange: ").run con =
        (.ok header, con'))
      (right : expectedFirstMsgSize = (decode header).toNat)
      (block : (Connection.readSomeReliable expectedFirstMsgSize 0
        "error read on key exchange: ").run con' = (.ok aesKeyUnderRsa, con''))
      (unopened : ∀ aesKeyRaw, setup.rsa.decrypt aesKeyUnderRsa = .ok aesKeyRaw →
        aesKeyRaw.length ≠ 64) : Meets setup world .sealedBlock
  | loginHeader {aes : AesSession} {con con' : Connection} {header : Bytes}
      (keyed : Keyed setup world aes con)
      (read : (Connection.readSomeReliable 4 0 "error read on authentication: ").run con =
        (.ok header, con'))
      (tooLong : 200 < headerSize setup.cipher aes header) : Meets setup world .loginHeader
  | login {aes aes' : AesSession} {con con' : Connection} (keyed : Keyed setup world aes con)
      (refused : (authenticateUser setup.cipher setup.allowedLogins aes).run con =
        (.ok (false, aes'), con')) : Meets setup world .login
  | dataHeader {aes aes' : AesSession} {started : Lifecycle} {server : Server}
      {reads : List (Option Nat)} {con con' : Connection} {header : Bytes}
      (admitted : Admitted setup world aes started)
      (goes : (exchange setup.cipher).Steps (started.server, aes) reads (server, aes'))
      (within : reads.length < setup.passes)
      (found : waitData.run server.con = (.ok (some true), con))
      (read : (Connection.readSomeReliable 4 0 "error read on data exchange: ").run con =
        (.ok header, con'))
      (tooLong : maxBoundsSize < headerSize setup.cipher aes' header) : Meets setup world .dataHeader

variable {setup : Setup} {world : Lifecycle} {offence : Offence} {con con' : Connection}
  {aes : AesSession}

/-! ### `close` marks the connection -/

/-- A coroutine over the socket leaves the mark on its connection alone. -/
private theorem keeps_onSocket {α : Type} {good stopped : Connection → Prop}
    (inner : Coroutine Socket α) (still : ∀ socket con, good con → good { con with socket := socket })
    (may : ∀ con, good con → stopped con) : Keeps good stopped (Connection.onSocket inner) :=
  keeps_within still fun socket con holds => may _ (still socket con holds)

/-- Whatever becomes of it, a call of `close` leaves the connection marked. -/
theorem close_closed (reason : Bytes) (con : Connection) :
    ((Connection.close reason).run con).2.closed = true := by
  rw [Connection.close, bind_look_run]
  split
  · assumption
  · rw [bind_change_run, bind_look_run]
    split
    · rfl
    · have quiet {α : Type} (inner : Coroutine Socket α) :
          Keeps (fun con : Connection => con.closed = true) (fun con => con.closed = true)
            (Connection.onSocket inner) :=
        keeps_onSocket inner (fun _ _ marked => marked) fun _ marked => marked
      refine Keeps.run ((quiet _).bind fun isOpen => ?_) rfl
      split
      · apply (quiet _).bind
        intro sent
        apply keeps_look.bind
        intro seen
        split
        · exact keeps_stop _ fun _ marked => marked
        · exact keeps_change fun _ marked => marked
      · exact keeps_pure _
      · exact keeps_pure _

/-! ### What does not call it -/

/-- A coroutine that comes to its end has not called `close`. -/
def Leaves {α : Type} (inner : Coroutine Connection α) : Prop :=
  Keeps (fun con => con.closed = false) (fun _ => True) inner

private theorem leaves_onSocket {α : Type} (inner : Coroutine Socket α) :
    Leaves (Connection.onSocket inner) :=
  keeps_onSocket inner (fun _ _ unmarked => unmarked) fun _ _ => trivial

private theorem leaves_stop {α : Type} (how : Stop) : Leaves (stop how : Coroutine Connection α) :=
  keeps_stop how fun _ _ => trivial

private theorem leaves_bind_stop {α β : Type} {inner : Coroutine Connection α} (how : Stop) :
    Leaves (inner >>= fun _ => (stop how : Coroutine Connection β)) :=
  keeps_bind_stop how fun _ => trivial

private theorem leaves_readSomeReliable (buffer amount : Nat) (context : String) :
    Leaves (Connection.readSomeReliable buffer amount context) := by
  apply (leaves_onSocket _).bind
  intro answer
  cases answer with
  | ok bytes => exact keeps_pure _
  | error code => exact leaves_stop _

private theorem leaves_isActiveNolock : Leaves isActiveNolock := by
  apply (leaves_onSocket _).bind
  intro answer
  cases answer with
  | ok isOpen => exact keeps_pure _
  | error code => exact leaves_stop _

private theorem leaves_waitData : Leaves waitData := by
  apply (leaves_onSocket _).bind
  intro failed
  split
  · exact keeps_pure _
  · apply (leaves_onSocket _).bind
    intro count
    split
    · apply leaves_isActiveNolock.bind
      intro active
      split
      · exact keeps_pure _
      · exact keeps_pure _
    · exact keeps_pure _

private theorem leaves_decrypted (answer : Except ErrorCode (Bytes × AesSession)) (context : String) :
    Leaves (decrypted answer context) := by
  cases answer with
  | ok value => exact keeps_pure _
  | error code => exact leaves_bind_stop _

private theorem leaves_exchangeAESkey (rsa : Rsa) : Leaves (exchangeAESkey rsa) := by
  apply (leaves_readSomeReliable _ _ _).bind
  intro header
  split
  · exact leaves_bind_stop _
  · apply (leaves_readSomeReliable _ _ _).bind
    intro aesKeyUnderRsa
    split
    · exact leaves_stop _
    · split
      · exact leaves_stop _
      · dsimp only
        split
        · exact leaves_bind_stop _
        · exact keeps_pure _

private theorem leaves_authenticateUser (cipher : Cipher) (allowedLogins : List Bytes)
    (aes : AesSession) : Leaves (authenticateUser cipher allowedLogins aes) := by
  apply (leaves_readSomeReliable _ _ _).bind
  intro readCrypt
  apply (leaves_decrypted _ _).bind
  intro header
  dsimp only
  split
  · exact leaves_stop _
  · apply (leaves_readSomeReliable _ _ _).bind
    intro loginCrypt
    apply (leaves_decrypted _ _).bind
    intro login
    exact keeps_pure _

private theorem leaves_sendIp (cipher : Cipher) (aes : AesSession) (ip : UInt32) :
    Leaves (sendIp cipher aes ip) := by
  unfold sendIp
  split
  · exact leaves_bind_stop _
  · apply (leaves_onSocket _).bind
    intro answer
    cases answer with
    | ok _ => exact keeps_pure _
    | error code => exact leaves_bind_stop _

private theorem leaves_onCon {α : Type} {inner : Coroutine Connection α} (left : Leaves inner) :
    Keeps (fun server : Server => server.con.closed = false) (fun _ => True) (Server.onCon inner) :=
  left.within fun _ _ => rfl

/-- The same of a coroutine over the whole session. -/
def Lifecycle.Leaves {α : Type} (inner : Coroutine Lifecycle α) : Prop :=
  Keeps (fun world => world.server.con.closed = false) (fun _ => True) inner

private theorem assignAddress_leaves (setup : Setup) : Lifecycle.Leaves (assignAddress setup) := by
  apply keeps_look.bind
  intro seen
  split
  · exact keeps_stop _ fun _ _ => trivial
  · exact keeps_stop _ fun _ _ => trivial
  · apply Keeps.bind
    · exact keeps_change fun _ unmarked => unmarked
    · exact fun _ => keeps_pure _

private theorem sendAddress_leaves (cipher : Cipher) (aes : AesSession) (ip : UInt32) :
    Lifecycle.Leaves (Lifecycle.onCon (sendIp cipher aes ip)) := by
  unfold Lifecycle.onCon Lifecycle.onServer
  apply (leaves_onCon (leaves_sendIp cipher aes ip)).within
  intro changed world
  rfl

private theorem pushRoute_leaves (setup : Setup) (address : AddressV4) :
    Lifecycle.Leaves (pushRoute setup address) := by
  apply keeps_look.bind
  intro seen
  split
  · exact keeps_change fun _ unmarked => unmarked
  · apply Keeps.bind
    · exact keeps_change fun _ unmarked => unmarked
    · exact fun _ => keeps_bind_stop _ fun _ => trivial

/-- Nor has a registration. -/
private theorem register_leaves (setup : Setup) (aes : AesSession) :
    Lifecycle.Leaves (register setup aes) := by
  apply (assignAddress_leaves setup).bind
  intro address
  apply (sendAddress_leaves _ _ _).bind
  intro aes
  exact (pushRoute_leaves setup address).bind fun _ => keeps_pure _

/-- Nor has a pass of the data exchange. -/
private theorem exchangePass_leaves (cipher : Cipher) (aes : AesSession) :
    Keeps (fun server : Server => server.con.closed = false) (fun _ => True) (exchangePass cipher aes) := by
  apply (leaves_onCon leaves_waitData).bind
  intro found
  split
  · exact keeps_pure _
  · exact keeps_pure _
  · have header : Leaves (readHeader cipher aes) := by
      apply (leaves_readSomeReliable _ _ _).bind
      intro readCrypt
      apply (leaves_decrypted _ _).bind
      intro size
      dsimp only
      split
      · exact leaves_stop _
      · exact keeps_pure _
    have packet (aes : AesSession) (readRaw : Nat) : Leaves (readPacket cipher aes readRaw) :=
      (leaves_readSomeReliable _ _ _).bind fun _ => leaves_decrypted _ _
    apply (leaves_onCon header).bind
    intro size
    apply (leaves_onCon (packet _ _)).bind
    intro read
    apply Keeps.bind
    · exact keeps_within (fun _ _ unmarked => unmarked) fun _ _ _ => trivial
    · exact fun _ => keeps_pure _

private theorem exchange_leaves {cipher : Cipher} {start finish : Server × AesSession}
    {reads : List (Option Nat)} (steps : (exchange cipher).Steps start reads finish)
    (unmarked : start.1.con.closed = false) : finish.1.con.closed = false := by
  induction steps with
  | refl => exact unmarked
  | next _ step ih => exact (exchangePass_leaves _ _).ends _ _ _ ih step

/-! ### Which offences close the connection -/

/-- What comes after the try block leaves the connection as it is. -/
theorem startConnection_server (setup : Setup) (world : Lifecycle) :
    ((startConnection setup).run world).2.server = ((tryBlock setup).run world).2.server := by
  have afterwards (returned : Bool) (after : Lifecycle) :
      ((if returned then pure () else (look >>= fun seen =>
        match seen.assignedAddress with
        | none => pure ()
        | some address => unregister setup address) : Coroutine Lifecycle Unit).run after).2.server =
        after.server := by
    cases returned with
    | true => rfl
    | false =>
      cases assigned : after.assignedAddress with
      | none => simp [assigned]
      | some address =>
        simp only [Bool.false_eq_true, if_false, bind_look_run, assigned, unregister]
        split <;> rfl
  cases ran : (tryBlock setup).run world with
  | mk answer after =>
    by_cases thrown : ∃ what, answer = .error (.throws what)
    · obtain ⟨what, rfl⟩ := thrown
      rw [startConnection, bind_ok (tryCatch_throws ran)]
      exact afterwards false _
    · have quiet : ∀ what, answer ≠ .error (.throws what) := fun what same => thrown ⟨what, same⟩
      cases answer with
      | ok returned =>
        rw [startConnection, bind_ok (tryCatch_body ran quiet)]
        exact afterwards returned after
      | error how => rw [startConnection, bind_error (tryCatch_body ran quiet)]

private theorem tryBlock_unkeyed {active : Bool} {how : Stop}
    (probed : isActiveNolock.run world.server.con = (.ok active, con))
    (stops : (exchangeAESkey setup.rsa).run con = (.error how, con')) :
    (tryBlock setup).run world =
      (.error how, { world with server := { world.server with con := con' } }) := by
  rw [tryBlock, bind_ok (Lifecycle.onCon_run probed), bind_error (Lifecycle.onCon_run stops)]

private theorem tryBlock_unread {how : Stop} (keyed : Keyed setup world aes con)
    (stops : (authenticateUser setup.cipher setup.allowedLogins aes).run con = (.error how, con')) :
    (tryBlock setup).run world =
      (.error how, { world with server := { world.server with con := con' } }) := by
  obtain ⟨active, mid, probed, exchanged⟩ := bind_run_ok keyed
  rw [tryBlock, bind_ok (Lifecycle.onCon_run probed), bind_ok (Lifecycle.onCon_run exchanged),
    bind_error (Lifecycle.onCon_run stops)]

private theorem tryBlock_denied {aes' : AesSession} (keyed : Keyed setup world aes con)
    (refused : (authenticateUser setup.cipher setup.allowedLogins aes).run con =
      (.ok (false, aes'), con')) :
    ((tryBlock setup).run world).2.server.con =
      ((Connection.close (utf8 "Access denied")).run con').2 := by
  obtain ⟨active, mid, probed, exchanged⟩ := bind_run_ok keyed
  rw [tryBlock, bind_ok (Lifecycle.onCon_run probed), bind_ok (Lifecycle.onCon_run exchanged),
    bind_ok (Lifecycle.onCon_run refused)]
  dsimp only
  rw [if_pos Bool.not_false, bind_still (by intros; rfl)]
  rfl

private theorem tryBlock_exchanging {started : Lifecycle} {server : Server} {how : Stop}
    (admitted : Admitted setup world aes started)
    (stops : (performDataExchange setup.cipher setup.passes aes).run started.server =
      (.error how, server)) :
    ((tryBlock setup).run world).2.server = server := by
  obtain ⟨aes₁, con₁, aes₂, con₂, keyed, allowed, registered⟩ := admitted
  obtain ⟨active, mid, probed, exchanged⟩ := bind_run_ok keyed
  rw [tryBlock, bind_ok (Lifecycle.onCon_run probed), bind_ok (Lifecycle.onCon_run exchanged),
    bind_ok (Lifecycle.onCon_run allowed)]
  dsimp only
  rw [if_neg (by simp), bind_ok registered, bind_error (Lifecycle.onServer_run stops)]

private theorem keyed_leaves (keyed : Keyed setup world aes con)
    (fresh : world.server.con.closed = false) : con.closed = false :=
  (leaves_isActiveNolock.bind fun _ => leaves_exchangeAESkey setup.rsa).ends _ _ _ fresh keyed

private theorem admitted_leaves {started : Lifecycle} (admitted : Admitted setup world aes started)
    (fresh : world.server.con.closed = false) : started.server.con.closed = false := by
  obtain ⟨aes₁, con₁, aes₂, con₂, keyed, allowed, registered⟩ := admitted
  have authenticated := (leaves_authenticateUser _ _ _).ends _ _ _ (keyed_leaves keyed fresh) allowed
  exact (register_leaves setup aes₂).ends _ _ _ authenticated registered

/-- A first header that is not 256 ends the key exchange behind a `close`. -/
private theorem exchangeAESkey_wrong (rsa : Rsa) {header : Bytes}
    (read : (Connection.readSomeReliable 4 0 "error read on key exchange: ").run con =
      (.ok header, con'))
    (wrong : expectedFirstMsgSize ≠ (decode header).toNat) :
    ∃ how, (exchangeAESkey rsa).run con =
      (.error how, ((Connection.close (utf8 "Protocol violation")).run con').2) := by
  rw [exchangeAESkey, bind_ok read, if_pos wrong]
  exact bind_stop_run _ _ _

/-- A block without a key in it ends the key exchange where it was read. -/
private theorem exchangeAESkey_unopened {rsa : Rsa} {con'' : Connection} {header aesKeyUnderRsa : Bytes}
    (read : (Connection.readSomeReliable 4 0 "error read on key exchange: ").run con =
      (.ok header, con'))
    (right : expectedFirstMsgSize = (decode header).toNat)
    (block : (Connection.readSomeReliable expectedFirstMsgSize 0 "error read on key exchange: ").run
      con' = (.ok aesKeyUnderRsa, con''))
    (unopened : ∀ aesKeyRaw, rsa.decrypt aesKeyUnderRsa = .ok aesKeyRaw → aesKeyRaw.length ≠ 64) :
    ∃ what, (exchangeAESkey rsa).run con = (.error (.throws what), con'') := by
  rw [exchangeAESkey, bind_ok read, if_neg (not_not.mpr right), bind_ok block]
  cases opened : rsa.decrypt aesKeyUnderRsa with
  | error text => exact ⟨_, rfl⟩
  | ok aesKeyRaw =>
    dsimp only
    rw [if_pos (unopened _ opened)]
    exact ⟨_, rfl⟩

/-- A login header above 200 ends the authentication where it was read. -/
private theorem authenticateUser_tooLong {cipher : Cipher} (allowedLogins : List Bytes) {header : Bytes}
    (read : (Connection.readSomeReliable 4 0 "error read on authentication: ").run con =
      (.ok header, con'))
    (tooLong : 200 < headerSize cipher aes header) :
    (authenticateUser cipher allowedLogins aes).run con =
      (.error (.throws "they on trees jonny"), con') := by
  have four : header.length = 4 := (readSomeReliable_ok read).2
  rw [authenticateUser, bind_ok read, AesSession.decrypt_ok (by omega)]
  simp only [decrypted, bind_pure_run]
  rw [← headerSize, if_pos tooLong, throw_run]

/-- A header above 1500 ends the data exchange where it was read. -/
private theorem performDataExchange_tooLong {cipher : Cipher} {start finish : Server × AesSession}
    {reads : List (Option Nat)} {passes : Nat} {header : Bytes}
    (goes : (exchange cipher).Steps start reads finish) (within : reads.length < passes)
    (found : waitData.run finish.1.con = (.ok (some true), con))
    (read : (Connection.readSomeReliable 4 0 "error read on data exchange: ").run con =
      (.ok header, con'))
    (tooLong : maxBoundsSize < headerSize cipher finish.2 header) :
    (performDataExchange cipher passes start.2).run start.1 =
      (.error (.throws "they on trees jonny"), { finish.1 with con := con' }) := by
  obtain ⟨more, rfl⟩ : ∃ more, passes = reads.length + (more + 1) :=
    ⟨passes - reads.length - 1, by omega⟩
  have four : header.length = 4 := (readSomeReliable_ok read).2
  have stops : (readHeader cipher finish.2).run con =
      (.error (.throws "they on trees jonny"), con') := by
    rw [readHeader, bind_ok read, AesSession.decrypt_ok (by omega)]
    simp only [decrypted, bind_pure_run]
    rw [← headerSize, if_pos tooLong, throw_run]
  have pass : (exchangePass cipher finish.2).run finish.1 =
      (.error (.throws "they on trees jonny"), { finish.1 with con := con' }) := by
    rw [exchangePass, bind_ok (Server.onCon_run found)]
    exact bind_error (Server.onCon_run stops)
  rw [exchange_tops goes, performDataExchange_succ, bind_error pass]

/-- What the try block makes of an offence: the connection is marked exactly for
a wrong first header and for a login that is not in the list. -/
private theorem tryBlock_closed (fresh : world.server.con.closed = false)
    (meets : Meets setup world offence) :
    ((tryBlock setup).run world).2.server.con.closed =
      decide (offence = .firstHeader ∨ offence = .login) := by
  cases meets with
  | @firstHeader active con con' header probed read wrong =>
    obtain ⟨how, refuses⟩ := exchangeAESkey_wrong setup.rsa read wrong
    rw [tryBlock_unkeyed probed refuses]
    exact close_closed _ con'
  | @sealedBlock active con con' con'' header aesKeyUnderRsa probed read right block unopened =>
    have mark := leaves_isActiveNolock.ends _ _ _ fresh probed
    have mark' := (leaves_readSomeReliable _ _ _).ends _ _ _ mark read
    have mark'' := (leaves_readSomeReliable _ _ _).ends _ _ _ mark' block
    obtain ⟨what, stops⟩ := exchangeAESkey_unopened read right block unopened
    rw [tryBlock_unkeyed probed stops]
    exact mark''
  | @loginHeader aes con con' header keyed read tooLong =>
    have mark := (leaves_readSomeReliable _ _ _).ends _ _ _ (keyed_leaves keyed fresh) read
    rw [tryBlock_unread keyed (authenticateUser_tooLong _ read tooLong)]
    exact mark
  | login keyed refused =>
    rw [tryBlock_denied keyed refused]
    exact close_closed _ _
  | @dataHeader aes aes' started server reads con con' header admitted goes within found read tooLong =>
    have mark := exchange_leaves goes (admitted_leaves admitted fresh)
    have mark' := leaves_waitData.ends _ _ _ mark found
    have mark'' := (leaves_readSomeReliable _ _ _).ends _ _ _ mark' read
    rw [tryBlock_exchanging admitted (performDataExchange_tooLong goes within found read tooLong)]
    exact mark''

/-- The key exchange over the bytes a peer sends. -/
theorem keyed_delivers {sealed block rest : Bytes} {ending : List Arrival}
    (delivers : Delivers world.server.con.socket (encode 256 ++ (sealed ++ rest)) ending)
    (length : sealed.length = 256) (opens : setup.rsa.decrypt sealed = .ok block)
    (whole : block.length = 64) :
    ∃ socket, Keyed setup world (sessionOf block) { world.server.con with socket := socket } ∧
      Delivers socket rest ending := by
  obtain ⟨socket, probed, delivers'⟩ :=
    isActiveNolock_delivers world.server.con delivers (by simp [encode])
  have delivers' : Delivers ({ world.server.con with socket := socket } : Connection).socket
      (encode 256 ++ (sealed ++ rest)) ending := delivers'
  obtain ⟨socket', keyed, delivers'', _, _⟩ := exchangeAESkey_opens delivers' length opens whole
  exact ⟨socket', (bind_ok probed).trans keyed, delivers''⟩

/-- **A peer that breaks the protocol is disconnected for two of its five
offences.** Whatever the server has read before, however it was cut, and however
`startConnection` goes on from there: `close` has been called on the connection
exactly if the first header was not 256 or the login is not in the list. -/
theorem rejection_closes_iff (setup : Setup) (world : Lifecycle) (offence : Offence)
    (fresh : world.server.con.closed = false) (meets : Meets setup world offence) :
    ((startConnection setup).run world).2.server.con.closed = true ↔
      offence = .firstHeader ∨ offence = .login := by
  rw [startConnection_server, tryBlock_closed fresh meets, decide_eq_true_iff]

/-- One configured login. -/
def oneListed : Setup where
  cipher := plain
  rsa := paddingRsa
  allowedLogins := [utf8 "login"]
  diagnostics := false
  passes := 1
  connection := 0
  aes := 0

/-- A peer that gives a key of zeros, and then this. -/
def keyedPeer (more : Bytes) : Lifecycle where
  server := { con := { socket := { arrivals :=
    [.bytes ⟨encode 256 ++ (List.replicate 256 0 ++ more),
      List.append_ne_nil_of_left_ne_nil (by simp [encode]) _⟩] } } }

private theorem keyedPeer_keyed (more : Bytes) :
    ∃ socket, Keyed oneListed (keyedPeer more) (sessionOf (List.replicate 64 0)) { socket := socket } ∧
      Delivers socket more [] := by
  have opens : oneListed.rsa.decrypt (List.replicate 256 0) = .ok (List.replicate 64 0) :=
    congrArg Except.ok (List.take_replicate ..)
  have arrives : Delivers (keyedPeer more).server.con.socket
      (encode 256 ++ (List.replicate 256 0 ++ more)) [] := delivers_segment _
  exact keyed_delivers arrives List.length_replicate opens List.length_replicate

/-- A stranger is disconnected. -/
theorem rejection_closes_stranger :
    ((startConnection oneListed).run (keyedPeer [1, 0, 0, 0, 7])).2.server.con.closed = true := by
  obtain ⟨socket, keyed, delivers⟩ := keyedPeer_keyed [1, 0, 0, 0, 7]
  have delivers' : Delivers ({ socket } : Connection).socket
      (sealedLogin plain (sessionOf (List.replicate 64 0)) [7] ++ []) [] := delivers
  obtain ⟨socket', refused, _⟩ :=
    authenticateUser_delivers oneListed.allowedLogins delivers' (by decide)
  exact (rejection_closes_iff oneListed _ .login rfl (.login keyed refused)).mpr (.inr rfl)

/-- What the exception of a try block that got no address comes to. -/
theorem startConnection_throws {what : String} {after : Lifecycle}
    (throws : (tryBlock setup).run world = (.error (.throws what), after))
    (unassigned : after.assignedAddress = none) :
    (startConnection setup).run world = (.ok (), { after with
      log := after.log ++ ["exception in startConnection (lifecycle): " ++ what] }) := by
  rw [startConnection, bind_ok (tryCatch_throws throws)]
  simp [unassigned]

/-- The session is over, and its connection was never closed. -/
def StaysOpen (setup : Setup) (world : Lifecycle) : Prop :=
  ∃ after, (startConnection setup).run world = (.ok (), after) ∧
    after.server.con.closed = false ∧ after.server.con.socket.isOpen = true

/-- Whoever brings a block that does not decrypt stays connected when the session is over. -/
theorem sealed_block_stays_open {sealed rest : Bytes} {ending : List Arrival}
    (delivers : Delivers world.server.con.socket (encode 256 ++ (sealed ++ rest)) ending)
    (length : sealed.length = 256)
    (unopened : ∀ aesKeyRaw, setup.rsa.decrypt sealed = .ok aesKeyRaw → aesKeyRaw.length ≠ 64)
    (fresh : world.server.con.closed = false) (unassigned : world.assignedAddress = none) :
    Meets setup world .sealedBlock ∧ StaysOpen setup world := by
  obtain ⟨probed, active, delivers₁⟩ :=
    isActiveNolock_delivers world.server.con delivers (by simp [encode])
  obtain ⟨behind, read, delivers₂, _⟩ :=
    readSomeReliable_header { world.server.con with socket := probed } "error read on key exchange: "
      delivers₁ (encode_length _)
  obtain ⟨socket, block, delivers₃, _⟩ :=
    readSomeReliable_delivers { world.server.con with socket := behind } expectedFirstMsgSize 0
      "error read on key exchange: " delivers₂ length.symm (by decide) (by decide)
  have right : expectedFirstMsgSize = (decode (encode 256)).toNat := by
    rw [decode_encode]
    rfl
  obtain ⟨what, stops⟩ := exchangeAESkey_unopened read right block unopened
  exact ⟨.sealedBlock active read right block unopened, _,
    startConnection_throws (tryBlock_unkeyed active stops) unassigned, fresh, delivers₃.isOpen⟩

/-- The server's key as it is: the buffer is too small for what the size query asks for. -/
def smallBuffer : Setup :=
  { oneListed with
    rsa := { paddingRsa with decrypt := fun _ => .error "buffer size (decrypt len > buffer.size)" } }

/-- A peer whose block does not decrypt stays connected when its session is over, and with a
key that decrypts one whose login header is 201. -/
theorem rejected_stay_open :
    (Meets smallBuffer (keyedPeer []) .sealedBlock ∧ StaysOpen smallBuffer (keyedPeer [])) ∧
      Meets oneListed (keyedPeer [201, 0, 0, 0]) .loginHeader ∧
      StaysOpen oneListed (keyedPeer [201, 0, 0, 0]) := by
  have arrives : Delivers (keyedPeer []).server.con.socket
      (encode 256 ++ (List.replicate 256 0 ++ [])) [] := delivers_segment _
  refine ⟨sealed_block_stays_open arrives List.length_replicate (fun _ opened => ?_) rfl rfl, ?_⟩
  · cases opened
  obtain ⟨socket, keyed, delivers⟩ := keyedPeer_keyed [201, 0, 0, 0]
  have delivers' : Delivers ({ socket } : Connection).socket ([201, 0, 0, 0] ++ []) [] := delivers
  obtain ⟨socket', read, delivers'', _⟩ :=
    readSomeReliable_header _ "error read on authentication: " delivers' rfl
  have tooLong : 200 < headerSize plain (sessionOf (List.replicate 64 0)) [201, 0, 0, 0] := by
    rw [headerSize]
    decide
  exact ⟨.loginHeader keyed read tooLong, _, startConnection_throws
    (tryBlock_unread keyed (authenticateUser_tooLong _ read tooLong)) rfl, rfl, delivers''.isOpen⟩

end Vpverk.Rejection
