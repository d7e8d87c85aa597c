import Vpverk.ClientLoops
import Vpverk.Transition

/-! `startTunRead` and `startSocketRead` from one await to the next, and the signal
handler, which requests stop and cancels what waits for the socket. The two run in
any order; what their awaits bring is left open. -/
namespace Vpverk.ClientShutdown
open Transition Octets Asioapi Peer
open ClientLoops (errorMark)

/-- Whether the process lives. -/
inductive Fate where
  | lives
  | aborted (info : String)
  | undefined
  deriving DecidableEq

/-- Where `startTunRead` is suspended. -/
inductive TunAwait where
  /-- In `Tun::read`. -/
  | tun
  /-- In a write of `send`, with what is left of its buffer. -/
  | send (rest : Bytes) (cancelled : Bool)
  | left

/-- Where `startSocketRead` is suspended. -/
inductive SocketAwait where
  /-- In a read of `read_block_size`, with what it has of the header. -/
  | header (wasRead : Bytes) (cancelled : Bool)
  /-- In a read of the packet. -/
  | payload (readSize : Nat) (wasRead : Bytes) (cancelled : Bool)
  /-- In `Tun::write`. -/
  | tunWrite (ipPacket : Bytes)
  | left

/-- The client between two resumptions. -/
structure Client where
  aes : AesSession
  stopRequested : Bool := false
  tunRead : TunAwait := .tun
  socketRead : SocketAwait := .header [] false
  fate : Fate := .lives

/-- What `reliable_is_open` answers before a read or a `send`. -/
abbrev Looked := Except ErrorCode Bool

/-- The catch block of either coroutine, or an assertion. -/
def Client.abort (client : Client) (info : String) : Client := { client with fate := .aborted info }

/-! ### `startTunRead` -/

/-- Its loop test. -/
def Client.tunLoop (client : Client) : Client :=
  { client with tunRead := if client.stopRequested then .left else .tun }

/-- Its `send` has come back. -/
def Client.sent (client : Client) : Except ErrorCode Unit → Client
  | .ok () | .error .operationCanceled => client.tunLoop
  | .error code => client.abort code.message

/-- Its `Tun::read` has come back. -/
def Client.tunReads (cipher : Cipher) (client : Client) (looked : Looked) : TunRead → Client
  | .timeout => client.tunLoop
  | .throws what => client.abort what
  | .packet packet =>
    match client.aes.encrypt cipher (encode packet.bytes.length.toUInt32 ++ packet.bytes)
      (maxPacket + 4) with
    | .error code => client.abort code.message
    | .ok (crypt, aes) =>
      match looked with
      | .ok true => { client with aes := aes, tunRead := .send crypt false }
      | .ok false => { client with aes := aes }.sent (.error .connectionReset)
      | .error code => { client with aes := aes }.sent (.error code)

/-- A write of its `send` has come back. -/
def Client.written (client : Client) (rest : Bytes) : Except ErrorCode Nat → Client
  | .error code => client.sent (.error code)
  | .ok sendBytes =>
    if rest.length ≤ sendBytes then client.sent (.ok ())
    else { client with tunRead := .send (rest.drop sendBytes) false }

/-! ### `startSocketRead` -/

/-- `read_some` goes on to a read, if the socket is open. -/
def Client.readsOn (client : Client) (looked : Looked) (await : SocketAwait)
    (fails : ErrorCode → Client) : Client :=
  match looked with
  | .ok true => { client with socketRead := await }
  | .ok false => fails .connectionReset
  | .error code => fails code

/-- Its loop test. -/
def Client.socketLoop (client : Client) (looked : Looked) : Client :=
  if client.stopRequested then { client with socketRead := .left }
  else client.readsOn looked (.header [] false) fun code => client.abort code.message

/-- `read_block_size` has returned. A handler that it has left behind resumes the
coroutine in its next await, whose answer is not there yet. -/
def Client.sized (asserts : Bool) (client : Client) (looked : Looked) (readSize : Nat) (stray : Bool) :
    Client :=
  if asserts ∧ ¬ readSize > maxPacket then client.abort "read_size > max_possible_ip_packet_size"
  else if maxPacket < readSize then client.abort ErrorCode.noBufferSpace.message
  else
    let awaits := client.readsOn looked (.payload readSize [] false) fun code =>
      client.abort code.message
    if stray ∧ awaits.fate = .lives then { awaits with fate := .undefined } else awaits

/-- The header is read, or its read has failed. After the error mark the next bytes are
peeked at. -/
def Client.headerRead (asserts : Bool) (cipher : Cipher) (client : Client) (looked : Looked)
    (peeked : Bytes) : Except ErrorCode Bytes → Client
  | .error code => client.abort code.message
  | .ok sizeCrypted =>
    match client.aes.decrypt cipher sizeCrypted 4 with
    | .error code => client.abort code.message
    | .ok (raw, aes) =>
      if decode sizeCrypted = errorMark ∧ peeked = utf8 "_Error: " then
        match looked with
        | .ok true => { client with aes := aes, fate := .undefined }
        | .ok false => { client with aes := aes }.abort ErrorCode.connectionReset.message
        | .error code => { client with aes := aes }.abort code.message
      else
        { client with aes := aes }.sized asserts looked (decode raw).toNat
          (decode sizeCrypted = errorMark)

/-- The packet is read, or its read has failed. -/
def Client.payloadRead (cipher : Cipher) (client : Client) (looked : Looked) (readSize : Nat) :
    Except ErrorCode Bytes → Client
  | .error .operationCanceled => client.socketLoop looked
  | .error code => client.abort code.message
  | .ok bytes =>
    match client.aes.decrypt cipher (bytes.take readSize) maxPacket with
    | .error code => client.abort code.message
    | .ok (raw, aes) => { client with aes := aes, socketRead := .tunWrite raw }

/-- A read of `read_some` has come back: it goes on until it has what it needs, and
its caller with it. -/
def Client.someRead (client : Client) (looked : Looked) (needRead : Nat) (wasRead : Bytes)
    (await : Bytes → SocketAwait) (caller : Except ErrorCode Bytes → Client) :
    Except ErrorCode Bytes → Client
  | .error code => caller (.error code)
  | .ok bytes =>
    if needRead ≤ (wasRead ++ bytes).length then caller (.ok (wasRead ++ bytes))
    else client.readsOn looked (await (wasRead ++ bytes)) fun code => caller (.error code)

/-! ### Any order -/

/-- What happens next. -/
inductive Event where
  /-- `Tun::read` comes back. -/
  | tunRead (answer : TunRead) (looked : Looked)
  /-- A write to the socket comes back. -/
  | written (answer : Except ErrorCode Nat)
  /-- A read of the socket comes back. -/
  | read (answer : Except ErrorCode Bytes) (looked : Looked) (peeked : Bytes)
  /-- `Tun::write` comes back, or throws. -/
  | tunWritten (throws : Option String) (looked : Looked)
  /-- The signal handler runs. An operation that has ended already and has only its
  handler left to run is not caught by the cancel. -/
  | signal (catchesWrite catchesRead : Bool)

inductive Label where
  /-- The signal has, or has not, found `startSocketRead` in the read of a header, and its
  cancel catches what is being read from the socket, or does not. -/
  | signalled (atHeader catchesRead : Bool)
  /-- Something has failed of itself: an operation of the tun or of the socket, or the
  server has sent an error or a packet too long. -/
  | disturbed
  | quiet
  deriving DecidableEq, Repr

def TunAwait.cancel (catches : Bool) : TunAwait → TunAwait
  | .send rest cancelled => .send rest (cancelled || catches)
  | await => await

def SocketAwait.cancel (catches : Bool) : SocketAwait → SocketAwait
  | .header wasRead cancelled => .header wasRead (cancelled || catches)
  | .payload readSize wasRead cancelled => .payload readSize wasRead (cancelled || catches)
  | await => await

def SocketAwait.atHeader : SocketAwait → Bool
  | .header .. => true
  | .payload .. | .tunWrite _ | .left => false

/-- `signals_handle`. Its wait is taken to end with a signal: the `signal_set` is local to
`startAsync`, and that it lives as long as the context runs is up to `cvk::future`, which is not
under `src/`. Were it gone with the frame, the handler would be called with an error at once, and
abort ("signal handler: ..."): that branch is left out. -/
def Client.signal (client : Client) (catchesWrite catchesRead : Bool) : Client × Label :=
  ({ client with
      stopRequested := true
      tunRead := client.tunRead.cancel catchesWrite
      socketRead := client.socketRead.cancel catchesRead },
    .signalled client.socketRead.atHeader catchesRead)

/-- What an operation may answer: once it is cancelled, that it was. -/
def mayAnswer {α : Type} (cancelled : Bool) (sound : α → Bool) : Except ErrorCode α → Bool
  | .ok value => !cancelled && sound value
  | .error code => !cancelled || code == .operationCanceled

/-- An error that no cancel has made. -/
def failed {α : Type} (cancelled : Bool) : Except ErrorCode α → Bool
  | .ok _ => false
  | .error _ => !cancelled

def Looked.closed : Looked → Bool
  | .ok true => false
  | .ok false | .error _ => true

/-- The header tells of a packet, and not of one too long. -/
def Client.announces (cipher : Cipher) (client : Client) (sizeCrypted : Bytes) : Bool :=
  decode sizeCrypted ≠ errorMark ∧
    (decode (mask (cipher client.aes.key client.aes.decryptIv) client.aes.decrypted
      sizeCrypted)).toNat ≤ maxPacket

def disturbs (disturbance : Bool) : Label := if disturbance then .disturbed else .quiet

/-- A read of the socket comes back to `startSocketRead`. -/
def Client.reads (asserts : Bool) (cipher : Cipher) (client : Client) (answer : Except ErrorCode Bytes)
    (looked : Looked) (peeked : Bytes) : Option (Client × Label) :=
  match client.socketRead with
  | .header wasRead cancelled =>
    if mayAnswer cancelled (fun bytes => 0 < bytes.length ∧ (wasRead ++ bytes).length ≤ 4) answer then
      let unannounced := match answer with
        | .ok bytes => 4 ≤ (wasRead ++ bytes).length ∧ !client.announces cipher (wasRead ++ bytes)
        | .error _ => false
      some (client.someRead looked 4 wasRead (.header · false)
          (client.headerRead asserts cipher looked peeked) answer,
        disturbs (failed cancelled answer || looked.closed || unannounced))
    else none
  | .payload readSize wasRead cancelled =>
    if mayAnswer cancelled (fun bytes => 0 < bytes.length ∧
        (wasRead ++ bytes).length ≤ needed maxPacket readSize) answer then
      some (client.someRead looked (needed maxPacket readSize) wasRead (.payload readSize · false)
          (client.payloadRead cipher looked readSize) answer,
        disturbs (failed cancelled answer || looked.closed))
    else none
  | .tunWrite _ | .left => none

/-- The client, with or without its assertions. -/
def machine (asserts : Bool) (cipher : Cipher) (aes : AesSession) : Machine Client Event Label where
  initial := { aes }
  step client event :=
    if client.fate = .lives then
      match event with
      | .tunRead answer looked =>
        match client.tunRead with
        | .tun => some (client.tunReads cipher looked answer,
            disturbs (looked.closed || answer matches .throws _))
        | .send .. | .left => none
      | .written answer =>
        match client.tunRead with
        | .send rest cancelled =>
          if mayAnswer cancelled (fun sendBytes => 0 < sendBytes ∧ sendBytes ≤ rest.length) answer then
            some (client.written rest answer, disturbs (failed cancelled answer))
          else none
        | .tun | .left => none
      | .read answer looked peeked => client.reads asserts cipher answer looked peeked
      | .tunWritten throws looked =>
        match client.socketRead with
        | .tunWrite _ =>
          some (match throws with
            | none => client.socketLoop looked
            | some what => client.abort what, disturbs (throws.isSome || looked.closed))
        | .header .. | .payload .. | .left => none
      | .signal catchesWrite catchesRead =>
        if client.stopRequested then none else some (client.signal catchesWrite catchesRead)
    else none

/-! ### How far a coroutine is from its end -/

/-- At most so many resumptions are left once stop is requested. -/
def TunAwait.rank : TunAwait → Nat
  | .tun => maxPacket + 6
  | .send rest _ => rest.length + 1
  | .left => 0

def SocketAwait.rank : SocketAwait → Nat
  | .header .. | .payload .. | .tunWrite _ => 1
  | .left => 0

def Client.rank (client : Client) : Nat := client.tunRead.rank + client.socketRead.rank

/-- A read of a packet, which only the server or a cancel brings to an end. -/
def SocketAwait.atPayload : SocketAwait → Bool
  | .payload .. => true
  | .header .. | .tunWrite _ | .left => false

/-- `startSocketRead` waits for nothing more of the server: it has left its loop, or is in
`Tun::write`, or in a read of a packet that has been cancelled. -/
def SocketAwait.released : SocketAwait → Bool
  | .payload _ _ cancelled => cancelled
  | .tunWrite _ | .left => true
  | .header .. => false

variable {asserts : Bool} {cipher : Cipher} {aes : AesSession} {client after : Client} {event : Event}
  {label : Label} {looked : Looked}

theorem looked_open (sound : looked.closed = false) : looked = .ok true := by
  rcases looked with code | _ | _
  · cases sound
  · cases sound
  · rfl

theorem tunLoop_stopped (stopped : client.stopRequested = true) :
    client.tunLoop = { client with tunRead := .left } := by
  rw [Client.tunLoop, if_pos stopped]

theorem socketLoop_stopped (stopped : client.stopRequested = true) :
    client.socketLoop looked = { client with socketRead := .left } := by
  rw [Client.socketLoop, if_pos stopped]

/-- A read of the tun that does not throw ends the loop, or a packet is sent first. -/
theorem tunReads_stopped (cipher : Cipher) (answer : TunRead) (stopped : client.stopRequested = true)
    (sound : looked.closed = false) (quiet : ∀ what, answer ≠ .throws what) :
    ∃ aes await, client.tunReads cipher looked answer =
        { client with aes := aes, tunRead := await } ∧ await.rank < TunAwait.tun.rank := by
  obtain rfl := looked_open sound
  cases answer with
  | timeout => exact ⟨client.aes, .left, tunLoop_stopped stopped, Nat.succ_pos _⟩
  | throws what => exact absurd rfl (quiet what)
  | packet packet =>
    have length : (encode packet.bytes.length.toUInt32 ++ packet.bytes).length =
        packet.bytes.length + 4 := by
      rw [List.length_append, encode_length, Nat.add_comm]
    have fits := packet.fits
    rw [Client.tunReads, AesSession.encrypt_ok (by rw [length]; omega)]
    refine ⟨_, _, rfl, ?_⟩
    simp only [TunAwait.rank, mask_length, length]
    omega

theorem written_stopped {answer : Except ErrorCode Nat} {rest : Bytes} {cancelled : Bool}
    (stopped : client.stopRequested = true) (quiet : failed cancelled answer = false)
    (may : mayAnswer cancelled (fun sendBytes => 0 < sendBytes ∧ sendBytes ≤ rest.length) answer = true) :
    ∃ await, client.written rest answer = { client with tunRead := await } ∧
      await.rank < (TunAwait.send rest cancelled).rank := by
  cases answer with
  | error code =>
    obtain rfl : cancelled = true := by simpa [failed] using quiet
    obtain rfl : code = .operationCanceled := by simpa [mayAnswer] using may
    exact ⟨.left, tunLoop_stopped stopped, Nat.succ_pos _⟩
  | ok sendBytes =>
    rw [Client.written]
    split
    · exact ⟨.left, tunLoop_stopped stopped, Nat.succ_pos _⟩
    · refine ⟨_, rfl, ?_⟩
      have some_bytes : 0 < sendBytes := by simp [mayAnswer] at may; omega
      simp only [TunAwait.rank, List.length_drop]
      omega

/-- A read of a packet that was cancelled ends the loop. -/
theorem payloadReads_cancelled {answer : Except ErrorCode Bytes} {needRead readSize : Nat}
    {wasRead : Bytes} {sound : Bytes → Bool} (stopped : client.stopRequested = true)
    (may : mayAnswer true sound answer = true) :
    client.someRead looked needRead wasRead (.payload readSize · false)
        (client.payloadRead cipher looked readSize) answer =
      { client with socketRead := .left } := by
  cases answer with
  | ok bytes => simp [mayAnswer] at may
  | error code =>
    obtain rfl : code = .operationCanceled := by simpa [mayAnswer] using may
    exact socketLoop_stopped stopped

/-! ### What a resumption leaves -/

/-- Stop is requested or not as before, and `startTunRead` stands where it stood. -/
def Client.Beside (client after : Client) : Prop :=
  after.stopRequested = client.stopRequested ∧ after.tunRead = client.tunRead

theorem readsOn_beside {before : Client} {await : SocketAwait} {fails : ErrorCode → Client}
    (same : before.Beside client) (fails_beside : ∀ code, before.Beside (fails code)) :
    before.Beside (client.readsOn looked await fails) := by
  rcases looked with code | _ | _
  · exact fails_beside code
  · exact fails_beside .connectionReset
  · exact same

theorem socketLoop_beside : client.Beside (client.socketLoop looked) := by
  unfold Client.socketLoop
  split
  · exact ⟨rfl, rfl⟩
  · exact readsOn_beside ⟨rfl, rfl⟩ fun _ => ⟨rfl, rfl⟩

theorem headerRead_beside {peeked : Bytes} (answer : Except ErrorCode Bytes) :
    client.Beside (client.headerRead asserts cipher looked peeked answer) := by
  have sized (client : Client) (readSize : Nat) (stray : Bool) :
      client.Beside (client.sized asserts looked readSize stray) := by
    unfold Client.sized
    split
    · exact ⟨rfl, rfl⟩
    · split
      · exact ⟨rfl, rfl⟩
      · have awaits : client.Beside (client.readsOn looked (.payload readSize [] false) fun code =>
            client.abort code.message) :=
          readsOn_beside ⟨rfl, rfl⟩ fun _ => ⟨rfl, rfl⟩
        dsimp only
        split <;> exact awaits
  unfold Client.headerRead
  split
  · exact ⟨rfl, rfl⟩
  · split
    · exact ⟨rfl, rfl⟩
    · split
      · split <;> exact ⟨rfl, rfl⟩
      · exact sized _ _ _

theorem payloadRead_beside {readSize : Nat} (answer : Except ErrorCode Bytes) :
    client.Beside (client.payloadRead cipher looked readSize answer) := by
  unfold Client.payloadRead
  split
  · exact socketLoop_beside
  · exact ⟨rfl, rfl⟩
  · split <;> exact ⟨rfl, rfl⟩

theorem someRead_beside {needRead : Nat} {wasRead : Bytes} {await : Bytes → SocketAwait}
    {caller : Except ErrorCode Bytes → Client} {answer : Except ErrorCode Bytes}
    (caller_beside : ∀ answer, client.Beside (caller answer)) :
    client.Beside (client.someRead looked needRead wasRead await caller answer) := by
  unfold Client.someRead
  split
  · exact caller_beside _
  · split
    · exact caller_beside _
    · exact readsOn_beside ⟨rfl, rfl⟩ fun _ => caller_beside _

/-- `startTunRead` has no say in how the other is suspended. -/
theorem tunReads_socketRead (answer : TunRead) :
    (client.tunReads cipher looked answer).socketRead = client.socketRead ∧
      (client.tunReads cipher looked answer).stopRequested = client.stopRequested := by
  unfold Client.tunReads Client.sent
  repeat' split
  all_goals exact ⟨rfl, rfl⟩

theorem written_socketRead {rest : Bytes} (answer : Except ErrorCode Nat) :
    (client.written rest answer).socketRead = client.socketRead ∧
      (client.written rest answer).stopRequested = client.stopRequested := by
  unfold Client.written Client.sent
  repeat' split
  all_goals exact ⟨rfl, rfl⟩

/-! ### One step -/

/-- What a step is. -/
inductive Resumes (asserts : Bool) (cipher : Cipher) (client : Client) (label : Label) :
    Client → Prop where
  | tunRead (answer : TunRead) (looked : Looked) (await : client.tunRead = .tun)
      (told : label = disturbs (looked.closed || answer matches .throws _)) :
      Resumes asserts cipher client label (client.tunReads cipher looked answer)
  | written {rest cancelled} (answer : Except ErrorCode Nat)
      (await : client.tunRead = .send rest cancelled)
      (may : mayAnswer cancelled (fun sendBytes => 0 < sendBytes ∧ sendBytes ≤ rest.length) answer = true)
      (told : label = disturbs (failed cancelled answer)) :
      Resumes asserts cipher client label (client.written rest answer)
  | header {wasRead cancelled} (answer : Except ErrorCode Bytes) (looked : Looked) (peeked : Bytes)
      (unannounced : Bool) (await : client.socketRead = .header wasRead cancelled)
      (may : mayAnswer cancelled (fun bytes => 0 < bytes.length ∧ (wasRead ++ bytes).length ≤ 4)
        answer = true)
      (announced : unannounced = false → ∀ bytes, answer = .ok bytes → 4 ≤ (wasRead ++ bytes).length →
        client.announces cipher (wasRead ++ bytes) = true)
      (told : label = disturbs (failed cancelled answer || looked.closed || unannounced)) :
      Resumes asserts cipher client label (client.someRead looked 4 wasRead (.header · false)
        (client.headerRead asserts cipher looked peeked) answer)
  | payload {readSize wasRead cancelled} (answer : Except ErrorCode Bytes) (looked : Looked)
      (await : client.socketRead = .payload readSize wasRead cancelled)
      (may : mayAnswer cancelled (fun bytes => 0 < bytes.length ∧
        (wasRead ++ bytes).length ≤ needed maxPacket readSize) answer = true)
      (told : label = disturbs (failed cancelled answer || looked.closed)) :
      Resumes asserts cipher client label (client.someRead looked (needed maxPacket readSize) wasRead
        (.payload readSize · false) (client.payloadRead cipher looked readSize) answer)
  | tunWritten {ipPacket} (looked : Looked) (await : client.socketRead = .tunWrite ipPacket)
      (told : label = disturbs looked.closed) :
      Resumes asserts cipher client label (client.socketLoop looked)
  | tunThrows (what : String) (told : label = .disturbed) :
      Resumes asserts cipher client label (client.abort what)
  | signalled (catchesWrite catchesRead : Bool) (unrequested : client.stopRequested = false)
      (told : label = .signalled client.socketRead.atHeader catchesRead) :
      Resumes asserts cipher client label (client.signal catchesWrite catchesRead).1

theorem step_resumes (stepped : (machine asserts cipher aes).step client event = some (after, label)) :
    client.fate = .lives ∧ Resumes asserts cipher client label after := by
  obtain ⟨lives, stepped⟩ := Option.ite_none_right_eq_some.mp stepped
  refine ⟨lives, ?_⟩
  cases event with
  | tunRead answer looked =>
    dsimp only at stepped
    split at stepped
    · cases stepped
      exact .tunRead answer looked ‹_› rfl
    · cases stepped
    · cases stepped
  | written answer =>
    dsimp only at stepped
    split at stepped
    · obtain ⟨may, stepped⟩ := Option.ite_none_right_eq_some.mp stepped
      cases stepped
      exact .written answer ‹_› may rfl
    · cases stepped
    · cases stepped
  | read answer looked peeked =>
    change client.reads asserts cipher answer looked peeked = _ at stepped
    unfold Client.reads at stepped
    split at stepped
    · obtain ⟨may, stepped⟩ := Option.ite_none_right_eq_some.mp stepped
      cases stepped
      refine .header answer looked peeked _ ‹_› may ?_ rfl
      rintro announced bytes rfl whole
      simpa [-List.length_append, whole] using announced
    · obtain ⟨may, stepped⟩ := Option.ite_none_right_eq_some.mp stepped
      cases stepped
      exact .payload answer looked ‹_› may rfl
    · cases stepped
    · cases stepped
  | tunWritten throws looked =>
    dsimp only at stepped
    split at stepped
    · cases throws with
      | none =>
        cases stepped
        exact .tunWritten looked ‹_› rfl
      | some what =>
        cases stepped
        exact .tunThrows what rfl
    · cases stepped
    · cases stepped
    · cases stepped
  | signal catchesWrite catchesRead =>
    dsimp only at stepped
    split at stepped
    · cases stepped
    · rename_i unrequested
      cases stepped
      exact .signalled catchesWrite catchesRead (by simpa using unrequested) rfl

theorem disturbs_ne_signalled (disturbance atHeader catchesRead : Bool) :
    disturbs disturbance ≠ .signalled atHeader catchesRead := by
  cases disturbance <;> simp [disturbs]

theorem quiet_iff {disturbance : Bool} : .quiet = disturbs disturbance ↔ disturbance = false := by
  cases disturbance <;> simp [disturbs]

/-- A step that is no signal does not request stop. -/
theorem resumes_stop (resumes : Resumes asserts cipher client label after)
    (unsignalled : ∀ atHeader catchesRead, label ≠ .signalled atHeader catchesRead) :
    after.stopRequested = client.stopRequested := by
  cases resumes with
  | tunRead answer looked => exact (tunReads_socketRead answer).2
  | written answer => exact (written_socketRead answer).2
  | header answer looked peeked => exact (someRead_beside fun _ => headerRead_beside _).1
  | payload answer looked await => exact (someRead_beside fun _ => payloadRead_beside _).1
  | tunWritten looked => exact socketLoop_beside.1
  | tunThrows what => rfl
  | signalled catchesWrite catchesRead _ told => exact absurd told (unsignalled _ _)

/-- The signal comes once. -/
theorem resumes_signalled {atHeader catchesRead : Bool}
    (resumes : Resumes asserts cipher client (.signalled atHeader catchesRead) after) :
    client.stopRequested = false ∧ atHeader = client.socketRead.atHeader ∧
      ∃ catchesWrite, after = (client.signal catchesWrite catchesRead).1 := by
  cases resumes with
  | tunRead _ _ _ told | written _ _ _ told | header _ _ _ _ _ _ _ told | payload _ _ _ _ told
  | tunWritten _ _ told => exact absurd told.symm (disturbs_ne_signalled _ _ _)
  | tunThrows _ told => cases told
  | signalled catchesWrite _ unrequested told =>
    obtain ⟨found, rfl⟩ := Label.signalled.inj told
    exact ⟨unrequested, found, catchesWrite, rfl⟩

/-- Where the signal does not find the read of a header, and catches that of a packet, it
releases `startSocketRead`. -/
theorem signal_releases {catchesWrite catchesRead : Bool} (elsewhere : client.socketRead.atHeader = false)
    (caught : client.socketRead.atPayload = true → catchesRead = true) :
    (client.signal catchesWrite catchesRead).1.socketRead.released = true := by
  change (client.socketRead.cancel catchesRead).released = true
  cases await : client.socketRead with
  | header => simp [await, SocketAwait.atHeader] at elsewhere
  | payload readSize wasRead cancelled =>
    obtain rfl := caught (by rw [await]; rfl)
    simp [SocketAwait.cancel, SocketAwait.released]
  | tunWrite | left => rfl

/-- Once the client is released, a resumption that is not disturbed brings it nearer to its
end, and no further read of the socket begins. -/
theorem resumes_nearer (resumes : Resumes false cipher client .quiet after)
    (lives : client.fate = .lives) (stopped : client.stopRequested = true)
    (released : client.socketRead.released = true) :
    after.fate = .lives ∧ after.socketRead.released = true ∧ after.rank < client.rank := by
  cases resumes with
  | tunRead answer looked await told =>
    obtain ⟨opened, calm⟩ := Bool.or_eq_false_iff.mp (quiet_iff.mp told)
    obtain ⟨aes, next, reads, rank⟩ := tunReads_stopped cipher answer stopped opened
      (by rintro what rfl; cases calm)
    rw [reads]
    exact ⟨lives, released, by simpa [Client.rank, await] using rank⟩
  | written answer await may told =>
    obtain ⟨next, writes, rank⟩ := written_stopped stopped (quiet_iff.mp told) may
    rw [writes]
    exact ⟨lives, released, by simpa [Client.rank, await] using rank⟩
  | header answer looked peeked unannounced await =>
    rw [await] at released
    cases released
  | @payload readSize wasRead cancelled answer looked await may told =>
    rw [await] at released
    obtain rfl : cancelled = true := released
    rw [payloadReads_cancelled stopped may]
    exact ⟨lives, rfl, by simp [Client.rank, await, SocketAwait.rank]⟩
  | tunWritten looked await told =>
    rw [socketLoop_stopped stopped]
    exact ⟨lives, rfl, by simp [Client.rank, await, SocketAwait.rank]⟩
  | tunThrows what told => cases told
  | signalled catchesWrite catchesRead unrequested told => cases told

/-! ### What `startTunRead` has left to send -/

/-- A write has something to write. -/
def Client.Sends (client : Client) : Prop :=
  ∀ rest cancelled, client.tunRead = .send rest cancelled → rest ≠ []

theorem tunLoop_sends : client.tunLoop.Sends := by
  intro rest cancelled await
  unfold Client.tunLoop at await
  split at await <;> cases await

theorem sent_sends (sends : client.Sends) (answer : Except ErrorCode Unit) : (client.sent answer).Sends := by
  unfold Client.sent
  split
  · exact tunLoop_sends
  · exact tunLoop_sends
  · exact sends

theorem tunReads_sends (answer : TunRead) (sends : client.Sends) :
    (client.tunReads cipher looked answer).Sends := by
  cases answer with
  | timeout => exact tunLoop_sends
  | throws what => exact sends
  | packet packet =>
    have length : (encode packet.bytes.length.toUInt32 ++ packet.bytes).length =
        packet.bytes.length + 4 := by
      rw [List.length_append, encode_length, Nat.add_comm]
    have fits := packet.fits
    have keyed (aes : AesSession) : Client.Sends { client with aes := aes } := sends
    rw [Client.tunReads, AesSession.encrypt_ok (by rw [length]; omega)]
    rcases looked with code | _ | _
    · exact sent_sends (keyed _) _
    · exact sent_sends (keyed _) _
    · intro rest cancelled await nothing
      obtain ⟨crypt, _⟩ := TunAwait.send.inj await
      have lengths := congrArg List.length (crypt.trans nothing)
      rw [mask_length, length] at lengths
      cases lengths

theorem written_sends {rest : Bytes} (answer : Except ErrorCode Nat) (sends : client.Sends) :
    (client.written rest answer).Sends := by
  cases answer with
  | error code => exact sent_sends sends _
  | ok sendBytes =>
    rw [Client.written]
    split
    · exact sent_sends sends _
    · rename_i more
      rintro _ _ await nothing
      obtain ⟨rfl, _⟩ := TunAwait.send.inj await
      exact more (List.drop_eq_nil_iff.mp nothing)

theorem resumes_sends (resumes : Resumes asserts cipher client label after) (sends : client.Sends) :
    after.Sends := by
  have beside : ∀ {after : Client}, client.Beside after → after.Sends :=
    fun stands rest cancelled await => sends rest cancelled (stands.2.symm.trans await)
  cases resumes with
  | tunRead answer looked => exact tunReads_sends answer sends
  | written answer => exact written_sends answer sends
  | header answer looked peeked => exact beside (someRead_beside fun _ => headerRead_beside _)
  | payload answer looked await => exact beside (someRead_beside fun _ => payloadRead_beside _)
  | tunWritten looked => exact beside socketLoop_beside
  | tunThrows what => exact sends
  | signalled catchesWrite catchesRead =>
    intro rest cancelled await
    change client.tunRead.cancel catchesWrite = _ at await
    cases stands : client.tunRead with
    | send rest' cancelled' =>
      rw [stands] at await
      obtain ⟨rfl, _⟩ := TunAwait.send.inj await
      exact sends rest' cancelled' stands
    | tun | left =>
      rw [stands] at await
      cases await

/-! ### Runs -/

/-- The client was built without its assertions, the signal does not find `startSocketRead` in
the read of a header, and catches it if it finds it in the read of a packet; and nothing else
fails. -/
def Graceful (asserts : Bool) (client : Client) : Label → Prop
  | .signalled atHeader catchesRead =>
    asserts = false ∧ atHeader = false ∧ (client.socketRead.atPayload = true → catchesRead = true)
  | .disturbed => False
  | .quiet => True

instance (asserts : Bool) (client : Client) (label : Label) :
    Decidable (Graceful asserts client label) := by
  cases label <;> unfold Graceful <;> infer_instance

/-- What holds in every state of such a run, once stop is requested. -/
structure Stopping (asserts : Bool) (client : Client) : Prop where
  unasserted : asserts = false
  lives : client.fate = .lives
  released : client.socketRead.released = true

/-- As long as one of the two has not left its loop, there is a resumption that nothing disturbs. -/
theorem Stopping.resumes (stopping : Stopping asserts client) (sends : client.Sends)
    (unfinished : ¬ (client.tunRead = .left ∧ client.socketRead = .left)) :
    ∃ after, ((machine asserts cipher aes).system.guarded (Graceful asserts)).step client .quiet after := by
  obtain ⟨_, lives, released⟩ := stopping
  have quietly : ∀ event {after}, (machine asserts cipher aes).step client event = some (after, .quiet) →
      ∃ after, ((machine asserts cipher aes).system.guarded (Graceful asserts)).step client .quiet after :=
    fun event _ stepped => ⟨_, ⟨event, stepped⟩, trivial⟩
  cases tun : client.tunRead with
  | tun =>
    apply quietly (.tunRead .timeout (.ok true))
    simp only [machine, lives, tun, if_true]
    rfl
  | send rest cancelled =>
    cases cancelled with
    | true =>
      apply quietly (.written (.error .operationCanceled))
      simp only [machine, lives, tun, if_true]
      rfl
    | false =>
      -- The write takes all that is left.
      have whole : mayAnswer false (fun sendBytes => 0 < sendBytes ∧ sendBytes ≤ rest.length)
          (.ok rest.length) = true := by
        simpa [mayAnswer] using List.length_pos_iff.mpr (sends rest false tun)
      apply quietly (.written (.ok rest.length))
      simp only [machine, lives, tun, if_true, whole]
      rfl
  | left =>
    cases socket : client.socketRead with
    | header wasRead cancelled =>
      rw [socket] at released
      cases released
    | payload readSize wasRead cancelled =>
      rw [socket] at released
      obtain rfl : cancelled = true := released
      apply quietly (.read (.error .operationCanceled) (.ok true) [])
      simp only [machine, lives, if_true, Client.reads, socket]
      rfl
    | tunWrite ipPacket =>
      apply quietly (.tunWritten none (.ok true))
      simp only [machine, lives, socket, if_true]
      rfl
    | left => exact absurd ⟨tun, socket⟩ unfinished

variable {trace more : List Label} {finish : Client}

theorem run_sends (run : (machine asserts cipher aes).system.Run trace client) : client.Sends := by
  revert run
  apply System.Run.reachable
  · rintro _ rfl rest cancelled await
    cases await
  · rintro before label after sends ⟨event, stepped⟩
    exact resumes_sends (step_resumes stepped).2 sends

theorem step_stopping (stopping : client.stopRequested = true → Stopping asserts client)
    (step : ((machine asserts cipher aes).system.guarded (Graceful asserts)).step client label after) :
    (after.stopRequested = true → Stopping asserts after) ∧
      (client.stopRequested = true → after.stopRequested = true ∧ after.rank < client.rank) := by
  obtain ⟨⟨event, stepped⟩, graceful⟩ := step
  obtain ⟨lives, resumes⟩ := step_resumes stepped
  cases label with
  | disturbed => cases graceful
  | quiet =>
    have same := resumes_stop resumes (by simp)
    cases stopped : client.stopRequested with
    | false =>
      rw [same, stopped]
      exact ⟨by simp, by simp⟩
    | true =>
      obtain ⟨rfl, lives, released⟩ := stopping stopped
      obtain ⟨lives', released', rank⟩ := resumes_nearer resumes lives stopped released
      exact ⟨fun _ => ⟨rfl, lives', released'⟩, fun _ => ⟨same.trans stopped, rank⟩⟩
  | signalled atHeader catchesRead =>
    obtain ⟨rfl, rfl, caught⟩ := graceful
    obtain ⟨once, elsewhere, catchesWrite, rfl⟩ := resumes_signalled resumes
    refine ⟨fun _ => ⟨rfl, lives, signal_releases elsewhere.symm caught⟩, ?_⟩
    simp [once]

theorem run_stopping
    (run : ((machine asserts cipher aes).system.guarded (Graceful asserts)).Run trace client) :
    client.stopRequested = true → Stopping asserts client := by
  revert run
  apply System.Run.reachable
  · rintro _ rfl unrequested
    cases unrequested
  · exact fun before label after stopping step => (step_stopping stopping step).1

theorem steps_few (stopping : Stopping asserts client) (stopped : client.stopRequested = true)
    (steps : ((machine asserts cipher aes).system.guarded (Graceful asserts)).Steps client more finish) :
    finish.stopRequested = true ∧ Stopping asserts finish ∧ more.length + finish.rank ≤ client.rank := by
  induction steps with
  | refl => exact ⟨stopped, stopping, by simp⟩
  | next _ step ih =>
    obtain ⟨stopped', stopping', few⟩ := ih
    obtain ⟨stopping'', nearer⟩ := step_stopping (fun _ => stopping') step
    obtain ⟨stopped'', rank⟩ := nearer stopped'
    refine ⟨stopped'', stopping'' stopped'', ?_⟩
    simp only [List.length_append, List.length_singleton]
    omega

/-- `startSocketRead` reads a header, and either its assertion or the cancel will not let
it come further. -/
def Client.Doomed (asserts : Bool) (client : Client) : Prop :=
  ∃ wasRead cancelled, client.socketRead = .header wasRead cancelled ∧
    (asserts = true ∨ cancelled = true)

/-- With the assertion on, no packet that fits is ever read. -/
theorem sized_asserted {readSize : Nat} {stray : Bool} (header : client.Doomed true) :
    (client.sized true looked readSize stray).Doomed true := by
  unfold Client.sized
  split
  · exact header
  · rename_i passed
    have long : maxPacket < readSize := by simpa using passed
    rw [if_pos long]
    exact header

theorem headerRead_asserted {peeked : Bytes} (header : client.Doomed true)
    (answer : Except ErrorCode Bytes) :
    (client.headerRead true cipher looked peeked answer).Doomed true := by
  unfold Client.headerRead
  split
  · exact header
  · split
    · exact header
    · split
      · split <;> exact header
      · exact sized_asserted header

theorem resumes_doomed (resumes : Resumes asserts cipher client label after)
    (doomed : client.Doomed asserts) : after.Doomed asserts := by
  obtain ⟨wasRead, cancelled, header, why⟩ := doomed
  cases resumes with
  | tunRead answer looked =>
    exact ⟨wasRead, cancelled, (tunReads_socketRead answer).1.trans header, why⟩
  | written answer => exact ⟨wasRead, cancelled, (written_socketRead answer).1.trans header, why⟩
  | header answer looked peeked unannounced await may =>
    obtain ⟨rfl, rfl⟩ := SocketAwait.header.inj (header.symm.trans await)
    rcases why with rfl | rfl
    · have still : client.Doomed true := ⟨_, _, header, .inl rfl⟩
      unfold Client.someRead
      split
      · exact headerRead_asserted still _
      · split
        · exact headerRead_asserted still _
        · unfold Client.readsOn
          split
          · exact ⟨_, false, rfl, .inl rfl⟩
          · exact headerRead_asserted still _
          · exact headerRead_asserted still _
    · cases answer with
      | error code => exact ⟨_, true, header, .inr rfl⟩
      | ok bytes => simp [mayAnswer] at may
  | payload answer looked await => cases header.symm.trans await
  | tunWritten looked await => cases header.symm.trans await
  | tunThrows what => exact ⟨wasRead, cancelled, header, why⟩
  | signalled catchesWrite catchesRead =>
    refine ⟨wasRead, cancelled || catchesRead, ?_, why.imp_right fun held => by simp [held]⟩
    simp [Client.signal, SocketAwait.cancel, header]

/-- Where `startSocketRead` has left its loop, the client was built without its assertions
and no cancel had caught the read of a header. -/
theorem left_graceful (run : (machine asserts cipher aes).system.Run trace client)
    (left : client.socketRead = .left) : asserts = false ∧ .signalled true true ∉ trace := by
  have doomed : (asserts = true ∨ .signalled true true ∈ trace) → client.Doomed asserts := by
    clear left
    revert run
    apply System.Run.invariant
    · rintro _ rfl why
      exact ⟨[], false, rfl, .inl (by simpa using why)⟩
    · rintro trace before label after _ held ⟨event, stepped⟩ why
      obtain ⟨_, resumes⟩ := step_resumes stepped
      rw [List.mem_append, List.mem_singleton, ← or_assoc] at why
      rcases why with already | rfl
      · exact resumes_doomed resumes (held already)
      · obtain ⟨_, header, catchesWrite, rfl⟩ := resumes_signalled resumes
        cases await : before.socketRead with
        | header wasRead cancelled =>
          exact ⟨wasRead, true, by simp [Client.signal, SocketAwait.cancel, await], .inr rfl⟩
        | payload | tunWrite | left => simp [await, SocketAwait.atHeader] at header
  by_contra otherwise
  obtain ⟨_, _, header, _⟩ := doomed (by
    rw [not_and_or, Bool.not_eq_false, not_not] at otherwise
    exact otherwise)
  cases left.symm.trans header

def exampleCipher : Cipher := fun _ _ _ => 0

def exampleSession : AesSession where
  key := List.replicate 32 0
  encryptIv := List.replicate 16 0
  decryptIv := List.replicate 16 1

/-- The signal finds one coroutine in a partial send and the other in the read of a packet
of three bytes. -/
def gracefulEvents : List Event :=
  [.read (.ok [3, 0]) (.ok true) [], .read (.ok [0, 0]) (.ok true) [],
    .tunRead (.packet ⟨[69, 0], by decide, by decide⟩) (.ok true), .written (.ok 4),
    .signal true true, .written (.error .operationCanceled),
    .read (.error .operationCanceled) (.ok true) []]

end Vpverk.ClientShutdown
