import Vpverk.ClientShutdown
import Vpverk.SocketReadEnd
import Vpverk.StreamSync

/-! The client's loops in one piece and from one await to the next. What a loop of
`Vpverk.ClientLoops` does with its socket and its tun device, `Vpverk.ClientShutdown` does in its
steps: it sends and reads the same bytes, and comes to the same end. -/
namespace Vpverk.ClientRefinement
open Transition Coroutine Octets Asioapi Peer ClientShutdown
open ClientLoops (errorMark receivePeek throwExpEc readError sizeOrError readBlockSize sendPacket
  tunReadLoop startTunRead socketReadLoop startSocketRead)
open StreamSync (plain)

variable {asserts : Bool} {cipher : Cipher} {aes : AesSession} {control mid after : Client}
  {event : Event} {label : Label} {sent sent' read read' : Bytes}

/-! ### What goes over the socket -/

/-- What a step sends on the socket, and what it reads there. -/
structure Traffic where
  sent : Bytes := []
  read : Bytes := []

def traffic (control : Client) : Event → Traffic
  | .written (.ok sendBytes) =>
    match control.tunRead with
    | .send rest _ => { sent := rest.take sendBytes }
    | .tun | .left => {}
  | .read (.ok bytes) _ _ => { read := bytes }
  | .written (.error _) | .read (.error _) _ _ | .tunRead .. | .tunWritten .. | .signal .. => {}

/-- The steps of the client, with their traffic. -/
def watched (asserts : Bool) (cipher : Cipher) (aes : AesSession) : Machine Client Event Traffic where
  initial := (machine asserts cipher aes).initial
  step control event :=
    ((machine asserts cipher aes).step control event).map fun result =>
      (result.1, traffic control event)

/-- The client comes from the one state to the other, and sends and reads these bytes. -/
def Reaches (asserts : Bool) (cipher : Cipher) (aes : AesSession) (control after : Client)
    (sent read : Bytes) : Prop :=
  ∃ trace, (watched asserts cipher aes).system.Steps control trace after ∧
    trace.flatMap Traffic.sent = sent ∧ trace.flatMap Traffic.read = read

theorem reaches_self : Reaches asserts cipher aes control control [] [] := ⟨[], .refl, rfl, rfl⟩

theorem Reaches.trans (first : Reaches asserts cipher aes control mid sent read)
    (second : Reaches asserts cipher aes mid after sent' read') :
    Reaches asserts cipher aes control after (sent ++ sent') (read ++ read') := by
  obtain ⟨trace, steps, rfl, rfl⟩ := first
  obtain ⟨trace', steps', rfl, rfl⟩ := second
  exact ⟨trace ++ trace', steps.trans steps', List.flatMap_append, List.flatMap_append⟩

theorem reaches_step (event : Event)
    (stepped : (machine asserts cipher aes).step control event = some (after, label)) :
    Reaches asserts cipher aes control after (traffic control event).sent
      (traffic control event).read := by
  refine ⟨[traffic control event], .next .refl ⟨event, ?_⟩, ?_, ?_⟩
  · simp [watched, stepped]
  · simp
  · simp

/-! ### The loop of `startTunRead` -/

variable {buffer rest : Bytes} {offset passes : Nat} {socket : Socket}

/-- A write that no handler disturbs answers. -/
theorem awaitSend_answers (nonempty : rest ≠ []) (calm : socket.strayHandler = false) :
    ∃ answer left, (awaitSend rest).run socket = (.ok answer, left) ∧ left.strayHandler = false ∧
      mayAnswer false (fun sendBytes => 0 < sendBytes ∧ sendBytes ≤ rest.length) answer = true ∧
      match answer with
      | .ok sendBytes => left.sent = socket.sent ++ rest.take sendBytes
      | .error _ => left.sent = socket.sent := by
  have some_bytes : 0 < rest.length := List.length_pos_iff.mpr nonempty
  unfold awaitSend
  dsimp only
  rw [calm]
  cases socket.accepts with
  | nil => exact ⟨_, _, rfl, rfl, by simpa [mayAnswer] using some_bytes, by simp⟩
  | cons accept accepts =>
    cases accept with
    | error code => exact ⟨_, _, rfl, calm, rfl, rfl⟩
    | ok count =>
      refine ⟨_, _, rfl, rfl, ?_, rfl⟩
      simp only [mayAnswer, Bool.not_false, Bool.true_and, decide_eq_true_eq]
      omega

theorem sendFrom_done (buffer : Bytes) (passes : Nat) :
    sendFrom buffer passes buffer.length = pure (.ok ()) := by
  cases passes with
  | zero => rfl
  | succ passes => rw [sendFrom, if_pos rfl]

/-- The loop of `send`, write by write. -/
theorem sendFrom_reaches (lives : control.fate = .lives) (cut : buffer.drop offset = rest)
    (some_bytes : rest ≠ []) (enough : rest.length ≤ passes) (calm : socket.strayHandler = false) :
    ∃ answer left sent await, (sendFrom buffer passes offset).run socket = (.ok answer, left) ∧
      left.strayHandler = false ∧ left.sent = socket.sent ++ sent ∧
      Reaches asserts cipher aes { control with tunRead := .send rest false }
        ({ control with tunRead := await }.sent answer) sent [] := by
  induction passes generalizing offset rest socket with
  | zero => exact absurd (List.eq_nil_of_length_eq_zero (by omega)) some_bytes
  | succ passes ih =>
    have length : rest.length = buffer.length - offset := by rw [← cut, List.length_drop]
    have undone : offset ≠ buffer.length := by
      rintro rfl
      exact some_bytes (List.eq_nil_of_length_eq_zero (by omega))
    obtain ⟨answer, left, wrote, calm', may, sent⟩ := awaitSend_answers some_bytes calm
    have stepped : (machine asserts cipher aes).step { control with tunRead := .send rest false }
        (.written answer) = some ({ control with tunRead := .send rest false }.written rest answer,
          disturbs (failed false answer)) := by
      simp only [machine, lives, if_true, may]
    have step := reaches_step _ stepped
    rw [sendFrom, if_neg undone, cut, bind_ok wrote]
    cases answer with
    | error code => exact ⟨_, _, [], _, rfl, calm', by simpa using sent, step⟩
    | ok sendBytes =>
      have fits : 0 < sendBytes ∧ sendBytes ≤ rest.length := by simpa [mayAnswer] using may
      by_cases whole : rest.length ≤ sendBytes
      · have last : offset + sendBytes = buffer.length := by omega
        dsimp only
        rw [last, sendFrom_done]
        rw [Client.written, if_pos whole] at step
        exact ⟨_, _, _, _, rfl, calm', sent, step⟩
      · rw [Client.written, if_neg whole] at step
        have cut' : buffer.drop (offset + sendBytes) = rest.drop sendBytes := by
          rw [← cut, List.drop_drop]
        obtain ⟨answer, left', sent', await, ran, calm'', sends, reaches⟩ :=
          ih cut' (by simp; omega) (by simp; omega) calm'
        refine ⟨answer, left', _, await, ran, calm'', ?_, step.trans reaches⟩
        rw [sends, sent, List.append_assoc]
        rfl

/-- A look at the socket, before a read or a `send`. -/
theorem looks (socket : Socket) :
    ∃ (looked : Looked) (opened : Socket), reliableIsOpen.run socket = (.ok looked, opened) ∧
      opened.strayHandler = socket.strayHandler ∧ opened.sent = socket.sent ∧
      opened.stream = socket.stream := by
  obtain ⟨isOpen, arrivals, accepts, sent, strayHandler⟩ := socket
  cases isOpen with
  | false => exact ⟨_, _, rfl, rfl, rfl, rfl⟩
  | true =>
    cases arrivals with
    | nil => exact ⟨_, _, rfl, rfl, rfl, rfl⟩
    | cons arrival later =>
      cases arrival with
      | bytes segment => exact ⟨_, _, rfl, rfl, rfl, rfl⟩
      | nothing => exact ⟨_, _, rfl, rfl, rfl, rfl⟩
      | fails code => cases code <;> exact ⟨_, _, rfl, rfl, rfl, rfl⟩

/-- A `send`, from the look at the socket on. -/
theorem send_reaches (asserts : Bool) (cipher : Cipher) (aes : AesSession) (control : Client)
    (lives : control.fate = .lives) (some_bytes : buffer ≠ []) (few : buffer.length ≤ maxUint32)
    (calm : socket.strayHandler = false) :
    ∃ (looked : Looked) (answer : Except ErrorCode Unit) (left : Socket) (sent : Bytes) (await : TunAwait),
      (send buffer).run socket = (.ok answer, left) ∧ left.strayHandler = false ∧
      left.sent = socket.sent ++ sent ∧
      Reaches asserts cipher aes
        (match looked with
          | .ok true => { control with tunRead := .send buffer false }
          | .ok false => control.sent (.error .connectionReset)
          | .error code => control.sent (.error code))
        ({ control with tunRead := await }.sent answer) sent [] := by
  obtain ⟨looked, opened, isOpen, calm', same, _⟩ := looks socket
  have length : buffer.length ≠ 0 := by simpa using some_bytes
  have passed : (cussert (buffer.length ≠ 0) "buffer.size()").run socket = (.ok (), socket) :=
    cussert_run _ (by simpa using some_bytes)
  rw [send, bind_ok passed, if_neg (by simp [some_bytes]; omega), bind_ok isOpen]
  rcases looked with code | _ | _
  · exact ⟨.error code, _, _, [], control.tunRead, rfl, calm'.trans calm, by simp [same], reaches_self⟩
  · exact ⟨.ok false, _, _, [], control.tunRead, rfl, calm'.trans calm, by simp [same], reaches_self⟩
  · obtain ⟨answer, left, sent, await, ran, calm'', sends, reaches⟩ :=
      sendFrom_reaches lives (List.drop_zero ..) some_bytes (Nat.le_refl _) (calm'.trans calm)
    exact ⟨.ok true, answer, left, sent, await, ran, calm'', by rw [sends, same], reaches⟩

/-- What becomes of the coroutine of the tun device, and of its part of the client. -/
def TunEnds (after : Client) : Except Stop Unit → Prop
  | .ok () => after.fate = .lives ∧ after.tunRead = .left
  | .error (.aborts info) => after.fate = .aborted info
  | .error .waits => after.fate = .lives ∧ after.tunRead = .tun
  | .error .runs => after.fate = .lives ∧ after.tunLoop = after
  | .error _ => False

/-- `Tun::read` comes back. -/
theorem tunReads_reaches (asserts : Bool) (cipher : Cipher) (aes : AesSession) (control : Client)
    (lives : control.fate = .lives) (reads : control.tunRead = .tun) (read : TunRead)
    (looked : Looked) :
    Reaches asserts cipher aes control (control.tunReads cipher looked read) [] [] := by
  have stepped : ∃ label, (machine asserts cipher aes).step control (.tunRead read looked) =
      some (control.tunReads cipher looked read, label) := by
    simp only [machine, lives, if_true, reads]
    exact ⟨_, rfl⟩
  obtain ⟨label, stepped⟩ := stepped
  exact reaches_step _ stepped

/-- A packet of `startTunRead`: after it the loop goes on, or the process ends. -/
theorem sendPacket_reaches (asserts : Bool) (cipher : Cipher) (aes : AesSession) (control : Client)
    (lives : control.fate = .lives) (reads : control.tunRead = .tun) (packet : Packet)
    (client : ClientLoops.Client) (calm : client.socket.strayHandler = false) :
    ∃ answer socket sent after, (sendPacket cipher control.aes packet.bytes).run client =
        (answer, { client with socket := socket }) ∧ socket.strayHandler = false ∧
      socket.sent = client.socket.sent ++ sent ∧ Reaches asserts cipher aes control after sent [] ∧
      ((∃ session, answer = .ok session ∧ after = { control with aes := session }.tunLoop) ∨
        ∃ session await what, answer = .error (.throws what) ∧
          after = { control with aes := session, tunRead := await }.abort what) := by
  obtain ⟨crypt, session, encrypts, size⟩ : ∃ crypt session, control.aes.encrypt cipher
      (encode packet.bytes.length.toUInt32 ++ packet.bytes) (maxPacket + 4) = .ok (crypt, session) ∧
      crypt.length = packet.bytes.length + 4 := by
    have length : (encode packet.bytes.length.toUInt32 ++ packet.bytes).length =
        packet.bytes.length + 4 := by
      rw [List.length_append, encode_length, Nat.add_comm]
    have fits := packet.fits
    exact ⟨_, _, AesSession.encrypt_ok (by omega), by rw [mask_length, length]⟩
  have some_bytes : crypt ≠ [] := List.ne_nil_of_length_pos (by omega)
  have few : crypt.length ≤ maxUint32 := by
    have bound : packet.bytes.length ≤ 1500 := packet.fits
    have limit : maxUint32 = 4294967295 := rfl
    omega
  let encrypted : Client := { control with aes := session }
  obtain ⟨looked, answer, left, sent, await, ran, calm', sends, reaches⟩ :=
    send_reaches asserts cipher aes encrypted lives some_bytes few calm
  have step := tunReads_reaches asserts cipher aes control lives reads (.packet packet) looked
  simp only [Client.tunReads, encrypts] at step
  have goes := step.trans reaches
  rw [sendPacket, encrypts]
  dsimp only
  rw [bind_ok (ClientLoops.Client.onSocket_run ran)]
  cases answer with
  | ok => exact ⟨_, left, sent, _, rfl, calm', sends, goes, .inl ⟨session, rfl, rfl⟩⟩
  | error code =>
    cases code with
    | operationCanceled => exact ⟨_, left, sent, _, rfl, calm', sends, goes, .inl ⟨session, rfl, rfl⟩⟩
    | _ => exact ⟨_, left, sent, _, rfl, calm', sends, goes, .inr ⟨session, await, _, rfl, rfl⟩⟩

/-- What `catch` makes of an exception that ends the process. -/
def caught : Stop → Stop
  | .throws what => .aborts what
  | how => how

theorem caught_run {World : Type} (body : Coroutine World Unit) (world : World) :
    (tryCatch body abort).run world = ((body.run world).1.mapError caught, (body.run world).2) := by
  unfold Coroutine.tryCatch
  dsimp only
  cases body.run world with
  | mk answer left =>
    cases answer with
    | ok => rfl
    | error how => cases how <;> rfl

/-- The loop of `startTunRead`, from its test on. -/
theorem tunReadLoop_reaches (asserts : Bool) (cipher : Cipher) (aes : AesSession) (control : Client)
    (lives : control.fate = .lives) (client : ClientLoops.Client)
    (same : control.stopRequested = client.stopRequested) (calm : client.socket.strayHandler = false)
    (passes : Nat) :
    ∃ answer left sent after, (tunReadLoop cipher passes control.aes).run client = (answer, left) ∧
      left.socket.sent = client.socket.sent ++ sent ∧
      Reaches asserts cipher aes control.tunLoop after sent [] ∧ TunEnds after (answer.mapError caught) ∧
      after.socketRead = control.socketRead ∧ after.stopRequested = control.stopRequested := by
  induction passes generalizing client control with
  | zero => exact ⟨_, client, [], _, rfl, by simp, reaches_self, ⟨lives, rfl⟩, rfl, rfl⟩
  | succ passes ih =>
    rw [tunReadLoop, bind_look_run]
    cases stop : client.stopRequested with
    | true =>
      rw [tunLoop_stopped (same.trans stop)]
      exact ⟨_, client, [], _, rfl, by simp, reaches_self, ⟨lives, rfl⟩, rfl, rfl⟩
    | false =>
      let reading := control.tunLoop
      have reads : reading.tunRead = .tun := by simp [reading, Client.tunLoop, same.trans stop]
      have step := tunReads_reaches asserts cipher aes reading lives reads
      rw [if_neg (by simp)]
      cases next : client.tun.reads with
      | nil =>
        have read : Tun.read.run client.tun = (.error .waits, client.tun) := by
          simp [Tun.read, next]
        rw [bind_error (ClientLoops.Client.onTun_run read)]
        exact ⟨_, client, [], reading, rfl, by simp, reaches_self, ⟨lives, reads⟩, rfl, rfl⟩
      | cons read later =>
        let device : Tun := { client.tun with reads := later }
        cases read with
        | timeout =>
          have read : Tun.read.run client.tun = (.ok [], device) := by simp [Tun.read, next, device]
          rw [bind_ok (ClientLoops.Client.onTun_run read), if_pos rfl]
          obtain ⟨answer, left, sent, after, ran, sends, reaches, ends⟩ :=
            ih reading lives { client with tun := device } same calm
          exact ⟨answer, left, _, after, ran, sends,
            (step .timeout (.ok true)).trans reaches, ends⟩
        | throws what =>
          have read : Tun.read.run client.tun = (.error (.throws what), device) := by
            simp [Tun.read, next, device]
          rw [bind_error (ClientLoops.Client.onTun_run read)]
          exact ⟨_, _, _, _, rfl, (List.append_nil _).symm,
            step (.throws what) (.ok true), rfl, rfl, rfl⟩
        | packet packet =>
          have read : Tun.read.run client.tun = (.ok packet.bytes, device) := by
            simp [Tun.read, next, device]
          rw [bind_ok (ClientLoops.Client.onTun_run read), if_neg packet.nonempty]
          obtain ⟨answer, socket, sent, after, ran, calm', sends, reaches, ends⟩ :=
            sendPacket_reaches asserts cipher aes reading lives reads packet
              { client with tun := device } calm
          have ran : (sendPacket cipher control.aes packet.bytes).run { client with tun := device } =
            _ := ran
          rcases ends with ⟨session, rfl, rfl⟩ | ⟨session, await, what, rfl, rfl⟩
          · rw [bind_ok ran]
            obtain ⟨answer, left, sent', after, ran', sends', reaches', ends⟩ :=
              ih { reading with aes := session } lives
                { client with tun := device, socket := socket } same calm'
            exact ⟨answer, left, _, after, ran', by rw [sends', sends, List.append_assoc],
              reaches.trans reaches', ends⟩
          · rw [bind_error ran]
            exact ⟨_, _, sent, _, rfl, sends, reaches, rfl, rfl, rfl⟩

/-- A client whose one packet leaves in two writes, and that has more than its size in the socket. -/
def twoWrites : ClientLoops.Client where
  socket := { arrivals := [.bytes ⟨[2, 0], List.cons_ne_nil _ _⟩, .nothing,
    .bytes ⟨[0, 0, 96], List.cons_ne_nil _ _⟩], accepts := [.ok 3] }
  tun := { reads := [.timeout, .packet ⟨[96, 5, 4], List.cons_ne_nil _ _, by decide⟩] }

/-- Its session. -/
def twoWritesAes : AesSession := ⟨[8], [7, 7], [6, 6], 9, 0⟩

/-- A read that no handler disturbs answers, or waits for the rest of what is to arrive. -/
theorem awaitRead_answers {amount : Nat} (some_amount : 0 < amount) (calm : socket.strayHandler = false) :
    ∃ result left, (awaitRead amount).run socket = (result, left) ∧ left.strayHandler = false ∧
      left.sent = socket.sent ∧
      match result with
      | .ok (.ok bytes) => bytes ≠ [] ∧ bytes.length ≤ amount ∧ socket.stream = bytes ++ left.stream
      | .ok (.error _) | .error .waits => socket.stream = left.stream
      | .error _ => False := by
  have calmly : ∀ arrivals, ({ socket with arrivals := arrivals } : Socket).strayHandler = false :=
    fun _ => calm
  unfold awaitRead
  dsimp only
  rw [if_neg (by simp [calm])]
  cases took : takeArrived amount socket.arrivals with
  | none =>
    exact ⟨_, _, rfl, calmly [], rfl, SocketReadEnd.takeArrived_none took⟩
  | some taken =>
    obtain ⟨answer, arrivals⟩ := taken
    refine ⟨_, _, rfl, calmly arrivals, rfl, ?_⟩
    have ran : (awaitRead amount).run socket = (.ok answer, { socket with arrivals := arrivals }) := by
      simp [awaitRead, calm, took]
    obtain ⟨bytes, stream, reads⟩ := takes_awaitRead some_amount _ _ _ ran
    rcases SocketReadEnd.takeArrived_some took with ⟨read, rfl, few, content⟩ | ⟨code, rfl, content⟩
    · obtain ⟨rfl, nonempty, _⟩ := reads read rfl
      exact ⟨nonempty, few, content⟩
    · exact content

/-- A read of the header comes back. -/
theorem headerReads_reaches {wasRead : Bytes} (cipher : Cipher) (aes : AesSession) (control : Client)
    (answer : Except ErrorCode Bytes) (lives : control.fate = .lives)
    (awaits : control.socketRead = .header wasRead false)
    (may : mayAnswer false (fun bytes => 0 < bytes.length ∧ (wasRead ++ bytes).length ≤ 4) answer = true)
    (looked : Looked) (peeked : Bytes) :
    Reaches true cipher aes control
      (control.someRead looked 4 wasRead (.header · false) (control.headerRead true cipher looked peeked)
        answer) [] (traffic control (.read answer looked peeked)).read := by
  have stepped : ∃ label, (machine true cipher aes).step control (.read answer looked peeked) =
      some (control.someRead looked 4 wasRead (.header · false)
        (control.headerRead true cipher looked peeked) answer, label) := by
    simp only [machine, lives, if_true, Client.reads, awaits, may]
    exact ⟨_, rfl⟩
  obtain ⟨label, stepped⟩ := stepped
  have step := reaches_step _ stepped
  cases answer <;> exact step

/-- What the loop of `read_some` comes to in the header: the size, an error, or a wait for the rest. -/
def HeaderComes (cipher : Cipher) (aes : AesSession) (start control : Client) (wasRead read : Bytes) :
    Except Stop (Except ErrorCode Bytes) → Prop
  | .ok (.ok bytes) => bytes.length = 4 ∧ ∀ looked peeked, ∃ await, Reaches true cipher aes start
      ({ control with socketRead := await }.headerRead true cipher looked peeked (.ok bytes)) [] read
  | .ok (.error code) => ∃ await, Reaches true cipher aes start
      ({ control with socketRead := await }.abort code.message) [] read
  | .error .waits => Reaches true cipher aes start
      { control with socketRead := .header (wasRead ++ read) false } [] read
  | .error _ => False

theorem HeaderComes.step {start : Client} {await : SocketAwait} {wasRead : Bytes}
    {result : Except Stop (Except ErrorCode Bytes)}
    (step : Reaches true cipher aes start mid [] read)
    (comes : HeaderComes cipher aes mid { control with socketRead := await } (wasRead ++ read) read' result) :
    HeaderComes cipher aes start control wasRead (read ++ read') result := by
  rcases result with how | code | bytes
  · cases how with
    | waits =>
      have both := step.trans comes
      rwa [List.append_assoc] at both
    | _ => exact comes.elim
  · obtain ⟨await', reaches⟩ := comes
    exact ⟨await', step.trans reaches⟩
  · refine ⟨comes.1, fun looked peeked => ?_⟩
    obtain ⟨await', reaches⟩ := comes.2 looked peeked
    exact ⟨await', step.trans reaches⟩

/-- A read of the socket after its look at it. -/
theorem readSomeUnreliable_looked {size amount : Nat} {looked : Looked} {opened : Socket}
    (isOpen : reliableIsOpen.run socket = (.ok looked, opened)) (some_size : 0 < size)
    (fits : amount ≤ size) (few : size ≤ maxUint32) :
    (∀ code, looked = .error code →
        (readSomeUnreliable size amount).run socket = (.ok (.error code), opened)) ∧
      (looked = .ok false →
        (readSomeUnreliable size amount).run socket = (.ok (.error .connectionReset), opened)) ∧
      (looked = .ok true → (readSomeUnreliable size amount).run socket =
        (awaitRead (if amount = 0 then size else amount)).run opened) := by
  have passed : (cussert (size ≠ 0) "buffer.size()").run socket = (.ok (), socket) :=
    cussert_run _ (by simp; omega)
  rw [readSomeUnreliable, bind_ok passed, if_neg (by omega), if_neg (by omega), bind_ok isOpen]
  refine ⟨?_, ?_, ?_⟩
  · rintro code rfl
    rfl
  · rintro rfl
    rfl
  · rintro rfl
    rfl

/-- The loop of `read_some` in the header, from the look at the socket on. -/
theorem readFrom_reaches (cipher : Cipher) (aes : AesSession) (control : Client) (wasRead : Bytes)
    (passes : Nat) (lives : control.fate = .lives) (short : wasRead.length < 4)
    (enough : 4 ≤ wasRead.length + passes) (calm : socket.strayHandler = false) :
    ∃ (looked : Looked) (result : Except Stop (Except ErrorCode Bytes)) (left : Socket) (read : Bytes),
      (reliableIsOpen.run socket).1 = .ok looked ∧
      (readFrom 4 4 passes wasRead).run socket = (result, left) ∧ left.strayHandler = false ∧
      left.sent = socket.sent ∧ socket.stream = read ++ left.stream ∧
      HeaderComes cipher aes (control.readsOn looked (.header wasRead false) fun code =>
        control.abort code.message) control wasRead read result := by
  induction passes generalizing control socket wasRead with
  | zero => omega
  | succ passes ih =>
    obtain ⟨looked, opened, isOpen, calm', same, stream⟩ := looks socket
    have limit : maxUint32 = 4294967295 := rfl
    obtain ⟨fails, closed, reads⟩ :=
      readSomeUnreliable_looked isOpen (Nat.sub_pos_of_lt short) (Nat.le_refl _) (by omega)
    rw [if_neg (by omega)] at reads
    refine ⟨looked, ?_⟩
    rw [isOpen, readFrom, if_neg (by omega)]
    rcases looked with code | _ | _
    · rw [bind_ok (fails code rfl)]
      exact ⟨_, opened, [], rfl, rfl, calm'.trans calm, same, stream.symm, control.socketRead, reaches_self⟩
    · rw [bind_ok (closed rfl)]
      exact ⟨_, opened, [], rfl, rfl, calm'.trans calm, same, stream.symm, control.socketRead, reaches_self⟩
    · let reading : Client := { control with socketRead := .header wasRead false }
      obtain ⟨answered, left, ran, calm'', same', comes⟩ :=
        awaitRead_answers (Nat.sub_pos_of_lt short) (calm'.trans calm)
      have reads := (reads rfl).trans ran
      rcases answered with how | code | bytes
      · cases how with
        | waits =>
          rw [bind_error reads]
          refine ⟨_, left, [], rfl, rfl, calm'', same'.trans same, ?_, ?_⟩
          · rw [← stream, comes, List.nil_append]
          · rw [HeaderComes, List.append_nil]
            exact reaches_self
        | _ => exact comes.elim
      · rw [bind_ok reads]
        have step := headerReads_reaches cipher aes reading (.error code) lives rfl rfl (.ok true) []
        exact ⟨_, left, [], rfl, rfl, calm'', same'.trans same, by rw [← stream, comes, List.nil_append],
          _, step⟩
      · obtain ⟨nonempty, fits, content⟩ := comes
        have positive : 0 < bytes.length := List.length_pos_iff.mpr nonempty
        have length : (wasRead ++ bytes).length = wasRead.length + bytes.length := List.length_append
        have may : mayAnswer false (fun bytes => 0 < bytes.length ∧ (wasRead ++ bytes).length ≤ 4)
            (.ok bytes) = true := by
          simp [mayAnswer]
          omega
        have step := headerReads_reaches cipher aes reading (.ok bytes) lives rfl may
        rw [bind_ok reads]
        dsimp only
        by_cases whole : 4 ≤ (wasRead ++ bytes).length
        · have done : readFrom 4 4 passes (wasRead ++ bytes) = pure (.ok (wasRead ++ bytes)) := by
            cases passes with
            | zero => rfl
            | succ passes => rw [readFrom, if_pos (by omega)]
          rw [done]
          refine ⟨_, left, bytes, rfl, rfl, calm'', same'.trans same, by rw [← stream, content], by omega,
            fun looked peeked => ⟨.header wasRead false, ?_⟩⟩
          have went := step looked peeked
          rwa [Client.someRead, if_pos whole] at went
        · obtain ⟨looked, result, left', read, look, ran', calm3, sent, stream', later⟩ :=
            ih reading (wasRead ++ bytes) lives (by omega) (by omega) calm''
          have went := step looked []
          rw [Client.someRead, if_neg whole] at went
          refine ⟨result, left', bytes ++ read, rfl, ran', calm3, by rw [sent, same', same], ?_,
            .step went later⟩
          rw [← stream, content, stream', List.append_assoc]

/-- What is left of the process where a coroutine stops so. -/
def fateOf : Stop → Fate
  | .throws info | .aborts info => .aborted info
  | .undefined => .undefined
  | .waits | .runs => .lives

/-- What follows a size that was read: the assertion, or the read behind it. -/
theorem sized_refuses (control : Client) (size : UInt32) (looked : Looked) (stray : Bool) :
    control.sized true looked size.toNat stray =
      { control with fate := fateOf (SocketReadEnd.refusal size) } := by
  unfold SocketReadEnd.refusal Client.sized
  by_cases large : size.toNat > maxPacket
  · rw [if_neg (by simpa using large)]
    simp [large, fateOf, Client.abort]
  · rw [if_pos ⟨rfl, large⟩]
    simp [large, fateOf, Client.abort]

/-- Where the process stands after a header, by how `read_block_size` came out. -/
def HeaderEnds (fate : Fate) : Except Stop UInt32 → Prop
  | .ok size => fate = fateOf (SocketReadEnd.refusal size)
  | .error how => fate = fateOf how ∧ how ≠ .waits ∧ how ≠ .runs

/-- A peek sends nothing. -/
theorem receivePeek_sent (size : Nat) (socket : Socket) :
    ((receivePeek size).run socket).2.sent = socket.sent := by
  unfold receivePeek
  dsimp only
  split <;> rfl

/-- The end of `read_block_size`. -/
theorem sizeOrError_reaches {session session' : AesSession} {sizeCrypted raw : Bytes}
    (decrypts : session.decrypt cipher sizeCrypted 4 = .ok (raw, session')) (socket : Socket) :
    ∃ looked peeked result left fate, (sizeOrError sizeCrypted (decode raw)).run socket = (result, left) ∧
      left.sent = socket.sent ∧ left.stream = socket.stream ∧ HeaderEnds fate result ∧
      ∀ control : Client, control.aes = session →
        control.headerRead true cipher looked peeked (.ok sizeCrypted) =
          { control with aes := session', fate := fate } := by
  by_cases marked : decode sizeCrypted = errorMark
  · obtain ⟨error, peeked, peeks, _, stray, kept, _⟩ := ClientLoops.receivePeek_leaves socket
    have sent : peeked.sent = socket.sent := by
      have silent := receivePeek_sent (utf8 "_Error: ").length socket
      rwa [peeks] at silent
    rw [sizeOrError, if_pos marked, bind_ok peeks]
    by_cases told : error = utf8 "_Error: "
    · obtain ⟨looked, opened, isOpen, stray', same, stream⟩ := looks peeked
      obtain ⟨fails, closed, reads⟩ := readSomeUnreliable_looked isOpen (by decide : 0 < 256)
        (Nat.zero_le _) (by decide)
      rw [if_pos told, readError, throwExpEc, bind_assoc]
      refine ⟨looked, error, ?_⟩
      rcases looked with code | _ | _
      · rw [bind_ok (fails code rfl)]
        refine ⟨_, opened, .aborted code.message, rfl, same.trans sent, stream.trans kept,
          ⟨rfl, by simp, by simp⟩, fun control same => ?_⟩
        simp [Client.headerRead, same, decrypts, marked, told, Client.abort]
      · rw [bind_ok (closed rfl)]
        refine ⟨_, opened, .aborted ErrorCode.connectionReset.message, rfl, same.trans sent,
          stream.trans kept, ⟨rfl, by simp, by simp⟩, fun control same => ?_⟩
        simp [Client.headerRead, same, decrypts, marked, told, Client.abort]
      · have undefined : (awaitRead 256).run opened = (.error .undefined, opened) := by
          simp [awaitRead, stray', stray]
        rw [bind_error ((reads rfl).trans undefined)]
        refine ⟨_, opened, .undefined, rfl, same.trans sent, stream.trans kept,
          ⟨rfl, by simp, by simp⟩, fun control same => ?_⟩
        simp [Client.headerRead, same, decrypts, marked, told]
    · rw [if_neg told]
      refine ⟨.ok true, error, _, peeked, _, rfl, sent, kept, rfl, fun control same => ?_⟩
      simp only [Client.headerRead, same, decrypts]
      rw [if_neg fun both => told both.2, sized_refuses]
  · rw [sizeOrError, if_neg marked]
    refine ⟨.ok true, [], _, socket, _, rfl, rfl, rfl, rfl, fun control same => ?_⟩
    simp only [Client.headerRead, same, decrypts]
    rw [if_neg fun both => marked both.1, sized_refuses]

/-- What becomes of the coroutine of the socket, and of its part of the client. -/
def SocketEnds (read : Bytes) (after : Client) : Except Stop Unit → Prop
  | .ok () => after.fate = .lives ∧ after.socketRead = .left
  | .error .waits => after.fate = .lives ∧ after.socketRead = .header read false
  | .error .runs => False
  | .error how => after.fate = fateOf how

/-- `read_block_size`, from the look at the socket on. -/
theorem readBlockSize_reaches (cipher : Cipher) (aes : AesSession) (control : Client)
    (lives : control.fate = .lives) (calm : socket.strayHandler = false) :
    ∃ looked result left read after, (reliableIsOpen.run socket).1 = .ok looked ∧
      (readBlockSize cipher control.aes true).run socket = (result, left) ∧
      left.sent = socket.sent ∧ socket.stream = read ++ left.stream ∧
      Reaches true cipher aes (control.readsOn looked (.header [] false) fun code =>
        control.abort code.message) after [] read ∧
      (∀ block, result = .ok block → after.fate = fateOf (SocketReadEnd.refusal block.1)) ∧
      (∀ how, result = .error how → SocketEnds read after (.error how)) ∧
      after.tunRead = control.tunRead ∧ after.stopRequested = control.stopRequested := by
  obtain ⟨looked, result, left, read, isOpen, ran, calm', sent, stream, comes⟩ :=
    readFrom_reaches cipher aes control [] 4 lives (by decide) (by decide) calm
  have header : (readSome 4 0).run socket = (result, left) := ran
  rcases result with how | code | bytes
  · cases how with
    | waits =>
      have blocks : (readBlockSize cipher control.aes true).run socket = (.error .waits, left) :=
        bind_error (bind_error header)
      refine ⟨looked, _, left, read, _, isOpen, blocks, sent, stream, comes, by simp, ?_, rfl, rfl⟩
      rintro _ ⟨⟩
      exact ⟨lives, rfl⟩
    | _ => exact comes.elim
  · have blocks : (readBlockSize cipher control.aes true).run socket =
        (.error (.throws code.message), left) := bind_error (bind_ok header)
    obtain ⟨await, reaches⟩ := comes
    refine ⟨looked, _, left, read, _, isOpen, blocks, sent, stream, reaches, by simp, ?_, rfl, rfl⟩
    rintro _ ⟨⟩
    rfl
  · obtain ⟨four, later⟩ := comes
    have decrypts : control.aes.decrypt cipher bytes 4 = _ := AesSession.decrypt_ok (Nat.le_of_eq four)
    obtain ⟨looked', peeked, result, left', fate, ended, sent', stream', ends, reads⟩ :=
      sizeOrError_reaches decrypts left
    obtain ⟨await, reaches⟩ := later looked' peeked
    rw [reads { control with socketRead := await } rfl] at reaches
    have got : (throwExpEc (readSome 4 0)).run socket = (.ok bytes, left) := bind_ok header
    rcases result with how | size
    · have blocks : (readBlockSize cipher control.aes true).run socket = (.error how, left') := by
        rw [readBlockSize, bind_ok got, if_pos rfl, decrypts]
        exact bind_error ended
      refine ⟨looked, _, left', read, _, isOpen, blocks, sent'.trans sent, by rw [stream, stream'],
        reaches, by simp, ?_, rfl, rfl⟩
      rintro _ ⟨⟩
      obtain ⟨rfl, done, enough⟩ := ends
      cases how with
      | waits => exact absurd rfl done
      | runs => exact absurd rfl enough
      | _ => rfl
    · have blocks : ∃ session, (readBlockSize cipher control.aes true).run socket =
          (.ok (size, session), left') := by
        rw [readBlockSize, bind_ok got, if_pos rfl, decrypts]
        exact ⟨_, bind_ok ended⟩
      obtain ⟨session, blocks⟩ := blocks
      refine ⟨looked, _, left', read, _, isOpen, blocks, sent'.trans sent, by rw [stream, stream'],
        reaches, ?_, by simp, rfl, rfl⟩
      rintro _ ⟨⟩
      exact ends

/-- **The loop of the socket goes the same way in steps.** Whatever its socket brings,
`startSocketRead` is a run of the client from its look at the socket on, with the other coroutine
standing still: the steps read what it reads, and where it stops they have come to the same end. -/
theorem socket_loop_refines (cipher : Cipher) (aes : AesSession) (control : Client)
    (lives : control.fate = .lives) (client : ClientLoops.Client)
    (same : control.stopRequested = client.stopRequested) (calm : client.socket.strayHandler = false)
    (passes : Nat) :
    ∃ looked read after, (reliableIsOpen.run client.socket).1 = .ok looked ∧
      Reaches true cipher aes (control.socketLoop looked) after [] read ∧
      client.socket.stream =
        read ++ ((startSocketRead cipher (passes + 1) control.aes).run client).2.socket.stream ∧
      SocketEnds read after ((startSocketRead cipher (passes + 1) control.aes).run client).1 ∧
      after.tunRead = control.tunRead ∧ after.stopRequested = control.stopRequested := by
  obtain ⟨looked, result, left, read, after, isOpen, ran, _, stream, reaches, sized, fails, rest⟩ :=
    readBlockSize_reaches cipher aes control lives calm
  refine ⟨looked, ?_⟩
  rw [startSocketRead, caught_run, SocketReadEnd.socketReadLoop_pass, ran]
  cases stop : client.stopRequested with
  | true =>
    rw [socketLoop_stopped (same.trans stop)]
    exact ⟨[], _, isOpen, reaches_self, rfl, ⟨lives, rfl⟩, rfl, rfl⟩
  | false =>
    have starts : control.socketLoop looked =
        control.readsOn looked (.header [] false) fun code => control.abort code.message := by
      rw [Client.socketLoop, if_neg (by simp [same, stop])]
    rw [starts, if_neg (by simp)]
    refine ⟨read, after, isOpen, reaches, ?_⟩
    rcases result with how | block
    · refine ⟨stream, ?_, rest⟩
      have ends := fails how rfl
      cases how <;> exact ends
    · refine ⟨stream, ?_, rest⟩
      have ends := sized block rfl
      change SocketEnds read after (.error (caught (SocketReadEnd.refusal block.1)))
      by_cases large : block.1.toNat > maxPacket <;>
        simp only [SocketReadEnd.refusal, large, if_true, if_false] at ends ⊢ <;>
        exact ends

theorem socket_loop_refines_two_writes :
    ∃ looked read after, (reliableIsOpen.run twoWrites.socket).1 = .ok looked ∧
      Reaches true plain twoWritesAes (Client.socketLoop { aes := twoWritesAes } looked) after [] read ∧
      twoWrites.socket.stream =
        read ++ ((startSocketRead plain 1 twoWritesAes).run twoWrites).2.socket.stream ∧
      SocketEnds read after ((startSocketRead plain 1 twoWritesAes).run twoWrites).1 ∧
      after.tunRead = .tun ∧ after.stopRequested = false :=
  socket_loop_refines plain twoWritesAes { aes := twoWritesAes } rfl twoWrites rfl rfl 0

end Vpverk.ClientRefinement
