import Vpverk.SocketTriples
import Vpverk.ClientLoops

/-! The loop of `startSocketRead` on whatever the socket brings. Its check of the size lets through
only what `read_some` refuses, so that the loop comes to its first header and no further: the
device is given nothing, and of the stream at most the four bytes are gone. Behind the error mark
nothing of this holds: there a receive is started that nobody awaits, whose handler resumes
whatever the coroutine has come to, be it the read of the text, which has its bytes by then, or
the check of the size. -/
namespace Vpverk.SocketReadEnd
open Coroutine Octets Asioapi Peer ClientLoops

variable {sent stream : Bytes} {most amount buffer needRead passes : Nat} {socket : Socket}
  {cipher : Cipher} {aes : AesSession} {client : Client}

/-- What has been sent, and what is to arrive; no receive is pending that nobody awaits. -/
def Stands (sent stream : Bytes) (socket : Socket) : Prop :=
  socket.sent = sent ∧ socket.stream = stream ∧ socket.strayHandler = false

/-- Nothing more has been sent, and of what was to arrive at most so many bytes are gone. -/
def Took (sent stream : Bytes) (most : Nat) (socket : Socket) : Prop :=
  ∃ taken rest, taken.length ≤ most ∧ stream = taken ++ rest ∧ Stands sent rest socket

theorem Stands.took (stands : Stands sent stream socket) : Took sent stream most socket :=
  ⟨[], stream, Nat.zero_le _, rfl, stands⟩

/-- How a coroutine may stop that leaves such a socket: within what the language defines. -/
def Stops (holds : Socket → Prop) (how : Stop) (socket : Socket) : Prop :=
  how ≠ .undefined ∧ holds socket

/-! ### What a read takes -/

/-- What a read has answered is what is gone, and an error leaves everything. -/
def Answered (sent stream : Bytes) (amount : Nat) (answer : Except ErrorCode Bytes) (socket : Socket) :
    Prop :=
  match answer with
  | .ok read => read.length ≤ amount ∧ ∃ rest, stream = read ++ rest ∧ Stands sent rest socket
  | .error _ => Stands sent stream socket

theorem takeArrived_none {arrivals : List Arrival} (dry : takeArrived amount arrivals = none) :
    arrivals.flatMap Arrival.content = [] := by
  induction arrivals with
  | nil => rfl
  | cons arrival later ih =>
    cases arrival with
    | nothing => simpa [Arrival.content] using ih dry
    | fails code => cases dry
    | bytes segment =>
      rw [takeArrived] at dry
      split at dry <;> cases dry

theorem takeArrived_some {arrivals rest : List Arrival} {answer : Except ErrorCode Bytes}
    (took : takeArrived amount arrivals = some (answer, rest)) :
    (∃ read, answer = .ok read ∧ read.length ≤ amount ∧
      arrivals.flatMap Arrival.content = read ++ rest.flatMap Arrival.content) ∨
    ∃ code, answer = .error code ∧
      arrivals.flatMap Arrival.content = rest.flatMap Arrival.content := by
  induction arrivals with
  | nil => cases took
  | cons arrival later ih =>
    cases arrival with
    | nothing => simpa [Arrival.content] using ih took
    | fails code =>
      cases took
      exact .inr ⟨code, rfl, rfl⟩
    | bytes segment =>
      left
      rw [takeArrived] at took
      split at took
      · cases took
        exact ⟨_, rfl, List.length_take_le .., by simp [Arrival.content, ← List.append_assoc]⟩
      · rename_i whole
        cases took
        exact ⟨_, rfl, by simpa using whole, by simp [Arrival.content]⟩

theorem awaitRead_answers (amount : Nat) :
    Ensures (Stands sent stream) (awaitRead amount) (Answered sent stream amount)
      (Stops (Stands sent stream)) := by
  constructor
  · rintro before answer after ⟨rfl, rfl, awaited⟩ ran
    unfold awaitRead at ran
    dsimp only at ran
    rw [if_neg (by simp [awaited])] at ran
    split at ran
    · cases ran
    · rename_i took
      cases ran
      rcases takeArrived_some took with ⟨read, rfl, few, content⟩ | ⟨code, rfl, content⟩
      · exact ⟨few, _, content, rfl, rfl, awaited⟩
      · exact ⟨rfl, content.symm, awaited⟩
  · rintro before how after ⟨rfl, rfl, awaited⟩ ran
    unfold awaitRead at ran
    dsimp only at ran
    rw [if_neg (by simp [awaited])] at ran
    split at ran <;> cases ran
    rename_i dry
    exact ⟨by simp, rfl, (takeArrived_none dry).symm, awaited⟩

theorem reliableIsOpen_stands :
    Ensures (Stands sent stream) reliableIsOpen (fun _ => Stands sent stream)
      (Stops (Stands sent stream)) := by
  constructor
  · rintro before answer after ⟨rfl, rfl, awaited⟩ ran
    obtain ⟨_, kept, rfl⟩ := takes_reliableIsOpen _ _ _ ran
    exact ⟨(silent_reliableIsOpen _).ends _ _ _ rfl ran, kept.symm,
      (reliableIsOpen_ends.ends _ _ _ awaited ran).1⟩
  · rintro before how after ⟨_, _, awaited⟩ ran
    exact (reliableIsOpen_ends.stops _ _ _ awaited ran).elim

theorem readSomeUnreliable_answers (some_buffer : buffer ≠ 0) (some_amount : amount ≠ 0) :
    Ensures (Stands sent stream) (readSomeUnreliable buffer amount) (Answered sent stream amount)
      (Stops (Stands sent stream)) := by
  apply (ensures_cussert "buffer.size()" fun none => absurd (by simpa using none) some_buffer).bind
  intro _
  split
  · exact ensures_pure fun _ stands => stands
  · split
    · exact ensures_pure fun _ stands => stands
    · apply reliableIsOpen_stands.bind
      rintro (code | _ | _)
      · exact ensures_pure fun _ stands => stands
      · exact ensures_pure fun _ stands => stands
      · dsimp only
        exact awaitRead_answers amount

/-- However it ends, `read_some` has taken no more than it is asked for. -/
theorem readFrom_took {wasRead rest : Bytes} (fits : needRead ≤ buffer)
    (whole : stream = wasRead ++ rest) (begun : wasRead.length ≤ needRead) :
    Ensures (Stands sent rest) (readFrom buffer needRead passes wasRead)
      (fun _ => Took sent stream needRead) (Stops (Took sent stream needRead)) := by
  have sofar (socket : Socket) (stands : Stands sent rest socket) : Took sent stream needRead socket :=
    ⟨wasRead, rest, begun, whole, stands⟩
  induction passes generalizing wasRead rest with
  | zero => exact ensures_pure sofar
  | succ passes ih =>
    rw [readFrom]
    split
    · exact ensures_pure sofar
    · rename_i undone
      have reads : Ensures (Stands sent rest)
          (readSomeUnreliable (buffer - wasRead.length) (needRead - wasRead.length)) _ _ :=
        readSomeUnreliable_answers (by omega) (by omega)
      apply (reads.weaken (fun _ stands => stands) (fun _ _ answered => answered)
        fun _ socket stops => ⟨stops.1, sofar socket stops.2⟩).bind
      rintro (code | bytes)
      · exact ensures_pure sofar
      · have known : ∀ socket, Answered sent rest (needRead - wasRead.length) (.ok bytes) socket →
            bytes.length ≤ needRead - wasRead.length ∧ ∃ later, rest = bytes ++ later := by
          rintro _ ⟨few, later, whole', _⟩
          exact ⟨few, later, whole'⟩
        apply ensures_knowing known
        · rintro ⟨few, later, rfl⟩
          have whole' : stream = (wasRead ++ bytes) ++ later := by rw [whole, List.append_assoc]
          have begun' : (wasRead ++ bytes).length ≤ needRead := by
            rw [List.length_append]
            omega
          apply (ih whole' begun' fun _ stands => ⟨_, later, begun', whole', stands⟩).begun
          rintro socket ⟨_, later', same, stands⟩
          rwa [List.append_cancel_left same]

/-! ### The header -/

/-- The header is what the stream begins with, and no mark if the stream does not begin with
one. -/
theorem header_took (unmarked : ¬ encode errorMark <+: stream) :
    Ensures (Stands sent stream) (throwExpEc (readSome 4 0))
      (fun sizeCrypted socket => Took sent stream 4 socket ∧ decode sizeCrypted ≠ errorMark)
      (Stops (Took sent stream 4)) := by
  have reads : Ensures (Stands sent stream) (readSome 4 0)
      (fun answer socket => Took sent stream 4 socket ∧
        ∀ bytes, answer = .ok bytes → decode bytes ≠ errorMark) (Stops (Took sent stream 4)) := by
    have took : Ensures (Stands sent stream) (readSome 4 0) (fun _ => Took sent stream 4)
        (Stops (Took sent stream 4)) := readFrom_took (Nat.le_refl 4) rfl (Nat.zero_le _)
    constructor
    · intro before answer after stands ran
      refine ⟨took.ends _ _ _ stands ran, ?_⟩
      rintro bytes rfl marked
      obtain ⟨_, whole, read⟩ := takes_readSome 4 0 _ _ _ ran
      obtain ⟨rfl, four⟩ := read bytes rfl
      rw [stands.2.1] at whole
      refine unmarked ⟨after.stream, ?_⟩
      rw [whole, ← marked, encode_decode four]
    · exact took.stops
  apply reads.bind
  rintro (code | bytes)
  · exact ensures_stop fun _ held => ⟨by simp, held.1⟩
  · exact ensures_pure fun _ held => ⟨held.1, held.2 bytes rfl⟩

/-- However it ends, `read_block_size` has taken no more than the four bytes. -/
theorem readBlockSize_took (cipher : Cipher) (aes : AesSession)
    (unmarked : ¬ encode errorMark <+: stream) :
    Ensures (Stands sent stream) (readBlockSize cipher aes true) (fun _ => Took sent stream 4)
      (Stops (Took sent stream 4)) := by
  apply (header_took unmarked).bind
  intro sizeCrypted
  rw [if_pos rfl]
  split
  · exact ensures_stop fun _ held => ⟨by simp, held.1⟩
  · apply ensures_knowing fun _ held => held.2
    intro plain
    rw [sizeOrError, if_neg plain]
    exact ensures_pure fun _ held => held.1

/-! ### The loop -/

/-- What the check of the size and the read behind it come to. -/
def refusal (size : UInt32) : Stop :=
  if size.toNat > maxPacket then .throws (ErrorCode.message .noBufferSpace)
  else .aborts "read_size > max_possible_ip_packet_size"

theorem socketReadLoop_pass (cipher : Cipher) (passes : Nat) (aes : AesSession) (client : Client) :
    (socketReadLoop cipher (passes + 1) aes).run client =
      if client.stopRequested then (.ok (), client)
      else
        match (readBlockSize cipher aes true).run client.socket with
        | (.ok (size, _), socket) => (.error (refusal size), { client with socket := socket })
        | (.error how, socket) => (.error how, { client with socket := socket }) := by
  rw [socketReadLoop, bind_look_run]
  split
  · rfl
  · cases ran : (readBlockSize cipher aes true).run client.socket with
    | mk answer socket =>
      cases answer with
      | error how => exact bind_error (Client.onSocket_run ran)
      | ok read =>
        apply (bind_ok (Client.onSocket_run ran)).trans
        dsimp only
        by_cases large : read.1.toNat > maxPacket
        · have refused : readSome maxPacket read.1.toNat = pure (.error .noBufferSpace) :=
            if_pos ⟨large, by omega⟩
          rw [bind_ok (cussert_run _ (by simpa using large)), refused, refusal, if_pos large]
          rfl
        · rw [refusal, if_neg large]
          exact bind_error (cussert_fails _ (by simpa using large))

/-- However the loop stops, the device has been given nothing, at most a header is gone, and
nothing has been done that the language does not define. -/
theorem socketReadLoop_stands (cipher : Cipher) (passes : Nat) (aes : AesSession) (client : Client)
    (awaited : client.socket.strayHandler = false)
    (unmarked : ¬ encode errorMark <+: client.socket.stream) :
    ((socketReadLoop cipher passes aes).run client).2.tun = client.tun ∧
      Took client.socket.sent client.socket.stream 4
        ((socketReadLoop cipher passes aes).run client).2.socket ∧
      ((socketReadLoop cipher passes aes).run client).1 ≠ .error .undefined := by
  have stands : Stands client.socket.sent client.socket.stream client.socket := ⟨rfl, rfl, awaited⟩
  have reads : Ensures (Stands client.socket.sent client.socket.stream) (readBlockSize cipher aes true)
      _ _ := readBlockSize_took cipher aes unmarked
  cases passes with
  | zero => exact ⟨rfl, stands.took, by simp [socketReadLoop]⟩
  | succ passes =>
    rw [socketReadLoop_pass]
    split
    · exact ⟨rfl, stands.took, by simp⟩
    · split
      · rename_i ran
        refine ⟨rfl, reads.ends _ _ _ stands ran, ?_⟩
        unfold refusal
        split <;> simp
      · rename_i ran
        obtain ⟨defined, took⟩ := reads.stops _ _ _ stands ran
        exact ⟨rfl, took, by simpa using defined⟩

/-- **The client's read loop never goes round.** Whatever its socket brings or fails with, unless
that is the error mark, a first header is all it comes to: it sends nothing, hands its tun device
nothing and takes at most four bytes, and it comes to its end only if stop was requested before.
A header that it can read aborts the client, by the check of the size where that is a packet's,
and else by the read behind it. -/
theorem read_loop_never_goes_round (cipher : Cipher) (aes : AesSession) (client : Client)
    (awaited : client.socket.strayHandler = false)
    (unmarked : ¬ encode errorMark <+: client.socket.stream) :
    ∃ answer after,
      (∀ passes, (startSocketRead cipher (passes + 1) aes).run client = (answer, after)) ∧
      after.tun = client.tun ∧ Took client.socket.sent client.socket.stream 4 after.socket ∧
      answer ≠ .error .undefined ∧ (answer = .ok () ↔ client.stopRequested = true) ∧
      ∀ size aes' socket, client.stopRequested = false →
        (readBlockSize cipher aes true).run client.socket = (.ok (size, aes'), socket) →
        answer = .error (.aborts (if size.toNat ≤ maxPacket then
          "read_size > max_possible_ip_packet_size" else ErrorCode.message .noBufferSpace)) := by
  have stands := socketReadLoop_stands cipher 1 aes client awaited unmarked
  have again (passes : Nat) : (socketReadLoop cipher (passes + 1) aes).run client =
      (socketReadLoop cipher 1 aes).run client := by
    rw [socketReadLoop_pass, socketReadLoop_pass]
  have ends : ((socketReadLoop cipher 1 aes).run client).1 = .ok () ↔ client.stopRequested = true := by
    rw [socketReadLoop_pass]
    split
    · simp_all
    · rename_i going
      split <;> simp [going]
  have refused : ∀ size aes' socket, client.stopRequested = false →
      (readBlockSize cipher aes true).run client.socket = (.ok (size, aes'), socket) →
      ((socketReadLoop cipher 1 aes).run client).1 = .error (refusal size) := by
    intro size aes' socket going read
    rw [socketReadLoop_pass, if_neg (by simp [going]), read]
  cases ran : (socketReadLoop cipher 1 aes).run client with
  | mk first after =>
    rw [ran] at stands ends refused
    obtain ⟨tun, took, defined⟩ := stands
    by_cases thrown : ∃ what, first = .error (.throws what)
    · obtain ⟨what, rfl⟩ := thrown
      refine ⟨.error (.aborts what), after, fun passes => tryCatch_throws ((again passes).trans ran),
        tun, took, by simp, by simpa using ends, fun size aes' socket going read => ?_⟩
      have told := refused size aes' socket going read
      unfold refusal at told
      split at told <;> cases told
      rename_i large
      rw [if_neg (by omega)]
    · refine ⟨first, after, fun passes => tryCatch_body ((again passes).trans ran)
        fun what same => thrown ⟨what, same⟩, tun, took, defined, ends,
        fun size aes' socket going read => ?_⟩
      have told := refused size aes' socket going read
      unfold refusal at told
      split at told
      · exact absurd ⟨_, told⟩ thrown
      · rename_i small
        rw [if_pos (by omega)]
        exact told

/-- The header of a packet of twenty bytes. -/
def twenty : Client := { socket := { arrivals := [.bytes ⟨[20, 0, 0, 0], by decide⟩] } }

theorem read_loop_never_goes_round_twenty :
    ∃ after, (startSocketRead (fun _ _ _ => 0) 1 ⟨[], [], [], 0, 0⟩).run twenty =
        (.error (.aborts "read_size > max_possible_ip_packet_size"), after) ∧
      after.tun = twenty.tun ∧ after.socket.sent = [] := by
  obtain ⟨answer, after, ran, tun, took, _, _, refused⟩ := read_loop_never_goes_round
    (fun _ _ _ => 0) ⟨[], [], [], 0, 0⟩ twenty rfl (by decide)
  obtain ⟨_, _, _, _, sent, _⟩ := took
  obtain rfl := refused 20 ⟨[], [], [], 0, 4⟩ _ rfl rfl
  exact ⟨after, ran 0, tun, sent⟩

end Vpverk.SocketReadEnd
