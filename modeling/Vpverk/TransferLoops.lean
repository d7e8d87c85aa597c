import Vpverk.Asioapi

/-! The loops of `cvk_asio::send` and `cvk_asio::read_some` with their 32-bit
counters and the spans they cut from a buffer. What a socket does is left open:
the loops only ask it whether it is open, to write a span and to read into one. -/
namespace Vpverk.TransferLoops
open Coroutine Octets
open Asioapi (ErrorCode Socket maxUint32 cussert cussert_run)

/-- A `std::span` of the buffer a call was given. -/
structure Span where
  start : Nat
  size : Nat
  deriving DecidableEq, Repr

/-- What the loops ask of a socket: a write tells how many bytes it took, a read
hands over the bytes it has. -/
structure Calls (World : Type) where
  reliableIsOpen : Coroutine World (Except ErrorCode Bool)
  asyncWriteSome : Bytes → Coroutine World (Except ErrorCode Nat)
  asyncReadSome : Nat → Coroutine World (Except ErrorCode Bytes)

/-- What a step of a loop has reported. -/
inductive Step where
  | looked (answer : Except ErrorCode Bool)
  /-- So many bytes were written or read, from this place of the buffer on. -/
  | moved (start count : Nat)
  | failed (code : ErrorCode)

/-- A socket, the buffer of a call, and what the steps have reported. -/
structure Held (World : Type) where
  socket : World
  buffer : Bytes
  steps : List Step := []

variable {World : Type}

def onSocket {α : Type} (inner : Coroutine World α) : Coroutine (Held World) α :=
  within Held.socket (fun socket held => { held with socket := socket }) inner

def report (step : Step) : Coroutine (Held World) Unit :=
  change fun held => { held with steps := held.steps ++ [step] }

/-- `subspan`, which is undefined past the end. -/
def Span.subspan (span : Span) (offset : Nat) : Coroutine World Span :=
  if offset ≤ span.size then pure ⟨span.start + offset, span.size - offset⟩ else stop .undefined

/-- `first`, which is undefined past the end. -/
def Span.first (span : Span) (count : Nat) : Coroutine World Span :=
  if count ≤ span.size then pure ⟨span.start, count⟩ else stop .undefined

/-- The bytes of a span. -/
def Span.bytes (span : Span) (buffer : Bytes) : Bytes := (buffer.drop span.start).take span.size

/-- The buffer with these bytes at the front of a span. -/
def Span.filled (span : Span) (bytes buffer : Bytes) : Bytes :=
  buffer.take span.start ++ bytes ++ buffer.drop (span.start + bytes.length)

section
variable (calls : Calls World)

/-- `reliable_is_open`. -/
def reliableIsOpen : Coroutine (Held World) (Except ErrorCode Bool) := do
  let ex ← onSocket calls.reliableIsOpen
  report (.looked ex)
  pure ex

/-- `await::send`. -/
def awaitSend (sendBuffer : Span) : Coroutine (Held World) (Except ErrorCode UInt32) := do
  match ← onSocket (calls.asyncWriteSome (sendBuffer.bytes (← look).buffer)) with
  | .error ec =>
    report (.failed ec)
    pure (.error ec)
  | .ok sendBytes =>
    report (.moved sendBuffer.start sendBytes)
    pure (.ok (UInt32.ofNat sendBytes))

/-- `await::read`. -/
def awaitRead (readBuffer : Span) : Coroutine (Held World) (Except ErrorCode UInt32) := do
  match ← onSocket (calls.asyncReadSome readBuffer.size) with
  | .error ec =>
    report (.failed ec)
    pure (.error ec)
  | .ok bytes =>
    change fun held => { held with buffer := readBuffer.filled bytes held.buffer }
    report (.moved readBuffer.start bytes.length)
    pure (.ok (UInt32.ofNat bytes.length))

/-- The loop of `send`, at most `passes` times round. -/
def sendFrom (buffer : Span) : Nat → UInt32 → Coroutine (Held World) (Except ErrorCode Unit)
  | 0, _ => running
  | passes + 1, offset => do
    if offset.toNat = buffer.size then pure (.ok ())
    else
      match ← awaitSend calls (← buffer.subspan offset.toNat) with
      | .error code => pure (.error code)
      | .ok sendBytes => sendFrom buffer passes (offset + sendBytes)

/-- `send`. -/
def send (buffer : Span) : Coroutine (Held World) (Except ErrorCode Unit) := do
  cussert (buffer.size ≠ 0) "buffer.size()"
  if buffer.size = 0 ∨ maxUint32 < buffer.size then pure (.error .messageSize)
  else
    match ← reliableIsOpen calls with
    | .error code => pure (.error code)
    | .ok false => pure (.error .connectionReset)
    | .ok true => sendFrom calls buffer (buffer.size + 1) 0

/-- `read_some_unreliable`. -/
def readSomeUnreliable (outBuffer : Span) (amount : UInt32) :
    Coroutine (Held World) (Except ErrorCode UInt32) := do
  cussert (outBuffer.size ≠ 0) "buffer.size()"
  if outBuffer.size = 0 ∨ maxUint32 < max amount.toNat outBuffer.size then
    pure (.error .messageSize)
  else if outBuffer.size < amount.toNat then pure (.error .invalidArgument)
  else
    match ← reliableIsOpen calls with
    | .error code => pure (.error code)
    | .ok false => pure (.error .connectionReset)
    | .ok true =>
      let amount := if amount = 0 then UInt32.ofNat outBuffer.size else amount
      awaitRead calls (← outBuffer.first amount.toNat)

/-- The loop of `read_some`, at most `passes` times round. -/
def readFrom (outBuffer : Span) (needRead : UInt32) :
    Nat → UInt32 → Coroutine (Held World) (Except ErrorCode Unit)
  | 0, _ => running
  | passes + 1, wasRead => do
    if wasRead = needRead then pure (.ok ())
    else
      match ← readSomeUnreliable calls (← outBuffer.subspan wasRead.toNat) (needRead - wasRead) with
      | .error code => pure (.error code)
      | .ok read => readFrom outBuffer needRead passes (wasRead + read)

/-- `read_some`. -/
def readSome (outBuffer : Span) (amount : UInt32) :
    Coroutine (Held World) (Except ErrorCode Unit) := do
  if outBuffer.size < amount.toNat ∧ amount ≠ 0 then pure (.error .noBufferSpace)
  else
    let needRead := if amount = 0 then UInt32.ofNat outBuffer.size else amount
    readFrom calls outBuffer needRead (needRead.toNat + 1) 0

end

theorem onSocket_run {α : Type} {inner : Coroutine World α} {held : Held World} {answer : Except Stop α}
    {socket : World} (ran : inner.run held.socket = (answer, socket)) :
    (onSocket inner).run held = (answer, { held with socket := socket }) :=
  within_run ran

theorem first_run {held : Held World} {span : Span} {count : Nat} (fits : count ≤ span.size) :
    (span.first count).run held = (.ok ⟨span.start, count⟩, held) := by
  rw [Span.first, if_pos fits]
  rfl

theorem subspan_run {size offset : Nat} (held : Held World) (fits : offset ≤ size) :
    (Span.subspan ⟨0, size⟩ offset).run held = (.ok ⟨offset, size - offset⟩, held) := by
  rw [Span.subspan, if_pos fits, Nat.zero_add]
  rfl

/-! ### What the steps have reported -/

/-- The error a step has reported; a socket that is not open is a connection that
was reset. -/
def Step.error : Step → Option ErrorCode
  | .looked (.ok true) | .moved .. => none
  | .looked (.ok false) => some .connectionReset
  | .looked (.error code) | .failed code => some code

/-- A call answers the error of its last step, and none if no step had one. -/
def Reported (steps : List Step) : Except ErrorCode Unit → Prop
  | .ok () => ∀ step ∈ steps, step.error = none
  | .error code => ∃ init last, steps = init ++ [last] ∧ last.error = some code ∧
      ∀ step ∈ init, step.error = none

/-- Every transfer stays within the first `size` bytes. -/
def Inside (size : Nat) (steps : List Step) : Prop :=
  ∀ start count, .moved start count ∈ steps → 0 < count ∧ start + count ≤ size

variable {steps later : List Step} {answer : Except ErrorCode Unit} {size : Nat}

theorem reported_failed {step : Step} {code : ErrorCode} (failed : step.error = some code) :
    Reported [step] (.error code) :=
  ⟨[], step, rfl, failed, by simp⟩

/-- Steps without an error before the others. -/
theorem Reported.after (reported : Reported later answer)
    (quiet : ∀ step ∈ steps, step.error = none) : Reported (steps ++ later) answer := by
  cases answer with
  | ok value =>
    intro step member
    exact (List.mem_append.mp member).elim (quiet step) (reported step)
  | error code =>
    obtain ⟨init, last, rfl, failed, before⟩ := reported
    refine ⟨steps ++ init, last, by simp, failed, fun step member => ?_⟩
    exact (List.mem_append.mp member).elim (quiet step) (before step)

theorem Inside.append (first : Inside size steps) (second : Inside size later) :
    Inside size (steps ++ later) := fun start count member =>
  (List.mem_append.mp member).elim (first start count) (second start count)

/-! ### A socket that answers as it likes -/

/-- What a socket answers in turn: to `reliable_is_open`, that it is open once this
list is used up; to a write or a read, an error or how many bytes it moves, of
those it was asked for and has, and all of them once this list is used up. -/
structure Line where
  looks : List (Except ErrorCode Bool) := []
  counts : List (Except ErrorCode Nat) := []
  stream : Bytes := []
  sent : Bytes := []

/-- A count between one and the size asked for. -/
def partialCount (count size : Nat) : Nat := max 1 (min count size)

/-- What the first of these counts makes of a transfer of so many bytes. -/
def transferred (counts : List (Except ErrorCode Nat)) (asked : Nat) : Except ErrorCode Nat :=
  match counts with
  | [] => .ok asked
  | answer :: _ => answer.map (partialCount · asked)

def Line.reliableIsOpen : Coroutine Line (Except ErrorCode Bool) := ⟨fun line =>
  match line.looks with
  | [] => (.ok (.ok true), line)
  | answer :: rest => (.ok answer, { line with looks := rest })⟩

def Line.asyncWriteSome (bytes : Bytes) : Coroutine Line (Except ErrorCode Nat) := ⟨fun line =>
  match line.counts with
  | [] => (.ok (.ok bytes.length), { line with sent := line.sent ++ bytes })
  | .error code :: rest => (.ok (.error code), { line with counts := rest })
  | .ok count :: rest =>
    let written := partialCount count bytes.length
    (.ok (.ok written), { line with counts := rest, sent := line.sent ++ bytes.take written })⟩

def Line.asyncReadSome (size : Nat) : Coroutine Line (Except ErrorCode Bytes) := ⟨fun line =>
  match line.counts with
  | .error code :: rest => (.ok (.error code), { line with counts := rest })
  | counts =>
    if line.stream = [] then (.error .waits, line)
    else
      let read := match counts with
        | .ok count :: _ => partialCount count size
        | _ => size
      (.ok (.ok (line.stream.take read)),
        { line with counts := counts.tail, stream := line.stream.drop read })⟩

def Line.calls : Calls Line where
  reliableIsOpen := Line.reliableIsOpen
  asyncWriteSome := Line.asyncWriteSome
  asyncReadSome := Line.asyncReadSome

variable {line : Line} {held : Held Line}

/-- The steps report what the socket answers in turn, to looks and to transfers of what is
left of the first `size` bytes; after them it has these answers left. -/
inductive Replays (size : Nat) (after : Line) :
    List (Except ErrorCode Bool) → List (Except ErrorCode Nat) → Nat → List Step → Prop where
  | done {start} : Replays size after after.looks after.counts start []
  | looked {looks counts start steps} : Replays size after looks.tail counts start steps →
      Replays size after looks counts start (.looked (looks.headD (.ok true)) :: steps)
  | moved {looks counts start count steps} : transferred counts (size - start) = .ok count →
      Replays size after looks counts.tail (start + count) steps →
      Replays size after looks counts start (.moved start count :: steps)
  | failed {looks counts start code steps} : transferred counts (size - start) = .error code →
      Replays size after looks counts.tail start steps →
      Replays size after looks counts start (.failed code :: steps)

/-- The socket is always found open, and none of its transfers fails. -/
structure Line.Sound (line : Line) : Prop where
  looks : ∀ answer ∈ line.looks, answer = .ok true
  counts : ∀ code, .error code ∉ line.counts

theorem transferred_error {counts : List (Except ErrorCode Nat)} {asked : Nat} {code : ErrorCode}
    (fails : transferred counts asked = .error code) : .error code ∈ counts := by
  cases counts with
  | nil => cases fails
  | cons answer rest =>
    cases answer with
    | error code' =>
      cases fails
      exact List.mem_cons_self ..
    | ok count => cases fails

/-- A sound socket has no error to report. -/
theorem Replays.quiet {after : Line} {looks : List (Except ErrorCode Bool)}
    {counts : List (Except ErrorCode Nat)} {start : Nat}
    (replays : Replays size after looks counts start steps)
    (opened : ∀ answer ∈ looks, answer = .ok true) (moves : ∀ code, .error code ∉ counts) :
    ∀ step ∈ steps, step.error = none := by
  induction replays with
  | done => simp
  | @looked looks counts start steps _ ih =>
    have found : looks.headD (.ok true) = .ok true := by
      cases looks with
      | nil => rfl
      | cons answer rest => exact opened answer (List.mem_cons_self ..)
    rw [found]
    refine List.forall_mem_cons.mpr ⟨rfl, ih (fun answer member => ?_) moves⟩
    exact opened answer (List.mem_of_mem_tail member)
  | moved _ _ ih =>
    refine List.forall_mem_cons.mpr ⟨rfl, ih opened fun code member => ?_⟩
    exact moves code (List.mem_of_mem_tail member)
  | failed fails => exact absurd (transferred_error fails) (moves _)

/-- A call whose steps are those of a sound socket comes to its end without an error. -/
theorem Replays.ends {after : Line} {start : Nat}
    (replays : Replays size after line.looks line.counts start steps)
    (reported : Reported steps answer) (sound : line.Sound) : answer = .ok () := by
  have quiet := replays.quiet sound.looks sound.counts
  cases answer with
  | ok => rfl
  | error code =>
    obtain ⟨init, last, rfl, failed, _⟩ := reported
    rw [quiet last (by simp)] at failed
    cases failed

/-- A transfer has used the first count, and no look. -/
structure Answered (line after : Line) (asked : Nat) (answer : Except ErrorCode Nat) : Prop where
  looks : after.looks = line.looks
  counts : after.counts = line.counts.tail
  answer : transferred line.counts asked = answer

theorem Answered.failed {after : Line} {start : Nat} {code : ErrorCode}
    (answered : Answered line after (size - start) (.error code)) :
    Replays size after line.looks line.counts start [.failed code] := by
  refine .failed answered.answer ?_
  rw [← answered.looks, ← answered.counts]
  exact .done

theorem Answered.moved {mid after : Line} {start count : Nat}
    (answered : Answered line mid (size - start) (.ok count))
    (replays : Replays size after mid.looks mid.counts (start + count) steps) :
    Replays size after line.looks line.counts start (.moved start count :: steps) := by
  refine .moved answered.answer ?_
  rw [← answered.looks, ← answered.counts]
  exact replays

theorem asyncWriteSome_answers (line : Line) {bytes : Bytes} (nonempty : bytes ≠ []) :
    (∃ code after, (Line.calls.asyncWriteSome bytes).run line = (.ok (.error code), after) ∧
      Answered line after bytes.length (.error code) ∧
      after.sent = line.sent ∧ after.stream = line.stream) ∨
    ∃ count after, (Line.calls.asyncWriteSome bytes).run line = (.ok (.ok count), after) ∧
      Answered line after bytes.length (.ok count) ∧
      0 < count ∧ count ≤ bytes.length ∧ after.sent = line.sent ++ bytes.take count ∧
        after.stream = line.stream := by
  have some_bytes := List.length_pos_iff.mpr nonempty
  obtain ⟨looks, counts, stream, sent⟩ := line
  cases counts with
  | nil => exact .inr ⟨_, _, rfl, ⟨rfl, rfl, rfl⟩, some_bytes, Nat.le_refl _, by simp, rfl⟩
  | cons answer rest =>
    cases answer with
    | error code => exact .inl ⟨code, _, rfl, ⟨rfl, rfl, rfl⟩, rfl, rfl⟩
    | ok count =>
      refine .inr ⟨partialCount count bytes.length, _, rfl, ⟨rfl, rfl, rfl⟩, ?_, ?_, rfl, rfl⟩ <;>
      · unfold partialCount
        omega

theorem asyncReadSome_answers (line : Line) {size : Nat} (some_size : 0 < size)
    (comes : size ≤ line.stream.length) :
    (∃ code after, (Line.calls.asyncReadSome size).run line = (.ok (.error code), after) ∧
      Answered line after size (.error code) ∧
      after.stream = line.stream ∧ after.sent = line.sent) ∨
    ∃ bytes after, (Line.calls.asyncReadSome size).run line = (.ok (.ok bytes), after) ∧
      Answered line after size (.ok bytes.length) ∧
      0 < bytes.length ∧ bytes.length ≤ size ∧ line.stream = bytes ++ after.stream ∧
        after.sent = line.sent := by
  have more : line.stream ≠ [] := List.length_pos_iff.mp (by omega)
  obtain ⟨looks, counts, stream, sent⟩ := line
  have took (read : Nat) (few : read ≤ size) : (stream.take read).length = read :=
    List.length_take_of_le (Nat.le_trans few comes)
  have clamped (count : Nat) : 0 < partialCount count size ∧ partialCount count size ≤ size := by
    unfold partialCount
    omega
  cases counts with
  | nil =>
    have length := took size (Nat.le_refl _)
    refine .inr ⟨stream.take size, { looks, counts := [], stream := stream.drop size, sent },
      ?_, ⟨rfl, rfl, congrArg Except.ok length.symm⟩, by omega, by omega, by simp, rfl⟩
    simp [Line.calls, Line.asyncReadSome, if_neg more]
  | cons answer rest =>
    cases answer with
    | error code => exact .inl ⟨code, _, rfl, ⟨rfl, rfl, rfl⟩, rfl, rfl⟩
    | ok count =>
      obtain ⟨positive, few⟩ := clamped count
      have length := took _ few
      refine .inr ⟨stream.take (partialCount count size),
        { looks, counts := rest, stream := stream.drop (partialCount count size), sent },
        ?_, ⟨rfl, rfl, congrArg Except.ok length.symm⟩, by omega, by omega, by simp, rfl⟩
      simp [Line.calls, Line.asyncReadSome, if_neg more]

/-! ### One step of the loops -/

theorem reliableIsOpen_answers (held : Held Line) :
    ∃ ex socket, (reliableIsOpen Line.calls).run held =
        (.ok ex, ⟨socket, held.buffer, held.steps ++ [.looked ex]⟩) ∧
      ex = held.socket.looks.headD (.ok true) ∧ socket.looks = held.socket.looks.tail ∧
      socket.counts = held.socket.counts ∧
      socket.stream = held.socket.stream ∧ socket.sent = held.socket.sent := by
  obtain ⟨⟨looks, counts, stream, sent⟩, buffer, steps⟩ := held
  cases looks with
  | nil => exact ⟨.ok true, _, rfl, rfl, rfl, rfl, rfl, rfl⟩
  | cons answer rest => exact ⟨answer, _, rfl, rfl, rfl, rfl, rfl, rfl⟩

/-- A span of the buffer has as many bytes as its size tells. -/
theorem length_bytes {span : Span} {buffer : Bytes} (within : span.start + span.size ≤ buffer.length) :
    (span.bytes buffer).length = span.size := by
  rw [Span.bytes, List.length_take, List.length_drop]
  omega

theorem awaitSend_answers (held : Held Line) (span : Span) (some_bytes : 0 < span.size)
    (within : span.start + span.size ≤ held.buffer.length) :
    (∃ code socket, (awaitSend Line.calls span).run held =
        (.ok (.error code), ⟨socket, held.buffer, held.steps ++ [.failed code]⟩) ∧
      Answered held.socket socket span.size (.error code) ∧
      socket.sent = held.socket.sent ∧ socket.stream = held.socket.stream) ∨
    ∃ count socket, (awaitSend Line.calls span).run held =
        (.ok (.ok (UInt32.ofNat count)),
          ⟨socket, held.buffer, held.steps ++ [.moved span.start count]⟩) ∧
      Answered held.socket socket span.size (.ok count) ∧
      0 < count ∧ count ≤ span.size ∧
      socket.sent = held.socket.sent ++ (span.bytes held.buffer).take count ∧
      socket.stream = held.socket.stream := by
  have length := length_bytes within
  have nonempty : span.bytes held.buffer ≠ [] := List.length_pos_iff.mp (by omega)
  rcases asyncWriteSome_answers held.socket nonempty with
    ⟨code, socket, ran, answered, sent, stream⟩ |
    ⟨count, socket, ran, answered, positive, few, sent, stream⟩
  · refine .inl ⟨code, socket, ?_, length ▸ answered, sent, stream⟩
    rw [awaitSend, bind_look_run, bind_ok (onSocket_run ran)]
    rfl
  · refine .inr ⟨count, socket, ?_, length ▸ answered, positive, length ▸ few, sent, stream⟩
    rw [awaitSend, bind_look_run, bind_ok (onSocket_run ran)]
    rfl

theorem awaitRead_answers (held : Held Line) (span : Span) (some_bytes : 0 < span.size)
    (comes : span.size ≤ held.socket.stream.length) :
    (∃ code socket, (awaitRead Line.calls span).run held =
        (.ok (.error code), ⟨socket, held.buffer, held.steps ++ [.failed code]⟩) ∧
      Answered held.socket socket span.size (.error code) ∧
      socket.stream = held.socket.stream ∧ socket.sent = held.socket.sent) ∨
    ∃ bytes socket, (awaitRead Line.calls span).run held =
        (.ok (.ok (UInt32.ofNat bytes.length)), ⟨socket, span.filled bytes held.buffer,
          held.steps ++ [.moved span.start bytes.length]⟩) ∧
      Answered held.socket socket span.size (.ok bytes.length) ∧
      0 < bytes.length ∧ bytes.length ≤ span.size ∧
      held.socket.stream = bytes ++ socket.stream ∧ socket.sent = held.socket.sent := by
  rcases asyncReadSome_answers held.socket some_bytes comes with
    ⟨code, socket, ran, answered, stream, sent⟩ |
    ⟨bytes, socket, ran, answered, positive, few, stream, sent⟩
  · refine .inl ⟨code, socket, ?_, answered, stream, sent⟩
    rw [awaitRead, bind_ok (onSocket_run ran)]
    rfl
  · refine .inr ⟨bytes, socket, ?_, answered, positive, few, stream, sent⟩
    rw [awaitRead, bind_ok (onSocket_run ran)]
    rfl

/-- The counters do not overflow where what they count fits. -/
theorem toNat_add_ofNat {offset : UInt32} {count : Nat}
    (fits : offset.toNat + count ≤ maxUint32) :
    (offset + UInt32.ofNat count).toNat = offset.toNat + count := by
  have bound : offset.toNat + count < UInt32.size := Nat.lt_of_le_pred (by decide) fits
  rw [UInt32.toNat_add, UInt32.toNat_ofNat_of_lt' (by omega)]
  exact Nat.mod_eq_of_lt bound

/-! ### The loops -/

/-- What the steps of a loop tell that began at an offset: it has moved `count`
bytes of the first `size`, all that were left unless a step reported an error. -/
structure Told (size offset count : Nat) (steps : List Step) (answer : Except ErrorCode Unit) :
    Prop where
  reported : Reported steps answer
  inside : Inside size steps
  within : offset + count ≤ size
  whole : answer = .ok () → offset + count = size

theorem told_done (size : Nat) : Told size size 0 [] (.ok ()) :=
  ⟨by simp [Reported], by simp [Inside], Nat.le_refl _, fun _ => rfl⟩

theorem told_failed {offset : Nat} {step : Step} {code : ErrorCode} (failed : step.error = some code)
    (within : offset ≤ size) : Told size offset 0 [step] (.error code) := by
  refine ⟨reported_failed failed, fun start count member => ?_, within, by simp⟩
  cases List.mem_singleton.mp member
  cases failed

/-- The transfer of some bytes before those the others tell of. -/
theorem Told.next {offset count more : Nat} (some_bytes : 0 < count)
    (told : Told size (offset + count) more later answer) :
    Told size offset (count + more) (.moved offset count :: later) answer := by
  have here : Inside size [.moved offset count] := by
    intro start some_count member
    cases List.mem_singleton.mp member
    exact ⟨some_bytes, Nat.le_trans (Nat.le_add_right ..) told.within⟩
  have quiet : ∀ step ∈ [Step.moved offset count], step.error = none := by simp [Step.error]
  refine ⟨told.reported.after quiet, here.append told.inside, ?_, ?_⟩
  · rw [← Nat.add_assoc]
    exact told.within
  · rw [← Nat.add_assoc]
    exact told.whole

/-- A look at an open socket before all that. -/
theorem Told.looked {offset count : Nat} (told : Told size offset count later answer) :
    Told size offset count (.looked (.ok true) :: later) answer := by
  have here : Inside size [.looked (.ok true)] := by simp [Inside]
  have quiet : ∀ step ∈ [Step.looked (.ok true)], step.error = none := by simp [Step.error]
  exact ⟨told.reported.after quiet, here.append told.inside, told.within, told.whole⟩

/-- The loop of `send` writes what is left of its buffer. -/
theorem sendFrom_answers (passes : Nat) (offset : UInt32) (held : Held Line)
    (begun : offset.toNat ≤ held.buffer.length) (small : held.buffer.length ≤ maxUint32)
    (enough : held.buffer.length - offset.toNat < passes) :
    ∃ answer count steps socket, (sendFrom Line.calls ⟨0, held.buffer.length⟩ passes offset).run held =
        (.ok answer, ⟨socket, held.buffer, held.steps ++ steps⟩) ∧
      Told held.buffer.length offset.toNat count steps answer ∧
      Replays held.buffer.length socket held.socket.looks held.socket.counts offset.toNat steps ∧
      socket.sent = held.socket.sent ++ (held.buffer.drop offset.toNat).take count ∧
      socket.stream = held.socket.stream := by
  induction passes generalizing offset held with
  | zero => omega
  | succ passes ih =>
    rw [sendFrom]
    by_cases done : offset.toNat = held.buffer.length
    · refine ⟨.ok (), 0, [], held.socket, ?_, done ▸ told_done _, .done, by simp, rfl⟩
      rw [if_pos done]
      simp
    · have more : 0 < (⟨offset.toNat, held.buffer.length - offset.toNat⟩ : Span).size :=
        Nat.sub_pos_of_lt (Nat.lt_of_le_of_ne begun done)
      have within : offset.toNat + (held.buffer.length - offset.toNat) ≤ held.buffer.length := by omega
      have rest : Span.bytes ⟨offset.toNat, held.buffer.length - offset.toNat⟩ held.buffer =
          held.buffer.drop offset.toNat := List.take_of_length_le (by simp)
      rw [if_neg done, bind_ok (subspan_run held begun)]
      rcases awaitSend_answers held _ more within with
        ⟨code, socket, ran, answered, sent, stream⟩ |
        ⟨count, socket, ran, answered, positive, few, sent, stream⟩
      · refine ⟨.error code, 0, [.failed code], socket, bind_ok ran, told_failed rfl begun,
          answered.failed, ?_, stream⟩
        simpa using sent
      · have few : count ≤ held.buffer.length - offset.toNat := few
        have moved : (offset + UInt32.ofNat count).toNat = offset.toNat + count :=
          toNat_add_ofNat (by omega)
        have begun' : offset.toNat + count ≤ held.buffer.length := by omega
        have enough' : held.buffer.length - (offset.toNat + count) < passes := by omega
        obtain ⟨answer, later, steps, after, ended, told, replays, sent', stream'⟩ :=
          ih (offset + UInt32.ofNat count)
            ⟨socket, held.buffer, held.steps ++ [.moved offset.toNat count]⟩
            (moved ▸ begun') small (moved ▸ enough')
        rw [moved] at told replays sent'
        refine ⟨answer, count + later, .moved offset.toNat count :: steps, after, ?_,
          told.next positive, answered.moved replays, ?_, stream'.trans stream⟩
        · rw [bind_ok ran]
          exact ended.trans (by simp)
        · rw [sent', sent, rest, List.append_assoc, List.take_add, List.drop_drop]

/-- Filling a span and then what is behind it fills both. -/
theorem filled_filled {start size size' : Nat} {first second buffer : Bytes}
    (within : start ≤ buffer.length) :
    Span.filled ⟨start + first.length, size'⟩ second (Span.filled ⟨start, size⟩ first buffer) =
      Span.filled ⟨start, size⟩ (first ++ second) buffer := by
  have front : (buffer.take start ++ first).length = start + first.length := by
    rw [List.length_append, List.length_take_of_le within]
  simp only [Span.filled]
  rw [List.take_left' front, ← List.drop_drop, List.drop_left' front, List.drop_drop,
    List.length_append]
  simp only [List.append_assoc, Nat.add_assoc]

theorem length_filled (span : Span) {bytes buffer : Bytes}
    (within : span.start + bytes.length ≤ buffer.length) :
    (span.filled bytes buffer).length = buffer.length := by
  simp only [Span.filled, List.length_append, List.length_take, List.length_drop]
  omega

/-- `read_some_unreliable` reports an error, or fills the front of its span with some of
the bytes asked for. -/
theorem readSomeUnreliable_answers (held : Held Line) (span : Span) (amount : UInt32)
    (some_amount : 0 < amount.toNat) (fits : amount.toNat ≤ span.size) (small : span.size ≤ maxUint32)
    (comes : amount.toNat ≤ held.socket.stream.length) :
    (∃ code steps socket, (readSomeUnreliable Line.calls span amount).run held =
        (.ok (.error code), ⟨socket, held.buffer, held.steps ++ steps⟩) ∧
      (∀ size start, size - start = amount.toNat → start ≤ size →
        Told size start 0 steps (.error code) ∧
          Replays size socket held.socket.looks held.socket.counts start steps) ∧
      socket.stream = held.socket.stream ∧ socket.sent = held.socket.sent) ∨
    ∃ bytes opened socket, (readSomeUnreliable Line.calls span amount).run held =
        (.ok (.ok (UInt32.ofNat bytes.length)), ⟨socket, span.filled bytes held.buffer,
          held.steps ++ [.looked (.ok true), .moved span.start bytes.length]⟩) ∧
      held.socket.looks.headD (.ok true) = .ok true ∧ opened.looks = held.socket.looks.tail ∧
      opened.counts = held.socket.counts ∧ Answered opened socket amount.toNat (.ok bytes.length) ∧
      0 < bytes.length ∧ bytes.length ≤ amount.toNat ∧
      held.socket.stream = bytes ++ socket.stream ∧ socket.sent = held.socket.sent := by
  have asserted : decide (span.size ≠ 0) = true := decide_eq_true (by omega)
  have checked : ¬ (span.size = 0 ∨ maxUint32 < max amount.toNat span.size) := by omega
  have named : amount ≠ 0 := by
    rintro rfl
    exact absurd some_amount (by decide)
  obtain ⟨ex, opened, looked, found, looks, counts, stream, sent⟩ := reliableIsOpen_answers held
  rw [readSomeUnreliable, bind_ok (cussert_run _ asserted), if_neg checked, if_neg (by omega),
    bind_ok looked]
  have refused : ∀ size start, Replays size opened held.socket.looks held.socket.counts start
      [.looked ex] := by
    intro size start
    rw [found, ← counts]
    refine .looked ?_
    rw [← looks]
    exact .done
  rcases ex with code | _ | _
  · exact .inl ⟨code, [.looked (.error code)], opened, rfl,
      fun size start _ within => ⟨told_failed rfl within, refused size start⟩, stream, sent⟩
  · exact .inl ⟨.connectionReset, [.looked (.ok false)], opened, rfl,
      fun size start _ within => ⟨told_failed rfl within, refused size start⟩, stream, sent⟩
  · have comes' : amount.toNat ≤ opened.stream.length := stream ▸ comes
    dsimp only
    rw [if_neg named, bind_ok (first_run fits)]
    rcases awaitRead_answers ⟨opened, held.buffer, held.steps ++ [.looked (.ok true)]⟩
        ⟨span.start, amount.toNat⟩ some_amount comes' with
      ⟨code, socket, ran, answered, stream', sent'⟩ |
      ⟨bytes, socket, ran, answered, positive, few, stream', sent'⟩
    · refine .inl ⟨code, [.looked (.ok true), .failed code], socket, ran.trans (by simp), ?_,
        stream'.trans stream, sent'.trans sent⟩
      intro size start asked within
      refine ⟨(told_failed rfl within).looked, ?_⟩
      rw [found]
      refine .looked ?_
      rw [← looks, ← counts]
      exact Answered.failed (asked ▸ answered)
    · exact .inr ⟨bytes, opened, socket, ran.trans (by simp [Span.filled]), found.symm, looks, counts,
        answered, positive, few, stream ▸ stream', sent'.trans sent⟩

/-- The loop of `read_some` fills what is left of the bytes needed. -/
theorem readFrom_answers (passes : Nat) (needRead wasRead : UInt32) (held : Held Line)
    (begun : wasRead.toNat ≤ needRead.toNat) (fits : needRead.toNat ≤ held.buffer.length)
    (small : held.buffer.length ≤ maxUint32) (enough : needRead.toNat - wasRead.toNat < passes)
    (comes : needRead.toNat - wasRead.toNat ≤ held.socket.stream.length) :
    ∃ answer bytes steps socket,
      (readFrom Line.calls ⟨0, held.buffer.length⟩ needRead passes wasRead).run held =
        (.ok answer, ⟨socket, Span.filled ⟨wasRead.toNat, 0⟩ bytes held.buffer,
          held.steps ++ steps⟩) ∧
      Told needRead.toNat wasRead.toNat bytes.length steps answer ∧
      Replays needRead.toNat socket held.socket.looks held.socket.counts wasRead.toNat steps ∧
      held.socket.stream = bytes ++ socket.stream ∧ socket.sent = held.socket.sent := by
  induction passes generalizing wasRead held with
  | zero => omega
  | succ passes ih =>
    rw [readFrom]
    by_cases done : wasRead = needRead
    · refine ⟨.ok (), [], [], held.socket, ?_, done ▸ told_done _, .done, rfl, rfl⟩
      rw [if_pos done]
      simp [Span.filled]
    · have ahead : wasRead.toNat < needRead.toNat :=
        Nat.lt_of_le_of_ne begun fun same => done (UInt32.toNat_inj.mp same)
      have left : (needRead - wasRead).toNat = needRead.toNat - wasRead.toNat :=
        UInt32.toNat_sub_of_le _ _ (UInt32.le_iff_toNat_le.mpr begun)
      have some_amount : 0 < (needRead - wasRead).toNat := by omega
      have room : (needRead - wasRead).toNat ≤ held.buffer.length - wasRead.toNat := by omega
      rw [if_neg done, bind_ok (subspan_run held (Nat.le_trans begun fits))]
      rcases readSomeUnreliable_answers held ⟨wasRead.toNat, held.buffer.length - wasRead.toNat⟩
          (needRead - wasRead) some_amount room (Nat.le_trans (Nat.sub_le ..) small)
          (left ▸ comes) with
        ⟨code, steps, socket, ran, told, stream, sent⟩ |
        ⟨bytes, opened, socket, ran, found, looks, counts, answered, positive, few, stream, sent⟩
      · obtain ⟨told, replays⟩ := told needRead.toNat wasRead.toNat left.symm begun
        refine ⟨.error code, [], steps, socket, ?_, told, replays, stream.symm, sent⟩
        rw [bind_ok ran]
        simp [Span.filled]
      · have moved : (wasRead + UInt32.ofNat bytes.length).toNat = wasRead.toNat + bytes.length :=
          toNat_add_ofNat (by omega)
        have length : held.socket.stream.length = bytes.length + socket.stream.length := by
          rw [stream, List.length_append]
        have begun' : wasRead.toNat + bytes.length ≤ needRead.toNat := by omega
        have comes' : needRead.toNat - (wasRead.toNat + bytes.length) ≤ socket.stream.length := by
          omega
        let span : Span := ⟨wasRead.toNat, held.buffer.length - wasRead.toNat⟩
        have same : (span.filled bytes held.buffer).length = held.buffer.length :=
          length_filled span (Nat.le_trans begun' fits)
        have further := ih (wasRead + UInt32.ofNat bytes.length) ⟨socket, span.filled bytes held.buffer,
          held.steps ++ [.looked (.ok true), .moved wasRead.toNat bytes.length]⟩ (moved ▸ begun')
          (same.symm ▸ fits) (same.symm ▸ small) (by omega) (moved ▸ comes')
        rw [moved] at further
        dsimp only at further
        rw [same] at further
        obtain ⟨answer, later, steps, after, ended, told, replays, stream', sent'⟩ := further
        refine ⟨answer, bytes ++ later, .looked (.ok true) :: .moved wasRead.toNat bytes.length :: steps,
          after, ?_, ?_, ?_, ?_, sent'.trans sent⟩
        · rw [bind_ok ran]
          refine ended.trans ?_
          rw [filled_filled (Nat.le_trans begun fits)]
          simp [Span.filled]
        · rw [List.length_append]
          exact (told.next positive).looked
        · rw [← found]
          refine .looked ?_
          rw [← looks, ← counts]
          exact Answered.moved (left ▸ answered) replays
        · rw [List.append_assoc, ← stream', stream]

/-! ### The calls -/

/-- `send` comes back; its steps report what the socket answers in turn, and it answers the
error they report, if they do. What it has written is a beginning of its buffer, and all of
it when no step has reported an error. -/
def SendsExactly (line : Line) (buffer : Bytes) : Prop :=
  ∃ answer count steps after,
    (send Line.calls ⟨0, buffer.length⟩).run ⟨line, buffer, []⟩ =
      (.ok answer, ⟨after, buffer, steps⟩) ∧
    Replays buffer.length after line.looks line.counts 0 steps ∧
    Reported steps answer ∧ (line.Sound → answer = .ok ()) ∧ Inside buffer.length steps ∧
    after.sent = line.sent ++ buffer.take count ∧ count ≤ buffer.length ∧
    (answer = .ok () → after.sent = line.sent ++ buffer) ∧ after.stream = line.stream

/-- `read_some` comes back; its steps report what the socket answers in turn, and it answers
the error they report, if they do. What it has read is a beginning of the stream, no more
than was asked for, and stands in front of what else the buffer held; and it is all
that was asked for when no step has reported an error. -/
def ReadsExactly (line : Line) (buffer : Bytes) (amount : UInt32) : Prop :=
  ∃ answer bytes steps after,
    (readSome Line.calls ⟨0, buffer.length⟩ amount).run ⟨line, buffer, []⟩ =
      (.ok answer, ⟨after, bytes ++ buffer.drop bytes.length, steps⟩) ∧
    Replays amount.toNat after line.looks line.counts 0 steps ∧
    Reported steps answer ∧ (line.Sound → answer = .ok ()) ∧ Inside amount.toNat steps ∧
    line.stream = bytes ++ after.stream ∧ bytes.length ≤ amount.toNat ∧
    (answer = .ok () → bytes = line.stream.take amount.toNat) ∧ after.sent = line.sent

theorem send_exact (line : Line) {buffer : Bytes} (nonempty : buffer ≠ [])
    (small : buffer.length < UInt32.size) : SendsExactly line buffer := by
  have some_bytes := List.length_pos_iff.mpr nonempty
  have small : buffer.length ≤ maxUint32 := Nat.le_pred_of_lt small
  have asserted : decide (buffer.length ≠ 0) = true := decide_eq_true (by omega)
  obtain ⟨ex, opened, looked, found, looks, counts, stream, sent⟩ :=
    reliableIsOpen_answers ⟨line, buffer, []⟩
  dsimp only at found looks counts stream sent
  have start : (send Line.calls ⟨0, buffer.length⟩).run ⟨line, buffer, []⟩ = _ :=
    (bind_ok (cussert_run _ asserted)).trans rfl
  rw [if_neg (by omega : ¬ (buffer.length = 0 ∨ maxUint32 < buffer.length)), bind_ok looked] at start
  -- A socket that is not open ends the call at once.
  have refused {code : ErrorCode} (failed : (Step.looked ex).error = some code)
      (ran : (send Line.calls ⟨0, buffer.length⟩).run ⟨line, buffer, []⟩ =
        (.ok (.error code), ⟨opened, buffer, [.looked ex]⟩)) : SendsExactly line buffer := by
    have replays : Replays buffer.length opened line.looks line.counts 0 [.looked ex] := by
      rw [found, ← counts]
      refine .looked ?_
      rw [← looks]
      exact .done
    have told := told_failed failed (Nat.zero_le buffer.length)
    exact ⟨.error code, 0, [.looked ex], opened, ran, replays, told.reported,
      replays.ends told.reported, told.inside, by simpa using sent, Nat.zero_le _, by simp, stream⟩
  rcases ex with code | _ | _
  · exact refused rfl start
  · exact refused rfl start
  · obtain ⟨answer, count, steps, after, ran, told, replays, sent', stream'⟩ :=
      sendFrom_answers (buffer.length + 1) 0 ⟨opened, buffer, [.looked (.ok true)]⟩
        (Nat.zero_le _) small (Nat.lt_succ_self _)
    have told : Told buffer.length 0 count steps answer := told
    have replays : Replays buffer.length after line.looks line.counts 0
        (.looked (.ok true) :: steps) := by
      rw [found]
      refine .looked ?_
      rw [← looks, ← counts]
      exact replays
    have within : count ≤ buffer.length := by simpa using told.within
    have written : after.sent = line.sent ++ buffer.take count := by simpa [sent] using sent'
    refine ⟨answer, count, _, after, start.trans ran, replays, told.looked.reported,
      replays.ends told.looked.reported, told.looked.inside, written, within, fun ended => ?_,
      stream'.trans stream⟩
    have whole : count = buffer.length := by simpa using told.whole ended
    rw [written, whole, List.take_length]

theorem readSome_exact (line : Line) {buffer : Bytes} {amount : UInt32}
    (small : buffer.length < UInt32.size) (some_amount : 1 ≤ amount.toNat)
    (fits : amount.toNat ≤ buffer.length) (comes : amount.toNat ≤ line.stream.length) :
    ReadsExactly line buffer amount := by
  have named : amount ≠ 0 := by
    rintro rfl
    exact absurd some_amount (by decide)
  obtain ⟨answer, bytes, steps, after, ran, told, replays, stream, sent⟩ :=
    readFrom_answers (amount.toNat + 1) amount 0 ⟨line, buffer, []⟩ (Nat.zero_le _) fits
      (Nat.le_pred_of_lt small) (Nat.lt_succ_self _) comes
  have told : Told amount.toNat 0 bytes.length steps answer := told
  have replays : Replays amount.toNat after line.looks line.counts 0 steps := replays
  have stream : line.stream = bytes ++ after.stream := stream
  have front : Span.filled ⟨0, 0⟩ bytes buffer = bytes ++ buffer.drop bytes.length := by
    simp [Span.filled]
  refine ⟨answer, bytes, steps, after, ?_, replays, told.reported, replays.ends told.reported,
    told.inside, stream, by simpa using told.within, fun ended => ?_, sent⟩
  · rw [readSome, if_neg fun refused => absurd fits (Nat.not_le.mpr refused.1), if_neg named]
    exact ran.trans (by rw [← front]; rfl)
  · have whole : bytes.length = amount.toNat := by simpa using told.whole ended
    rw [stream, List.take_left' whole]

/-- **The loops transfer every byte once.** However the socket answers the steps of
`send` and of `read_some`, no byte is lost or repeated, no span and no counter goes
past the buffer, and an error that a step reports is the answer of the call; where the socket
has none to report there is none. -/
theorem transfers_exact (line : Line) :
    (∀ buffer : Bytes, buffer ≠ [] → buffer.length < UInt32.size → SendsExactly line buffer) ∧
    ∀ (buffer : Bytes) (amount : UInt32), buffer.length < UInt32.size →
      1 ≤ amount.toNat → amount.toNat ≤ buffer.length → amount.toNat ≤ line.stream.length →
      ReadsExactly line buffer amount :=
  ⟨fun _ nonempty small => send_exact line nonempty small,
    fun _ _ small some_amount fits comes => readSome_exact line small some_amount fits comes⟩

/-- Three bytes that the socket takes one and two at a time, and four that it hands
over three and one at a time. -/
theorem transfers_exact_in_pieces :
    (∃ steps after, (send Line.calls ⟨0, 3⟩).run ⟨{ counts := [.ok 1, .ok 2] }, [1, 2, 3], []⟩ =
        (.ok (.ok ()), ⟨after, [1, 2, 3], steps⟩) ∧ after.sent = [1, 2, 3]) ∧
      ∃ steps after, (readSome Line.calls ⟨0, 6⟩ 4).run
          ⟨{ counts := [.ok 3, .ok 1], stream := [1, 2, 3, 4, 5] }, [0, 0, 0, 0, 0, 0], []⟩ =
        (.ok (.ok ()), ⟨after, [1, 2, 3, 4, 0, 0], steps⟩) ∧ after.stream = [5] := by
  constructor
  · obtain ⟨_, _, steps, after, ran, _, _, ends, _, _, _, whole, _⟩ :=
      (transfers_exact { counts := [.ok 1, .ok 2] }).1 [1, 2, 3] (by decide) (by decide)
    obtain rfl := ends ⟨by simp, by simp⟩
    exact ⟨steps, after, ran, whole rfl⟩
  · obtain ⟨_, bytes, steps, after, ran, _, _, ends, _, stream, _, whole, _⟩ :=
      (transfers_exact { counts := [.ok 3, .ok 1], stream := [1, 2, 3, 4, 5] }).2
        [0, 0, 0, 0, 0, 0] 4 (by decide) (by decide) (by decide) (by decide)
    obtain rfl := ends ⟨by simp, by simp⟩
    obtain rfl := whole rfl
    have parts : [1, 2, 3, 4] ++ [5] = [1, 2, 3, 4] ++ after.stream := stream
    exact ⟨steps, after, ran, (List.append_cancel_left parts).symm⟩

end Vpverk.TransferLoops
