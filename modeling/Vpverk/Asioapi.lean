import Mathlib.Data.List.Basic
import Vpverk.Coroutine
import Vpverk.Octets

/-! The `cvk_asio` functions over one end of a TCP connection. What the socket
finds when it is read or looked at, and how much of a write it takes, is a
script that belongs to the socket: a statement about every script is a statement
about every way the network may cut the bytes. -/
namespace Vpverk.Asioapi
open Coroutine Octets

/-- The error codes the program makes or compares with, and the others by
their messages. -/
inductive ErrorCode where
  | messageSize
  | invalidArgument
  | noBufferSpace
  | connectionReset
  | operationCanceled
  | eof
  | other (text : String)
  deriving DecidableEq, Repr

def ErrorCode.message : ErrorCode → String
  | .messageSize => "Message too long"
  | .invalidArgument => "Invalid argument"
  | .noBufferSpace => "No buffer space available"
  | .connectionReset => "Connection reset by peer"
  | .operationCanceled => "Operation canceled"
  | .eof => "End of file"
  | .other text => text

/-- Bytes that arrive together; there is at least one. -/
structure Segment where
  bytes : Bytes
  nonempty : bytes ≠ []
  deriving DecidableEq

/-- What the reads of a socket meet. A look that does not wait finds `nothing`
once and a read that waits passes it over; a failure stays. -/
inductive Arrival where
  | bytes (segment : Segment)
  | nothing
  | fails (code : ErrorCode)

/-- One end of a connection: what is to arrive, how much the writes take in
turn (everything once that list is used up), and what has been written. After a
receive that nobody awaits, its handler resumes whatever the coroutine waits
for next. -/
structure Socket where
  isOpen : Bool := true
  arrivals : List Arrival := []
  accepts : List (Except ErrorCode Nat) := []
  sent : Bytes := []
  strayHandler : Bool := false

/-- `cussert`: the process dies unless the condition holds. -/
def cussert {World : Type} (condition : Bool) (expression : String) : Coroutine World Unit :=
  if condition then pure () else abort expression

/-- `reliable_is_open`. -/
def reliableIsOpen : Coroutine Socket (Except ErrorCode Bool) := ⟨fun socket =>
  if !socket.isOpen then (.ok (.ok false), socket)
  else
    match socket.arrivals with
    | [] | .bytes _ :: _ => (.ok (.ok true), socket)
    | .nothing :: rest => (.ok (.ok true), { socket with arrivals := rest })
    | .fails .eof :: _ | .fails .connectionReset :: _ => (.ok (.ok false), socket)
    | .fails code :: _ => (.ok (.error code), socket)⟩

/-- `available`: the bytes there are to read at once. -/
def available : Coroutine Socket Nat := ⟨fun socket =>
  if !socket.isOpen then (.error (.throws "available: Bad file descriptor"), socket)
  else
    match socket.arrivals with
    | .bytes segment :: _ => (.ok segment.bytes.length, socket)
    | .nothing :: rest => (.ok 0, { socket with arrivals := rest })
    | [] | .fails _ :: _ => (.ok 0, socket)⟩

/-- `async_wait` for reading: it is over when there is something to find, be it
nothing, and answers an error only when it was cancelled. -/
def waitRead : Coroutine Socket (Option ErrorCode) := ⟨fun socket =>
  if !socket.isOpen then (.ok (some (.other "Bad file descriptor")), socket)
  else
    match socket.arrivals with
    | [] => (.error .waits, socket)
    | .fails .operationCanceled :: _ => (.ok (some .operationCanceled), socket)
    | .bytes _ :: _ | .nothing :: _ | .fails _ :: _ => (.ok none, socket)⟩

/-- What a read of at most `amount` bytes takes. -/
def takeArrived (amount : Nat) : List Arrival → Option (Except ErrorCode Bytes × List Arrival)
  | [] => none
  | .nothing :: rest => takeArrived amount rest
  | .fails code :: rest => some (.error code, .fails code :: rest)
  | .bytes segment :: rest =>
    if more : segment.bytes.drop amount ≠ [] then
      some (.ok (segment.bytes.take amount), .bytes ⟨segment.bytes.drop amount, more⟩ :: rest)
    else some (.ok segment.bytes, rest)

/-- `await::read`: at least one byte, or an error. With a receive pending that nobody awaits, its
handler resumes the coroutine while the read is under way, which may have taken bytes already: what
becomes of either is not followed. -/
def awaitRead (amount : Nat) : Coroutine Socket (Except ErrorCode Bytes) := ⟨fun socket =>
  if socket.strayHandler then (.error .undefined, socket)
  else
    match takeArrived amount socket.arrivals with
    | none => (.error .waits, { socket with arrivals := [] })
    | some (answer, arrivals) => (.ok answer, { socket with arrivals := arrivals })⟩

/-- `await::send`: how many bytes were written, at least one, or an error. A write that the peer
lets wait for ever, by reading nothing any more, is left out. -/
def awaitSend (buffer : Bytes) : Coroutine Socket (Except ErrorCode Nat) := ⟨fun socket =>
  if socket.strayHandler then (.error .undefined, socket)
  else
    match socket.accepts with
    | [] => (.ok (.ok buffer.length), { socket with sent := socket.sent ++ buffer })
    | .error code :: _ => (.ok (.error code), socket)
    | .ok count :: rest =>
      let sendBytes := max 1 (min count buffer.length)
      (.ok (.ok sendBytes),
        { socket with accepts := rest, sent := socket.sent ++ buffer.take sendBytes })⟩

/-- The largest `uint32_t`. -/
def maxUint32 : Nat := UInt32.size - 1

/-- The loop of `send` from an offset on. Each pass writes at least one byte, so
as many passes as there are bytes are enough. -/
def sendFrom (buffer : Bytes) : Nat → Nat → Coroutine Socket (Except ErrorCode Unit)
  | 0, _ => pure (.ok ())
  | passes + 1, offset => do
    if offset = buffer.length then pure (.ok ())
    else
      match ← awaitSend (buffer.drop offset) with
      | .error code => pure (.error code)
      | .ok sendBytes => sendFrom buffer passes (offset + sendBytes)

/-- `send`. -/
def send (buffer : Bytes) : Coroutine Socket (Except ErrorCode Unit) := do
  cussert (buffer.length ≠ 0) "buffer.size()"
  if buffer = [] ∨ maxUint32 < buffer.length then pure (.error .messageSize)
  else
    match ← reliableIsOpen with
    | .error code => pure (.error code)
    | .ok false => pure (.error .connectionReset)
    | .ok true => sendFrom buffer buffer.length 0

/-- `read_some_unreliable`: at most `amount` bytes into a buffer; an amount of
zero asks for as much as the buffer holds. -/
def readSomeUnreliable (buffer amount : Nat) : Coroutine Socket (Except ErrorCode Bytes) := do
  cussert (buffer ≠ 0) "buffer.size()"
  if buffer = 0 ∨ maxUint32 < max amount buffer then pure (.error .messageSize)
  else if buffer < amount then pure (.error .invalidArgument)
  else
    match ← reliableIsOpen with
    | .error code => pure (.error code)
    | .ok false => pure (.error .connectionReset)
    | .ok true => awaitRead (if amount = 0 then buffer else amount)

/-- The loop of `read_some`, with what it has read so far. Each pass reads at
least one byte, so as many passes as bytes are needed are enough. -/
def readFrom (buffer needRead : Nat) : Nat → Bytes → Coroutine Socket (Except ErrorCode Bytes)
  | 0, wasRead => pure (.ok wasRead)
  | passes + 1, wasRead => do
    if wasRead.length = needRead then pure (.ok wasRead)
    else
      match ← readSomeUnreliable (buffer - wasRead.length) (needRead - wasRead.length) with
      | .error code => pure (.error code)
      | .ok bytes => readFrom buffer needRead passes (wasRead ++ bytes)

/-- `read_some`: exactly `amount` bytes into the front of a buffer, or as many
as it holds when the amount is zero. -/
def readSome (buffer amount : Nat) : Coroutine Socket (Except ErrorCode Bytes) :=
  if buffer < amount ∧ amount ≠ 0 then pure (.error .noBufferSpace)
  else
    let needRead := if amount = 0 then buffer else amount
    readFrom buffer needRead needRead []

/-! ### A connection that does not fail -/

/-- The bytes an arrival brings. -/
def Arrival.content : Arrival → Bytes
  | .bytes segment => segment.bytes
  | .nothing | .fails _ => []

/-- Everything that is to arrive, however it is cut. -/
def Socket.stream (socket : Socket) : Bytes := socket.arrivals.flatMap Arrival.content

/-- The connection is open and no read or write of it fails. -/
structure Socket.Healthy (socket : Socket) : Prop where
  isOpen : socket.isOpen = true
  arrives : ∀ code, .fails code ∉ socket.arrivals
  accepts : ∀ code, .error code ∉ socket.accepts
  noStray : socket.strayHandler = false

/-- From one state of a healthy socket to another, with the bytes read and the
bytes written on the way. -/
structure Moved (before after : Socket) (read written : Bytes) : Prop where
  healthy : after.Healthy
  stream : before.stream = read ++ after.stream
  sent : after.sent = before.sent ++ written
  fewer : after.arrivals.length ≤ before.arrivals.length

variable {socket before mid after : Socket} {read written read' written' : Bytes}

theorem Moved.still (healthy : socket.Healthy) : Moved socket socket [] [] :=
  ⟨healthy, rfl, by simp, Nat.le_refl _⟩

theorem Moved.trans (first : Moved before mid read written) (second : Moved mid after read' written') :
    Moved before after (read ++ read') (written ++ written') where
  healthy := second.healthy
  stream := by rw [first.stream, second.stream, List.append_assoc]
  sent := by rw [second.sent, first.sent, List.append_assoc]
  fewer := Nat.le_trans second.fewer first.fewer

/-- A change of what is to arrive, and of nothing else. -/
private theorem moved_arrivals {arrivals : List Arrival} (healthy : socket.Healthy)
    (stream : socket.stream = read ++ arrivals.flatMap Arrival.content)
    (arrives : ∀ code, .fails code ∉ arrivals) (fewer : arrivals.length ≤ socket.arrivals.length) :
    Moved socket { socket with arrivals := arrivals } read [] :=
  ⟨⟨healthy.isOpen, arrives, healthy.accepts, healthy.noStray⟩, stream, by simp, fewer⟩

/-- A healthy connection is found open. -/
theorem reliableIsOpen_healthy (healthy : socket.Healthy) :
    ∃ after, reliableIsOpen.run socket = (.ok (.ok true), after) ∧ Moved socket after [] [] := by
  have arrives := healthy.arrives
  cases found : socket.arrivals with
  | nil => exact ⟨socket, by simp [reliableIsOpen, healthy.isOpen, found], .still healthy⟩
  | cons arrival rest =>
    rw [found] at arrives
    cases arrival with
    | bytes segment => exact ⟨socket, by simp [reliableIsOpen, healthy.isOpen, found], .still healthy⟩
    | nothing =>
      refine ⟨{ socket with arrivals := rest }, by simp [reliableIsOpen, healthy.isOpen, found], ?_⟩
      exact moved_arrivals healthy (by simp [Socket.stream, found, Arrival.content])
        (fun code member => arrives code (List.mem_cons_of_mem _ member)) (by simp [found])
    | fails code => exact absurd (List.mem_cons_self ..) (arrives code)

/-- What a read takes is the beginning of what is to arrive, at least a byte of it. -/
private theorem takeArrived_some {amount : Nat} (some_amount : 0 < amount) {arrivals : List Arrival}
    (arrives : ∀ code, .fails code ∉ arrivals) (more : arrivals.flatMap Arrival.content ≠ []) :
    ∃ bytes rest, takeArrived amount arrivals = some (.ok bytes, rest) ∧ bytes ≠ [] ∧
      bytes.length ≤ amount ∧
      arrivals.flatMap Arrival.content = bytes ++ rest.flatMap Arrival.content ∧
      (∀ code, .fails code ∉ rest) ∧ rest.length ≤ arrivals.length := by
  induction arrivals with
  | nil => simp at more
  | cons arrival rest ih =>
    have later : ∀ code, .fails code ∉ rest :=
      fun code member => arrives code (List.mem_cons_of_mem _ member)
    cases arrival with
    | fails code => exact absurd (List.mem_cons_self ..) (arrives code)
    | nothing =>
      obtain ⟨bytes, rest', took, nonempty, small, content, arrives', fewer⟩ :=
        ih later (by simpa [Arrival.content] using more)
      refine ⟨bytes, rest', took, nonempty, small, by simpa [Arrival.content] using content,
        arrives', Nat.le_succ_of_le fewer⟩
    | bytes segment =>
      by_cases cut : segment.bytes.drop amount ≠ []
      · refine ⟨_, _, by rw [takeArrived, dif_pos cut], ?_, ?_, ?_, ?_, ?_⟩
        · simp [segment.nonempty, Nat.pos_iff_ne_zero.mp some_amount]
        · exact List.length_take_le ..
        · simp [Arrival.content, ← List.append_assoc]
        · simpa using later
        · simp
      · refine ⟨_, _, by rw [takeArrived, dif_neg cut], segment.nonempty, ?_, ?_, later, ?_⟩
        · simpa using cut
        · simp [Arrival.content]
        · simp

private theorem takeArrived_none {amount : Nat} {arrivals : List Arrival}
    (arrives : ∀ code, .fails code ∉ arrivals) (dry : arrivals.flatMap Arrival.content = []) :
    takeArrived amount arrivals = none := by
  induction arrivals with
  | nil => rfl
  | cons arrival rest ih =>
    cases arrival with
    | fails code => exact absurd (List.mem_cons_self ..) (arrives code)
    | nothing =>
      exact ih (fun code member => arrives code (List.mem_cons_of_mem _ member))
        (by simpa [Arrival.content] using dry)
    | bytes segment => simp [Arrival.content, segment.nonempty] at dry

theorem awaitRead_healthy (amount : Nat) (healthy : socket.Healthy) (some_amount : 0 < amount)
    (more : socket.stream ≠ []) :
    ∃ bytes after, (awaitRead amount).run socket = (.ok (.ok bytes), after) ∧ bytes ≠ [] ∧
      bytes.length ≤ amount ∧ Moved socket after bytes [] := by
  obtain ⟨bytes, rest, took, nonempty, small, content, arrives, fewer⟩ :=
    takeArrived_some some_amount healthy.arrives more
  exact ⟨bytes, { socket with arrivals := rest }, by simp [awaitRead, healthy.noStray, took],
    nonempty, small, moved_arrivals healthy content arrives fewer⟩

theorem awaitRead_dry (amount : Nat) (healthy : socket.Healthy) (dry : socket.stream = []) :
    ∃ after, (awaitRead amount).run socket = (.error .waits, after) ∧ Moved socket after [] [] :=
  ⟨{ socket with arrivals := [] },
    by simp [awaitRead, healthy.noStray, takeArrived_none healthy.arrives dry],
    moved_arrivals healthy dry (by simp) (by simp)⟩

theorem cussert_run {World : Type} {condition : Bool} {world : World} (expression : String)
    (holds : condition = true) : (cussert condition expression).run world = (.ok (), world) := by
  simp [cussert, holds]

theorem cussert_fails {World : Type} {condition : Bool} {world : World} (expression : String)
    (fails : condition = false) :
    (cussert condition expression).run world = (.error (.aborts expression), world) := by
  simp [cussert, fails]

/-- An assertion that is passed holds, and changes nothing. -/
theorem cussert_ok {World : Type} {condition : Bool} {expression : String} {world world' : World}
    {value : Unit} (ran : (cussert condition expression).run world = (.ok value, world')) :
    condition = true ∧ world' = world := by
  cases condition with
  | true =>
    cases ran
    exact ⟨rfl, rfl⟩
  | false => cases ran

/-- Where a read of the socket begins: its checks pass and the socket is open. -/
private theorem readSomeUnreliable_run (buffer amount : Nat) (healthy : socket.Healthy)
    (fits : amount ≤ buffer) (some_buffer : 0 < buffer) (small : buffer ≤ maxUint32) :
    ∃ after, Moved socket after [] [] ∧ (readSomeUnreliable buffer amount).run socket =
      (awaitRead (if amount = 0 then buffer else amount)).run after := by
  obtain ⟨after, opened, moved⟩ := reliableIsOpen_healthy healthy
  refine ⟨after, moved, ?_⟩
  rw [readSomeUnreliable, bind_ok (cussert_run _ (by simp; omega)), if_neg (by omega),
    if_neg (by omega), bind_ok opened]

/-- The loop of `read_some` on a healthy connection: with enough to come it
reads exactly what is needed; with less it takes all of it and waits. -/
private theorem readFrom_healthy {buffer needRead passes : Nat} (wasRead : Bytes)
    (fits : needRead ≤ buffer) (small : buffer ≤ maxUint32) (healthy : socket.Healthy)
    (begun : wasRead.length ≤ needRead) (enough : needRead - wasRead.length ≤ passes) :
    if needRead - wasRead.length ≤ socket.stream.length then
      ∃ after, (readFrom buffer needRead passes wasRead).run socket =
          (.ok (.ok (wasRead ++ socket.stream.take (needRead - wasRead.length))), after) ∧
        Moved socket after (socket.stream.take (needRead - wasRead.length)) []
    else ∃ after, (readFrom buffer needRead passes wasRead).run socket = (.error .waits, after) ∧
        Moved socket after socket.stream [] := by
  induction passes generalizing socket wasRead with
  | zero =>
    have done : needRead - wasRead.length = 0 := by omega
    simp only [done, Nat.zero_le, if_true, List.take_zero, List.append_nil]
    exact ⟨socket, rfl, .still healthy⟩
  | succ passes ih =>
    by_cases done : wasRead.length = needRead
    · simp only [done, Nat.sub_self, Nat.zero_le, if_true, List.take_zero, List.append_nil]
      exact ⟨socket, by rw [readFrom, if_pos done]; rfl, .still healthy⟩
    · obtain ⟨opened, moved, reads⟩ := readSomeUnreliable_run (buffer - wasRead.length)
        (needRead - wasRead.length) healthy (Nat.sub_le_sub_right fits _) (by omega) (Nat.le_trans (Nat.sub_le ..) small)
      rw [if_neg (by omega : needRead - wasRead.length ≠ 0)] at reads
      have same : opened.stream = socket.stream := by simpa using moved.stream.symm
      rw [readFrom, if_neg done]
      by_cases dry : opened.stream = []
      · obtain ⟨after, waits, moved'⟩ := awaitRead_dry
          (needRead - wasRead.length) moved.healthy dry
        rw [← same, dry, if_neg (by simp; omega)]
        exact ⟨after, bind_error (reads.trans waits), moved.trans moved'⟩
      · obtain ⟨bytes, mid, answered, nonempty, few, moved'⟩ := awaitRead_healthy
          (needRead - wasRead.length) moved.healthy (by omega) dry
        have some_bytes := List.length_pos_iff.mpr nonempty
        have left : needRead - (wasRead ++ bytes).length = needRead - wasRead.length - bytes.length := by
          rw [List.length_append]
          omega
        have rest := ih (wasRead ++ bytes) moved'.healthy
          (by rw [List.length_append]; omega) (by omega)
        have taken : socket.stream.take (needRead - wasRead.length) =
            bytes ++ mid.stream.take (needRead - wasRead.length - bytes.length) := by
          rw [← same, moved'.stream, List.take_append, List.take_of_length_le few]
        have length : socket.stream.length = bytes.length + mid.stream.length := by
          rw [← same, moved'.stream, List.length_append]
        rw [bind_ok (reads.trans answered)]
        rw [left] at rest
        split at rest
        · obtain ⟨after, ran, moved''⟩ := rest
          rw [if_pos (by omega), taken]
          refine ⟨after, ran.trans (by rw [List.append_assoc]), ?_⟩
          simpa using (moved.trans moved').trans moved''
        · obtain ⟨after, ran, moved''⟩ := rest
          rw [if_neg (by omega), ← same, moved'.stream]
          exact ⟨after, ran, by simpa using (moved.trans moved').trans moved''⟩

/-- How many bytes a `read_some` is asked for. -/
def needed (buffer amount : Nat) : Nat := if amount = 0 then buffer else amount

/-- On a healthy connection `read_some` reads exactly the bytes asked for,
however they are cut. -/
theorem readSome_healthy (buffer amount : Nat) (healthy : socket.Healthy) (fits : amount ≤ buffer)
    (small : buffer ≤ maxUint32) (enough : needed buffer amount ≤ socket.stream.length) :
    ∃ after, (readSome buffer amount).run socket =
        (.ok (.ok (socket.stream.take (needed buffer amount))), after) ∧
      Moved socket after (socket.stream.take (needed buffer amount)) [] := by
  have fits' : needed buffer amount ≤ buffer := by unfold needed; split <;> omega
  have ran := readFrom_healthy [] fits' small healthy (by simp) (Nat.le_refl _)
  simp only [List.length_nil, Nat.sub_zero, if_pos enough, List.nil_append] at ran
  rw [readSome, if_neg (by omega)]
  exact ran

/-- With too little to come it takes what there is and waits for more. -/
theorem readSome_waits (buffer amount : Nat) (healthy : socket.Healthy) (fits : amount ≤ buffer)
    (small : buffer ≤ maxUint32) (short : socket.stream.length < needed buffer amount) :
    ∃ after, (readSome buffer amount).run socket = (.error .waits, after) ∧
      Moved socket after socket.stream [] := by
  have fits' : needed buffer amount ≤ buffer := by unfold needed; split <;> omega
  have ran := readFrom_healthy [] fits' small healthy (by simp) (Nat.le_refl _)
  simp only [List.length_nil, Nat.sub_zero, if_neg (Nat.not_le.mpr short), List.nil_append] at ran
  rw [readSome, if_neg (by omega)]
  exact ran

/-! ### Writing -/

/-- A write that comes back without an error has written at least a byte. -/
theorem awaitSend_ok {buffer : Bytes} {count : Nat} (nonempty : buffer ≠ [])
    (ran : (awaitSend buffer).run before = (.ok (.ok count), after)) :
    0 < count ∧ count ≤ buffer.length ∧ after.sent = before.sent ++ buffer.take count := by
  have some_bytes := List.length_pos_iff.mpr nonempty
  simp only [awaitSend] at ran
  split at ran
  · cases ran
  · split at ran
    · cases ran
      exact ⟨some_bytes, Nat.le_refl _, by simp⟩
    · cases ran
    · cases ran
      exact ⟨by omega, by omega, rfl⟩

private theorem awaitSend_healthy {buffer : Bytes} (healthy : socket.Healthy) (nonempty : buffer ≠ []) :
    ∃ count after, (awaitSend buffer).run socket = (.ok (.ok count), after) ∧ 0 < count ∧
      count ≤ buffer.length ∧ Moved socket after [] (buffer.take count) := by
  have some_bytes := List.length_pos_iff.mpr nonempty
  have accepts := healthy.accepts
  cases found : socket.accepts with
  | nil =>
    refine ⟨buffer.length, { socket with sent := socket.sent ++ buffer },
      by simp [awaitSend, healthy.noStray, found], some_bytes, Nat.le_refl _, ?_⟩
    exact ⟨⟨healthy.isOpen, healthy.arrives, healthy.accepts, healthy.noStray⟩, rfl, by simp,
      Nat.le_refl _⟩
  | cons answer rest =>
    rw [found] at accepts
    cases answer with
    | error code => exact absurd (List.mem_cons_self ..) (accepts code)
    | ok asked =>
      refine ⟨max 1 (min asked buffer.length), { socket with
          accepts := rest
          sent := socket.sent ++ buffer.take (max 1 (min asked buffer.length)) },
        by simp [awaitSend, healthy.noStray, found], by omega, by omega, ?_⟩
      exact ⟨⟨healthy.isOpen, healthy.arrives,
        fun code member => accepts code (List.mem_cons_of_mem _ member), healthy.noStray⟩, rfl, rfl,
        Nat.le_refl _⟩

private theorem sendFrom_healthy (buffer : Bytes) {passes : Nat} (offset : Nat) (healthy : socket.Healthy)
    (inside : offset ≤ buffer.length) (enough : buffer.length - offset ≤ passes) :
    ∃ after, (sendFrom buffer passes offset).run socket = (.ok (.ok ()), after) ∧
      Moved socket after [] (buffer.drop offset) := by
  induction passes generalizing socket offset with
  | zero =>
    refine ⟨socket, rfl, ?_⟩
    rw [List.drop_of_length_le (by omega)]
    exact .still healthy
  | succ passes ih =>
    by_cases done : offset = buffer.length
    · refine ⟨socket, by rw [sendFrom, if_pos done]; rfl, ?_⟩
      rw [List.drop_of_length_le (by omega)]
      exact .still healthy
    · have more : buffer.drop offset ≠ [] := by simp; omega
      obtain ⟨count, mid, wrote, some_count, few, moved⟩ := awaitSend_healthy healthy more
      rw [List.length_drop] at few
      obtain ⟨after, ran, moved'⟩ := ih (offset + count) moved.healthy (by omega) (by omega)
      refine ⟨after, by rw [sendFrom, if_neg done, bind_ok wrote]; exact ran, ?_⟩
      have parts : (buffer.drop offset).take count ++ buffer.drop (offset + count) =
          buffer.drop offset := by
        rw [← List.drop_drop, List.take_append_drop]
      exact parts ▸ moved.trans moved'

/-- On a healthy connection `send` writes its buffer, however much each write
takes. -/
theorem send_healthy (buffer : Bytes) (healthy : socket.Healthy) (nonempty : buffer ≠ [])
    (small : buffer.length ≤ maxUint32) :
    ∃ after, (send buffer).run socket = (.ok (.ok ()), after) ∧ Moved socket after [] buffer := by
  obtain ⟨opened, isOpen, moved⟩ := reliableIsOpen_healthy healthy
  obtain ⟨after, ran, moved'⟩ :=
    sendFrom_healthy buffer 0 moved.healthy (Nat.zero_le _) (Nat.le_refl _)
  refine ⟨after, ?_, by simpa using moved.trans moved'⟩
  rw [send, bind_ok (cussert_run _ (by simpa using nonempty)),
    if_neg (by simp [nonempty, Nat.not_lt.mpr small]), bind_ok isOpen]
  exact ran

/-! ### What was written stays written -/

/-- Whatever becomes of it, a coroutine only adds to what its socket has sent. -/
def Grows {α : Type} (inner : Coroutine Socket α) : Prop :=
  ∀ socket, socket.sent <+: (inner.run socket).2.sent

variable {α β : Type} {inner : Coroutine Socket α} {next : α → Coroutine Socket β}

theorem grows_pure (value : α) : Grows (pure value) := fun _ => List.prefix_rfl

theorem grows_stop (how : Stop) : Grows (stop how : Coroutine Socket α) := fun _ => List.prefix_rfl

theorem Grows.bind (first : Grows inner) (second : ∀ value, Grows (next value)) :
    Grows (inner >>= next) := by
  intro socket
  have grown := first socket
  cases ran : inner.run socket with
  | mk answer after =>
    rw [ran] at grown
    cases answer with
    | ok value =>
      rw [bind_ok ran]
      exact grown.trans (second value after)
    | error how => rwa [bind_error ran]

theorem grows_cussert (condition : Bool) (expression : String) :
    Grows (cussert condition expression) := by
  unfold cussert
  split
  · exact grows_pure ()
  · exact grows_stop _

theorem grows_reliableIsOpen : Grows reliableIsOpen := by
  intro socket
  unfold reliableIsOpen
  dsimp only
  split
  · exact List.prefix_rfl
  · split <;> exact List.prefix_rfl

theorem grows_available : Grows available := by
  intro socket
  unfold available
  dsimp only
  split
  · exact List.prefix_rfl
  · split <;> exact List.prefix_rfl

theorem grows_awaitRead (amount : Nat) : Grows (awaitRead amount) := by
  intro socket
  unfold awaitRead
  dsimp only
  split
  · exact List.prefix_rfl
  · split <;> exact List.prefix_rfl

theorem grows_awaitSend (buffer : Bytes) : Grows (awaitSend buffer) := by
  intro socket
  unfold awaitSend
  dsimp only
  split
  · exact List.prefix_rfl
  · split
    · exact List.prefix_append _ _
    · exact List.prefix_rfl
    · exact List.prefix_append _ _

theorem grows_sendFrom (buffer : Bytes) (passes offset : Nat) :
    Grows (sendFrom buffer passes offset) := by
  induction passes generalizing offset with
  | zero => exact grows_pure _
  | succ passes ih =>
    rw [sendFrom]
    split
    · exact grows_pure _
    · apply (grows_awaitSend _).bind
      intro answer
      cases answer with
      | error code => exact grows_pure _
      | ok sendBytes => exact ih _

theorem grows_send (buffer : Bytes) : Grows (send buffer) := by
  apply (grows_cussert _ _).bind
  intro _
  split
  · exact grows_pure _
  · apply grows_reliableIsOpen.bind
    intro answer
    split
    · exact grows_pure _
    · exact grows_pure _
    · exact grows_sendFrom _ _ _

theorem grows_readSomeUnreliable (buffer amount : Nat) :
    Grows (readSomeUnreliable buffer amount) := by
  apply (grows_cussert _ _).bind
  intro _
  split
  · exact grows_pure _
  · split
    · exact grows_pure _
    · apply grows_reliableIsOpen.bind
      intro answer
      split
      · exact grows_pure _
      · exact grows_pure _
      · exact grows_awaitRead _

theorem grows_readFrom (buffer needRead passes : Nat) (wasRead : Bytes) :
    Grows (readFrom buffer needRead passes wasRead) := by
  induction passes generalizing wasRead with
  | zero => exact grows_pure _
  | succ passes ih =>
    rw [readFrom]
    split
    · exact grows_pure _
    · apply (grows_readSomeUnreliable _ _).bind
      intro answer
      cases answer with
      | error code => exact grows_pure _
      | ok bytes => exact ih _

theorem grows_readSome (buffer amount : Nat) : Grows (readSome buffer amount) := by
  unfold readSome
  split
  · exact grows_pure _
  · exact grows_readFrom _ _ _ _

/-! ### What was read was taken -/

/-- Whenever it comes to its end, a coroutine has taken from its socket's stream
what the relation says of its answer, and nothing else. -/
def Takes {α : Type} (inner : Coroutine Socket α) (taken : α → Bytes → Prop) : Prop :=
  ∀ socket value after, inner.run socket = (.ok value, after) →
    ∃ bytes, socket.stream = bytes ++ after.stream ∧ taken value bytes

variable {taken : α → Bytes → Prop} {takenNext : β → Bytes → Prop}

theorem takes_pure {value : α} (nothing : taken value []) :
    Takes (pure value : Coroutine Socket α) taken := by
  intro socket value' after ran
  cases ran
  exact ⟨[], rfl, nothing⟩

theorem takes_stop (how : Stop) : Takes (stop how : Coroutine Socket α) taken := by
  intro socket value after ran
  cases ran

theorem Takes.bind (first : Takes inner taken)
    (second : ∀ value bytes, taken value bytes →
      Takes (next value) fun last more => takenNext last (bytes ++ more)) :
    Takes (inner >>= next) takenNext := by
  intro socket last after ran
  obtain ⟨value, mid, ran, ran'⟩ := bind_run_ok ran
  obtain ⟨bytes, stream, took⟩ := first _ _ _ ran
  obtain ⟨more, stream', took'⟩ := second value bytes took _ _ _ ran'
  exact ⟨bytes ++ more, by rw [stream, stream', List.append_assoc], took'⟩

theorem takes_cussert (condition : Bool) (expression : String) :
    Takes (cussert condition expression) fun _ bytes => bytes = [] := by
  unfold cussert
  split
  · exact takes_pure rfl
  · exact takes_stop _

theorem takes_reliableIsOpen : Takes reliableIsOpen fun _ bytes => bytes = [] := by
  intro socket answer after ran
  refine ⟨[], ?_, rfl⟩
  unfold reliableIsOpen at ran
  dsimp only at ran
  split at ran
  · cases ran; rfl
  · split at ran <;> cases ran <;> simp_all [Socket.stream, Arrival.content]

theorem takes_available : Takes available fun _ bytes => bytes = [] := by
  intro socket answer after ran
  refine ⟨[], ?_, rfl⟩
  unfold available at ran
  dsimp only at ran
  split at ran
  · cases ran
  · split at ran <;> cases ran <;> simp_all [Socket.stream, Arrival.content]

theorem takes_waitRead : Takes waitRead fun _ bytes => bytes = [] := by
  intro socket answer after ran
  refine ⟨[], ?_, rfl⟩
  unfold waitRead at ran
  dsimp only at ran
  split at ran
  · cases ran; rfl
  · split at ran <;> cases ran <;> rfl

/-- What a read has read is what it has taken of the arrivals, and at least a byte. -/
private theorem takeArrived_content {amount : Nat} (some_amount : 0 < amount)
    {arrivals rest : List Arrival} {answer : Except ErrorCode Bytes}
    (took : takeArrived amount arrivals = some (answer, rest)) :
    ∃ bytes, arrivals.flatMap Arrival.content = bytes ++ rest.flatMap Arrival.content ∧
      ∀ read, answer = .ok read → bytes = read ∧ read ≠ [] ∧ read.length ≤ amount := by
  induction arrivals with
  | nil => cases took
  | cons arrival later ih =>
    cases arrival with
    | nothing => simpa [Arrival.content] using ih took
    | fails code =>
      cases took
      exact ⟨[], rfl, by simp⟩
    | bytes segment =>
      rw [takeArrived] at took
      split at took
      · cases took
        refine ⟨segment.bytes.take amount, by simp [Arrival.content, ← List.append_assoc], ?_⟩
        rintro _ ⟨⟩
        refine ⟨rfl, ?_, List.length_take_le ..⟩
        simp [segment.nonempty, Nat.pos_iff_ne_zero.mp some_amount]
      · rename_i whole
        cases took
        refine ⟨segment.bytes, by simp [Arrival.content], ?_⟩
        rintro _ ⟨⟩
        exact ⟨rfl, segment.nonempty, by simpa using whole⟩

theorem takes_awaitRead {amount : Nat} (some_amount : 0 < amount) :
    Takes (awaitRead amount) fun answer bytes =>
      ∀ read, answer = .ok read → bytes = read ∧ read ≠ [] ∧ read.length ≤ amount := by
  intro socket answer after ran
  unfold awaitRead at ran
  dsimp only at ran
  split at ran
  · cases ran
  · split at ran
    · cases ran
    · rename_i took
      cases ran
      exact takeArrived_content some_amount took

theorem takes_readSomeUnreliable {buffer amount : Nat} (some_buffer : 0 < buffer) :
    Takes (readSomeUnreliable buffer amount) fun answer bytes =>
      ∀ read, answer = .ok read → bytes = read ∧ read ≠ [] ∧ read.length ≤ needed buffer amount := by
  apply (takes_cussert _ _).bind
  rintro _ _ rfl
  split
  · exact takes_pure (by simp)
  · split
    · exact takes_pure (by simp)
    · apply takes_reliableIsOpen.bind
      rintro answer _ rfl
      split
      · exact takes_pure (by simp)
      · exact takes_pure (by simp)
      · exact takes_awaitRead (by split <;> omega)

theorem takes_readFrom {buffer needRead passes : Nat} {wasRead : Bytes} (fits : needRead ≤ buffer)
    (begun : wasRead.length ≤ needRead) (enough : needRead - wasRead.length ≤ passes) :
    Takes (readFrom buffer needRead passes wasRead) fun answer bytes =>
      ∀ read, answer = .ok read → read = wasRead ++ bytes ∧ read.length = needRead := by
  induction passes generalizing wasRead with
  | zero =>
    apply takes_pure
    rintro _ ⟨⟩
    exact ⟨by simp, by omega⟩
  | succ passes ih =>
    rw [readFrom]
    split
    · rename_i done
      apply takes_pure
      rintro _ ⟨⟩
      exact ⟨by simp, done⟩
    · apply (takes_readSomeUnreliable (by omega)).bind
      intro answer bytes took
      cases answer with
      | error code => exact takes_pure (by simp)
      | ok read =>
        obtain ⟨rfl, nonempty, few⟩ := took read rfl
        have some_bytes := List.length_pos_iff.mpr nonempty
        rw [needed, if_neg (by omega)] at few
        intro socket last after ran
        obtain ⟨more, stream, took'⟩ := @ih (wasRead ++ bytes)
          (by rw [List.length_append]; omega) (by rw [List.length_append]; omega) _ _ _ ran
        exact ⟨more, stream, by simpa using took'⟩

/-- What `read_some` has read is what it has taken, as much as it was asked for. -/
theorem takes_readSome (buffer amount : Nat) :
    Takes (readSome buffer amount) fun answer bytes =>
      ∀ read, answer = .ok read → bytes = read ∧ read.length = needed buffer amount := by
  unfold readSome
  split
  · exact takes_pure (by simp)
  · intro socket answer after ran
    obtain ⟨bytes, stream, took⟩ :=
      takes_readFrom (by split <;> omega) (by simp) (by simp) _ _ _ ran
    exact ⟨bytes, stream, fun read same => by simpa [eq_comm, needed] using took read same⟩

end Vpverk.Asioapi
