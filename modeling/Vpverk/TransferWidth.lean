import Vpverk.TransferLoops

/-! The loops of `send` and `read_some` that count without an end do on every socket what
those with 32-bit counters do: no buffer that passes their checks is long enough to
tell them apart. -/
namespace Vpverk.TransferWidth
open Coroutine Octets TransferLoops
open Asioapi (ErrorCode Socket maxUint32 cussert_run cussert_fails)

/-- The sockets of the rest of the program. -/
def socketCalls : Calls Socket where
  reliableIsOpen := Asioapi.reliableIsOpen
  asyncWriteSome := Asioapi.awaitSend
  asyncReadSome := Asioapi.awaitRead

variable {α β α' β' : Type}

/-- Two runs that leave a socket alike and stop alike, or hand on values that belong
together, with the buffer one of them has filled. -/
inductive Agrees (related : α → Bytes → β → Prop) :
    Except Stop α × Held Socket → Except Stop β × Socket → Prop where
  | ended {value value' socket buffer} (steps : List Step) (same : related value buffer value') :
      Agrees related (.ok value, ⟨socket, buffer, steps⟩) (.ok value', socket)
  | stopped (how : Stop) (socket : Socket) (buffer : Bytes) (steps : List Step) :
      Agrees related (.error how, ⟨socket, buffer, steps⟩) (.error how, socket)

variable {related : α → Bytes → β → Prop} {related' : α' → Bytes → β' → Prop}
  {narrow : Coroutine (Held Socket) α} {wide : Coroutine Socket β}
  {next : α → Coroutine (Held Socket) α'} {next' : β → Coroutine Socket β'}
  {held : Held Socket} {socket : Socket} {buffer : Bytes}

/-- Runs that agree go on to agree if what follows them does. -/
theorem Agrees.bind (first : Agrees related (narrow.run held) (wide.run socket))
    (rest : ∀ value buffer steps value' after, wide.run socket = (.ok value', after) →
      related value buffer value' →
      Agrees related' ((next value).run ⟨after, buffer, steps⟩) ((next' value').run after)) :
    Agrees related' ((narrow >>= next).run held) ((wide >>= next').run socket) := by
  generalize ran : narrow.run held = one at first
  generalize ran' : wide.run socket = other at first
  cases first with
  | ended steps same =>
    rw [bind_ok ran, bind_ok ran']
    exact rest _ _ _ _ _ ran' same
  | stopped how after buffer steps =>
    rw [bind_error ran, bind_error ran']
    exact .stopped ..

/-- The same value, and the buffer still as it was. -/
def Unchanged (buffer : Bytes) (value : α) (buffer' : Bytes) (value' : α) : Prop :=
  value = value' ∧ buffer = buffer'

theorem agrees_cussert (condition : Bool) (expression : String) :
    Agrees (Unchanged held.buffer) ((Asioapi.cussert condition expression).run held)
      ((Asioapi.cussert condition expression).run held.socket) := by
  cases condition with
  | true => exact .ended _ ⟨rfl, rfl⟩
  | false => exact .stopped ..

theorem agrees_reliableIsOpen :
    Agrees (Unchanged held.buffer) ((reliableIsOpen socketCalls).run held)
      (Asioapi.reliableIsOpen.run held.socket) := by
  cases ran : Asioapi.reliableIsOpen.run held.socket with
  | mk answer after =>
    have looked : (onSocket socketCalls.reliableIsOpen).run held =
        (answer, { held with socket := after }) := onSocket_run ran
    cases answer with
    | ok ex =>
      rw [reliableIsOpen, bind_ok looked]
      exact .ended _ ⟨rfl, rfl⟩
    | error how =>
      rw [reliableIsOpen, bind_error looked]
      exact .stopped ..

theorem agrees_awaitSend (held : Held Socket) (span : Span) :
    Agrees (fun value buffer value' => value = value'.map UInt32.ofNat ∧ held.buffer = buffer)
      ((awaitSend socketCalls span).run held)
      ((Asioapi.awaitSend (span.bytes held.buffer)).run held.socket) := by
  cases ran : (Asioapi.awaitSend (span.bytes held.buffer)).run held.socket with
  | mk answer after =>
    have wrote : (onSocket (socketCalls.asyncWriteSome (span.bytes held.buffer))).run held =
        (answer, { held with socket := after }) := onSocket_run ran
    rw [awaitSend, bind_look_run]
    cases answer with
    | error how =>
      rw [bind_error wrote]
      exact .stopped ..
    | ok answer =>
      rw [bind_ok wrote]
      cases answer with
      | error code => exact .ended _ ⟨rfl, rfl⟩
      | ok count => exact .ended _ ⟨rfl, rfl⟩

theorem agrees_awaitRead (held : Held Socket) (span : Span) :
    Agrees (fun value buffer value' => value = value'.map (fun bytes => UInt32.ofNat bytes.length) ∧
        ∀ bytes, value' = .ok bytes → buffer = span.filled bytes held.buffer)
      ((awaitRead socketCalls span).run held) ((Asioapi.awaitRead span.size).run held.socket) := by
  cases ran : (Asioapi.awaitRead span.size).run held.socket with
  | mk answer after =>
    have wrote : (onSocket (socketCalls.asyncReadSome span.size)).run held =
        (answer, { held with socket := after }) := onSocket_run ran
    rw [awaitRead]
    cases answer with
    | error how =>
      rw [bind_error wrote]
      exact .stopped ..
    | ok answer =>
      rw [bind_ok wrote]
      cases answer with
      | error code => exact .ended _ ⟨rfl, by simp⟩
      | ok bytes =>
        refine .ended _ ⟨rfl, ?_⟩
        rintro _ ⟨⟩
        rfl

/-! ### Writing -/

theorem agrees_sendFrom (passes : Nat) (offset : UInt32) (socket : Socket) (steps : List Step)
    (begun : offset.toNat ≤ buffer.length) (small : buffer.length ≤ maxUint32)
    (enough : buffer.length - offset.toNat ≤ passes) :
    Agrees (Unchanged buffer)
      ((sendFrom socketCalls ⟨0, buffer.length⟩ (passes + 1) offset).run ⟨socket, buffer, steps⟩)
      ((Asioapi.sendFrom buffer passes offset.toNat).run socket) := by
  induction passes generalizing offset socket steps with
  | zero =>
    rw [sendFrom, if_pos (show offset.toNat = buffer.length by omega)]
    exact .ended _ ⟨rfl, rfl⟩
  | succ passes ih =>
    rw [sendFrom, Asioapi.sendFrom]
    by_cases done : offset.toNat = buffer.length
    · rw [if_pos done, if_pos done]
      exact .ended _ ⟨rfl, rfl⟩
    · have rest : Span.bytes ⟨offset.toNat, buffer.length - offset.toNat⟩ buffer =
          buffer.drop offset.toNat := List.take_of_length_le (by simp)
      have nonempty : buffer.drop offset.toNat ≠ [] := by
        simp
        omega
      have wrote := agrees_awaitSend ⟨socket, buffer, steps⟩
        ⟨offset.toNat, buffer.length - offset.toNat⟩
      rw [if_neg done, if_neg done, bind_ok (subspan_run _ begun)]
      rw [rest] at wrote
      apply wrote.bind
      rintro _ _ steps value after ran ⟨rfl, rfl⟩
      cases value with
      | error code => exact .ended _ ⟨rfl, rfl⟩
      | ok count =>
        obtain ⟨positive, few, _⟩ := Asioapi.awaitSend_ok nonempty ran
        rw [List.length_drop] at few
        have moved : (offset + UInt32.ofNat count).toNat = offset.toNat + count :=
          toNat_add_ofNat (by omega)
        have further := ih (offset + UInt32.ofNat count) after steps (by omega) (by omega)
        rwa [moved] at further

/-- `send` with a 32-bit offset is `send`. -/
theorem agrees_send (buffer : Bytes) (socket : Socket) (steps : List Step) :
    Agrees (Unchanged buffer) ((send socketCalls ⟨0, buffer.length⟩).run ⟨socket, buffer, steps⟩)
      ((Asioapi.send buffer).run socket) := by
  apply Agrees.bind (agrees_cussert _ _)
  rintro _ _ steps _ after _ ⟨rfl, rfl⟩
  by_cases refused : buffer.length = 0 ∨ maxUint32 < buffer.length
  · rw [if_pos refused, if_pos (refused.imp_left List.length_eq_zero_iff.mp)]
    exact .ended _ ⟨rfl, rfl⟩
  · rw [if_neg refused, if_neg fun bad => refused (bad.imp_left List.length_eq_zero_iff.mpr)]
    apply agrees_reliableIsOpen.bind
    rintro ex _ steps _ after _ ⟨rfl, rfl⟩
    rcases ex with code | _ | _
    · exact .ended _ ⟨rfl, rfl⟩
    · exact .ended _ ⟨rfl, rfl⟩
    · exact agrees_sendFrom buffer.length 0 after steps (Nat.zero_le _) (by omega) (by simp)

/-! ### Reading -/

/-- The bytes a read hands over stand at the front of its span, and the narrow read
tells their number. -/
def Filled (span : Span) (buffer : Bytes) (value : Except ErrorCode UInt32) (buffer' : Bytes)
    (value' : Except ErrorCode Bytes) : Prop :=
  value = value'.map (fun bytes => UInt32.ofNat bytes.length) ∧
    ∀ bytes, value' = .ok bytes → buffer' = span.filled bytes buffer

theorem agrees_readSomeUnreliable (held : Held Socket) (span : Span) (amount : UInt32)
    (some_amount : 0 < amount.toNat) :
    Agrees (Filled span held.buffer) ((readSomeUnreliable socketCalls span amount).run held)
      ((Asioapi.readSomeUnreliable span.size amount.toNat).run held.socket) := by
  have named : amount ≠ 0 := by
    rintro rfl
    exact absurd some_amount (by decide)
  apply Agrees.bind (agrees_cussert _ _)
  rintro _ _ steps _ after _ ⟨rfl, rfl⟩
  by_cases refused : span.size = 0 ∨ maxUint32 < max amount.toNat span.size
  · rw [if_pos refused, if_pos refused]
    exact .ended _ ⟨rfl, by simp⟩
  · rw [if_neg refused, if_neg refused]
    by_cases short : span.size < amount.toNat
    · rw [if_pos short, if_pos short]
      exact .ended _ ⟨rfl, by simp⟩
    · rw [if_neg short, if_neg short]
      apply agrees_reliableIsOpen.bind
      rintro ex _ steps _ after _ ⟨rfl, rfl⟩
      rcases ex with code | _ | _
      · exact .ended _ ⟨rfl, by simp⟩
      · exact .ended _ ⟨rfl, by simp⟩
      · dsimp only
        rw [if_neg named, if_neg (by omega), bind_ok (first_run (Nat.not_lt.mp short))]
        exact agrees_awaitRead ⟨after, held.buffer, steps⟩ ⟨span.start, amount.toNat⟩

/-- What a loop has read stands in front of what else the buffer held, and the narrow
loop hands on nothing but that it is done. -/
def FilledFront (buffer : Bytes) (value : Except ErrorCode Unit) (buffer' : Bytes)
    (value' : Except ErrorCode Bytes) : Prop :=
  value = value'.map (fun _ => ()) ∧
    ∀ bytes, value' = .ok bytes → buffer' = bytes ++ buffer.drop bytes.length

theorem agrees_readFrom (passes : Nat) (needRead wasRead : UInt32) (read : Bytes) (socket : Socket)
    (steps : List Step) (same : wasRead.toNat = read.length) (begun : read.length ≤ needRead.toNat)
    (fits : needRead.toNat ≤ buffer.length) (small : buffer.length ≤ maxUint32)
    (enough : needRead.toNat - read.length ≤ passes) :
    Agrees (FilledFront buffer)
      ((readFrom socketCalls ⟨0, buffer.length⟩ needRead (passes + 1) wasRead).run
        ⟨socket, read ++ buffer.drop read.length, steps⟩)
      ((Asioapi.readFrom buffer.length needRead.toNat passes read).run socket) := by
  induction passes generalizing wasRead read socket steps with
  | zero =>
    have done : wasRead = needRead := UInt32.toNat_inj.mp (by omega)
    rw [readFrom, if_pos done]
    refine .ended _ ⟨rfl, ?_⟩
    rintro _ ⟨⟩
    rfl
  | succ passes ih =>
    rw [readFrom, Asioapi.readFrom]
    by_cases done : wasRead = needRead
    · rw [if_pos done, if_pos (by rw [← same, done])]
      refine .ended _ ⟨rfl, ?_⟩
      rintro _ ⟨⟩
      rfl
    · have ahead : read.length ≠ needRead.toNat := fun both =>
        done (UInt32.toNat_inj.mp (same.trans both))
      have left : (needRead - wasRead).toNat = needRead.toNat - read.length := by
        rw [UInt32.toNat_sub_of_le _ _ (UInt32.le_iff_toNat_le.mpr (by omega)), same]
      have some_amount : 0 < (needRead - wasRead).toNat := by omega
      have reads := agrees_readSomeUnreliable ⟨socket, read ++ buffer.drop read.length, steps⟩
        ⟨wasRead.toNat, buffer.length - wasRead.toNat⟩ (needRead - wasRead) some_amount
      dsimp only at reads
      rw [left, same] at reads
      rw [if_neg done, if_neg ahead, bind_ok (subspan_run _ (same ▸ Nat.le_trans begun fits)), same]
      apply reads.bind
      rintro _ buffer' steps value after ran ⟨rfl, filled⟩
      cases value with
      | error code => exact .ended _ ⟨rfl, by simp⟩
      | ok bytes =>
        obtain ⟨_, _, took⟩ := Asioapi.takes_readSomeUnreliable (by omega) _ _ _ ran
        obtain ⟨_, nonempty, few⟩ := took bytes rfl
        have some_bytes := List.length_pos_iff.mpr nonempty
        rw [Asioapi.needed, if_neg (by omega)] at few
        have moved : (wasRead + UInt32.ofNat bytes.length).toNat = (read ++ bytes).length := by
          rw [toNat_add_ofNat (by omega), List.length_append, same]
        have front : buffer' = (read ++ bytes) ++ buffer.drop (read ++ bytes).length := by
          rw [filled bytes rfl, List.length_append]
          simp [Span.filled]
        subst front
        exact ih _ (read ++ bytes) after steps moved (by rw [List.length_append]; omega)
          (by rw [List.length_append]; omega)

/-- `read_some` with 32-bit counters is `read_some`. -/
theorem agrees_readSome (buffer : Bytes) (amount : UInt32) (socket : Socket) (steps : List Step)
    (small : buffer.length ≤ maxUint32) :
    Agrees (FilledFront buffer)
      ((readSome socketCalls ⟨0, buffer.length⟩ amount).run ⟨socket, buffer, steps⟩)
      ((Asioapi.readSome buffer.length amount.toNat).run socket) := by
  have named : amount = 0 ↔ amount.toNat = 0 :=
    ⟨fun zero => by rw [zero]; rfl, fun zero => UInt32.toNat_inj.mp zero⟩
  have needed : (if amount = 0 then UInt32.ofNat buffer.length else amount).toNat =
      if amount.toNat = 0 then buffer.length else amount.toNat := by
    by_cases zero : amount = 0
    · rw [if_pos zero, if_pos (named.mp zero)]
      exact UInt32.toNat_ofNat_of_lt' (Nat.lt_of_le_pred (by decide) small)
    · rw [if_neg zero, if_neg (mt named.mpr zero)]
  by_cases refused : buffer.length < amount.toNat ∧ amount.toNat ≠ 0
  · rw [readSome, Asioapi.readSome, if_pos refused, if_pos ⟨refused.1, mt named.mp refused.2⟩]
    exact .ended _ ⟨rfl, by simp⟩
  · rw [readSome, Asioapi.readSome, if_neg refused,
      if_neg fun bad => refused ⟨bad.1, mt named.mpr bad.2⟩]
    dsimp only
    rw [← needed]
    exact agrees_readFrom _ _ 0 [] socket steps rfl (Nat.zero_le _)
      (by rw [needed]; split <;> omega) small (by simp)

/-- **The loops of the two models are the same.** On every socket, whatever it answers, `send`
over spans with a 32-bit offset ends as `send` over a list of bytes does and leaves the socket
alike; and so does `read_some`, whose buffer has in front what the other has read, where its
buffer is not longer than the counters can tell. -/
theorem loops_agree (buffer : Bytes) (amount : UInt32) (socket : Socket) (steps : List Step)
    (small : buffer.length ≤ maxUint32) :
    (∃ buffer' steps', (send socketCalls ⟨0, buffer.length⟩).run ⟨socket, buffer, steps⟩ =
        (((Asioapi.send buffer).run socket).1, ⟨((Asioapi.send buffer).run socket).2, buffer', steps'⟩) ∧
      ∀ answer, ((Asioapi.send buffer).run socket).1 = .ok answer → buffer' = buffer) ∧
    ∃ buffer' steps', (readSome socketCalls ⟨0, buffer.length⟩ amount).run ⟨socket, buffer, steps⟩ =
        (((Asioapi.readSome buffer.length amount.toNat).run socket).1.map (Except.map fun _ => ()),
          ⟨((Asioapi.readSome buffer.length amount.toNat).run socket).2, buffer', steps'⟩) ∧
      ∀ read, ((Asioapi.readSome buffer.length amount.toNat).run socket).1 = .ok (.ok read) →
        buffer' = read ++ buffer.drop read.length := by
  constructor
  · have agrees := agrees_send buffer socket steps
    generalize (send socketCalls ⟨0, buffer.length⟩).run ⟨socket, buffer, steps⟩ = narrow at agrees ⊢
    generalize (Asioapi.send buffer).run socket = wide at agrees ⊢
    cases agrees with
    | ended steps' same =>
      obtain ⟨rfl, rfl⟩ := same
      exact ⟨_, _, rfl, fun _ _ => rfl⟩
    | stopped how after buffer' steps' => exact ⟨_, _, rfl, fun _ ended => by cases ended⟩
  · have agrees := agrees_readSome buffer amount socket steps small
    generalize (readSome socketCalls ⟨0, buffer.length⟩ amount).run ⟨socket, buffer, steps⟩ = narrow
      at agrees ⊢
    generalize (Asioapi.readSome buffer.length amount.toNat).run socket = wide at agrees ⊢
    cases agrees with
    | ended steps' same =>
      obtain ⟨rfl, filled⟩ := same
      exact ⟨_, _, rfl, fun read ended => filled read (by cases ended; rfl)⟩
    | stopped how after buffer' steps' => exact ⟨_, _, rfl, fun _ ended => by cases ended⟩

/-- A socket that fails with two bytes read. -/
theorem loops_agree_cut_off :
    ∃ buffer' steps', (readSome socketCalls ⟨0, 4⟩ 0).run
      ⟨{ arrivals := [.bytes ⟨[1, 2], by simp⟩, .fails .connectionReset] }, [0, 0, 0, 0], []⟩ =
        (.ok (.error .connectionReset), ⟨{ arrivals := [.fails .connectionReset] }, buffer', steps'⟩) := by
  obtain ⟨buffer', steps', ran, _⟩ := (loops_agree [0, 0, 0, 0] 0
    { arrivals := [.bytes ⟨[1, 2], by simp⟩, .fails .connectionReset] } [] (by decide)).2
  exact ⟨buffer', steps', ran⟩

end Vpverk.TransferWidth
