import Vpverk.Asioapi
import Vpverk.CoroutineTriples

/-! What the `cvk_asio` functions do on a socket that may fail at any time: what they write, what
they leave to be read, and which errors they answer. -/
namespace Vpverk.Asioapi
open Coroutine Octets

variable {sent : Bytes}

/-! ### What sends nothing -/

/-- A coroutine over a socket that sends nothing. -/
def Silent {α : Type} (inner : Coroutine Socket α) : Prop :=
  ∀ sent, Keeps (fun socket => socket.sent = sent) (fun socket => socket.sent = sent) inner

theorem silent_pure {α : Type} (value : α) : Silent (pure value) := fun _ => keeps_pure value

theorem Silent.bind {α β : Type} {inner : Coroutine Socket α} {next : α → Coroutine Socket β}
    (first : Silent inner) (second : ∀ value, Silent (next value)) : Silent (inner >>= next) :=
  fun sent => (first sent).bind fun value => second value sent

theorem silent_cussert (condition : Bool) (expression : String) : Silent (cussert condition expression) := by
  unfold cussert
  split
  · exact silent_pure _
  · exact fun _ => keeps_stop _ fun _ same => same

/-- A step that leaves `sent` alone. -/
theorem silent_step {α : Type} {inner : Coroutine Socket α}
    (still : ∀ socket, (inner.run socket).2.sent = socket.sent) : Silent inner := by
  intro sent
  constructor
  · intro before value after same ran
    rw [← same, ← still before, ran]
  · intro before how after same ran
    rw [← same, ← still before, ran]

theorem silent_reliableIsOpen : Silent reliableIsOpen := by
  apply silent_step
  intro socket
  unfold reliableIsOpen
  dsimp only
  split
  · rfl
  · split <;> rfl

theorem silent_awaitRead (amount : Nat) : Silent (awaitRead amount) := by
  apply silent_step
  intro socket
  unfold awaitRead
  dsimp only
  split
  · rfl
  · split <;> rfl

theorem silent_readSomeUnreliable (buffer amount : Nat) : Silent (readSomeUnreliable buffer amount) := by
  apply (silent_cussert _ _).bind
  intro _
  split
  · exact silent_pure _
  · split
    · exact silent_pure _
    · apply silent_reliableIsOpen.bind
      intro answer
      split
      · exact silent_pure _
      · exact silent_pure _
      · exact silent_awaitRead _

theorem silent_readFrom (buffer needRead passes : Nat) (wasRead : Bytes) :
    Silent (readFrom buffer needRead passes wasRead) := by
  induction passes generalizing wasRead with
  | zero => exact silent_pure _
  | succ passes ih =>
    rw [readFrom]
    split
    · exact silent_pure _
    · apply (silent_readSomeUnreliable _ _).bind
      intro answer
      cases answer with
      | error code => exact silent_pure _
      | ok bytes => exact ih _

theorem silent_readSome (buffer amount : Nat) : Silent (readSome buffer amount) := by
  unfold readSome
  split
  · exact silent_pure _
  · exact silent_readFrom _ _ _ _

/-! ### What a send writes -/

/-- A write writes as many bytes as it answers, and else none. -/
theorem awaitSend_cases {buffer : Bytes} (socket : Socket) (nonempty : buffer ≠ []) :
    (∃ count after, (awaitSend buffer).run socket = (.ok (.ok count), after) ∧
        0 < count ∧ count ≤ buffer.length ∧ after.sent = socket.sent ++ buffer.take count) ∨
      (∃ code, (awaitSend buffer).run socket = (.ok (.error code), socket)) ∨
      ∃ how, (awaitSend buffer).run socket = (.error how, socket) := by
  cases ran : (awaitSend buffer).run socket with
  | mk answer after =>
    rcases answer with how | answer
    · refine .inr (.inr ⟨how, ?_⟩)
      unfold awaitSend at ran
      dsimp only at ran
      split at ran
      · cases ran
        rfl
      · split at ran <;> cases ran
    · cases answer with
      | ok count =>
        exact .inl ⟨count, after, rfl, awaitSend_ok nonempty ran⟩
      | error code =>
        refine .inr (.inl ⟨code, ?_⟩)
        unfold awaitSend at ran
        dsimp only at ran
        split at ran
        · cases ran
        · split at ran <;> cases ran
          rfl

/-- Of a buffer that is sent from an offset on, the beginning of the rest is written, and all of
it where no error comes back. -/
theorem sendFrom_tells (buffer : Bytes) (passes : Nat) {offset : Nat} (socket : Socket)
    (inside : offset ≤ buffer.length) (enough : buffer.length ≤ offset + passes) :
    ∃ told, told <+: buffer.drop offset ∧
      ((sendFrom buffer passes offset).run socket).2.sent = socket.sent ++ told ∧
      (((sendFrom buffer passes offset).run socket).1 = .ok (.ok ()) → told = buffer.drop offset) := by
  induction passes generalizing offset socket with
  | zero => exact ⟨[], List.nil_prefix, by simp [sendFrom], fun _ => by simp; omega⟩
  | succ passes ih =>
    rw [sendFrom]
    split
    · rename_i done
      exact ⟨[], List.nil_prefix, by simp, fun _ => by simp [done]⟩
    · have more : buffer.drop offset ≠ [] := by
        simp
        omega
      rcases awaitSend_cases socket more with
        ⟨count, after, wrote, some_bytes, few, sent⟩ | ⟨code, wrote⟩ | ⟨how, wrote⟩
      · rw [List.length_drop] at few
        obtain ⟨told, part, later, whole⟩ :=
          ih after (by omega : offset + count ≤ buffer.length) (by omega)
        have both : (buffer.drop offset).take count ++ buffer.drop (offset + count) =
            buffer.drop offset := by
          rw [← List.drop_drop, List.take_append_drop]
        rw [bind_ok wrote]
        refine ⟨(buffer.drop offset).take count ++ told, ?_, ?_, fun ended => ?_⟩
        · have both' := (List.prefix_append_right_inj ((buffer.drop offset).take count)).mpr part
          rwa [both] at both'
        · exact later.trans (by rw [sent, List.append_assoc])
        · rw [whole ended, both]
      · rw [bind_ok wrote]
        exact ⟨[], List.nil_prefix, by simp, fun ended => by cases ended⟩
      · rw [bind_error wrote]
        exact ⟨[], List.nil_prefix, by simp, fun ended => by cases ended⟩

/-- Whatever becomes of it, a send has written the beginning of its buffer, and all of it where
no error comes back. -/
theorem send_tells (buffer : Bytes) (socket : Socket) :
    ∃ told, told <+: buffer ∧ ((send buffer).run socket).2.sent = socket.sent ++ told ∧
      (((send buffer).run socket).1 = .ok (.ok ()) → told = buffer) := by
  unfold send cussert
  split
  · simp only [bind_pure_run]
    split
    · exact ⟨[], List.nil_prefix, by simp, fun ended => by cases ended⟩
    · cases ran : reliableIsOpen.run socket with
      | mk answer mid =>
        have same : mid.sent = socket.sent := by
          rw [← (silent_reliableIsOpen socket.sent).run rfl, ran]
        rcases answer with how | code | isOpen
        · rw [bind_error ran]
          exact ⟨[], List.nil_prefix, by simp [same], fun ended => by cases ended⟩
        · rw [bind_ok ran]
          exact ⟨[], List.nil_prefix, by simp [same], fun ended => by cases ended⟩
        · rw [bind_ok ran]
          cases isOpen with
          | false => exact ⟨[], List.nil_prefix, by simp [same], fun ended => by cases ended⟩
          | true =>
            obtain ⟨told, part, written, whole⟩ :=
              sendFrom_tells buffer buffer.length mid (Nat.zero_le _) (by omega)
            exact ⟨told, part, by rw [← same]; exact written, whole⟩
  · exact ⟨[], List.nil_prefix, (List.append_nil _).symm, fun ended => by cases ended⟩

/-! ### What a send keeps -/

theorem ensures_cussert {World : Type} {good : World → Prop} {stopped : Stop → World → Prop}
    {condition : Bool} (expression : String)
    (fails : condition = false → ∀ how world, good world → stopped how world) :
    Ensures good (cussert condition expression) (fun _ => good) stopped := by
  unfold cussert
  split
  · exact ensures_pure fun _ same => same
  · rename_i holds
    exact ensures_stop fun _ same => fails (by simpa using holds) _ _ same

/-- An answer over a good socket, and no error of it but these. -/
def Answers {α : Type} (good : Socket → Prop) (errors : ErrorCode → Prop)
    (answer : Except ErrorCode α) (socket : Socket) : Prop :=
  good socket ∧ ∀ code, answer = .error code → errors code

theorem ensures_answers {α : Type} {good : Socket → Prop} {errors : ErrorCode → Prop}
    {stopped : Stop → Socket → Prop} {answer : Except ErrorCode α}
    (listed : ∀ code, answer = .error code → errors code) :
    Ensures good (pure answer) (Answers good errors) stopped :=
  ensures_pure fun _ same => ⟨same, listed⟩

/-- What the probe and the writes keep, a send keeps. -/
theorem ensures_send {good : Socket → Prop} {errors : ErrorCode → Prop} {stopped : Stop → Socket → Prop}
    {buffer : Bytes} (empty : buffer = [] → ∀ how socket, good socket → stopped how socket)
    (long : errors .messageSize) (reset : errors .connectionReset)
    (probes : Ensures good reliableIsOpen (Answers good errors) stopped)
    (writes : ∀ buffer, Ensures good (awaitSend buffer) (Answers good errors) stopped) :
    Ensures good (send buffer) (Answers good errors) stopped := by
  have sends (passes offset : Nat) :
      Ensures good (sendFrom buffer passes offset) (Answers good errors) stopped := by
    induction passes generalizing offset with
    | zero => exact ensures_answers fun _ ended => by cases ended
    | succ passes ih =>
      rw [sendFrom]
      split
      · exact ensures_answers fun _ ended => by cases ended
      · apply (writes _).bind
        rintro (code | count)
        · exact ensures_pure fun _ answers => ⟨answers.1, fun _ same => by cases same; exact answers.2 _ rfl⟩
        · exact (ih _).begun fun _ answers => answers.1
  apply (ensures_cussert "buffer.size()" fun none => empty (by simpa using none)).bind
  intro _
  split
  · exact ensures_answers fun _ same => by cases same; exact long
  · apply probes.bind
    rintro (code | _ | _)
    · exact ensures_pure fun _ answers => ⟨answers.1, fun _ same => by cases same; exact answers.2 _ rfl⟩
    · exact ensures_pure fun _ answers => ⟨answers.1, fun _ same => by cases same; exact reset⟩
    · exact (sends _ _).begun fun _ answers => answers.1

/-- A send leaves what is to arrive as it is. -/
theorem send_stream (buffer : Bytes) (stream : Bytes) :
    Ensures (fun socket => socket.stream = stream) (send buffer)
      (Answers (fun socket => socket.stream = stream) fun _ => True) fun _ _ => True := by
  apply ensures_send (fun _ _ _ _ => trivial) trivial trivial
  · constructor
    · intro socket answer after same ran
      obtain ⟨_, kept, rfl⟩ := takes_reliableIsOpen _ _ _ ran
      exact ⟨kept.symm.trans same, fun _ _ => trivial⟩
    · exact fun _ _ _ _ _ => trivial
  · intro buffer
    constructor
    · intro socket answer after same ran
      refine ⟨?_, fun _ _ => trivial⟩
      unfold awaitSend at ran
      dsimp only at ran
      split at ran
      · cases ran
      · split at ran <;> cases ran <;> exact same
    · exact fun _ _ _ _ _ => trivial

theorem reliableIsOpen_ends :
    Ensures (fun socket => socket.strayHandler = false) reliableIsOpen
      (Answers (fun socket => socket.strayHandler = false) fun _ => True) fun _ _ => False := by
  constructor
  · intro socket answer after noStray ran
    unfold reliableIsOpen at ran
    dsimp only at ran
    refine ⟨?_, fun _ _ => trivial⟩
    split at ran
    · cases ran
      exact noStray
    · split at ran <;> cases ran <;> exact noStray
  · intro socket how after _ ran
    unfold reliableIsOpen at ran
    dsimp only at ran
    split at ran
    · cases ran
    · split at ran <;> cases ran

/-- Without a stray handler a send of something comes to its end. -/
theorem send_ends {buffer : Bytes} (nonempty : buffer ≠ []) :
    Ensures (fun socket => socket.strayHandler = false) (send buffer)
      (Answers (fun socket => socket.strayHandler = false) fun _ => True) fun _ _ => False := by
  apply ensures_send (fun empty => absurd empty nonempty) trivial trivial reliableIsOpen_ends
  intro buffer
  constructor
  · intro socket answer after noStray ran
    unfold awaitSend at ran
    dsimp only at ran
    refine ⟨?_, fun _ _ => trivial⟩
    split at ran
    · cases ran
    · split at ran <;> cases ran <;> exact noStray
  · intro socket how after noStray ran
    unfold awaitSend at ran
    dsimp only at ran
    split at ran
    · rename_i stray
      cases noStray.symm.trans stray
    · split at ran <;> cases ran

/-- No operation on the socket is going to be cancelled. -/
def Uncancelled (socket : Socket) : Prop :=
  .fails .operationCanceled ∉ socket.arrivals ∧ .error .operationCanceled ∉ socket.accepts

/-- A send that nobody cancels does not answer that it was cancelled. -/
theorem send_uncancelled (buffer : Bytes) :
    Ensures Uncancelled (send buffer) (Answers Uncancelled (· ≠ .operationCanceled)) fun _ _ => True := by
  apply ensures_send (fun _ _ _ _ => trivial) (by simp) (by simp)
  · constructor
    · rintro ⟨isOpen, arrivals, accepts, sent, stray⟩ answer after uncancelled ran
      unfold reliableIsOpen at ran
      dsimp only at ran
      split at ran
      · cases ran
        exact ⟨uncancelled, fun _ same => by cases same⟩
      · split at ran <;> cases ran
        · exact ⟨uncancelled, fun _ same => by cases same⟩
        · exact ⟨uncancelled, fun _ same => by cases same⟩
        · exact ⟨⟨fun member => uncancelled.1 (List.mem_cons_of_mem _ member), uncancelled.2⟩,
            fun _ same => by cases same⟩
        · exact ⟨uncancelled, fun _ same => by cases same⟩
        · exact ⟨uncancelled, fun _ same => by cases same⟩
        · refine ⟨uncancelled, fun code same cancelled => ?_⟩
          cases same
          exact uncancelled.1 (cancelled ▸ List.mem_cons_self ..)
    · exact fun _ _ _ _ _ => trivial
  · intro buffer
    constructor
    · rintro ⟨isOpen, arrivals, accepts, sent, stray⟩ answer after uncancelled ran
      unfold awaitSend at ran
      dsimp only at ran
      split at ran
      · cases ran
      · split at ran <;> cases ran
        · exact ⟨uncancelled, fun _ same => by cases same⟩
        · refine ⟨uncancelled, fun code same cancelled => ?_⟩
          cases same
          exact uncancelled.2 (cancelled ▸ List.mem_cons_self ..)
        · exact ⟨⟨uncancelled.1, fun member => uncancelled.2 (List.mem_cons_of_mem _ member)⟩,
            fun _ same => by cases same⟩
    · exact fun _ _ _ _ _ => trivial

end Vpverk.Asioapi
