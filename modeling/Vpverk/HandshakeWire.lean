import Vpverk.SharedLog
import Vpverk.WireSteps

/-! The wire of a connection up to the registration of its session: `sendIp`
writes the address message without the write lock, while the connection is there
for any sweep to close. -/
namespace Vpverk.Wire
open Octets Peer SharedLog Transition

variable {cipher : Cipher} {aes : AesSession} {ip : UInt32} {state before after : WireState}
  {reason : Bytes} {trace : List Label} {label : Label} {event : WireEvent}
  {one other : Transfer (Author × UInt8)}

/-- A part of the address message is on the wire, and the rest is to come. -/
def SessionPc.partly : SessionPc → Bool
  | .sendingIp send => send.partly
  | _ => false

/-- A part of the error message is on the wire, and the rest is to come. -/
def Closer.partly : Closer → Bool
  | .sending _ send => send.partly
  | _ => false

/-- A write comes while the other message has been begun and is not finished. -/
def WireState.tears (state : WireState) : Label → Bool
  | .wrote .sendIp => state.closer.partly
  | .wrote .close => state.session.partly
  | _ => false

/-- `close` and `sendIp` write only while nothing or all of the other's message is
written. -/
abbrev Untorn (state : WireState) (label : Label) : Prop := state.tears label = false

/-- If `close` has been called, it was for this reason. -/
def Closer.agrees (reason : Bytes) : Closer → Prop
  | .uncalled => True
  | .locking why | .sending why _ | .shutting why | .ended why => why = reason

/-- What `sendIp` has to send. -/
def addressBytes (cipher : Cipher) (aes : AesSession) (ip : UInt32) : List (Author × UInt8) :=
  Author.sendIp.wrote (addressMessage cipher aes ip)

/-- What `close` has to send. -/
def errorBytes (reason : Bytes) : List (Author × UInt8) := Author.close.wrote (errorMessage reason)

/-- The wire is the start of the address message and the error message, whole and
one after the other in either order. -/
def InTurn (cipher : Cipher) (aes : AesSession) (ip : UInt32) (state : WireState) : Prop :=
  ∃ reason, state.closer.agrees reason ∧
    (state.written <+: addressBytes cipher aes ip ++ errorBytes reason ∨
      state.written <+: errorBytes reason ++ addressBytes cipher aes ip)

/-! ### What is still to be sent -/

/-- What the session still has to send of the address message, as long as it can. -/
def SessionPc.left (message : Bytes) : SessionPc → Bytes
  | .handshake => message
  | .sendingIp send => send.rest
  | .sentIp | .registered | .failed => []

/-- What `close` still has to send of the error message, as long as it can. -/
def Closer.left (message : Bytes) : Closer → Bytes
  | .uncalled | .locking _ | .ended _ => message
  | .sending _ send => send.rest
  | .shutting _ => []

/-- The two messages stand one after the other on the wire; and as long as the
socket takes bytes, what is missing of each is what its writer still has to send. -/
structure Parted (cipher : Cipher) (aes : AesSession) (ip : UInt32) (reason : Bytes)
    (state : WireState) (one other : Transfer (Author × UInt8)) : Prop where
  address : one.message = addressBytes cipher aes ip
  error : other.message = errorBytes reason
  serial : Serial one other state.written
  leftAddress : state.writable = true →
    one.done ++ Author.sendIp.wrote (state.session.left (addressMessage cipher aes ip)) = one.message
  leftError : state.writable = true →
    other.done ++ Author.close.wrote (state.closer.left (errorMessage reason)) = other.message

/-- Nothing is written. -/
private theorem Parted.still (parted : Parted cipher aes ip reason before one other)
    (written : after.written = before.written)
    (writable : after.writable = true → before.writable = true ∧
      after.session.left (addressMessage cipher aes ip) =
        before.session.left (addressMessage cipher aes ip) ∧
      after.closer.left (errorMessage reason) = before.closer.left (errorMessage reason)) :
    Parted cipher aes ip reason after one other where
  address := parted.address
  error := parted.error
  serial := written ▸ parted.serial
  leftAddress takes := by
    obtain ⟨took, same, _⟩ := writable takes
    rw [same]
    exact parted.leftAddress took
  leftError takes := by
    obtain ⟨took, _, same⟩ := writable takes
    rw [same]
    exact parted.leftError took

/-- A message is clear exactly if its send is not in the middle of it. -/
private theorem clear_iff {author : Author} {send : Send} {part : Transfer (Author × UInt8)}
    (whole : part.message = author.wrote send.buffer)
    (left : part.done ++ author.wrote send.rest = part.message) :
    part.Clear ↔ send.partly = false := by
  have within := send.within
  have total : part.message.length = send.buffer.length := by simp [whole, Author.wrote]
  have written : part.done.length = send.offset := by
    have lengths := congrArg List.length left
    simp only [List.length_append, total, Author.wrote, List.length_map, Send.rest,
      List.length_drop] at lengths
    omega
  have finished : part.done = part.message ↔ send.offset = send.buffer.length := by
    rw [← written, ← total]
    exact ⟨congrArg List.length, part.within.eq_of_length⟩
  rw [Transfer.Clear, finished, ← List.length_eq_zero_iff, written]
  simp only [Send.partly, Bool.and_eq_false_iff, decide_eq_false_iff_not]
  omega

private theorem Parted.clearAddress (parted : Parted cipher aes ip reason before one other)
    (sound : Sound cipher aes ip before) (writable : before.writable = true) :
    one.Clear ↔ before.session.partly = false := by
  have left := parted.leftAddress writable
  cases at' : before.session with
  | handshake =>
    refine ⟨fun _ => rfl, fun _ => .inl ?_⟩
    simpa [at', SessionPc.left, parted.address, addressBytes] using left
  | sendingIp send =>
    rw [at'] at left
    exact clear_iff (by rw [parted.address, sound.address at']; rfl) left
  | sentIp | registered | failed =>
    refine ⟨fun _ => rfl, fun _ => .inr ?_⟩
    simpa [at', SessionPc.left] using left

private theorem Parted.clearError (parted : Parted cipher aes ip reason before one other)
    (sound : Sound cipher aes ip before) (agrees : before.closer.agrees reason)
    (writable : before.writable = true) : other.Clear ↔ before.closer.partly = false := by
  have left := parted.leftError writable
  cases at' : before.closer with
  | uncalled | locking | ended =>
    refine ⟨fun _ => rfl, fun _ => .inl ?_⟩
    simpa [at', Closer.left, parted.error, errorBytes] using left
  | sending why send =>
    rw [at'] at left agrees
    obtain rfl : why = reason := agrees
    exact clear_iff (by rw [parted.error, sound.message at']; rfl) left
  | shutting why =>
    refine ⟨fun _ => rfl, fun _ => .inr ?_⟩
    simpa [at', Closer.left] using left

/-! ### A call of `close` up to its loop -/

private theorem close_agrees {why : Bytes} (agrees : (state.close why).closer.agrees reason) :
    state.closer.agrees reason := by
  by_cases uncalled : state.closer = .uncalled
  · rw [uncalled]
    trivial
  · rwa [WireState.close, if_neg uncalled] at agrees

private theorem close_left {why message : Bytes} :
    (state.close why).closer.left message = state.closer.left message := by
  unfold WireState.close
  split
  · rename_i uncalled
    rw [uncalled]
    rfl
  · rfl

/-! ### Runs in which nothing is torn -/

/-- Whatever `close` was called for, the two messages stand one after the other. -/
def Separate (cipher : Cipher) (aes : AesSession) (ip : UInt32) (state : WireState) : Prop :=
  state.session ≠ .registered → ∀ reason, state.closer.agrees reason →
    ∃ one other, Parted cipher aes ip reason state one other

/-- More of a message whose send is under way. -/
private theorem part_grows {author : Author} {send send' : Send} {chunk : Bytes}
    {part : Transfer (Author × UInt8)} (left : part.done ++ author.wrote send.rest = part.message)
    (rest : send.rest = chunk ++ send'.rest) (nonempty : chunk ≠ []) :
    part.done ≠ part.message ∧ ∃ more : Transfer (Author × UInt8), more.message = part.message ∧
      more.done = part.done ++ author.wrote chunk ∧
      more.done ++ author.wrote send'.rest = more.message := by
  rw [rest, wrote_append] at left
  constructor
  · intro finished
    rw [← finished, List.append_right_eq_self, List.append_eq_nil_iff] at left
    exact nonempty (List.map_eq_nil_iff.mp left.1)
  · rw [← List.append_assoc] at left
    exact ⟨⟨part.message, part.done ++ author.wrote chunk, ⟨_, left⟩⟩, rfl, rfl, left⟩

private theorem separate_step (sound : Sound cipher aes ip before)
    (separate : Separate cipher aes ip before)
    (stepped : step cipher ip before event = some (after, label)) (untorn : Untorn before label) :
    Separate cipher aes ip after := by
  intro unregistered reason agrees
  cases event with
  | session event =>
    cases sendIp_effect stepped with
    | encrypts at' =>
      obtain ⟨one, other, parted⟩ := separate (by simp [at']) reason agrees
      refine ⟨one, other, parted.still rfl fun takes => ⟨takes, ?_, rfl⟩⟩
      simp [SessionPc.left, Send.rest, at', sound.fresh at']
    | @writes send send' chunk at' nonempty rest buffer writable =>
      obtain ⟨one, other, parted⟩ := separate (by simp [at']) reason agrees
      have left := parted.leftAddress writable
      rw [at'] at left
      obtain ⟨unfinished, more, same, grown, left'⟩ := part_grows left rest nonempty
      have clear := (parted.clearError sound agrees writable).mpr untorn
      exact ⟨more, other, same.trans parted.address, parted.error,
        parted.serial.write clear grown unfinished, fun _ => left', fun _ => parted.leftError writable⟩
    | sent at' whole =>
      obtain ⟨one, other, parted⟩ := separate (by simp [at']) reason agrees
      refine ⟨one, other, parted.still rfl fun takes => ⟨takes, ?_, rfl⟩⟩
      simp [SessionPc.left, at', whole]
    | fails at' =>
      have agrees := close_agrees agrees
      obtain ⟨one, other, parted⟩ := separate (by simp [at']) reason agrees
      exact ⟨one, other, parted.still (by simp) (by simp)⟩
    | register => exact absurd rfl unregistered
  | close why =>
    cases stepped
    obtain ⟨one, other, parted⟩ := separate (by simpa using unregistered) reason (close_agrees agrees)
    exact ⟨one, other, parted.still (by simp) fun takes =>
      ⟨by simpa using takes, by simp, close_left⟩⟩
  | closer event =>
    have given : before.session ≠ .registered ∧ before.closer.agrees reason := by
      cases closeOn_effect stepped with
      | locks at' | notOpen at' | writes at' | sent at' | fails at' | shutdown at' =>
        exact ⟨unregistered, by rw [at']; exact agrees⟩
    obtain ⟨one, other, parted⟩ := separate given.1 reason given.2
    cases closeOn_effect stepped with
    | locks at' =>
      obtain rfl : _ = reason := agrees
      refine ⟨one, other, parted.still rfl fun takes => ⟨takes, rfl, ?_⟩⟩
      simp [Closer.left, Send.rest, at']
    | notOpen at' =>
      exact ⟨one, other, parted.still rfl fun takes => ⟨takes, rfl, by simp [Closer.left, at']⟩⟩
    | @writes why chunk send send' at' nonempty rest buffer writable =>
      have left := parted.leftError writable
      rw [at'] at left
      obtain ⟨unfinished, more, same, grown, left'⟩ := part_grows left rest nonempty
      have clear := (parted.clearAddress sound writable).mpr untorn
      exact ⟨one, more, parted.address, same.trans parted.error,
        (parted.serial.symm.write clear grown unfinished).symm,
        fun _ => parted.leftAddress writable, fun _ => left'⟩
    | sent at' whole =>
      exact ⟨one, other, parted.still rfl fun takes =>
        ⟨takes, rfl, by simp [Closer.left, at', whole]⟩⟩
    | fails at' => exact ⟨one, other, parted.still rfl (by simp)⟩
    | shutdown at' => exact ⟨one, other, parted.still rfl (by simp [WireState.writable])⟩
  | route i packet =>
    simp only [step] at stepped
    split at stepped <;> cases stepped
    rename_i registered _
    exact absurd registered unregistered
  | block i event =>
    exact absurd (forward_registered sound stepped).2 unregistered

/-- In every run in which nothing is torn the two messages are apart. -/
theorem run_separate (run : ((system cipher aes ip).guarded Untorn).Run trace state) :
    Separate cipher aes ip state := by
  apply System.Run.invariant ?_ ?_ run
  · rintro _ rfl _ reason _
    exact ⟨⟨addressBytes cipher aes ip, [], List.nil_prefix⟩, ⟨errorBytes reason, [], List.nil_prefix⟩,
      rfl, rfl, .inl ⟨rfl, .inl rfl⟩, fun _ => rfl, fun _ => rfl⟩
  · rintro trace before label after earlier separate ⟨⟨event, stepped⟩, untorn⟩
    exact separate_step (run_sound earlier.unguarded) separate stepped untorn

/-- Whatever has been written stays, the registration is not undone, and the
reason of `close` does not change. -/
private theorem step_grows (stepped : step cipher ip before event = some (after, label)) :
    before.written <+: after.written ∧
      (after.session ≠ .registered → before.session ≠ .registered) ∧
      ∀ reason, after.closer.agrees reason → before.closer.agrees reason := by
  cases event with
  | session event =>
    cases sendIp_effect stepped with
    | encrypts at' | sent at' | register at' => exact ⟨List.prefix_rfl, by simp [at'], fun _ => id⟩
    | writes at' => exact ⟨List.prefix_append _ _, by simp [at'], fun _ => id⟩
    | fails at' => exact ⟨by simp, by simp [at'], fun _ => close_agrees⟩
  | close why => cases stepped; exact ⟨by simp, by simp, fun _ => close_agrees⟩
  | closer event =>
    cases closeOn_effect stepped with
    | writes at' => exact ⟨List.prefix_append _ _, id, fun _ => by rw [at']; exact id⟩
    | locks at' | notOpen at' | sent at' | fails at' | shutdown at' =>
      exact ⟨List.prefix_rfl, id, fun _ => by rw [at']; exact id⟩
  | route i packet =>
    simp only [step] at stepped
    split at stepped <;> cases stepped
    exact ⟨List.prefix_rfl, id, fun _ => id⟩
  | block i event =>
    cases forward_effect stepped with
    | writes => exact ⟨List.prefix_append _ _, id, fun _ => id⟩
    | locks | sent => exact ⟨List.prefix_rfl, id, fun _ => id⟩
    | unencrypted | fails =>
      exact ⟨by simp [WireState.setBlock], by simp [WireState.setBlock], fun _ => close_agrees⟩

private theorem wrote_author {author : Author} {bytes : Bytes} :
    ∀ entry ∈ author.wrote bytes, entry.1 = author := by
  simp [Author.wrote]

private theorem wrote_foreign {author writer : Author} {bytes : Bytes} (foreign : writer ≠ author) :
    ∀ entry ∈ writer.wrote bytes, ¬ entry.1 = author := by
  rintro entry member rfl
  exact foreign (wrote_author entry member).symm

/-- After a write that tears a message no order of the two is left. -/
private theorem untorn_of_inTurn (sound : Sound cipher aes ip before)
    (separate : Separate cipher aes ip before) (unregistered : before.session ≠ .registered)
    (stepped : step cipher ip before event = some (after, label))
    (inTurn : InTurn cipher aes ip after) : Untorn before label := by
  cases event with
  | session event =>
    cases sendIp_effect stepped with
    | encrypts | sent | fails | register => rfl
    | @writes send send' chunk at' nonempty rest buffer writable =>
      by_contra torn
      obtain ⟨reason, agrees, order⟩ := inTurn
      obtain ⟨one, other, parted⟩ := separate unregistered reason agrees
      have left := parted.leftAddress writable
      rw [at'] at left
      have unclear : ¬ other.Clear := (parted.clearError sound agrees writable).not.mpr torn
      obtain ⟨first, second⟩ := parted.serial.torn unclear (part_grows left rest nonempty).1
        (by simpa [Author.wrote] using nonempty) (by rw [parted.address]; exact wrote_author)
        (show ∀ entry ∈ Author.sendIp.wrote chunk, entry.1 = .sendIp from wrote_author)
        (by rw [parted.error]; exact wrote_foreign (by simp))
      rw [parted.address, parted.error] at first second
      exact order.elim first second
  | close why => cases stepped; rfl
  | closer event =>
    cases closeOn_effect stepped with
    | locks | notOpen | sent | fails | shutdown => rfl
    | @writes why chunk send send' at' nonempty rest buffer writable =>
      by_contra torn
      obtain ⟨reason, agrees, order⟩ := inTurn
      obtain ⟨one, other, parted⟩ := separate unregistered reason (by rw [at']; exact agrees)
      have left := parted.leftError writable
      rw [at'] at left
      have unclear : ¬ one.Clear := (parted.clearAddress sound writable).not.mpr torn
      obtain ⟨first, second⟩ := parted.serial.symm.torn unclear (part_grows left rest nonempty).1
        (by simpa [Author.wrote] using nonempty) (by rw [parted.error]; exact wrote_author)
        (show ∀ entry ∈ Author.close.wrote chunk, entry.1 = .close from wrote_author)
        (by rw [parted.address]; exact wrote_foreign (by simp))
      rw [parted.address, parted.error] at first second
      exact order.elim second first
  | route i packet => simp only [step] at stepped; split at stepped <;> cases stepped; rfl
  | block i event => cases forward_effect stepped <;> rfl

private theorem InTurn.earlier (inTurn : InTurn cipher aes ip after)
    (stepped : step cipher ip before event = some (after, label)) : InTurn cipher aes ip before := by
  obtain ⟨reason, agrees, order⟩ := inTurn
  obtain ⟨grows, _, same⟩ := step_grows stepped
  exact ⟨reason, same reason agrees, order.imp grows.trans grows.trans⟩

/-- **Wire discipline before the registration.** In every run up to the session's
registration, the wire holds the address message and the error message whole and
one after the other, but for the end of the last, exactly if neither `sendIp` nor
`close` ever wrote while the other's message was begun and not finished. -/
theorem handshake_messages (run : (system cipher aes ip).Run trace state)
    (unregistered : state.session ≠ .registered) :
    InTurn cipher aes ip state ↔ ((system cipher aes ip).guarded Untorn).Run trace state := by
  constructor
  · intro inTurn
    obtain ⟨start, initial, steps⟩ := run
    induction steps with
    | refl => exact .start initial
    | @next trace label before after earlier stepped ih =>
      obtain ⟨event, stepped⟩ := stepped
      have early := (step_grows stepped).2.1 unregistered
      have guarded := ih early (inTurn.earlier stepped)
      exact guarded.next ⟨⟨event, stepped⟩, untorn_of_inTurn (run_sound ⟨start, initial, earlier⟩)
        (run_separate guarded) early stepped inTurn⟩
  · intro guarded
    obtain ⟨reason, agrees⟩ : ∃ reason, state.closer.agrees reason := by
      cases state.closer with
      | uncalled => exact ⟨[], trivial⟩
      | locking why | sending why | shutting why | ended why => exact ⟨why, rfl⟩
    obtain ⟨one, other, parted⟩ := run_separate guarded unregistered reason agrees
    refine ⟨reason, agrees, ?_⟩
    rw [← parted.address, ← parted.error]
    exact parted.serial.prefix

/-- `close` comes between the session's key exchange and `sendIp`. -/
def closeBeforeSendIp : List WireEvent :=
  [.close (utf8 "session expired"), .closer (.locks true), .closer (.writes 28),
    .session .sendIp, .session (.writes 3)]

theorem handshake_messages_close_first :
    ∃ trace state,
      ((system (fun _ _ _ => 0) ⟨[], [], [], 0, 0⟩ 0x0A7B0002).guarded Untorn).Run trace state ∧
      state.written.length = 31 ∧ InTurn (fun _ _ _ => 0) ⟨[], [], [], 0, 0⟩ 0x0A7B0002 state := by
  have run := Machine.guarded_run (Machine.replay_run
    (show ((machine (fun _ _ _ => 0) ⟨[], [], [], 0, 0⟩ 0x0A7B0002).guarded Untorn).replay _
      closeBeforeSendIp = _ from rfl))
  exact ⟨_, _, run, rfl, (handshake_messages run.unguarded (by simp)).mpr run⟩

/-- A sweep closes the connection when three bytes of the address message are
written: the error message comes in the middle of it. -/
theorem address_message_torn :
    ∃ trace state, (system (fun _ _ _ => 0) ⟨[], [], [], 0, 0⟩ 0x0A7B0002).Run trace state ∧
      state.session ≠ .registered ∧
      ¬ InTurn (fun _ _ _ => 0) ⟨[], [], [], 0, 0⟩ 0x0A7B0002 state := by
  refine ⟨_, _, Machine.replay_run
    (show (machine (fun _ _ _ => 0) ⟨[], [], [], 0, 0⟩ 0x0A7B0002).replay _
      [.session .sendIp, .session (.writes 3), .close (utf8 "session expired"),
        .closer (.locks true), .closer (.writes 28), .session (.writes 5)] = _ from rfl),
    by simp, ?_⟩
  rintro ⟨reason, rfl, order⟩
  revert order
  decide

end Vpverk.Wire
