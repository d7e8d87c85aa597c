import Vpverk.Wire

/-! What each writer of a connection can do in one step: the session, the call of
`close` that goes through, and a block of the router. -/
namespace Vpverk.Wire
open Octets Peer DataExchange Transition

variable {cipher : Cipher} {ip : UInt32} {state state' before after : WireState}
  {send send' : Send} {author : Author} {count i : Nat} {reason : Bytes} {label : Label}
  {aes : AesSession} {event : WireEvent} {trace : List Label}

@[simp] theorem wrote_nil : author.wrote [] = [] := rfl

@[simp] theorem wrote_append (first second : Bytes) :
    author.wrote (first ++ second) = author.wrote first ++ author.wrote second :=
  List.map_append

/-- A turn of the loop of `send` takes a chunk off the front of what is left. -/
theorem writeSome_spec (wrote : state.writeSome author send count = some (send', state')) :
    ∃ chunk, chunk ≠ [] ∧ send.rest = chunk ++ send'.rest ∧ send'.buffer = send.buffer ∧
      state.writable = true ∧
      state' = { state with written := state.written ++ author.wrote chunk } := by
  simp only [WireState.writeSome] at wrote
  split at wrote
  · rename_i room
    split at wrote
    · rename_i writable
      cases wrote
      refine ⟨send.rest.take count, ?_, ?_, rfl, writable, rfl⟩
      · rw [Send.rest, ← List.length_pos_iff, List.length_take, List.length_drop]
        omega
      · simp only [Send.rest]
        rw [← List.drop_drop, List.take_append_drop]
    · cases wrote
  · cases wrote

/-! ### A call of `close` up to its loop -/

@[simp] theorem close_aes : (state.close reason).aes = state.aes := by
  unfold WireState.close; split <;> rfl

@[simp] theorem close_writeLock : (state.close reason).writeLock = state.writeLock := by
  unfold WireState.close; split <;> rfl

@[simp] theorem close_session : (state.close reason).session = state.session := by
  unfold WireState.close; split <;> rfl

@[simp] theorem close_blocks : (state.close reason).blocks = state.blocks := by
  unfold WireState.close; split <;> rfl

@[simp] theorem close_sendFailed : (state.close reason).sendFailed = state.sendFailed := by
  unfold WireState.close; split <;> rfl

@[simp] theorem close_shut : (state.close reason).shut = state.shut := by
  unfold WireState.close; split <;> rfl

@[simp] theorem close_written : (state.close reason).written = state.written := by
  unfold WireState.close; split <;> rfl

@[simp] theorem close_writable : (state.close reason).writable = state.writable := by
  simp [WireState.writable]

/-! ### A send that fails -/

@[simp] theorem fail_writeLock : state.fail.writeLock = state.writeLock := rfl
@[simp] theorem fail_session : state.fail.session = state.session := rfl
@[simp] theorem fail_closer : state.fail.closer = state.closer := rfl
@[simp] theorem fail_blocks : state.fail.blocks = state.blocks := rfl
@[simp] theorem fail_written : state.fail.written = state.written := rfl

@[simp] theorem fail_writable : state.fail.writable = false := by
  cases failed : state.sendFailed <;> cases shut : state.shut <;>
    simp [WireState.fail, WireState.writable, failed, shut]

/-- On a socket that still took bytes the failure is recorded. -/
theorem fail_sendFailed (writable : state.writable = true) : state.fail.sendFailed = true := by
  simp only [WireState.writable, Bool.and_eq_true, Bool.not_eq_true'] at writable
  simp [WireState.fail, writable.2]

theorem fail_keeps (failed : state.sendFailed = true) : state.fail.sendFailed = true := by
  simp [WireState.fail, failed]

/-! ### The call of `close` that goes through -/

inductive CloseEffect (before : WireState) : WireState → Label → Prop where
  | locks {reason : Bytes} (at' : before.closer = .locking reason)
      (free : before.writeLock = false) :
      CloseEffect before { before with
        writeLock := true
        closer := .sending reason { buffer := errorMessage reason } } .quiet
  | notOpen {reason : Bytes} (at' : before.closer = .locking reason)
      (free : before.writeLock = false) :
      CloseEffect before { before with closer := .ended reason } .quiet
  | writes {reason chunk : Bytes} {send send' : Send} (at' : before.closer = .sending reason send)
      (nonempty : chunk ≠ []) (rest : send.rest = chunk ++ send'.rest)
      (buffer : send'.buffer = send.buffer) (writable : before.writable = true) :
      CloseEffect before { before with
        closer := .sending reason send'
        written := before.written ++ Author.close.wrote chunk } (.wrote .close)
  | sent {reason : Bytes} {send : Send} (at' : before.closer = .sending reason send)
      (whole : send.rest = []) :
      CloseEffect before { before with closer := .shutting reason } .quiet
  | fails {reason : Bytes} {send : Send} (at' : before.closer = .sending reason send) :
      CloseEffect before { before with closer := .shutting reason }.fail .quiet
  | shutdown {reason : Bytes} (at' : before.closer = .shutting reason) :
      CloseEffect before { before with
        closer := .ended reason, shut := true, writeLock := false } .quiet

theorem closeOn_effect {event : CloseEvent} (stepped : closeOn before event = some (after, label)) :
    CloseEffect before after label := by
  cases at' : before.closer <;> cases event <;>
    simp only [closeOn, at', reduceCtorEq] at stepped
  case locking.locks reason isOpen =>
    split at stepped
    · cases stepped
    · rename_i free
      split at stepped <;> cases stepped
      · exact .locks at' (by simpa using free)
      · exact .notOpen at' (by simpa using free)
  case sending.writes reason send count =>
    split at stepped
    · cases stepped
    · rename_i send' state' wrote
      obtain ⟨chunk, nonempty, rest, buffer, writable, rfl⟩ := writeSome_spec wrote
      cases stepped
      exact .writes at' nonempty rest buffer writable
  case sending.sent reason send =>
    split at stepped <;> cases stepped
    exact .sent at' (by assumption)
  case sending.fails reason send =>
    split at stepped <;> cases stepped
    exact .fails at'
  case shutting.shutdown reason => cases stepped; exact .shutdown at'

/-! ### A block of the router -/

inductive BlockEffect (cipher : Cipher) (before : WireState) (i : Nat) :
    WireState → Label → Prop where
  | locks {packet : Packet} {encrypted : Bytes} {aes : AesSession}
      (at' : before.blocks i = .waiting packet) (free : before.writeLock = false)
      (encrypts : before.aes.encrypt cipher (frame packet) (frame packet).length =
        .ok (encrypted, aes)) :
      BlockEffect cipher before i ({ before with aes := aes, writeLock := true }.setBlock i
        (.sending { buffer := encrypted })) .quiet
  | unencrypted {packet : Packet} {reason : Bytes} (at' : before.blocks i = .waiting packet) :
      BlockEffect cipher before i ((before.setBlock i .idle).close reason) .quiet
  | writes {send send' : Send} {chunk : Bytes} (at' : before.blocks i = .sending send)
      (nonempty : chunk ≠ []) (rest : send.rest = chunk ++ send'.rest)
      (writable : before.writable = true) :
      BlockEffect cipher before i (WireState.setBlock
        { before with written := before.written ++ Author.router.wrote chunk } i
        (.sending send')) (.wrote .router)
  | sent {send : Send} (at' : before.blocks i = .sending send) (whole : send.rest = []) :
      BlockEffect cipher before i ({ before with writeLock := false }.setBlock i .idle) .quiet
  | fails {send : Send} {reason : Bytes} (at' : before.blocks i = .sending send) :
      BlockEffect cipher before i
        (({ before with writeLock := false }.setBlock i .idle).fail.close reason) .quiet

theorem forward_effect {event : BlockEvent}
    (stepped : forward cipher before i event = some (after, label)) :
    BlockEffect cipher before i after label := by
  cases at' : before.blocks i <;> cases event <;> simp only [forward, at', reduceCtorEq] at stepped
  case waiting.locks packet encrypts =>
    split at stepped
    · cases stepped
    · rename_i free
      split at stepped <;> cases stepped
      · exact .locks at' (by simpa using free) (by assumption)
      · exact .unencrypted at'
  case sending.writes send count =>
    split at stepped
    · cases stepped
    · rename_i send' state' wrote
      obtain ⟨chunk, nonempty, rest, _, writable, rfl⟩ := writeSome_spec wrote
      cases stepped
      exact .writes at' nonempty rest writable
  case sending.sent send =>
    split at stepped <;> cases stepped
    exact .sent at' (by assumption)
  case sending.fails send =>
    split at stepped <;> cases stepped
    exact .fails at'

/-! ### The session -/

/-- The message of `sendIp`: the address, as the session's cipher masks it. -/
def addressMessage (cipher : Cipher) (aes : AesSession) (ip : UInt32) : Bytes :=
  mask (cipher aes.key aes.encryptIv) aes.encrypted ([4, 0, 0, 0] ++ encode ip)

inductive SendIpEffect (cipher : Cipher) (ip : UInt32) (before : WireState) :
    WireState → Label → Prop where
  | encrypts {aes : AesSession} (at' : before.session = .handshake) :
      SendIpEffect cipher ip before { before with
        aes := aes
        session := .sendingIp { buffer := addressMessage cipher before.aes ip } } .quiet
  | writes {send send' : Send} {chunk : Bytes} (at' : before.session = .sendingIp send)
      (nonempty : chunk ≠ []) (rest : send.rest = chunk ++ send'.rest)
      (buffer : send'.buffer = send.buffer) (writable : before.writable = true) :
      SendIpEffect cipher ip before { before with
        session := .sendingIp send'
        written := before.written ++ Author.sendIp.wrote chunk } (.wrote .sendIp)
  | sent {send : Send} (at' : before.session = .sendingIp send) (whole : send.rest = []) :
      SendIpEffect cipher ip before { before with session := .sentIp } .quiet
  | fails {send : Send} {reason : Bytes} (at' : before.session = .sendingIp send) :
      SendIpEffect cipher ip before
        ({ before with session := .failed }.fail.close reason) .quiet
  | register (at' : before.session = .sentIp) :
      SendIpEffect cipher ip before { before with session := .registered } .registered

theorem sendIp_effect {event : SessionEvent}
    (stepped : sendIp cipher ip before event = some (after, label)) :
    SendIpEffect cipher ip before after label := by
  cases at' : before.session <;> cases event <;> simp only [sendIp, at', reduceCtorEq] at stepped
  case handshake.sendIp =>
    rw [AesSession.encrypt_ok (by simp)] at stepped
    cases stepped
    exact .encrypts at'
  case sendingIp.writes send count =>
    split at stepped
    · cases stepped
    · rename_i send' state' wrote
      obtain ⟨chunk, nonempty, rest, buffer, writable, rfl⟩ := writeSome_spec wrote
      cases stepped
      exact .writes at' nonempty rest buffer writable
  case sendingIp.sent send =>
    split at stepped <;> cases stepped
    exact .sent at' (by assumption)
  case sendingIp.fails send =>
    split at stepped <;> cases stepped
    exact .fails at'
  case sentIp.register => cases stepped; exact .register at'

/-! ### What holds in every run -/

/-- The messages under way are the ones that were meant, and no block comes before
the registration. -/
structure Sound (cipher : Cipher) (aes : AesSession) (ip : UInt32) (state : WireState) : Prop where
  fresh : state.session = .handshake → state.aes = aes
  address : ∀ {send}, state.session = .sendingIp send → send.buffer = addressMessage cipher aes ip
  message : ∀ {reason send}, state.closer = .sending reason send → send.buffer = errorMessage reason
  idle : state.session ≠ .registered → ∀ i, state.blocks i = .idle

/-- `close` up to its loop leaves a message under way where it is. -/
theorem close_sending {other : Bytes} (at' : (state.close reason).closer = .sending other send) :
    state.closer = .sending other send := by
  unfold WireState.close at at'
  split at at'
  · cases at'
  · exact at'

private theorem Sound.close (sound : Sound cipher aes ip state) :
    Sound cipher aes ip (state.close reason) where
  fresh := by simpa using sound.fresh
  address := fun at' => sound.address (by simpa using at')
  message := fun at' => sound.message (close_sending at')
  idle := by simpa using sound.idle

/-- Steps of a block come after the registration. -/
theorem forward_registered {event : BlockEvent} (sound : Sound cipher aes ip before)
    (stepped : forward cipher before i event = some (after, label)) :
    before.session = .registered ∧ after.session = .registered := by
  have registered : before.session = .registered := by
    by_contra other
    simp [forward, sound.idle other i] at stepped
  refine ⟨registered, ?_⟩
  cases forward_effect stepped <;> simpa [WireState.setBlock] using registered

theorem step_sound (sound : Sound cipher aes ip before)
    (stepped : step cipher ip before event = some (after, label)) : Sound cipher aes ip after := by
  cases event with
  | session event =>
    cases sendIp_effect stepped with
    | encrypts at' =>
      refine ⟨by simp, ?_, sound.message, fun _ => sound.idle (by simp [at'])⟩
      rintro send ⟨⟩
      rw [sound.fresh at']
    | writes at' _ _ buffer =>
      refine ⟨by simp, ?_, sound.message, fun _ => sound.idle (by simp [at'])⟩
      rintro send ⟨⟩
      exact buffer.trans (sound.address at')
    | sent at' => exact ⟨by simp, by simp, sound.message, fun _ => sound.idle (by simp [at'])⟩
    | fails at' =>
      exact Sound.close ⟨by simp, by simp, sound.message, fun _ => sound.idle (by simp [at'])⟩
    | register at' => exact ⟨by simp, by simp, sound.message, by simp⟩
  | close reason => cases stepped; exact sound.close
  | closer event =>
    cases closeOn_effect stepped with
    | locks => exact ⟨sound.fresh, sound.address, by rintro _ _ ⟨⟩; rfl, sound.idle⟩
    | writes at' _ _ buffer =>
      refine ⟨sound.fresh, sound.address, ?_, sound.idle⟩
      rintro reason send ⟨⟩
      exact buffer.trans (sound.message at')
    | notOpen | sent | fails | shutdown =>
      exact ⟨sound.fresh, sound.address, by simp, sound.idle⟩
  | route i packet =>
    simp only [step] at stepped
    split at stepped <;> cases stepped
    rename_i registered _
    exact ⟨sound.fresh, sound.address, sound.message, fun other => absurd registered other⟩
  | block i event =>
    have registered := (forward_registered sound stepped).1
    cases forward_effect stepped with
    | locks => exact ⟨by simp [WireState.setBlock, registered], sound.address, sound.message,
        fun other => absurd registered other⟩
    | writes | sent =>
      exact ⟨sound.fresh, sound.address, sound.message, fun other => absurd registered other⟩
    | unencrypted | fails =>
      exact Sound.close ⟨sound.fresh, sound.address, sound.message,
        fun other => absurd registered other⟩

/-- In every run the messages under way are the ones that were meant. -/
theorem run_sound (run : (system cipher aes ip).Run trace state) : Sound cipher aes ip state := by
  refine run.reachable ?_ ?_
  · rintro _ rfl
    exact ⟨fun _ => rfl, by simp [machine], by simp [machine], fun _ _ => rfl⟩
  · rintro before label after sound ⟨event, stepped⟩
    exact step_sound sound stepped

end Vpverk.Wire
