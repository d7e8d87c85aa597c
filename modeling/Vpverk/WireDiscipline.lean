import Vpverk.WireSteps

/-! The wire of a connection once its session is registered: the write lock has
one holder, and what it guards comes out as whole frames in keystream order, with
the error message behind them. -/
namespace Vpverk.Wire
open Octets Peer DataExchange Transition

variable {cipher : Cipher} {aes : AesSession} {ip : UInt32} {state state' before after start : WireState}
  {send send' : Send} {author : Author} {count i j : Nat} {reason : Bytes} {trace later : List Label}
  {label : Label} {event : WireEvent}

/-- The call of `close` holds the write lock. -/
def Closer.active : Closer → Bool
  | .sending _ _ | .shutting _ => true
  | _ => false

@[simp] theorem close_active : (state.close reason).closer.active = state.closer.active := by
  unfold WireState.close
  split
  · rename_i uncalled
    rw [uncalled]
    rfl
  · rfl

/-! ### The write lock has one holder -/

structure Exclusive (state : WireState) : Prop where
  block : ∀ {i send}, state.blocks i = .sending send →
    state.writeLock = true ∧ state.closer.active = false
  alone : ∀ {i j send send'}, state.blocks i = .sending send → state.blocks j = .sending send' → i = j
  closer : state.closer.active = true → state.writeLock = true

/-- Nothing of the lock has changed hands. -/
private theorem Exclusive.still (exclusive : Exclusive before)
    (blocks : ∀ i send, after.blocks i = .sending send → ∃ send', before.blocks i = .sending send')
    (writeLock : after.writeLock = before.writeLock)
    (active : after.closer.active = before.closer.active) : Exclusive after where
  block := by
    intro i send at'
    obtain ⟨send', at'⟩ := blocks i send at'
    rw [writeLock, active]
    exact exclusive.block at'
  alone := by
    intro i j send send' first second
    obtain ⟨_, first⟩ := blocks i send first
    obtain ⟨_, second⟩ := blocks j send' second
    exact exclusive.alone first second
  closer := by
    rw [writeLock, active]
    exact exclusive.closer

/-- No block is in its send. -/
def Unsending (blocks : Nat → Block) : Prop := ∀ i send, blocks i ≠ .sending send

private theorem Unsending.exclusive (unsending : Unsending state.blocks)
    (closer : state.closer.active = true → state.writeLock = true) : Exclusive state :=
  ⟨fun at' => absurd at' (unsending _ _), fun at' => absurd at' (unsending _ _), closer⟩

private theorem Exclusive.unsending (exclusive : Exclusive state)
    (other : state.writeLock = false ∨ state.closer.active = true) : Unsending state.blocks := by
  intro i send at'
  obtain ⟨held, inactive⟩ := exclusive.block at'
  rcases other with free | active
  · simp [free] at held
  · simp [active] at inactive

private theorem Exclusive.inactive (exclusive : Exclusive state) (free : state.writeLock = false) :
    state.closer.active = false := by
  by_contra active
  simp [exclusive.closer (by simpa using active)] at free

/-- Without the one block that is in its send there is none. -/
private theorem Exclusive.unsending_idle (exclusive : Exclusive state)
    (at' : state.blocks i = .sending send) :
    Unsending (Function.update state.blocks i .idle) := by
  intro j other sending
  by_cases same : j = i
  · simp [same] at sending
  · rw [Function.update_of_ne same] at sending
    exact same (exclusive.alone sending at')

private theorem Exclusive.close (exclusive : Exclusive state) : Exclusive (state.close reason) :=
  exclusive.still (fun _ send at' => ⟨send, by simpa using at'⟩) (by simp) (by simp)

/-- A block that was not in its send, or stays in it, changes nothing either. -/
private theorem Exclusive.setBlock {block : Block} (exclusive : Exclusive state)
    (at' : ∀ send, block = .sending send → ∃ send', state.blocks i = .sending send') :
    Exclusive (state.setBlock i block) := by
  refine exclusive.still (fun j send sending => ?_) rfl rfl
  by_cases same : j = i
  · subst same
    exact at' send (by simpa [WireState.setBlock] using sending)
  · exact ⟨send, by simpa [WireState.setBlock, Function.update_of_ne same] using sending⟩

theorem step_exclusive (exclusive : Exclusive before)
    (stepped : step cipher ip before event = some (after, label)) : Exclusive after := by
  have same : ∀ {after : WireState}, after.blocks = before.blocks →
      after.writeLock = before.writeLock → after.closer.active = before.closer.active →
      Exclusive after :=
    fun blocks => exclusive.still fun _ send at' => ⟨send, blocks ▸ at'⟩
  cases event with
  | session event =>
    cases sendIp_effect stepped with
    | encrypts | writes | sent | register => exact same rfl rfl rfl
    | fails => exact Exclusive.close (same rfl rfl rfl)
  | close reason => cases stepped; exact exclusive.close
  | closer event =>
    cases closeOn_effect stepped with
    | locks at' free => exact Unsending.exclusive (exclusive.unsending (.inl free)) fun _ => rfl
    | shutdown at' =>
      exact Unsending.exclusive (exclusive.unsending (.inr (by rw [at']; rfl))) (by simp [Closer.active])
    | notOpen at' | writes at' | sent at' | fails at' => exact same rfl rfl (by rw [at']; rfl)
  | route i packet =>
    simp only [step] at stepped
    split at stepped <;> cases stepped
    exact exclusive.setBlock (by simp)
  | block i event =>
    cases forward_effect stepped with
    | @locks packet encrypted aes at' free =>
      have only : ∀ {j send}, Function.update before.blocks i
          (.sending { buffer := encrypted }) j = .sending send → j = i := by
        intro j send sending
        by_contra other
        rw [Function.update_of_ne other] at sending
        exact exclusive.unsending (.inl free) j send sending
      exact ⟨fun _ => ⟨rfl, exclusive.inactive free⟩,
        fun first second => (only first).trans (only second).symm, fun _ => rfl⟩
    | unencrypted at' => exact (exclusive.setBlock (by simp)).close
    | writes at' =>
      exact Exclusive.setBlock (same rfl rfl rfl) fun _ _ => ⟨_, at'⟩
    | sent at' =>
      apply Unsending.exclusive (exclusive.unsending_idle at')
      intro active
      exact absurd active (by simp [WireState.setBlock, (exclusive.block at').2])
    | fails at' =>
      refine Exclusive.close (Unsending.exclusive (exclusive.unsending_idle at') fun active => ?_)
      exact absurd active (by simp [WireState.setBlock, (exclusive.block at').2])

theorem run_exclusive (run : (system cipher aes ip).Run trace state) : Exclusive state := by
  refine run.reachable ?_ ?_
  · rintro _ rfl
    exact ⟨by simp [machine], by simp [machine], by simp [machine, Closer.active]⟩
  · rintro before label after exclusive ⟨event, stepped⟩
    exact step_exclusive exclusive stepped

/-! ### What the lock guards comes out whole and in order -/

/-- Frames as the cipher masks them from where a session stands. -/
def sealedFrames (cipher : Cipher) (aes : AesSession) (sequence : List Packet) : Bytes :=
  mask (cipher aes.key aes.encryptIv) aes.encrypted (frames sequence)

/-- The session when it has encrypted the frames. -/
def past (aes : AesSession) (sequence : List Packet) : AesSession :=
  { aes with encrypted := aes.encrypted + (frames sequence).length }

private theorem frames_snoc (sequence : List Packet) (packet : Packet) :
    frames (sequence ++ [packet]) = frames sequence ++ frame packet := by
  simp [frames]

private theorem sealedFrames_snoc (sequence : List Packet) (packet : Packet) :
    sealedFrames cipher aes (sequence ++ [packet]) =
      sealedFrames cipher aes sequence ++ sealedFrames cipher (past aes sequence) [packet] := by
  rw [sealedFrames, frames_snoc, mask_append]
  simp [sealedFrames, past, frames]

private theorem past_snoc (sequence : List Packet) (packet : Packet) :
    past aes (sequence ++ [packet]) = past (past aes sequence) [packet] := by
  simp [past, frames, Nat.add_assoc]

/-- How much of the error message has been written. -/
def Closer.offset : Closer → Nat
  | .sending _ send => send.offset
  | _ => 0

/-- What was left of an error message when the session registered: all of it,
unless `close` was in the middle of it. -/
def leftover (start : WireState) (reason : Bytes) : Bytes :=
  (errorMessage reason).drop start.closer.offset

/-- Since the registration whole frames have been written, one after the other in
the keystream, and something last. -/
def Since (cipher : Cipher) (start state : WireState) (sequence : List Packet)
    (last : List (Author × UInt8)) : Prop :=
  state.written = start.written ++ Author.router.wrote (sealedFrames cipher start.aes sequence) ++ last

/-- The start of one more frame or of the error message. -/
def Cut (cipher : Cipher) (start : WireState) (sequence : List Packet)
    (last : List (Author × UInt8)) : Prop :=
  (∃ packet, last <+:
    Author.router.wrote (sealedFrames cipher (past start.aes sequence) [packet])) ∨
  ∃ reason, last <+: Author.close.wrote (leftover start reason)

/-- Nothing, or the whole error message. -/
def Intact (start : WireState) (last : List (Author × UInt8)) : Prop :=
  last = [] ∨ ∃ reason, last = Author.close.wrote (leftover start reason)

/-- Whole frames and one thing behind them, which is whole too unless a send has
failed. -/
def Ordered (cipher : Cipher) (start state : WireState) : Prop :=
  ∃ sequence last, Since cipher start state sequence last ∧ Cut cipher start sequence last ∧
    (state.sendFailed = true ∨ Intact start last)

/-- What has been written since the registration, by who holds the write lock. -/
inductive Progress (cipher : Cipher) (start state : WireState) : Prop where
  | whole {sequence : List Packet} (since : Since cipher start state sequence [])
      (aes : state.aes = past start.aes sequence) (unsending : Unsending state.blocks)
      (inactive : state.closer.active = false) (takes : state.writable = true)
  | forwarding {sequence : List Packet} {packet : Packet} {i : Nat} {send : Send} {cut : Bytes}
      (since : Since cipher start state sequence (Author.router.wrote cut))
      (at' : state.blocks i = .sending send)
      (rest : cut ++ send.rest = sealedFrames cipher (past start.aes sequence) [packet])
      (aes : state.aes = past start.aes (sequence ++ [packet])) (takes : state.writable = true)
  | closing {sequence : List Packet} {reason : Bytes} {send : Send} {cut : Bytes}
      (since : Since cipher start state sequence (Author.close.wrote cut))
      (at' : state.closer = .sending reason send)
      (rest : cut ++ send.rest = leftover start reason) (takes : state.writable = true)
  | shutting {reason : Bytes} (ordered : Ordered cipher start state)
      (at' : state.closer = .shutting reason)
  | stopped (ordered : Ordered cipher start state) (unwritable : state.writable = false)

private theorem wrote_prefix {cut rest whole : Bytes} (split : cut ++ rest = whole) :
    author.wrote cut <+: author.wrote whole :=
  ⟨author.wrote rest, by rw [← wrote_append, split]⟩

/-- More of the message that comes last. -/
private theorem Since.grows {sequence : List Packet} {cut chunk : Bytes}
    (since : Since cipher start before sequence (author.wrote cut))
    (written : after.written = before.written ++ author.wrote chunk) :
    Since cipher start after sequence (author.wrote (cut ++ chunk)) := by
  have since : before.written = _ := since
  rw [Since, written, since, wrote_append, List.append_assoc]

/-- A failure leaves what there is in order. -/
private theorem Ordered.fail (ordered : Ordered cipher start state) :
    Ordered cipher start state.fail := by
  obtain ⟨sequence, last, since, cut, intact⟩ := ordered
  exact ⟨sequence, last, since, cut, intact.imp_left fail_keeps⟩

/-- With the write lock free there are whole frames on the wire, or nothing more
comes. -/
private theorem Progress.unlocked (progress : Progress cipher start state)
    (exclusive : Exclusive state) (free : state.writeLock = false) :
    (∃ sequence, Since cipher start state sequence [] ∧ state.aes = past start.aes sequence ∧
      state.writable = true) ∨
    Ordered cipher start state ∧ state.writable = false := by
  cases progress with
  | whole since aes _ _ takes => exact .inl ⟨_, since, aes, takes⟩
  | forwarding _ at' => simp [(exclusive.block at').1] at free
  | closing _ at' | shutting _ at' => simp [exclusive.closer (by rw [at']; rfl)] at free
  | stopped ordered unwritable => exact .inr ⟨ordered, unwritable⟩

/-- While a block is in its send, its frame comes last, or nothing more comes. -/
private theorem Progress.at_block (progress : Progress cipher start state)
    (exclusive : Exclusive state) (at' : state.blocks i = .sending send) :
    (∃ sequence packet cut, Since cipher start state sequence (Author.router.wrote cut) ∧
      cut ++ send.rest = sealedFrames cipher (past start.aes sequence) [packet] ∧
      state.aes = past start.aes (sequence ++ [packet]) ∧ state.writable = true) ∨
    Ordered cipher start state ∧ state.writable = false := by
  have inactive := (exclusive.block at').2
  cases progress with
  | whole _ _ unsending => exact absurd at' (unsending i send)
  | @forwarding sequence packet j other cut since sending rest aes takes =>
    obtain rfl := exclusive.alone sending at'
    obtain rfl : other = send := by simpa [sending] using at'
    exact .inl ⟨sequence, packet, cut, since, rest, aes, takes⟩
  | closing _ closing | shutting _ closing => simp [closing, Closer.active] at inactive
  | stopped ordered unwritable => exact .inr ⟨ordered, unwritable⟩

/-- While `close` is in its send, its message comes last, or nothing more comes. -/
private theorem Progress.at_close (progress : Progress cipher start state)
    (exclusive : Exclusive state) (at' : state.closer = .sending reason send) :
    (∃ sequence cut, Since cipher start state sequence (Author.close.wrote cut) ∧
      cut ++ send.rest = leftover start reason ∧ state.writable = true) ∨
    Ordered cipher start state ∧ state.writable = false := by
  cases progress with
  | whole _ _ _ inactive => simp [at', Closer.active] at inactive
  | forwarding _ sending => simpa [at', Closer.active] using (exclusive.block sending).2
  | @closing sequence _ _ cut since closing rest takes =>
    rw [at', Closer.sending.injEq] at closing
    obtain ⟨rfl, rfl⟩ := closing
    exact .inl ⟨sequence, cut, since, rest, takes⟩
  | shutting _ shutting => simp [at'] at shutting
  | stopped ordered unwritable => exact .inr ⟨ordered, unwritable⟩

/-- What every state shows of the bytes written since the registration. -/
private theorem Progress.shows (progress : Progress cipher start state) (exclusive : Exclusive state) :
    ∃ sequence last, Since cipher start state sequence last ∧ Cut cipher start sequence last ∧
      (state.sendFailed = false → state.writeLock = false → Intact start last) := by
  have shown : Ordered cipher start state → ∃ sequence last,
      Since cipher start state sequence last ∧ Cut cipher start sequence last ∧
        (state.sendFailed = false → state.writeLock = false → Intact start last) := by
    rintro ⟨sequence, last, since, cut, intact⟩
    exact ⟨sequence, last, since, cut, fun unfailed _ => intact.resolve_left (by simp [unfailed])⟩
  cases progress with
  | @whole sequence since =>
    exact ⟨sequence, [], since, .inr ⟨[], List.nil_prefix⟩, fun _ _ => .inl rfl⟩
  | @forwarding sequence packet _ _ cut since at' rest =>
    refine ⟨sequence, _, since, .inl ⟨packet, wrote_prefix rest⟩, fun _ free => ?_⟩
    simp [(exclusive.block at').1] at free
  | @closing sequence reason _ cut since at' rest =>
    refine ⟨sequence, _, since, .inr ⟨reason, wrote_prefix rest⟩, fun _ free => ?_⟩
    simp [exclusive.closer (by rw [at']; rfl)] at free
  | shutting ordered => exact shown ordered
  | stopped ordered => exact shown ordered

/-- A call of `close` up to its loop writes nothing. -/
private theorem Progress.close (progress : Progress cipher start state) :
    Progress cipher start (state.close reason) := by
  by_cases uncalled : state.closer = .uncalled
  · simp only [WireState.close, uncalled, if_true]
    cases progress with
    | whole since aes unsending _ takes => exact .whole since aes unsending rfl takes
    | forwarding since at' rest aes takes => exact .forwarding since at' rest aes takes
    | closing _ at' | shutting _ at' => simp [uncalled] at at'
    | stopped ordered unwritable => exact .stopped ordered unwritable
  · rwa [WireState.close, if_neg uncalled]

/-- Nor does a block that is not in its send. -/
private theorem Progress.setBlock {block : Block} (progress : Progress cipher start state)
    (before : ∀ send, state.blocks i ≠ .sending send) (quiet : ∀ send, block ≠ .sending send) :
    Progress cipher start (state.setBlock i block) := by
  cases progress with
  | whole since aes unsending inactive takes =>
    refine .whole since aes (fun j send => ?_) inactive takes
    by_cases same : j = i
    · simpa [WireState.setBlock, same] using quiet send
    · simpa [WireState.setBlock, Function.update_of_ne same] using unsending j send
  | @forwarding _ _ j send _ since at' rest aes takes =>
    have other : j ≠ i := by
      rintro rfl
      exact before _ at'
    have kept : (state.setBlock i block).blocks j = .sending send := by
      simpa [WireState.setBlock, Function.update_of_ne other] using at'
    exact .forwarding since kept rest aes takes
  | closing since at' rest takes => exact .closing since at' rest takes
  | shutting ordered at' => exact .shutting ordered at'
  | stopped ordered unwritable => exact .stopped ordered unwritable

/-- What the call of `close` that goes through makes of it. -/
private theorem Progress.closeOn (exclusive : Exclusive before)
    (fresh : ∀ {reason}, before.closer = .locking reason → start.closer.offset = 0)
    (progress : Progress cipher start before) (effect : CloseEffect before after label) :
    Progress cipher start after := by
  cases effect with
  | @locks reason at' free =>
    rcases progress.unlocked exclusive free with ⟨_, since, _, takes⟩ | ⟨ordered, unwritable⟩
    · refine .closing (show Since cipher start _ _ (Author.close.wrote []) from since) rfl ?_ takes
      simp [Send.rest, leftover, fresh at']
    · exact .stopped ordered unwritable
  | notOpen at' free =>
    rcases progress.unlocked exclusive free with ⟨_, since, aes, takes⟩ | ⟨ordered, unwritable⟩
    · exact .whole since aes (exclusive.unsending (.inl free)) rfl takes
    · exact .stopped ordered unwritable
  | writes at' _ rest _ writable =>
    rcases progress.at_close exclusive at' with ⟨_, cut, since, whole, _⟩ | ⟨_, unwritable⟩
    · exact .closing (since.grows rfl) rfl (by rw [List.append_assoc, ← rest, whole]) writable
    · simp [writable] at unwritable
  | @sent reason send at' finished =>
    rcases progress.at_close exclusive at' with ⟨_, cut, since, whole, _⟩ | ⟨ordered, _⟩
    · rw [finished, List.append_nil] at whole
      subst whole
      exact .shutting ⟨_, _, since, .inr ⟨reason, List.prefix_rfl⟩, .inr (.inr ⟨reason, rfl⟩)⟩ rfl
    · exact .shutting ordered rfl
  | @fails reason send at' =>
    refine .stopped ?_ fail_writable
    rcases progress.at_close exclusive at' with ⟨_, cut, since, whole, takes⟩ | ⟨ordered, _⟩
    · exact ⟨_, _, since, .inr ⟨reason, wrote_prefix whole⟩, .inl (fail_sendFailed takes)⟩
    · exact ordered.fail
  | shutdown at' =>
    refine .stopped ?_ (by simp [WireState.writable])
    cases progress with
    | whole _ _ _ inactive => simp [at', Closer.active] at inactive
    | forwarding _ sending => simpa [at', Closer.active] using (exclusive.block sending).2
    | closing _ sending => simp [at'] at sending
    | shutting ordered => exact ordered
    | stopped ordered => exact ordered

/-- What a block of the router makes of it. -/
private theorem Progress.forward (exclusive : Exclusive before)
    (progress : Progress cipher start before) (effect : BlockEffect cipher before i after label) :
    Progress cipher start after := by
  cases effect with
  | @locks packet encrypted aes' at' free encrypts =>
    rcases progress.unlocked exclusive free with ⟨sequence, since, aes, takes⟩ | ⟨ordered, unwritable⟩
    · have sealed' : encrypted = sealedFrames cipher (past start.aes sequence) [packet] ∧
          aes' = past start.aes (sequence ++ [packet]) := by
        rw [aes, AesSession.encrypt_ok (Nat.le_refl _)] at encrypts
        cases encrypts
        rw [past_snoc]
        simp [sealedFrames, past, frames]
      obtain ⟨rfl, rfl⟩ := sealed'
      refine .forwarding (show Since cipher start _ sequence (Author.router.wrote []) from since)
        (Function.update_self i _ before.blocks) ?_ rfl takes
      simp [Send.rest]
    · exact .stopped ordered unwritable
  | unencrypted at' => exact (progress.setBlock (by simp [at']) (by simp)).close
  | writes at' _ rest writable =>
    rcases progress.at_block exclusive at' with ⟨_, _, cut, since, whole, aes, _⟩ | ⟨_, unwritable⟩
    · exact .forwarding (since.grows rfl) (Function.update_self i _ before.blocks)
        (by rw [List.append_assoc, ← rest, whole]) aes writable
    · simp [writable] at unwritable
  | sent at' finished =>
    rcases progress.at_block exclusive at' with
      ⟨sequence, packet, cut, since, whole, aes, takes⟩ | ⟨ordered, unwritable⟩
    · rw [finished, List.append_nil] at whole
      subst whole
      have since' : Since cipher start before (sequence ++ [packet]) [] := by
        rw [Since, sealedFrames_snoc, wrote_append, ← List.append_assoc, List.append_nil]
        exact since
      exact .whole since' aes (exclusive.unsending_idle at') (exclusive.block at').2 takes
    · exact .stopped ordered unwritable
  | fails at' =>
    refine Progress.close (.stopped ?_ fail_writable)
    rcases progress.at_block exclusive at' with ⟨_, packet, _, since, whole, _, takes⟩ | ⟨ordered, _⟩
    · exact ⟨_, _, since, .inl ⟨packet, wrote_prefix whole⟩, .inl (fail_sendFailed takes)⟩
    · exact ordered.fail

/-! ### From the registration on -/

/-- The call of `close` has taken the write lock. -/
def Closer.begun : Closer → Bool
  | .uncalled | .locking _ => false
  | _ => true

private theorem close_begun : (state.close reason).closer.begun = state.closer.begun := by
  unfold WireState.close
  split
  · rename_i uncalled
    rw [uncalled]
    rfl
  · rfl

/-- The session is registered, the lock has one holder, and what has been written
since is in order. -/
structure Disciplined (cipher : Cipher) (start state : WireState) : Prop where
  registered : state.session = .registered
  exclusive : Exclusive state
  fresh : state.closer.begun = false → start.closer.offset = 0
  progress : Progress cipher start state

/-- At the registration a call of `close` may be in the middle of its message. -/
private theorem disciplined_start (run : (system cipher aes ip).Run trace before)
    (registers : (system cipher aes ip).step before .registered start) :
    Disciplined cipher start start := by
  have exclusive := run_exclusive (run.next registers)
  obtain ⟨event, stepped⟩ := registers
  have stepped : step cipher ip before event = some (start, .registered) := stepped
  obtain ⟨at', rfl⟩ : before.session = .sentIp ∧ start = { before with session := .registered } := by
    cases event with
    | session event => cases sendIp_effect stepped with | register at' => exact ⟨at', rfl⟩
    | close reason => cases stepped
    | closer event => cases closeOn_effect stepped
    | route i packet => simp only [step] at stepped; split at stepped <;> cases stepped
    | block i event => cases forward_effect stepped
  have unsending : Unsending before.blocks := by
    intro i send sending
    simp [(run_sound run).idle (by simp [at']) i] at sending
  refine ⟨rfl, exclusive, ?_, ?_⟩
  · cases closer : before.closer <;> simp [Closer.begun, Closer.offset]
  · have since : Since cipher { before with session := .registered }
        { before with session := .registered } [] [] := by simp [Since, sealedFrames, frames]
    cases takes : before.writable with
    | false => exact .stopped ⟨[], [], since, .inr ⟨[], List.nil_prefix⟩, .inr (.inl rfl)⟩ takes
    | true =>
      cases closer : before.closer with
      | uncalled | locking | ended =>
        exact .whole since (by simp [past, frames]) unsending rfl takes
      | sending reason send =>
        refine .closing (show Since cipher _ _ [] (Author.close.wrote []) from since) rfl ?_ takes
        simp [leftover, Send.rest, Closer.offset, (run_sound run).message closer]
      | shutting reason =>
        exact .shutting ⟨[], [], since, .inr ⟨reason, List.nil_prefix⟩, .inr (.inl rfl)⟩ rfl

private theorem disciplined_step (disciplined : Disciplined cipher start before)
    (stepped : step cipher ip before event = some (after, label)) :
    Disciplined cipher start after := by
  obtain ⟨registered, exclusive, fresh, progress⟩ := disciplined
  have exclusive' := step_exclusive exclusive stepped
  cases event with
  | session event =>
    cases sendIp_effect stepped with
    | encrypts at' | writes at' | sent at' | fails at' | register at' => simp [registered] at at'
  | close reason =>
    cases stepped
    exact ⟨by simp [registered], exclusive', by simpa [close_begun] using fresh, progress.close⟩
  | closer event =>
    have effect := closeOn_effect stepped
    have fresh' : ∀ {reason}, before.closer = .locking reason → start.closer.offset = 0 :=
      fun at' => fresh (by rw [at']; rfl)
    refine ⟨?_, exclusive', ?_, progress.closeOn exclusive fresh' effect⟩
    · cases effect <;> exact registered
    · cases effect <;> simp [Closer.begun]
  | route i packet =>
    simp only [step] at stepped
    split at stepped <;> cases stepped
    rename_i idle
    exact ⟨registered, exclusive', fresh, progress.setBlock (by simp [idle]) (by simp)⟩
  | block i event =>
    have effect := forward_effect stepped
    refine ⟨?_, exclusive', ?_, progress.forward exclusive effect⟩
    · cases effect <;> simp [WireState.setBlock, registered]
    · cases effect <;> simpa [WireState.setBlock, close_begun] using fresh

/-- **Wire discipline.** In every run, what is written to a connection after its
session has registered is whole frames, one after the other in the keystream, and
then at most the start of one more frame or of the error message, each byte by
its own writer. The last of these is itself whole unless a send has failed or is
still under way. -/
theorem wire_discipline (run : (system cipher aes ip).Run trace before)
    (registers : (system cipher aes ip).step before .registered start)
    (steps : (system cipher aes ip).Steps start later state) :
    ∃ sequence last, Since cipher start state sequence last ∧ Cut cipher start sequence last ∧
      (state.sendFailed = false → state.writeLock = false → Intact start last) := by
  have disciplined : Disciplined cipher start state := by
    induction steps with
    | refl => exact disciplined_start run registers
    | next _ stepped ih =>
      obtain ⟨event, stepped⟩ := stepped
      exact disciplined_step ih stepped
  exact disciplined.progress.shows disciplined.exclusive

/-- The first client's connection, under a cipher that counts. -/
abbrev firstConnection : Machine WireState WireEvent Label :=
  machine countingCipher ⟨[], [], [], 0, 0⟩ 0x0A7B0002

/-- A session that is about to push its add entry. -/
def sendingIpWhole : List WireEvent := [.session .sendIp, .session (.writes 8), .session .sent]

/-- A packet of one byte, during which a sweep closes the connection. -/
def packetAndClose : List WireEvent :=
  [.route 0 ⟨[0x46], List.cons_ne_nil _ _, by decide⟩, .block 0 (.locks true), .block 0 (.writes 3),
    .close (utf8 "session expired"), .block 0 (.writes 2), .block 0 .sent, .closer (.locks true),
    .closer (.writes 28), .closer .sent, .closer .shutdown]

theorem wire_discipline_one_packet :
    ∃ start state, state.written.length = start.written.length + 33 ∧ state.sendFailed = false ∧
      ∃ sequence last, Since countingCipher start state sequence last ∧
        Cut countingCipher start sequence last ∧
        (state.sendFailed = false → state.writeLock = false → Intact start last) := by
  obtain ⟨trace, before, run, start, registers, later, state, steps, written, unfailed⟩ :
      ∃ trace before, firstConnection.system.Run trace before ∧
        ∃ start, firstConnection.system.step before .registered start ∧
        ∃ later state, firstConnection.system.Steps start later state ∧
          state.written.length = start.written.length + 33 ∧ state.sendFailed = false :=
    ⟨_, _, Machine.replay_run (show firstConnection.replay _ sendingIpWhole = _ from rfl),
      _, ⟨.session .register, rfl⟩,
      _, _, Machine.replay_steps (show firstConnection.replay _ packetAndClose = _ from rfl),
      rfl, rfl⟩
  exact ⟨start, state, written, unfailed, wire_discipline run registers steps⟩

/-- The wire holds, since the registration, frames of which the last may be cut
short, and behind them nothing or one whole error message. -/
def EndsWhole (start state : WireState) : Prop :=
  ∃ framed message, state.written =
      start.written ++ Author.router.wrote framed ++ Author.close.wrote message ∧
    (message = [] ∨ ∃ reason, message = errorMessage reason)

private theorem not_endsWhole {cut : Bytes}
    (written : state.written = start.written ++ Author.close.wrote cut) (nonempty : cut ≠ [])
    (differs : ∀ reason, cut ≠ errorMessage reason) : ¬ EndsWhole start state := by
  rintro ⟨framed, message, written', whole⟩
  rw [written, List.append_assoc, List.append_cancel_left_eq] at written'
  have nothing : framed = [] := by
    cases framed with
    | nil => rfl
    | cons byte rest => cases cut <;> simp [Author.wrote] at written'
  subst nothing
  have same : cut = message :=
    List.map_injective_iff.mpr (fun _ _ same => (Prod.mk.inj same).2) written'
  subst same
  rcases whole with nothing | ⟨reason, same⟩
  · exact nonempty nothing
  · exact differs reason same

/-- A socket that fails leaves the error message cut short. And of an error message
that was begun before the registration, only the rest comes after it. -/
theorem error_message_cut :
    (∃ trace before start later state, firstConnection.system.Run trace before ∧
      firstConnection.system.step before .registered start ∧
      firstConnection.system.Steps start later state ∧
      start.closer = .uncalled ∧ state.writeLock = false ∧ ¬ EndsWhole start state) ∧
    (∃ trace before start later state, firstConnection.system.Run trace before ∧
      firstConnection.system.step before .registered start ∧
      firstConnection.system.Steps start later state ∧
      state.sendFailed = false ∧ state.writeLock = false ∧ ¬ EndsWhole start state) := by
  constructor
  · refine ⟨_, _, _, _, _,
      Machine.replay_run (show firstConnection.replay _ sendingIpWhole = _ from rfl),
      ⟨.session .register, rfl⟩,
      Machine.replay_steps (show firstConnection.replay _ [.close (utf8 "session expired"),
        .closer (.locks true), .closer (.writes 3), .closer .fails, .closer .shutdown] = _ from rfl),
      rfl, rfl, not_endsWhole (rfl : _ = _ ++ Author.close.wrote [255, 255, 255]) (by simp) ?_⟩
    intro reason same
    have lengths := congrArg List.length same
    simp only [errorMessage, List.length_append, encode_length, List.length_cons] at lengths
    omega
  · refine ⟨_, _, _, _, _,
      Machine.replay_run (show firstConnection.replay _ [.session .sendIp, .session (.writes 8),
        .close (utf8 "session expired"), .closer (.locks true), .closer (.writes 4),
        .session .sent] = _ from rfl),
      ⟨.session .register, rfl⟩,
      Machine.replay_steps (show firstConnection.replay _
        [.closer (.writes 24), .closer .sent, .closer .shutdown] = _ from rfl),
      rfl, rfl, not_endsWhole (rfl : _ = _ ++
        Author.close.wrote ((errorMessage (utf8 "session expired")).drop 4)) (by decide) ?_⟩
    intro reason same
    have heads : some (0x5F : UInt8) = some 0xFF := congrArg List.head? same
    exact absurd heads (by decide)

end Vpverk.Wire
