import Vpverk.DataExchange
import Vpverk.Transition

/-! `performDataExchange` on whatever an authenticated client sends. Its loop is
read pass by pass: what a pass takes from the socket, what it runs through the
decryption and what it hands to the tun device. The header is the client's to
choose, and a size of 0 asks `read_some` for a full buffer. -/
namespace Vpverk.StreamSync
open Coroutine Octets Asioapi Peer DataExchange Transition

/-- One pass of the loop of `performDataExchange`. It answers `none` when the loop
ends, and else the session the next pass starts with and the size it read, if it
read one. -/
def exchangePass (cipher : Cipher) (aes : AesSession) :
    Coroutine Server (Option (AesSession × Option Nat)) := do
  match ← Server.onCon waitData with
  | none => pure none
  | some false => pure (some (aes, none))
  | some true =>
    let (readRaw, aes) ← Server.onCon (readHeader cipher aes)
    let (ipPacket, aes) ← Server.onCon (readPacket cipher aes readRaw)
    Server.onTun (Tun.write ipPacket)
    pure (some (aes, some readRaw))

variable {cipher : Cipher} {aes aes' : AesSession} {server after : Server} {con con' : Connection}
  {read : Option Nat} {readRaw : Nat} {header rest : Bytes}

/-- The loop of `performDataExchange` is made of passes. -/
theorem performDataExchange_succ (cipher : Cipher) (passes : Nat) (aes : AesSession) :
    performDataExchange cipher (passes + 1) aes =
      (exchangePass cipher aes >>= fun
        | none => pure false
        | some (aes, _) => performDataExchange cipher passes aes) := by
  rw [performDataExchange, exchangePass, bind_assoc]
  congr 1
  funext waited
  rcases waited with _ | _ | _
  · rfl
  · rfl
  · simp only [readFrame, Server.onCon, bind_assoc]
    rw [within_bind (by simp) (by simp), bind_assoc]
    rfl

/-! ### What a pass takes and what it decrypts -/

theorem readSomeReliable_ok {buffer amount : Nat} {context : String} {bytes : Bytes}
    (ran : (Connection.readSomeReliable buffer amount context).run con = (.ok bytes, con')) :
    con.socket.stream = bytes ++ con'.socket.stream ∧ bytes.length = needed buffer amount := by
  obtain ⟨answer, mid, within, ended⟩ := bind_run_ok ran
  obtain ⟨socket, reads, rfl⟩ := within_run_iff.mp within
  obtain ⟨taken, stream, took⟩ := takes_readSome buffer amount _ _ _ reads
  cases answer with
  | error code => cases ended
  | ok read =>
    obtain ⟨rfl, length⟩ := took read rfl
    cases ended
    exact ⟨stream, length⟩

theorem readHeader_ok (ran : (readHeader cipher aes).run con = (.ok (readRaw, aes'), con')) :
    ∃ header, con.socket.stream = header ++ con'.socket.stream ∧ header.length = 4 ∧
      readRaw = headerSize cipher aes header ∧ readRaw ≤ maxBoundsSize ∧
      aes' = { aes with decrypted := aes.decrypted + 4 } := by
  obtain ⟨header, mid, ran, checked⟩ := bind_run_ok ran
  obtain ⟨stream, length⟩ := readSomeReliable_ok ran
  have length : header.length = 4 := length
  rw [AesSession.decrypt_ok (by omega)] at checked
  simp only [decrypted, bind_pure_run] at checked
  split at checked
  · cases checked
  · rename_i small
    cases checked
    exact ⟨header, stream, length, rfl, Nat.le_of_not_lt small, by rw [length]⟩

theorem readPacket_ok {packet : Bytes} (fits : readRaw ≤ maxBoundsSize)
    (ran : (readPacket cipher aes readRaw).run con = (.ok (packet, aes'), con')) :
    ∃ taken, con.socket.stream = taken ++ con'.socket.stream ∧
      taken.length = needed maxBoundsSize readRaw ∧
      packet = mask (cipher aes.key aes.decryptIv) aes.decrypted (taken.take readRaw) ∧
      aes' = { aes with decrypted := aes.decrypted + readRaw } := by
  obtain ⟨taken, mid, ran, ended⟩ := bind_run_ok ran
  obtain ⟨stream, length⟩ := readSomeReliable_ok ran
  have enough : readRaw ≤ taken.length := by
    rw [length, needed]
    split <;> omega
  rw [AesSession.decrypt_ok (List.length_take_le ..)] at ended
  cases ended
  exact ⟨taken, stream, length, rfl, by rw [List.length_take, Nat.min_eq_left enough]⟩

theorem waitData_ok {found : Option Bool} (ran : waitData.run con = (.ok found, con')) :
    con'.socket.stream = con.socket.stream := by
  have quiet : ∀ {α : Type} {inner : Coroutine Socket α} {value : α} {before last : Connection},
      (Takes inner fun _ bytes => bytes = []) →
      (Connection.onSocket inner).run before = (.ok value, last) →
      last.socket.stream = before.socket.stream := by
    intro α inner value before last takes within
    obtain ⟨socket, runs, rfl⟩ := within_run_iff.mp within
    obtain ⟨_, stream, rfl⟩ := takes _ _ _ runs
    exact stream.symm
  obtain ⟨answer, mid, waited, ran⟩ := bind_run_ok ran
  have first := quiet takes_waitRead waited
  split at ran
  · cases ran
    exact first
  · obtain ⟨count, mid', counted, ran⟩ := bind_run_ok ran
    have second := quiet takes_available counted
    split at ran
    · obtain ⟨active, mid'', asked, ran⟩ := bind_run_ok ran
      obtain ⟨isOpen, last, probed, asked⟩ := bind_run_ok asked
      have third := quiet takes_reliableIsOpen probed
      split at asked <;> cases asked
      split at ran <;> cases ran <;> rw [third, second, first]
    · cases ran
      rw [second, first]

/-- What a pass that goes on to the next has done. -/
inductive Passed (cipher : Cipher) (before : Server) (aes : AesSession) :
    Option Nat → Server → AesSession → Prop where
  | nothing {after : Server} (stream : before.con.socket.stream = after.con.socket.stream)
      (tun : after.tun = before.tun) : Passed cipher before aes none after aes
  | frame {after : Server} {readRaw : Nat} (header taken : Bytes)
      (stream : before.con.socket.stream = header ++ taken ++ after.con.socket.stream)
      (four : header.length = 4) (size : readRaw = headerSize cipher aes header)
      (fits : readRaw ≤ maxBoundsSize) (length : taken.length = needed maxBoundsSize readRaw)
      (tun : ((Tun.write (mask (cipher aes.key aes.decryptIv) (aes.decrypted + 4)
        (taken.take readRaw))).run before.tun) = (.ok (), after.tun)) :
      Passed cipher before aes (some readRaw) after
        { aes with decrypted := aes.decrypted + 4 + readRaw }

theorem exchangePass_ok
    (ran : (exchangePass cipher aes).run server = (.ok (some (aes', read)), after)) :
    Passed cipher server aes read after aes' := by
  obtain ⟨found, mid, within, ran⟩ := bind_run_ok ran
  obtain ⟨con, waited, rfl⟩ := within_run_iff.mp within
  have quiet := waitData_ok waited
  rcases found with _ | _ | _
  · cases ran
  · cases ran
    exact .nothing quiet.symm rfl
  · obtain ⟨⟨readRaw, _⟩, mid, within, ran⟩ := bind_run_ok ran
    obtain ⟨con, first, rfl⟩ := within_run_iff.mp within
    obtain ⟨header, stream, four, size, fits, rfl⟩ := readHeader_ok first
    obtain ⟨⟨packet, _⟩, mid, within, ran⟩ := bind_run_ok ran
    obtain ⟨con, second, rfl⟩ := within_run_iff.mp within
    obtain ⟨taken, stream', length, rfl, rfl⟩ := readPacket_ok fits second
    obtain ⟨_, mid, within, ran⟩ := bind_run_ok ran
    obtain ⟨tun, wrote, rfl⟩ := within_run_iff.mp within
    cases ran
    exact .frame header taken (by rw [← quiet, stream, stream', List.append_assoc]) four size fits
      length wrote

/-! ### The passes of a run -/

/-- The tops of the loop, from one pass to the next, with the sizes read. -/
def exchange (cipher : Cipher) : System (Server × AesSession) (Option Nat) where
  initial _ := True
  step before read after :=
    (exchangePass cipher before.2).run before.1 = (.ok (some (after.2, read)), after.1)

variable {start finish : Server × AesSession} {reads : List (Option Nat)}

theorem exchange_step
    (ran : (exchangePass cipher aes).run server = (.ok (some (aes', read)), after)) :
    (exchange cipher).step (server, aes) read (after, aes') := ran

/-- They are the tops the loop of `performDataExchange` comes by. -/
theorem exchange_tops (steps : (exchange cipher).Steps start reads finish) (passes : Nat) :
    (performDataExchange cipher (reads.length + passes) start.2).run start.1 =
      (performDataExchange cipher passes finish.2).run finish.1 := by
  induction steps generalizing passes with
  | refl => simp
  | next _ step ih =>
    rw [List.length_append, List.length_singleton, Nat.add_assoc, ih, Nat.add_comm 1,
      performDataExchange_succ, bind_ok step]

/-- Each size of 0 puts the decryption a full buffer behind the socket. -/
theorem exchange_counts (steps : (exchange cipher).Steps start reads finish) :
    ∃ taken, start.1.con.socket.stream = taken ++ finish.1.con.socket.stream ∧
      start.2.decrypted + taken.length =
        finish.2.decrypted + maxBoundsSize * reads.count (some 0) := by
  induction steps with
  | refl => exact ⟨[], rfl, by simp⟩
  | @next reads read before after _ step ih =>
    obtain ⟨before, aes⟩ := before
    obtain ⟨after, aes'⟩ := after
    obtain ⟨taken, stream, count⟩ := ih
    dsimp only at stream count ⊢
    cases exchangePass_ok step with
    | nothing same => exact ⟨taken, by rw [stream, same], by simpa using count⟩
    | @frame _ readRaw header more same four _ _ length =>
      refine ⟨taken ++ (header ++ more), by rw [stream, same]; simp, ?_⟩
      dsimp only
      rw [List.count_append, List.count_singleton, List.length_append, List.length_append, four,
        length, needed]
      by_cases zero : readRaw = 0
      · simp only [zero, if_true, beq_self_eq_true, Nat.mul_add, Nat.mul_one]
        omega
      · simp only [zero, if_false, Option.some.injEq, beq_iff_eq, Nat.add_zero]
        omega

/-! ### A frame -/

/-- A pass handles the frame behind this header as it should: of a size that fits
it takes four bytes and as many as the size says, decrypts them and hands exactly
these to the tun device; a larger size ends the session with nothing handed on. -/
structure Framed (cipher : Cipher) (server : Server) (aes : AesSession) (header : Bytes) : Prop where
  whole : headerSize cipher aes header ≤ maxBoundsSize → ∀ payload rest,
    payload.length = headerSize cipher aes header →
    server.con.socket.stream = header ++ payload ++ rest →
    ∃ socket, socket.stream = rest ∧ (exchangePass cipher aes).run server =
      (Server.onTun (Tun.write (mask (cipher aes.key aes.decryptIv) (aes.decrypted + 4) payload)) >>=
        fun _ => pure (some ({ aes with decrypted := aes.decrypted + 4 + payload.length },
          some payload.length))).run { server with con := { server.con with socket := socket } }
  tooLong : maxBoundsSize < headerSize cipher aes header → ∃ what server',
    (exchangePass cipher aes).run server = (.error (.throws what), server') ∧
      server'.tun = server.tun

/-- A connection on which bytes have arrived. -/
structure Arrived (con : Connection) : Prop where
  healthy : con.socket.Healthy
  bytes : ∃ segment others, con.socket.arrivals = .bytes segment :: others

/-- What a pass does once there are bytes. -/
private theorem exchangePass_arrived (arrived : Arrived server.con) :
    (exchangePass cipher aes).run server =
      (Server.onCon (readHeader cipher aes) >>= fun answer =>
        Server.onCon (readPacket cipher answer.2 answer.1) >>= fun packet =>
          Server.onTun (Tun.write packet.1) >>= fun _ =>
            pure (some (packet.2, some answer.1))).run server := by
  obtain ⟨healthy, segment, others, found⟩ := arrived
  exact bind_ok (Server.onCon_run (waitData_bytes server.con healthy found))

variable {taken later : Bytes}

/-- Once a header that fits is read, the packet is asked for. -/
private theorem exchangePass_header (cipher : Cipher) (aes : AesSession) (arrived : Arrived server.con)
    (begins : server.con.socket.stream = header ++ later) (four : header.length = 4)
    (fits : headerSize cipher aes header ≤ maxBoundsSize) :
    ∃ socket, socket.Healthy ∧ socket.stream = later ∧ (exchangePass cipher aes).run server =
      (Server.onCon (readPacket cipher { aes with decrypted := aes.decrypted + 4 }
          (headerSize cipher aes header)) >>= fun packet =>
        Server.onTun (Tun.write packet.1) >>= fun _ =>
          pure (some (packet.2, some (headerSize cipher aes header)))).run
        { server with con := { server.con with socket := socket } } := by
  obtain ⟨socket, ran, moved⟩ := readHeader_run server.con aes cipher arrived.healthy begins four
  rw [if_neg (Nat.not_lt.mpr fits)] at ran
  refine ⟨socket, moved.healthy, List.append_cancel_left (moved.stream.symm.trans begins), ?_⟩
  rw [exchangePass_arrived arrived, bind_ok (Server.onCon_run ran)]

/-- With all there that `read_some` takes for this size, the pass hands on what it
decrypts. -/
private theorem exchangePass_taken (cipher : Cipher) (aes : AesSession) (arrived : Arrived server.con)
    (begins : server.con.socket.stream = header ++ taken ++ rest) (four : header.length = 4)
    (fits : headerSize cipher aes header ≤ maxBoundsSize)
    (length : taken.length = needed maxBoundsSize (headerSize cipher aes header)) :
    ∃ socket, socket.stream = rest ∧ (exchangePass cipher aes).run server =
      (Server.onTun (Tun.write (mask (cipher aes.key aes.decryptIv) (aes.decrypted + 4)
          (taken.take (headerSize cipher aes header)))) >>= fun _ =>
        pure (some ({ aes with decrypted := aes.decrypted + 4 + headerSize cipher aes header },
          some (headerSize cipher aes header)))).run
        { server with con := { server.con with socket := socket } } := by
  rw [List.append_assoc] at begins
  obtain ⟨socket, healthy, stream, pass⟩ := exchangePass_header cipher aes arrived begins four fits
  obtain ⟨socket', ran, moved⟩ := readPacket_run { server.con with socket := socket }
    { aes with decrypted := aes.decrypted + 4 } cipher healthy fits stream length
  have read : (Server.onCon (readPacket cipher { aes with decrypted := aes.decrypted + 4 }
      (headerSize cipher aes header))).run { server with con := { server.con with socket := socket } } =
      (_, { server with con := { server.con with socket := socket' } }) := Server.onCon_run ran
  refine ⟨socket', List.append_cancel_left (moved.stream.symm.trans stream), ?_⟩
  rw [pass, bind_ok read]

/-- Behind a header of size 0 the pass waits for a full buffer. -/
private theorem exchangePass_zero_waits (arrived : Arrived server.con)
    (begins : server.con.socket.stream = header ++ later) (four : header.length = 4)
    (zero : headerSize cipher aes header = 0) (short : later.length < maxBoundsSize) :
    ∃ server', (exchangePass cipher aes).run server = (.error .waits, server') := by
  obtain ⟨socket, healthy, stream, pass⟩ :=
    exchangePass_header cipher aes arrived begins four (by omega)
  obtain ⟨socket', ran, _⟩ := Connection.readSomeReliable_waits
    { server.con with socket := socket } maxBoundsSize (headerSize cipher aes header)
    "error read on data exchange (2): " healthy (by omega) (by decide)
    (by rw [stream, zero]; exact short)
  have read : (Server.onCon (readPacket cipher { aes with decrypted := aes.decrypted + 4 }
      (headerSize cipher aes header))).run { server with con := { server.con with socket := socket } } =
      (.error .waits, { server with con := { server.con with socket := socket' } }) :=
    Server.onCon_run (bind_error ran)
  exact ⟨_, by rw [pass, bind_error read]⟩

/-- A packet is handed to the tun device, or the device throws. -/
private theorem write_run (packet : Bytes) (server : Server) :
    ∃ answer tun, (Server.onTun (Tun.write packet)).run server = (answer, { server with tun := tun }) ∧
      answer ≠ .error .waits := by
  refine ⟨_, _, rfl, ?_⟩
  unfold Tun.write
  dsimp only
  split <;> simp

/-- What is done with a packet leaves the connection alone, and does not wait. -/
private theorem handed_run {packet : Bytes} {last : Option (AesSession × Option Nat)}
    {answer : Except Stop (Option (AesSession × Option Nat))}
    (ran : (Server.onTun (Tun.write packet) >>= fun _ => pure last).run server = (answer, after)) :
    after.con = server.con ∧ answer ≠ .error .waits := by
  obtain ⟨answer', tun, wrote, quiet⟩ := write_run packet server
  cases answer' with
  | ok _ =>
    rw [bind_ok wrote] at ran
    cases ran
    exact ⟨rfl, by simp⟩
  | error how =>
    rw [bind_error wrote] at ran
    cases ran
    exact ⟨rfl, fun same => quiet (by rw [Except.error.inj same])⟩

/-- A pass handles a frame as it should unless its size is 0. -/
theorem framed_iff (arrived : Arrived server.con)
    (begins : server.con.socket.stream = header ++ later) (four : header.length = 4) :
    Framed cipher server aes header ↔ headerSize cipher aes header ≠ 0 := by
  constructor
  · intro framed zero
    obtain ⟨socket, stream, pass⟩ := framed.whole (by omega) [] later zero.symm (by simpa using begins)
    by_cases short : later.length < maxBoundsSize
    · obtain ⟨server', waits⟩ := exchangePass_zero_waits arrived begins four zero short
      exact (handed_run (pass.symm.trans waits)).2 rfl
    · obtain ⟨socket', stream', pass'⟩ := exchangePass_taken cipher aes arrived
        (by rwa [List.append_assoc, List.take_append_drop maxBoundsSize later]) four (by omega) (by rw [zero, needed]; simp; omega)
      have same := (handed_run pass'.symm).1.symm.trans (handed_run pass.symm).1
      have lengths := congrArg (fun con => con.socket.stream.length) same
      dsimp only at lengths
      rw [stream, stream', List.length_drop] at lengths
      unfold maxBoundsSize at lengths short
      omega
  · intro some_bytes
    have asked : needed maxBoundsSize (headerSize cipher aes header) = headerSize cipher aes header :=
      if_neg some_bytes
    constructor
    · intro fits payload rest length split
      obtain ⟨socket, stream, pass⟩ := exchangePass_taken cipher aes arrived split four fits
        (by rw [asked, length])
      rw [← length, List.take_length] at pass
      exact ⟨socket, stream, pass⟩
    · intro tooLong
      obtain ⟨socket, ran, _⟩ := readHeader_run server.con aes cipher arrived.healthy begins four
      rw [if_pos tooLong] at ran
      refine ⟨"they on trees jonny", { server with con := { server.con with socket := socket } }, ?_, rfl⟩
      rw [exchangePass_arrived arrived, bind_error (Server.onCon_run ran)]

/-! ### Exactly when the two stay in step -/

/-- The pass that starts here reads no header, or one that does not stand for the
size 0. -/
def Sized (cipher : Cipher) (before : Server × AesSession) (read : Option Nat) : Prop :=
  read = none ∨ headerSize cipher before.2 (before.1.con.socket.stream.take 4) ≠ 0

theorem exchange_sized (cipher : Cipher) {before after : Server × AesSession}
    (step : (exchange cipher).step before read after) : read ≠ some 0 ↔ Sized cipher before read := by
  obtain ⟨before, aes⟩ := before
  obtain ⟨after, aes'⟩ := after
  cases exchangePass_ok step with
  | nothing => simp [Sized]
  | frame header taken stream four size =>
    dsimp only at stream
    rw [List.append_assoc] at stream
    simp [Sized, stream, List.take_left' four, size]

/-- **The stream and the decryption stay in step until a size of 0.** In every run
of the loop, over whatever the client sends and however it is cut, what has been
taken from the socket is as much as has been decrypted exactly as long as no
header has stood for the size 0. The pass that reads a frame handles it as it
should exactly if its header does not. -/
theorem stream_synchronised (cipher : Cipher) :
    (∀ start reads finish, (exchange cipher).Steps start reads finish →
      ∃ taken, start.1.con.socket.stream = taken ++ finish.1.con.socket.stream ∧
        (start.2.decrypted + taken.length = finish.2.decrypted ↔
          ((exchange cipher).guarded (Sized cipher)).Steps start reads finish)) ∧
    (∀ server aes header later, Arrived server.con →
      server.con.socket.stream = header ++ later → header.length = 4 →
      (Framed cipher server aes header ↔ headerSize cipher aes header ≠ 0)) := by
  refine ⟨fun start reads finish steps => ?_, fun server aes header later => framed_iff⟩
  obtain ⟨taken, stream, count⟩ := exchange_counts steps
  have sized := steps.guarded_iff fun _ _ _ _ _ step => exchange_sized cipher step
  refine ⟨taken, stream, ?_⟩
  rw [← sized, count]
  constructor
  · intro same read member zero
    have positive := List.count_pos_iff.mpr (zero ▸ member)
    unfold maxBoundsSize at same
    omega
  · intro none_zero
    have never : reads.count (some 0) = 0 :=
      List.count_eq_zero.mpr fun member => none_zero _ member rfl
    rw [never]
    rfl

/-- A cipher that leaves everything as it is. -/
def plain : Cipher := fun _ _ _ => 0

/-- A session that has decrypted nothing yet. -/
def fresh : AesSession := ⟨[], [], [], 0, 0⟩

/-- A frame of one byte, cut in its header. -/
def oneByte : Server where
  con := { socket := { arrivals := [.bytes ⟨[1, 0, 0], by simp⟩, .bytes ⟨[0, 7], by simp⟩] } }

theorem stream_synchronised_one_byte :
    (∃ taken : Bytes, [1, 0, 0, 0, 7] = taken ++ [] ∧ (0 + taken.length = 5 ↔
      ((exchange plain).guarded (Sized plain)).Steps (oneByte, fresh) [some 1]
        ({ tun := { written := [[7]] } }, { fresh with decrypted := 5 }))) ∧
      Framed plain oneByte fresh [1, 0, 0, 0] := by
  have first : (exchange plain).step (oneByte, fresh) (some 1)
      ({ tun := { written := [[7]] } }, { fresh with decrypted := 5 }) := rfl
  have arrived : Arrived oneByte.con :=
    ⟨⟨rfl, by simp [oneByte], by simp [oneByte], rfl⟩, _, _, rfl⟩
  exact ⟨(stream_synchronised plain).1 _ _ _ (System.Steps.refl.next first),
    ((stream_synchronised plain).2 oneByte fresh [1, 0, 0, 0] [7] arrived rfl rfl).mpr (by decide)⟩

/-- A frame of 1496 bytes. -/
def longFrame : Bytes := [216, 5, 0, 0] ++ List.replicate 1496 7

/-- A frame of size 0 with that frame behind it. -/
def emptyFrame : Server where
  con := { socket := { arrivals := [.bytes ⟨[0, 0, 0, 0] ++ longFrame, by simp⟩] } }

/-- The empty frame takes the other with it, and only its own header is decrypted. -/
theorem empty_frame_swallows :
    (∃ finish, (exchange plain).Steps (emptyFrame, fresh) [some 0] finish ∧
      emptyFrame.con.socket.stream.length = 1504 ∧ finish.1.con.socket.stream = [] ∧
      finish.2.decrypted = 4) ∧
    ¬ Framed plain emptyFrame fresh [0, 0, 0, 0] := by
  have arrived : Arrived emptyFrame.con :=
    ⟨⟨rfl, by simp [emptyFrame], by simp [emptyFrame], rfl⟩, _, _, rfl⟩
  have stream : emptyFrame.con.socket.stream = [0, 0, 0, 0] ++ longFrame := by
    simp [emptyFrame, Socket.stream, Arrival.content]
  have long : longFrame.length = 1500 := by
    rw [longFrame, List.length_append, List.length_replicate]
    rfl
  have zero : headerSize plain fresh [0, 0, 0, 0] = 0 := by decide
  obtain ⟨socket, dry, pass⟩ := exchangePass_taken plain fresh arrived
    (by rw [stream, List.append_nil]) rfl (by omega) (by rw [zero, long]; rfl)
  have step : (exchange plain).step (emptyFrame, fresh) (some 0)
      ({ con := { emptyFrame.con with socket := socket }, tun := { written := [[]] } },
        { fresh with decrypted := 4 }) := by
    apply exchange_step
    rw [pass, zero, List.take_zero]
    rfl
  refine ⟨⟨_, System.Steps.refl.next step, ?_, dry, rfl⟩, fun framed => ?_⟩
  · rw [stream, List.length_append, long]
    rfl
  · exact (framed_iff arrived stream rfl).mp framed zero

end Vpverk.StreamSync
