import Vpverk.DataExchange

/-! `read_block_size` at a boundary of what the server sends. The server writes
encrypted frames and, when it closes the connection, one error message in plain
text that begins where a frame would. The peek that is to tell the two apart is an
`async_receive` which nobody awaits. -/
namespace Vpverk.BlockSize
open Coroutine Octets Asioapi Peer ClientLoops DataExchange

/-! ### Reading what comes before anything fails -/

/-- Arrivals that bring the bytes, however they are cut. -/
structure Brings (pieces : List Arrival) (bytes : Bytes) : Prop where
  arrives : ∀ code, .fails code ∉ pieces
  content : pieces.flatMap Arrival.content = bytes

/-- What the arrivals bring in all. -/
def content (arrivals : List Arrival) : Bytes := arrivals.flatMap Arrival.content

/-- The socket with these arrivals. -/
def arriving (socket : Socket) (arrivals : List Arrival) : Socket :=
  { socket with arrivals := arrivals }

variable {socket : Socket} {pieces ending : List Arrival} {bytes : Bytes} {amount : Nat}

theorem Brings.cons {arrival : Arrival} (brings : Brings (arrival :: pieces) bytes) :
    ∃ later, Brings pieces later ∧ bytes = arrival.content ++ later :=
  ⟨_, ⟨fun code member => brings.arrives code (.tail _ member), rfl⟩, by simp [← brings.content]⟩

theorem takeArrived_brings (ending : List Arrival) (some_amount : 0 < amount)
    (brings : Brings pieces bytes) (nonempty : bytes ≠ []) :
    ∃ read pieces' more,
      takeArrived amount (pieces ++ ending) = some (.ok read, pieces' ++ ending) ∧
      read ≠ [] ∧ read.length ≤ amount ∧ bytes = read ++ more ∧ Brings pieces' more := by
  induction pieces generalizing bytes with
  | nil => exact absurd brings.content.symm nonempty
  | cons arrival rest ih =>
    obtain ⟨later, brings', rfl⟩ := brings.cons
    cases arrival with
    | fails code => exact absurd (List.mem_cons_self ..) (brings.arrives code)
    | nothing => exact ih brings' nonempty
    | bytes segment =>
      rw [List.cons_append, takeArrived]
      by_cases cut : segment.bytes.drop amount ≠ []
      · rw [dif_pos cut]
        refine ⟨_, .bytes ⟨segment.bytes.drop amount, cut⟩ :: rest,
          segment.bytes.drop amount ++ later, rfl, ?_, List.length_take_le .., ?_, ?_, ?_⟩
        · simp [segment.nonempty, Nat.pos_iff_ne_zero.mp some_amount]
        · simp [Arrival.content, ← List.append_assoc]
        · simpa using brings'.arrives
        · simp [Arrival.content, brings'.content]
      · rw [dif_neg cut]
        exact ⟨_, rest, later, rfl, segment.nonempty, by simpa using cut, rfl, brings'⟩

theorem reliableIsOpen_brings (ending : List Arrival) (isOpen : socket.isOpen = true)
    (brings : Brings pieces bytes) (nonempty : bytes ≠ []) :
    ∃ pieces', reliableIsOpen.run (arriving socket (pieces ++ ending)) =
        (.ok (.ok true), arriving socket (pieces' ++ ending)) ∧ Brings pieces' bytes := by
  cases pieces with
  | nil => exact absurd brings.content.symm nonempty
  | cons arrival rest =>
    obtain ⟨later, brings', same⟩ := brings.cons
    cases arrival with
    | fails code => exact absurd (List.mem_cons_self ..) (brings.arrives code)
    | nothing => exact ⟨rest, by simp [reliableIsOpen, arriving, isOpen], same ▸ brings'⟩
    | bytes segment =>
      exact ⟨.bytes segment :: rest, by simp [reliableIsOpen, arriving, isOpen], brings⟩

/-- `read_some_unreliable` with something to come reads some of it. -/
theorem readSomeUnreliable_brings {buffer : Nat} (ending : List Arrival)
    (isOpen : socket.isOpen = true) (noStray : socket.strayHandler = false)
    (fits : amount ≤ buffer) (some_buffer : 0 < buffer) (small : buffer ≤ maxUint32)
    (brings : Brings pieces bytes) (nonempty : bytes ≠ []) :
    ∃ read pieces' more,
      (readSomeUnreliable buffer amount).run (arriving socket (pieces ++ ending)) =
        (.ok (.ok read), arriving socket (pieces' ++ ending)) ∧
      read ≠ [] ∧ read.length ≤ needed buffer amount ∧ bytes = read ++ more ∧
      Brings pieces' more := by
  obtain ⟨pieces', opened, brings'⟩ := reliableIsOpen_brings ending isOpen brings nonempty
  have some_amount : 0 < needed buffer amount := by
    unfold needed
    split <;> omega
  obtain ⟨read, rest, more, took, nonempty', few, split, brings''⟩ :=
    takeArrived_brings ending some_amount brings' nonempty
  refine ⟨read, rest, more, ?_, nonempty', few, split, brings''⟩
  rw [readSomeUnreliable, bind_ok (cussert_run _ (by simp; omega)), if_neg (by omega),
    if_neg (by omega), bind_ok opened]
  unfold needed at took
  simp [awaitRead, arriving, noStray, took]

/-- `read_some` reads what it is asked for, if that comes before anything fails. -/
theorem readFrom_brings {buffer needRead passes : Nat} (wasRead : Bytes)
    (isOpen : socket.isOpen = true) (noStray : socket.strayHandler = false)
    (fits : needRead ≤ buffer) (small : buffer ≤ maxUint32) (begun : wasRead.length ≤ needRead)
    (enough : needRead - wasRead.length ≤ passes) (brings : Brings pieces bytes)
    (comes : needRead - wasRead.length ≤ bytes.length) :
    ∃ pieces', (readFrom buffer needRead passes wasRead).run (arriving socket (pieces ++ ending)) =
        (.ok (.ok (wasRead ++ bytes.take (needRead - wasRead.length))),
          arriving socket (pieces' ++ ending)) ∧
      Brings pieces' (bytes.drop (needRead - wasRead.length)) := by
  induction passes generalizing pieces bytes wasRead with
  | zero =>
    have done : needRead - wasRead.length = 0 := by omega
    exact ⟨pieces, by simp [readFrom, done], by simpa [done] using brings⟩
  | succ passes ih =>
    by_cases done : wasRead.length = needRead
    · exact ⟨pieces, by simp [readFrom, done], by simpa [done] using brings⟩
    · have nonempty : bytes ≠ [] := by
        rw [← List.length_pos_iff]
        omega
      obtain ⟨read, mid, more, ran, some_read, few, rfl, brings'⟩ :=
        readSomeUnreliable_brings ending isOpen noStray
          (Nat.sub_le_sub_right fits wasRead.length) (by omega)
          (Nat.le_trans (Nat.sub_le ..) small) brings nonempty
      have some_read := List.length_pos_iff.mpr some_read
      rw [needed, if_neg (by omega)] at few
      rw [List.length_append] at comes
      obtain ⟨pieces', ran', brings''⟩ := @ih mid more (wasRead ++ read)
        (by rw [List.length_append]; omega) (by rw [List.length_append]; omega) brings'
        (by rw [List.length_append]; omega)
      have left : needRead - (wasRead ++ read).length = needRead - wasRead.length - read.length := by
        rw [List.length_append]
        omega
      rw [left] at ran' brings''
      refine ⟨pieces', ?_, ?_⟩
      · rw [readFrom, if_neg done, bind_ok ran]
        apply ran'.trans
        rw [List.append_assoc, List.take_append, List.take_of_length_le few]
      · rwa [List.drop_append, List.drop_of_length_le few, List.nil_append]

/-- The four bytes a message begins with are read, and nothing else. -/
theorem readHeader_brings {header ahead : Bytes} (ending : List Arrival)
    (isOpen : socket.isOpen = true) (noStray : socket.strayHandler = false)
    (brings : Brings pieces (header ++ ahead)) (four : header.length = 4) :
    ∃ pieces', (throwExpEc (readSome 4 0)).run (arriving socket (pieces ++ ending)) =
        (.ok header, arriving socket (pieces' ++ ending)) ∧ Brings pieces' ahead := by
  obtain ⟨pieces', ran, brings'⟩ := readFrom_brings [] isOpen noStray (Nat.le_refl 4)
    (by decide) (Nat.zero_le _) (Nat.le_refl _) brings (by simp; omega)
  have whole : (header ++ ahead).take 4 = header := List.take_left' four
  have left : (header ++ ahead).drop 4 = ahead := List.drop_left' four
  simp only [List.length_nil, Nat.sub_zero, List.nil_append, whole, left] at ran brings'
  refine ⟨pieces', ?_, brings'⟩
  have reads : (readSome 4 0).run (arriving socket (pieces ++ ending)) =
      (.ok (.ok header), arriving socket (pieces' ++ ending)) := ran
  exact bind_ok reads

/-! ### What stands at the boundary -/

/-- What the server may have written there. -/
inductive Standing where
  /-- The error message of `close`, for a client that expects encryption or does not. -/
  | error (reason : Bytes) (encryptionUsed : Bool)
  /-- An encrypted size, with its payload and what comes behind it. -/
  | frame (size : UInt32) (ahead : Bytes)

variable {cipher : Cipher} {session : AesSession} {standing : Standing}

/-- A size as the client's session decrypts it. -/
def sealedSize (cipher : Cipher) (session : AesSession) (size : UInt32) : Bytes :=
  mask (cipher session.key session.decryptIv) session.decrypted (encode size)

def Standing.written (cipher : Cipher) (session : AesSession) : Standing → Bytes
  | .error reason _ => errorMessage reason
  | .frame size ahead => sealedSize cipher session size ++ ahead

/-- What `read_block_size` is for: an error message is thrown with its reason; of a
frame the size is returned, and nothing but the size is read. -/
def Standing.Told (cipher : Cipher) (session : AesSession) (socket : Socket)
    (pieces ending : List Arrival) : Standing → Prop
  | .error reason encryptionUsed =>
    ∃ after, (readBlockSize cipher session encryptionUsed).run (arriving socket (pieces ++ ending)) =
      (.error (.throws ("error from server" ++ text (utf8 "_Error: " ++ reason))), after)
  | .frame size ahead =>
    ∃ pieces', (readBlockSize cipher session true).run (arriving socket (pieces ++ ending)) =
        (.ok (size, { session with decrypted := session.decrypted + 4 }),
          arriving socket (pieces' ++ ending)) ∧ Brings pieces' ahead

/-- After the four bytes, with or without encryption, comes the peek. -/
private theorem readBlockSize_run {header ahead : Bytes} (cipher : Cipher) (session : AesSession)
    (encryptionUsed : Bool) (ending : List Arrival)
    (isOpen : socket.isOpen = true) (noStray : socket.strayHandler = false)
    (brings : Brings pieces (header ++ ahead)) (four : header.length = 4) :
    ∃ pieces' size session', Brings pieces' ahead ∧
      (encryptionUsed = true → session' = { session with decrypted := session.decrypted + 4 } ∧
        size = decode (mask (cipher session.key session.decryptIv) session.decrypted header)) ∧
      (readBlockSize cipher session encryptionUsed).run (arriving socket (pieces ++ ending)) =
        (sizeOrError header size >>= fun size => pure (size, session')).run
          (arriving socket (pieces' ++ ending)) := by
  obtain ⟨pieces', ran, brings'⟩ := readHeader_brings ending isOpen noStray brings four
  cases encryptionUsed with
  | true =>
    refine ⟨pieces', _, _, brings', fun _ => ⟨rfl, rfl⟩, ?_⟩
    rw [readBlockSize, bind_ok ran, if_pos rfl, AesSession.decrypt_ok (by omega)]
    simp only [four]
  | false =>
    refine ⟨pieces', decode header, session, brings', by simp, ?_⟩
    rw [readBlockSize, bind_ok ran, if_neg (by simp)]

/-- At a frame the size comes next. -/
private theorem readBlockSize_frame {size : UInt32} {ahead : Bytes} (cipher : Cipher)
    (session : AesSession) (ending : List Arrival)
    (isOpen : socket.isOpen = true) (noStray : socket.strayHandler = false)
    (brings : Brings pieces (sealedSize cipher session size ++ ahead)) :
    ∃ pieces', Brings pieces' ahead ∧
      (readBlockSize cipher session true).run (arriving socket (pieces ++ ending)) =
        (sizeOrError (sealedSize cipher session size) size >>= fun size =>
          pure (size, { session with decrypted := session.decrypted + 4 })).run
            (arriving socket (pieces' ++ ending)) := by
  obtain ⟨pieces', read, session', brings', decrypts, ran⟩ :=
    readBlockSize_run cipher session true ending isOpen noStray brings (by simp [sealedSize])
  obtain ⟨rfl, rfl⟩ := decrypts rfl
  have same : decode (mask (cipher session.key session.decryptIv) session.decrypted
      (sealedSize cipher session size)) = size := by
    rw [sealedSize, mask_mask, decode_encode]
  rw [same] at ran
  exact ⟨pieces', brings', ran⟩

/-- An error message never ends in its exception. -/
theorem error_untold (cipher : Cipher) (session : AesSession) (reason : Bytes)
    (encryptionUsed : Bool) (ending : List Arrival) (isOpen : socket.isOpen = true)
    (noStray : socket.strayHandler = false) (brings : Brings pieces (errorMessage reason)) :
    ¬ (Standing.error reason encryptionUsed).Told cipher session socket pieces ending := by
  rintro ⟨after, thrown⟩
  have message : errorMessage reason =
      encode errorMark ++ (utf8 "_Error: " ++ reason ++ [0]) := by
    simp [errorMessage, errorMark]
  rw [message] at brings
  obtain ⟨pieces', size, session', _, _, ran⟩ :=
    readBlockSize_run cipher session encryptionUsed ending isOpen noStray brings rfl
  obtain ⟨answer, after', sized, _, _, outcome⟩ :=
    sizeOrError_marked (arriving socket (pieces' ++ ending)) size isOpen
      (decode_encode errorMark)
  rw [ran] at thrown
  rcases outcome with same | ⟨same, _⟩
  · rw [same] at sized
    cases (bind_ok sized).symm.trans thrown
  · rw [same] at sized
    cases (bind_error sized).symm.trans thrown

/-- A frame is read as it should be exactly if the encrypted size is not the mark. -/
theorem frame_told {size : UInt32} {ahead : Bytes} (cipher : Cipher) (session : AesSession)
    (ending : List Arrival) (isOpen : socket.isOpen = true)
    (noStray : socket.strayHandler = false)
    (brings : Brings pieces (sealedSize cipher session size ++ ahead)) :
    (Standing.frame size ahead).Told cipher session socket pieces ending ↔
      decode (sealedSize cipher session size) ≠ errorMark := by
  obtain ⟨pieces', brings', ran⟩ := readBlockSize_frame cipher session ending isOpen noStray brings
  constructor
  · rintro ⟨left, answered, _⟩ marked
    obtain ⟨answer, after, sized, stray, _, outcome⟩ :=
      sizeOrError_marked (arriving socket (pieces' ++ ending)) size isOpen marked
    rw [ran] at answered
    rcases outcome with same | ⟨same, _⟩
    · rw [same] at sized
      cases (bind_ok sized).symm.trans answered
      rw [arriving, noStray] at stray
      cases stray
    · rw [same] at sized
      cases (bind_error sized).symm.trans answered
  · intro unmarked
    have sized : sizeOrError (sealedSize cipher session size) size = pure size := if_neg unmarked
    refine ⟨pieces', ran.trans ?_, brings'⟩
    rw [sized]
    exact bind_ok rfl

/-- Marked or not, the size of a frame that does not read like an error message is
returned and no byte behind it is taken; the mark leaves a handler behind. -/
theorem frame_answered {size : UInt32} {ahead : Bytes} (cipher : Cipher) (session : AesSession)
    (ending : List Arrival) (isOpen : socket.isOpen = true)
    (noStray : socket.strayHandler = false)
    (brings : Brings pieces (sealedSize cipher session size ++ ahead))
    (plain : ¬ encode errorMark ++ utf8 "_Error: " <+:
      sealedSize cipher session size ++ ahead ++ content ending) :
    ∃ after, (readBlockSize cipher session true).run (arriving socket (pieces ++ ending)) =
        (.ok (size, { session with decrypted := session.decrypted + 4 }), after) ∧
      content after.arrivals = ahead ++ content ending ∧
      (after.strayHandler = true ↔ decode (sealedSize cipher session size) = errorMark) := by
  by_cases marked : decode (sealedSize cipher session size) = errorMark
  · obtain ⟨pieces', brings', ran⟩ :=
      readBlockSize_frame cipher session ending isOpen noStray brings
    obtain ⟨answer, after, sized, stray, kept, outcome⟩ :=
      sizeOrError_marked (arriving socket (pieces' ++ ending)) size isOpen marked
    have ahead_kept : content (pieces' ++ ending) = ahead ++ content ending := by
      simp [content, ← brings'.content]
    rcases outcome with same | ⟨_, error⟩
    · rw [same] at sized
      exact ⟨after, ran.trans (bind_ok sized), kept.trans ahead_kept, iff_of_true stray marked⟩
    · refine absurd ?_ plain
      have header : sealedSize cipher session size = encode errorMark := by
        rw [← marked, encode_decode (by simp [sealedSize])]
      rw [header, List.append_assoc, List.prefix_append_right_inj, ← ahead_kept]
      exact error
  · obtain ⟨pieces', ran, brings'⟩ :=
      (frame_told cipher session ending isOpen noStray brings).mpr marked
    exact ⟨_, ran, by simp [content, arriving, ← brings'.content],
      iff_of_false (by simp [arriving, noStray]) marked⟩

/-- **The peek of `read_block_size` breaks what it is to tell apart.** Whatever the
pieces in which it arrives and whatever comes behind it: an error message never
ends in the exception that carries its reason, and of a frame the size alone is
read, with nothing left behind to disturb the next read, exactly if the encrypted
size is not by chance the error mark. With the mark the size is returned too, unless
the frame reads like an error message, and the handler is still to come. -/
theorem block_size_told (cipher : Cipher) (session : AesSession) (socket : Socket)
    (pieces ending : List Arrival) (standing : Standing) (isOpen : socket.isOpen = true)
    (noStray : socket.strayHandler = false)
    (brings : Brings pieces (standing.written cipher session)) :
    (standing.Told cipher session socket pieces ending ↔
      ∃ size ahead, standing = .frame size ahead ∧
        decode (sealedSize cipher session size) ≠ errorMark) ∧
    ∀ size ahead, standing = .frame size ahead →
      ¬ encode errorMark ++ utf8 "_Error: " <+:
        sealedSize cipher session size ++ ahead ++ content ending →
      ∃ after, (readBlockSize cipher session true).run (arriving socket (pieces ++ ending)) =
          (.ok (size, { session with decrypted := session.decrypted + 4 }), after) ∧
        content after.arrivals = ahead ++ content ending ∧
        (after.strayHandler = true ↔ decode (sealedSize cipher session size) = errorMark) := by
  cases standing with
  | error reason encryptionUsed =>
    refine ⟨iff_of_false ?_ (by simp), by simp⟩
    exact error_untold cipher session reason encryptionUsed ending isOpen noStray brings
  | frame size ahead =>
    constructor
    · rw [frame_told cipher session ending isOpen noStray brings]
      simp
    · rintro _ _ ⟨⟩ plain
      exact frame_answered cipher session ending isOpen noStray brings plain

/-- The size of a frame whose payload is still on its way. -/
theorem block_size_told_cut_frame :
    (Standing.frame 2 [7, 7]).Told countingCipher ⟨[], [], [], 0, 0⟩ {}
      [.bytes ⟨[2, 1], by decide⟩, .nothing, .bytes ⟨[2, 3, 7], by decide⟩, .bytes ⟨[7], by decide⟩]
      [.fails .eof] :=
  (block_size_told countingCipher ⟨[], [], [], 0, 0⟩ {} _ [.fails .eof] (.frame 2 [7, 7]) rfl rfl
    ⟨by simp, by decide⟩).1.mpr ⟨2, [7, 7], rfl, by decide⟩

/-- The reason a connection is closed for, all of it there. -/
def expired : Segment := ⟨errorMessage (utf8 "session expired"), by decide⟩

/-- Seen or not, the reason is lost: the handler resumes the first read behind the
peek, or the mark is returned as a size while the text is still on its way. -/
theorem error_untold_expired :
    ¬ (Standing.error (utf8 "session expired") false).Told countingCipher ⟨[], [], [], 0, 0⟩ {}
      [.bytes expired] [.fails .eof] ∧
    ((readBlockSize countingCipher ⟨[], [], [], 0, 0⟩ false).run
        { arrivals := [.bytes expired, .fails .eof] }).1 = .error .undefined ∧
    ((readBlockSize countingCipher ⟨[], [], [], 0, 0⟩ false).run
        { arrivals := [.bytes ⟨[255, 255, 255, 255], by decide⟩, .nothing,
          .bytes ⟨utf8 "_Error: session expired" ++ [0], by decide⟩, .fails .eof] }).1 =
      .ok (errorMark, ⟨[], [], [], 0, 0⟩) := by
  have undefined : ((readBlockSize countingCipher ⟨[], [], [], 0, 0⟩ false).run
      { arrivals := [.bytes expired, .fails .eof] }).1 = .error .undefined := by
    rfl
  refine ⟨?_, undefined, by rfl⟩
  rintro ⟨after, thrown⟩
  cases undefined.symm.trans (congrArg Prod.fst thrown)

end Vpverk.BlockSize
