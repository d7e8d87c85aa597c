import Vpverk.Delivery
import Vpverk.Demultiplex

/-! The address a session is given, from `sendIp` to the client's tun device. It
goes through host-order integers, a header made by hand, one encryption and two
decryptions, and has to be the address the router finds in the packets. -/
namespace Vpverk.AddressDelivery
open Addresses Coroutine Octets Asioapi Peer ClientLoops DataExchange BlockSize Handshake Delivery
open RouterIteration Demultiplex

variable {cipher : Cipher} {serverAes serverAes' clientAes : AesSession} {con con' : Connection}
  {socket : Socket} {bytes : Bytes} {ending : List Arrival} {address : AddressV4} {ip : UInt32}

/-- The message of `sendIp` is the size 4 and the address, encrypted in one piece. -/
theorem sendIp_ok (ran : (sendIp cipher serverAes ip).run con = (.ok serverAes', con')) :
    serverAes' = { serverAes with encrypted := serverAes.encrypted + 8 } ∧
    con'.socket.sent = con.socket.sent ++
      (mask (cipher serverAes.key serverAes.encryptIv) serverAes.encrypted (encode 4) ++
        mask (cipher serverAes.key serverAes.encryptIv) (serverAes.encrypted + 4) (encode ip)) := by
  have size : ([4, 0, 0, 0] ++ encode ip).length = 8 := rfl
  rw [sendIp, AesSession.encrypt_ok (Nat.le_of_eq size)] at ran
  dsimp only at ran
  obtain ⟨answer, mid, within, ended⟩ := bind_run_ok ran
  obtain ⟨socket, sends, rfl⟩ := within_run_iff.mp within
  cases answer with
  | error code =>
    obtain ⟨_, _, _, thrown⟩ := bind_run_ok ended
    cases thrown
  | ok _ =>
    cases ended
    refine ⟨by rw [size], ?_⟩
    dsimp only
    rw [send_ok sends, mask_append]
    rfl

/-- The client reads the size and the address it was sent. -/
theorem readAddress_delivers (cipher : Cipher) (clientAes : AesSession)
    (unmarked : decode (sealedSize cipher clientAes 4) ≠ errorMark)
    (delivers : Delivers socket (sealedSize cipher clientAes 4 ++
      mask (cipher clientAes.key clientAes.decryptIv) (clientAes.decrypted + 4) (encode ip)) ending) :
    ∃ mid after, (readBlockSize cipher clientAes true).run socket =
        (.ok (4, { clientAes with decrypted := clientAes.decrypted + 4 }), mid) ∧
      (readAddress cipher clientAes).run socket =
        (.ok (⟨ip⟩, { clientAes with decrypted := clientAes.decrypted + 8 }), after) ∧
      Delivers after [] ending := by
  obtain ⟨pieces, here, brings⟩ := delivers.arriving
  obtain ⟨pieces', sized, brings'⟩ :=
    (frame_told cipher clientAes ending delivers.isOpen delivers.noStray brings).mpr unmarked
  rw [← here] at sized
  have later := delivers_arriving delivers brings'
  rw [← List.append_nil (mask _ _ _)] at later
  obtain ⟨after, read, delivers', _⟩ := readSome_delivers 4 0 later
    (by rw [mask_length, encode_length]; rfl) (by decide) (by decide)
  refine ⟨_, after, sized, ?_, delivers'⟩
  rw [readAddress, bind_ok sized]
  dsimp only
  rw [if_neg (by decide), bind_ok read]
  dsimp only
  rw [AesSession.decrypt_ok (by simp)]
  simp only [mask_mask, decode_encode, mask_length, encode_length]
  rfl

/-- **Address delivery.** Whatever address the server assigns, with sessions
mirrored at equal positions: what `sendIp` has written is, in whatever pieces it
arrives, read by the client as the size 4 and that very address, unless the
encrypted size is by chance the error mark; nothing is left unread and the positions
are equal again. The router finds this address in the packets whose bytes 16 to 19
are the address in network order. -/
theorem address_delivered (mirrored : Mirrored serverAes clientAes)
    (inStep : serverAes.encrypted = clientAes.decrypted)
    (sends : (sendIp cipher serverAes address.toUint).run con = (.ok serverAes', con'))
    (sent : con'.socket.sent = con.socket.sent ++ bytes)
    (unmarked : decode (bytes.take 4) ≠ 0xFFFFFFFF) (delivers : Delivers socket bytes ending) :
    bytes.length = 8 ∧
    ∃ mid after sized clientAes', (readBlockSize cipher clientAes true).run socket =
        (.ok (4, sized), mid) ∧
      (readAddress cipher clientAes).run socket = (.ok (address, clientAes'), after) ∧
      Delivers after [] ending ∧ Mirrored serverAes' clientAes' ∧
      serverAes'.encrypted = clientAes'.decrypted ∧
      ∀ (packet : Packet) leftover, 20 ≤ packet.bytes.length →
        (dst packet.bytes leftover = address ↔ destination packet = toBytes address) := by
  obtain ⟨rfl, sent'⟩ := sendIp_ok sends
  obtain rfl := List.append_cancel_left (sent.symm.trans sent')
  rw [mirrored.key, mirrored.there, inStep] at unmarked delivers
  rw [List.take_left' (by rw [mask_length, encode_length])] at unmarked
  obtain ⟨mid, after, sized, ran, delivers'⟩ := readAddress_delivers cipher clientAes unmarked delivers
  refine ⟨by simp, mid, after, _, _, sized, ran, delivers',
    ⟨mirrored.key, mirrored.there, mirrored.back⟩, congrArg (· + 8) inStep, ?_⟩
  intro packet leftover long
  exact dst_eq_iff leftover long

/-- A session that has just been created. -/
def startSession : AesSession := ⟨[], [], [], 0, 0⟩

/-- The address message for 10.123.0.2. -/
def firstAddressMessage : Bytes := [4, 1, 2, 3, 6, 5, 125, 13]

/-- The message comes in three pieces, and then the connection ends. -/
def inPieces : Socket where
  arrivals := [.bytes ⟨[4, 1], by decide⟩, .nothing, .bytes ⟨[2, 3, 6, 5, 125], by decide⟩,
    .bytes ⟨[13], by decide⟩, .fails .eof]

theorem address_delivered_in_pieces :
    ∃ after clientAes', (readAddress countingCipher startSession).run inPieces =
      (.ok (⟨0x0A7B0002⟩, clientAes'), after) := by
  have sends : (sendIp countingCipher startSession 0x0A7B0002).run {} =
      (.ok { startSession with encrypted := 8 }, { socket := { sent := firstAddressMessage } }) := by
    rfl
  have delivers : Delivers inPieces firstAddressMessage [.fails .eof] :=
    ⟨rfl, rfl, [.bytes ⟨[4, 1], by decide⟩, .nothing, .bytes ⟨[2, 3, 6, 5, 125], by decide⟩,
      .bytes ⟨[13], by decide⟩], rfl, by simp, by decide⟩
  obtain ⟨_, _, after, _, clientAes', _, ran, _⟩ :=
    address_delivered ⟨rfl, rfl, rfl⟩ rfl sends rfl (by decide) delivers
  exact ⟨after, clientAes', ran⟩

end Vpverk.AddressDelivery
