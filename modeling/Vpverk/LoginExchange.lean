import Vpverk.Delivery
import Vpverk.Settings

/-! The login: what `authenticateUser` makes of one that a peer delivers, and what
it makes of the one the client sends. -/
namespace Vpverk.LoginExchange
open Coroutine Octets Asioapi Peer ClientLoops DataExchange BlockSize Handshake Delivery Settings

variable {cipher : Cipher} {aes clientAes clientAes' serverAes : AesSession}
  {before after : Socket} {con : Connection} {login bytes rest : Bytes} {logins : List Bytes}
  {ending : List Arrival}

/-! ### Looking a login up -/

/-- On a sorted list `binary_search` decides membership. -/
theorem binarySearch_iff (sorted : logins.Pairwise (· ≤ ·)) :
    binarySearch logins login = true ↔ login ∈ logins := by
  unfold binarySearch
  constructor
  · intro found
    split at found
    · cases found
    · rename_i element first
      have least : ¬ element < login := by simpa using List.find?_some first
      have most : ¬ login < element := by simpa using found
      rw [List.le_antisymm least most]
      exact List.mem_of_find?_eq_some first
  · intro member
    split
    · rename_i none_found
      have small := List.find?_eq_none.mp none_found login member
      simp [List.lt_irrefl] at small
    · rename_i element first
      obtain ⟨_, earlier, later, rfl, small⟩ := List.find?_eq_some_iff_append.mp first
      have behind := (List.pairwise_append.mp sorted).2.1
      rcases List.mem_append.mp member with inside | inside
      · have := small login inside
        simp [List.lt_irrefl] at this
      · rcases List.mem_cons.mp inside with rfl | inside
        · simp [List.lt_irrefl]
        · have ordered := (List.pairwise_cons.mp behind).1 login inside
          simpa using ordered

/-- `std::sort` sorts. -/
theorem sort_sorted (logins : List Bytes) : (sort logins).Pairwise (· ≤ ·) := by
  have transitive : ∀ first second third : Bytes, (!decide (second < first)) = true →
      (!decide (third < second)) = true → (!decide (third < first)) = true := by
    intro first second third one other
    simp only [Bool.not_eq_true', decide_eq_false_iff_not] at one other ⊢
    exact List.le_trans one other
  have total : ∀ first second : Bytes,
      ((!decide (second < first)) || !decide (first < second)) = true := by
    intro first second
    simpa using List.le_total first second
  have sorted := List.pairwise_mergeSort transitive total logins
  apply sorted.imp
  intro first second ordered
  simpa using ordered

/-- And keeps what there is. -/
theorem mem_sort : login ∈ sort logins ↔ login ∈ logins := (List.mergeSort_perm _ _).mem_iff

/-- **The login check is membership.** Whatever list the configuration gives, in any
order and with duplicates, and whatever copies, moves and assignments its snapshot
has come through: a login of at most 200 bytes that a peer delivers, in any pieces,
is allowed exactly if it is in that list, and nothing but the login is read. -/
theorem login_check {Key : Type} {fromPemFile : String → Except String Key} {path : String}
    {file : Option (Except String Config)} {previous currentSnapshot snapshot : SettingsSnapshot Key}
    (accepted : Settings.read fromPemFile path file previous = .ok currentSnapshot)
    (handed : Handed currentSnapshot true snapshot) (short : login.length ≤ 200)
    (delivers : Delivers con.socket (sealedLogin cipher aes login ++ rest) ending) :
    ∃ config logins allowed socket, file = some (.ok config) ∧ config.allowedLogins = .ok logins ∧
      (authenticateUser cipher snapshot.getBinarySortedAllowedLogins aes).run con =
        (.ok (allowed, { aes with decrypted := aes.decrypted + 4 + login.length }),
          { con with socket := socket }) ∧
      (allowed = true ↔ login ∈ logins) ∧ Delivers socket rest ending := by
  obtain ⟨config, _, _, _, _, logins, file', _, _, _, _, logins', rfl⟩ := read_ok accepted
  obtain ⟨_, _, same⟩ := handed.rest rfl
  obtain ⟨socket, ran, delivers', _⟩ :=
    authenticateUser_delivers snapshot.getBinarySortedAllowedLogins delivers short
  refine ⟨config, logins, _, socket, file', logins', ran, ?_, delivers'⟩
  rw [SettingsSnapshot.getBinarySortedAllowedLogins, same, binarySearch_iff (sort_sorted logins),
    mem_sort]

/-- Two logins, one of them twice, in no order. -/
def unsorted : Config where
  port := .ok 443
  maxAliveTime := .ok 3600
  privateKeyPath := .ok "private.pem"
  allowedLogins := .ok [utf8 "zoe", utf8 "amy", utf8 "zoe"]

/-- `current_snapshot` for them. -/
def unsortedRead : SettingsSnapshot Unit where
  port := some 443
  maxAliveTime := some 3600
  privateKey := some ()
  binarySortedAllowedLogins := sort [utf8 "zoe", utf8 "amy", utf8 "zoe"]

private theorem unsorted_accepted :
    Settings.read (fun _ => .ok ()) "conf.json" (some (.ok unsorted)) {} = .ok unsortedRead := by
  simp [Settings.read, unsorted, unsortedRead, sort, bind, Except.bind, pure, Except.pure]

/-- A peer that delivers one of them to a session that has decrypted nothing yet. -/
def zoe : Connection where
  socket := { arrivals := [.bytes ⟨sealedLogin countingCipher ⟨[], [], [], 0, 0⟩ (utf8 "zoe"), by decide⟩] }

theorem login_check_unsorted :
    ∃ allowed aes con, (authenticateUser countingCipher
        (getSettings unsortedRead).moveConstruct.getBinarySortedAllowedLogins
          ⟨[], [], [], 0, 0⟩).run zoe = (.ok (allowed, aes), con) ∧ allowed = true := by
  have delivers : Delivers zoe.socket
      (sealedLogin countingCipher ⟨[], [], [], 0, 0⟩ (utf8 "zoe") ++ []) [] := by
    rw [List.append_nil]
    exact delivers_segment _
  obtain ⟨config, logins, allowed, socket, same, given, ran, listed, _⟩ :=
    login_check unsorted_accepted (.moveConstruct .getSettings) (by decide) delivers
  cases same
  cases given
  exact ⟨allowed, _, _, ran, listed.mpr (by decide)⟩

/-! ### What the client sends -/

/-- A login message that has been sent is there twice, with zeros for its size. -/
theorem sendLogin_ok (ran : (sendLogin cipher aes login).run before = (.ok clientAes', after)) :
    clientAes' = { aes with encrypted := aes.encrypted + (4 + login.length) } ∧
    ∃ crypted, crypted = mask (cipher aes.key aes.encryptIv) aes.encrypted
        (List.replicate 4 0 ++ login) ∧
      after.sent = before.sent ++ (crypted ++ crypted) := by
  have size : (List.replicate 4 0 ++ login).length = 4 + login.length := by
    rw [List.length_append, List.length_replicate]
  rw [sendLogin, AesSession.encrypt_ok (Nat.le_of_eq size)] at ran
  dsimp only at ran
  obtain ⟨_, mid, one, goes⟩ := bind_run_ok ran
  obtain ⟨_, last, other, ended⟩ := bind_run_ok goes
  cases ended
  refine ⟨by rw [size], _, rfl, ?_⟩
  rw [throwExpEc_send_ok other, throwExpEc_send_ok one, List.append_assoc]

/-- The exchange of a login as it should come out: the server has compared the
client's login with its list, no byte of the client is left unread, and the two
sessions stand at the same position. -/
def Exchanged (cipher : Cipher) (logins : List Bytes) (login : Bytes) (clientAes' serverAes : AesSession)
    (con : Connection) (ending : List Arrival) : Prop :=
  ∃ serverAes' socket, (authenticateUser cipher logins serverAes).run con =
      (.ok (binarySearch logins login, serverAes'), { con with socket := socket }) ∧
    socket.stream = content ending ∧ serverAes'.decrypted = clientAes'.encrypted

/-- Of what the client sends, the server reads four zeros and takes them for the
size of an empty login; the login and the second copy are left. -/
theorem authenticateUser_sendLogin (logins : List Bytes) (mirrored : Mirrored clientAes serverAes)
    (inStep : clientAes.encrypted = serverAes.decrypted)
    (sends : (sendLogin cipher clientAes login).run before = (.ok clientAes', after))
    (sent : after.sent = before.sent ++ bytes) (delivers : Delivers con.socket bytes ending) :
    ∃ socket left, (authenticateUser cipher logins serverAes).run con =
        (.ok (binarySearch logins [], { serverAes with decrypted := serverAes.decrypted + 4 }),
          { con with socket := socket }) ∧
      Delivers socket left ending ∧ left.length = 4 + 2 * login.length := by
  obtain ⟨_, crypted, rfl, sent'⟩ := sendLogin_ok sends
  obtain rfl := List.append_cancel_left (sent.symm.trans sent')
  rw [mask_append, List.append_assoc, mirrored.key, mirrored.there, inStep] at delivers
  have zeros : sealedLogin cipher serverAes [] =
      mask (cipher serverAes.key serverAes.decryptIv) serverAes.decrypted (List.replicate 4 0) := rfl
  rw [← zeros] at delivers
  obtain ⟨socket, ran, left, _⟩ := authenticateUser_delivers logins delivers (by simp)
  refine ⟨socket, _, ran, left, ?_⟩
  simp [List.length_append, zeros]
  omega

private theorem not_exchanged {socket : Socket} {left : Bytes} {answer : Bool} {serverAes' : AesSession}
    (ran : (authenticateUser cipher logins serverAes).run con =
      (.ok (answer, serverAes'), { con with socket := socket }))
    (delivers : Delivers socket left ending) (some_left : 0 < left.length) :
    ¬ Exchanged cipher logins login clientAes' serverAes con ending := by
  rintro ⟨_, socket', ran', nothing, _⟩
  have same : socket = socket' := by
    have := (Prod.mk.inj (ran.symm.trans ran')).2
    exact congrArg Connection.socket this
  rw [← same, delivers.stream, List.append_left_eq_self] at nothing
  simp [nothing] at some_left

/-- **The login never gets across.** For every login, and sessions mirrored at equal
positions: fed what the client sends, in any pieces, the server compares the empty
login with its list and leaves the login and a second copy of the message unread. -/
theorem login_never_exchanged (logins : List Bytes) (mirrored : Mirrored clientAes serverAes)
    (inStep : clientAes.encrypted = serverAes.decrypted)
    (sends : (sendLogin cipher clientAes login).run before = (.ok clientAes', after))
    (sent : after.sent = before.sent ++ bytes) (delivers : Delivers con.socket bytes ending) :
    (∃ socket left, (authenticateUser cipher logins serverAes).run con =
        (.ok (binarySearch logins [], { serverAes with decrypted := serverAes.decrypted + 4 }),
          { con with socket := socket }) ∧
      Delivers socket left ending ∧ left.length = 4 + 2 * login.length) ∧
    ¬ Exchanged cipher logins login clientAes' serverAes con ending := by
  obtain ⟨socket, left, ran, left_over, size⟩ :=
    authenticateUser_sendLogin logins mirrored inStep sends sent delivers
  exact ⟨⟨socket, left, ran, left_over, size⟩, not_exchanged ran left_over (by omega)⟩

/-- Two sessions that have just been created from one key block. -/
def startSession : AesSession := ⟨[], [], [], 0, 0⟩

/-- What the client sends for the login "login". -/
def loginTwice : Segment where
  bytes := mask (countingCipher [] []) 0 (List.replicate 4 0 ++ utf8 "login") ++
    mask (countingCipher [] []) 0 (List.replicate 4 0 ++ utf8 "login")
  nonempty := by decide

/-- The server's end, to which it has come. -/
def loginServer : Connection where
  socket := { arrivals := [.bytes loginTwice] }

private theorem delivers_loginTwice : Delivers loginServer.socket loginTwice.bytes [] :=
  delivers_segment loginTwice

private theorem sent_loginTwice :
    ({ sent := loginTwice.bytes } : Socket).sent = ({} : Socket).sent ++ loginTwice.bytes := rfl

private theorem sends_loginTwice :
    (sendLogin countingCipher startSession (utf8 "login")).run {} =
      (.ok { startSession with encrypted := 9 }, { sent := loginTwice.bytes }) := by rfl

theorem login_never_exchanged_empty_list :
    ¬ Exchanged countingCipher [] (utf8 "login") { startSession with encrypted := 9 } startSession
      loginServer [] :=
  (login_never_exchanged [] ⟨rfl, rfl, rfl⟩ rfl sends_loginTwice sent_loginTwice
    delivers_loginTwice).2

/-- A listed login is refused, and 14 bytes of the 18 are left. -/
theorem login_refused :
    (sendLogin countingCipher startSession (utf8 "login")).run {} =
      (.ok { startSession with encrypted := 9 }, { sent := loginTwice.bytes }) ∧
    (∃ con, (authenticateUser countingCipher [utf8 "login"] startSession).run loginServer =
        (.ok (false, { startSession with decrypted := 4 }), con) ∧
      con.socket.stream.length = 14) ∧
    ¬ Exchanged countingCipher [utf8 "login"] (utf8 "login")
      { startSession with encrypted := 9 } startSession loginServer [] := by
  obtain ⟨socket, left, ran, delivers, size⟩ := authenticateUser_sendLogin [utf8 "login"]
    ⟨rfl, rfl, rfl⟩ rfl sends_loginTwice sent_loginTwice delivers_loginTwice
  refine ⟨sends_loginTwice, ⟨_, ran, ?_⟩, not_exchanged ran delivers (by omega)⟩
  rw [delivers.stream]
  simp [content, size]
  decide

end Vpverk.LoginExchange
