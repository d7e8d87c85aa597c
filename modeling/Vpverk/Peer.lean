import Vpverk.Asioapi

/-! What the two ends of a connection are made of: `AesSession`, the tun device
as one coroutine sees it, and the server's `Connection`. -/
namespace Vpverk.Peer
open Coroutine Octets Asioapi

/-- AES-256-CTR: the keystream of a key and an IV. -/
abbrev Cipher := Bytes → Bytes → Keystream

/-- `aig::AesSession`: two counter-mode contexts with one key, and how far each
has come. -/
structure AesSession where
  key : Bytes
  encryptIv : Bytes
  decryptIv : Bytes
  encrypted : Nat := 0
  decrypted : Nat := 0
  deriving DecidableEq, Repr

/-- `AesSession::create`. -/
def AesSession.create (key encryptIv decryptIv : Bytes) : Except ErrorCode AesSession :=
  if key.length ≠ 32 ∨ encryptIv.length ≠ 16 ∨ decryptIv.length ≠ 16 then .error .invalidArgument
  else .ok { key, encryptIv, decryptIv }

/-- `AesSession::encrypt` into a buffer of the given size. -/
def AesSession.encrypt (cipher : Cipher) (aes : AesSession) (input : Bytes) (out : Nat) :
    Except ErrorCode (Bytes × AesSession) :=
  if out < input.length then .error .noBufferSpace
  else .ok (mask (cipher aes.key aes.encryptIv) aes.encrypted input,
    { aes with encrypted := aes.encrypted + input.length })

/-- `AesSession::decrypt` into a buffer of the given size. -/
def AesSession.decrypt (cipher : Cipher) (aes : AesSession) (input : Bytes) (out : Nat) :
    Except ErrorCode (Bytes × AesSession) :=
  if out < input.length then .error .noBufferSpace
  else .ok (mask (cipher aes.key aes.decryptIv) aes.decrypted input,
    { aes with decrypted := aes.decrypted + input.length })

variable {cipher : Cipher} {aes : AesSession} {input : Bytes} {out : Nat}

/-- A buffer large enough is all the cipher asks for. -/
theorem AesSession.encrypt_ok (fits : input.length ≤ out) :
    aes.encrypt cipher input out =
      .ok (mask (cipher aes.key aes.encryptIv) aes.encrypted input,
        { aes with encrypted := aes.encrypted + input.length }) :=
  if_neg (Nat.not_lt.mpr fits)

theorem AesSession.decrypt_ok (fits : input.length ≤ out) :
    aes.decrypt cipher input out =
      .ok (mask (cipher aes.key aes.decryptIv) aes.decrypted input,
        { aes with decrypted := aes.decrypted + input.length }) :=
  if_neg (Nat.not_lt.mpr fits)

/-- The sessions of the two ends: one key, and each decrypts as the other encrypts. -/
structure Mirrored (one other : AesSession) : Prop where
  key : one.key = other.key
  there : one.encryptIv = other.decryptIv
  back : one.decryptIv = other.encryptIv

/-! ### The tun device -/

/-- `max_possible_ip_packet_size`. -/
def maxPacket : Nat := 1500

/-- What `Tun::read` can hand on: a packet of 1 to 1500 bytes. -/
structure Packet where
  bytes : Bytes
  nonempty : bytes ≠ []
  fits : bytes.length ≤ maxPacket

/-- How a `Tun::read` comes out. -/
inductive TunRead where
  | timeout
  | packet (packet : Packet)
  | throws (what : String)

/-- The device: the reads to come, the packets written to it, and which writes
throw (none once that list is used up). -/
structure Tun where
  reads : List TunRead := []
  written : List Bytes := []
  writeErrors : List (Option String) := []

/-- `Tun::read`: nothing on a timeout. -/
def Tun.read : Coroutine Tun Bytes := ⟨fun tun =>
  match tun.reads with
  | [] => (.error .waits, tun)
  | .timeout :: rest => (.ok [], { tun with reads := rest })
  | .packet packet :: rest => (.ok packet.bytes, { tun with reads := rest })
  | .throws what :: rest => (.error (.throws what), { tun with reads := rest })⟩

/-- `Tun::write`. -/
def Tun.write (ipPacket : Bytes) : Coroutine Tun Unit := ⟨fun tun =>
  match tun.writeErrors with
  | [] => (.ok (), { tun with written := tun.written ++ [ipPacket] })
  | none :: rest => (.ok (), { tun with written := tun.written ++ [ipPacket], writeErrors := rest })
  | some what :: rest => (.error (.throws what), { tun with writeErrors := rest })⟩

/-! ### The server's end -/

/-- `Connection`, as one coroutine sees it. `shutdown` is the exception the
shutdown in `close` throws, if it throws. -/
structure Connection where
  socket : Socket := {}
  closed : Bool := false
  writeLock : Bool := false
  shutdown : Option String := none

def Connection.onSocket {α : Type} (inner : Coroutine Socket α) : Coroutine Connection α :=
  within Connection.socket (fun socket con => { con with socket := socket }) inner

theorem Connection.onSocket_run {α : Type} {inner : Coroutine Socket α} {con : Connection}
    {answer : Except Stop α} {socket : Socket} (ran : inner.run con.socket = (answer, socket)) :
    (Connection.onSocket inner).run con = (answer, { con with socket := socket }) :=
  within_run ran

/-- The message `Connection::close` sends. -/
def errorMessage (reason : Bytes) : Bytes :=
  encode 0xFFFFFFFF ++ utf8 "_Error: " ++ reason ++ [0]

/-- `Connection::close`. While another coroutine holds the write lock it waits. -/
def Connection.close (reason : Bytes) : Coroutine Connection Unit := do
  if (← look).closed then pure ()
  else
    change fun con => { con with closed := true }
    if (← look).writeLock then wait
    else
      match ← onSocket reliableIsOpen with
      | .ok true =>
        -- The answer of the send is not looked at.
        let _ ← onSocket (send (errorMessage reason))
        match (← look).shutdown with
        | some what => throw what
        | none => change fun con => { con with socket := { con.socket with isOpen := false } }
      | .ok false | .error _ => pure ()

/-- `Connection::read_some_reliable`, and the exception its callers make of an
error. -/
def Connection.readSomeReliable (buffer amount : Nat) (context : String) :
    Coroutine Connection Bytes := do
  match ← onSocket (readSome buffer amount) with
  | .ok bytes => pure bytes
  | .error code => throw (context ++ code.message)

variable (con : Connection)

/-- On a healthy connection the bytes asked for are read. -/
theorem Connection.readSomeReliable_healthy (buffer amount : Nat) (context : String)
    (healthy : con.socket.Healthy)
    (fits : amount ≤ buffer) (small : buffer ≤ maxUint32)
    (enough : needed buffer amount ≤ con.socket.stream.length) :
    ∃ socket, (readSomeReliable buffer amount context).run con =
        (.ok (con.socket.stream.take (needed buffer amount)), { con with socket := socket }) ∧
      Moved con.socket socket (con.socket.stream.take (needed buffer amount)) [] := by
  obtain ⟨socket, ran, moved⟩ := readSome_healthy buffer amount healthy fits small enough
  exact ⟨socket, bind_ok (onSocket_run ran), moved⟩

/-- With too little to come it waits. -/
theorem Connection.readSomeReliable_waits (buffer amount : Nat) (context : String)
    (healthy : con.socket.Healthy)
    (fits : amount ≤ buffer) (small : buffer ≤ maxUint32)
    (short : con.socket.stream.length < needed buffer amount) :
    ∃ socket, (readSomeReliable buffer amount context).run con =
        (.error .waits, { con with socket := socket }) ∧
      Moved con.socket socket con.socket.stream [] := by
  obtain ⟨socket, ran, moved⟩ := readSome_waits buffer amount healthy fits small short
  exact ⟨socket, bind_error (onSocket_run ran), moved⟩

/-- On a healthy connection nobody has closed yet, `close` sends its message and
shuts the socket. -/
theorem Connection.close_healthy (reason : Bytes) (healthy : con.socket.Healthy)
    (opened : con.closed = false) (free : con.writeLock = false) (quiet : con.shutdown = none)
    (small : (errorMessage reason).length ≤ maxUint32) :
    ∃ after, (close reason).run con = (.ok (), after) ∧
      after.socket.sent = con.socket.sent ++ errorMessage reason := by
  obtain ⟨socket, isOpen, moved⟩ := reliableIsOpen_healthy healthy
  obtain ⟨socket', sends, moved'⟩ := send_healthy (errorMessage reason) moved.healthy
    (by simp [errorMessage]) small
  have probed : (onSocket reliableIsOpen).run { con with closed := true } =
      (.ok (.ok true), { con with socket := socket, closed := true }) := onSocket_run isOpen
  have sent : (onSocket (send (errorMessage reason))).run
      { con with socket := socket, closed := true } =
      (.ok (.ok ()), { con with socket := socket', closed := true }) := onSocket_run sends
  refine ⟨{ con with socket := { socket' with isOpen := false }, closed := true }, ?_, ?_⟩
  · rw [close, bind_look_run, if_neg (by simp [opened]), bind_change_run, bind_look_run,
      if_neg (by simp [free])]
    refine (bind_ok probed).trans ((bind_ok sent).trans ?_)
    rw [bind_look_run]
    simp [quiet]
  · rw [moved'.sent, moved.sent]
    simp

end Vpverk.Peer
