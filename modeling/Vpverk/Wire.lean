import Vpverk.DataExchange
import Vpverk.Transition

/-! What is written to one connection's socket, from `acceptConnection` on: the
session's `sendIp`, the blocks of `routeTunToClients` that encrypt and send under
the write lock, and any number of calls of `Connection::close`, in any order. A
`send` is cut at each of its partial writes. Every byte on the wire carries who
wrote it. Once a send or the shutdown has failed, or the socket is shut down,
nothing more can be written. -/
namespace Vpverk.Wire
open Octets Peer DataExchange Transition

/-- Who wrote a byte. -/
inductive Author where
  | sendIp
  | router
  | close
  deriving DecidableEq, Repr

def Author.wrote (author : Author) (bytes : Bytes) : List (Author × UInt8) :=
  bytes.map fun byte => (author, byte)

/-- `cvk_asio::send` under way. -/
structure Send where
  buffer : Bytes
  offset : Nat := 0
  within : offset ≤ buffer.length := by exact Nat.zero_le _
  deriving DecidableEq, Repr

/-- `buffer.subspan(offset)`. -/
def Send.rest (send : Send) : Bytes := send.buffer.drop send.offset

/-- Something of the message has been written, but not all of it. -/
def Send.partly (send : Send) : Bool := 0 < send.offset && send.offset < send.buffer.length

/-- Where the session stands. -/
inductive SessionPc where
  /-- Before `sendIp`. -/
  | handshake
  | sendingIp (send : Send)
  /-- Between `sendIp` and the push of its add entry. -/
  | sentIp
  | registered
  /-- Thrown out of `sendIp`. -/
  | failed
  deriving DecidableEq, Repr

/-- The call of `Connection::close` that found `closed` false; the others return
at once. -/
inductive Closer where
  | uncalled
  /-- In the loop that takes the write lock. -/
  | locking (reason : Bytes)
  /-- In `send`, under the write lock. -/
  | sending (reason : Bytes) (send : Send)
  /-- Before the shutdown, under the write lock. -/
  | shutting (reason : Bytes)
  | ended (reason : Bytes)
  deriving DecidableEq, Repr

/-- The block of `routeTunToClients` that handles a packet for the connection. -/
inductive Block where
  | idle
  /-- For the write lock. -/
  | waiting (packet : Packet)
  /-- In `send`, under the write lock. -/
  | sending (send : Send)

/-- A connection, with who may write to it. `sendFailed` tells of a send that
failed on a socket that was not shut down. -/
structure WireState where
  aes : AesSession
  writeLock : Bool := false
  session : SessionPc := .handshake
  closer : Closer := .uncalled
  blocks : Nat → Block := fun _ => .idle
  sendFailed : Bool := false
  shut : Bool := false
  written : List (Author × UInt8) := []

/-- Whether the socket still takes bytes. -/
def WireState.writable (state : WireState) : Bool := !state.sendFailed && !state.shut

/-- What a step shows. -/
inductive Label where
  | quiet
  | wrote (author : Author)
  | registered
  deriving DecidableEq, Repr

/-- One turn of the loop of `send`: some bytes are taken, at least one. -/
def WireState.writeSome (state : WireState) (author : Author) (send : Send) (count : Nat) :
    Option (Send × WireState) :=
  if room : 0 < count ∧ send.offset + count ≤ send.buffer.length then
    if state.writable then
      some ({ send with offset := send.offset + count, within := room.2 },
        { state with written := state.written ++ author.wrote (send.rest.take count) })
    else none
  else none

/-- A send fails. -/
def WireState.fail (state : WireState) : WireState :=
  { state with sendFailed := state.sendFailed || !state.shut }

/-- A call of `Connection::close`, up to its loop. -/
def WireState.close (state : WireState) (reason : Bytes) : WireState :=
  if state.closer = .uncalled then { state with closer := .locking reason } else state

def WireState.setBlock (state : WireState) (i : Nat) (block : Block) : WireState :=
  { state with blocks := Function.update state.blocks i block }

/-- The session's steps. -/
inductive SessionEvent where
  | sendIp
  | writes (count : Nat)
  | sent
  | fails
  | register
  deriving DecidableEq, Repr

/-- `sendIp`, which takes no lock, and the push of the add entry. -/
def sendIp (cipher : Cipher) (ip : UInt32) (state : WireState) (event : SessionEvent) :
    Option (WireState × Label) :=
  match state.session, event with
  | .handshake, .sendIp =>
    match state.aes.encrypt cipher ([4, 0, 0, 0] ++ encode ip) 8 with
    | .error _ =>
      some ({ state with session := .failed }.close (utf8 "Encryption failure"), .quiet)
    | .ok (buffer2, aes) =>
      some ({ state with aes := aes, session := .sendingIp { buffer := buffer2 } }, .quiet)
  | .sendingIp send, .writes count =>
    match state.writeSome .sendIp send count with
    | none => none
    | some (send, state) => some ({ state with session := .sendingIp send }, .wrote .sendIp)
  | .sendingIp send, .sent =>
    if send.rest = [] then some ({ state with session := .sentIp }, .quiet) else none
  | .sendingIp send, .fails =>
    if send.rest = [] then none
    else some ({ state with session := .failed }.fail.close (utf8 "Send failure ыыыыыыыыыыыыы"), .quiet)
  | .sentIp, .register => some ({ state with session := .registered }, .registered)
  | _, _ => none

/-- The steps of the one call of `close` that goes through. -/
inductive CloseEvent where
  /-- The write lock is free, and `reliable_is_open` answers. -/
  | locks (isOpen : Bool)
  | writes (count : Nat)
  | sent
  | fails
  | shutdown
  deriving DecidableEq, Repr

/-- `Connection::close` from its loop on. -/
def closeOn (state : WireState) (event : CloseEvent) : Option (WireState × Label) :=
  match state.closer, event with
  | .locking reason, .locks isOpen =>
    if state.writeLock then none
    else if isOpen then
      some ({ state with
        writeLock := true
        closer := .sending reason { buffer := errorMessage reason } }, .quiet)
    else some ({ state with closer := .ended reason }, .quiet)
  | .sending reason send, .writes count =>
    match state.writeSome .close send count with
    | none => none
    | some (send, state) => some ({ state with closer := .sending reason send }, .wrote .close)
  | .sending reason send, .sent =>
    if send.rest = [] then some ({ state with closer := .shutting reason }, .quiet) else none
  | .sending reason send, .fails =>
    -- The answer of the send is not looked at.
    if send.rest = [] then none
    else some ({ state with closer := .shutting reason }.fail, .quiet)
  | .shutting reason, .shutdown =>
    some ({ state with closer := .ended reason, shut := true, writeLock := false }, .quiet)
  | _, _ => none

/-- The steps of a block. -/
inductive BlockEvent where
  /-- The write lock is free, and the packet is encrypted or not. -/
  | locks (encrypts : Bool)
  | writes (count : Nat)
  | sent
  | fails
  deriving DecidableEq, Repr

/-- The part of `routeTunToClients` under the write lock. The lock is given back
before `close` is called. -/
def forward (cipher : Cipher) (state : WireState) (i : Nat) (event : BlockEvent) :
    Option (WireState × Label) :=
  match state.blocks i, event with
  | .waiting packet, .locks encrypts =>
    if state.writeLock then none
    else
      match encrypts, state.aes.encrypt cipher (frame packet) (frame packet).length with
      | true, .ok (encrypted, aes) =>
        some ({ state with aes := aes, writeLock := true }.setBlock i
          (.sending { buffer := encrypted }), .quiet)
      | _, _ => some ((state.setBlock i .idle).close (utf8 "server failed to encrypt"), .quiet)
  | .sending send, .writes count =>
    match state.writeSome .router send count with
    | none => none
    | some (send, state) => some (state.setBlock i (.sending send), .wrote .router)
  | .sending send, .sent =>
    if send.rest = [] then some ({ state with writeLock := false }.setBlock i .idle, .quiet) else none
  | .sending send, .fails =>
    if send.rest = [] then none
    else some (({ state with writeLock := false }.setBlock i .idle).fail.close
      (utf8 "server failed to send"), .quiet)
  | _, _ => none

/-- What happens next. -/
inductive WireEvent where
  | session (event : SessionEvent)
  /-- Somebody calls `Connection::close`. -/
  | close (reason : Bytes)
  | closer (event : CloseEvent)
  /-- A packet for the connection comes to the router, once its route may be there. -/
  | route (i : Nat) (packet : Packet)
  | block (i : Nat) (event : BlockEvent)

def step (cipher : Cipher) (ip : UInt32) (state : WireState) :
    WireEvent → Option (WireState × Label)
  | .session event => sendIp cipher ip state event
  | .close reason => some (state.close reason, .quiet)
  | .closer event => closeOn state event
  | .route i packet =>
    match state.session, state.blocks i with
    | .registered, .idle => some (state.setBlock i (.waiting packet), .quiet)
    | _, _ => none
  | .block i event => forward cipher state i event

/-- The writers of a connection whose session uses `aes` and was assigned `ip`. -/
def machine (cipher : Cipher) (aes : AesSession) (ip : UInt32) :
    Machine WireState WireEvent Label where
  initial := { aes := aes }
  step := step cipher ip

abbrev system (cipher : Cipher) (aes : AesSession) (ip : UInt32) : System WireState Label :=
  (machine cipher aes ip).system

end Vpverk.Wire
