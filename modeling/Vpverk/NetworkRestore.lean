import Vpverk.Addresses
import Vpverk.Coroutine
import Mathlib.Data.List.TakeWhile

/-! What the client leaves behind of its network. `startAsync` writes its address to tun_ip.raw
and sets the device up; `restore_network` reads the address, in a later process where need be, and
takes the commands back. -/
namespace Vpverk.NetworkRestore
open Coroutine

/-- The client's host, as the commands and the file find it. -/
structure Host where
  /-- What stands in tun_ip.raw, if it is there. -/
  tunIpRaw : Option (List Char) := none
  /-- Whether tun_ip.raw can be opened for writing. -/
  writable : Bool := true
  /-- The commands that were run. -/
  executed : List String := []

/-- What the system answers: with what the constructor of `Tun` aborts, if it does, and with what
a command exits, after the commands that were run before. -/
structure Shell where
  openTun : List String → Option String
  exit : List String → String → Int

variable {shell : Shell} {host : Host} {ip : AddressV4} {raw : UInt32}

/-! ### The text in the file -/

/-- `ip_file << ip_bytes_raw`. -/
def written (ipBytesRaw : UInt32) : List Char := (toString ipBytesRaw.toNat).toList

/-- `std::isspace`. -/
def isSpace (character : Char) : Bool :=
  character = ' ' || (9 ≤ character.toNat && character.toNat ≤ 13)

/-- `ip_file >> ip_bytes_raw`: white space is skipped, then a sign and digits are read. Where
nothing is left behind the white space the variable is not written to. -/
def extract (text : List Char) : Option UInt32 :=
  match text.dropWhile isSpace with
  | [] => none
  | first :: rest =>
    let digits := if first = '-' ∨ first = '+' then rest else first :: rest
    let number := Nat.ofDigitChars 10 (digits.takeWhile Char.isDigit) 0
    if UInt32.size ≤ number then some (UInt32.ofNat (UInt32.size - 1))
    else if first = '-' then some (-UInt32.ofNat number)
    else some (UInt32.ofNat number)

theorem written_digits (raw : UInt32) : written raw = Nat.toDigits 10 raw.toNat := by
  simp [written]

theorem isSpace_digit {character : Char} (digit : character.isDigit = true) :
    isSpace character = false := by
  have large : 48 ≤ character.toNat := by
    simp only [Char.isDigit, Bool.and_eq_true, decide_eq_true_eq] at digit
    exact digit.1
  have notBlank : character ≠ ' ' := by
    rintro rfl
    cases digit
  simp only [isSpace, notBlank, decide_false, Bool.false_or, Bool.and_eq_false_iff,
    decide_eq_false_iff_not]
  omega

/-- What was written is read. -/
theorem extract_written (raw : UInt32) : extract (written raw) = some raw := by
  have digit : ∀ c ∈ written raw, c.isDigit = true := by
    rw [written_digits]
    exact fun c member => Nat.isDigit_of_mem_toDigits (by decide) (by decide) member
  have number : Nat.ofDigitChars 10 (written raw) 0 = raw.toNat := by
    rw [written_digits]
    exact Nat.ofDigitChars_ten_toDigits
  cases text : written raw with
  | nil =>
    rw [written_digits] at text
    exact absurd text Nat.toDigits_ne_nil
  | cons first rest =>
    have firstDigit : first.isDigit = true := digit first (text ▸ List.mem_cons_self ..)
    have allDigits : (first :: rest).takeWhile Char.isDigit = first :: rest :=
      List.takeWhile_eq_self_iff.mpr (text ▸ digit)
    have unsigned : first ≠ '-' ∧ first ≠ '+' := by
      constructor <;> rintro rfl <;> cases firstDigit
    rw [extract, List.dropWhile_cons_of_neg (by simp [isSpace_digit firstDigit])]
    simp only [unsigned.1, unsigned.2, or_self, if_false, allDigits]
    rw [← text, number, if_neg (Nat.not_le.mpr raw.toNat_lt), UInt32.ofNat_toNat]

/-! ### The commands -/

/-- `address_v4::to_string`. -/
def addressString (ip : AddressV4) : String :=
  let byte (shift : UInt32) := toString ((ip.toUint >>> shift) &&& 0xFF).toNat
  byte 24 ++ "." ++ byte 16 ++ "." ++ byte 8 ++ "." ++ byte 0

/-- `system_`. -/
def runCommand (shell : Shell) (command : String) : Coroutine Host Unit := do
  let code := shell.exit (← look).executed command
  change fun host => { host with executed := host.executed ++ [command] }
  if code ≠ 0 then abort ("command failed: " ++ command)

/-- `setupTun`. -/
def setupTun (shell : Shell) (vpnClientIp : AddressV4) : Coroutine Host Unit := do
  match shell.openTun (← look).executed with
  | some info => abort info
  | none =>
    runCommand shell "ip link set tun0 up"
    runCommand shell ("ip addr add " ++ addressString vpnClientIp ++ "/16 dev tun0")
    runCommand shell ("ip route add 0.0.0.0/1 via " ++ addressString vpnClientIp ++ " dev tun0")
    runCommand shell ("ip route add 128.0.0.0/1 via " ++ addressString vpnClientIp ++ " dev tun0")

/-- The host after `ip_file.close()`. Nobody looks whether the file could be written. -/
def Host.wrote (host : Host) (ipBytesRaw : UInt32) : Host :=
  { host with tunIpRaw := if host.writable then some (written ipBytesRaw) else host.tunIpRaw }

/-- What `startAsync` does with its address: it writes it down and sets the device up. -/
def takeAddress (shell : Shell) (ipBytesRaw : UInt32) : Coroutine Host Unit := do
  change fun host => host.wrote ipBytesRaw
  setupTun shell ⟨ipBytesRaw⟩

/-- `restore_network`. -/
def restoreNetwork (shell : Shell) : Coroutine Host Unit := do
  match (← look).tunIpRaw with
  | none => abort "failed to open tun_ip.raw"
  | some text =>
    match extract text with
    | none => stop .undefined
    | some ipBytesRaw =>
      let vpnClientIp := addressString ⟨ipBytesRaw⟩
      runCommand shell "ip link set tun0 down"
      runCommand shell ("ip addr del " ++ vpnClientIp ++ "/16 dev tun0")
      runCommand shell ("ip route del 0.0.0.0/1 via " ++ vpnClientIp ++ " dev tun0")
      runCommand shell ("ip route del 128.0.0.0/1 via " ++ vpnClientIp ++ " dev tun0")

/-- Commands one after another. -/
def runCommands (shell : Shell) : List String → Coroutine Host Unit
  | [] => pure ()
  | command :: rest => do
    runCommand shell command
    runCommands shell rest

/-- What can be done to the device, and undone. -/
inductive Deed where
  | link (up : Bool)
  | address (there : Bool) (ip : AddressV4)
  | route (there : Bool) (network : String) (ip : AddressV4)

def Deed.command : Deed → String
  | .link up => "ip link set tun0 " ++ if up then "up" else "down"
  | .address there ip =>
    "ip addr " ++ (if there then "add " else "del ") ++ addressString ip ++ "/16 dev tun0"
  | .route there network ip =>
    "ip route " ++ (if there then "add " else "del ") ++ network ++ " via " ++ addressString ip ++
      " dev tun0"

def Deed.undone : Deed → Deed
  | .link up => .link !up
  | .address there ip => .address (!there) ip
  | .route there network ip => .route (!there) network ip

/-- What is done to the device for an address. -/
def deeds (ip : AddressV4) : List Deed :=
  [.link true, .address true ip, .route true "0.0.0.0/1" ip, .route true "128.0.0.0/1" ip]

def setupCommands (ip : AddressV4) : List String := (deeds ip).map Deed.command

def restoreCommands (ip : AddressV4) : List String :=
  (deeds ip).map fun deed => deed.undone.command

/-- All of the commands exit with 0, one after another. -/
def Exit0 (shell : Shell) (executed commands : List String) : Prop :=
  ∀ earlier command later, commands = earlier ++ command :: later →
    shell.exit (executed ++ earlier) command = 0

/-- How commands one after another come out: the first that fails ends the process. -/
inductive Went (shell : Shell) (host : Host) : List String → Except Stop Unit × Host → Prop where
  | through {commands} : Exit0 shell host.executed commands →
    Went shell host commands (.ok (), { host with executed := host.executed ++ commands })
  | failed {done command rest} : Exit0 shell host.executed done →
    shell.exit (host.executed ++ done) command ≠ 0 →
    Went shell host (done ++ command :: rest) (.error (.aborts ("command failed: " ++ command)),
      { host with executed := host.executed ++ done ++ [command] })

variable {command : String} {commands executed : List String}

theorem exit0_nil : Exit0 shell executed [] := by
  intro earlier command later split
  simp at split

theorem Exit0.cons (first : shell.exit executed command = 0)
    (rest : Exit0 shell (executed ++ [command]) commands) :
    Exit0 shell executed (command :: commands) := by
  intro earlier other later split
  rcases List.cons_eq_append_iff.mp split with ⟨rfl, same⟩ | ⟨init, rfl, same⟩
  · cases same
    simpa using first
  · simpa using rest init other later same

theorem runCommand_run (shell : Shell) (command : String) (host : Host) :
    (runCommand shell command).run host =
      if shell.exit host.executed command = 0 then
        (.ok (), { host with executed := host.executed ++ [command] })
      else (.error (.aborts ("command failed: " ++ command)),
        { host with executed := host.executed ++ [command] }) := by
  rw [runCommand, bind_look_run, bind_change_run]
  by_cases ok : shell.exit host.executed command = 0 <;> simp [ok]

/-- A command that exits with 0 before them. -/
theorem Went.cons {result : Except Stop Unit × Host} (ok : shell.exit host.executed command = 0)
    (went : Went shell { host with executed := host.executed ++ [command] } commands result) :
    Went shell host (command :: commands) result := by
  cases went with
  | through exits => simpa using Went.through (exits.cons ok)
  | failed exits fails => simpa using Went.failed (exits.cons ok) (by simpa using fails)

theorem runCommands_went (shell : Shell) (commands : List String) (host : Host) :
    Went shell host commands ((runCommands shell commands).run host) := by
  induction commands generalizing host with
  | nil =>
    have through : Went shell host [] _ := .through exit0_nil
    simpa [runCommands] using through
  | cons command rest ih =>
    have ran := runCommand_run shell command host
    by_cases ok : shell.exit host.executed command = 0
    · rw [if_pos ok] at ran
      rw [runCommands, bind_ok ran]
      exact (ih _).cons ok
    · rw [if_neg ok] at ran
      rw [runCommands, bind_error ran]
      have failed : Went shell host ([] ++ command :: rest) _ :=
        .failed exit0_nil (by simpa using ok)
      simpa using failed

/-! ### Processes -/

/-- What the client may be started for. -/
inductive Process where
  /-- It comes to its address. -/
  | takes (ipBytesRaw : UInt32)
  /-- With "--restore", or at its end. -/
  | restores
  deriving DecidableEq, Repr

def Process.run (shell : Shell) : Process → Coroutine Host Unit
  | .takes ipBytesRaw => takeAddress shell ipBytesRaw
  | .restores => restoreNetwork shell

/-- The host after one process after another, however each ends. -/
def left (shell : Shell) (processes : List Process) (host : Host) : Host :=
  processes.foldl (fun host process => ((process.run shell).run host).2) host

/-- The address that was taken last. -/
def lastTaken (processes : List Process) : Option UInt32 :=
  processes.foldl (fun last process =>
    match process with
    | .takes ipBytesRaw => some ipBytesRaw
    | .restores => last) none

theorem Went.file {result : Except Stop Unit × Host} (went : Went shell host commands result) :
    result.2.tunIpRaw = host.tunIpRaw ∧ result.2.writable = host.writable := by
  cases went <;> exact ⟨rfl, rfl⟩

theorem runCommands_one (shell : Shell) (command : String) :
    runCommands shell [command] = runCommand shell command := by
  change (runCommand shell command >>= fun _ => pure ()) = _
  apply same_run
  intro host
  cases ran : (runCommand shell command).run host with
  | mk answer after =>
    cases answer with
    | ok _ => exact bind_ok ran
    | error how => exact bind_error ran

theorem setupTun_run (shell : Shell) (ip : AddressV4) (host : Host) :
    (setupTun shell ip).run host =
      match shell.openTun host.executed with
      | some info => (.error (.aborts info), host)
      | none => (runCommands shell (setupCommands ip)).run host := by
  rw [setupTun, bind_look_run]
  cases shell.openTun host.executed with
  | some info => rfl
  | none =>
    have last := runCommands_one shell (Deed.route true "128.0.0.0/1" ip).command
    dsimp only [setupCommands, deeds, List.map]
    rw [runCommands, runCommands, runCommands, last]
    rfl

theorem restoreNetwork_run {text : List Char} (there : host.tunIpRaw = some text)
    (reads : extract text = some raw) :
    (restoreNetwork shell).run host = (runCommands shell (restoreCommands ⟨raw⟩)).run host := by
  rw [restoreNetwork, bind_look_run, there]
  dsimp only
  rw [reads]
  have last := runCommands_one shell (Deed.route true "128.0.0.0/1" ⟨raw⟩).undone.command
  dsimp only [restoreCommands, deeds, List.map]
  rw [runCommands, runCommands, runCommands, last]
  rfl

/-- Whatever comes of it, the address is in the file. -/
theorem takeAddress_file (shell : Shell) (raw : UInt32) (writable : host.writable = true) :
    ((takeAddress shell raw).run host).2.tunIpRaw = some (written raw) ∧
      ((takeAddress shell raw).run host).2.writable = true := by
  have wrote : (host.wrote raw).tunIpRaw = some (written raw) := by simp [Host.wrote, writable]
  rw [takeAddress, bind_change_run, setupTun_run, ← wrote, ← writable]
  split
  · exact ⟨rfl, rfl⟩
  · exact (runCommands_went ..).file

theorem restoreNetwork_file (shell : Shell) (host : Host) :
    ((restoreNetwork shell).run host).2.tunIpRaw = host.tunIpRaw ∧
      ((restoreNetwork shell).run host).2.writable = host.writable := by
  cases there : host.tunIpRaw with
  | none =>
    rw [restoreNetwork, bind_look_run, there]
    exact ⟨there, rfl⟩
  | some text =>
    cases reads : extract text with
    | none =>
      rw [restoreNetwork, bind_look_run, there]
      dsimp only
      rw [reads]
      exact ⟨there, rfl⟩
    | some raw =>
      rw [restoreNetwork_run there reads, ← there]
      exact (runCommands_went ..).file

theorem lastTaken_concat (processes : List Process) (process : Process) :
    lastTaken (processes ++ [process]) =
      match process with
      | .takes raw => some raw
      | .restores => lastTaken processes := by
  simp only [lastTaken, List.foldl_append, List.foldl_cons, List.foldl_nil]

/-- The file holds the address that was taken last. -/
theorem left_file (shell : Shell) (processes : List Process) (executed : List String) :
    (left shell processes { executed := executed }).tunIpRaw = (lastTaken processes).map written ∧
      (left shell processes { executed := executed }).writable = true := by
  induction processes using List.reverseRecOn with
  | nil => exact ⟨rfl, rfl⟩
  | append_singleton processes process ih =>
    rw [left, List.foldl_append, List.foldl_cons, List.foldl_nil, ← left, lastTaken_concat]
    cases process with
    | takes raw => exact takeAddress_file shell raw ih.2
    | restores =>
      have kept := restoreNetwork_file shell (left shell processes { executed := executed })
      exact ⟨kept.1.trans ih.1, kept.2.trans ih.2⟩

/-- A client that comes to its address sets the device up for it, where `Tun` can be opened. -/
theorem takeAddress_went (shell : Shell) (raw : UInt32) (host : Host) :
    match shell.openTun host.executed with
    | some info => (takeAddress shell raw).run host = (.error (.aborts info), host.wrote raw)
    | none =>
      Went shell (host.wrote raw) (setupCommands ⟨raw⟩) ((takeAddress shell raw).run host) := by
  have run : (takeAddress shell raw).run host = _ :=
    (bind_change_run ..).trans (setupTun_run shell ⟨raw⟩ (host.wrote raw))
  have executed : (host.wrote raw).executed = host.executed := rfl
  rw [run, executed]
  cases shell.openTun host.executed with
  | some info => rfl
  | none => exact runCommands_went ..

/-- **What is restored is what was set up last.** A client that comes to its address does to the
device what `deeds` tells, until a command fails. After any clients that took addresses, or restored
the network, one after another and each ended in any way, `restore_network` undoes these deeds, one
by one and for the address that was taken last, until a command of its own fails, and then ends with
its text; where no address was taken it runs no command. -/
theorem restore_takes_back (shell : Shell) (processes : List Process) (executed : List String) :
    (∀ raw host, match shell.openTun host.executed with
      | some info => (takeAddress shell raw).run host = (.error (.aborts info), host.wrote raw)
      | none =>
        Went shell (host.wrote raw) (setupCommands ⟨raw⟩) ((takeAddress shell raw).run host)) ∧
    match lastTaken processes with
    | none => (restoreNetwork shell).run (left shell processes { executed := executed }) =
        (.error (.aborts "failed to open tun_ip.raw"), left shell processes { executed := executed })
    | some raw => Went shell (left shell processes { executed := executed }) (restoreCommands ⟨raw⟩)
        ((restoreNetwork shell).run (left shell processes { executed := executed })) := by
  refine ⟨takeAddress_went shell, ?_⟩
  have file := (left_file shell processes executed).1
  cases last : lastTaken processes with
  | none =>
    rw [last] at file
    rw [restoreNetwork, bind_look_run, file]
    rfl
  | some raw =>
    rw [last] at file
    dsimp only
    rw [restoreNetwork_run file (extract_written raw)]
    exact runCommands_went ..

example : restoreCommands ⟨0x0A7B0002⟩ =
    ["ip link set tun0 down", "ip addr del 10.123.0.2/16 dev tun0",
      "ip route del 0.0.0.0/1 via 10.123.0.2 dev tun0",
      "ip route del 128.0.0.0/1 via 10.123.0.2 dev tun0"] := by decide

end Vpverk.NetworkRestore
