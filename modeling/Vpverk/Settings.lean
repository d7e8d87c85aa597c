import Mathlib.Data.List.Sort
import Vpverk.Octets

/-! The settings: what `Settings::read` makes of the configuration, and what the
special members of `SettingsSnapshot` hand on of it on the way to the coroutine
that uses it. A member that has not been given a value holds an indeterminate
one, written `none`. -/
namespace Vpverk.Settings
open Octets

variable {Key : Type}

/-- `SettingsSnapshot`. The objects behind its `shared_ptr`s are never changed,
apart from the counter, which no two snapshots share. -/
structure SettingsSnapshot (Key : Type) where
  counter : UInt32 := 1
  binarySortedAllowedLogins : List Bytes := []
  privateKey : Option Key := none
  port : Option UInt16 := none
  maxAliveTime : Option Int64 := none

namespace SettingsSnapshot

/-- The copy constructor. It names the logins, the key and the port. -/
def copyConstruct (other : SettingsSnapshot Key) : SettingsSnapshot Key where
  counter := 1 + 1
  binarySortedAllowedLogins := other.binarySortedAllowedLogins
  privateKey := other.privateKey
  port := other.port

/-- The copy assignment. -/
def copyAssign (self other : SettingsSnapshot Key) : SettingsSnapshot Key :=
  { self with
    counter := self.counter + 1
    binarySortedAllowedLogins := other.binarySortedAllowedLogins
    privateKey := other.privateKey
    port := other.port }

/-- The move constructor, which copies. -/
def moveConstruct (other : SettingsSnapshot Key) : SettingsSnapshot Key where
  counter := 1 + 1
  binarySortedAllowedLogins := other.binarySortedAllowedLogins
  privateKey := other.privateKey
  port := other.port

/-- The move assignment. -/
def moveAssign (self other : SettingsSnapshot Key) : SettingsSnapshot Key :=
  copyAssign self other

def getBinarySortedAllowedLogins (snapshot : SettingsSnapshot Key) : List Bytes :=
  snapshot.binarySortedAllowedLogins
def getRSAPrivateKey (snapshot : SettingsSnapshot Key) : Option Key := snapshot.privateKey
def getPort (snapshot : SettingsSnapshot Key) : Option UInt16 := snapshot.port
def getMaxAliveTime (snapshot : SettingsSnapshot Key) : Option Int64 := snapshot.maxAliveTime

end SettingsSnapshot

/-- A parsed configuration file: what `at` and `get` answer for each key, or the
text of the exception they throw. -/
structure Config where
  port : Except String UInt16
  maxAliveTime : Except String Int64
  privateKeyPath : Except String String
  allowedLogins : Except String (List Bytes)

/-- `std::sort`. -/
def sort (logins : List Bytes) : List Bytes :=
  logins.mergeSort fun first second => !decide (second < first)

/-- `Settings::read` on a file with this content, `none` if it cannot be opened;
`fromPemFile` is `RsaKey::from_pem_file`. -/
def read (fromPemFile : String → Except String Key) (path : String)
    (file : Option (Except String Config)) (currentSnapshot : SettingsSnapshot Key) :
    Except String (SettingsSnapshot Key) := do
  match file with
  | none => throw ("Failed to open config file: " ++ path)
  | some parsed =>
    let js ← parsed
    let port ← js.port
    let maxAliveTime ← js.maxAliveTime
    let keyPath ← js.privateKeyPath
    match fromPemFile keyPath with
    | .error text => throw ("Failed to read private key: " ++ keyPath ++ " -> " ++ text)
    | .ok key =>
      let logins ← js.allowedLogins
      if (sort logins).length = 0 then throw "logins list appears to be empty"
      else
        pure { currentSnapshot with
          port := some port
          maxAliveTime := some maxAliveTime
          privateKey := some key
          binarySortedAllowedLogins := sort logins }

/-- `Settings::get_settings`, up to the promise. -/
def getSettings (currentSnapshot : SettingsSnapshot Key) : SettingsSnapshot Key :=
  currentSnapshot.copyConstruct

/-- The snapshots there are besides `current_snapshot`: those its value has come
to, and those that have only been default constructed, to be assigned to. -/
inductive Handed (currentSnapshot : SettingsSnapshot Key) :
    (carries : Bool) → SettingsSnapshot Key → Prop where
  | default : Handed currentSnapshot false {}
  | getSettings : Handed currentSnapshot true (getSettings currentSnapshot)
  | copyConstruct {carries other} :
      Handed currentSnapshot carries other → Handed currentSnapshot carries other.copyConstruct
  | moveConstruct {carries other} :
      Handed currentSnapshot carries other → Handed currentSnapshot carries other.moveConstruct
  | copyAssign {before carries self other} :
      Handed currentSnapshot before self → Handed currentSnapshot carries other →
        Handed currentSnapshot carries (self.copyAssign other)
  | moveAssign {before carries self other} :
      Handed currentSnapshot before self → Handed currentSnapshot carries other →
        Handed currentSnapshot carries (self.moveAssign other)

/-- The four getters return what the configuration gave. -/
structure Unchanged (fromPemFile : String → Except String Key) (config : Config)
    (snapshot : SettingsSnapshot Key) : Prop where
  port : snapshot.getPort = config.port.toOption
  privateKey : snapshot.getRSAPrivateKey =
    config.privateKeyPath.toOption.bind fun path => (fromPemFile path).toOption
  logins : some snapshot.getBinarySortedAllowedLogins = config.allowedLogins.toOption.map sort
  maxAliveTime : snapshot.getMaxAliveTime = config.maxAliveTime.toOption

variable {fromPemFile : String → Except String Key} {path : String}
  {file : Option (Except String Config)} {before currentSnapshot snapshot : SettingsSnapshot Key}
  {carries : Bool}

/-- What an accepted configuration holds, and what `read` makes of it. -/
theorem read_ok (accepted : read fromPemFile path file before = .ok currentSnapshot) :
    ∃ config port maxAliveTime keyPath key logins, file = some (.ok config) ∧
      config.port = .ok port ∧ config.maxAliveTime = .ok maxAliveTime ∧
      config.privateKeyPath = .ok keyPath ∧ fromPemFile keyPath = .ok key ∧
      config.allowedLogins = .ok logins ∧
      currentSnapshot = { before with
        port := some port
        maxAliveTime := some maxAliveTime
        privateKey := some key
        binarySortedAllowedLogins := sort logins } := by
  unfold read at accepted
  split at accepted
  · cases accepted
  · rename_i parsed
    rcases parsed with _ | config
    · cases accepted
    obtain ⟨_ | port, _ | maxAliveTime, _ | keyPath, logins⟩ := config <;> try cases accepted
    simp only [bind, Except.bind] at accepted
    split at accepted
    · cases accepted
    · rename_i key opened
      rcases logins with _ | logins
      · cases accepted
      simp only at accepted
      split at accepted <;> cases accepted
      exact ⟨_, port, maxAliveTime, keyPath, key, logins, rfl, rfl, rfl, rfl, opened, rfl, rfl⟩

/-- No snapshot but `current_snapshot` is ever given a lifetime. -/
theorem Handed.maxAliveTime (handed : Handed currentSnapshot carries snapshot) :
    snapshot.maxAliveTime = none := by
  induction handed with
  | default | getSettings | copyConstruct | moveConstruct => rfl
  | copyAssign _ _ self | moveAssign _ _ self => exact self

/-- The other three members are handed on. -/
theorem Handed.rest (handed : Handed currentSnapshot carries snapshot) (carried : carries = true) :
    snapshot.port = currentSnapshot.port ∧ snapshot.privateKey = currentSnapshot.privateKey ∧
      snapshot.binarySortedAllowedLogins = currentSnapshot.binarySortedAllowedLogins := by
  induction handed with
  | default => cases carried
  | getSettings => exact ⟨rfl, rfl, rfl⟩
  | copyConstruct _ ih | moveConstruct _ ih => exact ih carried
  | copyAssign _ _ _ ih | moveAssign _ _ _ ih => exact ih carried

/-- **The lifetime of a session is lost.** Whatever accepted configuration and
whatever copies, moves and assignments the snapshot has come through, the port,
the key and the logins are the configuration's, and `max_alive_time` has never
been given a value. -/
theorem settings_lost (accepted : read fromPemFile path file before = .ok currentSnapshot)
    (handed : Handed currentSnapshot true snapshot) :
    ∃ config, file = some (.ok config) ∧ snapshot.getPort = config.port.toOption ∧
      snapshot.getRSAPrivateKey =
        (config.privateKeyPath.toOption.bind fun path => (fromPemFile path).toOption) ∧
      some snapshot.getBinarySortedAllowedLogins = config.allowedLogins.toOption.map sort ∧
      snapshot.getMaxAliveTime = none ∧ ¬ Unchanged fromPemFile config snapshot := by
  obtain ⟨config, port, maxAliveTime, keyPath, key, logins, file', port', maxAliveTime', keyPath',
    key', logins', rfl⟩ := read_ok accepted
  obtain ⟨samePort, sameKey, sameLogins⟩ := handed.rest rfl
  have lost := handed.maxAliveTime
  refine ⟨config, file', ?_, ?_, ?_, lost, fun unchanged => ?_⟩
  · rw [port']
    exact samePort
  · rw [keyPath']
    simpa [SettingsSnapshot.getRSAPrivateKey, Except.toOption, key'] using sameKey
  · rw [logins']
    exact congrArg some sameLogins
  · have kept := unchanged.maxAliveTime
    rw [maxAliveTime', SettingsSnapshot.getMaxAliveTime, lost] at kept
    cases kept

/-- One login, and an hour for every session. -/
def oneHour : Config where
  port := .ok 443
  maxAliveTime := .ok 3600
  privateKeyPath := .ok "private.pem"
  allowedLogins := .ok [utf8 "login"]

/-- `current_snapshot` for it. -/
def hourRead : SettingsSnapshot Unit where
  port := some 443
  maxAliveTime := some 3600
  privateKey := some ()
  binarySortedAllowedLogins := [utf8 "login"]

private theorem oneHour_accepted :
    read (fun _ => .ok ()) "conf.json" (some (.ok oneHour)) {} = .ok hourRead := by
  simp [read, oneHour, sort, hourRead, bind, Except.bind, pure, Except.pure]

theorem settings_lost_one_hour : (getSettings hourRead).moveConstruct.getMaxAliveTime = none := by
  obtain ⟨_, _, _, _, _, lost, _⟩ :=
    settings_lost oneHour_accepted (.moveConstruct .getSettings)
  exact lost

/-- The hour does not reach the coroutine that asks for it. -/
theorem hour_lost :
    read (fun _ => .ok ()) "conf.json" (some (.ok oneHour)) {} = .ok hourRead ∧
      Handed hourRead true (getSettings hourRead) ∧
      ¬ Unchanged (fun _ => .ok ()) oneHour (getSettings hourRead) := by
  refine ⟨oneHour_accepted, .getSettings, fun unchanged => ?_⟩
  cases unchanged.maxAliveTime

end Vpverk.Settings
