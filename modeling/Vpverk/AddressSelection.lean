import Mathlib.Data.Finset.Card
import Mathlib.Data.Nat.Find
import Mathlib.Order.Interval.Finset.Nat
import Vpverk.AddressOwnership

/-! Which address `getNewAddress` picks, and whether it picks one. The counter
goes round the host numbers 2 to 65534 of 10.123.0.0/16 for as long as the
addresses it meets are taken; nothing stops it when all of them are. -/
namespace Vpverk.Addresses

/-- How many addresses there are to give out. -/
def POOL_SIZE : Nat := 65533

/-- The host numbers given out. 0 is the network, 1 the tun device of the server
and 65535 the broadcast address. -/
def hosts : Finset Nat := Finset.Icc 2 65534

/-- The address 10.123.0.0 with a host number. -/
def poolAddress (host : Nat) : AddressV4 := ⟨UInt32.ofNat (0x0A7B0000 + host)⟩

/-- The `n`th host number met from a counter upward, going round. -/
def hostAfter (counter : UInt16) (n : Nat) : Nat := 2 + (counter.toNat + n - 2) % POOL_SIZE

/-- The values the counter takes. -/
def Ranged (counter : UInt16) : Prop := 1 ≤ counter.toNat ∧ counter.toNat ≤ 65534

variable {counter : UInt16} {pool : AddressPool} {n host other : Nat}

theorem poolAddress_toNat (inside : host ∈ hosts) :
    (poolAddress host).toUint.toNat = 0x0A7B0000 + host := by
  obtain ⟨_, high⟩ := Finset.mem_Icc.mp inside
  exact UInt32.toNat_ofNat_of_lt (by simp [UInt32.size]; omega)

theorem poolAddress_injective (inside : host ∈ hosts) (inside' : other ∈ hosts)
    (same : poolAddress host = poolAddress other) : host = other := by
  have := congrArg (·.toUint.toNat) same
  simp only [poolAddress_toNat inside, poolAddress_toNat inside'] at this
  omega

theorem toNat_ofNat_host (inside : host ∈ hosts) : (UInt16.ofNat host).toNat = host := by
  obtain ⟨_, high⟩ := Finset.mem_Icc.mp inside
  exact Nat.mod_eq_of_lt (by omega)

/-- An address has its host number for its low half. -/
theorem poolAddress_low (inside : host ∈ hosts) :
    (poolAddress host).toUint.toUInt16 = UInt16.ofNat host := by
  apply UInt16.toNat_inj.mp
  obtain ⟨_, high⟩ := Finset.mem_Icc.mp inside
  rw [UInt32.toNat_toUInt16, poolAddress_toNat inside, toNat_ofNat_host inside]
  omega

theorem candidate_eq_poolAddress (counter : UInt16) :
    candidate counter = poolAddress counter.toNat := by
  have number : 0x0A7B0000 + counter.toNat = (candidate counter).toUint.toNat := by
    rw [candidate_toNat]
  rw [poolAddress, number, UInt32.ofNat_toNat]

/-! ### Going round -/

theorem hostAfter_mem (counter : UInt16) (n : Nat) : hostAfter counter n ∈ hosts := by
  rw [hosts, Finset.mem_Icc, hostAfter, POOL_SIZE]
  omega

/-- The counter does not wrap through 0: it is reset one short of that. -/
theorem nextCounter_host (ranged : Ranged counter) :
    (nextCounter counter).toNat = hostAfter counter 1 := by
  obtain ⟨low, high⟩ := ranged
  rw [hostAfter, POOL_SIZE]
  by_cases last : counter.toNat = 65534
  · obtain rfl : counter = 65534 := UInt16.toNat_inj.mp last
    rfl
  · rw [nextCounter_toNat (by omega)]
    omega

theorem Ranged.of_host (inside : counter.toNat ∈ hosts) : Ranged counter := by
  obtain ⟨low, high⟩ := Finset.mem_Icc.mp inside
  exact ⟨by omega, high⟩

theorem Ranged.next (ranged : Ranged counter) : Ranged (nextCounter counter) := by
  apply Ranged.of_host
  rw [nextCounter_host ranged]
  exact hostAfter_mem counter 1

theorem hostAfter_next (ranged : Ranged counter) (n : Nat) :
    hostAfter (nextCounter counter) (n + 1) = hostAfter counter (n + 2) := by
  have next := nextCounter_host ranged
  obtain ⟨low, high⟩ := ranged
  rw [hostAfter, next]
  simp only [hostAfter, POOL_SIZE]
  omega

/-- One round meets every host number. -/
theorem hostAfter_covers (ranged : Ranged counter) (inside : host ∈ hosts) :
    ∃ n, 1 ≤ n ∧ n ≤ POOL_SIZE ∧ hostAfter counter n = host := by
  obtain ⟨low, high⟩ := ranged
  obtain ⟨low', high'⟩ := Finset.mem_Icc.mp inside
  by_cases ahead : counter.toNat < host
  · refine ⟨host - counter.toNat, by omega, ?_, ?_⟩ <;> simp only [POOL_SIZE, hostAfter] <;> omega
  · refine ⟨host + 65533 - counter.toNat, by omega, ?_, ?_⟩ <;>
      simp only [POOL_SIZE, hostAfter] <;> omega

/-! ### What the loop does -/

private theorem getNewAddress_passes (taken : poolAddress (nextCounter pool.uniqueAddressCounter).toNat ∈
      pool.uniqueAddressSet) (passes : Nat) :
    getNewAddress false (passes + 1) pool = getNewAddress false passes
      { pool with uniqueAddressCounter := nextCounter pool.uniqueAddressCounter } := by
  rw [getNewAddress, candidate_eq_poolAddress]
  simp [taken]

private theorem getNewAddress_stops (free : poolAddress (nextCounter pool.uniqueAddressCounter).toNat ∉
      pool.uniqueAddressSet) (passes : Nat) :
    getNewAddress false (passes + 1) pool =
      some (.returns (poolAddress (nextCounter pool.uniqueAddressCounter).toNat,
        ⟨nextCounter pool.uniqueAddressCounter,
          insert (poolAddress (nextCounter pool.uniqueAddressCounter).toNat)
            pool.uniqueAddressSet⟩)) := by
  rw [getNewAddress, candidate_eq_poolAddress]
  simp [free]

/-- The loop passes over what is taken and stops at what is free. -/
theorem getNewAddress_meets (ranged : Ranged pool.uniqueAddressCounter)
    (taken : ∀ m, m < n →
      poolAddress (hostAfter pool.uniqueAddressCounter (m + 1)) ∈ pool.uniqueAddressSet)
    (free : poolAddress (hostAfter pool.uniqueAddressCounter (n + 1)) ∉ pool.uniqueAddressSet)
    (passes : Nat) :
    getNewAddress false passes pool =
      if n + 1 ≤ passes then
        some (.returns (poolAddress (hostAfter pool.uniqueAddressCounter (n + 1)),
          ⟨UInt16.ofNat (hostAfter pool.uniqueAddressCounter (n + 1)),
            insert (poolAddress (hostAfter pool.uniqueAddressCounter (n + 1)))
              pool.uniqueAddressSet⟩))
      else none := by
  induction n generalizing pool passes with
  | zero =>
    cases passes with
    | zero => rfl
    | succ passes =>
      rw [← nextCounter_host ranged] at free ⊢
      rw [getNewAddress_stops free, if_pos (by omega), UInt16.ofNat_toNat]
  | succ n ih =>
    cases passes with
    | zero => rfl
    | succ passes =>
      have first := taken 0 (by omega)
      rw [← nextCounter_host ranged] at first
      rw [getNewAddress_passes first, ih ranged.next ?_ ?_]
      · simp only [hostAfter_next ranged, Nat.add_le_add_iff_right]
      · intro m before
        rw [hostAfter_next ranged]
        exact taken (m + 1) (by omega)
      · rw [hostAfter_next ranged]
        exact free

/-- While everything is taken the loop goes on. -/
theorem getNewAddress_spins (ranged : Ranged pool.uniqueAddressCounter)
    (taken : ∀ host ∈ hosts, poolAddress host ∈ pool.uniqueAddressSet) (passes : Nat) :
    getNewAddress false passes pool = none := by
  induction passes generalizing pool with
  | zero => rfl
  | succ passes ih =>
    have first : poolAddress (nextCounter pool.uniqueAddressCounter).toNat ∈
        pool.uniqueAddressSet := by
      rw [nextCounter_host ranged]
      exact taken _ (hostAfter_mem _ 1)
    rw [getNewAddress_passes first]
    exact ih ranged.next taken

/-- With one address free the loop ends within a round, with the first free
address it meets. -/
theorem getNewAddress_selects (ranged : Ranged pool.uniqueAddressCounter)
    (free : ∃ host ∈ hosts, poolAddress host ∉ pool.uniqueAddressSet) :
    ∃ n, 1 ≤ n ∧ n ≤ POOL_SIZE ∧
      poolAddress (hostAfter pool.uniqueAddressCounter n) ∉ pool.uniqueAddressSet ∧
      (∀ m, 1 ≤ m → m < n →
        poolAddress (hostAfter pool.uniqueAddressCounter m) ∈ pool.uniqueAddressSet) ∧
      ∀ passes, getNewAddress false passes pool =
        if n ≤ passes then
          some (.returns (poolAddress (hostAfter pool.uniqueAddressCounter n),
            ⟨UInt16.ofNat (hostAfter pool.uniqueAddressCounter n),
              insert (poolAddress (hostAfter pool.uniqueAddressCounter n)) pool.uniqueAddressSet⟩))
        else none := by
  obtain ⟨host, inside, vacant⟩ := free
  obtain ⟨bound, positive, within, rfl⟩ := hostAfter_covers ranged inside
  have met : ∃ n, poolAddress (hostAfter pool.uniqueAddressCounter (n + 1)) ∉
      pool.uniqueAddressSet := by
    exact ⟨bound - 1, by rwa [Nat.sub_add_cancel positive]⟩
  have earliest : Nat.find met ≤ bound - 1 := by
    apply Nat.find_min' met
    rwa [Nat.sub_add_cancel positive]
  have before : ∀ m, m < Nat.find met →
      poolAddress (hostAfter pool.uniqueAddressCounter (m + 1)) ∈ pool.uniqueAddressSet := by
    intro m earlier
    exact not_not.mp (Nat.find_min met earlier)
  refine ⟨Nat.find met + 1, by omega, by omega, Nat.find_spec met, ?_,
    getNewAddress_meets ranged before (Nat.find_spec met)⟩
  intro m positive earlier
  obtain ⟨m, rfl⟩ : ∃ m', m = m' + 1 := ⟨m - 1, by omega⟩
  exact before m (by omega)

end Vpverk.Addresses

namespace Vpverk.Sessions
open Addresses Transition

variable {control after : Control} {trace : List Observation} {observation : Observation}
  {passes : Nat} {address : AddressV4} {pool pool' : AddressPool}

/-- What the pool is in every run: the counter in its range, and nothing in use
that is not given out. -/
structure WellKept (pool : AddressPool) : Prop where
  ranged : Ranged pool.uniqueAddressCounter
  given : pool.uniqueAddressSet ⊆ hosts.image poolAddress

theorem WellKept.picked (kept : WellKept pool)
    (picked : codeAllocator.pick passes pool = some (address, pool')) : WellKept pool' := by
  have answered : getNewAddress false passes pool = some (.returns (address, pool')) := by
    simp only [codeAllocator] at picked
    split at picked
    · rename_i ended
      rw [ended, Option.some_inj.mp picked]
    · cases picked
  have free : ∃ host ∈ hosts, poolAddress host ∉ pool.uniqueAddressSet := by
    by_contra full
    push Not at full
    rw [getNewAddress_spins kept.ranged full] at answered
    cases answered
  obtain ⟨n, _, _, _, _, ends⟩ := getNewAddress_selects kept.ranged free
  have inside := hostAfter_mem pool.uniqueAddressCounter n
  rw [ends] at answered
  split at answered
  · cases answered
    constructor
    · apply Ranged.of_host
      exact (toNat_ofNat_host inside).symm ▸ inside
    · apply Finset.insert_subset _ kept.given
      exact Finset.mem_image_of_mem _ inside
  · cases answered

/-- The pool is well kept in every run. -/
theorem run_wellKept (run : (system codeAllocator).Run trace control) : WellKept control.pool := by
  revert run
  apply System.Run.reachable
  · rintro _ rfl
    exact ⟨⟨by decide, by decide⟩, by simp [machine]⟩
  · rintro _ _ _ kept ⟨_, stepped⟩
    cases step_effect stepped with
    | accepted | moved | waited | pushedAdd | pushedRemove | eraseThrew | emptied => exact kept
    | obtained _ _ picked => exact kept.picked picked
    | erased => exact ⟨kept.ranged, (Finset.erase_subset _ _).trans kept.given⟩

/-- **Address selection.** In every run, and whatever else is in use as long as
one address is free: the loop of `getNewAddress` ends within a round, with the
first free address met going upward from the counter and round the addresses
that are given out; the address is added to the set and the counter is left at
its low half. On its way the counter stays within 1 and 65534. -/
theorem address_selection (run : (system codeAllocator).Run trace control)
    (taken : Finset AddressV4) (free : ∃ host ∈ hosts, poolAddress host ∉ taken) :
    (∀ n, Ranged (nextCounter^[n] control.pool.uniqueAddressCounter)) ∧
    ∃ n address after, 1 ≤ n ∧ n ≤ POOL_SIZE ∧
      (∀ passes, getNewAddress false passes ⟨control.pool.uniqueAddressCounter, taken⟩ =
        if n ≤ passes then some (.returns (address, after)) else none) ∧
      address = poolAddress (hostAfter control.pool.uniqueAddressCounter n) ∧
      hostAfter control.pool.uniqueAddressCounter n ∈ hosts ∧
      address ∉ taken ∧
      (∀ m, 1 ≤ m → m < n →
        poolAddress (hostAfter control.pool.uniqueAddressCounter m) ∈ taken) ∧
      after.uniqueAddressSet = insert address taken ∧
      after.uniqueAddressCounter = address.toUint.toUInt16 ∧
      Ranged after.uniqueAddressCounter := by
  have ranged := (run_wellKept run).ranged
  constructor
  · intro n
    induction n with
    | zero => exact ranged
    | succ n ih =>
      rw [Function.iterate_succ_apply']
      exact ih.next
  · have ranged' : Ranged (AddressPool.mk control.pool.uniqueAddressCounter taken).uniqueAddressCounter :=
      ranged
    obtain ⟨n, positive, within, vacant, before, ends⟩ :=
      getNewAddress_selects ranged' free
    have inside := hostAfter_mem control.pool.uniqueAddressCounter n
    refine ⟨n, _, _, positive, within, ends, rfl, inside, vacant, before, rfl,
      (poolAddress_low inside).symm, ?_⟩
    apply Ranged.of_host
    exact (toNat_ofNat_host inside).symm ▸ inside

/-- The counter at its last value and the whole upper end in use. -/
theorem address_selection_goes_round :
    ∃ n address after, n ≤ POOL_SIZE ∧ address = poolAddress (hostAfter 1 n) ∧
      after.uniqueAddressCounter = address.toUint.toUInt16 ∧
      ∀ passes, getNewAddress false passes ⟨1, {⟨0x0A7B0002⟩}⟩ =
        if n ≤ passes then some (.returns (address, after)) else none := by
  have free : ∃ host ∈ hosts, poolAddress host ∉ ({⟨0x0A7B0002⟩} : Finset AddressV4) :=
    ⟨3, by simp [hosts], by decide⟩
  obtain ⟨n, address, after, _, within, ends, which, _, _, _, _, counter, _⟩ :=
    (address_selection (System.Run.start rfl) _ free).2
  exact ⟨n, address, after, within, which, counter, ends⟩

/-! ### When the loop ends -/

/-- An address is given out when `getNewAddress` is called next exactly if one
is free. -/
theorem WellKept.ends_iff (kept : WellKept pool) :
    (∃ passes answer, getNewAddress false passes pool = some (.returns answer)) ↔
      ∃ host ∈ hosts, poolAddress host ∉ pool.uniqueAddressSet := by
  constructor
  · rintro ⟨passes, answer, returned⟩
    by_contra full
    push Not at full
    rw [getNewAddress_spins kept.ranged full] at returned
    cases returned
  · intro free
    obtain ⟨n, _, _, _, _, ends⟩ := getNewAddress_selects kept.ranged free
    exact ⟨n, _, by rw [ends, if_pos (Nat.le_refl n)]⟩

/-- One is free exactly if fewer are in use than there are. -/
theorem WellKept.free_iff (kept : WellKept pool) :
    (∃ host ∈ hosts, poolAddress host ∉ pool.uniqueAddressSet) ↔
      pool.uniqueAddressSet.card < POOL_SIZE := by
  have size : (hosts.image poolAddress).card = POOL_SIZE := by
    rw [Finset.card_image_of_injOn]
    · simp [hosts, POOL_SIZE]
    · intro host inside other inside' same
      exact poolAddress_injective inside inside' same
  rw [← size]
  constructor
  · rintro ⟨host, inside, vacant⟩
    apply Finset.card_lt_card
    refine ⟨kept.given, ?_⟩
    intro every
    exact vacant (every (Finset.mem_image_of_mem _ inside))
  · intro fewer
    by_contra full
    push Not at full
    have every : hosts.image poolAddress ⊆ pool.uniqueAddressSet := by
      intro address member
      obtain ⟨host, inside, rfl⟩ := Finset.mem_image.mp member
      exact full host inside
    exact absurd (Finset.card_le_card every) (by omega)

/-- **When address allocation ends.** In every state of every run: a call of
`getNewAddress` comes back exactly if some address that is given out is held by
no session, which is to say if fewer than 65533 are in use. Otherwise its loop
goes on for ever, with `unique_address_mutex` locked. -/
theorem allocation_ends_iff (run : (system codeAllocator).Run trace control) :
    ((∃ passes answer, getNewAddress false passes control.pool = some (.returns answer)) ↔
      ∃ host ∈ hosts, ∀ sid, ¬ Holds trace sid (poolAddress host)) ∧
    ((∃ host ∈ hosts, ∀ sid, ¬ Holds trace sid (poolAddress host)) ↔
      control.pool.uniqueAddressSet.card < POOL_SIZE) ∧
    ((∀ host ∈ hosts, ∃ sid, Holds trace sid (poolAddress host)) →
      ∀ passes, getNewAddress false passes control.pool = none) := by
  have kept := run_wellKept run
  have held : (∃ host ∈ hosts, ∀ sid, ¬ Holds trace sid (poolAddress host)) ↔
      ∃ host ∈ hosts, poolAddress host ∉ control.pool.uniqueAddressSet := by
    simp only [(run_owned run).taken, not_exists]
  rw [held]
  refine ⟨kept.ends_iff, kept.free_iff, ?_⟩
  intro full passes
  apply getNewAddress_spins kept.ranged
  intro host inside
  exact ((run_owned run).taken _).mpr (full host inside)

theorem allocation_ends_at_start :
    ∃ passes answer, getNewAddress false passes {} = some (.returns answer) := by
  have nobody : ∃ host ∈ hosts, ∀ sid, ¬ Holds [] sid (poolAddress host) :=
    ⟨2, by simp [hosts], by simp [Holds]⟩
  have run : (system codeAllocator).Run [] {} := System.Run.start rfl
  exact (allocation_ends_iff run).1.mpr nobody

/-! ### Every address held -/

/-- A session that has been let in stands before `getNewAddress`. -/
theorem run_admits (run : (system codeAllocator).Run trace control) :
    ∃ trace' control', (system codeAllocator).Run trace' control' ∧
      control'.pool = control.pool ∧
      ∃ session, control'.sessions[control.sessions.length]? = some session ∧
        session.pc = .obtaining := by
  have admitted : ∃ trace' control', (machine codeAllocator).replay control
      [.accept, .resume control.sessions.length (.authenticated true)] = some (trace', control') ∧
      control'.pool = control.pool ∧
      ∃ session, control'.sessions[control.sessions.length]? = some session ∧
        session.pc = .obtaining := by
    simp [Machine.replay, machine, step, startConnection, Control.put]
  obtain ⟨trace', control', replayed, same, waits⟩ := admitted
  exact ⟨_, control', run.extend (Machine.replay_steps replayed), same, waits⟩

/-- As long as an address is free, one more session comes to hold one. -/
private theorem run_takes (run : (system codeAllocator).Run trace control)
    (fewer : control.pool.uniqueAddressSet.card < POOL_SIZE) :
    ∃ trace' control', (system codeAllocator).Run trace' control' ∧
      control'.pool.uniqueAddressSet.card = control.pool.uniqueAddressSet.card + 1 := by
  obtain ⟨trace', control', run', same, session, at', pc⟩ := run_admits run
  have kept := run_wellKept run'
  rw [← same] at fewer ⊢
  obtain ⟨passes, ⟨address, pool⟩, returned⟩ := kept.ends_iff.mpr (kept.free_iff.mpr fewer)
  have picked : codeAllocator.pick passes control'.pool = some (address, pool) := by
    simp [codeAllocator, returned]
  obtain ⟨vacant, grown⟩ := codeAllocator.free picked
  have stepped : (machine codeAllocator).step control'
      (.resume control.sessions.length (.picks passes)) = some ({ control'.put control.sessions.length
          { session with pc := .sendingIp, assignedAddress := some address } with pool := pool },
        .act control.sessions.length (.obtain address)) := by
    simp only [machine, step, at', startConnection, pc, picked]
  refine ⟨_, _, run'.next ⟨_, stepped⟩, ?_⟩
  simp [grown, Finset.card_insert_of_notMem vacant]

private theorem run_holding {count : Nat} (within : count ≤ POOL_SIZE) :
    ∃ trace control, (system codeAllocator).Run trace control ∧
      control.pool.uniqueAddressSet.card = count := by
  induction count with
  | zero => exact ⟨[], {}, System.Run.start rfl, rfl⟩
  | succ count ih =>
    obtain ⟨trace, control, run, rfl⟩ := ih (by omega)
    exact run_takes run within

/-- A session calls `getNewAddress` when 65533 others hold all the addresses,
and the call does not come back. -/
theorem allocation_spins :
    ∃ trace control, ∃ sid : Nat, ∃ session, (system codeAllocator).Run trace control ∧
      control.sessions[sid]? = some session ∧ session.pc = .obtaining ∧
      ∀ passes, getNewAddress false passes control.pool = none := by
  obtain ⟨trace, control, run, full⟩ := run_holding (Nat.le_refl POOL_SIZE)
  obtain ⟨trace', control', run', same, session, at', pc⟩ := run_admits run
  refine ⟨trace', control', _, session, run', at', pc, ?_⟩
  have kept := run_wellKept run'
  apply getNewAddress_spins kept.ranged
  by_contra some_free
  push Not at some_free
  have := kept.free_iff.mp some_free
  rw [same] at this
  omega

end Vpverk.Sessions
