import Vpverk.TunOrder

/-! Whether a write in flight can be cancelled. `write` looks at `it_is_read_lock`,
gives up its turn to get onto the strand, and calls `tun.cancel()` without looking
again; by then the read may be over and another write in flight. -/
namespace Vpverk.TunSchedule
open Octets Asioapi Transition Flags TunLocks

variable {Writer : Type}

/-- No `tun.cancel()` ends a write. -/
def Spares : Label (Party Writer) → Prop
  | .cancels _ struck => ∀ writer, some writer ∉ struck
  | _ => True

def Spared (shown : Shown Writer) : Prop := ∀ label ∈ shown, Spares label

/-- Before a `tun.cancel()`, whoever calls it, a second look finds no write in flight. -/
def Rechecks (before : Context Writer) (shown : Shown Writer) : Prop :=
  ∀ caller struck, .cancels caller struck ∈ shown → Rechecked before.tun

variable [DecidableEq Writer] {lib : Library} {ctx ctx' : Context Writer}
  {trace : List (Shown Writer)} {shown : Shown Writer}

/-- A `tun.cancel()` is a call of a function of the strand that stands first in the queue. -/
private theorem cancels_found {caller : Option (Party Writer)} {struck : List (Party Writer)}
    (step : (system Writer lib).step ctx shown ctx') (cancels : .cancels caller struck ∈ shown) :
    struck = ctx.tun.operations ∧
      ∃ task ∈ ctx.ready, ∃ function, task.function = some function ∧ function.cancels caller := by
  obtain ⟨event, stepped⟩ := step
  rcases step_shown stepped _ cancels with plain | ⟨_, _, _, same⟩ |
    ⟨task, rest, function, caller', front, runs, calls, same⟩
  · exact plain.elim
  · cases same
  · cases same
    exact ⟨rfl, task, by simp [front], function, runs, calls⟩

theorem spared_iff (run : (system Writer lib).Run trace ctx)
    (step : (system Writer lib).step ctx shown ctx') : Spared shown ↔ Rechecks ctx shown := by
  constructor
  · intro spared caller struck cancels
    obtain ⟨rfl, _⟩ := cancels_found step cancels
    exact (rechecked_iff run).mpr (spared _ cancels)
  · intro rechecks label member
    cases label with
    | cancels caller struck =>
      obtain ⟨rfl, _⟩ := cancels_found step member
      exact (rechecked_iff run).mp (rechecks _ _ member)
    | _ => trivial

/-- Where functions of the strand take places of their own, the callback of the
timer comes while the read it was armed for still has its tokens. -/
theorem timer_rechecks {struck : List (Party Writer)} (places : lib.strand = .places)
    (run : (system Writer lib).Run trace ctx) (step : (system Writer lib).step ctx shown ctx')
    (cancels : .cancels none struck ∈ shown) : Rechecked ctx.tun := by
  obtain ⟨_, task, member, function, runs, calls⟩ := cancels_found step cancels
  have expired : task.Expired := by
    cases function with
    | post party => cases calls
    | handler party => exact calls.elim
    | timer canceled =>
      cases canceled with
      | false => exact runs
      | true => exact calls.elim
  have read := ((run_sound places run).due task member expired).2
  exact .inl (((run_reached run).kept.up_iff .itIsReadLock).mpr ⟨none, read⟩)

/-- Where futures are posted too, no write starts before the others that saw the
same read have cancelled. -/
theorem write_rechecks {writer : Party Writer} {struck : List (Party Writer)}
    (places : lib.strand = .places) (posted : lib.Posts)
    (run : (system Writer lib).Run trace ctx) (step : (system Writer lib).step ctx shown ctx')
    (cancels : .cancels (some writer) struck ∈ shown) : Rechecked ctx.tun := by
  obtain ⟨_, task, member, function, runs, calls⟩ := cancels_found step cancels
  have post : task.Posted := by
    cases function with
    | post party => exact ⟨party, runs⟩
    | handler party => exact calls.elim
    | timer canceled => cases canceled <;> cases calls
  apply (rechecked_iff run).mpr
  intro other among
  have reached := run_reached run
  obtain ⟨kind, waits⟩ := (reached.inFlight.mem _).mp among
  have plays : Plays (some other) kind := reached.plays _ _ (by rw [waits]; rfl)
  cases kind with
  | read => exact plays
  | write ipPacket => exact (run_sound places run).spares posted task member post _ ⟨ipPacket, waits⟩

/-- **No write in flight is cancelled** in exactly the runs in which each call of
`tun.cancel()` comes while `it_is_read_lock` is set, or `lock_` is free, or nothing
is in flight. The timer calls it only so where each function of the strand takes a
place of its own in the ready queue, and a write too where futures are posted. In
such a run no handler kills the process over a write that was cancelled. -/
theorem write_uncancelled (run : (system Writer lib).Run trace ctx) :
    ((∀ shown ∈ trace, Spared shown) ↔ ((system Writer lib).guarded Rechecks).Run trace ctx) ∧
    (lib.strand = .places → ∀ struck, .cancels none struck ∈ trace.flatten →
      ∀ writer, some writer ∉ struck) ∧
    (lib.strand = .places → lib.Posts → ∀ shown ∈ trace, Spared shown) ∧
    ((∀ shown ∈ trace, Spared shown) → ∀ writer completion,
      .aborts (some writer) completion ∈ trace.flatten →
        completion.code ≠ some .operationCanceled) := by
  refine ⟨run.guarded_iff fun _ _ _ _ run step => spared_iff run step, fun places struck cancels => ?_,
    fun places posted shown among => ?_, fun spared writer completion aborts code => ?_⟩
  · obtain ⟨shown, among, cancels⟩ := List.mem_flatten.mp cancels
    obtain ⟨earlier, later, split⟩ := List.append_of_mem among
    obtain ⟨before, after, run', step, _⟩ := run.entry split
    obtain ⟨rfl, _⟩ := cancels_found step cancels
    exact (rechecked_iff run').mp (timer_rechecks places run' step cancels)
  · obtain ⟨earlier, later, split⟩ := List.append_of_mem among
    obtain ⟨before, after, run', step, _⟩ := run.entry split
    apply (spared_iff run' step).mpr
    intro caller struck cancels
    cases caller with
    | none => exact timer_rechecks places run' step cancels
    | some writer => exact write_rechecks places posted run' step cancels
  · obtain ⟨caller, struck, cancels, member⟩ := aborts_canceled (run_fine run) aborts code
    obtain ⟨shown, among, cancels⟩ := List.mem_flatten.mp cancels
    exact spared shown among _ cancels writer member

/-- A read is under way when a write comes and cancels it. Two more writes see the
read before it returns, and the first write starts. -/
def lateWrite : List (Event Nat) :=
  [.read, .next, .next, .write 2 [0x45], .next, .next, .next, .next, .write 3 [0x46],
    .write 1 [0x47], .next, .next, .next, .next, .next, .next, .next]

theorem write_uncancelled_places :
    ∃ trace ctx, ((system Nat ⟨.posted, .posted, .places⟩).guarded Rechecks).Run trace ctx ∧
      some 2 ∈ ctx.tun.operations ∧ ∀ shown ∈ trace, Spared shown := by
  have replayed : (machine Nat ⟨.posted, .posted, .places⟩).replay
      (machine Nat ⟨.posted, .posted, .places⟩).initial lateWrite = some (_, _) := rfl
  have run := Machine.replay_run replayed
  obtain ⟨exactly, _, spares, _⟩ := write_uncancelled run
  have spared := spares rfl ⟨rfl, rfl⟩
  exact ⟨_, _, exactly.mp spared, by decide, spared⟩

/-- The same with one write less. -/
def lateWriteAtOnce : List (Event Nat) :=
  [.read, .next, .write 2 [0x45], .next, .next, .next, .next, .write 1 [0x46], .next, .next, .next,
    .next]

/-- The last write ends the first one, whose handler kills the process: where the
strand takes turns, and where futures resume at once. -/
theorem late_write_cancels :
    (∃ trace ctx, (system Nat ⟨.posted, .posted, .turns⟩).Run trace ctx ∧
      .cancels (some (some 1)) [some 2] ∈ trace.flatten ∧
      .aborts (some 2) canceled ∈ trace.flatten) ∧
    ∃ trace ctx, (system Nat ⟨.atOnce, .atOnce, .places⟩).Run trace ctx ∧
      .cancels (some (some 1)) [some 2] ∈ trace.flatten ∧
      .aborts (some 2) canceled ∈ trace.flatten := by
  have turns : (machine Nat ⟨.posted, .posted, .turns⟩).replay (machine Nat ⟨.posted, .posted, .turns⟩).initial
      (lateWrite ++ [.next]) = some (_, _) := rfl
  have atOnce : (machine Nat ⟨.atOnce, .atOnce, .places⟩).replay (machine Nat ⟨.atOnce, .atOnce, .places⟩).initial
      lateWriteAtOnce = some (_, _) := rfl
  exact ⟨⟨_, _, Machine.replay_run turns, by decide, by decide⟩,
    ⟨_, _, Machine.replay_run atOnce, by decide, by decide⟩⟩

end Vpverk.TunSchedule
