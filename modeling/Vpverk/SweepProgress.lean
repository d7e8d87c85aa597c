import Mathlib.Data.List.Nodup
import Mathlib.Data.List.Perm.Subperm
import Vpverk.SweepBookkeeping

/-! How far a sweep gets while others move the connections about. An element that is
moved only ever moves to the front, behind the back of every sweep that has passed it:
so no sweep meets a connection twice. It may move behind the back of one that has not,
which another sweep is then to find. -/
namespace Vpverk.SweepBookkeeping
open Transition Vpverk.Sweep

/-- How many elements of the vector the sweep has behind it. -/
def Sweep.reach (sweep : Sweep) : Nat :=
  match sweep.pc with
  | .aging _ | .removing _ _ => sweep.i + 1
  | _ => sweep.i

/-! ### What a step does to the vector and to a sweep -/

/-- A step by which no sweep looks at a connection, and none comes or goes. -/
def Label.Still : Label → Prop
  | .accepted _ | .probed _ _ _ | .removed _ _ => False
  | _ => True

inductive Effect (control : Control) : Control → Label → Prop where
  | still {after label} (connections : after.connections = control.connections)
      (accepted : after.accepted = control.accepted) (sweeps : after.sweeps = control.sweeps)
      (still : label.Still) : Effect control after label
  | starts {after label} (connections : after.connections = control.connections)
      (accepted : after.accepted = control.accepted)
      (sweeps : after.sweeps = control.sweeps ++ [{ pc := .requesting }]) (still : label.Still) :
      Effect control after label
  | accepts {after} (connections : after.connections = control.connections ++ [control.accepted])
      (accepted : after.accepted = control.accepted + 1)
      (sweeps : after.sweeps = control.sweeps ∨ after.sweeps = control.sweeps ++ [{ pc := .requesting }]) :
      Effect control after (.accepted control.accepted)
  /-- A sweep goes on, or comes back to a vector that has become shorter. -/
  | moves {after label k sweep changed} (stands : control.sweeps[k]? = some sweep)
      (connections : after.connections = control.connections)
      (accepted : after.accepted = control.accepted)
      (sweeps : after.sweeps = control.sweeps.set k changed) (still : label.Still)
      (begun : changed.pc ≠ .requesting) (live : sweep.pc ≠ .ended) (back : changed.reach ≤ sweep.reach)
      (kept : min sweep.reach control.connections.length ≤ changed.reach) :
      Effect control after label
  | probes {after k sweep changed conn answer} (stands : control.sweeps[k]? = some sweep)
      (there : control.connections[sweep.reach]? = some conn)
      (connections : after.connections = control.connections)
      (accepted : after.accepted = control.accepted)
      (sweeps : after.sweeps = control.sweeps.set k changed)
      (begun : changed.pc ≠ .requesting) (live : sweep.pc ≠ .ended)
      (past : changed.reach = sweep.reach + 1) : Effect control after (.probed k conn answer)
  | removes {after k sweep changed conn} (stands : control.sweeps[k]? = some sweep)
      (there : control.connections[sweep.i]? = some conn)
      (removed : swapRemove control.connections sweep.i = some after.connections)
      (accepted : after.accepted = control.accepted)
      (sweeps : after.sweeps = control.sweeps.set k changed)
      (begun : changed.pc ≠ .requesting) (live : sweep.pc ≠ .ended)
      (past : sweep.reach = sweep.i + 1) (back : changed.reach = sweep.i) :
      Effect control after (.removed k conn)

variable {trace : List Label} {control after : Control} {k other : Nat} {sweep changed found : Sweep}
  {label : Label} {conn : Nat} {event : Event}

/-- A sweep goes on and has as much behind it as before. -/
private theorem Effect.goes (stands : control.sweeps[k]? = some sweep)
    (connections : after.connections = control.connections)
    (accepted : after.accepted = control.accepted)
    (sweeps : after.sweeps = control.sweeps.set k changed) (still : label.Still)
    (begun : changed.pc ≠ .requesting) (live : sweep.pc ≠ .ended)
    (same : changed.reach = sweep.reach) : Effect control after label :=
  .moves stands connections accepted sweeps still begun live (Nat.le_of_eq same) (by omega)

private theorem run_effect (work : AtWork trace control.connections k sweep)
    (stands : control.sweeps[k]? = some sweep)
    (ran : run control k sweep sweep.pc event = some (after, label)) : Effect control after label := by
  unfold AtWork at work
  cases here : sweep.pc with
  | requesting | closing | ended => simp [here] at work
  | looping | indexing | calling =>
    rw [here] at ran
    cases event with
    | goesOn =>
      dsimp only [run] at ran
      first
      | split at ran <;> cases ran
      | cases ran
      all_goals first
      | exact .goes stands rfl rfl rfl trivial (by simp) (by simp [here]) (by simp [Sweep.reach, here])
      | exact .still rfl rfl rfl trivial
    | _ => cases ran
  | probing conn =>
    rw [here] at ran work
    have there : control.connections[sweep.reach]? = some conn := by rwa [Sweep.reach, here]
    cases event with
    | probe answer =>
      match answer with
      | .error what =>
        cases ran
        exact .still rfl rfl rfl trivial
      | .ok none | .ok (some false) | .ok (some true) =>
        cases ran
        exact .probes stands there rfl rfl rfl (by simp) (by simp [here]) (by simp [Sweep.reach, here])
    | _ => cases ran
  | aging conn =>
    rw [here] at ran
    cases event with
    | age aliveTime =>
      dsimp only [run] at ran
      split at ran <;> cases ran <;>
        exact .goes stands rfl rfl rfl trivial (by simp) (by simp [here]) (by simp [Sweep.reach, here])
    | _ => cases ran
  | removing conn reason =>
    rw [here] at ran work
    cases event with
    | goesOn =>
      obtain ⟨left, removed, _⟩ := swapRemove_perm work.1
      dsimp only [run] at ran
      rw [work.1, removed] at ran
      cases ran
      exact .removes stands work.1 removed rfl rfl (by simp) (by simp [here]) (by simp [Sweep.reach, here])
        rfl
    | _ => cases ran

theorem step_effect (sound : Sound trace control) (stepped : step control event = some (after, label)) :
    Effect control after label := by
  obtain ⟨lives, takes⟩ := step_takes stepped
  generalize emitted : (after, label) = result at takes
  cases takes with
  | runs runs stands ran =>
    subst emitted
    obtain ⟨same, known, work⟩ := sound.work lives _ runs
    obtain rfl := Option.some.inj (known.symm.trans stands)
    exact run_effect work stands ran
  | accepts =>
    unfold Control.accept at emitted
    dsimp only at emitted
    split at emitted <;> cases emitted
    · exact .accepts rfl rfl (.inr rfl)
    · exact .accepts rfl rfl (.inl rfl)
  | starts =>
    cases emitted
    exact .starts rfl rfl rfl trivial
  | answered _ stands requesting =>
    cases emitted
    exact .goes stands rfl rfl rfl trivial (by simp) (by simp [requesting])
      (by simp [Sweep.reach, requesting])
  | @returned k sweep _ stands closing =>
    cases emitted
    have before : sweep.reach = sweep.i := by simp [Sweep.reach, closing]
    refine .moves stands rfl rfl rfl trivial (by simp) (by simp [closing]) ?_ ?_
    · rw [before]
      exact Nat.min_le_left ..
    · rw [before]
      exact Nat.le_refl _
  | fails =>
    cases emitted
    exact .still rfl rfl rfl trivial

/-! ### What the books say of places -/

theorem Sound.known (sound : Sound trace control) {place : Nat}
    (there : control.connections[place]? = some conn) : conn < control.accepted := by
  have books := sound.books conn
  have once : 0 < control.connections.count conn := List.count_pos_iff.mpr (List.mem_of_getElem? there)
  by_contra unknown
  rw [if_neg unknown] at books
  omega

theorem Sound.place (sound : Sound trace control) {place place' : Nat}
    (there : control.connections[place]? = some conn)
    (there' : control.connections[place']? = some conn) : place = place' := by
  have nodup : control.connections.Nodup := by
    apply List.nodup_iff_count_le_one.mpr
    intro conn
    have books := sound.books conn
    split at books <;> omega
  obtain ⟨inside, _⟩ := List.getElem?_eq_some_iff.mp there
  exact (List.getElem?_inj inside nodup).mp (there.trans there'.symm)

private theorem sweeps_set (sweeps : after.sweeps = control.sweeps.set other changed)
    (stands : after.sweeps[k]? = some found) :
    (k = other ∧ found = changed) ∨ (k ≠ other ∧ control.sweeps[k]? = some found) := by
  rw [sweeps, List.getElem?_set] at stands
  split at stands
  · rename_i same
    split at stands <;> cases stands
    exact .inl ⟨same.symm, rfl⟩
  · rename_i differs
    exact .inr ⟨Ne.symm differs, stands⟩

private theorem sweeps_append (sweeps : after.sweeps = control.sweeps ++ [{ pc := .requesting }])
    (stands : after.sweeps[k]? = some found) :
    control.sweeps[k]? = some found ∨ (control.sweeps.length ≤ k ∧ found = { pc := .requesting }) := by
  rw [sweeps, List.getElem?_append] at stands
  split at stands
  · exact .inl stands
  · rename_i outside
    exact .inr ⟨by omega, by simpa using (List.mem_of_getElem? stands)⟩

/-! ### No connection is met twice -/

/-- Another sweep's probe, or none. -/
theorem probes_other (quiet : ∀ conn answer, label ≠ .probed k conn answer) :
    probes k (trace ++ [label]) = probes k trace := by
  cases label with
  | probed sweep conn answer =>
    have differs : sweep ≠ k := by
      rintro rfl
      exact quiet conn answer rfl
    simp [probes, differs]
  | _ => simp [probes]

theorem probes_self (answer : Option Bool) :
    probes k (trace ++ [.probed k conn answer]) = probes k trace ++ [conn] := by
  simp [probes]

/-- Whom a sweep has looked at after a probe of any sweep. -/
theorem mem_probed {j seen : Nat} {answer : Option Bool} :
    seen ∈ probes k (trace ++ [.probed j conn answer]) ↔
      seen ∈ probes k trace ∨ k = j ∧ seen = conn := by
  by_cases same : k = j
  · subst same
    simp [probes_self]
  · rw [probes_other (by rintro _ _ ⟨⟩; exact same rfl)]
    simp [same]

theorem Label.Still.quiet (still : label.Still) (conn : Nat) (answer : Option Bool) :
    label ≠ .probed k conn answer := by
  rintro rfl
  exact still

/-- What a sweep has looked at and is still in the vector stands behind it. -/
structure Once (trace : List Label) (control : Control) : Prop where
  begun : ∀ k, control.sweeps.length ≤ k → probes k trace = []
  nodup : ∀ k, (probes k trace).Nodup
  known : ∀ k, ∀ conn ∈ probes k trace, conn < control.accepted
  behind : ∀ k sweep, control.sweeps[k]? = some sweep → ∀ conn ∈ probes k trace, ∀ place,
    control.connections[place]? = some conn → place < sweep.reach

/-- A step without a probe of its own keeps what each sweep has looked at. -/
private theorem Once.quiet (once : Once trace control)
    (quiet : ∀ k conn answer, label ≠ .probed k conn answer)
    (fewer : control.sweeps.length ≤ after.sweeps.length) (accepted : control.accepted ≤ after.accepted)
    (behind : ∀ k sweep, after.sweeps[k]? = some sweep → ∀ conn ∈ probes k trace, ∀ place,
      after.connections[place]? = some conn → place < sweep.reach) : Once (trace ++ [label]) after := by
  have same : ∀ k, probes k (trace ++ [label]) = probes k trace := fun k => probes_other (quiet k)
  refine ⟨fun k outside => ?_, fun k => ?_, fun k conn seen => ?_, fun k sweep stands conn seen => ?_⟩
  · rw [same]
    exact once.begun k (Nat.le_trans fewer outside)
  · rw [same]
    exact once.nodup k
  · exact Nat.lt_of_lt_of_le (once.known k conn (same k ▸ seen)) accepted
  · exact behind k sweep stands conn (same k ▸ seen)

private theorem Once.unbegun (once : Once trace control) (outside : control.sweeps.length ≤ k) :
    conn ∉ probes k trace := by
  rw [once.begun k outside]
  exact List.not_mem_nil

theorem once_preserved (sound : Sound trace control) (once : Once trace control)
    (effect : Effect control after label) : Once (trace ++ [label]) after := by
  cases effect with
  | still connections accepted sweeps still =>
    refine once.quiet (fun k => still.quiet) (by simp [sweeps]) (Nat.le_of_eq accepted.symm) ?_
    rw [connections, sweeps]
    exact once.behind
  | starts connections accepted sweeps still =>
    refine once.quiet (fun k => still.quiet) (by simp [sweeps]) (Nat.le_of_eq accepted.symm) ?_
    intro k sweep stands conn seen
    rw [connections]
    rcases sweeps_append sweeps stands with stood | ⟨outside, _⟩
    · exact once.behind k sweep stood conn seen
    · exact absurd seen (once.unbegun outside)
  | accepts connections accepted sweeps =>
    refine once.quiet (by simp) ?_ (by omega) ?_
    · rcases sweeps with sweeps | sweeps <;> simp [sweeps]
    · intro k sweep stands conn seen place there
      have old : control.connections[place]? = some conn := by
        rw [connections, List.getElem?_append] at there
        split at there
        · exact there
        · have new : conn = control.accepted := by simpa using List.mem_of_getElem? there
          have := once.known k conn seen
          omega
      have stood : control.sweeps[k]? = some sweep := by
        rcases sweeps with sweeps | sweeps
        · rwa [sweeps] at stands
        · rcases sweeps_append sweeps stands with stood | ⟨outside, _⟩
          · exact stood
          · exact absurd seen (once.unbegun outside)
      exact once.behind k sweep stood conn seen place old
  | @moves _ j sweep changed stood connections accepted sweeps still _ _ _ kept =>
    refine once.quiet (fun k => still.quiet) (by simp [sweeps]) (Nat.le_of_eq accepted.symm) ?_
    intro k found stands conn seen place there
    rw [connections] at there
    rcases sweeps_set sweeps stands with ⟨rfl, rfl⟩ | ⟨_, stands⟩
    · have before := once.behind k sweep stood conn seen place there
      obtain ⟨inside, _⟩ := List.getElem?_eq_some_iff.mp there
      omega
    · exact once.behind k found stands conn seen place there
  | @probes j sweep changed conn answer stood there connections accepted sweeps _ _ past =>
    have begun : j < control.sweeps.length := (List.getElem?_eq_some_iff.mp stood).1
    refine ⟨fun k outside => ?_, fun k => ?_, fun k seen member => ?_, fun k found stands => ?_⟩
    · rw [sweeps, List.length_set] at outside
      rw [probes_other (by rintro _ _ ⟨⟩; omega)]
      exact once.begun k outside
    · by_cases same : k = j
      · subst same
        have fresh : conn ∉ SweepBookkeeping.probes k trace := fun seen =>
          Nat.lt_irrefl _ (once.behind k sweep stood conn seen _ there)
        rw [probes_self]
        exact List.concat_eq_append ▸ (once.nodup k).concat fresh
      · rw [probes_other (by rintro _ _ ⟨⟩; exact same rfl)]
        exact once.nodup k
    · rw [accepted]
      rcases mem_probed.mp member with old | ⟨rfl, rfl⟩
      · exact once.known k seen old
      · exact sound.known there
    · intro seen member place at'
      rw [connections] at at'
      rcases sweeps_set sweeps stands with ⟨rfl, rfl⟩ | ⟨differs, stands⟩ <;>
        rcases mem_probed.mp member with old | ⟨same, rfl⟩
      · rw [past]
        exact Nat.lt_succ_of_lt (once.behind k sweep stood seen old place at')
      · rw [past, sound.place at' there]
        exact Nat.lt_succ_self _
      · exact once.behind k found stands seen old place at'
      · exact absurd same differs
  | @removes j sweep changed conn stood there removed accepted sweeps _ _ past back =>
    refine once.quiet (by simp) (by simp [sweeps]) (Nat.le_of_eq accepted.symm) ?_
    intro k found stands seen member place at'
    obtain ⟨before, stood', further, differs, _⟩ := swapRemove_getElem? removed at'
    rcases sweeps_set sweeps stands with ⟨rfl, rfl⟩ | ⟨_, stands⟩
    · have := once.behind k sweep stood seen member before stood'
      omega
    · exact Nat.lt_of_le_of_lt further (once.behind k found stands seen member before stood')

theorem run_once (run : system.Run trace control) : Once trace control := by
  refine run.invariant ?_ ?_
  · rintro _ rfl
    constructor <;> simp [machine, probes]
  · rintro trace before label after earlier once ⟨event, stepped⟩
    have sound := system_sound earlier
    exact once_preserved sound once (step_effect sound stepped)

/-- **No sweep meets a connection twice.** However many sweeps run, and whatever is
accepted and taken out while they wait: a sweep calls `is_active` of a connection at most
once, and so no more often than connections have been accepted. -/
theorem probed_once (run : system.Run trace control) (k : Nat) :
    (probes k trace).Nodup ∧ (probes k trace).length ≤ control.accepted := by
  have once := run_once run
  refine ⟨once.nodup k, ?_⟩
  have below : probes k trace ⊆ List.range control.accepted :=
    fun conn seen => List.mem_range.mpr (once.known k conn seen)
  simpa using ((once.nodup k).subperm below).length_le

/-- Two sweeps among three clients. -/
theorem probed_once_two_sweeps : ∃ trace control, system.Run trace control ∧
    probes 1 trace = [0, 2] ∧ (probes 1 trace).length ≤ control.accepted := by
  have run := Machine.replay_run (show machine.replay machine.initial threeClients = some (_, _) from rfl)
  exact ⟨_, _, run, rfl, (probed_once run 1).2⟩

/-! ### A sweep that is alone finds every connection -/

/-- Nobody but the sweep takes connections out while it is under way. -/
def Alone (k : Nat) (control : Control) : Label → Prop
  | .removed sweep _ => sweep = k ∨
    ∀ own ∈ control.sweeps[k]?, own.pc = .requesting ∨ own.pc = .ended
  | _ => True

instance : ∀ control label, Decidable (Alone k control label)
  | control, .removed sweep _ => inferInstanceAs (Decidable (sweep = k ∨
      ∀ own ∈ control.sweeps[k]?, own.pc = .requesting ∨ own.pc = .ended))
  | _, .accepted _ | _, .answered _ _ | _, .probed _ _ _ | _, .aged _ _ _ | _, .closes _ _ _
  | _, .aborts _ | _, .undefined | _, .quiet => inferInstanceAs (Decidable True)

/-- What a sweep that is under way has behind it, it has looked at. -/
structure SeenBy (probed connections : List Nat) (sweep : SweepBookkeeping.Sweep) : Prop where
  idle : sweep.pc = .requesting → sweep.i = 0
  inside : sweep.pc ≠ .ended → sweep.reach ≤ connections.length
  behind : sweep.pc ≠ .ended → ∀ place < sweep.reach, ∀ conn, connections[place]? = some conn →
    conn ∈ probed

/-- The invariant of a sweep that is alone: also what it took out it has looked at. -/
structure Seen (k : Nat) (trace : List Label) (control : Control) : Prop where
  own : ∀ sweep, control.sweeps[k]? = some sweep → SeenBy (probes k trace) control.connections sweep
  took : ∀ conn, .removed k conn ∈ trace → conn ∈ probes k trace

section
variable {probed probed' connections : List Nat}

theorem SeenBy.longer (seen : SeenBy probed connections sweep) (more : List Nat) :
    SeenBy probed (connections ++ more) sweep := by
  refine ⟨seen.idle, fun live => ?_, fun live place inside conn there => ?_⟩
  · have := seen.inside live
    simp only [List.length_append]
    omega
  · rw [List.getElem?_append_left (Nat.lt_of_lt_of_le inside (seen.inside live))] at there
    exact seen.behind live place inside conn there

theorem SeenBy.mono (seen : SeenBy probed connections sweep) (more : ∀ conn ∈ probed, conn ∈ probed') :
    SeenBy probed' connections sweep :=
  ⟨seen.idle, seen.inside,
    fun live place inside conn there => more conn (seen.behind live place inside conn there)⟩

/-- A sweep that has nothing behind it, or is over. -/
theorem SeenBy.away (seen : SeenBy probed connections sweep)
    (away : sweep.pc = .requesting ∨ sweep.pc = .ended) (others : List Nat) :
    SeenBy probed others sweep := by
  rcases away with requesting | ended
  · have nothing : sweep.reach = 0 := by
      simp [Sweep.reach, requesting, seen.idle requesting]
    exact ⟨seen.idle, fun _ => by omega, fun _ place inside => by omega⟩
  · exact ⟨seen.idle, fun live => absurd ended live, fun live => absurd ended live⟩

end

/-- A sweep that is just started. -/
theorem seenBy_begins (probed connections : List Nat) :
    SeenBy probed connections { pc := .requesting } :=
  ⟨fun _ => rfl, fun _ => Nat.zero_le _, fun _ _ inside => absurd inside (Nat.not_lt_zero _)⟩

theorem Condemned.probed {maxAliveTime : Int} (condemned : Condemned trace k maxAliveTime conn) :
    conn ∈ probes k trace := by
  rcases condemned with ⟨init, rfl⟩ | ⟨init, aliveTime, rfl, _⟩ <;> simp [probes]

theorem seen_preserved (seen : Seen k trace control) (effect : Effect control after label)
    (alone : Alone k control label) (acts : ∀ conn, label = .removed k conn → conn ∈ probes k trace) :
    Seen k (trace ++ [label]) after := by
  have grows : ∀ conn ∈ probes k trace, conn ∈ probes k (trace ++ [label]) := by
    intro conn member
    simp only [probes, List.filterMap_append, List.mem_append]
    exact .inl member
  refine ⟨fun own stands => ?_, fun conn took => ?_⟩
  · cases effect with
    | still connections accepted sweeps still =>
      rw [sweeps] at stands
      rw [connections]
      exact (seen.own own stands).mono grows
    | starts connections accepted sweeps still =>
      rw [connections]
      rcases sweeps_append sweeps stands with stood | ⟨_, rfl⟩
      · exact (seen.own own stood).mono grows
      · exact seenBy_begins ..
    | accepts connections accepted sweeps =>
      rw [connections]
      have stood : control.sweeps[k]? = some own ∨ own = { pc := .requesting } := by
        rcases sweeps with sweeps | sweeps
        · rw [sweeps] at stands
          exact .inl stands
        · exact (sweeps_append sweeps stands).imp_right And.right
      rcases stood with stood | rfl
      · exact ((seen.own own stood).longer _).mono grows
      · exact seenBy_begins ..
    | @moves _ j sweep changed stood connections accepted sweeps still begun live back kept =>
      rw [connections]
      rcases sweeps_set sweeps stands with ⟨rfl, rfl⟩ | ⟨_, stands⟩
      · have before := seen.own sweep stood
        refine ⟨fun requesting => absurd requesting begun, fun _ => ?_, fun _ place inside conn there => ?_⟩
        · exact Nat.le_trans back (before.inside live)
        · exact grows conn (before.behind live place (by omega) conn there)
      · exact (seen.own own stands).mono grows
    | @probes j sweep changed conn answer stood there connections accepted sweeps begun live past =>
      rw [connections]
      rcases sweeps_set sweeps stands with ⟨rfl, rfl⟩ | ⟨_, stands⟩
      · have before := seen.own sweep stood
        obtain ⟨short, _⟩ := List.getElem?_eq_some_iff.mp there
        refine ⟨fun requesting => absurd requesting begun, fun _ => by omega, ?_⟩
        intro _ place inside other at'
        rcases Nat.lt_or_eq_of_le (by omega : place ≤ sweep.reach) with earlier | rfl
        · exact grows other (before.behind live place earlier other at')
        · obtain rfl := Option.some.inj (there.symm.trans at')
          rw [probes_self]
          exact List.mem_append_right _ (List.mem_singleton_self _)
      · exact (seen.own own stands).mono grows
    | @removes j sweep changed conn stood there removed accepted sweeps begun live past back =>
      obtain ⟨inside, shorter⟩ := swapRemove_length removed
      rcases sweeps_set sweeps stands with ⟨rfl, rfl⟩ | ⟨differs, stands⟩
      · have before := seen.own sweep stood
        refine ⟨fun requesting => absurd requesting begun, fun _ => by omega, ?_⟩
        intro _ place early other at'
        obtain ⟨was, stood', _, _, unmoved⟩ := swapRemove_getElem? removed at'
        exact grows other (before.behind live was (by omega) other stood')
      · rcases alone with same | away
        · exact absurd same.symm differs
        · exact ((seen.own own stands).away (away own stands) _).mono grows
  · rcases List.mem_append.mp took with old | new
    · exact grows conn (seen.took conn old)
    · exact grows conn (acts conn (List.mem_singleton.mp new).symm)

theorem run_seen (run : (system.guarded (Alone k)).Run trace control) : Seen k trace control := by
  refine run.invariant ?_ ?_
  · rintro _ rfl
    constructor <;> simp [machine]
  · rintro trace before label after earlier seen ⟨⟨event, stepped⟩, alone⟩
    have sound := system_sound earlier.unguarded
    refine seen_preserved seen (step_effect sound stepped) alone ?_
    rintro conn rfl
    obtain ⟨⟨_, _, condemned⟩, _⟩ := step_removed sound stepped
    exact condemned.probed

/-- What has been taken out some sweep took out. -/
theorem removed_of_removals (once : 0 < removals conn trace) : ∃ sweep, .removed sweep conn ∈ trace := by
  obtain ⟨label, member, counts⟩ := List.countP_pos_iff.mp once
  cases label with
  | removed sweep there =>
    simp only [decide_eq_true_eq] at counts
    exact ⟨sweep, counts ▸ member⟩
  | _ => simp at counts

/-- A sweep that is over is over for good. -/
theorem Effect.ended (effect : Effect control after label) (stands : control.sweeps[k]? = some sweep)
    (ended : sweep.pc = .ended) : after.sweeps[k]? = some sweep := by
  have inside : k < control.sweeps.length := (List.getElem?_eq_some_iff.mp stands).1
  have grown : (control.sweeps ++ [{ pc := .requesting }])[k]? = some sweep := by
    rw [List.getElem?_append_left inside, stands]
  have other {j : Nat} {moved : Sweep} (changed : Sweep) (stood : control.sweeps[j]? = some moved)
      (live : moved.pc ≠ .ended) : (control.sweeps.set j changed)[k]? = some sweep := by
    rw [List.getElem?_set_ne, stands]
    rintro rfl
    cases stood.symm.trans stands
    exact live ended
  cases effect with
  | still _ _ sweeps => rw [sweeps, stands]
  | starts _ _ sweeps => rw [sweeps, grown]
  | accepts _ _ sweeps =>
    rcases sweeps with sweeps | sweeps
    · rw [sweeps, stands]
    · rw [sweeps, grown]
  | moves stood _ _ sweeps _ _ live | probes stood _ _ _ sweeps _ live
  | removes stood _ _ _ sweeps _ live => rw [sweeps, other _ stood live]

/-- A sweep whose settings have come requests them no more. -/
theorem Effect.begun (effect : Effect control after label) (stands : control.sweeps[k]? = some sweep)
    (begun : sweep.pc ≠ .requesting) : ∃ own, after.sweeps[k]? = some own ∧ own.pc ≠ .requesting := by
  have inside : k < control.sweeps.length := (List.getElem?_eq_some_iff.mp stands).1
  have grown : (control.sweeps ++ [{ pc := .requesting }])[k]? = some sweep := by
    rw [List.getElem?_append_left inside, stands]
  have moved {j : Nat} {changed : Sweep} (going : changed.pc ≠ .requesting) :
      ∃ own, (control.sweeps.set j changed)[k]? = some own ∧ own.pc ≠ .requesting := by
    by_cases same : j = k
    · subst same
      exact ⟨changed, List.getElem?_set_self inside, going⟩
    · exact ⟨sweep, by rw [List.getElem?_set_ne same, stands], begun⟩
  cases effect with
  | still _ _ sweeps => exact ⟨sweep, by rw [sweeps, stands], begun⟩
  | starts _ _ sweeps => exact ⟨sweep, by rw [sweeps, grown], begun⟩
  | accepts _ _ sweeps =>
    rcases sweeps with sweeps | sweeps
    · exact ⟨sweep, by rw [sweeps, stands], begun⟩
    · exact ⟨sweep, by rw [sweeps, grown], begun⟩
  | moves _ _ _ sweeps _ going | probes _ _ _ _ sweeps going | removes _ _ _ _ sweeps going =>
    rw [sweeps]
    exact moved going

theorem run_never_answers {own : Nat} {at' : Pc} {maxAliveTime : Int}
    (ran : run control own sweep at' event = some (after, label)) : label ≠ .answered k maxAliveTime := by
  rintro rfl
  unfold run at ran
  split at ran
  all_goals first
  | split at ran <;> cases ran
  | cases ran

/-- A sweep that has been answered is under way, or over. -/
theorem run_begun {maxAliveTime : Int} (run : system.Run trace control)
    (answered : .answered k maxAliveTime ∈ trace) :
    ∃ own, control.sweeps[k]? = some own ∧ own.pc ≠ .requesting := by
  revert answered
  apply run.invariant
  · rintro _ _ member
    cases member
  · rintro trace before label after earlier held ⟨event, stepped⟩ member
    rcases List.mem_append.mp member with old | new
    · obtain ⟨own, stands, begun⟩ := held old
      exact (step_effect (system_sound earlier) stepped).begun stands begun
    · obtain rfl := List.mem_singleton.mp new
      cases (step_takes stepped).2 with
      | runs _ _ ran => exact absurd rfl (run_never_answers ran)
      | answered _ stands => exact ⟨_, List.getElem?_set_self (List.getElem?_eq_some_iff.mp stands).1, by simp⟩

/-- What is over stays so, however the run goes on. -/
theorem steps_ended {own : Sweep} {earlier later : List Label} {before : Control}
    (run : system.Run earlier before) (stands : before.sweeps[k]? = some own) (ended : own.pc = .ended)
    (steps : system.Steps before later control) : control.sweeps[k]? = some own := by
  induction steps with
  | refl => exact stands
  | next first step ih =>
    obtain ⟨event, stepped⟩ := step
    exact (step_effect (system_sound (run.extend first)) stepped).ended ih ended

/-- **A sweep that is alone finds every connection.** While no other sweep takes a
connection out, whatever is accepted meanwhile: when a sweep leaves its loop, it has called
`is_active` of every connection accepted so far, but for those that other sweeps took out
before its settings came and it began. -/
theorem lone_sweep_finds (run : (system.guarded (Alone k)).Run trace control)
    (stands : control.sweeps[k]? = some sweep) (looping : sweep.pc = .looping)
    (leaves : control.connections.length ≤ sweep.i) (accepted : .accepted conn ∈ trace) :
    conn ∈ probes k trace ∨
      ∃ other ≠ k, ∃ earlier later, trace = earlier ++ .removed other conn :: later ∧
        ∀ maxAliveTime, .answered k maxAliveTime ∉ earlier := by
  have sound := system_sound run.unguarded
  have seen := run_seen run
  have books := sound.books conn
  rw [if_pos ((sound.accepts conn).mp accepted)] at books
  by_cases here : conn ∈ control.connections
  · obtain ⟨place, there⟩ := List.mem_iff_getElem?.mp here
    obtain ⟨inside, _⟩ := List.getElem?_eq_some_iff.mp there
    have reach : sweep.reach = sweep.i := by simp [Sweep.reach, looping]
    exact .inl ((seen.own sweep stands).behind (by simp [looping]) place (by omega) conn there)
  · have gone : control.connections.count conn = 0 := List.count_eq_zero.mpr here
    have once : 0 < removals conn trace := by omega
    obtain ⟨other, removed⟩ := removed_of_removals once
    by_cases own : other = k
    · exact .inl (seen.took conn (own ▸ removed))
    · obtain ⟨earlier, later, split⟩ := List.append_of_mem removed
      refine .inr ⟨other, own, earlier, later, split, fun maxAliveTime answered => ?_⟩
      obtain ⟨before, after, first, ⟨step, alone⟩, rest⟩ := run.entry split
      obtain ⟨begun, stood, going⟩ := run_begun first.unguarded answered
      rcases alone.resolve_left own begun stood with requesting | ended
      · exact going requesting
      · -- A sweep that is over does not come back to its loop.
        have goes := (System.Steps.refl.next step).trans rest.unguarded
        cases stands.symm.trans (steps_ended first.unguarded stood ended goes)
        cases looping.symm.trans ended

/-- A client is accepted while the only sweep waits for a `close`, and is found. -/
theorem lone_sweep_finds_late_client : ∃ trace control, system.Run trace control ∧
    control.connections = [1, 2] ∧
    (2 ∈ probes 0 trace ∨
      ∃ other ≠ 0, ∃ earlier later, trace = earlier ++ .removed other 2 :: later ∧
        ∀ maxAliveTime, .answered 0 maxAliveTime ∉ earlier) := by
  obtain ⟨trace, control, run, two, stands, accepted⟩ : ∃ trace control,
      (system.guarded (Alone 0)).Run trace control ∧ control.connections = [1, 2] ∧
        control.sweeps[0]? = some ⟨.looping, 2, 3600⟩ ∧ .accepted 2 ∈ trace :=
    ⟨_, _, Machine.guarded_run (Machine.replay_run (show
      (machine.guarded (Alone 0)).replay {} [.accept, .accept, .timer, .settings 0 (.ok 3600), .goesOn,
        .goesOn, .probe (.ok (some false)), .goesOn, .goesOn, .accept, .returns 0 (.ok ()), .goesOn,
        .goesOn, .probe (.ok (some true)), .age 0, .goesOn, .goesOn, .probe (.ok none)] =
          some (_, _) from rfl)), rfl, rfl, by decide⟩
  exact ⟨trace, control, run.unguarded, two, lone_sweep_finds run stands rfl (by simp [two]) accepted⟩

/-- Another sweep moves the last connection behind the back of one that has not come to
it, which then leaves its loop without having looked at it. -/
theorem overlapped_sweep_misses : ∃ trace control sweep, system.Run trace control ∧
    control.sweeps[1]? = some sweep ∧ sweep.pc = .looping ∧
    control.connections.length ≤ sweep.i ∧ 2 ∈ control.connections ∧ 2 ∉ probes 1 trace := by
  have run := Machine.replay_run (show
    machine.replay {} [.accept, .accept, .accept, .timer, .timer, .settings 1 (.ok 3600), .goesOn, .goesOn,
      .probe (.ok (some true)), .age 0, .goesOn, .goesOn, .probe (.ok (some false)), .goesOn, .goesOn,
      .settings 0 (.ok 3600), .goesOn, .goesOn, .probe (.ok (some false)), .goesOn, .goesOn,
      .returns 1 (.ok ())] = some (_, _) from rfl)
  exact ⟨_, _, _, run, rfl, rfl, by decide, by decide, by decide⟩

end Vpverk.SweepBookkeeping
