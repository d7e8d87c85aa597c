import Mathlib.Data.Fintype.Basic
import Vpverk.SpinQueue
import Vpverk.TunOrder

/-! Who locks next. The coroutines in the loop of `lock` stand in the ready queue as in
`Vpverk.SpinQueue`: a write looks at the lock at once, a read only after its `resched`. -/
namespace Vpverk.TunSchedule
open Octets Asioapi Transition Flags TunLocks
open SpinQueue (Spin Turn)

variable {Writer : Type} {lib : Library} {ctx : Context Writer} {party : Party Writer} {kind : Kind}

/-- In the loop of `lock`, or on its way there. -/
def Spins : At → Bool
  | .called _ | .locking _ => true
  | _ => false

def Task.resumed : Task Writer → Option (Party Writer)
  | .resume party => some party
  | .slot _ | .turn _ => none

/-- The coroutines in the ready queue. -/
def Context.resumers (ctx : Context Writer) : List (Party Writer) := ctx.ready.filterMap Task.resumed

/-- Those of them that wait for `lock_`. -/
def spinners (at' : Party Writer → At) (resumers : List (Party Writer)) : List (Party Writer) :=
  resumers.filter fun party => Spins (at' party)

def Context.spin (ctx : Context Writer) : Spin (Party Writer) :=
  ⟨ctx.tun.flags .lock, spinners ctx.tun.at' ctx.resumers⟩

/-- What a step shows of the lock. -/
def spinLabel : Label (Party Writer) → Option (SpinQueue.Label (Party Writer))
  | .calls none .read => some (.joins none)
  | .sets party .lock => some (.takes party)
  | .refused party => some (.refused party)
  | .clears party .lock => some (.gives party)
  | _ => none

/-- A write looks at the lock without a turn of its own. -/
abbrev Barges (party : Party Writer) : Prop := party ≠ none

/-- A task shows nothing of the lock, or one step of the queue. -/
inductive Spun (before : Spin (Party Writer)) (shown : Shown Writer) (after : Spin (Party Writer)) :
    Prop where
  | still (nothing : shown.filterMap spinLabel = []) (same : after = before)
  | step {label : SpinQueue.Label (Party Writer)} (one : shown.filterMap spinLabel = [label])
      (step : SpinQueue.Step Barges before label after)

/-- A coroutine stands in the queue once when it is to be resumed, and else not at all. -/
structure Queued (ctx : Context Writer) : Prop where
  once : ctx.resumers.Nodup
  stands : ∀ party, party ∈ ctx.resumers ↔ ToResume (ctx.tun.at' party)

/-- The same of all but a party that runs. -/
structure Off (ctx : Context Writer) (party : Party Writer) : Prop where
  away : party ∉ ctx.resumers
  once : ctx.resumers.Nodup
  stands : ∀ other, other ≠ party → (other ∈ ctx.resumers ↔ ToResume (ctx.tun.at' other))

/-! ### The queue -/

@[simp] theorem resumers_put (tun : Tun (Party Writer)) : (ctx.put tun).resumers = ctx.resumers := rfl

@[simp] theorem resumers_post_resume : (ctx.post (.resume party)).resumers = ctx.resumers ++ [party] := by
  simp [Context.resumers, Context.post, Task.resumed]

@[simp] theorem resumers_post_slot (function : Function Writer) :
    (ctx.post (.slot function)).resumers = ctx.resumers := by
  simp [Context.resumers, Context.post, Task.resumed]

@[simp] theorem resumers_cancelTimer : ctx.cancelTimer.resumers = ctx.resumers := by
  unfold Context.cancelTimer
  split
  · exact resumers_post_slot (.timer true)
  · rfl

@[simp] theorem resumers_postStrand (function : Function Writer) :
    (ctx.postStrand lib function).resumers = ctx.resumers := by
  unfold Context.postStrand
  split
  · rfl
  · simp [Context.resumers, Context.post, Task.resumed]

@[simp] theorem resumers_endTurn : ctx.endTurn.resumers = ctx.resumers := by
  unfold Context.endTurn
  split
  · rfl
  · simp [Context.resumers, List.filterMap_map, Function.comp_def, Task.resumed]

theorem Queued.off (queued : Queued ctx) (stays : ¬ ToResume (ctx.tun.at' party)) : Off ctx party :=
  ⟨fun member => stays ((queued.stands party).mp member), queued.once, fun other _ => queued.stands other⟩

/-- The first coroutine of the queue runs. -/
theorem Queued.popped (queued : Queued ctx) {rest : List (Task Writer)}
    (front : ctx.ready = .resume party :: rest) :
    ctx.resumers = party :: Context.resumers { ctx with ready := rest } ∧
      Off { ctx with ready := rest } party := by
  have resumers : ctx.resumers = party :: Context.resumers { ctx with ready := rest } := by
    simp [Context.resumers, front, Task.resumed]
  have once := queued.once
  rw [resumers, List.nodup_cons] at once
  refine ⟨resumers, once.1, once.2, fun other different => ?_⟩
  rw [← queued.stands other, resumers, List.mem_cons, or_iff_right different]

variable [DecidableEq Writer] {tun : Tun (Party Writer)} {next : At}

@[simp] theorem resumers_cancel (caller : Option (Party Writer)) :
    (ctx.cancel caller).resumers = ctx.resumers := by
  simp [Context.resumers, Context.cancel, List.filterMap_map, Function.comp_def, Task.resumed]

theorem Off.put (off : Off ctx party) (moved : tun.at' = Function.update ctx.tun.at' party next) :
    Off (ctx.put tun) party := by
  refine ⟨off.away, off.once, fun other different => ?_⟩
  rw [put_tun, moved, Function.update_of_ne different]
  exact off.stands other different

/-- Where a party stands that is not in the queue is not seen there. -/
theorem Off.spinners (off : Off ctx party)
    (moved : tun.at' = Function.update ctx.tun.at' party next) :
    spinners tun.at' ctx.resumers = ctx.spin.spinners := by
  apply List.filter_congr
  intro other member
  have different : other ≠ party := by
    rintro rfl
    exact off.away member
  rw [moved, Function.update_of_ne different]

/-- A party leaves. -/
theorem Off.leaves (off : Off ctx party) (moved : tun.at' = Function.update ctx.tun.at' party next)
    (stays : ¬ ToResume next) : Queued (ctx.put tun) := by
  refine ⟨off.once, fun other => ?_⟩
  rw [put_tun, moved]
  by_cases self : other = party
  · subst self
    rw [Function.update_self]
    exact iff_of_false off.away stays
  · rw [Function.update_of_ne self]
    exact off.stands other self

/-- A party goes to the end of the queue. -/
theorem Off.joins (off : Off ctx party) (moved : tun.at' = Function.update ctx.tun.at' party next)
    (resumes : ToResume next) : Queued ((ctx.put tun).post (.resume party)) := by
  constructor
  · rw [resumers_post_resume]
    apply List.nodup_append.mpr
    refine ⟨off.once, by simp, ?_⟩
    rintro other member _ last rfl
    exact off.away (List.mem_singleton.mp last ▸ member)
  · intro other
    rw [resumers_post_resume, List.mem_append, List.mem_singleton, post_tun, put_tun, moved]
    by_cases self : other = party
    · subst self
      rw [Function.update_self]
      exact iff_of_true (.inr rfl) resumes
    · rw [Function.update_of_ne self, or_iff_left self]
      exact off.stands other self

theorem Off.spin_joins (off : Off ctx party) (tun : Tun (Party Writer))
    (moved : tun.at' = Function.update ctx.tun.at' party next) :
    ((ctx.put tun).post (.resume party)).spin =
      ⟨tun.flags .lock, ctx.spin.spinners ++ if Spins next then [party] else []⟩ := by
  have there : tun.at' party = next := by rw [moved, Function.update_self]
  have others := off.spinners moved
  rw [Context.spin, resumers_post_resume, post_tun, put_tun, resumers_put, TunSchedule.spinners,
    List.filter_append, ← TunSchedule.spinners, others]
  cases spins : Spins next <;> simp [there, spins]

theorem Off.spin_leaves (off : Off ctx party) (tun : Tun (Party Writer))
    (moved : tun.at' = Function.update ctx.tun.at' party next) :
    (ctx.put tun).spin = ⟨tun.flags .lock, ctx.spin.spinners⟩ := by
  rw [Context.spin, put_tun, resumers_put, off.spinners moved]

omit [DecidableEq Writer] in
/-- A timer that is set or cancelled is not seen in the queue. -/
theorem Queued.same {ctx' : Context Writer} (queued : Queued ctx) (tuns : ctx'.tun.at' = ctx.tun.at')
    (resumers : ctx'.resumers = ctx.resumers) : Queued ctx' :=
  ⟨resumers ▸ queued.once, fun party => by rw [resumers, tuns]; exact queued.stands party⟩

omit [DecidableEq Writer] in
theorem spin_same {ctx' : Context Writer} (tuns : ctx'.tun = ctx.tun)
    (resumers : ctx'.resumers = ctx.resumers) : ctx'.spin = ctx.spin := by
  rw [Context.spin, Context.spin, tuns, resumers]

/-! ### What a coroutine does until it suspends -/

theorem Off.start (off : Off ctx party) (kind : Kind) :
    Queued (ctx.start party kind).1 ∧ (ctx.start party kind).1.spin = ctx.spin ∧
      (ctx.start party kind).2.filterMap spinLabel = [] := by
  cases kind with
  | read =>
    let started := ((ctx.tun.markRead party).1.start party .read).1
    have moved : started.at' = Function.update ctx.tun.at' party (.waits .read) := by
      simp [started, Tun.markRead, Tun.start, Tun.move, Tun.setFlag]
    have tuns : (ctx.start party .read).1.tun = (ctx.put started).tun := by
      simp [Context.start, started]
    have resumers : (ctx.start party .read).1.resumers = (ctx.put started).resumers :=
      resumers_cancelTimer
    refine ⟨(off.leaves moved (by simp [ToResume])).same (by rw [tuns]) resumers, ?_, rfl⟩
    rw [spin_same tuns resumers, off.spin_leaves _ moved]
    simp [started, Tun.markRead, Tun.start, Tun.move, Tun.setFlag, Context.spin]
  | write ipPacket =>
    have moved : (ctx.tun.start party (.write ipPacket)).1.at' =
        Function.update ctx.tun.at' party (.waits (.write ipPacket)) := rfl
    exact ⟨off.leaves moved (by simp [ToResume]), off.spin_leaves _ moved, rfl⟩

/-- A party looks at the lock in its turn. -/
theorem Off.lock (off : Off ctx party) (future : Resumption) (kind : Kind) (spinners : List (Party Writer))
    (turn : Turn Barges spinners party ctx.spin.spinners) :
    Queued (ctx.lock future party kind).1 ∧
      Spun ⟨ctx.tun.flags .lock, spinners⟩ (ctx.lock future party kind).2 (ctx.lock future party kind).1.spin := by
  unfold Context.lock
  cases free : ctx.tun.flags .lock with
  | true =>
    have exchanged : ctx.tun.exchange party kind = (ctx.tun.move party (.locking kind), .refused party) := by
      simp [Tun.exchange, free]
    have spun := off.spin_joins (ctx.tun.move party (.locking kind)) rfl
    have up : (ctx.tun.move party (.locking kind)).flags .lock = true := free
    rw [up] at spun
    rw [exchanged]
    refine ⟨off.joins rfl trivial, .step rfl ?_⟩
    simp only [if_true, spun]
    exact .refused turn
  | false =>
    let taken := (ctx.tun.setFlag .lock true).move party (.locked kind)
    have exchanged : ctx.tun.exchange party kind = (taken, .sets party .lock) := by
      simp [taken, Tun.exchange, free]
    have up : taken.flags .lock = true := by simp [taken, Tun.move, Tun.setFlag]
    rw [exchanged]
    cases future with
    | posted =>
      have spun := off.spin_joins taken rfl
      rw [up] at spun
      refine ⟨off.joins rfl trivial, .step rfl ?_⟩
      simp only [Bool.false_eq_true, if_false, spun]
      simpa [Spins] using SpinQueue.Step.takes turn
    | atOnce =>
      have still : Off (ctx.put taken) party := off.put rfl
      have spun := off.spin_leaves taken rfl
      rw [up] at spun
      obtain ⟨queued, starts, nothing⟩ := still.start kind
      have one : (Label.sets party .lock :: ((ctx.put taken).start party kind).2).filterMap spinLabel =
          [.takes party] := by
        simp [spinLabel, nothing]
      refine ⟨queued, .step one ?_⟩
      simp only [Bool.false_eq_true, if_false, starts, spun]
      exact .takes turn

theorem Off.finish (off : Off ctx party) (kind : Kind) (outcome : TunLocks.Outcome) :
    Queued (ctx.finish party outcome kind).1 ∧
      Spun ctx.spin (ctx.finish party outcome kind).2 (ctx.finish party outcome kind).1.spin := by
  have gone : party ∉ ctx.spin.spinners :=
    fun member => off.away (List.mem_of_mem_filter member)
  have ends : ∀ left : Tun (Party Writer), left.at' = Function.update ctx.tun.at' party .idle →
      left.flags .lock = false → Queued (ctx.put left) ∧
        SpinQueue.Step Barges ctx.spin (.gives party) (ctx.put left).spin := by
    intro left moved free
    refine ⟨off.leaves moved (by simp [ToResume]), ?_⟩
    rw [off.spin_leaves _ moved, free]
    exact .gives gone
  cases kind with
  | read =>
    obtain ⟨queued, gives⟩ := ends (((ctx.tun.clear party .itIsReadLock (.leaving outcome)).1.clear party
      .lock (.returns outcome)).1.move party .idle)
      (by simp [Tun.clear, Tun.move, Tun.setFlag]) (by simp [Tun.clear, Tun.move, Tun.setFlag])
    exact ⟨queued, .step rfl gives⟩
  | write ipPacket =>
    obtain ⟨queued, gives⟩ := ends ((ctx.tun.clear party .lock (.returns outcome)).1.move party .idle)
      (by simp [Tun.clear, Tun.move, Tun.setFlag]) (by simp [Tun.clear, Tun.move, Tun.setFlag])
    exact ⟨queued, .step rfl gives⟩

/-! ### What runs on the strand -/

variable {completion : Completion}

omit [DecidableEq Writer] in
/-- What neither runs nor is to run is the same to the queue, wherever it stands. -/
theorem Queued.elsewhere (queued : Queued ctx) (tun : Tun (Party Writer))
    (lock : tun.flags .lock = ctx.tun.flags .lock)
    (resumes : ∀ party, ToResume (tun.at' party) ↔ ToResume (ctx.tun.at' party))
    (spins : ∀ party, Spins (tun.at' party) = Spins (ctx.tun.at' party)) :
    Queued (ctx.put tun) ∧ (ctx.put tun).spin = ctx.spin := by
  refine ⟨⟨queued.once, fun party => (queued.stands party).trans (resumes party).symm⟩, ?_⟩
  have same : spinners tun.at' ctx.resumers = spinners ctx.tun.at' ctx.resumers :=
    List.filter_congr fun party _ => spins party
  rw [Context.spin, Context.spin, put_tun, resumers_put, lock, same]

theorem Queued.cancel (queued : Queued ctx) (caller : Option (Party Writer)) :
    Queued (ctx.cancel caller) ∧ (ctx.cancel caller).spin = ctx.spin := by
  have stands : ∀ party, (ctx.tun.cancel caller).1.at' party = ctx.tun.at' party ∨
      ∃ kind, ctx.tun.at' party = .waits kind ∧
        (ctx.tun.cancel caller).1.at' party = .completed kind canceled := by
    intro party
    simp only [Tun.cancel]
    split
    · cases ctx.tun.at' party <;> simp [At.canceled]
    · exact .inl rfl
  have put : Queued (ctx.put (ctx.tun.cancel caller).1) ∧
      (ctx.put (ctx.tun.cancel caller).1).spin = ctx.spin := by
    refine queued.elsewhere _ rfl (fun party => ?_) fun party => ?_ <;>
      rcases stands party with same | ⟨kind, waits, struck⟩
    · rw [same]
    · simp [waits, struck, ToResume]
    · rw [same]
    · simp [waits, struck, Spins]
  have resumers : (ctx.cancel caller).resumers = (ctx.put (ctx.tun.cancel caller).1).resumers :=
    resumers_cancel caller
  have spun : (ctx.cancel caller).spin = (ctx.put (ctx.tun.cancel caller).1).spin :=
    spin_same rfl resumers
  exact ⟨put.1.same rfl resumers, spun.trans put.2⟩

omit [DecidableEq Writer] in
theorem Queued.cancelTimer (queued : Queued ctx) :
    Queued ctx.cancelTimer ∧ ctx.cancelTimer.spin = ctx.spin :=
  ⟨queued.same (by rw [cancelTimer_tun]) resumers_cancelTimer,
    spin_same cancelTimer_tun resumers_cancelTimer⟩

theorem Queued.handle (queued : Queued ctx) (alive : ctx.tun.aborted = false)
    (stands : ctx.tun.at' party = .completed kind completion) :
    Queued (ctx.handle party kind completion).1 ∧
      (ctx.handle party kind completion).1.spin = ctx.spin ∧
      (ctx.handle party kind completion).2.filterMap spinLabel = [] := by
  -- The handler resumes the coroutine, whatever it does to the timer.
  have resumes : ∀ ctx' : Context Writer, Queued ctx' → ctx'.tun = ctx.tun → ctx'.spin = ctx.spin →
      ∀ outcome, Queued ((ctx'.put (ctx.tun.move party (.resumed kind outcome))).post (.resume party)) ∧
        ((ctx'.put (ctx.tun.move party (.resumed kind outcome))).post (.resume party)).spin =
          ctx.spin := by
    intro ctx' queued same spun outcome
    have off : Off ctx' party := queued.off (by simp [same, stands, ToResume])
    have moved : (ctx.tun.move party (.resumed kind outcome)).at' =
        Function.update ctx'.tun.at' party (.resumed kind outcome) := by
      rw [same]
      rfl
    refine ⟨off.joins moved trivial, ?_⟩
    rw [off.spin_joins _ moved, ← spun, Context.spin, same]
    simp [Spins, Tun.move]
  unfold Context.handle Tun.handle
  cases handler kind completion with
  | none =>
    obtain ⟨queued, spun⟩ := queued.elsewhere { ctx.tun with aborted := true } rfl
      (fun _ => .rfl) fun _ => rfl
    exact ⟨queued, spun, rfl⟩
  | some outcome =>
    have lives : (ctx.tun.move party (.resumed kind outcome)).aborted = false := alive
    simp only [lives, Bool.false_eq_true, if_false]
    split
    · rw [put_cancelTimer]
      obtain ⟨queued, spun⟩ := resumes ctx.cancelTimer queued.cancelTimer.1 cancelTimer_tun
        queued.cancelTimer.2 outcome
      exact ⟨queued, spun, rfl⟩
    · obtain ⟨queued, spun⟩ := resumes ctx queued rfl rfl outcome
      exact ⟨queued, spun, rfl⟩

variable {result : Context Writer × Shown Writer}

omit [DecidableEq Writer] in
theorem Spun.cons {before after : Spin (Party Writer)} {shown : Shown Writer}
    {label : Label (Party Writer)} (spun : Spun before shown after) (silent : spinLabel label = none) :
    Spun before (label :: shown) after := by
  have same : (label :: shown).filterMap spinLabel = shown.filterMap spinLabel :=
    List.filterMap_cons_none silent
  cases spun with
  | still nothing stays => exact .still (same.trans nothing) stays
  | step one step => exact .step (same.trans one) step

/-- A write looks at the lock. -/
theorem Off.barges (off : Off ctx party) (future : Resumption) (kind : Kind) (tun : Tun (Party Writer))
    (moved : tun.at' = Function.update ctx.tun.at' party next)
    (lock : tun.flags .lock = ctx.tun.flags .lock) (writes : party ≠ none) :
    Queued ((ctx.put tun).lock future party kind).1 ∧
      Spun ctx.spin ((ctx.put tun).lock future party kind).2 ((ctx.put tun).lock future party kind).1.spin := by
  have gone : party ∉ ctx.spin.spinners :=
    fun member => off.away (List.mem_of_mem_filter member)
  have looked := (off.put moved).lock future kind ctx.spin.spinners
  rw [off.spin_leaves _ moved, put_tun, lock] at looked
  exact looked (.barges writes gone)

/-- A coroutine looks at the lock when it is resumed. -/
theorem Off.looks (off : Off ctx party) (future : Resumption) (kind : Kind) (tun : Tun (Party Writer))
    (moved : tun.at' = Function.update ctx.tun.at' party next)
    (lock : tun.flags .lock = ctx.tun.flags .lock) :
    Queued ((ctx.put tun).lock future party kind).1 ∧
      Spun ⟨ctx.tun.flags .lock, party :: ctx.spin.spinners⟩ ((ctx.put tun).lock future party kind).2
        ((ctx.put tun).lock future party kind).1.spin := by
  have looked := (off.put moved).lock future kind (party :: ctx.spin.spinners)
  rw [off.spin_leaves _ moved, put_tun, lock] at looked
  exact looked (.first party _)

theorem Queued.call {function : Function Writer} (queued : Queued ctx) (reached : Reached ctx.tun)
    (alive : ctx.tun.aborted = false) (called : ctx.call lib function = some result) :
    Queued result.1 ∧ Spun ctx.spin result.2 result.1.spin := by
  cases function with
  | post party =>
    dsimp only [Context.call] at called
    split at called <;> cases called
    rename_i ipPacket stands
    have writes : party ≠ none := by
      rintro rfl
      exact reached.plays none (.write ipPacket) (by rw [stands]; rfl)
    obtain ⟨cancelled, spun⟩ := queued.cancelTimer.1.cancel (some party)
    have posted : (ctx.cancelTimer.cancel (some party)).tun.at' party = .posted ipPacket := by
      simp [Context.cancel, Tun.cancel, stands, At.canceled]
    have off : Off (ctx.cancelTimer.cancel (some party)) party :=
      cancelled.off (by simp [posted, ToResume])
    obtain ⟨locked, shows⟩ := off.barges lib.ready (.write ipPacket)
      ((ctx.cancelTimer.cancel (some party)).tun.move party (.locking (.write ipPacket))) rfl rfl writes
    rw [spun, queued.cancelTimer.2] at shows
    exact ⟨locked, shows.cons rfl⟩
  | handler party =>
    dsimp only [Context.call] at called
    split at called <;> cases called
    rename_i stands
    obtain ⟨queued, spun, nothing⟩ := queued.handle alive stands
    exact ⟨queued, .still nothing spun⟩
  | timer canceled =>
    cases canceled <;> cases called
    · exact ⟨(queued.cancel none).1, .still rfl (queued.cancel none).2⟩
    · exact ⟨queued, .still rfl rfl⟩

theorem Queued.resume (queued : Queued ctx) {rest : List (Task Writer)}
    (front : ctx.ready = .resume party :: rest)
    (resumed : Context.resume lib { ctx with ready := rest } party = some result) :
    Queued result.1 ∧ Spun ctx.spin result.2 result.1.spin := by
  obtain ⟨resumers, off⟩ := queued.popped front
  let popped : Context Writer := { ctx with ready := rest }
  have spinning : Spins (ctx.tun.at' party) = true →
      ctx.spin = ⟨popped.tun.flags .lock, party :: popped.spin.spinners⟩ := by
    intro spins
    rw [Context.spin, resumers, spinners, List.filter_cons, if_pos spins]
    rfl
  have running : Spins (ctx.tun.at' party) = false → ctx.spin = popped.spin := by
    intro runs
    rw [Context.spin, resumers, spinners, List.filter_cons, if_neg (by simp [runs])]
    rfl
  unfold Context.resume at resumed
  split at resumed <;> cases resumed
  · rename_i stands
    have stands : ctx.tun.at' party = .called .read := stands
    rw [spinning (by rw [stands]; rfl)]
    obtain ⟨queued, spun⟩ := off.looks lib.ready .read (ctx.tun.move party (.locking .read)) rfl rfl
    exact ⟨queued, spun.cons rfl⟩
  · rename_i kind stands
    have stands : ctx.tun.at' party = .locking kind := stands
    rw [spinning (by rw [stands]; rfl)]
    exact off.lock lib.completed kind _ (.first party _)
  · rename_i kind stands
    have stands : ctx.tun.at' party = .locked kind := stands
    rw [running (by rw [stands]; rfl)]
    obtain ⟨queued, spun, nothing⟩ := off.start kind
    exact ⟨queued, .still nothing spun⟩
  · rename_i kind outcome stands
    have stands : ctx.tun.at' party = .resumed kind outcome := stands
    rw [running (by rw [stands]; rfl)]
    exact off.finish kind outcome

theorem Queued.execute {task : Task Writer} (queued : Queued ctx) (reached : Reached ctx.tun)
    (alive : ctx.tun.aborted = false) {rest : List (Task Writer)} (front : ctx.ready = task :: rest)
    (executed : { ctx with ready := rest }.execute lib task = some result) :
    Queued result.1 ∧ Spun ctx.spin result.2 result.1.spin := by
  have stays : task.resumed = none → Queued { ctx with ready := rest } ∧
      Context.spin { ctx with ready := rest } = ctx.spin := by
    intro stays
    have resumers : Context.resumers { ctx with ready := rest } = ctx.resumers := by
      rw [Context.resumers, Context.resumers, front, List.filterMap_cons_none stays]
    exact ⟨queued.same rfl resumers, spin_same rfl resumers⟩
  cases task with
  | resume party => exact queued.resume front executed
  | slot function =>
    obtain ⟨queued, spun⟩ := stays rfl
    rw [← spun]
    dsimp only [Context.execute] at executed
    split at executed
    · cases executed
      exact ⟨queued.same rfl rfl, .still rfl rfl⟩
    · exact queued.call reached alive executed
  | turn function =>
    obtain ⟨queued, spun⟩ := stays rfl
    rw [← spun]
    dsimp only [Context.execute] at executed
    split at executed <;> cases executed
    rename_i called
    obtain ⟨queued, spun⟩ := queued.call reached alive called
    rw [spin_same endTurn_tun resumers_endTurn]
    exact ⟨queued.same (by rw [endTurn_tun]) resumers_endTurn, spun⟩

theorem Queued.step {event : Event Writer} (queued : Queued ctx) (reached : Reached ctx.tun)
    (stepped : step lib ctx event = some result) :
    Queued result.1 ∧ Spun ctx.spin result.2 result.1.spin := by
  obtain ⟨alive, takes⟩ := step_takes stepped
  have moved : ∀ (writer : Writer) ipPacket next,
      ((ctx.tun.move (some writer) (.called (.write ipPacket))).move (some writer) next).at' =
        Function.update ctx.tun.at' (some writer) next := by
    simp [Tun.move]
  cases takes with
  | reads stands =>
    have off : Off ctx none := queued.off (by simp [stands, ToResume])
    have gone : none ∉ ctx.spin.spinners :=
      fun member => off.away (List.mem_of_mem_filter member)
    refine ⟨off.joins rfl trivial, .step rfl ?_⟩
    rw [off.spin_joins _ rfl]
    exact .joins gone
  | @posts writer ipPacket stands _ =>
    have off : Off ctx (some writer) := queued.off (by simp [stands, ToResume])
    have queued := off.leaves (moved writer ipPacket (.posted ipPacket)) (by simp [ToResume])
    have spun := off.spin_leaves _ (moved writer ipPacket (.posted ipPacket))
    refine ⟨queued.same (by rw [postStrand_tun]) (resumers_postStrand _), .still rfl ?_⟩
    rw [spin_same (postStrand_tun _) (resumers_postStrand _)]
    exact spun
  | @writes writer ipPacket _ stands _ locks =>
    subst locks
    have off : Off ctx (some writer) := queued.off (by simp [stands, ToResume])
    obtain ⟨queued, spun⟩ := off.barges lib.ready (.write ipPacket) _
      (moved writer ipPacket (.locking (.write ipPacket))) rfl (by simp)
    exact ⟨queued, (spun.cons rfl).cons rfl⟩
  | next front executed => exact queued.execute reached alive front executed
  | @completes party kind completion stands _ =>
    have off : Off ctx party := queued.off (by simp [stands, ToResume])
    have completed : (ctx.tun.complete party kind completion).1.at' =
        Function.update ctx.tun.at' party (.completed kind completion) := rfl
    have queued := off.leaves completed (by simp [ToResume])
    have spun := off.spin_leaves _ completed
    refine ⟨queued.same rfl (resumers_post_slot _), .still rfl ?_⟩
    rw [spin_same (post_tun _) (resumers_post_slot _)]
    exact spun
  | expires _ =>
    have resumers : (Context.post { ctx with timerWaits := false } (.slot (.timer false))).resumers =
        ctx.resumers := resumers_post_slot _
    exact ⟨queued.same rfl resumers, .still rfl (spin_same rfl resumers)⟩

/-! ### Who comes first -/

/-- The writer has cancelled a pending read and has not locked since. -/
def Owed (labels : Shown Writer) (writer : Writer) : Prop :=
  ∃ earlier struck later, labels = earlier ++ .cancels (some (some writer)) struck :: later ∧
    none ∈ struck ∧ .sets (some writer) .lock ∉ later

/-- No read locks before a writer that has cancelled one. -/
def CancellerFirst (labels : Shown Writer) : Prop :=
  ∀ earlier later, labels = earlier ++ .sets none .lock :: later → ∀ writer, ¬ Owed earlier writer

variable {labels shown : Shown Writer} {writer : Writer}

omit [DecidableEq Writer] in
theorem CancellerFirst.not_owed (first : CancellerFirst labels) (position : Nat)
    (locks : labels[position]? = some (.sets none .lock)) : ¬ Owed (labels.take position) writer := by
  obtain ⟨_, here⟩ := List.getElem?_eq_some_iff.mp locks
  apply first _ (labels.drop (position + 1))
  rw [← here, List.cons_getElem_drop_succ, List.take_append_drop]

omit [DecidableEq Writer] in
theorem mem_takes : .takes party ∈ shown.filterMap spinLabel ↔ .sets party .lock ∈ shown := by
  rw [List.mem_filterMap]
  constructor
  · rintro ⟨label, member, same⟩
    unfold spinLabel at same
    split at same <;> cases same
    exact member
  · exact fun member => ⟨_, member, rfl⟩

omit [DecidableEq Writer] in
theorem mem_gives : .gives party ∈ shown.filterMap spinLabel ↔ .clears party .lock ∈ shown := by
  rw [List.mem_filterMap]
  constructor
  · rintro ⟨label, member, same⟩
    unfold spinLabel at same
    split at same <;> cases same
    exact member
  · exact fun member => ⟨_, member, rfl⟩

omit [DecidableEq Writer] in
/-- A writer that is owed the lock after more steps was owed it before, or cancels a
read in one of them. -/
theorem owed_append (owed : Owed (labels ++ shown) writer) :
    Owed shown writer ∨ Owed labels writer ∧ .sets (some writer) .lock ∉ shown := by
  obtain ⟨earlier, struck, later, split, pending, unlocked⟩ := owed
  rcases append_split split with ⟨middle, rfl, same⟩ | ⟨between, same, rfl⟩
  · exact .inl ⟨middle, struck, later, same, pending, unlocked⟩
  · rw [List.mem_append, not_or] at unlocked
    exact .inr ⟨⟨earlier, struck, between, same, pending, unlocked.1⟩, unlocked.2⟩

theorem start_shows : (ctx.start party kind).2.filterMap spinLabel = [] := by
  cases kind <;> rfl

theorem lock_shows : (ctx.lock future party kind).2.filterMap spinLabel = [.refused party] ∨
    (ctx.lock future party kind).2.filterMap spinLabel = [.takes party] := by
  unfold Context.lock Tun.exchange
  dsimp only
  split
  · exact .inl rfl
  · refine .inr ?_
    split
    · rfl
    · rw [List.filterMap_cons]
      exact congrArg (_ :: ·) start_shows

/-- A write that cancels looks at the lock then and there. -/
theorem call_cancels {function : Function Writer} {struck : List (Party Writer)} {ctx' : Context Writer}
    (called : ctx.call lib function = some (ctx', shown)) (member : .cancels (some party) struck ∈ shown) :
    ∃ rest, shown = .cancels (some party) struck :: rest ∧ (∀ label ∈ rest, Plain label) ∧
      (rest.filterMap spinLabel = [.refused party] ∨ rest.filterMap spinLabel = [.takes party]) := by
  cases function with
  | post who =>
    dsimp only [Context.call] at called
    split at called <;> cases called
    rcases List.mem_cons.mp member with same | later
    · cases same
      exact ⟨_, rfl, lock_plain, lock_shows⟩
    · exact (lock_plain _ later).elim
  | handler who =>
    have plain := call_shown called _ member
    rcases plain with plain | ⟨_, cancels, _⟩
    · exact plain.elim
    · exact cancels.elim
  | timer canceled =>
    cases canceled <;> cases called
    · simp at member
    · cases member

theorem step_cancels {event : Event Writer} {struck : List (Party Writer)}
    (stepped : step lib ctx event = some result) (member : .cancels (some party) struck ∈ result.2) :
    ∃ rest, result.2 = .cancels (some party) struck :: rest ∧ (∀ label ∈ rest, Plain label) ∧
      (rest.filterMap spinLabel = [.refused party] ∨ rest.filterMap spinLabel = [.takes party]) := by
  cases (step_takes stepped).2 with
  | reads _ => simp at member
  | posts _ _ => simp at member
  | writes _ _ locks =>
    subst locks
    simp only [List.mem_cons, reduceCtorEq, false_or] at member
    exact (lock_plain _ member).elim
  | @next task rest _ front executed =>
    cases task with
    | resume who => exact (resume_shown executed _ member).elim
    | slot function =>
      dsimp only [Context.execute] at executed
      split at executed
      · cases executed
        cases member
      · exact call_cancels executed member
    | turn function =>
      dsimp only [Context.execute] at executed
      split at executed <;> cases executed
      rename_i called
      exact call_cancels called member
  | completes _ _ => simp [Tun.complete] at member
  | expires _ => cases member

/-- A writer that cancels a read is refused the lock, or has it. -/
theorem owed_step {event : Event Writer} {before after : Shown Writer}
    (stepped : step lib ctx event = some result) (split : result.2 = before ++ after)
    (owed : Owed before writer) :
    result.2.filterMap spinLabel = [.refused (some writer)] ∨
      result.2.filterMap spinLabel = [.takes (some writer)] ∧ .sets (some writer) .lock ∈ after := by
  obtain ⟨earlier, struck, later, rfl, _, unlocked⟩ := owed
  have cancels : .cancels (some (some writer)) struck ∈ result.2 := by simp [split]
  obtain ⟨rest, same, plain, shows⟩ := step_cancels stepped cancels
  have silent : result.2.filterMap spinLabel = rest.filterMap spinLabel := by
    rw [same, List.filterMap_cons_none rfl]
  rw [silent]
  refine shows.imp_right fun takes => ⟨takes, ?_⟩
  have locked : .sets (some writer) .lock ∈ rest := mem_takes.mp (by simp [takes])
  rw [same] at split
  cases earlier with
  | nil =>
    obtain rfl : rest = later ++ after := by simpa using split
    exact (List.mem_append.mp locked).resolve_left unlocked
  | cons =>
    obtain ⟨rfl, rfl⟩ := List.cons_eq_cons.mp split
    exact (plain (.cancels (some (some writer)) struck) (by simp)).elim

/-- A writer that is owed the lock waits for it, and the reader is not the first to find
it free. -/
structure Prior (labels : Shown Writer) (ctx : Context Writer) : Prop where
  queued : Queued ctx
  lets : ∀ writer, Owed labels writer → ctx.spin.Lets (some writer) none
  first : CancellerFirst labels

theorem Prior.step {event : Event Writer} (prior : Prior labels ctx) (reached : Reached ctx.tun)
    (stepped : step lib ctx event = some result)
    (gives : ∀ releaser writer, .clears (some releaser) .lock ∈ result.2 → Owed labels writer →
      ctx.spin.spinners.head? ≠ some none) :
    Prior (labels ++ result.2) result.1 := by
  obtain ⟨queued, spun⟩ := prior.queued.step reached stepped
  have held : ∀ label writer, result.2.filterMap spinLabel = [label] →
      SpinQueue.Step Barges ctx.spin label result.1.spin → Owed labels writer →
      label ≠ .takes none ∧ (label ≠ .takes (some writer) → result.1.spin.Lets (some writer) none) := by
    intro label writer one step owed
    apply (prior.lets writer owed).step step (by simp)
    rintro (_ | releaser) rfl other
    · exact absurd rfl other
    · have member : .gives (some releaser) ∈ result.2.filterMap spinLabel := by
        rw [one]
        exact List.mem_singleton_self _
      exact gives releaser writer (mem_gives.mp member) owed
  refine ⟨queued, fun writer owed => ?_, fun earlier later split writer owed => ?_⟩
  · rcases owed_append owed with now | ⟨before, unlocked⟩
    · rcases owed_step stepped (List.append_nil _).symm now with refused | ⟨_, absent⟩
      · cases spun with
        | still nothing => simp [nothing] at refused
        | step one step =>
          obtain rfl : _ = _ := List.singleton_inj.mp (one.symm.trans refused)
          exact Spin.lets_refused step
      · cases absent
    · cases spun with
      | still _ same =>
        rw [same]
        exact prior.lets writer before
      | @step label one step =>
        apply (held label writer one step before).2
        rintro rfl
        apply unlocked
        apply mem_takes.mp
        rw [one]
        exact List.mem_singleton_self _
  · rcases append_split split with ⟨middle, rfl, same⟩ | ⟨between, same, _⟩
    · -- The read locks in this step.
      have locks : .takes none ∈ result.2.filterMap spinLabel := mem_takes.mpr (by simp [same])
      rcases owed_append owed with now | ⟨before, _⟩
      · rcases owed_step stepped same now with refused | ⟨takes, _⟩
        · simp [refused] at locks
        · simp [takes] at locks
      · cases spun with
        | still nothing => simp [nothing] at locks
        | @step label one step =>
          rw [one, List.mem_singleton] at locks
          exact (held label writer one step before).1 locks.symm
    · exact prior.first earlier between same writer owed

omit [DecidableEq Writer] in
private theorem prior_nil : Prior ([] : Shown Writer) {} where
  queued := ⟨List.nodup_nil, fun _ => by simp [Context.resumers, ToResume]⟩
  lets _ owed := by simp [Owed] at owed
  first _ _ split := by simp at split

/-! ### The condition -/

/-- A write does not give `lock_` back while the reader is first in the queue for it and
a writer is owed it. -/
def GivesInTurn (record : List (Shown Writer) × Context Writer) (shown : Shown Writer) : Prop :=
  ∀ releaser writer, .clears (some releaser) .lock ∈ shown → Owed record.1.flatten writer →
    record.2.spin.spinners.head? ≠ some none

/-- Whether the writer is owed the lock. -/
def owes (writer : Writer) : Shown Writer → Bool
  | [] => false
  | .cancels (some (some who)) struck :: later =>
    (who = writer ∧ none ∈ struck ∧ .sets (some writer) .lock ∉ later) || owes writer later
  | _ :: later => owes writer later

omit [DecidableEq Writer] in
private theorem owed_cons {label : Label (Party Writer)} :
    Owed (label :: labels) writer ↔
      (∃ struck, label = .cancels (some (some writer)) struck ∧ none ∈ struck ∧
        .sets (some writer) .lock ∉ labels) ∨ Owed labels writer := by
  constructor
  · rintro ⟨_ | ⟨first, earlier⟩, struck, later, split, pending, unlocked⟩
    · obtain ⟨rfl, rfl⟩ := List.cons_eq_cons.mp split
      exact .inl ⟨struck, rfl, pending, unlocked⟩
    · obtain ⟨rfl, rfl⟩ := List.cons_eq_cons.mp split
      exact .inr ⟨earlier, struck, later, rfl, pending, unlocked⟩
  · rintro (⟨struck, rfl, pending, unlocked⟩ | ⟨earlier, struck, later, rfl, pending, unlocked⟩)
    · exact ⟨[], struck, labels, rfl, pending, unlocked⟩
    · exact ⟨label :: earlier, struck, later, rfl, pending, unlocked⟩

theorem owes_iff : owes writer labels = true ↔ Owed labels writer := by
  fun_induction owes writer labels with
  | case1 => simp [Owed]
  | case2 who struck later ih =>
    rw [owed_cons, Bool.or_eq_true, decide_eq_true_eq, ih]
    refine or_congr_left ⟨?_, ?_⟩
    · rintro ⟨rfl, pending, unlocked⟩
      exact ⟨struck, rfl, pending, unlocked⟩
    · rintro ⟨_, same, pending, unlocked⟩
      cases same
      exact ⟨rfl, pending, unlocked⟩
  | case3 label later other ih =>
    rw [owed_cons, ih, or_iff_right]
    rintro ⟨struck, same, _⟩
    exact other writer struck same

instance : Decidable (Owed labels writer) := decidable_of_iff _ owes_iff

instance [Fintype Writer] (record : List (Shown Writer) × Context Writer) (shown : Shown Writer) :
    Decidable (GivesInTurn record shown) :=
  inferInstanceAs (Decidable (∀ releaser writer, .clears (some releaser) .lock ∈ shown →
    Owed record.1.flatten writer → record.2.spin.spinners.head? ≠ some none))

/-- A writer that has cancelled the pending read locks before the next, as long as no
write ends while the reader comes first in the queue. -/
theorem canceller_first (lib : Library) {trace : List (Shown Writer)}
    {record : List (Shown Writer) × Context Writer}
    (run : ((machine Writer lib).recorded.system.guarded GivesInTurn).Run trace record) :
    CancellerFirst trace.flatten := by
  have prior : Prior record.1.flatten record.2 := by
    revert run
    apply System.Run.invariant
    · rintro _ rfl
      exact prior_nil
    · intro trace before shown after earlier prior step
      obtain ⟨⟨event, recorded⟩, gives⟩ := step
      obtain ⟨⟨reached, _⟩, stepped, same⟩ := Option.map_eq_some_iff.mp recorded
      cases same
      have run := (Machine.recorded_run earlier.unguarded).2
      rw [List.flatten_append, List.flatten_singleton]
      exact prior.step (run_reached run) stepped gives
  rw [← (Machine.recorded_run run.unguarded).1]
  exact prior.first

/-- One of two writers cancels, the other writes when the read is over and ends while the
reader comes second in the queue. -/
theorem canceller_first_two_writers :
    ∃ trace ctx, (system Bool ⟨.atOnce, .atOnce, .places⟩).Run trace ctx ∧ CancellerFirst trace.flatten ∧
      .sets (some false) .lock ∈ trace.flatten := by
  have run := Machine.guarded_run (Machine.replay_run (show Machine.replay
    ((machine Bool ⟨.atOnce, .atOnce, .places⟩).recorded.guarded GivesInTurn) _
    [.read, .next, .write false [1], .next, .next, .next, .next, .next, .read, .write true [2],
      .completes (some true) ⟨none, 1⟩, .next, .next, .next, .next, .next, .next, .next, .next] = _ from rfl))
  exact ⟨_, _, (Machine.recorded_run run.unguarded).2, canceller_first _ run, by decide⟩

/-- It ends while the reader comes first, and the reader locks before the writer that
has cancelled its read. -/
theorem canceller_overtaken :
    ¬ ∃ lib, ∀ trace ctx, (system Bool lib).Run trace ctx → CancellerFirst trace.flatten := by
  rintro ⟨⟨ready, completed, strand⟩, first⟩
  cases ready with
  | atOnce =>
    cases completed <;> cases strand <;>
    · have overtaken := first _ _ (Machine.replay_run (show Machine.replay _ _
        [.read, .next, .write false [1], .next, .next, .next, .next, .next, .read, .write true [2],
          .next, .completes (some true) ⟨none, 1⟩, .next, .next, .next, .next, .next, .next,
          .next] = _ from rfl))
      exact overtaken.not_owed 29 rfl (show Owed _ false by decide)
  | posted =>
    cases completed <;> cases strand <;>
    · have overtaken := first _ _ (Machine.replay_run (show Machine.replay _ _
        [.read, .next, .next, .write false [1], .next, .next, .next, .next, .next, .read, .write true [2],
          .next, .next, .next, .next, .completes (some true) ⟨none, 1⟩, .next, .next, .next, .next,
          .next, .next, .next] = _ from rfl))
      exact overtaken.not_owed 31 rfl (show Owed _ false by decide)

/-- With one writer, as the comments have it, the canceller is always first. -/
theorem one_canceller_first (lib : Library) [Subsingleton Writer] {trace : List (Shown Writer)}
    (run : (system Writer lib).Run trace ctx) : CancellerFirst trace.flatten := by
  have prior : Prior trace.flatten ctx := by
    revert run
    apply System.Run.invariant
    · rintro _ rfl
      exact prior_nil
    · intro trace before shown after earlier prior step
      obtain ⟨event, stepped⟩ := step
      have reached := run_reached earlier
      rw [List.flatten_append, List.flatten_singleton]
      refine prior.step reached stepped fun releaser writer clears owed _ => ?_
      -- The writer that ends is the one that waits.
      obtain rfl : writer = releaser := Subsingleton.elim ..
      have gives := mem_gives.mpr clears
      cases (prior.queued.step reached stepped).2 with
      | still nothing => simp [nothing] at gives
      | step one step =>
        rw [one, List.mem_singleton] at gives
        subst gives
        exact step.gone (prior.lets writer owed).waits
  exact prior.first

end Vpverk.TunSchedule
