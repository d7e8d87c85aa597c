import Vpverk.TunSchedule

/-! What `tun.cancel()` strikes. Every run of the context is a run of
`Vpverk.TunLocks`, so one operation at a time is in flight; whose it is when a
function of the strand cancels depends on what the strand and the futures do. -/
namespace Vpverk.TunSchedule
open Octets Asioapi Transition Flags TunLocks

variable {Writer : Type} {lib : Library} {ctx ctx' : Context Writer} {party : Party Writer}
  {kind : Kind} {tun tun' : Tun (Party Writer)} {shown : Shown Writer}

@[simp] theorem put_tun : (ctx.put tun).tun = tun := rfl
@[simp] theorem post_tun (task : Task Writer) : (ctx.post task).tun = ctx.tun := rfl
@[simp] theorem cancelTimer_tun : ctx.cancelTimer.tun = ctx.tun := by
  unfold Context.cancelTimer
  split <;> rfl
@[simp] theorem postStrand_tun (function : Function Writer) :
    (ctx.postStrand lib function).tun = ctx.tun := by
  unfold Context.postStrand
  split <;> rfl
@[simp] theorem endTurn_tun : ctx.endTurn.tun = ctx.tun := by
  unfold Context.endTurn
  split <;> rfl

/-! ### The steps of a task -/

variable [DecidableEq Writer]

/-- Steps of `Vpverk.TunLocks` with what they show. -/
abbrev Fine (tun : Tun (Party Writer)) (shown : Shown Writer) (tun' : Tun (Party Writer)) : Prop :=
  (TunLocks.system (Party Writer)).Steps tun shown tun'

private theorem fine_event (event : TunLocks.Event (Party Writer)) {label : Label (Party Writer)}
    (stepped : TunLocks.step tun event = some (tun', label)) : Fine tun [label] tun' :=
  System.Steps.refl.next ⟨event, stepped⟩

private theorem fine_run {label : Label (Party Writer)} {here : At} (alive : tun.aborted = false)
    (stands : tun.at' party = here) (ran : TunLocks.run tun party here = some (tun', label)) :
    Fine tun [label] tun' :=
  fine_event (.runs party) (by simp [TunLocks.step, alive, stands, ran])

theorem start_fine (alive : ctx.tun.aborted = false) (stands : ctx.tun.at' party = .locked kind) :
    Fine ctx.tun (ctx.start party kind).2 (ctx.start party kind).1.tun := by
  cases kind with
  | read =>
    have marks : Fine ctx.tun [(ctx.tun.markRead party).2] (ctx.tun.markRead party).1 :=
      fine_run alive stands rfl
    have starts : Fine (ctx.tun.markRead party).1
        [((ctx.tun.markRead party).1.start party .read).2]
        ((ctx.tun.markRead party).1.start party .read).1 :=
      fine_event (.runs party) (by simp [TunLocks.step, TunLocks.run, Tun.markRead, Tun.move,
        Tun.setFlag, alive])
    simpa [Context.start] using marks.trans starts
  | write ipPacket => exact fine_run alive stands rfl

theorem lock_fine (future : Resumption) (ctx : Context Writer) (party : Party Writer) (kind : Kind)
    (alive : ctx.tun.aborted = false) (stands : ctx.tun.at' party = .locking kind) :
    Fine ctx.tun (ctx.lock future party kind).2 (ctx.lock future party kind).1.tun := by
  have exchanges : Fine ctx.tun [(ctx.tun.exchange party kind).2] (ctx.tun.exchange party kind).1 :=
    fine_run alive stands rfl
  unfold Context.lock
  dsimp only
  split
  · exact exchanges
  · rename_i free
    split
    · exact exchanges
    · have locked : (ctx.tun.exchange party kind).1.at' party = .locked kind := by
        simp [Tun.exchange, free]
      have alive' : (ctx.tun.exchange party kind).1.aborted = false := by
        unfold Tun.exchange
        split <;> exact alive
      have starts : Fine (ctx.put (ctx.tun.exchange party kind).1).tun _ _ := start_fine alive' locked
      exact exchanges.trans starts

theorem finish_fine {outcome : TunLocks.Outcome} (alive : ctx.tun.aborted = false)
    (stands : ctx.tun.at' party = .resumed kind outcome) :
    Fine ctx.tun (ctx.finish party outcome kind).2 (ctx.finish party outcome kind).1.tun := by
  have returns : ∀ tun : Tun (Party Writer), tun.aborted = false → tun.at' party = .returns outcome →
      Fine tun [.returned party outcome] (tun.move party .idle) :=
    fun tun alive stands => fine_run alive stands rfl
  cases kind with
  | read =>
    have first : Fine ctx.tun _ (ctx.tun.clear party .itIsReadLock (.leaving outcome)).1 :=
      fine_run alive stands rfl
    have second : Fine (ctx.tun.clear party .itIsReadLock (.leaving outcome)).1 _
        ((ctx.tun.clear party .itIsReadLock (.leaving outcome)).1.clear party .lock
          (.returns outcome)).1 :=
      fine_run alive Tun.move_self rfl
    exact (first.trans second).trans (returns _ alive Tun.move_self)
  | write ipPacket =>
    have first : Fine ctx.tun _ (ctx.tun.clear party .lock (.returns outcome)).1 :=
      fine_run alive stands rfl
    exact first.trans (returns _ alive Tun.move_self)

theorem handle_fine {completion : Completion} (alive : ctx.tun.aborted = false)
    (stands : ctx.tun.at' party = .completed kind completion) :
    Fine ctx.tun (ctx.handle party kind completion).2 (ctx.handle party kind completion).1.tun := by
  have handles : Fine ctx.tun [(ctx.tun.handle party kind completion).2]
      (ctx.tun.handle party kind completion).1 :=
    fine_event (.handles party) (by simp [TunLocks.step, alive, stands])
  unfold Context.handle
  dsimp only
  split
  · exact handles
  · split <;> simpa using handles

variable {result : Context Writer × Shown Writer}

/-- A function of the strand is made of steps of `Vpverk.TunLocks`. -/
theorem call_fine {function : Function Writer} (alive : ctx.tun.aborted = false)
    (called : ctx.call lib function = some result) : Fine ctx.tun result.2 result.1.tun := by
  cases function with
  | post party =>
    dsimp only [Context.call] at called
    split at called <;> cases called
    rename_i ipPacket stands
    have cancels : Fine ctx.tun [.cancels (some party) ctx.tun.operations]
        ((ctx.tun.cancel (some party)).1.move party (.locking (.write ipPacket))) :=
      fine_run alive stands rfl
    have same : ctx.cancelTimer.tun = ctx.tun := cancelTimer_tun
    rw [← same] at cancels
    have locks := lock_fine lib.ready ((ctx.cancelTimer.cancel (some party)).put
      ((ctx.cancelTimer.cancel (some party)).tun.move party (.locking (.write ipPacket)))) party
      (.write ipPacket) (by simpa [Context.cancel, Tun.cancel, Tun.move]) Tun.move_self
    simpa using cancels.trans locks
  | handler party =>
    dsimp only [Context.call] at called
    split at called <;> cases called
    rename_i stands
    exact handle_fine alive stands
  | timer canceled =>
    cases canceled <;> cases called
    · exact fine_event .timer (by simp [TunLocks.step, alive]; rfl)
    · exact .refl

theorem resume_fine (alive : ctx.tun.aborted = false)
    (resumed : ctx.resume lib party = some result) : Fine ctx.tun result.2 result.1.tun := by
  unfold Context.resume at resumed
  split at resumed <;> cases resumed
  · rename_i stands
    have rescheds : Fine ctx.tun [.quiet] (ctx.tun.move party (.locking .read)) :=
      fine_run alive stands rfl
    have locks := lock_fine lib.ready (ctx.put (ctx.tun.move party (.locking .read))) party .read alive
      Tun.move_self
    exact rescheds.trans locks
  · rename_i stands
    exact lock_fine lib.completed ctx party _ alive stands
  · rename_i stands
    exact start_fine alive stands
  · rename_i stands
    exact finish_fine alive stands

theorem execute_fine (ctx : Context Writer) {task : Task Writer} (alive : ctx.tun.aborted = false)
    (executed : ctx.execute lib task = some result) : Fine ctx.tun result.2 result.1.tun := by
  cases task with
  | resume party => exact resume_fine alive executed
  | slot function =>
    dsimp only [Context.execute] at executed
    split at executed
    · cases executed
      exact .refl
    · exact call_fine alive executed
  | turn function =>
    dsimp only [Context.execute] at executed
    split at executed <;> cases executed
    rename_i called
    simpa using call_fine alive called

/-- Whatever happens to the context is made of steps of `Vpverk.TunLocks`. -/
theorem step_fine {event : Event Writer} (stepped : step lib ctx event = some result) :
    Fine ctx.tun result.2 result.1.tun := by
  obtain ⟨alive, takes⟩ := step_takes stepped
  have calls : ∀ writer ipPacket, ctx.tun.at' (some writer) = .idle →
      Fine ctx.tun [.calls (some writer) (.write ipPacket)]
        (ctx.tun.move (some writer) (.called (.write ipPacket))) :=
    fun writer ipPacket stands =>
      fine_event (.call (some writer) (.write ipPacket)) (by simp [TunLocks.step, alive, stands])
  cases takes with
  | reads stands => exact fine_event (.call none .read) (by simp [TunLocks.step, alive, stands])
  | @posts writer ipPacket stands reading =>
    have sees : Fine (ctx.tun.move (some writer) (.called (.write ipPacket))) [.quiet]
        ((ctx.tun.move (some writer) (.called (.write ipPacket))).move (some writer)
          (.posted ipPacket)) :=
      fine_run alive Tun.move_self (by simp [TunLocks.run, Tun.move, reading])
    simpa using (calls writer ipPacket stands).trans sees
  | @writes writer ipPacket _ stands notReading locks =>
    subst locks
    have looks : Fine (ctx.tun.move (some writer) (.called (.write ipPacket))) [.quiet]
        ((ctx.tun.move (some writer) (.called (.write ipPacket))).move (some writer)
          (.locking (.write ipPacket))) :=
      fine_run alive Tun.move_self (by simp [TunLocks.run, Tun.move, notReading])
    have locks := lock_fine lib.ready (ctx.put ((ctx.tun.move (some writer)
      (.called (.write ipPacket))).move (some writer) (.locking (.write ipPacket))))
      (some writer) (.write ipPacket) alive Tun.move_self
    exact ((calls writer ipPacket stands).trans looks).trans locks
  | @next _ rest _ _ executed => exact execute_fine { ctx with ready := rest } alive executed
  | @completes party _ completion stands own =>
    exact fine_event (.completes party completion) (by simp [TunLocks.step, alive, stands, own])
  | expires _ => exact .refl

/-! ### What the steps show -/

/-- Neither a `tun.cancel()` nor a call. -/
def Plain : Label (Party Writer) → Prop
  | .cancels _ _ | .calls _ _ => False
  | _ => True

private theorem start_plain : ∀ label ∈ (ctx.start party kind).2, Plain label := by
  cases kind <;> simp [Context.start, Tun.markRead, Tun.start, Plain]

theorem lock_plain {future : Resumption} : ∀ label ∈ (ctx.lock future party kind).2, Plain label := by
  have exchanged : Plain (ctx.tun.exchange party kind).2 := by
    unfold Tun.exchange
    split <;> trivial
  unfold Context.lock
  dsimp only
  split
  · simpa using exchanged
  · split
    · simpa using exchanged
    · simpa using ⟨exchanged, start_plain⟩

private theorem finish_plain {outcome : TunLocks.Outcome} :
    ∀ label ∈ (ctx.finish party outcome kind).2, Plain label := by
  cases kind <;> simp [Context.finish, Tun.clear, Plain]

private theorem handle_plain {completion : Completion} :
    ∀ label ∈ (ctx.handle party kind completion).2, Plain label := by
  have handled : Plain (ctx.tun.handle party kind completion).2 := by
    unfold Tun.handle
    split <;> trivial
  unfold Context.handle
  dsimp only
  split
  · simpa using handled
  · split <;> simpa using handled

/-- What runs when a task does. -/
def Task.function : Task Writer → Option (Function Writer)
  | .resume _ => none
  | .slot function | .turn function => some function

/-- A function that calls `tun.cancel()`. -/
def Function.cancels : Function Writer → Option (Party Writer) → Prop
  | .post party, caller => caller = some party
  | .timer false, caller => caller = none
  | _, _ => False

theorem call_shown {function : Function Writer} (called : ctx.call lib function = some result) :
    ∀ label ∈ result.2, Plain label ∨
      ∃ caller, function.cancels caller ∧ label = .cancels caller ctx.tun.operations := by
  cases function with
  | post party =>
    dsimp only [Context.call] at called
    split at called <;> cases called
    intro label member
    rcases List.mem_cons.mp member with rfl | later
    · exact .inr ⟨some party, rfl, rfl⟩
    · exact .inl (lock_plain label later)
  | handler party =>
    dsimp only [Context.call] at called
    split at called <;> cases called
    exact fun label member => .inl (handle_plain label member)
  | timer canceled =>
    cases canceled <;> cases called
    · exact fun label member => .inr ⟨none, rfl, List.mem_singleton.mp member⟩
    · simp

theorem resume_shown (resumed : ctx.resume lib party = some result) : ∀ label ∈ result.2, Plain label := by
  unfold Context.resume at resumed
  split at resumed <;> cases resumed
  · simpa using ⟨trivial, lock_plain⟩
  · exact lock_plain
  · exact start_plain
  · exact finish_plain

theorem execute_shown (ctx : Context Writer) {task : Task Writer}
    (executed : ctx.execute lib task = some result) :
    ∀ label ∈ result.2, Plain label ∨ ∃ function caller, task.function = some function ∧
      function.cancels caller ∧ label = .cancels caller ctx.tun.operations := by
  intro label member
  cases task with
  | resume party => exact .inl (resume_shown executed label member)
  | slot function =>
    dsimp only [Context.execute] at executed
    split at executed
    · cases executed
      cases member
    · exact (call_shown executed label member).imp_right
        fun ⟨caller, cancels, same⟩ => ⟨function, caller, rfl, cancels, same⟩
  | turn function =>
    dsimp only [Context.execute] at executed
    split at executed <;> cases executed
    rename_i called
    exact (call_shown called label member).imp_right
      fun ⟨caller, cancels, same⟩ => ⟨function, caller, rfl, cancels, same⟩

/-- The coroutine that reads only reads, and the writers only write. -/
def Plays : Party Writer → Kind → Prop
  | none, .read | some _, .write _ => True
  | none, .write _ | some _, .read => False

theorem step_shown {event : Event Writer} (stepped : step lib ctx event = some result) :
    ∀ label ∈ result.2, Plain label ∨
      (∃ party kind, Plays party kind ∧ label = .calls party kind) ∨
      ∃ task rest function caller, ctx.ready = task :: rest ∧ task.function = some function ∧
        function.cancels caller ∧ label = .cancels caller ctx.tun.operations := by
  intro label member
  have plays : ∀ (writer : Writer) ipPacket, Plays (some writer) (.write ipPacket) :=
    fun _ _ => trivial
  cases (step_takes stepped).2 with
  | reads _ => exact .inr (.inl ⟨none, .read, trivial, by simpa using member⟩)
  | posts _ _ =>
    simp only [List.mem_cons, List.not_mem_nil, or_false] at member
    rcases member with rfl | rfl
    · exact .inr (.inl ⟨_, _, plays _ _, rfl⟩)
    · exact .inl trivial
  | writes _ _ locks =>
    subst locks
    simp only [List.mem_cons] at member
    rcases member with rfl | rfl | later
    · exact .inr (.inl ⟨_, _, plays _ _, rfl⟩)
    · exact .inl trivial
    · exact .inl (lock_plain label later)
  | @next task rest _ front executed =>
    rcases execute_shown { ctx with ready := rest } executed label member with
      plain | ⟨function, caller, runs, cancels, same⟩
    · exact .inl plain
    · exact .inr (.inr ⟨task, rest, function, caller, front, runs, cancels, same⟩)
  | completes _ _ =>
    rw [List.mem_singleton.mp member]
    exact .inl trivial
  | expires _ => cases member

variable {trace : List (Shown Writer)}

theorem run_fine (run : (system Writer lib).Run trace ctx) :
    (TunLocks.system (Party Writer)).Run trace.flatten ctx.tun := by
  obtain ⟨start, rfl, steps⟩ := run
  refine ⟨{}, rfl, ?_⟩
  induction steps with
  | refl => exact .refl
  | next _ step ih =>
    obtain ⟨event, stepped⟩ := step
    simpa using ih.trans (step_fine stepped)

theorem run_plays (run : (system Writer lib).Run trace ctx)
    (stands : (ctx.tun.at' party).inCall = some kind) : Plays party kind := by
  obtain ⟨shown, among, called⟩ := List.mem_flatten.mp (run_kind (run_fine run) stands)
  obtain ⟨earlier, later, split⟩ := List.append_of_mem among
  obtain ⟨before, after, _, ⟨event, stepped⟩, _⟩ := run.entry split
  rcases step_shown stepped _ called with plain | ⟨party, kind, plays, same⟩ |
    ⟨_, _, _, _, _, _, _, same⟩
  · exact plain.elim
  · cases same
    exact plays
  · cases same

/-- What `write` could look at once more before it calls `tun.cancel()`: whether
`it_is_read_lock` is set, `lock_` free, or nothing in flight. -/
def Rechecked (tun : Tun (Party Writer)) : Prop :=
  tun.flags .itIsReadLock = true ∨ tun.flags .lock = false ∨ tun.operations = []

/-- A write is in flight exactly when none of these holds. -/
theorem rechecked_iff (run : (system Writer lib).Run trace ctx) :
    Rechecked ctx.tun ↔ ∀ writer, some writer ∉ ctx.tun.operations := by
  have run' := run_fine run
  obtain ⟨kept, _⟩ := (disciplined (Party Writer)).run run'
  have inFlight := run_operations run'
  constructor
  · intro rechecked writer member
    obtain ⟨kind, waits⟩ := (inFlight.mem _).mp member
    have plays : Plays (some writer) kind := run_plays run (by rw [waits]; rfl)
    cases kind with
    | read => exact plays
    | write ipPacket =>
      have owns : ctx.tun.standing.owns (some writer) .lock := by simp [Tun.standing, waits, At.owns]
      rcases rechecked with reading | free | none_flies
      · obtain ⟨reader, held⟩ := (kept.up_iff .itIsReadLock).mp reading
        have lock : ctx.tun.standing.owns reader .lock := At.owns_lock held
        obtain rfl := kept.one lock owns
        simp [Tun.standing, waits, At.owns] at held
      · have up : ctx.tun.flags .lock = true := (kept.up_iff .lock).mpr ⟨_, owns⟩
        rw [free] at up
        cases up
      · simp [none_flies] at member
  · intro none_writes
    by_cases nothing : ctx.tun.operations = []
    · exact .inr (.inr nothing)
    · obtain ⟨party, member⟩ := List.exists_mem_of_ne_nil _ nothing
      obtain ⟨kind, waits⟩ := (inFlight.mem _).mp member
      cases party with
      | some writer => exact absurd member (none_writes writer)
      | none =>
        have plays : Plays none kind := run_plays run (by rw [waits]; rfl)
        cases kind with
        | write => exact plays.elim
        | read =>
          exact .inl ((kept.up_iff .itIsReadLock).mpr
            ⟨none, by simp [Tun.standing, waits, At.owns]⟩)

end Vpverk.TunSchedule
