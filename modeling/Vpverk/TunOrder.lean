import Vpverk.TunCancel

/-! The order of the ready queue, where each function of the strand takes a place
of its own. The callback of an expired timer comes before the read it belongs to
is resumed. Where futures are posted too, a write starts only when no function of
the strand stands in the queue any more that saw the read before it. -/
namespace Vpverk.TunSchedule
open Octets Asioapi Transition Flags TunLocks

variable {Writer : Type} {lib : Library} {ctx : Context Writer} {party : Party Writer} {kind : Kind}

/-- Whose task it is. -/
def Function.owner : Function Writer → Option (Party Writer)
  | .post party | .handler party => some party
  | .timer _ => none

def Task.owner : Task Writer → Option (Party Writer)
  | .resume party => some party
  | .slot function | .turn function => function.owner

/-- A coroutine to be resumed by a task. -/
def ToResume : At → Prop
  | .called _ | .locking _ | .locked _ | .resumed _ _ => True
  | _ => False

/-- The function finds its party where it expects it. -/
def Function.Fits (at' : Party Writer → At) : Function Writer → Prop
  | .post party => ∃ ipPacket, at' party = .posted ipPacket
  | .handler party => ∃ kind completion, at' party = .completed kind completion
  | .timer _ => True

def Task.Fits (at' : Party Writer → At) : Task Writer → Prop
  | .resume party => ToResume (at' party)
  | .slot function | .turn function => function.Fits at'

/-- The callback of the timer after it has expired. -/
def Task.Expired (task : Task Writer) : Prop := task.function = some (.timer false)

/-- A function of the strand in which a write will call `tun.cancel()`. -/
def Task.Posted (task : Task Writer) : Prop := ∃ party, task.function = some (.post party)

/-- The read for which the timer was armed is not over. -/
def Timing (here : At) : Prop :=
  here = .waits .read ∨
    ∃ completion, here = .completed .read completion ∧ completion.code ≠ some .operationCanceled

def Writing (here : At) : Prop := ∃ ipPacket, here = .waits (.write ipPacket)
def AboutToWrite (here : At) : Prop := ∃ ipPacket, here = .locked (.write ipPacket)

/-- The invariant of the ready queue. -/
structure Sound (lib : Library) (ctx : Context Writer) : Prop where
  noTurns : ctx.waiting = []
  fits : ∀ task ∈ ctx.ready, task.Fits ctx.tun.at'
  once : (ctx.ready.filterMap Task.owner).Nodup
  timing : ctx.timerWaits = true → Timing (ctx.tun.at' none)
  due : ∀ task ∈ ctx.ready, task.Expired →
    ctx.timerWaits = false ∧ (ctx.tun.at' none).owns .itIsReadLock = true
  inTime : ctx.ready.Pairwise fun earlier later => later.Expired → earlier ≠ .resume none
  spares : lib.Posts → ∀ task ∈ ctx.ready, task.Posted →
    ∀ party, ¬ Writing (ctx.tun.at' party)
  behind : lib.Posts → ctx.ready.Pairwise fun earlier later => later.Posted →
    ∀ party, earlier = .resume party → ¬ AboutToWrite (ctx.tun.at' party)

/-- The party has no task. -/
def Away (ctx : Context Writer) (party : Party Writer) : Prop :=
  party ∉ ctx.ready.filterMap Task.owner

/-- The party runs: it has no task, and the coroutine that reads has no timer. -/
structure Runs (ctx : Context Writer) (party : Party Writer) : Prop where
  away : Away ctx party
  untimed : party = none → ctx.timerWaits = false ∧ ∀ task ∈ ctx.ready, ¬ task.Expired

/-! ### What keeps the invariant -/

theorem Task.Fits.other {at' at'' : Party Writer → At} {task : Task Writer} (fits : task.Fits at')
    (same : ∀ party, task.owner = some party → at'' party = at' party) : task.Fits at'' := by
  cases task with
  | resume party => simpa [Task.Fits, same party rfl] using fits
  | slot function | turn function =>
    cases function with
    | post party => simpa [Task.Fits, Function.Fits, same party rfl] using fits
    | handler party => simpa [Task.Fits, Function.Fits, same party rfl] using fits
    | timer => trivial

theorem Away.other (away : Away ctx party) {task : Task Writer} (member : task ∈ ctx.ready) :
    task.owner ≠ some party :=
  fun same => away (List.mem_filterMap.mpr ⟨task, member, same⟩)

variable {task : Task Writer} {next : At} {tun : Tun (Party Writer)}

/-- A task is posted. -/
theorem Sound.post (sound : Sound lib ctx) (own : ∀ party, task.owner = some party → Away ctx party)
    (fits : task.Fits ctx.tun.at')
    (expired : task.Expired → ctx.timerWaits = false ∧ (ctx.tun.at' none).owns .itIsReadLock = true ∧
      .resume none ∉ ctx.ready)
    (posted : lib.Posts → task.Posted → ∀ party, ¬ Writing (ctx.tun.at' party) ∧
      ¬ AboutToWrite (ctx.tun.at' party)) :
    Sound lib (ctx.post task) := by
  have members : ∀ {later}, later ∈ (ctx.post task).ready ↔ later ∈ ctx.ready ∨ later = task := by
    simp [Context.post]
  refine ⟨sound.noTurns, fun later member => ?_, ?_, sound.timing, fun later member due => ?_, ?_,
    fun future later member post party => ?_, fun future => ?_⟩
  · rcases members.mp member with old | rfl
    · exact sound.fits later old
    · exact fits
  · have split : (ctx.post task).ready.filterMap Task.owner =
        ctx.ready.filterMap Task.owner ++ task.owner.toList := by
      cases owner : task.owner <;> simp [Context.post, owner]
    rw [split, List.nodup_append]
    refine ⟨sound.once, by cases task.owner <;> simp, ?_⟩
    rintro one member _ owner rfl
    exact own one (Option.mem_toList.mp owner) member
  · rcases members.mp member with old | rfl
    · exact sound.due later old due
    · exact ⟨(expired due).1, (expired due).2.1⟩
  · refine List.pairwise_append.mpr ⟨sound.inTime, List.pairwise_singleton .., ?_⟩
    rintro earlier member later last due rfl
    rw [List.mem_singleton.mp last] at due
    exact (expired due).2.2 member
  · rcases members.mp member with old | rfl
    · exact sound.spares future later old post party
    · exact (posted future post party).1
  · refine List.pairwise_append.mpr ⟨sound.behind future, List.pairwise_singleton .., ?_⟩
    intro earlier _ later last post party _
    rw [List.mem_singleton.mp last] at post
    exact (posted future post party).2

/-- A task that neither expired nor cancels is posted. -/
theorem Sound.post_plain (sound : Sound lib ctx)
    (own : ∀ party, task.owner = some party → Away ctx party) (fits : task.Fits ctx.tun.at')
    (notExpired : ¬ task.Expired) (notPosted : ¬ task.Posted) : Sound lib (ctx.post task) :=
  sound.post own fits (fun expired => absurd expired notExpired)
    fun _ posted => absurd posted notPosted

/-- The wait for the timer is over. -/
theorem Sound.untimed (sound : Sound lib ctx) : Sound lib { ctx with timerWaits := false } :=
  { sound with
    timing := fun waits => by cases waits
    due := fun task member expired => ⟨rfl, (sound.due task member expired).2⟩ }

theorem Sound.cancelTimer (sound : Sound lib ctx) : Sound lib ctx.cancelTimer := by
  unfold Context.cancelTimer
  split
  · exact sound.untimed.post_plain (by simp [Task.owner, Function.owner]) trivial
      (by simp [Task.Expired, Task.function]) (by simp [Task.Posted, Task.function])
  · exact sound

theorem cancelTimer_waits : ctx.cancelTimer.timerWaits = false := by
  unfold Context.cancelTimer
  split
  · rfl
  · rename_i quiet
    simpa using quiet

theorem cancelTimer_away (away : Away ctx party) : Away ctx.cancelTimer party := by
  unfold Context.cancelTimer
  split
  · simpa [Away, Context.post, Task.owner, Function.owner] using away
  · exact away

theorem put_cancelTimer : (ctx.put tun).cancelTimer = ctx.cancelTimer.put tun := by
  unfold Context.cancelTimer
  change (if ctx.timerWaits then _ else _) = _
  split <;> rfl

/-- A party that no task fits has none. -/
theorem Sound.away (sound : Sound lib ctx) (resume : ¬ ToResume (ctx.tun.at' party))
    (post : ∀ ipPacket, ctx.tun.at' party ≠ .posted ipPacket)
    (handler : ∀ kind completion, ctx.tun.at' party ≠ .completed kind completion) :
    Away ctx party := by
  intro member
  obtain ⟨task, among, owner⟩ := List.mem_filterMap.mp member
  have fits := sound.fits task among
  cases task with
  | resume who =>
    cases owner
    exact resume fits
  | slot function | turn function =>
    cases function with
    | post who =>
      cases owner
      obtain ⟨ipPacket, stands⟩ := fits
      exact post ipPacket stands
    | handler who =>
      cases owner
      obtain ⟨kind, completion, stands⟩ := fits
      exact handler kind completion stands
    | timer => cases owner

variable [DecidableEq Writer]

/-- A party without a task moves. -/
theorem Sound.move (sound : Sound lib ctx) (away : Away ctx party)
    (moved : tun.at' = Function.update ctx.tun.at' party next)
    (timing : party = none → ctx.timerWaits = true → Timing next)
    (due : party = none → (∃ task ∈ ctx.ready, task.Expired) → next.owns .itIsReadLock = true)
    (spares : lib.Posts → (∃ task ∈ ctx.ready, task.Posted) → ¬ Writing next) :
    Sound lib (ctx.put tun) := by
  have there : tun.at' party = next := by rw [moved, Function.update_self]
  have others : ∀ who, who ≠ party → tun.at' who = ctx.tun.at' who :=
    fun who other => by rw [moved, Function.update_of_ne other]
  refine ⟨sound.noTurns, fun task member => ?_, sound.once, fun waits => ?_, fun task member expired => ?_,
    sound.inTime, fun posted task member post who => ?_, fun posted => ?_⟩
  · exact (sound.fits task member).other fun who owner =>
      others who fun same => away.other member (same ▸ owner)
  · by_cases self : none = party
    · subst self
      rw [put_tun, there]
      exact timing rfl waits
    · rw [put_tun, others none self]
      exact sound.timing waits
  · refine ⟨(sound.due task member expired).1, ?_⟩
    by_cases self : none = party
    · subst self
      rw [put_tun, there]
      exact due rfl ⟨task, member, expired⟩
    · rw [put_tun, others none self]
      exact (sound.due task member expired).2
  · by_cases self : who = party
    · subst self
      rw [put_tun, there]
      exact spares posted ⟨task, member, post⟩
    · rw [put_tun, others who self]
      exact sound.spares posted task member post who
  · refine (sound.behind posted).imp_of_mem fun {earlier later} member _ behind post who resumes => ?_
    have other : who ≠ party := by
      rintro rfl
      exact away.other member (resumes ▸ rfl)
    rw [put_tun, others who other]
    exact behind post who resumes

/-- `tun.cancel()`, when no timer belongs to what it ends. -/
theorem Sound.cancel (sound : Sound lib ctx) (inFlight : ctx.tun.InFlight)
    (untimed : ctx.timerWaits = false) (caller : Option (Party Writer)) :
    Sound lib (ctx.cancel caller) := by
  have waitsAway : ∀ party ∈ ctx.tun.operations, Away ctx party := by
    intro party member
    obtain ⟨kind, waits⟩ := (inFlight.mem party).mp member
    exact sound.away (by simp [waits, ToResume]) (by simp [waits]) (by simp [waits])
  have unstruck : ∀ party, party ∉ ctx.tun.operations →
      (ctx.cancel caller).tun.at' party = ctx.tun.at' party :=
    fun party absent => (cancel_at caller party).resolve_right fun struck => absent struck.1
  refine ⟨sound.noTurns, fun task member => ?_, ?_, fun waits => ?_, fun task member expired => ?_, ?_,
    fun _ _ _ _ party => ?_, fun future => ?_⟩
  · rcases List.mem_append.mp member with old | new
    · refine (sound.fits task old).other fun party owner => unstruck party fun struck => ?_
      exact (waitsAway party struck).other old owner
    · obtain ⟨party, struck, rfl⟩ := List.mem_map.mp new
      obtain ⟨kind, waits⟩ := (inFlight.mem party).mp struck
      exact ⟨kind, canceled, by simp [Context.cancel, Tun.cancel, struck, waits, At.canceled]⟩
  · have split : (ctx.cancel caller).ready.filterMap Task.owner =
        ctx.ready.filterMap Task.owner ++ ctx.tun.operations := by
      simp [Context.cancel, List.filterMap_map, Function.comp_def, Task.owner, Function.owner]
    rw [split, List.nodup_append]
    refine ⟨sound.once, inFlight.nodup, ?_⟩
    rintro party member _ struck rfl
    exact waitsAway party struck member
  · rw [Context.cancel, untimed] at waits
    cases waits
  · rcases List.mem_append.mp member with old | new
    · exact ⟨untimed, (cancel_owns caller none .itIsReadLock).trans (sound.due task old expired).2⟩
    · obtain ⟨party, _, rfl⟩ := List.mem_map.mp new
      simp [Task.Expired, Task.function] at expired
  · refine List.pairwise_append.mpr ⟨sound.inTime, ?_, fun earlier _ later new => ?_⟩
    · exact List.pairwise_map.mpr (List.pairwise_of_forall (by simp [Task.Expired, Task.function]))
    · obtain ⟨party, _, rfl⟩ := List.mem_map.mp new
      simp [Task.Expired, Task.function]
  · rintro ⟨ipPacket, waits⟩
    exact cancel_not_waits inFlight caller party _ waits
  · refine List.pairwise_append.mpr ⟨?_, ?_, fun earlier _ later new => ?_⟩
    · refine (sound.behind future).imp fun {earlier later} behind posted party resumes about => ?_
      apply behind posted party resumes
      obtain ⟨ipPacket, stands⟩ := about
      rcases cancel_at caller party with same | ⟨struck, same⟩
      · exact ⟨ipPacket, same.symm.trans stands⟩
      · obtain ⟨kind, waits⟩ := (inFlight.mem party).mp struck
        rw [waits] at same
        cases same.symm.trans stands
    · exact List.pairwise_map.mpr (List.pairwise_of_forall (by simp [Task.Posted, Task.function]))
    · obtain ⟨party, _, rfl⟩ := List.mem_map.mp new
      simp [Task.Posted, Task.function]

/-! ### What a coroutine does until it suspends -/

/-- A party that runs moves. -/
theorem Sound.runs_to (sound : Sound lib ctx) (runs : Runs ctx party) (next : At)
    (moved : tun.at' = Function.update ctx.tun.at' party next)
    (spares : lib.Posts → (∃ task ∈ ctx.ready, task.Posted) → ¬ Writing next) :
    Sound lib (ctx.put tun) := by
  refine sound.move runs.away moved (fun self waits => ?_) (fun self ⟨task, member, expired⟩ => ?_) spares
  · rw [(runs.untimed self).1] at waits
    cases waits
  · exact absurd expired ((runs.untimed self).2 task member)

omit [DecidableEq Writer] in
theorem Runs.put (runs : Runs ctx party) : Runs (ctx.put tun) party := ⟨runs.away, runs.untimed⟩

omit [DecidableEq Writer] in
/-- What is posted to resume a party. -/
theorem Sound.post_resume (sound : Sound lib ctx) (away : Away ctx party)
    (fits : ToResume (ctx.tun.at' party)) : Sound lib (ctx.post (.resume party)) := by
  refine sound.post_plain (fun who owner => ?_) fits (by simp [Task.Expired, Task.function])
    (by simp [Task.Posted, Task.function])
  cases owner
  exact away

theorem Sound.start (sound : Sound lib ctx) (runs : Runs ctx party) (plays : Plays party kind)
    (free : lib.Posts → party ≠ none → ¬ ∃ task ∈ ctx.ready, task.Posted) :
    Sound lib (ctx.start party kind).1 := by
  cases kind with
  | read =>
    cases party with
    | some writer => exact plays.elim
    | none =>
      obtain ⟨untimed, notDue⟩ := runs.untimed rfl
      have moved : Sound lib (ctx.put ((ctx.tun.markRead none).1.start none .read).1) := by
        refine sound.runs_to runs (.waits .read) ?_ (by simp [Writing])
        simp [Tun.markRead, Tun.start, Tun.move, Tun.setFlag]
      have quiet : ((ctx.put ((ctx.tun.markRead none).1.start none .read).1)).cancelTimer =
          ctx.put ((ctx.tun.markRead none).1.start none .read).1 := by
        unfold Context.cancelTimer
        exact if_neg (by simp [Context.put, untimed])
      dsimp only [Context.start]
      rw [quiet]
      exact { moved with
        timing := fun _ => .inl (by simp [Context.put, Tun.start])
        due := fun task member expired => absurd expired (notDue task member) }
  | write ipPacket =>
    cases party with
    | none => exact plays.elim
    | some writer =>
      exact sound.runs_to runs (.waits (.write ipPacket)) rfl
        fun future posted => absurd posted (free future (by simp))

theorem Sound.lock {future : Resumption} (sound : Sound lib ctx) (runs : Runs ctx party)
    (plays : Plays party kind) (posts : lib.Posts → future = .posted) :
    Sound lib (ctx.lock future party kind).1 := by
  unfold Context.lock
  dsimp only
  split
  · rename_i taken
    have moved : Sound lib (ctx.put (ctx.tun.exchange party kind).1) :=
      sound.runs_to runs (.locking kind) (by simp [Tun.exchange, taken, Tun.move]) (by simp [Writing])
    exact moved.post_resume runs.away (by simp [Tun.exchange, taken, ToResume])
  · rename_i free
    have moved : Sound lib (ctx.put (ctx.tun.exchange party kind).1) :=
      sound.runs_to runs (.locked kind) (by simp [Tun.exchange, free, Tun.move, Tun.setFlag])
        (by simp [Writing])
    split
    · exact moved.post_resume runs.away (by simp [Tun.exchange, free, ToResume])
    · exact moved.start runs.put plays fun all => by cases posts all

theorem Sound.finish {outcome : TunLocks.Outcome} (sound : Sound lib ctx) (runs : Runs ctx party) :
    Sound lib (ctx.finish party outcome kind).1 := by
  cases kind <;>
    exact sound.runs_to runs .idle (by simp [Tun.clear, Tun.move, Tun.setFlag])
      (by simp [Writing])

omit [DecidableEq Writer] in
/-- The device changes, and no party moves. -/
theorem Sound.stays (sound : Sound lib ctx) (same : tun.at' = ctx.tun.at') : Sound lib (ctx.put tun) where
  noTurns := sound.noTurns
  fits := by simpa [Context.put, same] using sound.fits
  once := sound.once
  timing := by simpa [Context.put, same] using sound.timing
  due := by simpa [Context.put, same] using sound.due
  inTime := sound.inTime
  spares := by simpa [Context.put, same] using sound.spares
  behind := by simpa [Context.put, same] using sound.behind

/-- A party that runs no more is to be resumed. -/
private theorem Sound.move_resume (sound : Sound lib ctx) (away : Away ctx party) (next : At)
    (resumes : ToResume next) (writes : ¬ Writing next)
    (timing : party = none → ctx.timerWaits = true → Timing next)
    (due : party = none → next.owns .itIsReadLock = true) :
    Sound lib ((ctx.put (ctx.tun.move party next)).post (.resume party)) := by
  have moved : Sound lib (ctx.put (ctx.tun.move party next)) :=
    sound.move away rfl timing (fun self _ => due self) fun _ _ => writes
  exact moved.post_resume away (by simpa using resumes)

theorem Sound.handle {completion : Completion} (sound : Sound lib ctx)
    (alive : ctx.tun.aborted = false) (away : Away ctx party)
    (stands : ctx.tun.at' party = .completed kind completion) (plays : Plays party kind) :
    Sound lib (ctx.handle party kind completion).1 := by
  have reads : party = none → kind = .read := by
    rintro rfl
    cases kind with
    | read => rfl
    | write => exact plays.elim
  unfold Context.handle Tun.handle
  cases handler kind completion with
  | none => exact sound.stays rfl
  | some outcome =>
    have due : party = none → (At.resumed kind outcome).owns .itIsReadLock = true := by
      intro self
      rw [reads self]
      rfl
    have notWriting : ¬ Writing (.resumed kind outcome) := by simp [Writing]
    have lives : (ctx.tun.move party (.resumed kind outcome)).aborted = false := alive
    simp only [lives, Bool.false_eq_true, if_false]
    split
    · rw [put_cancelTimer]
      have cancelled := sound.cancelTimer.move_resume
        (cancelTimer_away away) (.resumed kind outcome) trivial notWriting
        (fun _ waits => by rw [cancelTimer_waits] at waits; cases waits) due
      rwa [cancelTimer_tun] at cancelled
    · rename_i quiet
      refine sound.move_resume away (.resumed kind outcome) trivial notWriting (fun self waits => ?_) due
      -- The timer of this read was cancelled with the operation.
      refine absurd (sound.timing waits) ?_
      obtain rfl := self
      obtain rfl := reads rfl
      rw [stands]
      rintro (wait | ⟨other, same, own⟩)
      · cases wait
      · cases same
        exact quiet ⟨rfl, own⟩

/-! ### What keeps it sound from one event to the next -/

/-- What every run tells about the device. -/
structure Reached (tun : Tun (Party Writer)) : Prop where
  kept : tun.standing.Kept
  inFlight : tun.InFlight
  plays : ∀ party kind, (tun.at' party).inCall = some kind → Plays party kind

theorem run_reached {trace : List (Shown Writer)} (run : (system Writer lib).Run trace ctx) :
    Reached ctx.tun where
  kept := ((disciplined (Party Writer)).run (run_fine run)).1
  inFlight := run_operations (run_fine run)
  plays _ _ stands := run_plays run stands

omit [DecidableEq Writer] in
/-- While a read is marked, nobody writes. -/
theorem Reached.reading (reached : Reached tun) (marked : tun.flags .itIsReadLock = true)
    (party : Party Writer) : ¬ Writing (tun.at' party) ∧ ¬ AboutToWrite (tun.at' party) := by
  obtain ⟨reader, held⟩ := (reached.kept.up_iff .itIsReadLock).mp marked
  have lock : tun.standing.owns reader .lock := At.owns_lock held
  constructor <;> rintro ⟨ipPacket, stands⟩ <;>
  · have own : tun.standing.owns party .lock := by simp [Tun.standing, stands, At.owns]
    obtain rfl := reached.kept.one lock own
    simp [Tun.standing, stands, At.owns] at held

variable {result : Context Writer × Shown Writer}

theorem Sound.call {function : Function Writer} (sound : Sound lib ctx) (reached : Reached ctx.tun)
    (alive : ctx.tun.aborted = false) (own : ∀ party, function.owner = some party → Away ctx party)
    (expired : function = .timer false → ctx.timerWaits = false)
    (called : ctx.call lib function = some result) : Sound lib result.1 := by
  cases function with
  | post party =>
    dsimp only [Context.call] at called
    split at called <;> cases called
    rename_i ipPacket stands
    have plays : Plays party (.write ipPacket) := reached.plays _ _ (by rw [stands]; rfl)
    have cancelled : Sound lib (ctx.cancelTimer.cancel (some party)) :=
      sound.cancelTimer.cancel (by simpa using reached.inFlight) cancelTimer_waits (some party)
    have notStruck : party ∉ ctx.tun.operations := by
      simp [reached.inFlight.mem, stands]
    have runs : Runs (ctx.cancelTimer.cancel (some party)) party := by
      refine ⟨?_, ?_⟩
      · have before : Away ctx.cancelTimer party := cancelTimer_away (own party rfl)
        simp only [Away, Context.cancel, List.filterMap_append, List.mem_append, not_or]
        exact ⟨before, by simpa [List.filterMap_map, Function.comp_def, Task.owner, Function.owner]⟩
      · rintro rfl
        exact plays.elim
    have locking : Sound lib ((ctx.cancelTimer.cancel (some party)).put
        ((ctx.cancelTimer.cancel (some party)).tun.move party (.locking (.write ipPacket)))) :=
      cancelled.runs_to runs _ rfl (by simp [Writing])
    exact locking.lock runs.put plays And.left
  | handler party =>
    dsimp only [Context.call] at called
    split at called <;> cases called
    rename_i stands
    exact sound.handle alive (own party rfl) stands (reached.plays _ _ (by rw [stands]; rfl))
  | timer canceled =>
    cases canceled <;> cases called
    · exact sound.cancel reached.inFlight (expired rfl) none
    · exact sound

theorem Sound.resume (sound : Sound lib ctx) (reached : Reached ctx.tun) (runs : Runs ctx party)
    (free : lib.Posts → AboutToWrite (ctx.tun.at' party) →
      ¬ ∃ task ∈ ctx.ready, task.Posted)
    (resumed : ctx.resume lib party = some result) : Sound lib result.1 := by
  unfold Context.resume at resumed
  split at resumed <;> cases resumed
  · rename_i stands
    have locking : Sound lib (ctx.put (ctx.tun.move party (.locking .read))) :=
      sound.runs_to runs _ rfl (by simp [Writing])
    exact locking.lock runs.put (reached.plays _ _ (by rw [stands]; rfl)) And.left
  · rename_i stands
    exact sound.lock runs (reached.plays _ _ (by rw [stands]; rfl)) And.right
  · rename_i kind stands
    have plays : Plays party kind := reached.plays _ _ (by rw [stands]; rfl)
    refine sound.start runs plays fun future writes => free future ?_
    cases party with
    | none => exact absurd rfl writes
    | some writer =>
      cases kind with
      | read => exact plays.elim
      | write ipPacket => exact ⟨ipPacket, stands⟩
  · exact sound.finish runs

omit [DecidableEq Writer] in
theorem Sound.endTurn (sound : Sound lib ctx) : Sound lib ctx.endTurn := by
  unfold Context.endTurn
  split
  · exact sound
  · have none_waits := sound.noTurns
    cases ctx
    cases none_waits
    simpa using sound

omit [DecidableEq Writer] in
/-- The first task is taken. -/
theorem Sound.popped (sound : Sound lib ctx) {rest : List (Task Writer)} (front : ctx.ready = task :: rest) :
    Sound lib { ctx with ready := rest } := by
  obtain ⟨noTurns, fits, once, timing, due, inTime, spares, behind⟩ := sound
  rw [front] at fits once due inTime spares behind
  refine ⟨noTurns, fun later member => fits later (.tail _ member), ?_, timing,
    fun later member => due later (.tail _ member), inTime.of_cons,
    fun future later member => spares future later (.tail _ member),
    fun future => (behind future).of_cons⟩
  exact once.sublist ((List.sublist_cons_self _ _).filterMap _)

omit [DecidableEq Writer] in
theorem Sound.popped_away (sound : Sound lib ctx) {rest : List (Task Writer)}
    (front : ctx.ready = task :: rest) (owner : task.owner = some party) :
    Away { ctx with ready := rest } party := by
  have once := sound.once
  rw [front, List.filterMap_cons, owner] at once
  exact (List.nodup_cons.mp once).1

omit [DecidableEq Writer] in
theorem Sound.popped_runs (sound : Sound lib ctx) {rest : List (Task Writer)}
    (front : ctx.ready = .resume party :: rest) : Runs { ctx with ready := rest } party := by
  refine ⟨sound.popped_away front rfl, ?_⟩
  rintro rfl
  have fits : ToResume (ctx.tun.at' none) := sound.fits (.resume none) (by simp [front])
  constructor
  · by_contra waits
    rcases sound.timing (by simpa using waits) with stands | ⟨_, stands, _⟩ <;> simp [stands, ToResume] at fits
  · intro task member expired
    have inTime := sound.inTime
    rw [front] at inTime
    exact List.rel_of_pairwise_cons inTime member expired rfl

/-- A task runs. -/
theorem Sound.execute (places : lib.strand = .places) (sound : Sound lib ctx) (reached : Reached ctx.tun)
    (alive : ctx.tun.aborted = false) {rest : List (Task Writer)} (front : ctx.ready = task :: rest)
    (executed : { ctx with ready := rest }.execute lib task = some result) : Sound lib result.1 := by
  have popped := sound.popped front
  have expired : ∀ function, task.function = some function → function = .timer false →
      ctx.timerWaits = false := by
    rintro _ runs rfl
    exact (sound.due task (by simp [front]) runs).1
  cases task with
  | resume party =>
    refine popped.resume reached (sound.popped_runs front) (fun future writes => ?_) executed
    rintro ⟨later, member, posted⟩
    have behind := sound.behind future
    rw [front] at behind
    exact List.rel_of_pairwise_cons behind member posted party rfl writes
  | slot function =>
    simp only [Context.execute, places, reduceCtorEq, false_and, if_false] at executed
    exact popped.call reached alive (fun party owner => sound.popped_away front owner)
      (expired function rfl) executed
  | turn function =>
    dsimp only [Context.execute] at executed
    split at executed <;> cases executed
    rename_i called
    exact (popped.call reached alive (fun party owner => sound.popped_away front owner)
      (expired function rfl) called).endTurn

omit [DecidableEq Writer] in
/-- A party in no call has no task and no timer. -/
theorem Sound.idle (sound : Sound lib ctx) (stands : ctx.tun.at' party = .idle) : Runs ctx party := by
  refine ⟨sound.away (by simp [stands, ToResume]) (by simp [stands]) (by simp [stands]), ?_⟩
  rintro rfl
  constructor
  · by_contra waits
    rcases sound.timing (by simpa using waits) with other | ⟨_, other, _⟩ <;> simp [stands] at other
  · intro task member expired
    simpa [stands, At.owns] using (sound.due task member expired).2

theorem Sound.step {event : Event Writer} (places : lib.strand = .places) (sound : Sound lib ctx)
    (reached : Reached ctx.tun) (stepped : step lib ctx event = some result) : Sound lib result.1 := by
  obtain ⟨alive, takes⟩ := step_takes stepped
  have moves : ∀ (writer : Writer) ipPacket (next : At), ctx.tun.at' (some writer) = .idle →
      ¬ Writing next → Sound lib (ctx.put
        ((ctx.tun.move (some writer) (.called (.write ipPacket))).move (some writer) next)) :=
    fun writer ipPacket next stands writes =>
      sound.runs_to (sound.idle stands) next (by simp [Tun.move]) fun _ _ => writes
  cases takes with
  | reads stands =>
    have runs := sound.idle stands
    have called : Sound lib (ctx.put (ctx.tun.move none (.called .read))) :=
      sound.runs_to runs _ rfl (by simp [Writing])
    exact called.post_resume runs.away (by simp [ToResume])
  | @posts writer ipPacket stands marked =>
    -- A write that has seen the read before it: nobody writes now.
    have reading := reached.reading marked
    have runs := sound.idle stands
    have posted := moves writer ipPacket (.posted ipPacket) stands (by simp [Writing])
    simp only [Context.postStrand, places, reduceCtorEq, false_and, if_false]
    refine posted.post (fun who owner => ?_) ⟨ipPacket, by simp⟩
      (by simp [Task.Expired, Task.function]) fun _ _ party => ?_
    · cases owner
      exact runs.away
    · by_cases self : party = some writer
      · subst self
        simp [Writing, AboutToWrite]
      · simpa [self] using reading party
  | @writes writer ipPacket _ stands _ locks =>
    subst locks
    have runs := sound.idle stands
    exact (moves writer ipPacket (.locking (.write ipPacket)) stands (by simp [Writing])).lock
      runs.put trivial And.left
  | next front executed => exact sound.execute places reached alive front executed
  | @completes party kind completion stands own =>
    have plays : Plays party kind := reached.plays _ _ (by rw [stands]; rfl)
    have away : Away ctx party :=
      sound.away (by simp [stands, ToResume]) (by simp [stands]) (by simp [stands])
    have reads : party = none → kind = .read := by
      rintro rfl
      cases kind with
      | read => rfl
      | write => exact plays.elim
    have completed : Sound lib (ctx.put (ctx.tun.complete party kind completion).1) := by
      have moved : (ctx.tun.complete party kind completion).1.at' =
          Function.update ctx.tun.at' party (.completed kind completion) := rfl
      refine sound.move away moved (fun self _ => ?_) (fun self _ => ?_)
        fun _ _ => by simp [Writing]
      · exact .inr ⟨completion, by rw [reads self], own⟩
      · rw [reads self]
        rfl
    refine completed.post_plain (fun who owner => ?_) ⟨kind, completion, by simp [Tun.complete]⟩
      (by simp [Task.Expired, Task.function]) (by simp [Task.Posted, Task.function])
    cases owner
    exact away
  | expires waits =>
    have timing := sound.timing waits
    refine sound.untimed.post (by simp [Task.owner, Function.owner]) trivial
      (fun _ => ⟨rfl, ?_, fun member => ?_⟩) fun _ about => ?_
    · rcases timing with stands | ⟨_, stands, _⟩ <;> simp [stands, At.owns]
    · have fits : ToResume (ctx.tun.at' none) := sound.fits _ member
      rcases timing with stands | ⟨_, stands, _⟩ <;> simp [stands, ToResume] at fits
    · obtain ⟨_, posted⟩ := about
      simp [Task.function] at posted

/-- Where functions take places of their own, the queue is always in order. -/
theorem run_sound {trace : List (Shown Writer)} (places : lib.strand = .places)
    (run : (system Writer lib).Run trace ctx) : Sound lib ctx := by
  obtain ⟨start, rfl, steps⟩ := run
  induction steps with
  | refl => constructor <;> simp [machine]
  | next earlier step ih =>
    obtain ⟨event, stepped⟩ := step
    exact ih.step places (run_reached ⟨_, rfl, earlier⟩) stepped

end Vpverk.TunSchedule
