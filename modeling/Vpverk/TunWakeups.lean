import Vpverk.TunPriority

/-! Nobody is forgotten. Each coroutine in a call that does not wait for the descriptor has its
place in the ready queue or on the strand, and a read that waits has its timer. So the context
comes to rest only where every call waits for the system. -/
namespace Vpverk.TunSchedule
open Octets Asioapi Transition Flags TunLocks

variable {Writer : Type} {lib : Library} {ctx : Context Writer} {party : Party Writer} {kind : Kind}

/-! ### The functions of the strand -/

/-- A party that a function of the strand is to find. -/
def Due : At → Prop
  | .posted _ | .completed _ _ => True
  | _ => False

/-- Where a party may stand between two tasks. -/
def Rests : At → Prop
  | .called (.write _) | .starting | .leaving _ | .returns _ => False
  | _ => True

/-- What is to run on the strand. -/
def Context.functions (ctx : Context Writer) : List (Function Writer) :=
  ctx.ready.filterMap Task.function ++ ctx.waiting

/-- Each function finds its party, and each party that is due has one function. -/
structure Strung (at' : Party Writer → At) (functions : List (Function Writer)) : Prop where
  once : (functions.filterMap Function.owner).Nodup
  fits : ∀ function ∈ functions, function.Fits at'
  there : ∀ party, Due (at' party) → party ∈ functions.filterMap Function.owner

variable {at' at'' : Party Writer → At} {functions more : List (Function Writer)}
  {function : Function Writer} {next : At}

theorem Function.Fits.due (fits : function.Fits at') (owner : function.owner = some party) :
    Due (at' party) := by
  cases function with
  | post who =>
    cases owner
    obtain ⟨ipPacket, stands⟩ := fits
    simp [stands, Due]
  | handler who =>
    cases owner
    obtain ⟨kind, completion, stands⟩ := fits
    simp [stands, Due]
  | timer => cases owner

theorem Function.Fits.other (fits : function.Fits at')
    (same : ∀ party, function.owner = some party → at'' party = at' party) : function.Fits at'' := by
  cases function with
  | post who => simpa [Function.Fits, same who rfl] using fits
  | handler who => simpa [Function.Fits, same who rfl] using fits
  | timer => trivial

theorem Strung.perm (strung : Strung at' functions) (perm : functions.Perm more) : Strung at' more where
  once := (perm.filterMap _).nodup_iff.mp strung.once
  fits function member := strung.fits function (perm.mem_iff.mpr member)
  there party due := (perm.filterMap _).mem_iff.mp (strung.there party due)

/-- A party that is not due has no function. -/
theorem Strung.away (strung : Strung at' functions) (away : ¬ Due (at' party)) :
    party ∉ functions.filterMap Function.owner := by
  intro member
  obtain ⟨function, among, owner⟩ := List.mem_filterMap.mp member
  exact away ((strung.fits function among).due owner)

/-- A function of nobody comes or goes. -/
theorem strung_timer (canceled : Bool) :
    Strung at' (.timer canceled :: functions) ↔ Strung at' functions := by
  constructor
  · intro strung
    exact ⟨strung.once, fun function member => strung.fits function (.tail _ member), strung.there⟩
  · intro strung
    refine ⟨strung.once, fun function member => ?_, strung.there⟩
    rcases List.mem_cons.mp member with rfl | old
    · trivial
    · exact strung.fits function old

variable [DecidableEq Writer]

/-- A party without a function moves. -/
theorem fits_update (fits : ∀ function ∈ functions, function.Fits at')
    (away : party ∉ functions.filterMap Function.owner) (next : At) :
    ∀ function ∈ functions, function.Fits (Function.update at' party next) := by
  intro function member
  refine (fits function member).other fun who owner => Function.update_of_ne ?_ ..
  rintro rfl
  exact away (List.mem_filterMap.mpr ⟨function, member, owner⟩)

/-- A party moves that is not due, neither before nor after. -/
theorem Strung.move (strung : Strung at' functions) (before : ¬ Due (at' party)) (after : ¬ Due next) :
    Strung (Function.update at' party next) functions := by
  refine ⟨strung.once, fits_update strung.fits (strung.away before) next, fun who due => ?_⟩
  by_cases self : who = party
  · subst self
    rw [Function.update_self] at due
    exact absurd due after
  · rw [Function.update_of_ne self] at due
    exact strung.there who due

/-- A party becomes due, with its function. -/
theorem Strung.joins (strung : Strung at' functions) (before : ¬ Due (at' party))
    (owner : function.owner = some party) (fits : function.Fits (Function.update at' party next)) :
    Strung (Function.update at' party next) (function :: functions) := by
  have away := strung.away before
  have owners : (function :: functions).filterMap Function.owner =
      party :: functions.filterMap Function.owner := List.filterMap_cons_some owner
  refine ⟨?_, List.forall_mem_cons.mpr ⟨fits, fits_update strung.fits away next⟩, fun who due => ?_⟩
  · rw [owners]
    exact List.nodup_cons.mpr ⟨away, strung.once⟩
  · rw [owners]
    by_cases self : who = party
    · exact self ▸ List.mem_cons_self ..
    · rw [Function.update_of_ne self] at due
      exact .tail _ (strung.there who due)

/-- The function of a party runs, and the party is not due any more. -/
theorem Strung.leaves (strung : Strung at' (function :: functions)) (owner : function.owner = some party)
    (after : ¬ Due next) : Strung (Function.update at' party next) functions := by
  have owners : (function :: functions).filterMap Function.owner =
      party :: functions.filterMap Function.owner := List.filterMap_cons_some owner
  have once := strung.once
  rw [owners, List.nodup_cons] at once
  have fits := (List.forall_mem_cons.mp strung.fits).2
  refine ⟨once.2, fits_update fits once.1 next, fun who due => ?_⟩
  by_cases self : who = party
  · subst self
    rw [Function.update_self] at due
    exact absurd due after
  · rw [Function.update_of_ne self] at due
    have there := strung.there who due
    rw [owners, List.mem_cons] at there
    exact there.resolve_left self

/-- `tun.cancel()`: the handlers of what was in flight. -/
theorem Strung.cancel {tun : Tun (Party Writer)} (strung : Strung tun.at' functions)
    (inFlight : tun.InFlight) (caller : Option (Party Writer)) :
    Strung (tun.cancel caller).1.at' (functions ++ tun.operations.map Function.handler) := by
  have owners : (functions ++ tun.operations.map Function.handler).filterMap Function.owner =
      functions.filterMap Function.owner ++ tun.operations := by
    simp [List.filterMap_map, Function.comp_def, Function.owner]
  have waits : ∀ who ∈ tun.operations, ∃ kind, tun.at' who = .waits kind :=
    fun who struck => (inFlight.mem who).mp struck
  have away : ∀ who ∈ tun.operations, who ∉ functions.filterMap Function.owner := by
    intro who struck
    obtain ⟨kind, stands⟩ := waits who struck
    exact strung.away (by simp [stands, Due])
  refine ⟨?_, fun function member => ?_, fun who due => ?_⟩
  · rw [owners, List.nodup_append]
    refine ⟨strung.once, inFlight.nodup, ?_⟩
    rintro who member _ struck rfl
    exact away who struck member
  · rcases List.mem_append.mp member with old | new
    · refine (strung.fits function old).other fun who owner => ?_
      refine (cancel_at caller who).resolve_right fun struck => away who struck.1 ?_
      exact List.mem_filterMap.mpr ⟨function, old, owner⟩
    · obtain ⟨who, struck, rfl⟩ := List.mem_map.mp new
      obtain ⟨kind, stands⟩ := waits who struck
      exact ⟨kind, canceled, by simp [Tun.cancel, struck, stands, At.canceled]⟩
  · rw [owners, List.mem_append]
    rcases cancel_at caller who with same | ⟨struck, _⟩
    · rw [same] at due
      exact .inl (strung.there who due)
    · exact .inr struck

/-! ### What is in the queue -/

omit [DecidableEq Writer] in
@[simp] theorem functions_put (tun : Tun (Party Writer)) : (ctx.put tun).functions = ctx.functions := rfl

omit [DecidableEq Writer] in
@[simp] theorem functions_post_resume : (ctx.post (.resume party)).functions = ctx.functions := by
  simp [Context.functions, Context.post, Task.function]

omit [DecidableEq Writer] in
theorem functions_post_slot (function : Function Writer) :
    (ctx.post (.slot function)).functions.Perm (function :: ctx.functions) := by
  simp [Context.functions, Context.post, Task.function, List.perm_middle]

omit [DecidableEq Writer] in
theorem functions_postStrand (function : Function Writer) :
    (ctx.postStrand lib function).functions.Perm (function :: ctx.functions) := by
  unfold Context.postStrand
  split
  · simp [Context.functions, ← List.append_assoc, List.perm_append_singleton]
  · simp [Context.functions, Context.post, Task.function, List.perm_middle]

omit [DecidableEq Writer] in
theorem functions_endTurn : ctx.endTurn.functions = ctx.functions := by
  unfold Context.endTurn
  split
  · rfl
  · simp [Context.functions, List.filterMap_map, Function.comp_def, Task.function]

/-- The invariant: nobody is forgotten. -/
structure Accounted (ctx : Context Writer) : Prop where
  strung : Strung ctx.tun.at' ctx.functions
  rests : ∀ party, Rests (ctx.tun.at' party)
  timed : ctx.tun.at' none = .waits .read → ctx.timerWaits = true ∨ .timer false ∈ ctx.functions

theorem rests_update (rests : ∀ party, Rests (at' party)) (there : Rests next) (party : Party Writer) :
    ∀ who, Rests (Function.update at' party next who) := by
  intro who
  by_cases self : who = party
  · subst self
    rwa [Function.update_self]
  · rw [Function.update_of_ne self]
    exact rests who

omit [DecidableEq Writer] in
/-- The functions and the timer as they were. -/
theorem Accounted.same {ctx' : Context Writer} (accounted : Accounted ctx) (tun : ctx'.tun.at' = ctx.tun.at')
    (functions : ctx'.functions = ctx.functions) (timer : ctx'.timerWaits = ctx.timerWaits) :
    Accounted ctx' :=
  ⟨by rw [tun, functions]; exact accounted.strung, by rw [tun]; exact accounted.rests,
    by rw [tun, functions, timer]; exact accounted.timed⟩

omit [DecidableEq Writer] in
theorem Accounted.post_resume (accounted : Accounted ctx) (party : Party Writer) :
    Accounted (ctx.post (.resume party)) :=
  accounted.same rfl functions_post_resume rfl

/-- A party moves that is not due, neither before nor after, and starts no read. -/
theorem Accounted.move {tun : Tun (Party Writer)} (accounted : Accounted ctx)
    (moved : tun.at' = Function.update ctx.tun.at' party next) (before : ¬ Due (ctx.tun.at' party))
    (after : ¬ Due next) (rests : Rests next) (reads : next ≠ .waits .read) :
    Accounted (ctx.put tun) := by
  refine ⟨?_, ?_, fun waits => ?_⟩
  · rw [put_tun, moved]
    exact accounted.strung.move before after
  · rw [put_tun, moved]
    exact rests_update accounted.rests rests party
  · rw [put_tun, moved] at waits
    by_cases self : none = party
    · subst self
      rw [Function.update_self] at waits
      exact absurd waits reads
    · rw [Function.update_of_ne self] at waits
      exact accounted.timed waits

omit [DecidableEq Writer] in
/-- Whether the timer is cancelled makes no difference to the strand. -/
theorem Strung.cancelTimer (strung : Strung at' functions) (ctx : Context Writer)
    (same : ctx.functions = functions) : Strung at' ctx.cancelTimer.functions := by
  subst same
  unfold Context.cancelTimer
  split
  · exact ((strung_timer true).mpr strung).perm (functions_post_slot _).symm
  · exact strung

omit [DecidableEq Writer] in
/-- The timer is cancelled where no read waits for it. -/
theorem Accounted.cancelTimer (accounted : Accounted ctx) (reads : ctx.tun.at' none ≠ .waits .read) :
    Accounted ctx.cancelTimer := by
  refine ⟨?_, by simpa using accounted.rests, fun waits => absurd (by simpa using waits) reads⟩
  rw [cancelTimer_tun]
  exact accounted.strung.cancelTimer ctx rfl

/-! ### What a coroutine does until it suspends -/

theorem Accounted.start (accounted : Accounted ctx) (before : ¬ Due (ctx.tun.at' party)) (kind : Kind) :
    Accounted (ctx.start party kind).1 := by
  cases kind with
  | read =>
    let started := ((ctx.tun.markRead party).1.start party .read).1
    have moved : started.at' = Function.update ctx.tun.at' party (.waits .read) := by
      simp [started, Tun.markRead, Tun.start, Tun.move, Tun.setFlag]
    have tuns : (ctx.start party .read).1.tun = started := by simp [Context.start, started]
    have waits : ¬ Due (.waits .read) := by simp [Due]
    refine ⟨?_, ?_, fun _ => .inl rfl⟩
    · have strung := accounted.strung.move before waits
      rw [← moved, ← tuns] at strung
      exact strung.cancelTimer (ctx.put started) rfl
    · have there : Rests (.waits .read) := by simp [Rests]
      rw [tuns, moved]
      exact rests_update accounted.rests there party
  | write ipPacket => exact accounted.move rfl before (by simp [Due]) (by simp [Rests]) (by simp)

theorem Accounted.lock (accounted : Accounted ctx) (future : Resumption) (before : ¬ Due (ctx.tun.at' party))
    (kind : Kind) : Accounted (ctx.lock future party kind).1 := by
  unfold Context.lock Tun.exchange
  split
  · exact (accounted.move rfl before (by simp [Due]) (by simp [Rests]) (by simp)).post_resume party
  · have locked : Accounted (ctx.put ((ctx.tun.setFlag .lock true).move party (.locked kind))) :=
      accounted.move rfl before (by simp [Due]) (by simp [Rests]) (by simp)
    dsimp only
    split
    · exact locked.post_resume party
    · exact locked.start (by simp [Due]) kind

theorem Accounted.finish {outcome : TunLocks.Outcome} (accounted : Accounted ctx)
    (before : ¬ Due (ctx.tun.at' party)) (kind : Kind) :
    Accounted (ctx.finish party outcome kind).1 := by
  cases kind <;>
    exact accounted.move
      (show _ = Function.update _ _ .idle by simp [Tun.clear, Tun.move, Tun.setFlag]) before
      (by simp [Due]) (by simp [Rests]) (by simp)

/-! ### What runs on the strand -/

/-- The same, with a function that has been taken to run. -/
structure Taken (ctx : Context Writer) (function : Function Writer) : Prop where
  strung : Strung ctx.tun.at' (function :: ctx.functions)
  rests : ∀ party, Rests (ctx.tun.at' party)
  timed : ctx.tun.at' none = .waits .read →
    ctx.timerWaits = true ∨ .timer false ∈ function :: ctx.functions

/-- The party of the function moves. -/
theorem Taken.leaves {tun : Tun (Party Writer)} (taken : Taken ctx function)
    (owner : function.owner = some party) (moved : tun.at' = Function.update ctx.tun.at' party next)
    (after : ¬ Due next) (rests : Rests next) (reads : next ≠ .waits .read) : Accounted (ctx.put tun) := by
  refine ⟨?_, ?_, fun waits => ?_⟩
  · rw [put_tun, moved]
    exact taken.strung.leaves owner after
  · rw [put_tun, moved]
    exact rests_update taken.rests rests party
  · rw [put_tun, moved] at waits
    by_cases self : none = party
    · subst self
      rw [Function.update_self] at waits
      exact absurd waits reads
    · rw [Function.update_of_ne self] at waits
      refine (taken.timed waits).imp_right fun member => ?_
      refine (List.mem_cons.mp member).resolve_left ?_
      rintro rfl
      cases owner

omit [DecidableEq Writer] in
/-- The function is to run later. -/
theorem Taken.waits {ctx' : Context Writer} (taken : Taken ctx function) (tun : ctx'.tun = ctx.tun)
    (timer : ctx'.timerWaits = ctx.timerWaits)
    (functions : ctx'.functions.Perm (function :: ctx.functions)) : Accounted ctx' where
  strung := by
    rw [tun]
    exact taken.strung.perm functions.symm
  rests := by
    rw [tun]
    exact taken.rests
  timed := by
    rw [tun, timer]
    exact fun waits => (taken.timed waits).imp_right functions.mem_iff.mpr

omit [DecidableEq Writer] in
theorem cancelTimer_functions (ctx : Context Writer) :
    ctx.cancelTimer.functions = ctx.functions ∨
      ctx.cancelTimer.functions.Perm (.timer true :: ctx.functions) := by
  unfold Context.cancelTimer
  split
  · exact .inr (functions_post_slot _)
  · exact .inl rfl

theorem functions_cancel (caller : Option (Party Writer)) :
    (ctx.cancel caller).functions.Perm (ctx.functions ++ ctx.tun.operations.map Function.handler) := by
  have tasks : (ctx.tun.operations.map fun who => Task.slot (.handler who)).filterMap Task.function =
      ctx.tun.operations.map Function.handler := by
    simp [List.filterMap_map, Function.comp_def, Task.function]
  simp only [Context.functions, Context.cancel, List.filterMap_append, tasks, List.append_assoc]
  exact (List.perm_append_comm ..).append_left _

theorem rests_cancel {tun : Tun (Party Writer)} (rests : ∀ party, Rests (tun.at' party))
    (caller : Option (Party Writer)) (party : Party Writer) :
    Rests ((tun.cancel caller).1.at' party) := by
  have there := rests party
  rcases cancel_at caller party with same | ⟨_, same⟩
  · rwa [same]
  · rw [same]
    cases here : tun.at' party <;> simp_all [At.canceled, Rests]

theorem accounted_cancel (strung : Strung ctx.tun.at' ctx.functions)
    (rests : ∀ party, Rests (ctx.tun.at' party)) (inFlight : ctx.tun.InFlight)
    (caller : Option (Party Writer)) : Accounted (ctx.cancel caller) where
  strung := (strung.cancel inFlight caller).perm (functions_cancel caller).symm
  rests := rests_cancel rests caller
  timed waits := absurd waits (cancel_not_waits inFlight caller none .read)

theorem Taken.handle {completion : Completion} (taken : Taken ctx (.handler party))
    (plays : Plays party kind) (alive : ctx.tun.aborted = false)
    (lives : (ctx.handle party kind completion).1.tun.aborted = false) :
    Accounted (ctx.handle party kind completion).1 := by
  unfold Context.handle Tun.handle at lives ⊢
  cases handled : handler kind completion with
  | none => simp [handled] at lives
  | some outcome =>
    have moved : Accounted (ctx.put (ctx.tun.move party (.resumed kind outcome))) :=
      taken.leaves rfl rfl (by simp [Due]) (by simp [Rests]) (by simp)
    have lives : (ctx.tun.move party (.resumed kind outcome)).aborted = false := alive
    simp only [lives, Bool.false_eq_true, if_false]
    split
    · rename_i reading
      obtain ⟨rfl, _⟩ := reading
      cases party with
      | some writer => exact plays.elim
      | none => exact (moved.cancelTimer (by simp)).post_resume none
    · exact moved.post_resume party

variable {result : Context Writer × Shown Writer} {task : Task Writer} {rest : List (Task Writer)}

theorem Taken.call (taken : Taken ctx function) (reached : Reached ctx.tun)
    (alive : ctx.tun.aborted = false) (called : ctx.call lib function = some result)
    (lives : result.1.tun.aborted = false) : Accounted result.1 := by
  cases function with
  | post party =>
    dsimp only [Context.call] at called
    split at called <;> cases called
    rename_i ipPacket stands
    have timerless : Strung ctx.cancelTimer.tun.at' (.post party :: ctx.cancelTimer.functions) := by
      rw [cancelTimer_tun]
      rcases cancelTimer_functions ctx with same | perm
      · rw [same]
        exact taken.strung
      · have more := (strung_timer true).mpr taken.strung
        exact more.perm ((List.Perm.swap ..).trans (perm.symm.cons _))
    have struck := (timerless.cancel (by simpa using reached.inFlight) (some party)).perm
      ((functions_cancel (some party)).symm.cons _)
    have cancelled : Taken (ctx.cancelTimer.cancel (some party)) (.post party) :=
      ⟨struck, rests_cancel (by simpa using taken.rests) (some party),
        fun waits => absurd waits (cancel_not_waits (by simpa using reached.inFlight) (some party) none .read)⟩
    have locking : Accounted ((ctx.cancelTimer.cancel (some party)).put
        ((ctx.cancelTimer.cancel (some party)).tun.move party (.locking (.write ipPacket)))) :=
      cancelled.leaves rfl rfl (by simp [Due]) (by simp [Rests]) (by simp)
    exact locking.lock lib.ready (by simp [Due]) (.write ipPacket)
  | handler party =>
    dsimp only [Context.call] at called
    split at called <;> cases called
    rename_i stands
    exact taken.handle (reached.plays _ _ (by rw [stands]; rfl)) alive lives
  | timer canceled =>
    have strung := (strung_timer canceled).mp taken.strung
    cases canceled <;> cases called
    · exact accounted_cancel strung taken.rests reached.inFlight none
    · refine ⟨strung, taken.rests, fun waits => (taken.timed waits).imp_right fun member => ?_⟩
      simpa using member

/-! ### From one event to the next -/

theorem Accounted.resume (accounted : Accounted ctx) (resumed : ctx.resume lib party = some result) :
    Accounted result.1 := by
  unfold Context.resume at resumed
  split at resumed <;> cases resumed
  · rename_i stands
    have locking : Accounted (ctx.put (ctx.tun.move party (.locking .read))) :=
      accounted.move rfl (by simp [stands, Due]) (by simp [Due]) (by simp [Rests]) (by simp)
    exact locking.lock lib.ready (by simp [Due]) .read
  · rename_i kind stands
    exact accounted.lock lib.completed (by simp [stands, Due]) kind
  · rename_i kind stands
    exact accounted.start (by simp [stands, Due]) kind
  · rename_i kind outcome stands
    exact accounted.finish (by simp [stands, Due]) kind

omit [DecidableEq Writer] in
theorem Accounted.taken (accounted : Accounted ctx) (front : ctx.ready = task :: rest)
    (runs : task.function = some function) : Taken { ctx with ready := rest } function := by
  have functions : ctx.functions = function :: Context.functions { ctx with ready := rest } := by
    simp [Context.functions, front, runs]
  refine ⟨?_, accounted.rests, fun waits => ?_⟩
  · rw [← functions]
    exact accounted.strung
  · rw [← functions]
    exact accounted.timed waits

theorem Accounted.execute (accounted : Accounted ctx) (reached : Reached ctx.tun)
    (alive : ctx.tun.aborted = false) (front : ctx.ready = task :: rest)
    (executed : { ctx with ready := rest }.execute lib task = some result)
    (lives : result.1.tun.aborted = false) : Accounted result.1 := by
  cases task with
  | resume party =>
    have popped : Accounted { ctx with ready := rest } :=
      accounted.same rfl (by rw [Context.functions, Context.functions, front]; rfl) rfl
    exact popped.resume executed
  | slot function =>
    have taken := accounted.taken front rfl
    dsimp only [Context.execute] at executed
    split at executed
    · cases executed
      refine taken.waits rfl rfl ?_
      simp [Context.functions, ← List.append_assoc, List.perm_append_singleton]
    · exact taken.call reached alive executed lives
  | turn function =>
    have taken := accounted.taken front rfl
    dsimp only [Context.execute] at executed
    split at executed <;> cases executed
    rename_i called
    have accounted := taken.call reached alive called (by simpa using lives)
    exact accounted.same (by rw [endTurn_tun]) functions_endTurn (by unfold Context.endTurn; split <;> rfl)

/-- A party becomes due. -/
theorem Accounted.joins {ctx' : Context Writer} (accounted : Accounted ctx)
    (before : ¬ Due (ctx.tun.at' party)) (owner : function.owner = some party)
    (moved : ctx'.tun.at' = Function.update ctx.tun.at' party next) (fits : function.Fits ctx'.tun.at')
    (functions : ctx'.functions.Perm (function :: ctx.functions))
    (timer : ctx'.timerWaits = ctx.timerWaits) (rests : Rests next) (reads : next ≠ .waits .read) :
    Accounted ctx' := by
  rw [moved] at fits
  refine ⟨?_, ?_, fun waits => ?_⟩
  · rw [moved]
    exact (accounted.strung.joins before owner fits).perm functions.symm
  · rw [moved]
    exact rests_update accounted.rests rests party
  · rw [moved] at waits
    by_cases self : none = party
    · subst self
      rw [Function.update_self] at waits
      exact absurd waits reads
    · rw [Function.update_of_ne self] at waits
      rw [timer]
      exact (accounted.timed waits).imp_right fun member => functions.mem_iff.mpr (.tail _ member)

theorem Accounted.step {event : Event Writer} (accounted : Accounted ctx) (reached : Reached ctx.tun)
    (stepped : step lib ctx event = some result) (lives : result.1.tun.aborted = false) :
    Accounted result.1 := by
  obtain ⟨alive, takes⟩ := step_takes stepped
  have moved : ∀ (writer : Writer) ipPacket next,
      ((ctx.tun.move (some writer) (.called (.write ipPacket))).move (some writer) next).at' =
        Function.update ctx.tun.at' (some writer) next := by
    simp [Tun.move]
  cases takes with
  | reads stands =>
    have called : Accounted (ctx.put (ctx.tun.move none (.called .read))) :=
      accounted.move rfl (by simp [stands, Due]) (by simp [Due]) (by simp [Rests]) (by simp)
    exact called.post_resume none
  | @posts writer ipPacket stands _ =>
    have posted := moved writer ipPacket (.posted ipPacket)
    refine accounted.joins (by simp [stands, Due]) rfl ((congrArg Tun.at' (postStrand_tun _)).trans posted)
      ?_ (functions_postStrand _) ?_ (by simp [Rests]) (by simp)
    · exact ⟨ipPacket, by simp⟩
    · unfold Context.postStrand
      split <;> rfl
  | @writes writer ipPacket _ stands _ locks =>
    subst locks
    have locking : Accounted (ctx.put ((ctx.tun.move (some writer) (.called (.write ipPacket))).move
        (some writer) (.locking (.write ipPacket)))) :=
      accounted.move (moved writer ipPacket _) (by simp [stands, Due]) (by simp [Due])
        (by simp [Rests]) (by simp)
    exact locking.lock lib.ready (by simp [Due]) (.write ipPacket)
  | next front executed => exact accounted.execute reached alive front executed lives
  | @completes party kind completion stands _ =>
    have completed : (ctx.tun.complete party kind completion).1.at' =
        Function.update ctx.tun.at' party (.completed kind completion) := rfl
    refine accounted.joins (by simp [stands, Due]) rfl completed ?_ (functions_post_slot _) rfl
      (by simp [Rests]) (by simp)
    exact ⟨kind, completion, by simp [Tun.complete]⟩
  | expires waits =>
    have functions : (Context.post { ctx with timerWaits := false } (.slot (.timer false))).functions.Perm
        (.timer false :: ctx.functions) := functions_post_slot _
    refine ⟨?_, accounted.rests, fun _ => .inr (functions.mem_iff.mpr (List.mem_cons_self ..))⟩
    exact ((strung_timer false).mpr accounted.strung).perm functions.symm

/-! ### The turns of the strand -/

/-- Where functions wait for a turn, one is to come. -/
def TurnDue (ctx : Context Writer) : Prop := ctx.waiting ≠ [] → ctx.turnComes = true

/-- Tasks may have been posted, and nothing else has happened to the queue. -/
structure Extends (ctx ctx' : Context Writer) : Prop where
  waiting : ctx'.waiting = ctx.waiting
  ready : ctx.ready <+: ctx'.ready

variable {ctx' ctx'' : Context Writer}

omit [DecidableEq Writer] in
theorem Extends.trans (first : Extends ctx ctx') (second : Extends ctx' ctx'') : Extends ctx ctx'' :=
  ⟨second.waiting.trans first.waiting, first.ready.trans second.ready⟩

omit [DecidableEq Writer] in
theorem TurnDue.extends (due : TurnDue ctx) (extended : Extends ctx ctx') : TurnDue ctx' := by
  intro waits
  have comes := due (extended.waiting ▸ waits)
  obtain ⟨more, ready⟩ := extended.ready
  rw [Context.turnComes, ← ready, List.any_append, show ctx.ready.any Task.isTurn = true from comes,
    Bool.true_or]

omit [DecidableEq Writer] in
theorem extends_put (tun : Tun (Party Writer)) : Extends ctx (ctx.put tun) := ⟨rfl, List.prefix_rfl⟩

omit [DecidableEq Writer] in
theorem extends_post (task : Task Writer) : Extends ctx (ctx.post task) := ⟨rfl, List.prefix_append ..⟩

omit [DecidableEq Writer] in
theorem extends_cancelTimer : Extends ctx ctx.cancelTimer := by
  unfold Context.cancelTimer
  split
  · exact ⟨rfl, List.prefix_append ..⟩
  · exact ⟨rfl, List.prefix_rfl⟩

theorem extends_start (party : Party Writer) (kind : Kind) : Extends ctx (ctx.start party kind).1 := by
  cases kind with
  | read =>
    let started := ctx.put ((ctx.tun.markRead party).1.start party .read).1
    have cancels : Extends started started.cancelTimer := extends_cancelTimer
    exact ⟨cancels.waiting, cancels.ready⟩
  | write => exact extends_put _

theorem extends_lock (future : Resumption) (party : Party Writer) (kind : Kind) :
    Extends ctx (ctx.lock future party kind).1 := by
  unfold Context.lock
  split
  · exact (extends_put _).trans (extends_post _)
  · split
    · exact (extends_put _).trans (extends_post _)
    · exact (extends_put _).trans (extends_start party kind)

theorem extends_call (called : ctx.call lib function = some result) : Extends ctx result.1 := by
  cases function with
  | post party =>
    dsimp only [Context.call] at called
    split at called <;> cases called
    have cancels : Extends ctx (ctx.cancelTimer.cancel (some party)) :=
      extends_cancelTimer.trans ⟨rfl, List.prefix_append ..⟩
    exact (cancels.trans (extends_put _)).trans (extends_lock lib.ready party _)
  | handler party =>
    dsimp only [Context.call] at called
    split at called <;> cases called
    unfold Context.handle
    dsimp only
    split
    · exact extends_put _
    · split
      · exact ((extends_put _).trans extends_cancelTimer).trans (extends_post _)
      · exact (extends_put _).trans (extends_post _)
  | timer canceled =>
    cases canceled <;> cases called
    · exact ⟨rfl, List.prefix_append ..⟩
    · exact ⟨rfl, List.prefix_rfl⟩

theorem extends_resume (resumed : ctx.resume lib party = some result) : Extends ctx result.1 := by
  unfold Context.resume at resumed
  split at resumed <;> cases resumed
  · exact (extends_put _).trans (extends_lock lib.ready party .read)
  · exact extends_lock lib.completed party _
  · exact extends_start party _
  · rename_i kind outcome _
    cases kind <;> exact extends_put _

omit [DecidableEq Writer] in
theorem turnDue_endTurn (ctx : Context Writer) : TurnDue ctx.endTurn := by
  unfold Context.endTurn
  split
  · rename_i comes
    exact fun _ => comes
  · exact fun waits => absurd rfl waits

omit [DecidableEq Writer] in
theorem TurnDue.popped (due : TurnDue ctx) (front : ctx.ready = task :: rest)
    (notTurn : task.isTurn = false) : TurnDue { ctx with ready := rest } := by
  intro waits
  have comes := due waits
  rw [Context.turnComes, front, List.any_cons, notTurn, Bool.false_or] at comes
  exact comes

theorem TurnDue.execute (due : TurnDue ctx) (front : ctx.ready = task :: rest)
    (executed : { ctx with ready := rest }.execute lib task = some result) : TurnDue result.1 := by
  cases task with
  | resume party => exact (due.popped front rfl).extends (extends_resume executed)
  | slot function =>
    dsimp only [Context.execute] at executed
    split at executed
    · rename_i comes
      cases executed
      exact fun _ => comes.2
    · exact (due.popped front rfl).extends (extends_call executed)
  | turn function =>
    dsimp only [Context.execute] at executed
    split at executed <;> cases executed
    exact turnDue_endTurn _

theorem TurnDue.step {event : Event Writer} (due : TurnDue ctx)
    (stepped : step lib ctx event = some result) : TurnDue result.1 := by
  obtain ⟨_, takes⟩ := step_takes stepped
  cases takes with
  | reads => exact due.extends ((extends_put _).trans (extends_post _))
  | posts =>
    unfold Context.postStrand
    split
    · rename_i comes
      exact fun _ => comes.2
    · exact due.extends ((extends_put _).trans (extends_post _))
  | writes _ _ locks =>
    subst locks
    exact due.extends ((extends_put _).trans (extends_lock lib.ready _ _))
  | next front executed => exact due.execute front executed
  | completes => exact due.extends ((extends_put _).trans (extends_post _))
  | expires => exact due.extends ⟨rfl, List.prefix_append ..⟩


/-! ### Every run -/

/-- What holds while the process lives. -/
structure Minded (ctx : Context Writer) : Prop where
  queued : Queued ctx
  due : TurnDue ctx
  accounted : ctx.tun.aborted = false → Accounted ctx

theorem run_minded {trace : List (Shown Writer)} (run : (system Writer lib).Run trace ctx) :
    Minded ctx := by
  obtain ⟨start, rfl, steps⟩ := run
  induction steps with
  | refl =>
    refine ⟨⟨by simp [machine, Context.resumers], by simp [machine, Context.resumers, ToResume]⟩,
      fun waits => absurd rfl waits, fun _ => ⟨⟨?_, ?_, ?_⟩, ?_, ?_⟩⟩ <;>
      simp [machine, Context.functions, Due, Rests]
  | next earlier stepped ih =>
    obtain ⟨event, stepped⟩ := stepped
    have reached := run_reached ⟨_, rfl, earlier⟩
    exact ⟨(ih.queued.step reached stepped).1, ih.due.step stepped,
      (ih.accounted (step_takes stepped).1).step reached stepped⟩

/-- In no call, or waiting for an operation. -/
def Settled : At → Bool
  | .idle | .waits _ => true
  | _ => false

/-- How often a party has a place in the ready queue or on the strand. -/
def Context.places (ctx : Context Writer) (party : Party Writer) : Nat :=
  (ctx.resumers ++ ctx.functions.filterMap Function.owner).count party

theorem call_runs (lib : Library) (fits : function.Fits ctx.tun.at') :
    (ctx.call lib function).isSome = true := by
  cases function with
  | post party =>
    obtain ⟨ipPacket, stands⟩ := fits
    simp [Context.call, stands]
  | handler party =>
    obtain ⟨kind, completion, stands⟩ := fits
    simp [Context.call, stands]
  | timer canceled => cases canceled <;> rfl

/-- The first task finds its coroutine where it is to go on. -/
theorem Minded.runs (minded : Minded ctx) (alive : ctx.tun.aborted = false) (lib : Library)
    (front : ctx.ready = task :: rest) : ({ ctx with ready := rest }.execute lib task).isSome = true := by
  have accounted := minded.accounted alive
  have fits : ∀ function, task.function = some function → function.Fits ctx.tun.at' := by
    intro function runs
    apply accounted.strung.fits
    simp [Context.functions, front, runs]
  cases task with
  | resume party =>
    have resumes : ToResume (ctx.tun.at' party) :=
      (minded.queued.stands party).mp (by simp [Context.resumers, front, Task.resumed])
    have rests := accounted.rests party
    simp only [Context.execute, Context.resume]
    cases stands : ctx.tun.at' party with
    | called kind => cases kind <;> simp_all [Rests]
    | locking | locked | resumed => rfl
    | _ => simp [stands, ToResume] at resumes
  | slot function =>
    simp only [Context.execute]
    split
    · rfl
    · exact call_runs lib (fits function rfl)
  | turn function =>
    have called : (Context.call lib { ctx with ready := rest } function).isSome = true :=
      call_runs lib (fits function rfl)
    obtain ⟨result, called⟩ := Option.isSome_iff_exists.mp called
    simp only [Context.execute, called, Option.isSome_some]

theorem count_once {parties : List (Party Writer)} {Here : Prop} (once : parties.Nodup)
    (member : party ∈ parties ↔ Here) :
    (Here → parties.count party = 1) ∧ (¬ Here → parties.count party = 0) :=
  ⟨fun here => List.count_eq_one_of_mem once (member.mpr here),
    fun away => List.count_eq_zero_of_not_mem (mt member.mp away)⟩

/-- A party has a place where it has to go on, and else none. -/
theorem Minded.places (minded : Minded ctx) (alive : ctx.tun.aborted = false) (party : Party Writer) :
    ctx.places party = if Settled (ctx.tun.at' party) then 0 else 1 := by
  have accounted := minded.accounted alive
  have rests := accounted.rests party
  have owner : party ∈ ctx.functions.filterMap Function.owner ↔ Due (ctx.tun.at' party) :=
    ⟨fun member => by_contra fun away => accounted.strung.away away member,
      accounted.strung.there party⟩
  obtain ⟨resumed, others⟩ := count_once minded.queued.once (minded.queued.stands party)
  obtain ⟨due, undue⟩ := count_once accounted.strung.once owner
  rw [Context.places, List.count_append]
  cases stands : ctx.tun.at' party <;> simp_all [Settled, ToResume, Due, Rests]

/-- An empty queue: every call waits for its operation. -/
theorem Minded.empty (minded : Minded ctx) (alive : ctx.tun.aborted = false) (empty : ctx.ready = []) :
    ctx.functions = [] ∧ ∀ party, Settled (ctx.tun.at' party) := by
  have waiting : ctx.waiting = [] := by
    by_contra waits
    have comes := minded.due waits
    simp [Context.turnComes, empty] at comes
  have functions : ctx.functions = [] := by simp [Context.functions, empty, waiting]
  refine ⟨functions, fun party => ?_⟩
  have places := minded.places alive party
  simp only [Context.places, Context.resumers, empty, functions] at places
  by_contra moves
  simp [moves] at places

/-- **The device is never stuck.** Whatever the calls, the completions and the library, the first
task of the ready queue finds its coroutine where it is to go on; every call that does not wait
for its operation has exactly one place in the queue or on the strand, and every other none; a read
that waits has its timer, or the callback of its timer to come. So once the queue is empty, all
that is under way waits for the system. -/
theorem tun_never_stuck {trace : List (Shown Writer)} (run : (system Writer lib).Run trace ctx)
    (alive : ctx.tun.aborted = false) :
    (ctx.ready ≠ [] → (step lib ctx .next).isSome = true) ∧
      (∀ party, ctx.places party = if Settled (ctx.tun.at' party) then 0 else 1) ∧
      (ctx.tun.at' none = .waits .read → ctx.timerWaits = true ∨ .timer false ∈ ctx.functions) ∧
      (ctx.ready = [] → (∀ party, ctx.tun.at' party = .idle ∨ party ∈ ctx.tun.operations) ∧
        (none ∈ ctx.tun.operations → ctx.timerWaits = true)) := by
  have minded := run_minded run
  have accounted := minded.accounted alive
  have reached := run_reached run
  refine ⟨fun more => ?_, minded.places alive, accounted.timed, fun empty => ⟨fun party => ?_, ?_⟩⟩
  · cases front : ctx.ready with
    | nil => exact absurd front more
    | cons task rest =>
      simp only [step, alive, Bool.false_eq_true, if_false, front]
      exact minded.runs alive lib front
  · have settled := (minded.empty alive empty).2 party
    cases stands : ctx.tun.at' party with
    | idle => exact .inl rfl
    | waits kind => exact .inr ((reached.inFlight.mem party).mpr ⟨kind, stands⟩)
    | _ => simp [stands, Settled] at settled
  · intro struck
    obtain ⟨kind, stands⟩ := (reached.inFlight.mem none).mp struck
    have plays := reached.plays none kind (by rw [stands]; rfl)
    cases kind with
    | read => simpa [(minded.empty alive empty).1] using accounted.timed stands
    | write ipPacket => exact plays.elim

/-- A read waits, with the queue empty. -/
theorem tun_never_stuck_read :
    ∃ trace ctx, (system Bool ⟨.atOnce, .atOnce, .places⟩).Run trace ctx ∧ ctx.ready = [] ∧
      ctx.tun.operations = [none] ∧ ctx.timerWaits = true := by
  have run := Machine.replay_run (show Machine.replay (machine Bool ⟨.atOnce, .atOnce, .places⟩) _
    [.read, .next] = _ from rfl)
  exact ⟨_, _, run, rfl, rfl, ((tun_never_stuck run rfl).2.2.2 rfl).2 (by decide)⟩

end Vpverk.TunSchedule
