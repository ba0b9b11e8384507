/-
Module: Lectern.Proofs.Generation.Ceiling
Purpose: Which runs end for want of time: each time a trace tells of that, the attempt has started at
  or past the deadline, or its source was waited for up to the deadline and then given up. The time is
  really over but where the generator reports itself that it has run out of time.
Trusted boundary: none
Main exports: Ending, Surroundings, Trace.TellsTimeout, Run.Reaches, Run.ceiling_reached_iff
-/
import Lectern.Proofs.Generation.Deadline

namespace Lectern

/-! ## Generators that are cut off -/

/-- How the wait for a source ends: the generator answers or fails of itself, or it is cut off when it
has been waited for as long as may be. -/
inductive Ending where
  | own (result : Except Failure String)
  | cut

/-- What is heard of it. A generator that is cut off and one that fails for want of time sound the
same. -/
def Ending.answer : Ending → Except Failure String
  | .own result => result
  | .cut => .error .timedOut

/-- What a run meets with. The clock and the calendar always answer; all else may fail. -/
structure Surroundings where
  clock : List (Inquiry ℚ) → ℚ
  moment : List (Inquiry ℚ) → Timestamp
  generator : List (Inquiry ℚ) → Prompt → ℚ → Ending
  store : List (Inquiry ℚ) → {β : Type} → Store.Operation β → Except Failure β
  sleep : List (Inquiry ℚ) → ℚ → Except Failure Unit
  freshId : List (Inquiry ℚ) → Except Failure String

/-- The answers to all requests. -/
def Surroundings.world (surroundings : Surroundings) : World ℚ
  | log, _, .clock => .ok (surroundings.clock log)
  | log, _, .moment => .ok (surroundings.moment log)
  | log, _, .generate prompt timeout => (surroundings.generator log prompt timeout).answer
  | log, _, .store operation => surroundings.store log operation
  | log, _, .sleep duration => surroundings.sleep log duration
  | log, _, .freshId => surroundings.freshId log

/-! ## Traces that tell of a timeout -/

/-- A trace of an attempt that has failed for want of time. -/
def Trace.TellsTimeout (trace : Trace) : Prop :=
  trace.prompt.isSome ∧ ∃ text, trace.error = some ("timeout: " ++ text)

namespace Inquiry

/-- A trace that tells of a timeout is to be kept. -/
def TellsTimeout {τ : Type} : Inquiry τ → Prop
  | ⟨.store (.appendTrace trace), _⟩ => trace.TellsTimeout
  | _ => False

/-- A source is heard to be out of time before the limit of an attempt is. -/
def GivesUp (limit : ℚ) : Inquiry ℚ → Prop
  | ⟨.generate _ timeout, .error .timedOut⟩ => timeout < limit
  | _ => False

theorem not_givesUp_of_ne {limit timeout : ℚ} {prompt : Prompt} {answer : Except Failure String}
    (other : answer ≠ .error .timedOut) :
    ¬ (⟨.generate prompt timeout, answer⟩ : Inquiry ℚ).GivesUp limit := by
  intro gives
  unfold GivesUp at gives
  split at gives
  next same =>
    cases same
    exact other rfl
  next => exact gives

/-- No source is asked for, and no trace tells of a timeout. -/
structure Quiet {τ : Type} (inquiry : Inquiry τ) : Prop where
  silent : inquiry.isGeneration = false
  untold : ¬ inquiry.TellsTimeout

theorem Quiet.not_givesUp {limit : ℚ} {inquiry : Inquiry ℚ} (quiet : inquiry.Quiet) :
    ¬ inquiry.GivesUp limit := by
  obtain ⟨silent, -⟩ := quiet
  intro gives
  unfold GivesUp at gives
  split at gives
  next => cases silent
  next => exact gives

end Inquiry

namespace Run

open Program

private theorem stage_of_name {stage : Option Stage} {text more : String}
    (same : (match stage with | some stage => stage.name | none => "None") ++ ": " ++ text =
      "timeout: " ++ more) : stage = some .timeout := by
  have chars := congrArg String.toList same
  cases stage with
  | none => simp at chars
  | some stage => cases stage <;> simp [Stage.name] at chars ⊢

/-- A trace tells of a timeout if its attempt has failed at that stage. -/
theorem tellsTimeout_traceOf {lessonId : String} {prompt : Prompt} {model response : Option String}
    {made : Attempt} {now : Timestamp} (failed : made.outcome = .failed) :
    (traceOf lessonId prompt model response made now).TellsTimeout ↔
      made.failureStage = some .timeout := by
  have error : errorOf made = some _ := if_neg (by rw [failed]; decide)
  constructor
  · rintro ⟨-, text, same⟩
    exact stage_of_name (Option.some.inj (error.symm.trans same))
  · intro stage
    refine ⟨rfl, "; ".intercalate made.errors, error.trans ?_⟩
    rw [stage]
    rfl

section Evaluated

variable {lessonId source : String} {prompt : Prompt} {model : Option String} {dated now : Timestamp}
  {number : Nat} {made : Attempt} (judged : Evaluation.evaluate dated number source = .ok made)
include judged

/-- A source that was generated is never out of time. -/
theorem evaluate_inTime : made.failureStage ≠ some .timeout := by
  intro same
  obtain ⟨named, -, passes | fails⟩ := (Evaluation.verdict_evaluate judged).decided
  · cases passes.failureStage.symm.trans same
  · have stage := fails.stage
    rw [same] at stage
    simp at stage

private theorem not_tells_evaluated :
    ¬ (traceOf lessonId prompt model (some source) made now).TellsTimeout := by
  intro told
  obtain ⟨named, -, passes | fails⟩ := (Evaluation.verdict_evaluate judged).decided
  · obtain ⟨-, text, same⟩ := told
    have error : errorOf made = none := if_pos (by rw [passes.outcome]; rfl)
    cases error.symm.trans same
  · exact evaluate_inTime judged ((tellsTimeout_traceOf fails.outcome).mp told)

end Evaluated

/-- The trace of a failure that no attempt stands for names no prompt. -/
private theorem not_tells_crash {lessonId : String} {number : Nat} {failure : Failure}
    {now : Timestamp} : ¬ (crashTrace lessonId number failure now).TellsTimeout :=
  fun told => Bool.false_ne_true told.1

/-! ## What stands before such a trace -/

/-- The time of a run is over, by what it asked last: it has read the clock at the start of an attempt
at or past the deadline, or it has waited for a source for all the time that was left then, which was
less than an attempt may take, and the wait has ended in some way. -/
inductive Reaches (deadline limit : ℚ) (ended : List (Inquiry ℚ) → Prompt → ℚ → Prop) :
    List (Inquiry ℚ) → Prop
  | late {before : List (Inquiry ℚ)} {now later : ℚ} {moment : Timestamp} (past : deadline ≤ now) :
      Reaches deadline limit ended
        (before ++ [.reads now, .reads later, ⟨.moment, .ok moment⟩])
  | spent {before : List (Inquiry ℚ)} {prompt : Prompt} {now later : ℚ} {moment : Timestamp}
      (left : now < deadline) (short : deadline - now < limit)
      (waited : ended (before ++ [.reads now]) prompt (deadline - now)) :
      Reaches deadline limit ended
        (before ++ [.reads now, ⟨.generate prompt (deadline - now), .error .timedOut⟩,
          .reads later, ⟨.moment, .ok moment⟩])

/-- The time is over, however the wait has ended. -/
private abbrev Spent (deadline limit : ℚ) : List (Inquiry ℚ) → Prop :=
  Reaches deadline limit fun _ _ _ => True

/-- Each source that was given up has left a trace that tells of a timeout, as soon as the clock and
the calendar were read. -/
private inductive LeavesTraces (limit : ℚ) : List (Inquiry ℚ) → Prop
  | start : LeavesTraces limit []
  | other {log : List (Inquiry ℚ)} {inquiry : Inquiry ℚ} (told : LeavesTraces limit log)
      (stays : ¬ inquiry.GivesUp limit) : LeavesTraces limit (log ++ [inquiry])
  | settled {log : List (Inquiry ℚ)} {inquiry : Inquiry ℚ} {later : ℚ} {moment : Timestamp}
      {trace : Trace} {kept : Except Failure Unit} (told : LeavesTraces limit log)
      (tells : trace.TellsTimeout) :
      LeavesTraces limit (log ++ [inquiry, .reads later, ⟨.moment, .ok moment⟩,
        ⟨.store (.appendTrace trace), kept⟩])

/-- A run has not told of a timeout yet, and had no reason to. -/
private structure Going (limit : ℚ) (log : List (Inquiry ℚ)) : Prop where
  clear : ∀ inquiry ∈ log, ¬ inquiry.TellsTimeout
  told : LeavesTraces limit log

/-- A run has told of a timeout, with reason, and asks for nothing more than to end. -/
private structure Stopped (deadline limit : ℚ) (log : List (Inquiry ℚ)) : Prop where
  split : ∃ front trace kept back, log = front ++ ⟨.store (.appendTrace trace), kept⟩ :: back ∧
    Spent deadline limit front ∧ (∀ inquiry ∈ front, ¬ inquiry.TellsTimeout) ∧
    ∀ inquiry ∈ back, inquiry.Quiet
  told : LeavesTraces limit log

/-- A run has told of a timeout once at most, and with reason. -/
private def Accounted (deadline limit : ℚ) (log : List (Inquiry ℚ)) : Prop :=
  Going limit log ∨ Stopped deadline limit log

section Logs

variable {deadline limit : ℚ} {log : List (Inquiry ℚ)} {inquiry : Inquiry ℚ}

/-- What is behind a source that was given up. -/
private theorem LeavesTraces.follows (told : LeavesTraces limit log) {front back : List (Inquiry ℚ)}
    (split : log = front ++ inquiry :: back) (gives : inquiry.GivesUp limit) :
    ∃ later moment trace kept rest,
      back = [.reads later, ⟨.moment, .ok moment⟩, ⟨.store (.appendTrace trace), kept⟩] ++ rest ∧
      trace.TellsTimeout := by
  induction told generalizing back with
  | start => simp at split
  | other told stays inductionHypothesis =>
    rcases List.eq_nil_or_concat back with rfl | ⟨back, last, rfl⟩
    · obtain ⟨-, same⟩ := List.append_inj' split rfl
      cases same
      exact absurd gives stays
    · rw [List.concat_eq_append, ← List.cons_append, ← List.append_assoc] at split
      obtain ⟨later, moment, trace, kept, rest, rfl, tells⟩ :=
        inductionHypothesis (List.append_inj' split rfl).1
      exact ⟨later, moment, trace, kept, rest ++ [last], by simp, tells⟩
  | @settled log given later moment trace kept told tells inductionHypothesis =>
    rcases List.append_eq_append_iff.mp split with ⟨between, rfl, same⟩ | ⟨between, rfl, same⟩
    · cases between with
      | nil => exact ⟨later, moment, trace, kept, [], (List.cons.inj same).2.symm, tells⟩
      | cons first between =>
        have member : inquiry ∈ [Inquiry.reads later, ⟨.moment, .ok moment⟩,
            ⟨.store (.appendTrace trace), kept⟩] :=
          (List.cons.inj same).2 ▸ List.mem_append_right _ List.mem_cons_self
        simp only [List.mem_cons, List.not_mem_nil, or_false] at member
        rcases member with rfl | rfl | rfl <;> exact gives.elim
    · cases between with
      | nil => exact ⟨later, moment, trace, kept, [], (List.cons.inj same).2, tells⟩
      | cons first between =>
        obtain ⟨rfl, rfl⟩ := List.cons.inj same
        obtain ⟨later, moment, trace, kept, rest, rfl, tells⟩ := inductionHypothesis rfl
        exact ⟨later, moment, trace, kept, _, List.append_assoc .., tells⟩

private theorem going_start (limit started : ℚ) : Going limit [.reads started] where
  clear inquiry member := by
    cases List.mem_singleton.mp member
    exact id
  told := LeavesTraces.other .start id

private theorem Going.snoc (going : Going limit log) (untold : ¬ inquiry.TellsTimeout)
    (stays : ¬ inquiry.GivesUp limit) : Going limit (log ++ [inquiry]) where
  clear other member := by
    rcases List.mem_append.mp member with earlier | last
    · exact going.clear other earlier
    · cases List.mem_singleton.mp last
      exact untold
  told := going.told.other stays

private theorem Going.quiet (going : Going limit log) (quiet : inquiry.Quiet) :
    Going limit (log ++ [inquiry]) :=
  going.snoc quiet.untold quiet.not_givesUp

private theorem Stopped.quiet (stopped : Stopped deadline limit log) (quiet : inquiry.Quiet) :
    Stopped deadline limit (log ++ [inquiry]) where
  split := by
    obtain ⟨front, trace, kept, back, rfl, spent, clear, calm⟩ := stopped.split
    refine ⟨front, trace, kept, back ++ [inquiry], by simp, spent, clear, ?_⟩
    intro other member
    rcases List.mem_append.mp member with earlier | last
    · exact calm other earlier
    · cases List.mem_singleton.mp last
      exact quiet
  told := stopped.told.other quiet.not_givesUp

/-- The one trace that tells of a timeout. -/
private theorem Stopped.spent (stopped : Stopped deadline limit log) {front back : List (Inquiry ℚ)}
    (split : log = front ++ inquiry :: back) (tells : inquiry.TellsTimeout) :
    Spent deadline limit front ∧ generations back = 0 := by
  obtain ⟨front', trace, kept, back', rfl, spent, clear, calm⟩ := stopped.split
  have silent : generations back' = 0 :=
    List.countP_eq_zero.mpr fun other member => by simp [(calm other member).silent]
  rcases List.append_eq_append_iff.mp split with ⟨between, rfl, same⟩ | ⟨between, rfl, same⟩
  · cases between with
    | nil =>
      obtain ⟨-, rfl⟩ := List.cons.inj same
      rw [List.append_nil]
      exact ⟨spent, silent⟩
    | cons first between =>
      have member : inquiry ∈ back' :=
        (List.cons.inj same).2 ▸ List.mem_append_right _ List.mem_cons_self
      exact absurd tells (calm inquiry member).untold
  · cases between with
    | nil =>
      obtain ⟨-, rfl⟩ := List.cons.inj same
      rw [List.append_nil] at spent
      exact ⟨spent, silent⟩
    | cons first between =>
      have member : inquiry ∈ front ++ first :: between :=
        List.mem_append_right _ ((List.cons.inj same).1 ▸ List.mem_cons_self)
      exact absurd tells (clear inquiry member)

private theorem Accounted.spent (accounted : Accounted deadline limit log)
    {front back : List (Inquiry ℚ)} (split : log = front ++ inquiry :: back)
    (tells : inquiry.TellsTimeout) : Spent deadline limit front ∧ generations back = 0 := by
  rcases accounted with going | stopped
  · exact absurd tells (going.clear inquiry (split ▸ List.mem_append_right _ List.mem_cons_self))
  · exact stopped.spent split tells

private theorem Accounted.told (accounted : Accounted deadline limit log) : LeavesTraces limit log := by
  rcases accounted with going | stopped
  · exact going.told
  · exact stopped.told

/-- A wait that was the last of all has ended as it should. -/
private theorem Reaches.waited {ended : List (Inquiry ℚ) → Prompt → ℚ → Prop} {prompt : Prompt}
    {timeout later : ℚ} {moment : Timestamp}
    (reaches : Reaches deadline limit ended (log ++ [⟨.generate prompt timeout, .error .timedOut⟩,
      .reads later, ⟨.moment, .ok moment⟩])) : ended log prompt timeout := by
  generalize all : log ++ [⟨.generate prompt timeout, .error .timedOut⟩, .reads later,
    ⟨.moment, .ok moment⟩] = asked at reaches
  cases reaches with
  | late past =>
    obtain ⟨-, same⟩ := List.append_inj' all rfl
    have kind := congrArg Inquiry.isReading (List.cons.inj same).1
    cases kind
  | @spent before _ now _ _ left short waited =>
    rw [← List.singleton_append (x := Inquiry.reads now), ← List.append_assoc] at all
    obtain ⟨rfl, same⟩ := List.append_inj' all rfl
    cases (List.cons.inj same).1
    exact waited

private theorem Accounted.quiet (accounted : Accounted deadline limit log) (quiet : inquiry.Quiet) :
    Accounted deadline limit (log ++ [inquiry]) := by
  rcases accounted with going | stopped
  · exact .inl (going.quiet quiet)
  · exact .inr (stopped.quiet quiet)

end Logs

/-! ## Parts of a run -/

/-- The clock and the calendar answer. -/
private def Answers {β : Type} : Request ℚ β → Except Failure β → Prop
  | .clock, answer => ∃ now, answer = .ok now
  | .moment, answer => ∃ moment, answer = .ok moment
  | _, _ => True

private abbrev answered : Discipline ℚ (List (Inquiry ℚ)) :=
  .recording (fun _ _ _ => True) fun _ _ request answer => Answers request answer

variable {task : Task ℚ} {log : List (Inquiry ℚ)}

/-- A call, and what follows it. -/
private theorem answered_then {α β : Type} {request : Request ℚ α} {next : α → Program ℚ β}
    {post : List (Inquiry ℚ) → Except Failure β → Prop}
    (fails : ∀ failure, Answers request (.error failure) →
      post (log ++ [⟨request, .error failure⟩]) (.error failure))
    (goes : ∀ value, (next value).Keeps answered post (log ++ [⟨request, .ok value⟩])) :
    (Program.call request >>= next).Keeps answered post log := by
  rw [keeps_bind', keeps_call]
  refine ⟨trivial, ?_⟩
  intro answer expected
  cases answer with
  | ok value => exact goes value
  | error failure => exact fails failure expected

/-- A run of a task has its deadline and the limit of an attempt. -/
private abbrev Task.Going (task : Task ℚ) : List (Inquiry ℚ) → Prop :=
  Run.Going task.pace.attemptLimit

private abbrev Task.Accounted (task : Task ℚ) : List (Inquiry ℚ) → Prop :=
  Run.Accounted task.deadline task.pace.attemptLimit

/-- What an attempt comes to: it goes on without a timeout or has failed, or it has reached the end of
the time and leaves a trace that tells so. -/
private inductive Tried (task : Task ℚ) : List (Inquiry ℚ) → Except Failure (Attempt × Trace) → Prop
  | goes {log : List (Inquiry ℚ)} {made : Attempt} {trace : Trace} (going : Task.Going task log)
      (other : made.failureStage ≠ some .timeout) (untold : ¬ trace.TellsTimeout) :
      Tried task log (.ok (made, trace))
  | fails {log : List (Inquiry ℚ)} {failure : Failure} (going : Task.Going task log) :
      Tried task log (.error failure)
  | spent {log : List (Inquiry ℚ)} {made : Attempt} {trace : Trace}
      (spent : Spent task.deadline task.pace.attemptLimit log)
      (clear : ∀ inquiry ∈ log, ¬ inquiry.TellsTimeout)
      (told : ∀ kept,
        LeavesTraces task.pace.attemptLimit (log ++ [⟨.store (.appendTrace trace), kept⟩]))
      (stage : made.failureStage = some .timeout) (outcome : made.outcome = .failed) :
      Tried task log (.ok (made, trace))

private theorem tried_unanswered {prompt : Prompt} {number : Nat} {stage : Stage} {error : String}
    (going : Task.Going task log) (other : stage ≠ .timeout) :
    (unanswered task prompt number stage error).Keeps answered (Tried task) log := by
  refine answered_then ?_ ?_
  · rintro _ ⟨_, impossible⟩
    cases impossible
  · intro moment
    refine .goes (going.quiet ⟨rfl, id⟩) (fun same => other (Option.some.inj same)) ?_
    intro told
    exact other (Option.some.inj ((tellsTimeout_traceOf rfl).mp told))

private theorem tried_evaluated {prompt : Prompt} {number : Nat} {source : String}
    (going : Task.Going task log) :
    (evaluated task prompt number source).Keeps answered (Tried task) log := by
  refine answered_then ?_ ?_
  · rintro _ ⟨_, impossible⟩
    cases impossible
  · intro moment
    have read : Task.Going task (log ++ [⟨.moment, .ok moment⟩]) := going.quiet ⟨rfl, id⟩
    rw [keeps_bind', keeps_ofExcept]
    cases judged : Evaluation.evaluate moment number source with
    | error failure => exact .fails read
    | ok made => exact .goes read (evaluate_inTime judged) (not_tells_evaluated judged)

/-- The time is over: the clock and the calendar are read, and the attempt has failed for that. -/
private theorem tried_timedOut {prompt : Prompt} {number : Nat}
    (clear : ∀ inquiry ∈ log, ¬ inquiry.TellsTimeout)
    (spent : ∀ later moment, Spent task.deadline task.pace.attemptLimit
      (log ++ [.reads later, ⟨.moment, .ok moment⟩]))
    (told : ∀ later moment trace kept, trace.TellsTimeout → LeavesTraces task.pace.attemptLimit
      (log ++ [.reads later, ⟨.moment, .ok moment⟩, ⟨.store (.appendTrace trace), kept⟩])) :
    (timedOut task prompt number).Keeps answered (Tried task) log := by
  refine answered_then ?_ ?_
  · rintro _ ⟨_, impossible⟩
    cases impossible
  · intro later
    refine answered_then ?_ ?_
    · rintro _ ⟨_, impossible⟩
      cases impossible
    · intro moment
      have tells : (traceOf task.lesson.id prompt task.model none (lateAttempt task number later)
          moment).TellsTimeout := (tellsTimeout_traceOf rfl).mpr rfl
      rw [List.append_assoc]
      refine .spent (spent later moment) ?_ ?_ rfl rfl
      · intro inquiry member
        simp only [List.mem_append, List.singleton_append, List.mem_cons, List.not_mem_nil,
          or_false] at member
        rcases member with earlier | rfl | rfl
        · exact clear inquiry earlier
        · exact id
        · exact id
      · intro kept
        rw [List.append_assoc]
        exact told later moment _ kept tells

/-- An attempt reads the clock and asks for a source, unless the deadline is past. -/
private theorem tried_attempt {number : Nat} {previous : Option Attempt}
    (going : Task.Going task log) :
    (attempt task number previous).Keeps answered (Tried task) log := by
  refine answered_then ?_ ?_
  · rintro _ ⟨_, impossible⟩
    cases impossible
  · intro now
    have read : Task.Going task (log ++ [.reads now]) := going.quiet ⟨rfl, id⟩
    dsimp only
    split
    next some_left =>
      have left : 0 < task.deadline - now := of_decide_eq_true some_left
      rw [show Seconds.sub task.deadline now = task.deadline - now from rfl, Seconds.least_eq_min]
      simp only [keeps_bind', keeps_attempt, keeps_call]
      refine ⟨trivial, ?_⟩
      intro reply expected
      clear expected
      have answered_otherwise {prompt : Prompt} {timeout : ℚ} (other : reply ≠ .error .timedOut) :
          Task.Going task (log ++ [.reads now] ++ [⟨.generate prompt timeout, reply⟩]) :=
        read.snoc id (Inquiry.not_givesUp_of_ne other)
      simp only [then_ok]
      split
      next source =>
        split
        next => exact tried_unanswered (answered_otherwise (by rintro ⟨⟩)) (by decide)
        next => exact tried_evaluated (answered_otherwise (by rintro ⟨⟩))
      next =>
        split
        next short =>
          have less : min task.pace.attemptLimit (task.deadline - now) < task.pace.attemptLimit :=
            of_decide_eq_true short
          have whole : min task.pace.attemptLimit (task.deadline - now) = task.deadline - now :=
            min_eq_right (not_le.mp fun long => (min_eq_left long ▸ less).false).le
          rw [whole] at less ⊢
          change (timedOut task _ number).Keeps answered (Tried task)
            (log ++ [.reads now] ++ [⟨.generate _ (task.deadline - now), .error .timedOut⟩])
          refine tried_timedOut ?_ ?_ ?_
          · intro inquiry member
            rcases List.mem_append.mp member with earlier | last
            · exact read.clear inquiry earlier
            · cases List.mem_singleton.mp last
              exact id
          · intro later moment
            rw [List.append_assoc, List.append_assoc]
            exact .spent (by linarith) less trivial
          · intro later moment trace kept tells
            rw [List.append_assoc]
            exact read.told.settled tells
        next enough =>
          refine tried_unanswered (read.snoc id ?_) (by decide)
          exact fun less => enough (decide_eq_true less)
      next message => exact tried_unanswered (answered_otherwise (by rintro ⟨⟩)) (by decide)
      next failure other _ =>
        exact .fails (answered_otherwise fun same => other (Except.error.inj same))
    next none_left =>
      have past : task.deadline ≤ now := by
        have spent : ¬ 0 < task.deadline - now := fun left => none_left (decide_eq_true left)
        linarith
      refine tried_timedOut read.clear ?_ ?_
      · intro later moment
        rw [List.append_assoc]
        exact .late past
      · intro later moment trace kept tells
        have again : LeavesTraces task.pace.attemptLimit (log ++ [.reads now] ++ [.reads later]) :=
          read.told.other id
        have dated : LeavesTraces task.pace.attemptLimit
            (log ++ [.reads now] ++ [.reads later] ++ [⟨.moment, .ok moment⟩]) := again.other id
        have traced : LeavesTraces task.pace.attemptLimit (log ++ [.reads now] ++ [.reads later] ++
            [⟨.moment, .ok moment⟩] ++ [⟨.store (.appendTrace trace), kept⟩]) := dated.other id
        simpa using traced

private theorem going_pause {number : Nat} {previous : Option Attempt}
    (going : Task.Going task log) :
    (pause task number previous).Keeps answered (fun log _ => Task.Going task log) log := by
  unfold pause
  split
  next =>
    unfold backOff
    rw [keeps_bind', keeps_ofExcept]
    cases task.pace.backoff (number - 1) with
    | error failure => exact going
    | ok delay =>
      refine answered_then (fun _ _ => going.quiet ⟨rfl, id⟩) ?_
      intro now
      have read : Task.Going task (log ++ [.reads now]) := going.quiet ⟨rfl, id⟩
      dsimp only
      split
      next => exact keeps_call.mpr ⟨trivial, fun _ _ => read.quiet ⟨rfl, id⟩⟩
      next => exact read
  next => exact going

/-- What a turn comes to: it goes on without a timeout, or it has told of one and nothing more is to
come. -/
private inductive TurnEnds (task : Task ℚ) : List (Inquiry ℚ) → Except Failure Turn → Prop
  | again {log : List (Inquiry ℚ)} {made : Attempt} (going : Task.Going task log)
      (other : made.failureStage ≠ some .timeout) : TurnEnds task log (.ok (.again made))
  | finished {log : List (Inquiry ℚ)} {report : Report} (going : Task.Going task log) :
      TurnEnds task log (.ok (.finished report))
  | failed {log : List (Inquiry ℚ)} {failure : Failure} (accounted : Task.Accounted task log) :
      TurnEnds task log (.error failure)
  | stopped {log : List (Inquiry ℚ)} {made : Attempt} (accounted : Task.Accounted task log)
      (stage : made.failureStage = some .timeout) : TurnEnds task log (.ok (.again made))

private theorem turnEnds_conclude {number : Nat} {made : Attempt} {trace : Trace}
    (going : Task.Going task log) (other : made.failureStage ≠ some .timeout)
    (untold : ¬ trace.TellsTimeout) :
    (conclude task number made trace).Keeps answered (TurnEnds task) log := by
  unfold conclude
  split
  next source dated _ _ _ =>
    unfold persist
    split
    next =>
      refine answered_then (fun _ _ => .failed (.inl (going.quiet ⟨rfl, id⟩))) ?_
      intro content
      have kept : Task.Going task (log ++ [⟨.store (.addContent task.lesson.id source
          dated.artifact.moduleText dated.artifact.sourceHash), .ok content⟩]) :=
        going.quiet ⟨rfl, id⟩
      refine answered_then (fun _ _ => .failed (.inl (kept.quiet ⟨rfl, untold⟩))) ?_
      intro _
      have traced : Task.Going task (log ++ [⟨.store (.addContent task.lesson.id source
          dated.artifact.moduleText dated.artifact.sourceHash), .ok content⟩] ++
          [⟨.store (.appendTrace trace), .ok ()⟩]) := kept.quiet ⟨rfl, untold⟩
      refine answered_then (fun _ _ => .failed (.inl (traced.quiet ⟨rfl, id⟩))) ?_
      exact fun _ => .finished (traced.quiet ⟨rfl, id⟩)
    next => exact .failed (.inl going)
    next => exact .failed (.inl going)
  next =>
    refine answered_then (fun _ _ => .failed (.inl (going.quiet ⟨rfl, untold⟩))) ?_
    exact fun _ => .again (going.quiet ⟨rfl, untold⟩) other

/-- An attempt that has reached the end of the time leaves its trace. -/
private theorem turnEnds_spent {number : Nat} {made : Attempt} {trace : Trace}
    (spent : Spent task.deadline task.pace.attemptLimit log)
    (clear : ∀ inquiry ∈ log, ¬ inquiry.TellsTimeout)
    (told : ∀ kept,
      LeavesTraces task.pace.attemptLimit (log ++ [⟨.store (.appendTrace trace), kept⟩]))
    (stage : made.failureStage = some .timeout) (outcome : made.outcome = .failed) :
    (conclude task number made trace).Keeps answered (TurnEnds task) log := by
  have accounted (kept : Except Failure Unit) :
      Task.Accounted task (log ++ [⟨.store (.appendTrace trace), kept⟩]) :=
    .inr ⟨⟨log, trace, kept, [], rfl, spent, clear, List.forall_mem_nil _⟩, told kept⟩
  have again : conclude task number made trace =
      Program.call (.store (.appendTrace trace)) >>= fun _ => .done (.again made) := by
    unfold conclude
    rw [outcome]
    split
    next impossible => cases impossible
    next => rfl
  rw [again]
  refine answered_then ?_ ?_
  · exact fun failure _ => .failed (accounted (.error failure))
  · exact fun _ => .stopped (accounted (.ok ())) stage

private theorem turnEnds_turn {number : Nat} {previous : Option Attempt}
    (going : Task.Going task log) :
    (turn task number previous).Keeps answered (TurnEnds task) log := by
  unfold turn
  rw [keeps_bind']
  refine (going_pause going).mono ?_
  intro log result going
  cases result with
  | error failure => exact .failed (.inl going)
  | ok _ =>
    rw [then_ok, keeps_bind']
    refine (tried_attempt going).mono ?_
    intro log result tried
    cases tried with
    | goes going other untold => exact turnEnds_conclude going other untold
    | fails going => exact .failed (.inl going)
    | spent spent clear told stage outcome => exact turnEnds_spent spent clear told stage outcome

/-! ## Runs -/

private theorem accounted_crash {number : Nat} {failure : Failure}
    (accounted : Task.Accounted task log) :
    (crash task number failure).Keeps answered (fun log _ => Task.Accounted task log) log := by
  refine answered_then (fun _ _ => accounted.quiet ⟨rfl, id⟩) ?_
  intro moment
  have dated : Task.Accounted task (log ++ [⟨.moment, .ok moment⟩]) := accounted.quiet ⟨rfl, id⟩
  refine answered_then (fun _ _ => dated.quiet ⟨rfl, not_tells_crash⟩) ?_
  intro _
  have traced : Task.Accounted task (log ++ [⟨.moment, .ok moment⟩] ++
      [⟨.store (.appendTrace (crashTrace task.lesson.id number failure moment)), .ok ()⟩]) :=
    dated.quiet ⟨rfl, not_tells_crash⟩
  exact answered_then (fun _ _ => traced.quiet ⟨rfl, id⟩) fun _ => traced.quiet ⟨rfl, id⟩

private theorem accounted_giveUp {number : Nat} {last : Option Attempt}
    (accounted : Task.Accounted task log) :
    (giveUp task number last).Keeps answered (fun log _ => Task.Accounted task log) log := by
  refine answered_then (fun _ _ => accounted.quiet ⟨rfl, id⟩) ?_
  intro kept
  have ended : Task.Accounted task (log ++ [⟨.store (.setStatus task.lesson.id .failed), .ok kept⟩]) :=
    accounted.quiet ⟨rfl, id⟩
  cases last with
  | none => exact ended
  | some last => exact ended

/-- Attempts are made as long as none has told of a timeout. The induction is on those that are
left. -/
private theorem accounted_attempts {left number : Nat} {previous : Option Attempt}
    (going : Task.Going task log) :
    (attempts task left number previous).Keeps answered (fun log _ => Task.Accounted task log)
      log := by
  induction left generalizing log number previous with
  | zero => exact accounted_giveUp (.inl going)
  | succ left inductionHypothesis =>
    unfold attempts
    rw [keeps_bind', keeps_attempt]
    refine (turnEnds_turn going).mono ?_
    intro log result turned
    rw [then_ok]
    cases turned with
    | failed accounted => exact accounted_crash accounted
    | finished going => exact .inl going
    | again going other =>
      dsimp only
      rw [if_neg (by simpa using other)]
      exact inductionHypothesis going
    | stopped accounted stage =>
      dsimp only
      rw [if_pos (by rw [stage]; rfl)]
      exact accounted_giveUp accounted

private theorem accounted_run (surroundings : Surroundings) (context : Context ℚ)
    (lesson : Lesson) (pedagogy : Option Pedagogy) :
    Accounted (surroundings.clock [] + context.pace.limit) context.pace.attemptLimit
      ((run context lesson pedagogy).carryOut surroundings.world []).1 := by
  have started : surroundings.world [] .clock = .ok (surroundings.clock []) := rfl
  unfold run
  rw [carryOut_call_ok started]
  have answers (log : List (Inquiry ℚ)) {β : Type} (request : Request ℚ β) :
      Answers request (surroundings.world log request) := by
    cases request with
    | clock => exact ⟨_, rfl⟩
    | moment => exact ⟨_, rfl⟩
    | _ => trivial
  have ended (task : Task ℚ) (left : Nat) : Task.Accounted task
      ((attempts task left 1 none).carryOut surroundings.world
        [.reads (surroundings.clock [])]).1 :=
    (accounted_attempts (going_start _ _)).carried surroundings.world answers
  exact ended { context with
    lesson
    pedagogy := (pedagogy.or lesson.pedagogy).getD (Topic.inferPedagogy lesson.topic)
    started := surroundings.clock []
    deadline := Seconds.add (surroundings.clock []) context.pace.limit } context.pace.attempts

/-- Which traces of a run tell of a timeout. Each of them is kept when the time of the run is over: its
attempt has started at or past the deadline, or its source was heard to be out of time behind a wait
for all the time that was left, which was less than an attempt may take. No source is asked for behind
it. The wait was cut off each time exactly if no generator that was waited for so long has failed for
want of time itself. -/
theorem ceiling_reached_iff (surroundings : Surroundings) (context : Context ℚ) (lesson : Lesson)
    (pedagogy : Option Pedagogy) :
    let deadline := surroundings.clock [] + context.pace.limit
    let limit := context.pace.attemptLimit
    let log := ((run context lesson pedagogy).carryOut surroundings.world []).1
    (∀ front trace kept back, log = front ++ ⟨.store (.appendTrace trace), kept⟩ :: back →
      trace.TellsTimeout → Reaches deadline limit (fun _ _ _ => True) front ∧ generations back = 0) ∧
    ((∀ front trace kept back, log = front ++ ⟨.store (.appendTrace trace), kept⟩ :: back →
        trace.TellsTimeout → Reaches deadline limit
          (fun asked prompt timeout => surroundings.generator asked prompt timeout = .cut) front) ↔
      ∀ front prompt timeout answer back, log = front ++ ⟨.generate prompt timeout, answer⟩ :: back →
        timeout < limit → surroundings.generator front prompt timeout ≠ .own (.error .timedOut)) := by
  intro deadline limit log
  have accounted : Accounted deadline limit log :=
    accounted_run surroundings context lesson pedagogy
  have heard {front back : List (Inquiry ℚ)} {inquiry : Inquiry ℚ}
      (split : log = front ++ inquiry :: back) :
      inquiry.answer = surroundings.world front inquiry.request :=
    carryOut_answered surroundings.world _ split
  refine ⟨fun front trace kept back split tells => accounted.spent split tells, ?_, ?_⟩
  · intro reached front prompt timeout answer back split short own
    have given : answer = .error .timedOut := (heard split).trans (congrArg Ending.answer own)
    subst given
    obtain ⟨later, moment, trace, kept, rest, rfl, tells⟩ := accounted.told.follows split short
    have behind : log = front ++ [⟨.generate prompt timeout, .error .timedOut⟩, .reads later,
        ⟨.moment, .ok moment⟩] ++ ⟨.store (.appendTrace trace), kept⟩ :: rest := by simp [split]
    cases own.symm.trans (reached _ _ _ _ behind tells).waited
  · intro honest front trace kept back split tells
    cases (accounted.spent split tells).1 with
    | late past => exact .late past
    | @spent before prompt now later moment left short _ =>
      refine .spent left short ?_
      have asked : log = before ++ [.reads now] ++
          ⟨.generate prompt (deadline - now), .error .timedOut⟩ ::
            ([.reads later, ⟨.moment, .ok moment⟩] ++
              ⟨.store (.appendTrace trace), kept⟩ :: back) := by simp [split]
      have answer : .error .timedOut =
          (surroundings.generator (before ++ [.reads now]) prompt (deadline - now)).answer :=
        heard asked
      cases ending : surroundings.generator (before ++ [.reads now]) prompt (deadline - now) with
      | cut => rfl
      | own result =>
        rw [ending] at answer
        cases answer
        exact absurd ending (honest _ _ _ _ _ asked short)

/-! ## A generator that is out of time at once -/

private def keepsRecords {β : Type} : Store.Operation β → Except Failure β
  | .appendTrace _ => .ok ()
  | .setStatus id status =>
    .ok ⟨id, "Tides", "Tides", status, none, ⟨0, some 0⟩, ⟨0, some 0⟩⟩
  | _ => .error (.unknownLesson "a")

/-- No time ever passes, everything is kept, and the generator fails for want of time at once. -/
private def hastyGenerator : Surroundings where
  clock _ := 0
  moment _ := ⟨0, some 0⟩
  generator _ _ _ := .own (.error .timedOut)
  store _ _ operation := keepsRecords operation
  sleep _ _ := .ok ()
  freshId _ := .ok "b"

/-- Three attempts in one minute, which may take two minutes each. -/
private def oneMinute : Context ℚ where
  pace := { attempts := 3, limit := 60, attemptLimit := 120, backoff := fun _ => .ok 2 }
  model := none

private def hastyTask : Task ℚ :=
  { oneMinute with
    lesson := ⟨"a", "Tides", "Tides", .generating, none, ⟨0, some 0⟩, ⟨0, some 0⟩⟩
    pedagogy := {}
    started := 0
    deadline := 60 }

private theorem hastyTask_log :
    ((run oneMinute hastyTask.lesson (some {})).carryOut hastyGenerator.world []).1 =
      [.reads 0, .reads 0, ⟨.generate (.initial "Tides" {}) 60, .error .timedOut⟩, .reads 0,
        ⟨.moment, .ok ⟨0, some 0⟩⟩,
        ⟨.store (.appendTrace (traceOf "a" (.initial "Tides" {}) none none
          (lateAttempt hastyTask 1 0) ⟨0, some 0⟩)), .ok ()⟩,
        ⟨.store (.setStatus "a" .failed), keepsRecords (.setStatus "a" .failed)⟩] := by
  with_unfolding_all rfl

/-- A generator that fails for want of time at once ends the run as if its minute were over, although
the clock has not moved, two attempts are left and nothing was cut off. -/
theorem hasty_generator_ends_run :
    ∃ front trace back,
      ((run oneMinute hastyTask.lesson (some {})).carryOut hastyGenerator.world []).1 =
        front ++ ⟨.store (.appendTrace trace), .ok ()⟩ :: back ∧
      trace.TellsTimeout ∧ generations (front ++ back) = 1 ∧
      ¬ Reaches 60 120
        (fun asked prompt timeout => hastyGenerator.generator asked prompt timeout = .cut) front := by
  refine ⟨[.reads 0, .reads 0] ++ [⟨.generate (.initial "Tides" {}) 60, .error .timedOut⟩, .reads 0,
    ⟨.moment, .ok ⟨0, some 0⟩⟩], _, [_], hastyTask_log, ?_, ?_, ?_⟩
  · exact (tellsTimeout_traceOf rfl).mpr rfl
  · rfl
  · intro reaches
    cases reaches.waited

end Run

end Lectern
