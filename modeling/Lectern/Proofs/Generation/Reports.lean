/-
Module: Lectern.Proofs.Generation.Reports
Purpose: Which runs end with a report when nothing around them fails: those that may make an attempt,
  get no reply at which the compiler breaks off, and whose attempts do not all fail until the delay
  behind them is beyond all numbers.
Trusted boundary: none
Main exports: Settings.some_attempt_of_load, Pace.DelaysBelow, Request.Serves, Run.replies,
  Run.kickoff_reports_iff
-/
import Lectern.Proofs.Generation.Attempts
import Lectern.Proofs.Lesson.ReadBack
import Lectern.Proofs.Program.World
import Lectern.Proofs.Store.Chronicle
import Lectern.Settings.File

namespace Lectern

/-! ## Settings that are loaded -/

/-- The usual budgets allow an attempt. -/
theorem Budgets.some_attempt_usually : 1 ≤ ({} : Budgets).maxAttempts := by decide

theorem Budgets.some_attempt_of_read {data : Json} {budgets : Budgets}
    (valid : Budgets.read data = .valid budgets) : 1 ≤ budgets.maxAttempts := by
  obtain ⟨members, valid⟩ := Schema.record_eq_valid valid
  simp only [Schema.Checked.seq_eq_valid, Schema.Checked.map_eq_valid] at valid
  obtain ⟨_, _, ⟨_, _, ⟨_, _, ⟨_, _, ⟨attempts, given, rfl⟩, _, rfl⟩, _, rfl⟩, _, rfl⟩, _, rfl⟩ :=
    valid
  rcases Schema.optional_eq_valid given with rfl | ⟨data, given⟩
  · exact some_attempt_usually
  · exact (Schema.atLeast_eq_valid given).1

namespace Settings

theorem some_attempt_of_read {data : Json} {settings : Settings}
    (valid : Settings.read data = .valid settings) : 1 ≤ settings.budgets.maxAttempts := by
  obtain ⟨members, valid⟩ := Schema.record_eq_valid valid
  simp only [Schema.Checked.seq_eq_valid, Schema.Checked.map_eq_valid] at valid
  obtain ⟨_, _, ⟨_, _, ⟨budgets, given, rfl⟩, _, rfl⟩, _, rfl⟩ := valid
  rcases Schema.optional_eq_valid given with rfl | ⟨data, given⟩
  · exact Budgets.some_attempt_usually
  · exact Budgets.some_attempt_of_read given

theorem some_attempt_of_ofValue {value : Yaml.Value} {settings : Settings}
    (valid : ofValue value = .ok settings) : 1 ≤ settings.budgets.maxAttempts := by
  unfold ofValue at valid
  split at valid
  next =>
    cases valid
    exact Budgets.some_attempt_usually
  next =>
    split at valid
    next =>
      split at valid
      next read =>
        cases valid
        exact some_attempt_of_read read
      next => cases valid
    next => cases valid

/-- Settings that are loaded allow at least one attempt. -/
theorem some_attempt_of_load {text : Option String} {settings : Settings}
    (loaded : load text = .ok settings) : 1 ≤ settings.budgets.maxAttempts := by
  cases text with
  | none =>
      cases loaded
      exact Budgets.some_attempt_usually
  | some text =>
      rw [load] at loaded
      split at loaded
      next => exact some_attempt_of_ofValue loaded
      next => cases loaded
      next => cases loaded

section Overrides

variable {settings : Settings} (allows : 1 ≤ settings.budgets.maxAttempts) (overrides : Overrides)
include allows

/-- A command line has the last word on the attempts. -/
theorem override_allows_iff : 1 ≤ (settings.override overrides).budgets.maxAttempts ↔
    ∀ most, overrides.maxAttempts = some most → 1 ≤ most := by
  change 1 ≤ overrides.maxAttempts.getD settings.budgets.maxAttempts ↔ _
  cases overrides.maxAttempts with
  | none => exact iff_of_true allows nofun
  | some most => simp

/-- Only a command line allows no attempt. -/
theorem override_forbids_iff : (settings.override overrides).budgets.maxAttempts < 1 ↔
    ∃ most, overrides.maxAttempts = some most ∧ most < 1 := by
  rw [← Int.not_le, override_allows_iff allows]
  simp only [not_forall, exists_prop, Int.not_le]

end Overrides

end Settings

/-! ## Delays -/

/-- There is a delay behind fewer failed attempts than these, and behind no others. -/
structure Pace.DelaysBelow {τ : Type} (pace : Pace τ) (bound : Nat) : Prop where
  delays : ∀ failed < bound, ∃ delay, pace.backoff failed = .ok delay
  overflows : ∀ failed, bound ≤ failed → pace.backoff failed = .error backoffOverflow

/-- The delay is doubled with each attempt, and behind 1025 of them it is beyond all numbers, whatever
it is doubled from and capped at. -/
theorem Budgets.pace_delaysBelow (budgets : Budgets) : budgets.pace.DelaysBelow 1025 where
  delays failed few := by
    have near : ¬ ((failed : Int) - 1 ≥ 1024) := by omega
    simp only [pace, backoffDelay?, if_neg near]
    exact ⟨_, rfl⟩
  overflows failed many := by
    have far : (failed : Int) - 1 ≥ 1024 := by omega
    simp only [pace, backoffDelay?, if_pos far]

/-! ## Worlds that serve a lesson -/

/-- An answer as a lesson needs it: the generator gives a text, has none or is out of time, and all
else succeeds, but what is asked of the store about other lessons. -/
def Request.Serves {τ β : Type} (id : String) : Request τ β → Except Failure β → Prop
  | .generate _ _, answer => ∀ failure, answer = .error failure →
    failure = .timedOut ∨ ∃ message, failure = .noGeneration message
  | .store operation, answer => operation.id? = some id → ∃ value, answer = .ok value
  | _, answer => ∃ value, answer = .ok value

namespace Run

open Program Store

variable {τ : Type} {log : List (Inquiry τ)}

/-- All is answered as a lesson needs it. -/
private abbrev serving (τ : Type) (id : String) : Discipline τ (List (Inquiry τ)) :=
  .recording (fun _ _ _ => True) fun _ _ request answer => request.Serves id answer

/-- A call that is sure to be answered, and what follows it. -/
private theorem served_then {α β : Type} {id : String} {request : Request τ α}
    {next : α → Program τ β} {post : List (Inquiry τ) → Except Failure β → Prop}
    (sure : ∀ answer, request.Serves id answer → ∃ value, answer = .ok value)
    (goes : ∀ value, (next value).Keeps (serving τ id) post (log ++ [⟨request, .ok value⟩])) :
    (Program.call request >>= next).Keeps (serving τ id) post log := by
  rw [keeps_bind', keeps_call]
  refine ⟨trivial, ?_⟩
  intro answer served
  obtain ⟨value, rfl⟩ := sure answer served
  exact goes value

/-! ### Replies -/

/-- The source that is evaluated, if the generator has just given one. -/
def reply? : Inquiry τ → Option String
  | ⟨.generate _ _, .ok source⟩ => if isBlank source then none else some source
  | _ => none

/-- The sources that were evaluated, in order. -/
def replies (log : List (Inquiry τ)) : List String := log.filterMap reply?

@[simp]
theorem replies_append (front back : List (Inquiry τ)) :
    replies (front ++ back) = replies front ++ replies back := List.filterMap_append

/-- The compiler breaks off at none of some sources. -/
def AllThrough (sources : List String) : Prop :=
  ∀ source ∈ sources, ∀ overlong, ¬ Evaluation.BreaksOff source overlong

/-- The compiler breaks off at some source, and whichever it is, with this failure. -/
private def BreakWith (failure : Failure) (sources : List String) : Prop :=
  (∃ source ∈ sources, ∃ overlong, Evaluation.BreaksOff source overlong) ∧
    ∀ source ∈ sources, ∀ overlong, Evaluation.BreaksOff source overlong →
      failure = Evaluation.breakdown overlong

section

variable {sources : List String} {source : String}

private theorem AllThrough.snoc (all : AllThrough sources)
    (through : ∀ overlong, ¬ Evaluation.BreaksOff source overlong) :
    AllThrough (sources ++ [source]) := by
  intro other member
  rcases List.mem_append.mp member with earlier | last
  · exact all other earlier
  · cases List.mem_singleton.mp last
    exact through

/-- The compiler breaks off at the last source only. -/
private theorem AllThrough.snoc_broken {failure : Failure} (all : AllThrough sources)
    (breaks : ∃ overlong, Evaluation.BreaksOff source overlong)
    (fails : ∀ overlong, Evaluation.BreaksOff source overlong →
      failure = Evaluation.breakdown overlong) : BreakWith failure (sources ++ [source]) := by
  refine ⟨⟨source, List.mem_append_right _ (List.mem_singleton_self _), breaks⟩, ?_⟩
  intro other member overlong breaksOff
  rcases List.mem_append.mp member with earlier | last
  · exact absurd breaksOff (all other earlier overlong)
  · cases List.mem_singleton.mp last
    exact fails overlong breaksOff

end

/-- So many traces were kept, and the sources that were evaluated are like this. -/
private structure Records (count : Nat) (like : List String → Prop) (log : List (Inquiry τ)) :
    Prop where
  traced : tracings log = count
  sources : like (replies log)

variable {count : Nat} {like : List String → Prop} {inquiry : Inquiry τ}

/-- One more inquiry that is neither for a trace nor a reply. -/
private theorem Records.snoc (records : Records count like log) (other : inquiry.isTracing = false)
    (silent : reply? inquiry = none) : Records count like (log ++ [inquiry]) where
  traced := (tracings_snoc_other other).trans records.traced
  sources := by simpa [replies, silent] using records.sources

/-- One more trace. -/
private theorem Records.trace (records : Records count like log) (tracing : inquiry.isTracing = true)
    (silent : reply? inquiry = none) : Records (count + 1) like (log ++ [inquiry]) where
  traced := by
    rw [tracings_append, records.traced]
    simp [tracings, tracing]
  sources := by simpa [replies, silent] using records.sources

/-! ### Attempts -/

variable {task : Task τ}

/-- An attempt has been made, and no trace yet been kept of it; or the compiler has broken off. -/
private def Offered (task : Task τ) (count : Nat) (log : List (Inquiry τ)) :
    Except Failure (Attempt × Trace) → Prop
  | .ok (made, trace) => made.Safe ∧ trace.lessonId = task.lesson.id ∧ Records count AllThrough log
  | .error failure => Records count (BreakWith failure) log

private theorem offered_unanswered {prompt : Prompt} {number : Nat} {stage : Stage}
    {error : String} (whole : Records count AllThrough log) :
    (unanswered task prompt number stage error).Keeps (serving τ task.lesson.id)
      (Offered task count) log :=
  served_then (fun _ served => served) fun _ => ⟨Attempt.safe_failed, rfl, whole.snoc rfl rfl⟩

private theorem offered_timedOut [Seconds τ] {prompt : Prompt} {number : Nat}
    (whole : Records count AllThrough log) :
    (timedOut task prompt number).Keeps (serving τ task.lesson.id) (Offered task count) log :=
  served_then (fun _ served => served) fun _ => offered_unanswered (whole.snoc rfl rfl)

/-- A reply that is evaluated: an attempt comes of it, unless the compiler breaks off. -/
private theorem offered_evaluated {prompt asked : Prompt} {timeout : τ} {number : Nat}
    {source : String} (whole : Records count AllThrough log) (visible : ¬ isBlank source = true) :
    (evaluated task prompt number source).Keeps (serving τ task.lesson.id) (Offered task count)
      (log ++ [⟨.generate asked timeout, .ok source⟩]) := by
  have reply {like : List String → Prop} (sources : like (replies log ++ [source])) :
      Records count like (log ++ [⟨.generate asked timeout, .ok source⟩]) := by
    refine ⟨(tracings_snoc_other rfl).trans whole.traced, ?_⟩
    simpa [replies, reply?, visible] using sources
  refine served_then (fun _ served => served) ?_
  intro now
  rw [keeps_bind', keeps_ofExcept]
  cases judged : Evaluation.evaluate now number source with
  | ok made =>
      have through : ∀ overlong, ¬ Evaluation.BreaksOff source overlong := by
        intro overlong breaksOff
        cases judged.symm.trans breaksOff.evaluate_eq
      exact ⟨Attempt.safe_evaluate judged, rfl, (reply (whole.sources.snoc through)).snoc rfl rfl⟩
  | error failure =>
      obtain ⟨overlong, breaksOff, _⟩ := Evaluation.evaluate_eq_error.mp judged
      have fails : ∀ overlong, Evaluation.BreaksOff source overlong →
          failure = Evaluation.breakdown overlong := fun overlong breaksOff =>
        Except.error.inj (judged.symm.trans breaksOff.evaluate_eq)
      exact (reply (whole.sources.snoc_broken ⟨overlong, breaksOff⟩ fails)).snoc rfl rfl

/-- Whatever the generator answers, an attempt comes of it, unless the compiler breaks off. -/
private theorem offered_attempt [Seconds τ] {number : Nat} {previous : Option Attempt}
    (whole : Records count AllThrough log) :
    (attempt task number previous).Keeps (serving τ task.lesson.id) (Offered task count) log := by
  refine served_then (fun _ served => served) ?_
  intro now
  have read : Records count AllThrough (log ++ [Inquiry.reads now]) := whole.snoc rfl rfl
  dsimp only
  split
  · simp only [keeps_bind', keeps_attempt, keeps_call]
    refine ⟨trivial, ?_⟩
    intro reply served
    rw [then_ok]
    cases reply with
    | ok source =>
        dsimp only
        split
        next blank => exact offered_unanswered (read.snoc rfl (if_pos blank))
        next visible => exact offered_evaluated read visible
    | error failure =>
        have asked (prompt : Prompt) (timeout : τ) :
            Records count AllThrough (log ++ [.reads now] ++ [⟨.generate prompt timeout, .error failure⟩]) :=
          read.snoc rfl rfl
        rcases served failure rfl with rfl | ⟨message, rfl⟩
        · dsimp only
          split
          · exact offered_timedOut (asked _ _)
          · exact offered_unanswered (asked _ _)
        · exact offered_unanswered (asked _ _)
  · exact offered_timedOut read

/-! ### Turns -/

/-- What a turn behind some others comes to: a trace is kept, there is no delay to wait for, or the
compiler breaks off. -/
private inductive Counted (bound count : Nat) : List (Inquiry τ) → Except Failure Turn → Prop
  | finished {log : List (Inquiry τ)} {report : Report} (few : count < bound)
      (whole : Records (count + 1) AllThrough log) : Counted bound count log (.ok (.finished report))
  | again {log : List (Inquiry τ)} {made : Attempt} (few : count < bound)
      (whole : Records (count + 1) AllThrough log) : Counted bound count log (.ok (.again made))
  | endless {log : List (Inquiry τ)} (many : bound ≤ count) (whole : Records count AllThrough log) :
      Counted bound count log (.error backoffOverflow)
  | broken {log : List (Inquiry τ)} {failure : Failure} (few : count < bound)
      (broken : Records count (BreakWith failure) log) : Counted bound count log (.error failure)

/-- What an attempt offers is kept, as it is safe, and so are its trace and the status. -/
private theorem counted_conclude {bound number : Nat} {made : Attempt} {trace : Trace}
    (few : count < bound) (safe : made.Safe) (own : trace.lessonId = task.lesson.id)
    (whole : Records count AllThrough log) :
    (conclude task number made trace).Keeps (serving τ task.lesson.id) (Counted bound count) log := by
  have keepsTrace : ∀ answer, (Request.store (.appendTrace trace) : Request τ Unit).Serves
      task.lesson.id answer → ∃ value, answer = .ok value :=
    fun _ served => served (congrArg some own)
  unfold conclude
  split
  next source dated sourceEq datedEq _ =>
    obtain ⟨safeSource, safeModule⟩ := safe source dated sourceEq datedEq
    simp only [persist, safeSource, safeModule]
    refine served_then (fun _ served => served rfl) fun _ => ?_
    refine served_then keepsTrace fun _ => ?_
    refine served_then (fun _ served => served rfl) fun _ => .finished few ?_
    exact ((whole.snoc rfl rfl).trace rfl rfl).snoc rfl rfl
  next => exact served_then keepsTrace fun _ => .again few (whole.trace rfl rfl)

/-- What is waited for before an attempt behind some others. -/
private inductive Waited (bound count : Nat) : List (Inquiry τ) → Except Failure Unit → Prop
  | ready {log : List (Inquiry τ)} (few : count < bound) (whole : Records count AllThrough log) :
      Waited bound count log (.ok ())
  | endless {log : List (Inquiry τ)} (many : bound ≤ count) (whole : Records count AllThrough log) :
      Waited bound count log (.error backoffOverflow)

private theorem waited_pause [Seconds τ] {bound : Nat} (delays : task.pace.DelaysBelow bound)
    (near : 0 < bound) {previous : Option Attempt} (first : previous = none → count = 0)
    (whole : Records count AllThrough log) :
    (pause task (count + 1) previous).Keeps (serving τ task.lesson.id) (Waited bound count) log := by
  cases previous with
  | none =>
      obtain rfl := first rfl
      exact .ready near whole
  | some last =>
      change (backOff task count).Keeps _ _ _
      unfold backOff
      rw [keeps_bind', keeps_ofExcept]
      rcases Nat.lt_or_ge count bound with few | many
      · obtain ⟨delay, there⟩ := delays.delays count few
        rw [there, then_ok]
        refine served_then (fun _ served => served) ?_
        intro now
        have read : Records count AllThrough (log ++ [Inquiry.reads now]) := whole.snoc rfl rfl
        dsimp only
        split
        · rw [keeps_call]
          refine ⟨trivial, ?_⟩
          rintro answer ⟨value, rfl⟩
          exact .ready few (read.snoc rfl rfl)
        · exact .ready few read
      · rw [delays.overflows count many]
        exact .endless many whole

private theorem counted_turn [Seconds τ] {bound : Nat} (delays : task.pace.DelaysBelow bound)
    (near : 0 < bound) {previous : Option Attempt} (first : previous = none → count = 0)
    (whole : Records count AllThrough log) :
    (turn task (count + 1) previous).Keeps (serving τ task.lesson.id) (Counted bound count) log := by
  unfold turn
  rw [keeps_bind']
  refine (waited_pause delays near first whole).mono ?_
  intro log result waited
  cases waited with
  | endless many whole => exact .endless many whole
  | ready few whole =>
      rw [then_ok, keeps_bind']
      refine (offered_attempt whole).mono ?_
      intro log result offered
      match result, offered with
      | .ok (made, trace), ⟨safe, own, whole⟩ => exact counted_conclude few safe own whole
      | .error failure, broken => exact .broken few broken

/-! ### Runs -/

/-- How a run may end that is allowed so many attempts. -/
private inductive Halted (bound most : Nat) : List (Inquiry τ) → Except Failure Report → Prop
  | reported {log : List (Inquiry τ)} {count : Nat} (report : Report) (allows : 0 < most)
      (few : count ≤ bound) (whole : Records count AllThrough log) : Halted bound most log (.ok report)
  | unattempted {log : List (Inquiry τ)} (none : most = 0) (whole : Records 0 AllThrough log) :
      Halted bound most log (.error (.outside "AssertionError" ""))
  | endless {log : List (Inquiry τ)} (many : bound < most) (whole : Records (bound + 1) AllThrough log) :
      Halted bound most log (.error backoffOverflow)
  | broken {log : List (Inquiry τ)} {count : Nat} {failure : Failure} (allows : 0 < most)
      (few : count ≤ bound) (broken : Records count (BreakWith failure) log) :
      Halted bound most log (.error failure)

private theorem halted_giveUp {bound most number : Nat} {last : Attempt} (allows : 0 < most)
    (few : count ≤ bound) (whole : Records count AllThrough log) :
    (giveUp task number (some last)).Keeps (serving τ task.lesson.id) (Halted bound most) log :=
  served_then (fun _ served => served rfl) fun _ => .reported _ allows few (whole.snoc rfl rfl)

/-- A crash leaves one more trace. -/
private theorem keeps_crash {number : Nat} {failure : Failure}
    {post : List (Inquiry τ) → Except Failure Report → Prop}
    (ends : ∀ moment trace kept, post (log ++ [⟨.moment, .ok moment⟩] ++
      [⟨.store (.appendTrace trace), .ok ()⟩] ++
      [⟨.store (.setStatus task.lesson.id .failed), .ok kept⟩]) (.error failure)) :
    (crash task number failure).Keeps (serving τ task.lesson.id) post log :=
  served_then (fun _ served => served) fun _ =>
    served_then (fun _ served => served rfl) fun _ =>
      served_then (fun _ served => served rfl) fun _ => ends _ _ _

/-- Attempts are made until one succeeds, one comes too late, the compiler breaks off, none is left or
there is no delay behind them. The induction is on those that are left; behind each one a trace more is
kept. -/
private theorem halted_attempts [Seconds τ] {bound most left : Nat}
    (delays : task.pace.DelaysBelow bound) (near : 0 < bound) {previous : Option Attempt}
    (first : previous = none ↔ count = 0) (counts : count + left = most) (few : count ≤ bound)
    (whole : Records count AllThrough log) :
    (attempts task left (count + 1) previous).Keeps (serving τ task.lesson.id) (Halted bound most)
      log := by
  induction left generalizing count log previous with
  | zero =>
      unfold attempts
      cases previous with
      | none =>
          obtain rfl := first.mp rfl
          exact served_then (fun _ served => served rfl) fun _ =>
            .unattempted counts.symm (whole.snoc rfl rfl)
      | some last =>
          have several : count ≠ 0 := fun none => nomatch first.mpr none
          exact halted_giveUp (by omega) few whole
  | succ left inductionHypothesis =>
      unfold attempts
      rw [keeps_bind', keeps_attempt]
      refine (counted_turn delays near first.mp whole).mono ?_
      intro log result counted
      rw [then_ok]
      cases counted with
      | endless many whole =>
          obtain rfl : count = bound := by omega
          exact keeps_crash fun _ _ _ =>
            .endless (by omega) (((whole.snoc rfl rfl).trace rfl rfl).snoc rfl rfl)
      | broken some_left broken =>
          exact keeps_crash fun _ _ _ => .broken (by omega) some_left
            (((broken.snoc rfl rfl).trace rfl rfl).snoc rfl rfl)
      | finished few whole => exact .reported _ (by omega) few whole
      | again few whole =>
          dsimp only
          split
          · exact halted_giveUp (by omega) few whole
          · exact inductionHypothesis (iff_of_false nofun (Nat.succ_ne_zero count)) (by omega) few
              whole

private theorem halted_run [Seconds τ] (context : Context τ) (lesson : Lesson)
    (pedagogy : Option Pedagogy) {bound : Nat} (delays : context.pace.DelaysBelow bound)
    (near : 0 < bound) (whole : Records 0 AllThrough log) :
    (run context lesson pedagogy).Keeps (serving τ lesson.id) (Halted bound context.pace.attempts)
      log := by
  refine served_then (fun _ served => served) ?_
  intro started
  let task : Task τ := ⟨context, lesson,
    (pedagogy.or lesson.pedagogy).getD (Topic.inferPedagogy lesson.topic), started,
    Seconds.add started context.pace.limit⟩
  have delayed : task.pace.DelaysBelow bound := delays
  have read : Records 0 AllThrough (log ++ [.reads started]) := whole.snoc rfl rfl
  exact halted_attempts delayed near (iff_of_true rfl rfl) (Nat.zero_add _) (Nat.zero_le _) read

section

variable {bound most : Nat} {result : Except Failure Report}

private theorem Halted.reports_iff (halted : Halted bound most log result) :
    (∃ report, result = .ok report) ↔
      0 < most ∧ tracings log ≤ bound ∧ AllThrough (replies log) := by
  cases halted with
  | reported report allows few whole =>
      exact iff_of_true ⟨report, rfl⟩ ⟨allows, whole.traced.trans_le few, whole.sources⟩
  | unattempted none => exact iff_of_false nofun (by omega)
  | endless many whole =>
      obtain ⟨traced, _⟩ := whole
      exact iff_of_false nofun (by omega)
  | broken allows few broken =>
      obtain ⟨_, ⟨source, member, overlong, breaksOff⟩, _⟩ := broken
      exact iff_of_false nofun fun all => all.2.2 source member overlong breaksOff

private theorem Halted.unattempted_iff (halted : Halted bound most log result) :
    result = .error (.outside "AssertionError" "") ↔ most = 0 := by
  cases halted with
  | reported report allows => exact iff_of_false nofun (by omega)
  | unattempted none => exact iff_of_true rfl none
  | endless many => exact iff_of_false (by simp [backoffOverflow]) (by omega)
  | broken allows few broken =>
      obtain ⟨_, ⟨source, member, overlong, breaksOff⟩, fails⟩ := broken
      rw [fails source member overlong breaksOff]
      exact iff_of_false (by simp [Evaluation.breakdown]) (by omega)

private theorem Halted.endless_of_many (halted : Halted bound most log result)
    (many : bound < tracings log) : bound < most ∧ result = .error backoffOverflow := by
  cases halted with
  | endless more => exact ⟨more, rfl⟩
  | reported report allows few whole => exact absurd whole.traced (by omega)
  | unattempted none whole => exact absurd whole.traced (by omega)
  | broken allows few broken => exact absurd broken.traced (by omega)

/-- Where the compiler breaks off, that is how the run ends. -/
private theorem Halted.breakdown (halted : Halted bound most log result) {source : String}
    (member : source ∈ replies log) {overlong : Number.Overlong}
    (breaksOff : Evaluation.BreaksOff source overlong) :
    result = .error (Evaluation.breakdown overlong) := by
  cases halted with
  | broken allows few broken =>
      rw [broken.sources.2 source member overlong breaksOff]
  | reported report allows few whole =>
      exact absurd breaksOff (whole.sources source member overlong)
  | unattempted none whole => exact absurd breaksOff (whole.sources source member overlong)
  | endless many whole => exact absurd breaksOff (whole.sources source member overlong)

end

/-! ## Calls for a lesson in the queue -/

/-- A call for a lesson in the queue when nothing around it fails, with settings that were loaded and
whatever a command line says instead. It ends with a report just if it may make an attempt, leaves no
more than 1025 traces, of which there is one for each attempt, and has no reply at which the compiler
breaks off. It may make none only by the word of the command line, and then there is no last attempt to
report. It leaves more traces only if more than 1025 attempts are allowed, as the delay behind so many
failed ones is beyond all numbers. Where the compiler breaks off, the call fails of that. -/
theorem kickoff_reports_iff {text : Option String} {settings : Settings}
    (loaded : Settings.load text = .ok settings) (overrides : Settings.Overrides)
    (model : Option String) (pedagogy : Option Pedagogy) {lesson : Lesson} {world : World Float}
    (serves : ∀ log {β : Type} (request : Request Float β),
      request.Serves lesson.id (world log request))
    (found : world [] (.store (.find lesson.id)) = .ok (some lesson))
    (claimed : world [⟨.store (.find lesson.id), .ok (some lesson)⟩] (.store (.claim lesson.id)) =
      .ok true) :
    let budgets := (settings.override overrides).budgets
    let outcome := (kickoff ⟨budgets.pace, model⟩ lesson.id pedagogy).carryOut world []
    ((∃ report, outcome.2 = .ok report) ↔
      (∀ most, overrides.maxAttempts = some most → 1 ≤ most) ∧ tracings outcome.1 ≤ 1025 ∧
        AllThrough (replies outcome.1)) ∧
    (outcome.2 = .error (.outside "AssertionError" "") ↔
      ∃ most, overrides.maxAttempts = some most ∧ most < 1) ∧
    (1025 < tracings outcome.1 →
      1025 < budgets.maxAttempts ∧ outcome.2 = .error backoffOverflow) ∧
    ∀ source ∈ replies outcome.1, ∀ overlong, Evaluation.BreaksOff source overlong →
      outcome.2 = .error (Evaluation.breakdown overlong) := by
  intro budgets outcome
  have usual := Settings.some_attempt_of_load loaded
  have allows : 1 ≤ budgets.maxAttempts ↔ _ := Settings.override_allows_iff usual overrides
  have forbids : budgets.maxAttempts < 1 ↔ _ := Settings.override_forbids_iff usual overrides
  let start : List (Inquiry Float) :=
    [⟨.store (.find lesson.id), .ok (some lesson)⟩, ⟨.store (.claim lesson.id), .ok true⟩]
  have goes : outcome = (run ⟨budgets.pace, model⟩ lesson pedagogy).carryOut world start :=
    (carryOut_call_ok found).trans (carryOut_call_ok claimed)
  have keeps : (run ⟨budgets.pace, model⟩ lesson pedagogy).Keeps (serving Float lesson.id)
      (Halted 1025 budgets.maxAttempts.toNat) start :=
    halted_run ⟨budgets.pace, model⟩ lesson pedagogy budgets.pace_delaysBelow (Nat.succ_pos 1024)
      ⟨rfl, nofun⟩
  have halted : Halted 1025 budgets.maxAttempts.toNat outcome.1 outcome.2 := by
    rw [goes]
    exact keeps.carried world serves
  rw [← allows, ← forbids]
  refine ⟨halted.reports_iff.trans (and_congr_left' ?_), halted.unattempted_iff.trans ?_, ?_, ?_⟩
  · omega
  · omega
  · intro many
    obtain ⟨more, endless⟩ := halted.endless_of_many many
    exact ⟨by omega, endless⟩
  · exact fun source member overlong breaksOff => halted.breakdown member breaksOff

/-- What a store in memory holds behind all that was asked. -/
private def storeBehind (store : Memory) (log : List (Inquiry Float)) : Memory :=
  log.foldl (fun store inquiry => match inquiry with
    | ⟨.store operation, _⟩ => (store.perform (.after 0) operation).2
    | _ => store) store

/-- A store in memory and a generator that has nothing to give. -/
private def givingNothing (store : Memory) : World Float := fun log _ request =>
  match request with
  | .store operation => ((storeBehind store log).perform (.after 0) operation).1
  | .clock => .ok 0
  | .moment => .ok (.after 0)
  | .sleep _ => .ok ()
  | .generate _ _ => .error (.noGeneration "No scripted responses left")
  | .freshId => .ok "b"

/-- No lesson is lost. -/
private theorem find_storeBehind {store : Memory} {id : String}
    (held : (store.find id).isSome = true) (log : List (Inquiry Float)) :
    ((storeBehind store log).find id).isSome = true := by
  induction log generalizing store with
  | nil => exact held
  | cons inquiry log inductionHypothesis =>
      apply inductionHypothesis
      dsimp only
      split
      next operation _ =>
        have told := congrArg Chronicle.created
          (Memory.chronicle_perform store ⟨.after 0, operation⟩ id)
        exact told.trans (Chronicle.created_note held _)
      next => exact held

/-- What is asked about a lesson that is held succeeds. -/
private theorem perform_held {store : Memory} {id : String} (now : Timestamp)
    (held : (store.find id).isSome = true) {β : Type} {operation : Operation β}
    (own : operation.id? = some id) : ∃ value, (store.perform now operation).1 = .ok value := by
  obtain ⟨lesson, found⟩ := Option.isSome_iff_exists.mp held
  cases operation with
  | claim asked =>
      obtain rfl := Option.some.inj own
      dsimp only [Memory.perform]
      rw [found]
      dsimp only
      split
      · exact ⟨_, rfl⟩
      · exact ⟨_, rfl⟩
  | setStatus asked status =>
      obtain rfl := Option.some.inj own
      dsimp only [Memory.perform]
      rw [found]
      exact ⟨_, rfl⟩
  | addContent asked source code digest =>
      obtain rfl := Option.some.inj own
      dsimp only [Memory.perform]
      rw [found]
      exact ⟨_, rfl⟩
  | list => cases own
  | claimNext => cases own
  | _ => exact ⟨_, rfl⟩

private theorem serves_givingNothing {store : Memory} {id : String}
    (held : (store.find id).isSome = true) (log : List (Inquiry Float)) {β : Type}
    (request : Request Float β) : request.Serves id (givingNothing store log request) := by
  cases request with
  | store operation => exact perform_held _ (find_storeBehind held log)
  | generate prompt timeout =>
      rintro failure failed
      cases failed
      exact .inr ⟨_, rfl⟩
  | _ => exact ⟨_, rfl⟩

/-- No reply comes of a generator that has nothing to give. -/
private theorem replies_givingNothing {α : Type} (store : Memory) (program : Program Float α) :
    replies (program.carryOut (givingNothing store) []).1 = [] := by
  rw [replies, List.filterMap_eq_nil_iff]
  rintro ⟨request, answer⟩ member
  obtain ⟨front, back, split⟩ := List.append_of_mem member
  obtain rfl : answer = givingNothing store front request := carryOut_answered _ _ split
  cases request <;> rfl

private def patientLesson : Lesson where
  id := "a"
  title := "Fractions"
  topic := "Adding fractions"
  createdAt := .after 0
  updatedAt := .after 0

/-- A store that holds that lesson, in the queue. -/
private def onePatient : Memory := Memory.put {} patientLesson

/-- Two attempts that get nothing end with a report. -/
theorem kickoff_reports_iff_twice :
    let settings := Settings.override {} { maxAttempts := some 2 }
    ∃ report, ((kickoff ⟨settings.budgets.pace, none⟩ patientLesson.id none).carryOut
      (givingNothing onePatient) []).2 = .ok report := by
  intro settings
  have loaded : Settings.load none = .ok {} := rfl
  have held : (onePatient.find patientLesson.id).isSome = true := by decide
  obtain ⟨reports, -, many, -⟩ := kickoff_reports_iff loaded { maxAttempts := some 2 } none none
    (serves_givingNothing held) rfl rfl
  refine reports.mpr ⟨fun most same => ?_, not_lt.mp fun more => ?_, ?_⟩
  · cases same
    decide
  · exact absurd (many more).1 (by decide)
  · rw [replies_givingNothing]
    exact nofun

/-- No report comes of a call that may make no attempt. -/
theorem kickoff_unattempted_unreported :
    ¬ ∀ (text : Option String) (settings : Settings) (overrides : Settings.Overrides)
      (model : Option String) (pedagogy : Option Pedagogy) (lesson : Lesson) (world : World Float),
      Settings.load text = .ok settings →
      (∀ log {β : Type} (request : Request Float β),
        request.Serves lesson.id (world log request)) →
      world [] (.store (.find lesson.id)) = .ok (some lesson) →
      world [⟨.store (.find lesson.id), .ok (some lesson)⟩] (.store (.claim lesson.id)) =
        .ok true →
      ∃ report, ((kickoff ⟨(settings.override overrides).budgets.pace, model⟩ lesson.id
        pedagogy).carryOut world []).2 = .ok report := by
  intro reports
  obtain ⟨report, reported⟩ := reports none {} { maxAttempts := some 0 } none none patientLesson
    (givingNothing onePatient) rfl (serves_givingNothing (by decide)) rfl rfl
  have asserted : ((kickoff ⟨((({} : Settings).override { maxAttempts := some 0 }).budgets).pace,
      none⟩ patientLesson.id none).carryOut (givingNothing onePatient) []).2 =
        .error (.outside "AssertionError" "") := rfl
  rw [asserted] at reported
  cases reported

end Run

end Lectern
