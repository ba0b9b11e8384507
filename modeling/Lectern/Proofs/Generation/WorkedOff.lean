/-
Module: Lectern.Proofs.Generation.WorkedOff
Purpose: Working off the queue of a store of either kind. The oldest lessons are taken one after the
  other, each comes to the report of its run and to the status that is reported, and nothing else is
  altered, whatever the generator and the clock answer.
Trusted boundary: none
Main exports: Run.Reports, Run.reports_run, Run.NoneRaises, Run.WorksOff, Run.processQueue_worksOff
-/
import Lectern.Proofs.Generation.Attempts
import Lectern.Proofs.Program.World
import Lectern.Proofs.Store.Agreement
import Lectern.Proofs.Store.Queue

namespace Lectern.Run

open Program Store

variable {τ : Type}

/-! ## What a run leaves -/

/-- The report of a lesson that was taken from the queue goes with the status that the store tells
of the lesson: the one that its run has ended with. -/
structure Reports (store : AnyStore) (id : String) (report : Report) : Prop where
  lessonId : report.lessonId = id
  skipped : report.skipped = false
  status : report.status = if report.success then .generated else .failed
  kept : ∃ kept, store.Finds kept ∧ kept.id = id ∧ kept.status = report.status

/-- A lesson that was reported waits no more. -/
theorem Reports.status_ne {store : AnyStore} {id : String} {report : Report}
    (reports : Reports store id report) : report.status ≠ .queued := by
  rw [reports.status]
  split
  · exact nofun
  · exact nofun

/-- A report goes with a store as long as what is kept of the lesson is the same. -/
theorem Reports.same {before after : AnyStore} {id : String} {report : Report}
    (reports : Reports before id report) (same : before.Same id after) :
    Reports after id report where
  lessonId := reports.lessonId
  skipped := reports.skipped
  status := reports.status
  kept := by
    obtain ⟨kept, finds, rfl, told⟩ := reports.kept
    exact ⟨kept, same.finds_iff.mpr finds, rfl, told⟩

variable {stores : List (Inquiry τ) → AnyStore} {id : String} {log : List (Inquiry τ)}

/-- A run may write what is of its lesson. It is answered by a store that is in order and admits the
lesson, and by anything else as it may be. -/
private abbrev tending (stores : List (Inquiry τ) → AnyStore) (id : String) :
    Discipline τ (List (Inquiry τ)) :=
  .recording (fun _ _ request => WritesOnly id request) fun log _ request answer =>
    (stores log).InOrder ∧ (stores log).Admits id ∧
      request.Answered AnyStore.timely (stores log) answer (stores (log ++ [⟨request, answer⟩]))

/-- A report that a run comes to goes with the store behind it. -/
private def Told (stores : List (Inquiry τ) → AnyStore) (id : String) (log : List (Inquiry τ)) :
    Except Failure Report → Prop
  | .ok report => Reports (stores log) id report
  | .error _ => True

/-- A report that a turn comes to does so as well. -/
private def ToldTurn (stores : List (Inquiry τ) → AnyStore) (id : String) (log : List (Inquiry τ)) :
    Except Failure Turn → Prop
  | .ok (.finished report) => Reports (stores log) id report
  | _ => True

/-- A request for a lesson, and what follows it where it does not fail. -/
private theorem tended_then {α β : Type} {request : Request τ α} {next : α → Program τ β}
    {post : List (Inquiry τ) → Except Failure β → Prop} (allowed : WritesOnly id request)
    (fails : ∀ log failure, post log (.error failure))
    (goes : ∀ value, (tending stores id).expects log request (.ok value) →
      (next value).Keeps (tending stores id) post (log ++ [⟨request, .ok value⟩])) :
    (Program.call request >>= next).Keeps (tending stores id) post log := by
  rw [keeps_bind', keeps_call]
  refine ⟨allowed, ?_⟩
  intro answer expected
  cases answer with
  | ok value => exact goes value expected
  | error failure => exact fails _ failure

/-- What leaves the store alone may be done. -/
private theorem tended_outside {α : Type} {program : Program τ α} {post : Except Failure α → Prop}
    (keeps : program.Keeps (outside τ) (fun _ result => post result) ()) :
    program.Keeps (tending stores id) (fun _ result => post result) log := by
  have within : program.Keeps (tending stores id) (fun _ result => True ∧ post result) log := by
    apply Keeps.of_outside_within _ (fun _ _ _ _ => trivial) trivial keeps
    intro situation β request _ leaves
    cases request with
    | store operation => exact leaves.elim
    | _ => trivial
  exact within.mono fun _ _ both => both.2

/-- A status that was written is what a report tells. -/
private theorem reports_of_status {report : Report} {status : Status} {kept : Lesson}
    (own : report.lessonId = id) (taken : report.skipped = false) (told : report.status = status)
    (ended : status = if report.success then .generated else .failed)
    (answered : (tending stores id).expects log (.store (.setStatus id status)) (.ok kept)) :
    Reports (stores (log ++ [⟨.store (.setStatus id status), .ok kept⟩])) id report where
  lessonId := own
  skipped := taken
  status := told.trans ended
  kept := by
    obtain ⟨ordered, admitted, permitted⟩ := answered
    rw [told]
    exact ⟨kept, AnyStore.finds_setStatus ordered admitted permitted⟩

private theorem told_conclude {task : Task τ} {number : Nat} {made : Attempt} {trace : Trace}
    (owned : trace.lessonId = task.lesson.id) :
    (conclude task number made trace).Keeps (tending stores task.lesson.id)
      (ToldTurn stores task.lesson.id) log := by
  unfold conclude
  split
  · unfold persist
    split
    · refine tended_then rfl (fun _ _ => trivial) ?_
      intro content _
      refine tended_then owned (fun _ _ => trivial) ?_
      intro _ _
      refine tended_then rfl (fun _ _ => trivial) ?_
      intro kept answered
      exact reports_of_status rfl rfl rfl rfl answered
    · trivial
    · trivial
  · refine tended_then owned (fun _ _ => trivial) ?_
    intro _ _
    trivial

private theorem told_turn [Seconds τ] {task : Task τ} {number : Nat} {previous : Option Attempt} :
    (turn task number previous).Keeps (tending stores task.lesson.id)
      (ToldTurn stores task.lesson.id) log := by
  unfold turn
  rw [keeps_bind']
  apply (tended_outside outside_pause).mono
  intro paused result _
  cases result with
  | error failure => trivial
  | ok _ =>
      rw [then_ok, keeps_bind']
      apply (tended_outside outside_attempt).mono
      intro attempted result offers
      cases result with
      | error failure => trivial
      | ok made => exact told_conclude offers.lessonId

private theorem told_crash {task : Task τ} {number : Nat} {failure : Failure} :
    (crash task number failure).Keeps (tending stores task.lesson.id) (Told stores task.lesson.id)
      log := by
  refine tended_then trivial (fun _ _ => trivial) ?_
  intro now _
  refine tended_then rfl (fun _ _ => trivial) ?_
  intro _ _
  refine tended_then rfl (fun _ _ => trivial) ?_
  intro _ _
  trivial

private theorem told_giveUp {task : Task τ} {number : Nat} {last : Option Attempt} :
    (giveUp task number last).Keeps (tending stores task.lesson.id) (Told stores task.lesson.id)
      log := by
  refine tended_then rfl (fun _ _ => trivial) ?_
  intro kept answered
  cases last with
  | none => trivial
  | some last => exact reports_of_status rfl rfl rfl rfl answered

/-- However many attempts are made, a report goes with the last status that was written. The
induction is on the attempts that are left. -/
private theorem told_attempts [Seconds τ] {task : Task τ} {left number : Nat}
    {previous : Option Attempt} :
    (attempts task left number previous).Keeps (tending stores task.lesson.id)
      (Told stores task.lesson.id) log := by
  induction left generalizing number previous log with
  | zero => exact told_giveUp
  | succ left inductionHypothesis =>
      unfold attempts
      rw [keeps_bind', keeps_attempt]
      apply told_turn.mono
      intro turned result told
      rw [then_ok]
      split
      next failure => exact told_crash
      next report => exact told
      next made =>
        split
        · exact told_giveUp
        · exact inductionHypothesis

private theorem told_run [Seconds τ] {context : Context τ} {lesson : Lesson}
    {pedagogy : Option Pedagogy} :
    (run context lesson pedagogy).Keeps (tending stores lesson.id) (Told stores lesson.id) log := by
  refine tended_then trivial (fun _ _ => trivial) ?_
  intro started _
  exact @told_attempts _ _ _ _ { context with lesson, started, pedagogy := _, deadline := _ } _ _ _

/-- An answer to what is asked for one lesson alters nothing else. -/
private theorem altersOnly_answered {before after : AnyStore} {β : Type} {request : Request τ β}
    {answer : Except Failure β} (ordered : before.InOrder) (admitted : before.Admits id)
    (allowed : WritesOnly id request)
    (answered : request.Answered AnyStore.timely before answer after) :
    before.AltersOnly id after := by
  cases request with
  | store operation => exact AnyStore.undisturbed ordered admitted allowed answered
  | _ =>
      rw [show after = before from answered]
      exact .refl ordered id

section Worlds

variable [Seconds τ] (context : Context τ) {world : World τ}
  (tends : world.Tends AnyStore.timely stores)
include tends

/-- A run alters nothing but its lesson, and a report that it comes to goes with the store then. -/
theorem reports_run (lesson : Lesson) (pedagogy : Option Pedagogy)
    (ordered : (stores log).InOrder) (admitted : (stores log).Admits lesson.id) :
    let outcome := (run context lesson pedagogy).carryOut world log
    (stores log).AltersOnly lesson.id (stores outcome.1) ∧
      ∀ report, outcome.2 = .ok report → Reports (stores outcome.1) lesson.id report := by
  intro outcome
  let altered (later : List (Inquiry τ)) : Prop :=
    (stores log).AltersOnly lesson.id (stores later)
  obtain ⟨alters, told⟩ : altered outcome.1 ∧ Told stores lesson.id outcome.1 outcome.2 := by
    refine Keeps.carried_upheld world altered ?_ (.refl ordered lesson.id) told_run
    intro later β request alters allowed
    have admits : (stores later).Admits lesson.id := by rwa [alters.admits]
    have answered := tends later request
    refine ⟨⟨alters.inOrder, admits, answered⟩, ?_⟩
    exact alters.trans (altersOnly_answered alters.inOrder admits allowed answered)
  refine ⟨alters, fun report reported => ?_⟩
  rwa [reported] at told

/-! ## Turns -/

/-- Wherever a lesson was claimed from the queue, the run that follows comes to a report. -/
def NoneRaises (context : Context τ) (world : World τ) (log : List (Inquiry τ)) : Prop :=
  ∀ {front back : List (Inquiry τ)} {lesson : Lesson}, log = front ++ .claims lesson :: back →
    ∃ report, ((run context lesson none).carryOut world (front ++ [.claims lesson])).2 = .ok report

/-- What has become of a store whose queue was worked off: each lesson that was chosen is reported,
in their order, and what is kept of all others is the same. -/
structure WorksOff (first last : AnyStore) (chosen : List Lesson) (reports : List Report) :
    Prop where
  reported : List.Forall₂ (fun lesson report => Reports last lesson.id report) chosen reports
  others : ∀ id, first.Admits id → (∀ lesson ∈ chosen, lesson.id ≠ id) → first.Same id last

/-- The turn of the oldest lesson: what it leaves of the store and the queue behind its report. -/
private structure TakesTurn (stores : List (Inquiry τ) → AnyStore) (oldest : Lesson)
    (rest : List Lesson) (log behind : List (Inquiry τ)) (report : Report) : Prop where
  alters : (stores log).AltersOnly oldest.id (stores behind)
  reports : Reports (stores behind) oldest.id report
  waiting : (stores behind).Queue rest

/-- Where nothing waits, the queue has been worked off. -/
private theorem processQueue_nil (ordered : (stores log).InOrder)
    (waiting : (stores log).Queue []) : ∃ behind, stores behind = stores log ∧ ∀ most,
      (processQueue context (most + 1)).carryOut world log = (behind, .ok []) := by
  obtain ⟨nobody, same⟩ := waiting.claimNext_nil ordered (tends log (.store .claimNext))
  rw [nobody] at same
  refine ⟨_, same, fun most => ?_⟩
  have next : (processNext context).carryOut world log =
      (log ++ [⟨.store .claimNext, .ok none⟩], .ok none) := carryOut_call_ok nobody
  exact carryOut_bind next

/-- Where a lesson waits, the oldest one takes its turn. -/
private theorem processNext_cons {oldest : Lesson} {rest : List Lesson} {most : Nat}
    (ordered : (stores log).InOrder) (waiting : (stores log).Queue (oldest :: rest))
    (unraised : NoneRaises context world ((processQueue context (most + 1)).carryOut world log).1) :
    ∃ behind report, TakesTurn stores oldest rest log behind report ∧
      (processNext context).carryOut world log = (behind, .ok (some report)) := by
  obtain ⟨claimed, answered, own, claims⟩ :=
    waiting.claimNext_cons ordered (tends log (.store .claimNext))
  -- The run of the lesson that was claimed is one of those that come to a report.
  have asks : ∃ back, ((processQueue context (most + 1)).carryOut world log).1 =
      log ++ ⟨.store .claimNext, world log (.store .claimNext)⟩ :: back :=
    carryOut_asks world log _ _
  rw [answered] at claims asks
  obtain ⟨back, asked⟩ := asks
  obtain ⟨report, reported⟩ := unraised asked
  let outcome := (run context claimed none).carryOut world (log ++ [.claims claimed])
  have admitted := ((waiting.waits oldest).mp List.mem_cons_self).1.admits ordered
  rw [← own, ← claims.admits] at admitted
  obtain ⟨alters, tells⟩ := reports_run context tends claimed none claims.inOrder admitted
  rw [own] at alters tells
  have altered := claims.trans alters
  have reports := tells report reported
  obtain ⟨kept, finds, same, status⟩ := reports.kept
  have turned : TakesTurn stores oldest rest log outcome.1 report := {
    alters := altered
    reports
    waiting := waiting.tail ordered altered finds same (status ▸ reports.status_ne) }
  have next : (processNext context).carryOut world log =
      (outcome.1, outcome.2.map some) :=
    (carryOut_call_ok answered).trans (carryOut_map world _ (run context claimed none) some)
  rw [show outcome.2 = .ok report from reported] at next
  exact ⟨outcome.1, report, turned, next⟩

/-- Turns are taken until there are enough, or nothing waits. The induction is on the turns that are
left; as many are taken as lessons wait, if there are more turns than that. -/
private theorem worksOff_turns {most : Nat} {queue : List Lesson} (ordered : (stores log).InOrder)
    (waiting : (stores log).Queue queue)
    (unraised : NoneRaises context world ((processQueue context most).carryOut world log).1) :
    ∃ last reports, (∀ longer, longer = most ∨ most ≤ longer ∧ queue.length < most →
        (processQueue context longer).carryOut world log = (last, .ok reports)) ∧
      WorksOff (stores log) (stores last) (queue.take most) reports ∧
      (stores last).Queue (queue.drop most) := by
  induction most generalizing log queue with
  | zero =>
      refine ⟨log, [], ?_, ⟨.nil, fun id _ _ => .refl id _⟩, waiting⟩
      rintro longer (rfl | ⟨_, fewer⟩)
      · rfl
      · exact absurd fewer (Nat.not_lt_zero _)
  | succ most inductionHypothesis =>
      cases queue with
      | nil =>
          obtain ⟨behind, same, done⟩ := processQueue_nil context tends ordered waiting
          refine ⟨behind, [], ?_, ⟨.nil, fun id _ _ => same ▸ .refl id _⟩, same ▸ waiting⟩
          intro longer enough
          obtain ⟨left, rfl⟩ : ∃ left, longer = left + 1 := ⟨longer - 1, by omega⟩
          exact done left
      | cons oldest rest =>
          obtain ⟨behind, report, turned, next⟩ :=
            processNext_cons context tends ordered waiting unraised
          have goes (left : Nat) : (processQueue context (left + 1)).carryOut world log =
              (((processQueue context left).carryOut world behind).1,
                ((processQueue context left).carryOut world behind).2.map (report :: ·)) :=
            (carryOut_bind next).trans (carryOut_map world behind _ _)
          rw [goes] at unraised
          obtain ⟨last, reports, done, works, left⟩ :=
            inductionHypothesis turned.alters.inOrder turned.waiting unraised
          refine ⟨last, report :: reports, ?_, ⟨?_, ?_⟩, left⟩
          · intro longer enough
            obtain ⟨left, rfl⟩ : ∃ left, longer = left + 1 := ⟨longer - 1, by omega⟩
            rw [goes, done left (by rw [List.length_cons] at enough; omega)]
            rfl
          · have admitted : (stores behind).Admits oldest.id := by
              obtain ⟨kept, finds, own, _⟩ := turned.reports.kept
              exact own ▸ finds.admits turned.alters.inOrder
            have stays : (stores behind).Same oldest.id (stores last) := by
              apply works.others oldest.id admitted
              intro lesson chosen
              exact waiting.id_ne (List.mem_of_mem_take chosen)
            exact .cons (turned.reports.same stays) works.reported
          · intro id admitted apart
            obtain ⟨first, others⟩ := List.forall_mem_cons.mp apart
            apply (turned.alters.others id admitted (Ne.symm first)).trans
            apply works.others id _ others
            rwa [turned.alters.admits]

/-- A queue that is worked off, over a store of either kind that nobody else writes to: its oldest
lessons are reported in the order in which they were made, as many as are asked for or as wait. None
of them is skipped, each has the status that is reported, all others wait as they did, and what is
kept of them is the same. It comes to an end by itself, whatever the generator and the clock answer,
as long as no run raises; a run that may make no attempt does. -/
theorem processQueue_worksOff (ordered : (stores []).InOrder) {queue : List Lesson}
    (waiting : (stores []).Queue queue) (most : Option Nat) {patience : Nat}
    (patient : queue.length < patience)
    (unraised : NoneRaises context world
      ((Call.program context patience (.processQueue most)).carryOut world []).1) :
    let turns := most.getD queue.length
    ∃ last reports, (∀ longer, patience ≤ longer →
        (Call.program context longer (.processQueue most)).carryOut world [] =
          (last, .ok reports)) ∧
      reports.length = min turns queue.length ∧
      WorksOff (stores []) (stores last) (queue.take turns) reports ∧
      (stores last).Queue (queue.drop turns) := by
  intro turns
  obtain ⟨last, reports, done, works, left⟩ :=
    worksOff_turns context tends ordered waiting unraised
  have chosen : queue.take (most.getD patience) = queue.take turns ∧
      queue.drop (most.getD patience) = queue.drop turns := by
    cases most with
    | some most => exact ⟨rfl, rfl⟩
    | none =>
        have enough : queue.length ≤ patience := Nat.le_of_lt patient
        constructor
        · exact (List.take_of_length_le enough).trans (List.take_length).symm
        · exact (List.drop_of_length_le enough).trans (List.drop_length).symm
  rw [chosen.1] at works
  rw [chosen.2] at left
  refine ⟨last, reports, ?_, ?_, works, left⟩
  · intro longer enough
    apply done
    cases most with
    | some most => exact .inl rfl
    | none => exact .inr ⟨enough, patient⟩
  · rw [← works.reported.length_eq, List.length_take]

end Worlds

/-! ## Two lessons without a source -/

private def olderLesson : Lesson := waitingSince (seconds 1) "00000000000000000000000000000001"

private def youngerLesson : Lesson := waitingSince (seconds 2) "00000000000000000000000000000002"

/-- Two lessons wait, and the younger one was kept first. -/
private def twoWaiting : AnyStore := .memory { lessons := [youngerLesson, olderLesson] }

/-- What the store of the two holds behind all that was asked of it. -/
private def twoBehind (log : List (Inquiry Int)) : AnyStore :=
  log.foldl (fun store inquiry => match inquiry with
    | ⟨.store operation, _⟩ => (store.perform (seconds 3) operation).2
    | _ => store) twoWaiting

/-- That store is answered for, and the generator has nothing to give. -/
private def nothingGiven : World Int := fun log _ request =>
  match request with
  | .store operation => ((twoBehind log).perform (seconds 3) operation).1
  | .clock => .ok 0
  | .moment => .ok (seconds 3)
  | .sleep _ => .ok ()
  | .generate _ _ => .error (.noGeneration "No scripted responses left")
  | .freshId => .ok "b"

private theorem nothingGiven_tends : nothingGiven.Tends AnyStore.timely twoBehind := by
  intro log β request
  cases request with
  | store operation =>
      have moment : (seconds 3).ReadsBack := by decide
      have behind : twoBehind (log ++ [⟨.store operation, nothingGiven log (.store operation)⟩]) =
          ((twoBehind log).perform (seconds 3) operation).2 := List.foldl_append
      rw [behind]
      exact AnyStore.timely_perform moment (twoBehind log) operation
  | _ => exact List.foldl_append

private theorem twoWaiting_inOrder : twoWaiting.InOrder := by
  change ([youngerLesson, olderLesson].map (·.id)).Nodup
  decide

private theorem twoWaiting_queue : twoWaiting.Queue [olderLesson, youngerLesson] where
  waits lesson := by
    have held : lesson ∈ [youngerLesson, olderLesson] ↔ twoWaiting.Finds lesson :=
      AnyStore.mem_lessons twoWaiting_inOrder
    have swapped := (List.Perm.swap olderLesson youngerLesson []).mem_iff (a := lesson)
    rw [← held, ← swapped]
    constructor
    · intro member
      refine ⟨member, ?_⟩
      rcases List.mem_pair.mp member with rfl | rfl
      · rfl
      · rfl
    · intro both
      exact both.1
  oldestFirst := by decide

/-- A single attempt in whole seconds. -/
private def singleAttempt : Context Int :=
  { Context.threeAttempts with pace := { Context.threeAttempts.pace with attempts := 1 } }

/-- All that is asked while the two are worked off. -/
private abbrev twoAsked : List (Inquiry Int) :=
  ((Call.program singleAttempt 3 (.processQueue none)).carryOut nothingGiven []).1

/-- Was a lesson claimed from the queue? -/
private def isClaim : Inquiry Int → Bool
  | ⟨.store .claimNext, .ok (some _)⟩ => true
  | _ => false

private theorem exists_of_isOk {α : Type} {result : Except Failure α} (fine : result.isOk = true) :
    ∃ value, result = .ok value := by
  cases result with
  | ok value => exact ⟨value, rfl⟩
  | error failure => cases fine

/-- A run asks seven times, so there is a claim at the beginning and one behind the first run. -/
private theorem twoAsked_noneRaises : NoneRaises singleAttempt nothingGiven twoAsked := by
  have places : ∀ place < 15, (twoAsked.map isClaim)[place]? = some true →
      place = 0 ∨ place = 7 := by
    decide +kernel
  have whole : twoAsked.length = 15 := by decide +kernel
  intro front back lesson split
  have claimed : (twoAsked.map isClaim)[front.length]? = some true := by simp [split, isClaim]
  have there : twoAsked[front.length]? = some (.claims lesson) := by simp [split]
  have taken : front = twoAsked.take front.length := by simp [split]
  have within : front.length < 15 := by simp [← whole, split]
  rcases places _ within claimed with first | second
  · rw [first] at taken there
    rw [taken]
    cases there
    apply exists_of_isOk
    decide +kernel
  · rw [second] at taken there
    rw [taken]
    cases there
    apply exists_of_isOk
    decide +kernel

/-- Two lessons that get no source are reported in the order in which they were made. -/
theorem processQueue_worksOff_two :
    ∃ last reports, (∀ longer, 3 ≤ longer →
        (Call.program singleAttempt longer (.processQueue none)).carryOut nothingGiven [] =
          (last, .ok reports)) ∧
      reports.length = 2 ∧
      WorksOff twoWaiting (twoBehind last) [olderLesson, youngerLesson] reports ∧
      (twoBehind last).Queue [] :=
  processQueue_worksOff singleAttempt nothingGiven_tends twoWaiting_inOrder twoWaiting_queue none
    (by decide) twoAsked_noneRaises

end Lectern.Run
