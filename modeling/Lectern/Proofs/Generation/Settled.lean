/-
Module: Lectern.Proofs.Generation.Settled
Purpose: What a run leaves in the store and what it reports of it go together, however the run ends
  and whatever others do to other lessons meanwhile. Over both stores.
Trusted boundary: none
Main exports: Run.Reported, Run.Settled, leavesAlone_of_elsewhere, settled_of_accounts,
  run_agrees_with_store
-/
import Lectern.Proofs.Generation.Endings
import Lectern.Proofs.Generation.OnceGenerated

namespace Lectern

open Store

variable {σ κ τ : Type}

namespace Run

/-- The report of a run goes with its last attempt and with what the store tells then. -/
structure Reported (book : Book σ κ) (context : Context τ) (lesson : Lesson) (first last : σ)
    (number : Nat) (final : Trace) (status : Status) (report : Report) : Prop where
  attempts : report.attemptCount = number
  sameStatus : report.status = status
  success_iff : report.success = true ↔ status = .generated
  added_iff : status = .generated ↔
    book.versions last (book.place lesson.id) = book.versions first (book.place lesson.id) + 1
  clean_iff : status = .generated ↔ final.error = none
  /-- A run that succeeded reports the latest version there is, and one that failed none. -/
  version : report.version =
    if report.success then (book.latest? last (book.place lesson.id)).map Int.ofNat else none
  failure : report.success = false → ∃ made prompt response now,
    Attempt.Arises number response made ∧
      final = traceOf lesson.id prompt context.model response made now ∧
      report = failureReport lesson.id number made

/-- What a run has written, what the store tells of its lesson then, and what the run comes to. -/
structure Settled (book : Book σ κ) (context : Context τ) (lesson : Lesson) (first last : σ)
    (writes : List Write) (result : Except Failure Report) (earlier : List Trace) (final : Trace)
    (content : Option Content) (status : Status) : Prop where
  /-- The status is written once, behind all else. -/
  written : writes = allWrites lesson.id earlier content final status
  numbered : (earlier ++ [final]).map (·.attemptNumber) = List.range' 1 (earlier.length + 1)
  within : earlier.length + 1 ≤ context.pace.attempts
  fail : ∀ trace ∈ earlier, trace.error.isSome = true
  owned : ∀ trace ∈ earlier ++ [final], trace.lessonId = lesson.id
  traces : book.adds (book.place lesson.id) (earlier ++ [final]) first last
  kept : book.status? last (book.place lesson.id) = some status
  versions : book.versions last (book.place lesson.id) =
    book.versions first (book.place lesson.id) + content.toList.length
  returned : ∀ report, result = .ok report →
    Reported book context lesson first last (earlier.length + 1) final status report
  raised : ∀ failure, result = .error failure →
    status = .failed ∧ content = none ∧
      final.error = some (failure.kind ++ ": " ++ failure.message)

/-- Traces write nothing but traces. -/
private theorem writes_of_traces (traces : List Trace) :
    (traces.map Write.trace).filterMap Write.trace? = traces ∧
      (traces.map Write.trace).filterMap Write.content? = [] ∧
      (traces.map Write.trace).filterMap Write.status? = [] := by
  induction traces with
  | nil => exact ⟨rfl, rfl, rfl⟩
  | cons first rest inductionHypothesis =>
      obtain ⟨traces, contents, statuses⟩ := inductionHypothesis
      simp [List.filterMap_cons, Write.trace?, Write.content?, Write.status?, traces, contents,
        statuses]

/-- What all writes of a run come to. -/
private theorem filterMap_allWrites (id : String) (earlier : List Trace) (content : Option Content)
    (final : Trace) (status : Status) :
    (allWrites id earlier content final status).filterMap Write.trace? = earlier ++ [final] ∧
      (allWrites id earlier content final status).filterMap Write.content? = content.toList ∧
      (allWrites id earlier content final status).filterMap Write.status? = [status] := by
  obtain ⟨traces, contents, statuses⟩ := writes_of_traces earlier
  unfold allWrites
  cases content with
  | none =>
      simp [List.filterMap_cons, Write.trace?, Write.content?, Write.status?, traces, contents,
        statuses]
  | some content =>
      simp [List.filterMap_cons, Write.trace?, Write.content?, Write.status?, traces, contents,
        statuses]

variable {book : Book σ κ} {context : Context τ} {lesson : Lesson} {first last : σ}
  {writes : List Write} {result : Except Failure Report}

/-- What a run has written and what a store that goes with it tells settles the lesson, once the
result is known to go with them. -/
private theorem settled_of_tracks {id : String} (own : id = lesson.id) {earlier : List Trace}
    {final : Trace} {content : Option Content} {status : Status} (setbacks : Setbacks id earlier)
    (within : earlier.length + 1 ≤ context.pace.attempts)
    (number : final.attemptNumber = earlier.length + 1) (owned : final.lessonId = id)
    (tracks : book.Tracks (book.place lesson.id) first last
      (allWrites id earlier content final status))
    (returned : book.versions last (book.place lesson.id) =
        book.versions first (book.place lesson.id) + content.toList.length →
      book.latest? last (book.place lesson.id) =
        (content.toList.getLast?.map (·.version)).or (book.latest? first (book.place lesson.id)) →
      ∀ report, result = .ok report →
        Reported book context lesson first last (earlier.length + 1) final status report)
    (raised : ∀ failure, result = .error failure → status = .failed ∧ content = none ∧
      final.error = some (failure.kind ++ ": " ++ failure.message)) :
    Settled book context lesson first last (allWrites id earlier content final status) result
      earlier final content status := by
  subst own
  obtain ⟨traceWrites, contentWrites, statusWrites⟩ :=
    filterMap_allWrites lesson.id earlier content final status
  have kept := tracks.status
  have versions := tracks.versions
  have latest := tracks.latest
  have traces := tracks.traces
  rw [statusWrites] at kept
  rw [contentWrites] at versions latest
  rw [traceWrites] at traces
  exact {
    written := rfl
    numbered := setbacks.numbered number
    within
    fail := setbacks.fail
    owned := setbacks.allOwned owned
    traces
    kept
    versions
    returned := returned versions latest
    raised }

/-- However a run has ended, a store that goes with what it wrote goes with its result. -/
theorem Ending.settled {task : Task τ} (known : task.toContext = context)
    (own : task.lesson = lesson) {earlier : List Trace} (setbacks : Setbacks task.lesson.id earlier)
    (within : earlier.length + 1 ≤ context.pace.attempts)
    (ending : Ending task earlier writes result)
    (tracks : book.Tracks (book.place lesson.id) first last writes) :
    ∃ final content status,
      Settled book context lesson first last writes result earlier final content status := by
  have id : task.lesson.id = lesson.id := congrArg Lesson.id own
  cases ending with
  | @succeeded made trace content attempted outcome =>
      have clean : trace.error = none := by
        have tells := attempted.error_isSome_iff.not.mpr (not_not.mpr outcome)
        simpa using tells
      -- What was kept is the latest version, and the report names it.
      refine ⟨trace, some content, .generated, settled_of_tracks id setbacks within
        attempted.attemptNumber attempted.lessonId tracks ?_ nofun⟩
      rintro versions latest report same
      cases same
      exact {
        attempts := rfl
        sameStatus := rfl
        success_iff := ⟨fun _ => rfl, fun _ => rfl⟩
        added_iff := ⟨fun _ => versions, fun _ => rfl⟩
        clean_iff := ⟨fun _ => clean, fun _ => rfl⟩
        version := (congrArg (Option.map Int.ofNat) latest).symm
        failure := nofun }
  | @gaveUp made trace attempted outcome =>
      -- The lesson may hold content from before, but the report names none.
      have tells := attempted.error_isSome_iff.mpr outcome
      refine ⟨trace, none, .failed, settled_of_tracks id setbacks within
        attempted.attemptNumber attempted.lessonId tracks ?_ nofun⟩
      rintro versions _ report same
      cases same
      refine {
        attempts := rfl
        sameStatus := rfl
        success_iff := ⟨nofun, nofun⟩
        added_iff := ⟨nofun, fun more => ?_⟩
        clean_iff := ⟨nofun, fun clean => ?_⟩
        version := rfl
        failure := fun _ => ?_ }
      · rw [versions] at more
        simp at more
      · rw [clean] at tells
        cases tells
      · obtain ⟨prompt, response, now, arises, traced⟩ := attempted.arises
        rw [id, show task.model = context.model from congrArg Context.model known] at traced
        exact ⟨made, prompt, response, now, arises, traced, by rw [id]⟩
  | crashed failure now =>
      refine ⟨_, none, .failed, settled_of_tracks id setbacks within rfl rfl tracks nofun ?_⟩
      rintro other same
      cases same
      exact ⟨rfl, rfl, rfl⟩

end Run

/-- What other callers ask for leaves a lesson alone unless they claim it or write something for
it. -/
theorem leavesAlone_of_elsewhere {book : Book σ κ} {conduct : Conduct σ}
    (accounts : book.Accounts conduct) {before after : σ} (ordered : book.inOrder before)
    {role : Role κ} {β : Type} {request : Request τ β} {answer : Except Failure β}
    (allowed : role.Allows book.place request)
    (answered : request.Answered conduct.neverFails before answer after) {here : κ}
    (unclaimed : ∀ id, request.claimed? answer = some id → book.place id ≠ here)
    (unwritten : ∀ id, request.written? = some id → book.place id ≠ here) :
    book.LeavesAlone here before after := by
  by_cases leaves : request.LeavesStore
  · rw [answered.eq_of_leavesStore leaves]
    exact Book.leavesAlone_refl accounts here before
  · cases request with
    | store operation =>
        obtain ⟨permitted, value, rfl⟩ := answered
        cases operation with
        | find id =>
            rw [(accounts.ledger.find ordered permitted).1]
            exact Book.leavesAlone_refl accounts here before
        | claim id =>
            cases value with
            | false =>
                rw [(accounts.ledger.refused ordered permitted).2]
                exact Book.leavesAlone_refl accounts here before
            | true =>
                obtain ⟨_, moves⟩ := accounts.ledger.claimed ordered permitted
                exact Book.leavesAlone_of_moves accounts moves permitted trivial (unclaimed id rfl)
        | claimNext =>
            cases value with
            | none =>
                rw [accounts.ledger.noneLeft ordered permitted]
                exact Book.leavesAlone_refl accounts here before
            | some lesson =>
                obtain ⟨_, moves⟩ := accounts.ledger.claimedNext ordered permitted
                exact Book.leavesAlone_of_moves accounts moves permitted trivial
                  (unclaimed lesson.id rfl)
        | setStatus id status =>
            have moves := accounts.ledger.setStatus ordered permitted
            exact Book.leavesAlone_of_moves accounts moves permitted trivial (unwritten id rfl)
        | addContent id source code digest =>
            have apart := Ne.symm (unwritten id rfl)
            have grows := accounts.ledger.addContent ordered permitted
            obtain ⟨_, elsewhere, traces⟩ := accounts.addContent permitted
            exact ⟨fun _ => grows.inOrder, grows.status here, grows.elsewhere here apart,
              elsewhere here apart, traces here⟩
        | appendTrace trace =>
            have apart := Ne.symm (unwritten trace.lessonId rfl)
            have stays := accounts.ledger.appendTrace ordered permitted
            obtain ⟨_, elsewhere, latest⟩ := accounts.appendTrace permitted
            exact ⟨fun _ => stays.inOrder, stays.status here, stays.versions here, latest here,
              elsewhere here apart⟩
        -- Callers neither keep new lessons nor list what is there.
        | _ => cases role <;> exact allowed.elim
    | _ => exact absurd trivial leaves

/-- Over a store that does what is relied on, every run that makes an attempt at all settles its
lesson. -/
theorem settled_of_accounts [Seconds τ] {book : Book σ κ} {conduct : Conduct σ}
    (accounts : book.Accounts conduct) {context : Run.Context τ} {lesson : Lesson}
    {pedagogy : Option Pedagogy} (some_attempt : 1 ≤ context.pace.attempts) {first last : σ}
    {writes : List Write} {result : Except Failure Report} (ordered : book.inOrder first)
    (course : Course conduct (book.LeavesAlone (book.place lesson.id)) first
      (Run.run context lesson pedagogy) writes last result) :
    ∃ earlier final content status,
      Run.Settled book context lesson first last writes result earlier final content status := by
  obtain ⟨⟨task, known, own, earlier, setbacks, within, ending⟩, tracks⟩ :=
    course.keeps (fun store written => book.Tracks (book.place lesson.id) first store written)
      (fun tracks allowed answered reliable => tracks.answer accounts allowed answered reliable)
      (fun tracks alone => tracks.leavesAlone accounts alone)
      (Run.ended_run some_attempt) (.refl accounts ordered _)
  obtain ⟨final, content, status, settled⟩ := ending.settled known own setbacks within tracks
  exact ⟨earlier, final, content, status, settled⟩

/-- Over either store, however it has come to hold its lessons, a run with at least one attempt
settles its lesson, whatever the generator and the clock answer and whatever is done to other lessons
meanwhile, as long as the store does not fail. -/
theorem run_agrees_with_store [Seconds τ] (context : Run.Context τ) (lesson : Lesson)
    (pedagogy : Option Pedagogy) (some_attempt : 1 ≤ context.pace.attempts) :
    (∀ (first last : Memory) (writes : List Write) (result : Except Failure Report),
      Memory.conduct.Reaches {} first →
      Course Memory.conduct (Memory.book.LeavesAlone lesson.id) first
        (Run.run context lesson pedagogy) writes last result →
      ∃ earlier final content status, Run.Settled Memory.book context lesson first last writes
        result earlier final content status) ∧
    ∀ (first last : FileTree) (writes : List Write) (result : Except Failure Report),
      Files.conduct.Reaches {} first →
      Course Files.conduct (Files.book.LeavesAlone (Files.folder lesson.id)) first
        (Run.run context lesson pedagogy) writes last result →
      ∃ earlier final content status, Run.Settled Files.book context lesson first last writes result
        earlier final content status :=
  ⟨fun _ _ _ _ reaches course =>
      settled_of_accounts Memory.bookAccounts some_attempt (Memory.inOrder_of_reaches reaches) course,
    fun _ _ _ _ reaches course =>
      settled_of_accounts Files.bookAccounts some_attempt (Files.inOrder_of_reaches reaches) course⟩

/-- A lesson that a run has claimed. -/
private def claimedLesson : Lesson where
  id := "a"
  title := "Fractions"
  topic := "Adding fractions"
  status := .generating
  createdAt := .after 0
  updatedAt := .after 0

/-- A single attempt in whole seconds. -/
private def oneAttempt : Run.Context Int where
  pace := { attempts := 1, limit := 600, attemptLimit := 60, backoff := fun _ => .ok 1 }
  model := none

/-- A run with a single attempt, for which there is nothing but an empty reply, fails over every
store that keeps its trace and its status. -/
private theorem failing_course {conduct : Conduct σ} {meanwhile : σ → σ → Prop} {first : σ}
    {middle last : Trace → σ}
    (kept : ∀ trace, trace.lessonId = claimedLesson.id →
      conduct.permits first (.appendTrace trace) (.ok ()) (middle trace))
    (failed : ∀ trace, trace.lessonId = claimedLesson.id → ∃ lesson,
      conduct.permits (middle trace) (.setStatus claimedLesson.id .failed) (.ok lesson)
        (last trace)) :
    ∃ trace writes report, Course conduct meanwhile first (Run.run oneAttempt claimedLesson none)
      writes (last trace) (.ok report) ∧ report.success = false ∧ report.version = none := by
  have clock : (Request.clock : Request Int Int).Answered conduct first (.ok 0) first := rfl
  have moment : (Request.moment : Request Int Timestamp).Answered conduct first (.ok (.after 1))
      first := rfl
  have silent (prompt : Prompt) (timeout : Int) :
      (Request.generate prompt timeout).Answered conduct first (.ok "") first := rfl
  let attempt := Evaluation.failed 1 none .generation
    ["Generation returned an empty response"] [] []
  let prompt := Prompt.initial claimedLesson.topic (Topic.inferPedagogy claimedLesson.topic)
  let trace := Run.traceOf claimedLesson.id prompt none none attempt (.after 1)
  obtain ⟨lesson, changed⟩ := failed trace rfl
  have keeps : (Request.store (.appendTrace trace) : Request Int Unit).Answered conduct first
      (.ok ()) (middle trace) := kept trace rfl
  have fails : (Request.store (.setStatus claimedLesson.id .failed) : Request Int Lesson).Answered
      conduct (middle trace) (.ok lesson) (last trace) := changed
  refine ⟨trace, [.trace trace, .status claimedLesson.id .failed],
    Run.failureReport claimedLesson.id 1 attempt, ?_, rfl, rfl⟩
  exact .ask clock ⟨_, rfl⟩ (.ask clock ⟨_, rfl⟩ (.ask (silent prompt 60) trivial
    (.ask moment ⟨_, rfl⟩ (.ask keeps ⟨_, rfl⟩ (.ask fails ⟨_, rfl⟩ (.done _ _))))))

/-- A store in memory with that lesson, and with what content is given. -/
private def inMemory (contents : List Content) : Memory :=
  { lessons := [claimedLesson], contents }

/-- Files with that lesson alone. -/
private def inFiles : FileTree := FileTree.applyAll {} (Files.putLesson claimedLesson)

/-- In memory a run for that lesson can fail. -/
private theorem failing_course_memory (contents : List Content)
    {meanwhile : Memory → Memory → Prop} :
    ∃ trace writes report, Course Memory.conduct meanwhile (inMemory contents)
      (Run.run oneAttempt claimedLesson none) writes
      ⟨[withStatus (.after 1) .failed claimedLesson], contents, [trace]⟩ (.ok report) ∧
        report.success = false ∧ report.version = none :=
  failing_course (fun _ _ => ⟨.after 1, rfl, rfl⟩) fun _ _ => ⟨_, .after 1, rfl, rfl⟩

/-- That lesson reads from what its file holds. -/
private theorem readLesson_claimed : (Files.readLesson (.after 1) 0
    (Json.pretty Json.recordStyle (claimedLesson.toJson .snake)).toList).1.isOk = true := by
  rw [Files.readLesson, Files.readJson,
    Json.parseChars_pretty (claimedLesson.withoutFloats_toJson .snake)]
  decide +kernel

/-- A lesson is found if its file reads. -/
private theorem find_of_readLesson {tree : FileTree} {id : String} {characters : List Char}
    (held : Files.readText? tree (Files.folder id ++ [Files.lessonFile]) = some characters)
    (reads : (Files.readLesson (.after 1) 0 characters).1.isOk = true) :
    ∃ lesson minted, Files.find (.after 1) 0 tree id = (.ok (some lesson), minted) := by
  rw [Files.find, held]
  cases answer : Files.readLesson (.after 1) 0 characters with
  | mk result minted =>
      rw [answer] at reads
      cases result with
      | ok lesson =>
          refine ⟨lesson, minted, ?_⟩
          simp only [answer, Except.map]
      | error failure => cases reads

/-- Behind a trace that lesson is still found. -/
private theorem find_claimed (trace : Trace) : ∃ lesson minted,
    Files.find (.after 1) 0 (inFiles.applyAll (Files.addTrace trace)) claimedLesson.id =
      (.ok (some lesson), minted) := by
  have held := Files.readText?_putLesson {} claimedLesson
  rw [Files.readText?, ← Files.read?_lessonFile_addTrace _ trace] at held
  exact find_of_readLesson held readLesson_claimed

/-- Among files a run for that lesson can fail. -/
private theorem failing_course_files {meanwhile : FileTree → FileTree → Prop} :
    ∃ writes last report, Course Files.conduct meanwhile inFiles
      (Run.run oneAttempt claimedLesson none) writes last (.ok report) ∧
        report.success = false ∧ report.version = none := by
  have failed (trace : Trace) : ∃ lesson,
      Files.conduct.permits (inFiles.applyAll (Files.addTrace trace))
        (.setStatus claimedLesson.id .failed) (.ok lesson)
        (Files.perform (.after 1) 0 (inFiles.applyAll (Files.addTrace trace))
          (.setStatus claimedLesson.id .failed)).2.1 := by
    obtain ⟨lesson, minted, found⟩ := find_claimed trace
    refine ⟨withStatus (.after 1) .failed lesson, .after 1, 0, ?_, rfl⟩
    simp [Files.perform, Files.answer, found, Files.changeStatus]
  have free : inFiles.hasFolder (Files.folder claimedLesson.id ++ [Files.tracesFile]) = false := by
    decide +kernel
  have kept (trace : Trace) (own : trace.lessonId = claimedLesson.id) :
      Files.conduct.permits inFiles (.appendTrace trace) (.ok ())
        (inFiles.applyAll (Files.addTrace trace)) := by
    refine ⟨.after 1, 0, ?_, ?_⟩
    · simp [Files.perform, Files.answer, own, free]
    · simp [Files.perform, Files.answer, own, free]
  obtain ⟨trace, writes, report, course⟩ := failing_course kept fun trace _ => failed trace
  exact ⟨writes, _, report, course⟩

/-- A run that fails in memory, and one among files. -/
theorem run_agrees_with_store_silent :
    (∃ last writes report, Course Memory.conduct (Memory.book.LeavesAlone claimedLesson.id)
        (inMemory []) (Run.run oneAttempt claimedLesson none) writes last (.ok report) ∧
      ∃ earlier final content status, Run.Settled Memory.book oneAttempt claimedLesson (inMemory [])
        last writes (.ok report) earlier final content status) ∧
    ∃ last writes report,
      Course Files.conduct (Files.book.LeavesAlone (Files.folder claimedLesson.id)) inFiles
        (Run.run oneAttempt claimedLesson none) writes last (.ok report) ∧
      ∃ earlier final content status, Run.Settled Files.book oneAttempt claimedLesson inFiles last
        writes (.ok report) earlier final content status := by
  have agrees := run_agrees_with_store oneAttempt claimedLesson none (Nat.le_refl 1)
  have created : Memory.conduct.permits {} (.create claimedLesson) (.ok ()) (inMemory []) :=
    ⟨.after 0, rfl, rfl⟩
  have written : Files.conduct.permits {} (.create claimedLesson) (.ok ()) inFiles :=
    ⟨.after 0, 0, rfl, rfl⟩
  constructor
  · obtain ⟨trace, writes, report, course, _⟩ := failing_course_memory []
    exact ⟨_, writes, report, course, agrees.1 _ _ _ _ (.step .refl created) course⟩
  · obtain ⟨writes, last, report, course, _⟩ := failing_course_files
    exact ⟨last, writes, report, course, agrees.2 _ _ _ _ (.step .refl written) course⟩

/-- A first version of content for that lesson. -/
private def earlierContent : Content := ⟨claimedLesson.id, 1, "", "", "", .after 0⟩

/-- A run that fails reports no version, although the store may hold one from before. -/
theorem failed_run_reports_no_version :
    ¬ ∀ (context : Run.Context Int) (lesson : Lesson) (first last : Memory) (writes : List Write)
      (report : Report), 1 ≤ context.pace.attempts → Memory.conduct.Reaches {} first →
      Course Memory.conduct (Memory.book.LeavesAlone lesson.id) first
        (Run.run context lesson none) writes last (.ok report) →
      report.version = (Memory.book.latest? last lesson.id).map Int.ofNat := by
  intro agrees
  have created : Memory.conduct.permits {} (.create claimedLesson) (.ok ()) (inMemory []) :=
    ⟨.after 0, rfl, rfl⟩
  have added : Memory.conduct.permits (inMemory []) (.addContent claimedLesson.id "" "" "")
      (.ok earlierContent) (inMemory [earlierContent]) := ⟨.after 0, rfl, rfl⟩
  obtain ⟨trace, writes, report, course, _, unversioned⟩ := failing_course_memory [earlierContent]
  have versioned := agrees oneAttempt claimedLesson _ _ writes report (Nat.le_refl 1)
    (.step (.step .refl created) added) course
  rw [unversioned] at versioned
  cases versioned

end Lectern
