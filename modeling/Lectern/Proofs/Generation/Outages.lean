/-
Module: Lectern.Proofs.Generation.Outages
Purpose: Calls side by side over either store, when anything that is asked for may fail. Which lessons
  stay in generation, and which fail although they have content. Where it is known which lesson a file
  holds, what is asked about it is told without reading the file.
Trusted boundary: none
Main exports: Store.Recall, Store.Recall.perform_eq, claimed_lessons_settled_unless_stranded,
  kept_content_failed_iff
-/
import Lectern.Proofs.Generation.Aftermath
import Lectern.Proofs.Generation.SoundReply
import Lectern.Proofs.Store.Holdings

namespace Lectern.Store

/-! ## A lesson that is recalled -/

/-- Files, and a lesson that one of them may be known to hold. -/
structure Recall where
  tree : FileTree
  lesson : Option Lesson

namespace Recall

/-- A lesson that is recalled is the one that its file holds, and it is read back from there. -/
def Valid (store : Recall) : Prop :=
  ∀ lesson ∈ store.lesson, lesson.ReadsBack ∧
    store.tree.read? (Files.folder lesson.id ++ [Files.lessonFile]) =
      some (Files.lessonText lesson)

/-- The lesson that is recalled under an identifier. -/
def find? (store : Recall) (id : String) : Option Lesson :=
  store.lesson.filter (·.id == id)

/-- Keep a lesson, and recall it. -/
def keep (store : Recall) (lesson : Lesson) : Recall :=
  ⟨store.tree.applyAll (Files.putLesson lesson), some lesson⟩

/-- Ask the files, and recall a lesson or none then. -/
def ask (now : Timestamp) (store : Recall) (lesson : Option Lesson) {β : Type}
    (operation : Operation β) : Except Failure β × Recall :=
  let performed := Files.perform now 0 store.tree operation
  (performed.1, ⟨performed.2.1, lesson⟩)

/-- Do what is asked. What is asked about the lesson that is recalled needs no file. -/
def perform (now : Timestamp) (store : Recall) {β : Type} (operation : Operation β) :
    Except Failure β × Recall :=
  match operation with
  | .find id =>
    match store.find? id with
    | some lesson => (.ok (some lesson), store)
    | none => store.ask now store.lesson (.find id)
  | .claim id =>
    match store.find? id with
    | some lesson =>
      if lesson.status == .queued then (.ok true, store.keep (withStatus now .generating lesson))
      else (.ok false, store)
    | none => store.ask now none (.claim id)
  | .setStatus id status =>
    match store.find? id with
    | some lesson => (.ok (withStatus now status lesson), store.keep (withStatus now status lesson))
    | none => store.ask now none (.setStatus id status)
  | .create lesson => store.ask now none (.create lesson)
  | .claimNext => store.ask now none .claimNext
  | operation => store.ask now store.lesson operation

variable {store : Recall}

theorem Valid.none (tree : FileTree) : Valid ⟨tree, Option.none⟩ := by
  rintro _ ⟨⟩

/-- A lesson that is kept is recalled rightly. -/
theorem Valid.keep {lesson : Lesson} (reads : lesson.ReadsBack) : (store.keep lesson).Valid := by
  rintro _ ⟨⟩
  refine ⟨reads, ?_⟩
  rw [Recall.keep, Files.read?_lessonFile_putLesson, if_pos rfl]

/-- Changes that leave the files of lessons as they are leave what is recalled as it is. -/
theorem Valid.of_read? (valid : store.Valid) {after : FileTree}
    (leaves : ∀ place, after.read? (place ++ [Files.lessonFile]) =
      store.tree.read? (place ++ [Files.lessonFile])) : Valid ⟨after, store.lesson⟩ := by
  intro lesson known
  obtain ⟨reads, held⟩ := valid lesson known
  exact ⟨reads, (leaves _).trans held⟩

/-- The lesson that is recalled under an identifier is the one that the files find. -/
theorem Valid.find_eq (valid : store.Valid) (now : Timestamp) {id : String} {lesson : Lesson}
    (found : store.find? id = some lesson) :
    lesson.ReadsBack ∧ Files.find now 0 store.tree id = (.ok (some lesson), 0) := by
  obtain ⟨known, same⟩ := Option.filter_eq_some_iff.mp found
  obtain ⟨reads, held⟩ := valid lesson known
  rw [eq_of_beq same] at held
  exact ⟨reads, Files.find_of_held reads held now 0⟩

/-- What is recalled is answered as the files answer, leaves the files that they leave, and goes on to
be recalled rightly. -/
theorem perform_eq (valid : store.Valid) (now : Timestamp) (moment : now.ReadsBack) {β : Type}
    (operation : Operation β) :
    (store.perform now operation).1 = (Files.perform now 0 store.tree operation).1 ∧
      (store.perform now operation).2.tree = (Files.perform now 0 store.tree operation).2.1 ∧
      (store.perform now operation).2.Valid := by
  cases operation with
  | create lesson => exact ⟨rfl, rfl, .none _⟩
  | claimNext => exact ⟨rfl, rfl, .none _⟩
  | list limit => exact ⟨rfl, rfl, valid⟩
  | latestContent id => exact ⟨rfl, rfl, valid⟩
  | find id =>
      cases known : store.find? id with
      | none =>
          simp only [perform, known]
          exact ⟨rfl, rfl, valid⟩
      | some lesson =>
          have found := (valid.find_eq now known).2
          simp only [perform, known, Files.perform, Files.answer, found, true_and]
          exact ⟨rfl, valid⟩
  | claim id =>
      cases known : store.find? id with
      | none =>
          simp only [perform, known]
          exact ⟨rfl, rfl, .none _⟩
      | some lesson =>
          obtain ⟨reads, found⟩ := valid.find_eq now known
          simp only [perform, known, Files.perform, Files.answer, found]
          cases queued : lesson.status == .queued with
          | true => exact ⟨rfl, rfl, .keep (reads.withStatus moment _)⟩
          | false => exact ⟨rfl, rfl, valid⟩
  | setStatus id status =>
      cases known : store.find? id with
      | none =>
          simp only [perform, known]
          exact ⟨rfl, rfl, .none _⟩
      | some lesson =>
          obtain ⟨reads, found⟩ := valid.find_eq now known
          simp only [perform, known, Files.perform, Files.answer, found]
          exact ⟨rfl, rfl, .keep (reads.withStatus moment _)⟩
  | addContent id source code digest =>
      refine ⟨rfl, rfl, valid.of_read? fun place => ?_⟩
      simp only [Files.perform, Files.answer]
      split
      · rfl
      · exact Files.read?_lessonFile_putContent _ _ _
  | appendTrace trace =>
      refine ⟨rfl, rfl, valid.of_read? fun place => ?_⟩
      simp only [Files.perform, Files.answer]
      split
      · rfl
      · exact Files.read?_lessonFile_addTrace _ _ _
  | traces id =>
      refine ⟨rfl, rfl, valid.of_read? fun place => ?_⟩
      simp only [Files.perform, Files.answer]
      split <;> rfl

end Recall

end Lectern.Store

namespace Lectern

open Store

variable {τ σ κ : Type}

/-! ## Lessons that stay in generation -/

/-- Over either store, however it has come to hold its lessons, for any calls side by side and whatever
fails: once a call is over, each lesson that it has claimed has its last status, but for one case. If
the last thing that the caller heard is a failure of the clock, of the moment, of a trace or of the
status, the lesson that it claimed last stays in generation. No failure of the generator, of a wait or
of keeping content does that. -/
theorem claimed_lessons_settled_unless_stranded [Seconds τ] (context : Run.Context τ)
    (patience : Nat) (calls : List Call) :
    (∀ (store : Memory) (moments : List (Moment τ Memory)) (last : Crowd τ Memory),
      Memory.conduct.Reaches {} store →
      Crowd.History Memory.conduct.orFails (.opening context patience calls store) moments last →
      ∀ caller program, last.programs[caller]? = some program → program.isOver = true →
        Memory.ledger.Leaves caller moments last.store) ∧
    ∀ (tree : FileTree) (moments : List (Moment τ FileTree)) (last : Crowd τ FileTree),
      Files.conduct.Reaches {} tree →
      Crowd.History Files.conduct.orFails (.opening context patience calls tree) moments last →
      ∀ caller program, last.programs[caller]? = some program → program.isOver = true →
        Files.ledger.Leaves caller moments last.store :=
  ⟨fun _ _ _ reaches history _ _ found finished =>
      leaves_of_accounts Memory.accounts Memory.failsQuietly (Memory.inOrder_of_reaches reaches)
        history found finished,
    fun _ _ _ reaches history _ _ found finished =>
      leaves_of_accounts Files.accounts Files.failsQuietly (Files.inOrder_of_reaches reaches)
        history found finished⟩

private def waitingLesson : Lesson where
  id := "a"
  title := "Fractions"
  topic := "Adding fractions"
  createdAt := .after 0
  updatedAt := .after 0

/-- Stores with that lesson in the queue. -/
private def oneInMemory : Memory := Memory.put {} waitingLesson

private def oneInFiles : FileTree := (Files.perform (.after 0) 0 {} (.create waitingLesson)).2.1

private theorem reaches_oneInMemory : Memory.conduct.Reaches {} oneInMemory := by
  have created : Memory.conduct.permits {} (.create waitingLesson) (.ok ()) oneInMemory :=
    ⟨.after 0, rfl, rfl⟩
  exact .step .refl created

private theorem reaches_oneInFiles : Files.conduct.Reaches {} oneInFiles := by
  have created : Files.conduct.permits {} (.create waitingLesson) (.ok ()) oneInFiles :=
    ⟨.after 0, 0, rfl, rfl⟩
  exact .step .refl created

/-- A store that answers as one does, but cannot keep some traces, and a generator with one reply. -/
private def lossy (perform : σ → {β : Type} → Operation β → Except Failure β × σ)
    (loses : Trace → Bool) (reply : Except Failure String) : Setting Int σ where
  perform store _ operation :=
    match operation with
    | .appendTrace trace =>
      if loses trace then (.error (.outside "OSError" "No space left on device"), store)
      else perform store (.appendTrace trace)
    | operation => perform store operation
  reading := 0
  now := .after 1
  reply := reply

private def lossyMemory : (Trace → Bool) → Except Failure String → Setting Int Memory :=
  lossy fun store _ operation => store.perform (.after 1) operation

private def lossyFiles : (Trace → Bool) → Except Failure String → Setting Int FileTree :=
  lossy fun tree _ operation =>
    let (answer, after, _) := Files.perform (.after 1) 0 tree operation
    (answer, after)

/-- One call for that lesson. -/
private def oneCalled (store : σ) : Crowd Int σ :=
  .opening .threeAttempts 1 [.kickoff "a" none] store

/-- The call is answered until it is over. -/
private def carriedOut (setting : Setting Int σ) (store : σ) : List (Moment Int σ) :=
  setting.play (oneCalled store) (List.replicate 16 0)

private theorem history_lossy {conduct : Conduct σ}
    {perform : σ → {β : Type} → Operation β → Except Failure β × σ} (loses : Trace → Bool)
    (reply : Except Failure String)
    (permits : ∀ (store : σ) {β : Type} (operation : Operation β),
      conduct.permits store operation (perform store operation).1 (perform store operation).2)
    (store : σ) :
    Crowd.History conduct.orFails (oneCalled store) (carriedOut (lossy perform loses reply) store)
      ((oneCalled store).behind (carriedOut (lossy perform loses reply) store)) := by
  have allowed (store : σ) {β : Type} (operation : Operation β) :
      conduct.orFails.permits store operation ((lossy perform loses reply).perform store operation).1
        ((lossy perform loses reply).perform store operation).2 := by
    cases operation with
    | appendTrace trace =>
        dsimp only [lossy]
        split
        · exact Or.inr ⟨⟨_, rfl⟩, rfl⟩
        · exact Or.inl (permits store _)
    | _ => exact Or.inl (permits store _)
  exact Setting.history_behind allowed (oneCalled store) (List.replicate 16 0)

private theorem history_lossyMemory (loses : Trace → Bool) (reply : Except Failure String) :
    Crowd.History Memory.conduct.orFails (oneCalled oneInMemory)
      (carriedOut (lossyMemory loses reply) oneInMemory)
      ((oneCalled oneInMemory).behind (carriedOut (lossyMemory loses reply) oneInMemory)) := by
  refine history_lossy loses reply ?_ oneInMemory
  intro store β operation
  exact ⟨.after 1, rfl, rfl⟩

private theorem history_lossyFiles (loses : Trace → Bool) (reply : Except Failure String) :
    Crowd.History Files.conduct.orFails (oneCalled oneInFiles)
      (carriedOut (lossyFiles loses reply) oneInFiles)
      ((oneCalled oneInFiles).behind (carriedOut (lossyFiles loses reply) oneInFiles)) := by
  refine history_lossy loses reply ?_ oneInFiles
  intro tree β operation
  exact ⟨.after 1, 0, rfl, rfl⟩

/-- The call is over. -/
private def isOver (store : σ) (moments : List (Moment Int σ)) : Bool :=
  ((oneCalled store).behind moments).programs[0]?.any Program.isOver

private theorem exists_of_isOver {store : σ} {moments : List (Moment Int σ)}
    (finished : isOver store moments = true) :
    ∃ program, ((oneCalled store).behind moments).programs[0]? = some program ∧
      program.isOver = true :=
  (Option.any_eq_true _ _).mp finished

/-- Over two stores the same is asked for and answered, and the call is left alike. -/
private structure Alike {ρ : Type} (store : σ) (moments : List (Moment Int σ)) (second : ρ)
    (others : List (Moment Int ρ)) : Prop where
  events : moments.map (·.event) = others.map (·.event)
  programs : ((oneCalled store).behind moments).programs = ((oneCalled second).behind others).programs

namespace Alike

variable {ρ : Type} {store : σ} {moments : List (Moment Int σ)} {second : ρ}
  {others : List (Moment Int ρ)}

private theorem isOver_eq (alike : Alike store moments second others) :
    isOver store moments = isOver second others := by
  rw [isOver, isOver, alike.programs]

private theorem claimsOf_eq (alike : Alike store moments second others) (caller : Nat) :
    claimsOf caller moments = claimsOf caller others := by
  rw [claimsOf, claimsOf, eventsOf, eventsOf, alike.events]

end Alike

/-- The files, with the lesson that is known to be among them. -/
private def oneRecalled : Recall := ⟨oneInFiles, some waitingLesson⟩

private def lossyRecall : (Trace → Bool) → Except Failure String → Setting Int Recall :=
  lossy fun recalled _ operation => recalled.perform (.after 1) operation

/-- What is carried out among the files is carried out alike when the lesson is recalled. -/
private theorem alike_lossyRecall (loses : Trace → Bool) (reply : Except Failure String) :
    Alike oneRecalled (carriedOut (lossyRecall loses reply) oneRecalled) oneInFiles
      (carriedOut (lossyFiles loses reply) oneInFiles) := by
  have known : oneRecalled.Valid :=
    @Recall.Valid.keep ⟨{}, none⟩ waitingLesson (by decide +kernel)
  have answers {recalled : Recall} {tree : FileTree} (together : recalled.tree = tree ∧ recalled.Valid)
      {β : Type} (request : Request Int β) :
      ((lossyRecall loses reply).answer recalled request).1 =
          ((lossyFiles loses reply).answer tree request).1 ∧
        ((lossyRecall loses reply).answer recalled request).2.tree =
          ((lossyFiles loses reply).answer tree request).2 ∧
        ((lossyRecall loses reply).answer recalled request).2.Valid := by
    obtain ⟨rfl, valid⟩ := together
    cases request with
    | store operation =>
        have asked := Recall.perform_eq valid (.after 1) rfl operation
        cases operation with
        | appendTrace trace =>
            dsimp only [Setting.answer, lossyRecall, lossyFiles, lossy]
            split
            · exact ⟨rfl, rfl, valid⟩
            · exact asked
        | _ => exact asked
    | _ => exact ⟨rfl, rfl, valid⟩
  obtain ⟨events, programs⟩ := Setting.play_alike answers ⟨rfl, known⟩ (oneCalled oneInFiles).programs
    (List.replicate 16 0)
  exact ⟨events, programs⟩

/-- The generator breaks down. -/
private def boom : Except Failure String := .error (.outside "RuntimeError" "boom")

/-- Where nothing else fails, the lesson in memory has failed when the generator has broken down; where
traces are lost, the lesson among the files stays in generation. -/
theorem claimed_lessons_settled_unless_stranded_broken_down :
    let kept := carriedOut (lossyMemory (fun _ => false) boom) oneInMemory
    let lost := carriedOut (lossyFiles (fun _ => true) boom) oneInFiles
    (isOver oneInMemory kept = true ∧ claimsOf 0 kept = ["a"] ∧
      Memory.ledger.Leaves 0 kept ((oneCalled oneInMemory).behind kept).store ∧
      Memory.ledger.status? ((oneCalled oneInMemory).behind kept).store "a" = some .failed) ∧
    isOver oneInFiles lost = true ∧ claimsOf 0 lost = ["a"] ∧
      Files.ledger.Leaves 0 lost ((oneCalled oneInFiles).behind lost).store := by
  intro kept lost
  have both := claimed_lessons_settled_unless_stranded Run.Context.threeAttempts 1
    [.kickoff "a" none]
  have ⟨overInMemory, claimedInMemory, failed⟩ : isOver oneInMemory kept = true ∧
      claimsOf 0 kept = ["a"] ∧
      Memory.ledger.status? ((oneCalled oneInMemory).behind kept).store "a" = some .failed := by
    decide +kernel
  have ⟨overInFiles, claimedInFiles⟩ : isOver oneInFiles lost = true ∧ claimsOf 0 lost = ["a"] := by
    have alike := alike_lossyRecall (fun _ => true) boom
    rw [← alike.isOver_eq, ← alike.claimsOf_eq]
    decide +kernel
  obtain ⟨program, found, ended⟩ := exists_of_isOver overInMemory
  obtain ⟨second, secondFound, secondEnded⟩ := exists_of_isOver overInFiles
  refine ⟨⟨overInMemory, claimedInMemory, ?_, failed⟩, overInFiles, claimedInFiles, ?_⟩
  · exact both.1 _ _ _ reaches_oneInMemory (history_lossyMemory _ _) 0 program found ended
  · exact both.2 _ _ _ reaches_oneInFiles (history_lossyFiles _ _) 0 second secondFound secondEnded

/-- Is this something that may fail although a lesson can be found, be claimed and have its status
written? -/
def Request.mayFail {β : Type} : Request τ β → Bool
  | .generate _ _ => true
  | .sleep _ => true
  | .store (.addContent _ _ _ _) => true
  | .store (.appendTrace _) => true
  | _ => false

/-- Where no trace can be kept, the status is not written either, and the lesson stays in
generation. -/
theorem trace_outage_strands_lesson :
    ¬ ∀ (calls : List Call) (store : Memory) (moments : List (Moment Int Memory))
      (last : Crowd Int Memory), Memory.conduct.Reaches {} store →
      Crowd.History Memory.conduct.orFails (.opening Run.Context.threeAttempts 1 calls store) moments
        last →
      (∀ moment ∈ moments,
        moment.event.answer.isOk = true ∨ moment.event.request.mayFail = true) →
      ∀ caller program, last.programs[caller]? = some program → program.isOver = true →
        ∀ id ∈ claimsOf caller moments, ∃ status : Status, status.Last ∧
          Memory.ledger.status? last.store id = some status := by
  intro settles
  let moments := carriedOut (lossyMemory (fun _ => true) (.ok "")) oneInMemory
  have ⟨finished, all, claimed, told⟩ : isOver oneInMemory moments = true ∧
      moments.all (fun moment =>
        moment.event.answer.isOk || moment.event.request.mayFail) = true ∧
      claimsOf 0 moments = ["a"] ∧
      Memory.ledger.status? ((oneCalled oneInMemory).behind moments).store "a" =
        some .generating := by
    decide +kernel
  have onlyTraces : ∀ moment ∈ moments,
      moment.event.answer.isOk = true ∨ moment.event.request.mayFail = true := by
    intro moment member
    exact Bool.or_eq_true_iff.mp (List.all_eq_true.mp all moment member)
  obtain ⟨program, found, ended⟩ := exists_of_isOver finished
  obtain ⟨status, last, settled⟩ := settles [.kickoff "a" none] oneInMemory moments _
    reaches_oneInMemory (history_lossyMemory _ _) onlyTraces 0 program found ended "a" (by rw [claimed]; exact .head _)
  rw [told] at settled
  cases settled
  rcases last with impossible | impossible <;> cases impossible

/-! ## Lessons that fail although they have content -/

/-- Over either store, however it has come to hold its lessons, for any calls side by side and whatever
fails: once a call is over, the status of a lesson that it has kept content for tells what became of
its writes for that lesson behind the content. The lesson is generated if all of them went well. It has
failed if one of them did not, and the last one, which is that of the status, did; and if the last one
did not go well, the lesson stays in generation. -/
theorem kept_content_failed_iff [Seconds τ] (context : Run.Context τ) (patience : Nat)
    (calls : List Call) :
    (∀ (store : Memory) (before later : List (Moment τ Memory)) (moment : Moment τ Memory)
      (last : Crowd τ Memory), Memory.conduct.Reaches {} store →
      Crowd.History Memory.conduct.orFails (.opening context patience calls store)
        (before ++ moment :: later) last →
      ∀ id program, moment.event.kept? = some id →
        last.programs[moment.event.caller]? = some program → program.isOver = true →
        Memory.ledger.Tells last.store (Memory.ledger.place id)
          (outcomesOf Memory.ledger.place (Memory.ledger.place id) moment.event.caller later)) ∧
    ∀ (tree : FileTree) (before later : List (Moment τ FileTree)) (moment : Moment τ FileTree)
      (last : Crowd τ FileTree), Files.conduct.Reaches {} tree →
      Crowd.History Files.conduct.orFails (.opening context patience calls tree)
        (before ++ moment :: later) last →
      ∀ id program, moment.event.kept? = some id →
        last.programs[moment.event.caller]? = some program → program.isOver = true →
        Files.ledger.Tells last.store (Files.ledger.place id)
          (outcomesOf Files.ledger.place (Files.ledger.place id) moment.event.caller later) :=
  ⟨fun _ _ _ _ _ reaches history _ _ kept found finished =>
      tells_of_accounts Memory.accounts Memory.failsQuietly (Memory.inOrder_of_reaches reaches)
        history kept found finished,
    fun _ _ _ _ _ reaches history _ _ kept found finished =>
      tells_of_accounts Files.accounts Files.failsQuietly (Files.inOrder_of_reaches reaches)
        history kept found finished⟩

/-- Is this a request that writes a trace or a status? -/
def Request.notes {β : Type} : Request τ β → Bool
  | .store (.appendTrace _) => true
  | .store (.setStatus _ _) => true
  | _ => false

/-- A trace of an attempt, and not of a run that breaks down. -/
private def isOfAttempt (trace : Trace) : Bool := trace.error.isNone

/-- The first reply is good, and its trace is lost. -/
private def tracedLate (setting : (Trace → Bool) → Except Failure String → Setting Int σ) (store : σ) :
    List (Moment Int σ) :=
  carriedOut (setting isOfAttempt (.ok "export default 1;")) store

/-- Is the call over, is the seventh thing that it asks for to keep content for the lesson, and what
becomes of its writes behind that? -/
private def keeps [DecidableEq κ] (ledger : Ledger σ κ) (store : σ) (moments : List (Moment Int σ))
    (outcomes : List Bool) : Bool :=
  isOver store moments &&
    moments[6]?.any fun moment =>
      moment.event.kept? = some "a" ∧ moment.event.caller = 0 ∧
        outcomesOf ledger.place (ledger.place "a") 0 (moments.drop 7) = outcomes

private theorem Alike.keeps_eq {ρ : Type} [DecidableEq κ] {one : Ledger σ κ} {other : Ledger ρ κ}
    {store : σ} {moments : List (Moment Int σ)} {second : ρ} {others : List (Moment Int ρ)}
    (alike : Alike store moments second others) (place : one.place = other.place)
    (outcomes : List Bool) :
    keeps one store moments outcomes = keeps other second others outcomes := by
  have later : (moments.drop 7).map (·.event) = (others.drop 7).map (·.event) := by
    rw [List.map_drop, List.map_drop, alike.events]
  have seventh : moments[6]?.map (·.event) = others[6]?.map (·.event) := by
    rw [← List.getElem?_map, ← List.getElem?_map, alike.events]
  have told : outcomesOf one.place (one.place "a") 0 (moments.drop 7) =
      outcomesOf other.place (other.place "a") 0 (others.drop 7) := by
    rw [outcomesOf, outcomesOf, eventsOf, eventsOf, later, place]
  have any := congrArg (Option.any fun event => event.kept? = some "a" ∧ event.caller = 0 ∧
    outcomesOf other.place (other.place "a") 0 (others.drop 7) = outcomes) seventh
  rw [keeps, keeps, alike.isOver_eq, told]
  simp only [Option.any_map] at any
  rw [any]

private theorem exists_of_keeps [DecidableEq κ] {ledger : Ledger σ κ} {store : σ}
    {moments : List (Moment Int σ)} {outcomes : List Bool}
    (held : keeps ledger store moments outcomes = true) :
    ∃ before moment later program, moments = before ++ moment :: later ∧
      moment.event.kept? = some "a" ∧
      outcomesOf ledger.place (ledger.place "a") moment.event.caller later = outcomes ∧
      ((oneCalled store).behind moments).programs[moment.event.caller]? = some program ∧
      program.isOver = true := by
  unfold keeps at held
  obtain ⟨finished, told⟩ := Bool.and_eq_true_iff.mp held
  obtain ⟨program, found, ended⟩ := exists_of_isOver finished
  obtain ⟨moment, there, facts⟩ := (Option.any_eq_true _ _).mp told
  obtain ⟨kept, caller, same⟩ := of_decide_eq_true facts
  obtain ⟨inside, rfl⟩ := List.getElem?_eq_some_iff.mp there
  refine ⟨moments.take 6, moments[6], moments.drop 7, program, ?_, kept, ?_, ?_, ended⟩
  · rw [← List.drop_eq_getElem_cons inside, List.take_append_drop]
  · rw [caller]
    exact same
  · rw [caller]
    exact found

/-- Behind a first reply that is good, the call goes on to keep its module. -/
private theorem carriedOut_eq {setting : Setting Int σ} {store : σ} {lesson : Lesson}
    (replies : setting.reply = .ok "export default 1;")
    (finds : (setting.perform store (.find "a")).1 = .ok (some lesson))
    (claims : (setting.perform (setting.perform store (.find "a")).2 (.claim "a")).1 = .ok true) :
    carriedOut setting store =
      setting.play (oneCalled store) (List.replicate 5 0) ++
        setting.play
          ⟨(setting.perform (setting.perform store (.find "a")).2 (.claim "a")).2,
            [Run.replied .threeAttempts lesson setting.reading
              (Run.kept "export default 1;" Run.smallArtifact)]⟩
          (List.replicate 11 0) := by
  have timely : Seconds.isLeft (Seconds.sub (Seconds.add setting.reading 600)
      setting.reading) = true := by
    have later : (0 : Int) < setting.reading + 600 - setting.reading := by omega
    exact decide_eq_true later
  have reached : Crowd.behind (oneCalled store) (setting.play (oneCalled store) (List.replicate 5 0)) = _ :=
    @Setting.behind_kickoff Int σ _ setting .threeAttempts 2 1 0 "a" "export default 1;" lesson store
      [.done []] Nat.one_pos rfl finds claims timely replies (by decide +kernel)
  rw [← Run.tried_small]
  exact (setting.play_append _ (List.replicate 5 0) (List.replicate 11 0)).trans
    (congrArg (fun crowd => _ ++ setting.play crowd _) reached)

private theorem keeps_lossyMemory :
    (keeps Memory.ledger oneInMemory (tracedLate lossyMemory oneInMemory) [false, true, true] = true ∧
      (tracedLate lossyMemory oneInMemory).all (fun moment =>
        moment.event.answer.isOk || moment.event.request.notes) = true) ∧
      Memory.ledger.status? ((oneCalled oneInMemory).behind (tracedLate lossyMemory oneInMemory)).store
        "a" = some .failed := by
  have same : tracedLate lossyMemory oneInMemory = _ :=
    @carriedOut_eq _ _ _ waitingLesson rfl (by decide +kernel) (by decide +kernel)
  rw [same]
  decide +kernel

/-- What is told of the files is told of them when a lesson is recalled, too. -/
private def recallLedger : Ledger Recall FilePath where
  place := Files.ledger.place
  status? recalled := Files.ledger.status? recalled.tree
  versions recalled := Files.ledger.versions recalled.tree
  inOrder recalled := Files.ledger.inOrder recalled.tree

private theorem keeps_lossyFiles :
    keeps Files.ledger oneInFiles (tracedLate lossyFiles oneInFiles) [false, true, true] = true := by
  have alike : Alike oneRecalled (tracedLate lossyRecall oneRecalled) oneInFiles
      (tracedLate lossyFiles oneInFiles) := alike_lossyRecall _ _
  have same : tracedLate lossyRecall oneRecalled = _ :=
    @carriedOut_eq _ _ _ waitingLesson rfl (by decide +kernel) (by decide +kernel)
  have places : recallLedger.place = Files.ledger.place := rfl
  rw [← alike.keeps_eq places, same]
  decide +kernel

/-- The trace of a good attempt is lost, and the one of the failure is kept: the lesson has content and
has failed, in memory and among the files. -/
theorem kept_content_failed_iff_traced_late :
    (∃ before moment later, tracedLate lossyMemory oneInMemory = before ++ moment :: later ∧
      moment.event.kept? = some "a" ∧
      Memory.ledger.status? ((oneCalled oneInMemory).behind (tracedLate lossyMemory oneInMemory)).store
        "a" = some .failed) ∧
    ∃ before moment later, tracedLate lossyFiles oneInFiles = before ++ moment :: later ∧
      moment.event.kept? = some "a" ∧
      Files.ledger.status? ((oneCalled oneInFiles).behind (tracedLate lossyFiles oneInFiles)).store
        (Files.ledger.place "a") = some .failed := by
  have both := kept_content_failed_iff Run.Context.threeAttempts 1 [.kickoff "a" none]
  constructor
  · obtain ⟨before, moment, later, program, same, kept, outcomes, found, finished⟩ :=
      exists_of_keeps keeps_lossyMemory.1.1
    have history := history_lossyMemory isOfAttempt (.ok "export default 1;")
    have tells := both.1 _ before later moment _ reaches_oneInMemory (same ▸ history) "a" program
      kept found finished
    refine ⟨before, moment, later, same, kept, tells.failed.mpr ?_⟩
    rw [outcomes]
    decide
  · obtain ⟨before, moment, later, program, same, kept, outcomes, found, finished⟩ :=
      exists_of_keeps keeps_lossyFiles
    have history := history_lossyFiles isOfAttempt (.ok "export default 1;")
    have tells := both.2 _ before later moment _ reaches_oneInFiles (same ▸ history) "a" program
      kept found finished
    refine ⟨before, moment, later, same, kept, tells.failed.mpr ?_⟩
    rw [outcomes]
    decide

/-- A lesson may fail although it has content, where nothing but a trace is lost. -/
theorem lost_trace_fails_kept_content :
    ¬ ∀ (calls : List Call) (store : Memory) (before later : List (Moment Int Memory))
      (moment : Moment Int Memory) (last : Crowd Int Memory), Memory.conduct.Reaches {} store →
      Crowd.History Memory.conduct.orFails (.opening Run.Context.threeAttempts 1 calls store)
        (before ++ moment :: later) last →
      (∀ each ∈ before ++ moment :: later,
        each.event.answer.isOk = true ∨ each.event.request.notes = true) →
      ∀ id program, moment.event.kept? = some id →
        last.programs[moment.event.caller]? = some program → program.isOver = true →
        Memory.ledger.status? last.store id ≠ some .failed := by
  intro spared
  obtain ⟨⟨held, onlyNotes⟩, failed⟩ := keeps_lossyMemory
  obtain ⟨before, moment, later, program, same, kept, _, found, finished⟩ := exists_of_keeps held
  have history := history_lossyMemory isOfAttempt (.ok "export default 1;")
  refine spared [.kickoff "a" none] oneInMemory before later moment _ reaches_oneInMemory
    (same ▸ history) ?_ "a" program kept found finished failed
  rw [← same]
  intro each member
  exact Bool.or_eq_true_iff.mp (List.all_eq_true.mp onlyNotes each member)

end Lectern
