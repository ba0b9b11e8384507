/-
Module: Lectern.Proofs.Store.Agreement
Purpose: The store of files answers every sequence of calls as the store in memory does: files that
  mirror the store in memory answer a call the same way and mirror it again behind the call.
Trusted boundary: none
Main exports: Call, Listing, Memory.replies, Files.replies, perform_agrees, stores_agree
-/
import Lectern.Proofs.Store.Mirror

namespace Lectern.Store

/-! ## Calls and replies -/

namespace Operation

/-- The identifier that an operation names. -/
def id? {β : Type} : Operation β → Option String
  | .create lesson => some lesson.id
  | .find id => some id
  | .list _ => none
  | .claim id => some id
  | .claimNext => none
  | .setStatus id _ => some id
  | .addContent id _ _ _ => some id
  | .latestContent id => some id
  | .appendTrace trace => some trace.lessonId
  | .traces id => some id

/-- The lesson that an operation creates. -/
def created? {β : Type} : Operation β → Option Lesson
  | .create lesson => some lesson
  | _ => none

/-- The trace that an operation appends. -/
def appended? {β : Type} : Operation β → Option Trace
  | .appendTrace trace => some trace
  | _ => none

/-- Operations that go through the lessons by the moments at which they were made. -/
def Ranks {β : Type} : Operation β → Prop
  | .list _ => True
  | .claimNext => True
  | _ => False

end Operation

/-- An operation that is asked for at some moment. -/
structure Call where
  now : Timestamp
  {answer : Type}
  operation : Operation answer

/-- What is answered to a call. -/
abbrev Reply := (answer : Type) × Except Failure answer

/-- What a store in memory answers to calls, one after the other. -/
def Memory.replies : Memory → List Call → List Reply
  | _, [] => []
  | store, call :: calls =>
    let (answer, after) := store.perform call.now call.operation
    ⟨_, answer⟩ :: replies after calls

/-- The order in which the files of a tree are listed, which may be another one at each turn. -/
structure Listing where
  order : Nat → FileTree → FileTree
  same : ∀ turn tree, (order turn tree).files.Perm tree.files

/-- What a store of files answers to calls, one after the other. -/
def Files.replies (listing : Listing) : Nat → Nat → FileTree → List Call → List Reply
  | _, _, _, [] => []
  | turn, minted, tree, call :: calls =>
    let (answer, after, minted) :=
      Files.perform call.now minted (listing.order turn tree) call.operation
    ⟨_, answer⟩ :: replies listing (turn + 1) minted after calls

/-! ## One call -/

/-- Lessons that are created: with identifiers of lessons, and at different moments unless one takes
the place of the other. -/
structure Creatable (known : List Lesson) : Prop where
  identifiers : ∀ lesson ∈ known, IsIdentifier lesson.id
  apart : ∀ one ∈ known, ∀ other ∈ known, one.id ≠ other.id →
    one.createdAt.Differs other.createdAt

/-- A call names a lesson by an identifier, and what it brings is read back from what is written of
it. -/
structure Call.Fits (known : List Lesson) (call : Call) : Prop where
  identifier : ∀ id ∈ call.operation.id?, IsIdentifier id
  moment : call.now.ReadsBack
  created : ∀ lesson ∈ call.operation.created?, lesson ∈ known ∧ lesson.ReadsBack
  appended : ∀ trace ∈ call.operation.appended?, trace.ReadsBack

variable {known : List Lesson} {store : Memory} {tree : FileTree}

theorem Memory.Sound.madeApart (sound : store.Sound known) (creatable : Creatable known) :
    MadeApart store.lessons := by
  intro one first other second different
  obtain ⟨_, made, made_known, sameId, sameMoment⟩ := sound.lessons one first
  obtain ⟨_, later, later_known, otherId, otherMoment⟩ := sound.lessons other second
  rw [← sameMoment, ← otherMoment]
  refine creatable.apart made made_known later later_known fun same => different ?_
  exact List.inj_on_of_nodup_map sound.distinct first second (by rw [← sameId, ← otherId, same])

theorem Memory.Sound.identifier (sound : store.Sound known)
    (identifiers : ∀ lesson ∈ known, IsIdentifier lesson.id) {lesson : Lesson}
    (member : lesson ∈ store.lessons) : IsIdentifier lesson.id := by
  obtain ⟨_, made, made_known, same, _⟩ := sound.lessons lesson member
  exact same ▸ identifiers made made_known

/-- A lesson of the store is given another status in both. -/
theorem Mirrors.changeStatus (mirrors : Mirrors store tree) (sound : store.Sound known)
    (identifiers : ∀ lesson ∈ known, IsIdentifier lesson.id) {lesson : Lesson}
    (member : lesson ∈ store.lessons) {now : Timestamp} (moment : now.ReadsBack) (status : Status) :
    Mirrors (store.put (withStatus now status lesson))
        (tree.applyAll (Files.putLesson (withStatus now status lesson))) ∧
      (store.put (withStatus now status lesson)).Sound known := by
  obtain ⟨reads, made⟩ := sound.lessons lesson member
  have identifier := sound.identifier identifiers member
  rw [← id_withStatus now status lesson] at identifier
  exact ⟨mirrors.put identifier, sound.put (reads.withStatus moment status) made⟩

/-- Files that mirror a store in memory answer a call as it does, and mirror it again then; a call
that goes through the lessons needs their order. -/
theorem perform_agrees (mirrors : Mirrors store tree) (sound : store.Sound known)
    (identifiers : ∀ lesson ∈ known, IsIdentifier lesson.id) {call : Call} (fits : call.Fits known)
    (ranked : call.operation.Ranks → MadeApart store.lessons) (minted : Nat) :
    ∃ after, Files.perform call.now minted tree call.operation =
        ((store.perform call.now call.operation).1, after, minted) ∧
      Mirrors (store.perform call.now call.operation).2 after ∧
      (store.perform call.now call.operation).2.Sound known := by
  obtain ⟨now, operation⟩ := call
  obtain ⟨identifier, moment, created, appended⟩ := fits
  simp only at *
  cases operation with
  | create lesson =>
      obtain ⟨listed, reads⟩ := created lesson rfl
      exact ⟨_, rfl, mirrors.put (identifier _ rfl), sound.put reads ⟨lesson, listed, rfl, rfl⟩⟩
  | find id =>
      have found := mirrors.find_eq sound (identifier id rfl) now minted
      exact ⟨tree, by simp [Files.perform, Files.answer, found, FileTree.applyAll, Memory.perform],
        mirrors, sound⟩
  | list limit =>
      obtain ⟨lessons, read, same⟩ := mirrors.lessons_eq sound now minted
      have newest := newestFirst_perm same.symm (ranked trivial) limit
      refine ⟨tree, ?_, mirrors, sound⟩
      simp [Files.perform, Files.answer, read, FileTree.applyAll, Memory.perform, newest,
        Except.bind]
  | claim id =>
      have found := mirrors.find_eq sound (identifier id rfl) now minted
      cases kept : store.find id with
      | none =>
          rw [kept] at found
          simp only [Files.perform, Files.answer, found, Memory.perform, kept]
          exact ⟨tree, rfl, mirrors, sound⟩
      | some lesson =>
          rw [kept] at found
          simp only [Files.perform, Files.answer, found, Memory.perform, kept]
          by_cases queued : (lesson.status == .queued) = true
          · simp only [queued, if_true]
            exact ⟨_, rfl, mirrors.changeStatus sound identifiers (List.mem_of_find?_eq_some kept)
              moment .generating⟩
          · simp only [queued, Bool.false_eq_true, if_false]
            exact ⟨tree, rfl, mirrors, sound⟩
  | claimNext =>
      obtain ⟨lessons, read, same⟩ := mirrors.lessons_eq sound now minted
      have next := oldestQueued_perm same.symm (ranked trivial)
      simp only [Files.perform, Files.answer, read, Except.bind, ← next, Memory.perform]
      cases waiting : oldestQueued store.lessons with
      | error failure => exact ⟨tree, rfl, mirrors, sound⟩
      | ok found =>
          cases found with
          | none => exact ⟨tree, rfl, mirrors, sound⟩
          | some lesson =>
              exact ⟨_, rfl, mirrors.changeStatus sound identifiers (oldestQueued_spec waiting).1
                moment .generating⟩
  | setStatus id status =>
      have found := mirrors.find_eq sound (identifier id rfl) now minted
      cases kept : store.find id with
      | none =>
          rw [kept] at found
          simp only [Files.perform, Files.answer, found, Memory.perform, kept]
          exact ⟨tree, rfl, mirrors, sound⟩
      | some lesson =>
          rw [kept] at found
          simp only [Files.perform, Files.answer, found, Memory.perform, kept]
          exact ⟨_, rfl, mirrors.changeStatus sound identifiers (List.mem_of_find?_eq_some kept)
            moment status⟩
  | addContent id source code digest =>
      have named : IsIdentifier id := identifier id rfl
      have held : tree.read? (Files.folder id ++ [Files.lessonFile]) =
          (store.find id).map Files.lessonText := by
        rw [named.folder_eq, mirrors.texts, List.singleton_append, Memory.text?, if_pos rfl]
      have latest := mirrors.latestVersion_eq sound named
      cases kept : store.find id with
      | none =>
          rw [kept, Option.map_none] at held
          simp only [Files.perform, Files.answer, held, Memory.perform, kept]
          exact ⟨tree, rfl, mirrors, sound⟩
      | some lesson =>
          rw [kept, Option.map_some] at held
          simp only [Files.perform, Files.answer, held, latest, Memory.perform, kept]
          exact ⟨_, rfl, mirrors.withContent sound named rfl, sound.withContent moment rfl⟩
  | latestContent id =>
      have latest := mirrors.latestContent_eq sound (identifier id rfl) now
      exact ⟨tree, by simp [Files.perform, Files.answer, latest, FileTree.applyAll, Memory.perform],
        mirrors, sound⟩
  | appendTrace trace =>
      have named : IsIdentifier trace.lessonId := identifier _ rfl
      have free : tree.hasFolder (Files.folder trace.lessonId ++ [Files.tracesFile]) = false := by
        rw [named.folder_eq]
        exact mirrors.hasFolder_tracesFile trace.lessonId
      simp only [Files.perform, Files.answer, free]
      exact ⟨_, rfl, mirrors.withTrace named, sound.withTrace (appended trace rfl)⟩
  | traces id =>
      have named : IsIdentifier id := identifier id rfl
      have free : tree.hasFolder (Files.folder id ++ [Files.tracesFile]) = false := by
        rw [named.folder_eq]
        exact mirrors.hasFolder_tracesFile id
      have traces := mirrors.traces_eq sound named now
      exact ⟨tree, by
        simp [Files.perform, Files.answer, free, traces, FileTree.applyAll, Memory.perform,
          Memory.tracesOf], mirrors, sound⟩

/-! ## All calls -/

theorem replies_agree (listing : Listing) (creatable : Creatable known) {calls : List Call}
    (fits : ∀ call ∈ calls, call.Fits known) (mirrors : Mirrors store tree)
    (sound : store.Sound known) (turn minted : Nat) :
    Files.replies listing turn minted tree calls = Memory.replies store calls := by
  induction calls generalizing store tree turn with
  | nil => rfl
  | cons call calls inductionHypothesis =>
      obtain ⟨first, fits⟩ := List.forall_mem_cons.mp fits
      have listed := mirrors.of_perm (listing.same turn tree)
      obtain ⟨after, performed, mirrors, sound⟩ := perform_agrees listed sound creatable.identifiers
        first (fun _ => sound.madeApart creatable) minted
      rw [Files.replies, Memory.replies, performed]
      exact congrArg _ (inductionHypothesis fits mirrors sound (turn + 1))

/-- Nothing is held at first. -/
theorem mirrors_empty : Mirrors {} {} where
  distinct := List.nodup_nil
  texts path := by
    unfold Memory.text?
    split <;> simp [FileTree.read?, Memory.find, Memory.tracesOf, Memory.contentsOf]

theorem sound_empty (known : List Lesson) : Memory.Sound known {} where
  distinct := List.nodup_nil
  lessons := List.forall_mem_nil _
  contents := List.forall_mem_nil _
  numbered _ := rfl
  traces := List.forall_mem_nil _

section Asked

variable {calls : List Call}

/-- What lessons are created by is what they are named by. -/
theorem identifiers_of_created
    (identifiers : ∀ call ∈ calls, ∀ id ∈ call.operation.id?, IsIdentifier id) :
    ∀ lesson ∈ calls.filterMap (·.operation.created?), IsIdentifier lesson.id := by
  intro lesson member
  obtain ⟨call, asked, creates⟩ := List.mem_filterMap.mp member
  refine identifiers call asked _ ?_
  obtain ⟨now, operation⟩ := call
  cases operation <;> cases creates
  rfl

/-- Calls that bring what is read back fit the lessons that they create. -/
theorem fits_of_calls (identifiers : ∀ call ∈ calls, ∀ id ∈ call.operation.id?, IsIdentifier id)
    (moments : ∀ call ∈ calls, call.now.ReadsBack)
    (lessons : ∀ lesson ∈ calls.filterMap (·.operation.created?), lesson.ReadsBack)
    (traces : ∀ trace ∈ calls.filterMap (·.operation.appended?), trace.ReadsBack) :
    ∀ call ∈ calls, call.Fits (calls.filterMap (·.operation.created?)) := by
  intro call asked
  refine ⟨identifiers call asked, moments call asked, fun lesson creates => ?_, fun trace adds => ?_⟩
  · have member : lesson ∈ calls.filterMap (·.operation.created?) :=
      List.mem_filterMap.mpr ⟨call, asked, creates⟩
    exact ⟨member, lessons lesson member⟩
  · exact traces trace (List.mem_filterMap.mpr ⟨call, asked, adds⟩)

end Asked

/-- A store of files and a store in memory that hold nothing at first answer all calls alike, with
the same values and the same failures, in whatever order the files are listed at each turn: as long
as lessons are named by identifiers and created at different moments, and what is written of
moments, lessons and traces is read back as it was. -/
theorem stores_agree (listing : Listing) (turn minted : Nat) (calls : List Call)
    (identifiers : ∀ call ∈ calls, ∀ id ∈ call.operation.id?, IsIdentifier id)
    (apart : ∀ one ∈ calls.filterMap (·.operation.created?),
      ∀ other ∈ calls.filterMap (·.operation.created?),
        one.id ≠ other.id → one.createdAt.Differs other.createdAt)
    (moments : ∀ call ∈ calls, call.now.ReadsBack)
    (lessons : ∀ lesson ∈ calls.filterMap (·.operation.created?), lesson.ReadsBack)
    (traces : ∀ trace ∈ calls.filterMap (·.operation.appended?), trace.ReadsBack) :
    Files.replies listing turn minted {} calls = Memory.replies {} calls := by
  have creatable : Creatable (calls.filterMap (·.operation.created?)) :=
    ⟨identifiers_of_created identifiers, apart⟩
  have fits := fits_of_calls identifiers moments lessons traces
  exact replies_agree listing creatable fits mirrors_empty (sound_empty _) turn minted

/-- So many seconds on the clock. -/
def seconds (count : Int) : Timestamp := ⟨count * 1000000, some 0⟩

/-- A lesson that waits in the queue since some moment. -/
def waitingSince (made : Timestamp) (id : String) : Lesson where
  id := id
  title := "Fractions"
  topic := "Adding fractions"
  createdAt := made
  updatedAt := made

/-- Files are listed the other way round at every turn. -/
def reversing : Listing where
  order _ tree := { files := tree.files.reverse }
  same _ tree := tree.files.reverse_perm

/-- The younger of two lessons is created first, is left waiting by a claim, and gets a version of
content and a trace. -/
def twoLessons : List Call :=
  let older := waitingSince (seconds 1) "00000000000000000000000000000001"
  let younger := waitingSince (seconds 2) "00000000000000000000000000000002"
  [⟨seconds 3, .create younger⟩, ⟨seconds 4, .create older⟩, ⟨seconds 5, .list 10⟩,
    ⟨seconds 6, .claimNext⟩, ⟨seconds 7, .addContent younger.id "source" "code" "digest"⟩,
    ⟨seconds 8, .latestContent younger.id⟩,
    ⟨seconds 9, .appendTrace ⟨younger.id, 1, none, none, none, [], [], none, seconds 9⟩⟩,
    ⟨seconds 10, .traces younger.id⟩,
    ⟨seconds 11, .setStatus "0000000000000000000000000000000F" .failed⟩]

theorem stores_agree_two_lessons :
    Files.replies reversing 0 0 {} twoLessons = Memory.replies {} twoLessons :=
  stores_agree reversing 0 0 twoLessons (by decide +kernel) (by decide +kernel) (by decide +kernel)
    (by decide +kernel) (by
      intro trace appended
      obtain rfl := List.mem_singleton.mp appended
      exact Trace.readsBack_of_withoutFloats (by decide +kernel) (.obj (List.forall_mem_nil _)) rfl
        (.obj (List.forall_mem_nil _)) rfl)

end Lectern.Store
