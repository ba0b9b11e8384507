/-
Module: Lectern.Proofs.Store.Queue
Purpose: The lessons that wait in a store of either kind, from the oldest on. The first of them is
  the one that is claimed next, and what is kept of one lesson changes nothing of any other.
Trusted boundary: none
Main exports: AnyStore.Finds, AnyStore.Same, AnyStore.InOrder, AnyStore.Queue, AnyStore.AltersOnly,
  AnyStore.undisturbed, AnyStore.finds_setStatus, AnyStore.Queue.claimNext_cons,
  AnyStore.exists_queue
-/
import Mathlib.Data.List.Dedup
import Mathlib.Data.Set.List
import Lectern.Proofs.Store.Holdings

namespace Lectern

open Store

variable {τ : Type}

/-! ## What one lesson leaves alone -/

namespace Store.Memory

/-- What is asked for one lesson leaves all others as they are, with their content and traces. -/
theorem perform_elsewhere (store : Memory) {id other : String} (apart : other ≠ id)
    (now : Timestamp) {β : Type} {operation : Operation β}
    (allowed : WritesOnly id (Request.store (τ := τ) operation)) :
    (store.perform now operation).2.find other = store.find other ∧
      (store.perform now operation).2.contentsOf other = store.contentsOf other ∧
      (store.perform now operation).2.tracesOf other = store.tracesOf other := by
  cases operation with
  | setStatus asked status =>
      cases (show asked = id from allowed)
      cases found : store.find id with
      | none => simp only [perform, found, and_self]
      | some lesson =>
          have elsewhere : other ≠ lesson.id := by rwa [id_of_find found]
          simp only [perform, found]
          exact ⟨(find_put store _ other).trans (if_neg elsewhere), rfl, rfl⟩
  | addContent asked source code digest =>
      cases (show asked = id from allowed)
      cases found : store.find id with
      | none => simp only [perform, found, and_self]
      | some lesson =>
          simp only [perform, found]
          refine ⟨rfl, ?_, rfl⟩
          exact (contentsOf_withContent store _ other).trans (by simp [Ne.symm apart])
  | appendTrace trace =>
      have own : trace.lessonId = id := allowed
      refine ⟨rfl, rfl, ?_⟩
      exact (tracesOf_withTrace store trace other).trans (by simp [own, Ne.symm apart])
  | _ => exact allowed.elim

end Store.Memory

namespace Store.Files

variable {tree : FileTree} {other : String} {path : FilePath}

theorem read?_putLesson_elsewhere {lesson : Lesson} (identifier : IsIdentifier lesson.id)
    (apart : other ≠ lesson.id) :
    (tree.applyAll (putLesson lesson)).read? (other :: path) = tree.read? (other :: path) := by
  rw [putLesson, FileTree.read?_replaceFile, identifier.folder_eq, if_neg (by simp [apart]),
    if_neg (by simp [apart])]

theorem read?_putContent_elsewhere {content : Content} (identifier : IsIdentifier content.lessonId)
    (apart : other ≠ content.lessonId) :
    (tree.applyAll (putContent content)).read? (other :: path) = tree.read? (other :: path) := by
  rw [putContent, FileTree.read?_replaceFile, contentFolder, identifier.folder_eq,
    if_neg (by simp [apart]), if_neg (by simp [apart])]

theorem read?_addTrace_elsewhere {trace : Trace} (identifier : IsIdentifier trace.lessonId)
    (apart : other ≠ trace.lessonId) :
    (tree.applyAll (addTrace trace)).read? (other :: path) = tree.read? (other :: path) := by
  rw [addTrace, FileTree.applyAll, List.foldl_cons, List.foldl_nil, FileTree.read?_append,
    identifier.folder_eq, if_neg (by simp [apart])]

/-- A lesson that is found under an identifier has it. -/
theorem Proper.id_of_find {sound : String → String → String → Prop} (proper : Proper sound tree)
    {now : Timestamp} {minted more : Nat} {id : String} (identifier : IsIdentifier id)
    {lesson : Lesson} (found : Files.find now minted tree id = (.ok (some lesson), more)) :
    lesson.id = id := by
  obtain ⟨_, own, _, place⟩ := proper.of_find found
  rw [identifier.folder_eq, own.folder_eq] at place
  exact (List.singleton_inj.mp place).symm

/-- What is asked for one lesson leaves the files of all others as they are. -/
theorem perform_elsewhere {sound : String → String → String → Prop} (proper : Proper sound tree)
    {id : String} (identifier : IsIdentifier id) (apart : other ≠ id) (now : Timestamp)
    (minted : Nat) {β : Type} {operation : Operation β}
    (allowed : WritesOnly id (Request.store (τ := τ) operation)) :
    (perform now minted tree operation).2.1.read? (other :: path) = tree.read? (other :: path) := by
  change (tree.applyAll (answer now minted tree operation).changes).read? _ = _
  cases operation with
  | setStatus asked status =>
      cases (show asked = id from allowed)
      unfold answer
      dsimp only
      split
      next => rfl
      next lesson more found =>
        have own := proper.id_of_find identifier found
        rw [← own] at identifier apart
        exact @read?_putLesson_elsewhere tree other path (withStatus now status lesson) identifier
          apart
      next => rfl
  | addContent asked source code digest =>
      cases (show asked = id from allowed)
      unfold answer
      dsimp only
      split
      next => rfl
      next => exact read?_putContent_elsewhere identifier apart
  | appendTrace trace =>
      have own : trace.lessonId = id := allowed
      rw [← own] at identifier apart
      unfold answer
      dsimp only
      split
      next => rfl
      next => exact read?_addTrace_elsewhere identifier apart
  | _ => exact allowed.elim

/-! ## Lessons that are kept in files -/

/-- The file of a lesson holds it, and it is read back. -/
structure Holds (tree : FileTree) (lesson : Lesson) : Prop where
  identifier : IsIdentifier lesson.id
  reads : lesson.ReadsBack
  held : tree.read? (folder lesson.id ++ [lessonFile]) = some (lessonText lesson)

/-- A lesson is told by what is written of it. -/
theorem eq_of_lessonText {one two : Lesson} (first : one.ReadsBack) (second : two.ReadsBack)
    (same : (lessonText one).toList = (lessonText two).toList) : one = two := by
  have read := Mirrors.readLesson_lessonText first (.after 0) 0
  rw [same, Mirrors.readLesson_lessonText second] at read
  cases read
  rfl

/-- A lesson is found if its file holds it. -/
theorem Proper.find_iff {sound : String → String → String → Prop} (proper : Proper sound tree)
    {now : Timestamp} {minted more : Nat} {lesson : Lesson} :
    Files.find now minted tree lesson.id = (.ok (some lesson), more) ↔
      Holds tree lesson ∧ more = minted := by
  constructor
  · intro found
    obtain ⟨some, identifier, reads, _⟩ := proper.of_find found
    obtain ⟨text, held⟩ := Option.isSome_iff_exists.mp some
    obtain ⟨kept, _, keptReads, _, rfl⟩ := proper.lessons _ _ held
    rw [find_of_held keptReads held] at found
    cases found
    exact ⟨⟨identifier, reads, held⟩, rfl⟩
  · rintro ⟨holds, rfl⟩
    exact find_of_held holds.reads holds.held now _

/-- Each text that is kept as a lesson is one of a lesson, and each lesson that a file holds is
there. -/
theorem Proper.mem_lessonTexts {sound : String → String → String → Prop}
    (proper : Proper sound tree) (text : List Char) :
    text ∈ lessonTexts tree ↔ ∃ lesson, Holds tree lesson ∧ (lessonText lesson).toList = text := by
  rw [lessonTexts, List.mem_filterMap]
  constructor
  · rintro ⟨⟨path, _⟩, _, kept⟩
    dsimp only at kept
    split at kept
    next directory name _ =>
      split at kept
      next named =>
        rw [eq_of_beq named] at kept
        obtain ⟨text, here, _⟩ := Option.map_eq_some_iff.mp kept
        obtain ⟨lesson, identifier, reads, place, rfl⟩ := proper.lessons [directory] text here
        rw [readText?_of_held here] at kept
        exact ⟨lesson, ⟨identifier, reads, place ▸ here⟩, Option.some.inj kept⟩
      next => cases kept
    next => cases kept
  · rintro ⟨lesson, holds, rfl⟩
    have held := holds.held
    rw [holds.identifier.folder_eq] at held
    obtain ⟨⟨path, written⟩, found, _⟩ := Option.map_eq_some_iff.mp held
    have here := List.find?_some found
    obtain rfl : path = [lesson.id, lessonFile] := eq_of_beq here
    refine ⟨_, List.mem_of_find?_eq_some found, ?_⟩
    dsimp only
    rw [beq_self_eq_true, if_pos rfl]
    exact readText?_of_held held

/-- All lessons that files hold are read at any time. -/
theorem Proper.lessons_eq {sound : String → String → String → Prop} (proper : Proper sound tree) :
    ∃ lessons, (∀ now minted, Files.lessons now minted tree = (.ok lessons, minted)) ∧
      ∀ lesson, lesson ∈ lessons ↔ Holds tree lesson := by
  let text (lesson : { lesson // Holds tree lesson }) : List Char :=
    (lessonText lesson.val).toList
  obtain ⟨kept, all⟩ : lessonTexts tree ∈ Set.range (List.map text) := by
    rw [Set.range_list_map]
    intro characters member
    obtain ⟨lesson, holds, same⟩ := (proper.mem_lessonTexts characters).mp member
    exact ⟨⟨lesson, holds⟩, same⟩
  have texts : lessonTexts tree =
      (kept.map (·.val)).map fun lesson => (lessonText lesson).toList := by
    rw [← all, List.map_map]
    rfl
  have held : ∀ lesson ∈ kept.map (·.val), Holds tree lesson := by
    intro lesson member
    obtain ⟨⟨_, holds⟩, _, rfl⟩ := List.mem_map.mp member
    exact holds
  refine ⟨kept.map (·.val), ?_, fun lesson => ⟨held lesson, ?_⟩⟩
  · intro now minted
    rw [Files.lessons, texts]
    apply Mirrors.readLessons_lessonTexts
    intro lesson member
    exact (held lesson member).reads
  · intro holds
    have member := (proper.mem_lessonTexts _).mpr ⟨lesson, holds, rfl⟩
    rw [texts] at member
    obtain ⟨other, inside, same⟩ := List.mem_map.mp member
    rwa [← eq_of_lessonText (held other inside).reads holds.reads same]

end Store.Files

/-! ## Stores of either kind -/

namespace AnyStore

/-- A lesson is there: whenever it is asked for, it is found. -/
def Finds (store : AnyStore) (lesson : Lesson) : Prop :=
  ∀ now, (store.perform now (.find lesson.id)).1 = .ok (some lesson)

/-- What is kept of one lesson is the same in two stores: the lesson itself, all versions of its
content and all its traces. -/
def Same (id : String) : AnyStore → AnyStore → Prop
  | .memory before, .memory after =>
    after.find id = before.find id ∧ after.contentsOf id = before.contentsOf id ∧
      after.tracesOf id = before.tracesOf id
  | .files before, .files after =>
    ∀ path, after.read? (Files.folder id ++ path) = before.read? (Files.folder id ++ path)
  | _, _ => False

/-- What a store may hold: in memory each lesson once, and in files what is read back as lessons
with identifiers and as content. -/
def InOrder : AnyStore → Prop
  | .memory store => Memory.ledger.inOrder store
  | .files tree => Files.Proper (fun _ _ _ => True) tree

/-- What lessons may be called: in memory anything, and in files by an identifier. -/
def Admits : AnyStore → String → Prop
  | .memory _, _ => True
  | .files _, id => IsIdentifier id

/-- The lessons that wait in a store, each of which was made before all that come behind it. There
is such a list where of each two of them one was made before the other, by
`AnyStore.exists_queue`. -/
structure Queue (store : AnyStore) (queue : List Lesson) : Prop where
  waits : ∀ lesson, lesson ∈ queue ↔ store.Finds lesson ∧ lesson.status = .queued
  oldestFirst : queue.Pairwise fun one other => one.createdAt.Precedes other.createdAt

/-- What is kept of all lessons is the same behind a change, but of the one with an identifier. -/
structure AltersOnly (id : String) (before after : AnyStore) : Prop where
  inOrder : after.InOrder
  admits : after.Admits = before.Admits
  others : ∀ other, before.Admits other → other ≠ id → before.Same other after

variable {store before after last : AnyStore} {id : String} {one other lesson : Lesson}
  {memory : Memory} {tree : FileTree} {β : Type} {operation : Operation β}
  {answer : Except Failure β}

/-! ### Lessons that are found -/

theorem finds_memory : (AnyStore.memory memory).Finds lesson ↔
    memory.find lesson.id = some lesson := by
  constructor
  · intro finds
    exact Except.ok.inj (finds (.after 0))
  · intro found now
    exact congrArg Except.ok found

theorem finds_files (ordered : (AnyStore.files tree).InOrder) :
    (AnyStore.files tree).Finds lesson ↔ Files.Holds tree lesson := by
  have proper : Files.Proper (fun _ _ _ => True) tree := ordered
  constructor
  · intro finds
    have found : Files.find (.after 0) 0 tree lesson.id = (.ok (some lesson), _) :=
      Prod.ext (finds (.after 0)) rfl
    exact (proper.find_iff.mp found).1
  · intro holds now
    exact congrArg Prod.fst (proper.find_iff.mpr ⟨holds, rfl⟩)

/-- The lessons that a store in memory holds are found, and no others. -/
theorem mem_lessons (ordered : (AnyStore.memory memory).InOrder) :
    lesson ∈ memory.lessons ↔ (AnyStore.memory memory).Finds lesson :=
  Iff.trans ⟨Memory.find_of_mem ordered, List.mem_of_find?_eq_some⟩ finds_memory.symm

/-- The lessons that files hold are read at any time, and no others are found. -/
theorem lessons_files (ordered : (AnyStore.files tree).InOrder) :
    ∃ lessons, (∀ now minted, Files.lessons now minted tree = (.ok lessons, minted)) ∧
      ∀ lesson, lesson ∈ lessons ↔ (AnyStore.files tree).Finds lesson := by
  obtain ⟨lessons, read, listed⟩ := Files.Proper.lessons_eq ordered
  exact ⟨lessons, read, fun lesson => (listed lesson).trans (finds_files ordered).symm⟩

/-- There is one lesson with an identifier. -/
theorem Finds.eq_of_id (first : store.Finds one) (second : store.Finds other)
    (same : one.id = other.id) : one = other := by
  have found := first (.after 0)
  rw [same, second (.after 0)] at found
  cases found
  rfl

/-- Lessons that are found are called what the store admits. -/
theorem Finds.admits (ordered : store.InOrder) (finds : store.Finds lesson) :
    store.Admits lesson.id := by
  cases store with
  | memory memory => trivial
  | files tree => exact ((finds_files ordered).mp finds).identifier

/-- The lessons of a store can be listed. -/
theorem exists_listing (ordered : store.InOrder) :
    ∃ lessons : List Lesson, ∀ lesson, lesson ∈ lessons ↔ store.Finds lesson := by
  cases store with
  | memory memory => exact ⟨memory.lessons, fun _ => mem_lessons ordered⟩
  | files tree =>
      obtain ⟨lessons, _, listed⟩ := lessons_files ordered
      exact ⟨lessons, listed⟩

/-! ### Changes -/

theorem Same.refl (id : String) (store : AnyStore) : store.Same id store := by
  cases store with
  | memory memory => exact ⟨rfl, rfl, rfl⟩
  | files tree => exact fun _ => rfl

theorem Same.trans (first : before.Same id after) (second : after.Same id last) :
    before.Same id last := by
  cases before with
  | memory =>
      cases after with
      | memory =>
          cases last with
          | memory =>
              exact ⟨second.1.trans first.1, second.2.1.trans first.2.1,
                second.2.2.trans first.2.2⟩
          | files => exact second.elim
      | files => exact first.elim
  | files =>
      cases after with
      | memory => exact first.elim
      | files =>
          cases last with
          | memory => exact second.elim
          | files => exact fun path => (second path).trans (first path)

/-- A lesson is found as long as what is kept of it is the same. -/
theorem Same.finds_iff (same : before.Same lesson.id after) :
    after.Finds lesson ↔ before.Finds lesson := by
  cases before with
  | memory =>
      cases after with
      | memory => rw [finds_memory, finds_memory, same.1]
      | files => exact same.elim
  | files kept =>
      cases after with
      | memory => exact same.elim
      | files tree =>
          have found (now : Timestamp) :
              Files.find now 0 tree lesson.id = Files.find now 0 kept lesson.id := by
            rw [Files.find, Files.readText?, same, Files.find, Files.readText?]
          apply forall_congr'
          intro now
          change (Files.find now 0 tree lesson.id).1 = _ ↔ (Files.find now 0 kept lesson.id).1 = _
          rw [found]

theorem AltersOnly.refl (ordered : store.InOrder) (id : String) : store.AltersOnly id store :=
  ⟨ordered, rfl, fun other _ _ => .refl other store⟩

theorem AltersOnly.trans (first : before.AltersOnly id after) (second : after.AltersOnly id last) :
    before.AltersOnly id last where
  inOrder := second.inOrder
  admits := second.admits.trans first.admits
  others other admitted apart := by
    apply (first.others other admitted apart).trans
    exact second.others other (first.admits ▸ admitted) apart

/-- Lessons with other identifiers are found as before. -/
theorem AltersOnly.finds_iff (alters : before.AltersOnly id after) (ordered : before.InOrder)
    (apart : lesson.id ≠ id) : after.Finds lesson ↔ before.Finds lesson := by
  constructor
  · intro finds
    have admitted := finds.admits alters.inOrder
    rw [alters.admits] at admitted
    exact (alters.others lesson.id admitted apart).finds_iff.mp finds
  · intro finds
    exact (alters.others lesson.id (finds.admits ordered) apart).finds_iff.mpr finds

theorem altersOnly_put (ordered : (AnyStore.memory memory).InOrder) (lesson : Lesson) :
    (AnyStore.memory memory).AltersOnly lesson.id (.memory (memory.put lesson)) where
  inOrder := Keyed.nodup_put Lesson.id lesson memory.lessons ordered
  admits := rfl
  others other _ apart := ⟨(Memory.find_put memory lesson other).trans (if_neg apart), rfl, rfl⟩

theorem altersOnly_putLesson (ordered : (AnyStore.files tree).InOrder)
    (identifier : IsIdentifier lesson.id) (reads : lesson.ReadsBack) :
    (AnyStore.files tree).AltersOnly lesson.id (.files (tree.applyAll (Files.putLesson lesson)))
    where
  inOrder := Files.Proper.putLesson ordered identifier reads
  admits := rfl
  others other admitted apart path := by
    rw [IsIdentifier.folder_eq admitted]
    exact Files.read?_putLesson_elsewhere identifier apart

/-! ### What is asked of a store -/

theorem timely_memory (permitted : timely.permits (.memory memory) operation answer after) :
    ∃ now, answer = (memory.perform now operation).1 ∧
      after = .memory (memory.perform now operation).2 := by
  obtain ⟨rehearsal, there, _, rfl, rfl⟩ := permitted
  rw [Rehearsal.askStore_memory there]
  exact ⟨rehearsal.now, rfl, rfl⟩

theorem timely_files (permitted : timely.permits (.files tree) operation answer after) :
    ∃ now minted, now.ReadsBack ∧ answer = (Files.perform now minted tree operation).1 ∧
      after = .files (Files.perform now minted tree operation).2.1 := by
  obtain ⟨rehearsal, there, moment, rfl, rfl⟩ := permitted
  rw [Rehearsal.askStore_files there]
  exact ⟨rehearsal.now, rehearsal.minted, moment, rfl, rfl⟩

/-- What is asked for one lesson alters nothing else. -/
theorem undisturbed (ordered : before.InOrder) (admitted : before.Admits id)
    (allowed : WritesOnly id (Request.store (τ := τ) operation))
    (permitted : timely.permits before operation answer after) : before.AltersOnly id after := by
  cases before with
  | memory memory =>
      obtain ⟨now, _, rfl⟩ := timely_memory permitted
      refine ⟨Memory.inOrder_perform ordered now operation, rfl, ?_⟩
      intro other _ apart
      exact memory.perform_elsewhere apart now allowed
  | files tree =>
      have proper : (AnyStore.files tree).Proper fun _ _ _ => True := ordered
      have fit : operation.Proper fun _ _ _ => True := by
        cases operation with
        | create lesson => exact allowed.elim
        | _ => trivial
      have stays := proper_step proper fit permitted
      obtain ⟨now, minted, _, _, rfl⟩ := timely_files permitted
      refine ⟨stays, rfl, ?_⟩
      intro other otherAdmitted apart path
      rw [IsIdentifier.folder_eq otherAdmitted]
      exact Files.perform_elsewhere proper admitted apart now minted allowed

/-- A lesson that was given a status is found with it. -/
theorem finds_setStatus {status : Status} {kept : Lesson} (ordered : before.InOrder)
    (admitted : before.Admits id)
    (permitted : timely.permits before (.setStatus id status) (.ok kept) after) :
    after.Finds kept ∧ kept.id = id ∧ kept.status = status := by
  cases before with
  | memory memory =>
      obtain ⟨now, answered, rfl⟩ := timely_memory permitted
      cases found : memory.find id with
      | none => simp [Memory.perform, found] at answered
      | some lesson =>
          simp only [Memory.perform, found] at answered ⊢
          cases answered
          have own := Memory.id_of_find found
          refine ⟨?_, own, rfl⟩
          apply finds_memory.mpr
          exact (Memory.find_put memory _ _).trans (if_pos rfl)
  | files tree =>
      have proper : Files.Proper (fun _ _ _ => True) tree := ordered
      obtain ⟨now, minted, moment, answered, rfl⟩ := timely_files permitted
      cases found : Files.find now minted tree id with
      | mk result more =>
          cases result with
          | error failure => simp [Files.perform, Files.answer, found] at answered
          | ok held =>
              cases held with
              | none => simp [Files.perform, Files.answer, found] at answered
              | some lesson =>
                  simp only [Files.perform, Files.answer, found] at answered ⊢
                  cases answered
                  obtain ⟨_, identifier, reads, _⟩ := proper.of_find found
                  have reads := reads.withStatus moment status
                  have own := proper.id_of_find admitted found
                  refine ⟨?_, own, rfl⟩
                  intro later
                  have held := Files.read?_lessonFile_putLesson tree
                    (withStatus now status lesson) (Files.folder lesson.id)
                  rw [id_withStatus, if_pos rfl] at held
                  exact congrArg Prod.fst (Files.find_of_held reads held later 0)

/-- The lesson that is claimed is the oldest of those that wait, if any does. -/
private theorem claimNext_listed {answer : Except Failure (Option Lesson)}
    (ordered : before.InOrder) (permitted : timely.permits before .claimNext answer after) :
    ∃ lessons, (∀ lesson, lesson ∈ lessons ↔ before.Finds lesson) ∧
      (oldestQueued lessons = .ok none → answer = .ok none ∧ after = before) ∧
      ∀ oldest, oldestQueued lessons = .ok (some oldest) →
        ∃ claimed, answer = .ok (some claimed) ∧ claimed.id = oldest.id ∧
          before.AltersOnly oldest.id after := by
  cases before with
  | memory memory =>
      obtain ⟨now, rfl, rfl⟩ := timely_memory permitted
      refine ⟨memory.lessons, fun _ => mem_lessons ordered, ?_, ?_⟩
      · intro none
        simp only [Memory.perform, none, and_self]
      · intro oldest next
        simp only [Memory.perform, next]
        exact ⟨_, rfl, rfl, altersOnly_put ordered (withStatus now .generating oldest)⟩
  | files tree =>
      obtain ⟨now, minted, moment, rfl, rfl⟩ := timely_files permitted
      obtain ⟨lessons, read, listed⟩ := lessons_files ordered
      refine ⟨lessons, listed, ?_, ?_⟩
      · intro none
        simp only [Files.perform, Files.answer, read, Except.bind, none, FileTree.applyAll,
          List.foldl_nil, and_self]
      · intro oldest next
        have finds := (listed oldest).mp (oldestQueued_spec next).1
        obtain ⟨identifier, reads, _⟩ := (finds_files ordered).mp finds
        simp only [Files.perform, Files.answer, read, Except.bind, next, Files.changeStatus]
        refine ⟨_, rfl, rfl, ?_⟩
        exact @altersOnly_putLesson (withStatus now .generating oldest) tree ordered identifier
          (reads.withStatus moment .generating)

/-! ### The queue -/

namespace Queue

variable {answer : Except Failure (Option Lesson)} {oldest : Lesson} {queue rest : List Lesson}

/-- No lesson is claimed if none waits. -/
theorem claimNext_nil (queue : before.Queue []) (ordered : before.InOrder)
    (permitted : timely.permits before .claimNext answer after) :
    answer = .ok none ∧ after = before := by
  obtain ⟨lessons, listed, none, _⟩ := claimNext_listed ordered permitted
  apply none
  apply oldestQueued_of_listed _ queue.oldestFirst
  intro lesson
  rw [queue.waits, listed]

/-- The oldest of the lessons that wait is claimed, and nothing else is altered. -/
theorem claimNext_cons (queue : before.Queue (oldest :: rest)) (ordered : before.InOrder)
    (permitted : timely.permits before .claimNext answer after) :
    ∃ claimed, answer = .ok (some claimed) ∧ claimed.id = oldest.id ∧
      before.AltersOnly oldest.id after := by
  obtain ⟨lessons, listed, _, next⟩ := claimNext_listed ordered permitted
  apply next
  apply oldestQueued_of_listed _ queue.oldestFirst
  intro lesson
  rw [queue.waits, listed]

/-- Lessons that wait are told apart by their identifiers. -/
theorem id_ne (queue : store.Queue (oldest :: rest)) (later : lesson ∈ rest) :
    lesson.id ≠ oldest.id := by
  intro same
  have first := ((queue.waits oldest).mp List.mem_cons_self).1
  have second := ((queue.waits lesson).mp (List.mem_cons_of_mem _ later)).1
  have before := (List.rel_of_pairwise_cons queue.oldestFirst later).1
  rw [second.eq_of_id first same] at before
  exact absurd before (Int.lt_irrefl _)

/-- Once the oldest lesson has come to wait no more, the others wait as they did. -/
theorem tail (queue : before.Queue (oldest :: rest)) (ordered : before.InOrder)
    (alters : before.AltersOnly oldest.id after) {kept : Lesson} (finds : after.Finds kept)
    (own : kept.id = oldest.id) (done : kept.status ≠ .queued) : after.Queue rest where
  waits lesson := by
    constructor
    · intro later
      obtain ⟨found, queued⟩ := (queue.waits lesson).mp (List.mem_cons_of_mem _ later)
      exact ⟨(alters.finds_iff ordered (queue.id_ne later)).mpr found, queued⟩
    · rintro ⟨found, queued⟩
      have apart : lesson.id ≠ oldest.id := by
        intro same
        apply done
        rw [finds.eq_of_id found (own.trans same.symm)]
        exact queued
      have waited := (alters.finds_iff ordered apart).mp found
      rcases List.mem_cons.mp ((queue.waits lesson).mpr ⟨waited, queued⟩) with rfl | later
      · exact absurd rfl apart
      · exact later
  oldestFirst := queue.oldestFirst.of_cons

end Queue

open Classical in
/-- The lessons that wait in a store can be listed from the oldest on, if of each two of them one
was made before the other. -/
theorem exists_queue (ordered : store.InOrder)
    (apart : ∀ one other, store.Finds one → one.status = .queued → store.Finds other →
      other.status = .queued → one ≠ other →
      one.createdAt.Precedes other.createdAt ∨ other.createdAt.Precedes one.createdAt) :
    ∃ queue, store.Queue queue := by
  obtain ⟨lessons, listed⟩ := exists_listing ordered
  let waiting := (lessons.filter (·.status == .queued)).dedup
  let earlier (one other : Lesson) : Bool := one.createdAt.micros ≤ other.createdAt.micros
  have mem_sorted (lesson : Lesson) : lesson ∈ waiting.mergeSort earlier ↔
      store.Finds lesson ∧ lesson.status = .queued := by
    rw [List.mem_mergeSort, List.mem_dedup, List.mem_filter, beq_iff_eq, listed]
  have distinct : (waiting.mergeSort earlier).Nodup :=
    (List.mergeSort_perm waiting earlier).nodup_iff.mpr (List.nodup_dedup _)
  have sorted : (waiting.mergeSort earlier).Pairwise fun one other => earlier one other = true := by
    apply List.pairwise_mergeSort
    · intro one two three first second
      have := of_decide_eq_true first
      have := of_decide_eq_true second
      exact decide_eq_true (by omega)
    · intro one two
      simp only [earlier, Bool.or_eq_true, decide_eq_true_eq]
      omega
  refine ⟨waiting.mergeSort earlier, mem_sorted, ?_⟩
  apply (distinct.and sorted).imp_of_mem
  rintro one other first second ⟨different, before⟩
  obtain ⟨found, queued⟩ := (mem_sorted one).mp first
  obtain ⟨otherFound, otherQueued⟩ := (mem_sorted other).mp second
  rcases apart one other found queued otherFound otherQueued different with precedes | later
  · exact precedes
  · have := of_decide_eq_true before
    have := later.1
    omega

end AnyStore

end Lectern
