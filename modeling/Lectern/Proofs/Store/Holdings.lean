/-
Module: Lectern.Proofs.Store.Holdings
Purpose: What a store of either kind holds if it was asked to keep nothing but lessons that are read
  back and content of some kind, and what becomes of the newest content of a lesson: it is answered
  until another version is kept.
Trusted boundary: none
Main exports: AnyStore.timely, Operation.Proper, AnyStore.Proper, AnyStore.proper_step,
  AnyStore.Shows, AnyStore.Shows.step, AnyStore.Shows.latestContent
-/
import Lectern.Proofs.Store.Mirror

namespace Lectern

open Store

/-- How stores of either kind behave, at moments that a date can hold. -/
def AnyStore.timely : Conduct AnyStore where
  permits before _ operation answer after :=
    ∃ rehearsal : Rehearsal, rehearsal.store = before ∧ rehearsal.now.ReadsBack ∧
      (rehearsal.askStore operation).1 = answer ∧ (rehearsal.askStore operation).2.store = after

/-- Lessons that are to be kept have identifiers and are read back, and content is of some kind. -/
def Store.Operation.Proper {β : Type} (sound : String → String → String → Prop) :
    Operation β → Prop
  | .create lesson => IsIdentifier lesson.id ∧ lesson.ReadsBack
  | .addContent _ source code digest => sound source code digest
  | _ => True

variable {sound : String → String → String → Prop}

/-! ## What files hold -/

namespace Store.Files

/-- Each file that is kept as a lesson is holds one with an identifier, in its folder, and each file
that is kept as content is holds a version of it. All of it is read back. -/
structure Proper (sound : String → String → String → Prop) (tree : FileTree) : Prop where
  lessons : ∀ place text, tree.read? (place ++ [lessonFile]) = some text →
    ∃ lesson, IsIdentifier lesson.id ∧ lesson.ReadsBack ∧ place = folder lesson.id ∧
      text = lessonText lesson
  contents : ∀ path text, isVersion path = true → tree.read? path = some text →
    ∃ content : Content, sound content.sourceText content.moduleText content.sourceHash ∧
      content.createdAt.ReadsBack ∧ 1 ≤ content.version ∧ path = contentPath content ∧
      text = contentText content

/-- Keeping a lesson leaves the files of all others as they are. -/
theorem read?_lessonFile_putLesson (tree : FileTree) (lesson : Lesson) (place : FilePath) :
    (tree.applyAll (putLesson lesson)).read? (place ++ [lessonFile]) =
      if place = folder lesson.id then some (lessonText lesson)
      else tree.read? (place ++ [lessonFile]) := by
  have apart : place ++ [lessonFile] ≠ folder lesson.id ++ [lessonFile ++ ".tmp"] := by
    intro same
    have names := List.append_inj_right' same rfl
    exact absurd names (by decide)
  rw [putLesson, FileTree.read?_replaceFile, if_neg apart]
  simp [lessonText]

/-- Keeping content leaves the files of lessons as they are. -/
theorem read?_lessonFile_putContent (tree : FileTree) (content : Content) (place : FilePath) :
    (tree.applyAll (putContent content)).read? (place ++ [lessonFile]) =
      tree.read? (place ++ [lessonFile]) := by
  have apart (ending : String) : place ++ [lessonFile] ≠
      contentFolder content.lessonId ++ [versionFile content.version ++ ending] := by
    intro same
    have names := List.singleton_inj.mp (List.append_inj_right' same rfl)
    have first := congrArg (fun name => name.toList.head?) names
    simp [versionFile, lessonFile] at first
  have named := apart ""
  rw [String.append_empty] at named
  rw [putContent, FileTree.read?_replaceFile, if_neg named, if_neg (apart ".tmp")]

variable {tree : FileTree}

/-- What is written of a lesson is read as it is. -/
theorem readText?_of_held {path : FilePath} {lesson : Lesson}
    (held : tree.read? path = some (lessonText lesson)) :
    readText? tree path = some (lessonText lesson).toList := by
  rw [readText?, held]
  exact congrArg some (Text.withPlainLineEnds_of_not_mem (Json.not_mem_pretty _))

/-- A lesson that is read back is found at any time in the folder that holds it. -/
theorem find_of_held {lesson : Lesson} (reads : lesson.ReadsBack) {id : String}
    (held : tree.read? (folder id ++ [lessonFile]) = some (lessonText lesson)) (now : Timestamp)
    (minted : Nat) : Files.find now minted tree id = (.ok (some lesson), minted) := by
  simp only [Files.find, readText?_of_held held, Mirrors.readLesson_lessonText reads, Except.map]

theorem proper_empty : Proper sound {} := ⟨nofun, nofun⟩

namespace Proper

theorem putLesson (proper : Proper sound tree) {lesson : Lesson} (identifier : IsIdentifier lesson.id)
    (reads : lesson.ReadsBack) : Proper sound (tree.applyAll (putLesson lesson)) where
  lessons place text held := by
    rw [read?_lessonFile_putLesson] at held
    split at held
    next here => exact ⟨lesson, identifier, reads, here, (Option.some.inj held).symm⟩
    next => exact proper.lessons place text held
  contents path text version held := by
    rw [read?_putLesson tree lesson version] at held
    exact proper.contents path text version held

theorem addTrace (proper : Proper sound tree) (trace : Trace) :
    Proper sound (tree.applyAll (addTrace trace)) where
  lessons place text held := by
    rw [read?_lessonFile_addTrace] at held
    exact proper.lessons place text held
  contents path text version held := by
    rw [read?_addTrace tree trace version] at held
    exact proper.contents path text version held

theorem putContent (proper : Proper sound tree) {content : Content}
    (kind : sound content.sourceText content.moduleText content.sourceHash)
    (moment : content.createdAt.ReadsBack) (counted : 1 ≤ content.version) :
    Proper sound (tree.applyAll (putContent content)) where
  lessons place text held := by
    rw [read?_lessonFile_putContent] at held
    exact proper.lessons place text held
  contents path text version held := by
    rw [read?_putContent tree content version] at held
    split at held
    next here => exact ⟨content, kind, moment, counted, here, (Option.some.inj held).symm⟩
    next => exact proper.contents path text version held

/-- The lesson in a folder is read at any time. -/
theorem find (proper : Proper sound tree) {id text : String}
    (held : tree.read? (folder id ++ [lessonFile]) = some text) :
    ∃ lesson, IsIdentifier lesson.id ∧ lesson.ReadsBack ∧ folder id = folder lesson.id ∧
      ∀ now minted, Files.find now minted tree id = (.ok (some lesson), minted) := by
  obtain ⟨lesson, identifier, reads, place, rfl⟩ := proper.lessons _ _ held
  exact ⟨lesson, identifier, reads, place, find_of_held reads held⟩

/-- A lesson that is found has an identifier and is read back. -/
theorem of_find (proper : Proper sound tree) {now : Timestamp} {minted more : Nat} {id : String}
    {lesson : Lesson} (answered : Files.find now minted tree id = (.ok (some lesson), more)) :
    (tree.read? (folder id ++ [lessonFile])).isSome = true ∧ IsIdentifier lesson.id ∧
      lesson.ReadsBack ∧ folder id = folder lesson.id := by
  cases held : tree.read? (folder id ++ [lessonFile]) with
  | none => simp [Files.find, readText?, held] at answered
  | some text =>
      obtain ⟨kept, identifier, reads, place, found⟩ := proper.find held
      rw [found] at answered
      cases answered
      exact ⟨rfl, identifier, reads, place⟩

/-- All lessons of a store have identifiers and are read back. -/
theorem of_lessons (proper : Proper sound tree) {now : Timestamp} {minted more : Nat}
    {read : List Lesson} (answered : Files.lessons now minted tree = (.ok read, more))
    {lesson : Lesson} (member : lesson ∈ read) : IsIdentifier lesson.id ∧ lesson.ReadsBack := by
  obtain ⟨directory, characters, before, behind, kept, one⟩ := readText?_of_lessons answered member
  obtain ⟨text, present, _⟩ := Option.map_eq_some_iff.mp kept
  obtain ⟨other, identifier, reads, _, rfl⟩ := proper.lessons _ _ present
  rw [readText?_of_held present] at kept
  rw [← Option.some.inj kept, Mirrors.readLesson_lessonText reads] at one
  cases one
  exact ⟨identifier, reads⟩

end Proper

/-- What an operation changes if it is a proper one, and so is what the files hold: nothing, a lesson
that is read back, a trace, or content that is kept as the next version. -/
theorem changes_proper (proper : Proper sound tree) {now : Timestamp} (moment : now.ReadsBack)
    (minted : Nat) {β : Type} {operation : Operation β} (fit : operation.Proper sound) :
    (answer now minted tree operation).changes = [] ∨
      (∃ lesson, IsIdentifier lesson.id ∧ lesson.ReadsBack ∧
        (answer now minted tree operation).changes = putLesson lesson) ∨
      (∃ trace, (answer now minted tree operation).changes = addTrace trace) ∨
      ∃ content, sound content.sourceText content.moduleText content.sourceHash ∧
        content.createdAt.ReadsBack ∧ content.version = latestVersion tree content.lessonId + 1 ∧
        operation.kept? (answer now minted tree operation).result = some content.lessonId ∧
        (answer now minted tree operation).changes = putContent content := by
  cases operation with
  | create lesson => exact Or.inr (Or.inl ⟨lesson, fit.1, fit.2, rfl⟩)
  | find id => exact Or.inl rfl
  | list limit => exact Or.inl rfl
  | claim id =>
      unfold answer
      dsimp only
      split
      next => exact Or.inl rfl
      next lesson more found =>
        obtain ⟨_, identifier, reads, _⟩ := proper.of_find found
        split
        · exact Or.inr (Or.inl ⟨withStatus now .generating lesson, identifier,
            reads.withStatus moment .generating, rfl⟩)
        · exact Or.inl rfl
      next => exact Or.inl rfl
  | claimNext =>
      unfold answer
      dsimp only
      split
      next => exact Or.inl rfl
      next => exact Or.inl rfl
      next lesson oldest =>
        cases all : lessons now minted tree with
        | mk result more =>
            rw [all] at oldest
            cases result with
            | error failure => cases oldest
            | ok read =>
                obtain ⟨identifier, reads⟩ := proper.of_lessons all (oldestQueued_spec oldest).1
                exact Or.inr (Or.inl ⟨withStatus now .generating lesson, identifier,
                  reads.withStatus moment .generating, rfl⟩)
  | setStatus id status =>
      unfold answer
      dsimp only
      split
      next => exact Or.inl rfl
      next lesson more found =>
        obtain ⟨_, identifier, reads, _⟩ := proper.of_find found
        exact Or.inr (Or.inl ⟨withStatus now status lesson, identifier,
          reads.withStatus moment status, rfl⟩)
      next => exact Or.inl rfl
  | addContent id source code digest =>
      unfold answer
      dsimp only
      split
      next => exact Or.inl rfl
      next =>
        let content : Content := ⟨id, latestVersion tree id + 1, source, code, digest, now⟩
        exact Or.inr (Or.inr (Or.inr ⟨content, fit, moment, rfl, rfl, rfl⟩))
  | latestContent id => exact Or.inl rfl
  | appendTrace trace =>
      dsimp only [answer]
      split
      · exact Or.inl rfl
      · exact Or.inr (Or.inr (Or.inl ⟨trace, rfl⟩))
  | traces id =>
      dsimp only [answer]
      split
      · exact Or.inl rfl
      · exact Or.inl rfl

/-! ### The newest version of content -/

/-- The text of the file that holds the newest version of the content of a lesson. -/
def newestText? (tree : FileTree) (id : String) : Option String :=
  ((versions tree id).find? (·.1 == latestVersion tree id)).bind fun (_, path) => tree.read? path

theorem isVersion_of_mem_versions {id : String} {entry : Nat × FilePath}
    (member : entry ∈ versions tree id) :
    isVersion entry.2 = true ∧ entry.2.dropLast = contentFolder id := by
  obtain ⟨⟨path, _⟩, _, kept⟩ := List.mem_filterMap.mp member
  simp only at kept
  split at kept
  next name last =>
    split at kept
    next inside =>
      obtain ⟨version, named, rfl⟩ := Option.map_eq_some_iff.mp kept
      exact ⟨by simp [isVersion, last, named], eq_of_beq inside⟩
    next => cases kept
  next => cases kept

/-- The newest version is what it was where the versions of the lesson are and hold what they did. -/
theorem newestText?_congr {other : FileTree} {id : String}
    (listed : versions other id = versions tree id)
    (same : ∀ entry ∈ versions tree id, other.read? entry.2 = tree.read? entry.2) :
    newestText? other id = newestText? tree id := by
  have latest : latestVersion other id = latestVersion tree id := by
    rw [latestVersion, latestVersion, listed]
  rw [newestText?, newestText?, listed, latest]
  cases found : (versions tree id).find? (·.1 == latestVersion tree id) with
  | none => rfl
  | some entry => exact same entry (List.mem_of_find?_eq_some found)

/-- A version of content that is read back is answered at any time while it is the newest. -/
theorem latestContent_of_newestText? {id : String} {content : Content}
    (moment : content.createdAt.ReadsBack) (counted : 1 ≤ content.version)
    (newest : newestText? tree id = some (contentText content)) (now : Timestamp) :
    latestContent now tree id = .ok (some content) := by
  obtain ⟨⟨version, path⟩, found, held⟩ := Option.bind_eq_some_iff.mp newest
  change tree.read? path = some (contentText content) at held
  have text : readText? tree path = some (contentText content).toList := by
    rw [readText?, held]
    exact congrArg some (Text.withPlainLineEnds_of_not_mem (Json.not_mem_pretty _))
  unfold latestContent
  dsimp only
  rw [found, Option.bind_some]
  simp only [text, Mirrors.readJson_contentText, Content.read_toJson moment counted now, check, bind,
    Except.bind, pure, Except.pure]

/-- What is answered is the newest version. -/
theorem Proper.newestText?_of_latestContent (proper : Proper sound tree) {now : Timestamp}
    {id : String} {content : Content} (answered : latestContent now tree id = .ok (some content)) :
    sound content.sourceText content.moduleText content.sourceHash ∧ content.createdAt.ReadsBack ∧
      1 ≤ content.version ∧ newestText? tree id = some (contentText content) := by
  cases newest : newestText? tree id with
  | none =>
      have missing : ((versions tree id).find? (·.1 == latestVersion tree id)).bind
          (fun (_, path) => readText? tree path) = none := by
        cases found : (versions tree id).find? (·.1 == latestVersion tree id) with
        | none => rfl
        | some entry =>
            rw [newestText?, found] at newest
            change tree.read? entry.2 = none at newest
            change readText? tree entry.2 = none
            rw [readText?, newest]
            rfl
      unfold latestContent at answered
      dsimp only at answered
      rw [missing] at answered
      cases answered
  | some text =>
      obtain ⟨⟨version, path⟩, found, held⟩ := Option.bind_eq_some_iff.mp newest
      obtain ⟨kept, kind, moment, counted, _, rfl⟩ := proper.contents _ _
        (isVersion_of_mem_versions (List.mem_of_find?_eq_some found)).1 held
      rw [latestContent_of_newestText? moment counted newest now] at answered
      cases answered
      exact ⟨kind, moment, counted, rfl⟩

end Store.Files

/-! ## What a store in memory holds -/

namespace Store.Memory

variable {store : Memory}

/-- Each lesson has an identifier, and all content is of some kind. -/
structure Proper (sound : String → String → String → Prop) (store : Memory) : Prop where
  lessons : ∀ lesson ∈ store.lessons, IsIdentifier lesson.id
  contents : ∀ content ∈ store.contents,
    sound content.sourceText content.moduleText content.sourceHash

/-- What a proper operation makes of a store that holds what is proper. -/
theorem perform_proper (proper : Proper sound store) (now : Timestamp) {β : Type}
    {operation : Operation β} (fit : operation.Proper sound) :
    (store.perform now operation).2 = store ∨
      (∃ lesson, IsIdentifier lesson.id ∧ (store.perform now operation).2 = store.put lesson) ∨
      (∃ trace, (store.perform now operation).2 = store.withTrace trace) ∨
      ∃ content, sound content.sourceText content.moduleText content.sourceHash ∧
        operation.kept? (store.perform now operation).1 = some content.lessonId ∧
        (store.perform now operation).2 = store.withContent content := by
  have known {id : String} {lesson : Lesson} (found : store.find id = some lesson) :
      IsIdentifier lesson.id := proper.lessons lesson (List.mem_of_find?_eq_some found)
  cases operation with
  | create lesson => exact Or.inr (Or.inl ⟨lesson, fit.1, rfl⟩)
  | find id => exact Or.inl rfl
  | list limit => exact Or.inl rfl
  | claim id =>
      unfold perform
      dsimp only
      split
      next lesson found =>
        have identifier := known found
        split
        · exact Or.inr (Or.inl ⟨withStatus now .generating lesson, identifier, rfl⟩)
        · exact Or.inl rfl
      next => exact Or.inl rfl
  | claimNext =>
      unfold perform
      dsimp only
      split
      next => exact Or.inl rfl
      next => exact Or.inl rfl
      next lesson oldest =>
        have member := (oldestQueued_spec oldest).1
        exact Or.inr (Or.inl ⟨withStatus now .generating lesson, proper.lessons lesson member, rfl⟩)
  | setStatus id status =>
      unfold perform
      dsimp only
      split
      next lesson found =>
        have identifier := known found
        exact Or.inr (Or.inl ⟨withStatus now status lesson, identifier, rfl⟩)
      next => exact Or.inl rfl
  | addContent id source code digest =>
      unfold perform
      dsimp only
      split
      next =>
        let content : Content := ⟨id, (store.contentsOf id).length + 1, source, code, digest, now⟩
        exact Or.inr (Or.inr (Or.inr ⟨content, fit, rfl, rfl⟩))
      next => exact Or.inl rfl
  | latestContent id => exact Or.inl rfl
  | appendTrace trace => exact Or.inr (Or.inr (Or.inl ⟨trace, rfl⟩))
  | traces id => exact Or.inl rfl

end Store.Memory

/-! ## Stores of either kind -/

theorem Rehearsal.askStore_memory {rehearsal : Rehearsal} {store : Memory}
    (there : rehearsal.store = .memory store) {β : Type} (operation : Operation β) :
    rehearsal.askStore operation = ((store.perform rehearsal.now operation).1,
      { rehearsal with store := .memory (store.perform rehearsal.now operation).2 }) := by
  unfold askStore
  rw [there]

theorem Rehearsal.askStore_files {rehearsal : Rehearsal} {tree : FileTree}
    (there : rehearsal.store = .files tree) {β : Type} (operation : Operation β) :
    rehearsal.askStore operation = ((Files.perform rehearsal.now rehearsal.minted tree operation).1,
      { rehearsal with
        store := .files (Files.perform rehearsal.now rehearsal.minted tree operation).2.1
        minted := (Files.perform rehearsal.now rehearsal.minted tree operation).2.2 }) := by
  unfold askStore
  rw [there]

namespace AnyStore

/-- What a store holds that was asked to keep nothing but what is proper. -/
def Proper (sound : String → String → String → Prop) : AnyStore → Prop
  | .memory store => Memory.Proper sound store
  | .files tree => Files.Proper sound tree

/-- Where a lesson is kept. -/
def place : AnyStore → String → FilePath
  | .memory _, id => [id]
  | .files _, id => Files.folder id

/-- A lesson is there, and this is the newest version of its content. -/
def Shows : AnyStore → String → Content → Prop
  | .memory store, id, content =>
    (store.find id).isSome = true ∧ (store.contentsOf id).getLast? = some content
  | .files tree, id, content =>
    (tree.read? (Files.folder id ++ [Files.lessonFile])).isSome = true ∧
      content.createdAt.ReadsBack ∧ 1 ≤ content.version ∧
      Files.newestText? tree id = some (Files.contentText content)

variable {before after : AnyStore} {β : Type} {operation : Operation β} {answer : Except Failure β}

/-- A store stays of its kind. -/
theorem place_step (permitted : timely.permits before operation answer after) :
    after.place = before.place := by
  obtain ⟨rehearsal, rfl, -, -, rfl⟩ := permitted
  cases there : rehearsal.store with
  | memory store => rw [Rehearsal.askStore_memory there]; rfl
  | files tree => rw [Rehearsal.askStore_files there]; rfl

/-- What is carried out at a moment that a date can hold is how stores behave. -/
theorem timely_perform {now : Timestamp} (moment : now.ReadsBack) (store : AnyStore)
    (operation : Operation β) :
    timely.permits store operation (store.perform now operation).1
      (store.perform now operation).2 := by
  refine ⟨{ store, now }, rfl, moment, ?_⟩
  cases store with
  | memory store => exact ⟨rfl, rfl⟩
  | files tree => exact ⟨rfl, rfl⟩

/-- A proper operation leaves a store that holds what is proper. -/
theorem proper_step (proper : before.Proper sound) (fit : operation.Proper sound)
    (permitted : timely.permits before operation answer after) : after.Proper sound := by
  obtain ⟨rehearsal, rfl, moment, -, rfl⟩ := permitted
  cases there : rehearsal.store with
  | memory store =>
      rw [there] at proper
      have whole : Memory.Proper sound store := proper
      obtain ⟨lessons, contents⟩ := whole
      rw [Rehearsal.askStore_memory there]
      change Memory.Proper sound (store.perform rehearsal.now operation).2
      rcases Memory.perform_proper proper rehearsal.now fit with
        same | ⟨lesson, identifier, same⟩ | ⟨trace, same⟩ | ⟨content, kind, _, same⟩
      · rw [same]
        exact ⟨lessons, contents⟩
      · rw [same]
        refine ⟨?_, contents⟩
        intro other member
        rcases Memory.mem_put member with rfl | kept
        · exact identifier
        · exact lessons other kept
      · rw [same]
        exact ⟨lessons, contents⟩
      · rw [same]
        refine ⟨lessons, ?_⟩
        intro other member
        rcases List.mem_append.mp member with kept | new
        · exact contents other kept
        · rw [List.mem_singleton.mp new]
          exact kind
  | files tree =>
      rw [there] at proper
      have proper : Files.Proper sound tree := proper
      rw [Rehearsal.askStore_files there]
      change Files.Proper sound (tree.applyAll
        (Files.answer rehearsal.now rehearsal.minted tree operation).changes)
      rcases Files.changes_proper proper moment rehearsal.minted fit with
        same | ⟨lesson, identifier, reads, same⟩ | ⟨trace, same⟩ |
          ⟨content, kind, dated, counted, _, same⟩
      · rw [same]
        exact proper
      · rw [same]
        exact proper.putLesson identifier reads
      · rw [same]
        exact proper.addTrace trace
      · rw [same]
        exact proper.putContent kind dated (by omega)

/-! ### What is shown of a lesson -/

variable {store : AnyStore} {id : String} {content : Content} {rehearsal : Rehearsal}

/-- What a store shows of a lesson it goes on to show, unless another version is kept. -/
theorem Shows.step (shows : before.Shows id content) (proper : before.Proper sound)
    (fit : operation.Proper sound) (permitted : timely.permits before operation answer after)
    (elsewhere : ∀ other ∈ operation.kept? answer, before.place other ≠ before.place id) :
    after.Shows id content := by
  obtain ⟨rehearsal, rfl, moment, rfl, rfl⟩ := permitted
  cases there : rehearsal.store with
  | memory store =>
      rw [there] at proper shows elsewhere
      rw [Rehearsal.askStore_memory there] at elsewhere ⊢
      obtain ⟨found, latest⟩ := shows
      change ((store.perform rehearsal.now operation).2.find id).isSome = true ∧
        ((store.perform rehearsal.now operation).2.contentsOf id).getLast? = some content
      rcases Memory.perform_proper proper rehearsal.now fit with
        same | ⟨lesson, _, same⟩ | ⟨trace, same⟩ | ⟨added, _, kept, same⟩
      · rw [same]
        exact ⟨found, latest⟩
      · rw [same, Memory.find_put]
        refine ⟨?_, latest⟩
        split
        · rfl
        · exact found
      · rw [same]
        exact ⟨found, latest⟩
      · have apart : added.lessonId ≠ id := fun here => elsewhere added.lessonId kept (here ▸ rfl)
        rw [same, Memory.contentsOf_withContent, if_neg apart, List.append_nil]
        exact ⟨found, latest⟩
  | files tree =>
      rw [there] at proper shows elsewhere
      rw [Rehearsal.askStore_files there] at elsewhere ⊢
      obtain ⟨found, dated, counted, newest⟩ := shows
      let changes := (Files.answer rehearsal.now rehearsal.minted tree operation).changes
      change ((tree.applyAll changes).read? (Files.folder id ++ [Files.lessonFile])).isSome = true ∧
        _ ∧ _ ∧ Files.newestText? (tree.applyAll changes) id = _
      rcases Files.changes_proper proper moment rehearsal.minted fit with
        same | ⟨lesson, _, _, same⟩ | ⟨trace, same⟩ | ⟨added, _, _, next, kept, same⟩
      · rw [show changes = [] from same]
        exact ⟨found, dated, counted, newest⟩
      · have listed : Files.versions (tree.applyAll (Files.putLesson lesson)) id =
            Files.versions tree id := Files.versionsIn_putLesson tree lesson _
        rw [show changes = Files.putLesson lesson from same, Files.read?_lessonFile_putLesson,
          Files.newestText?_congr listed fun entry member =>
            Files.read?_putLesson tree lesson (Files.isVersion_of_mem_versions member).1]
        refine ⟨?_, dated, counted, newest⟩
        split
        · rfl
        · exact found
      · have listed : Files.versions (tree.applyAll (Files.addTrace trace)) id =
            Files.versions tree id := Files.versionsIn_addTrace tree trace _
        rw [show changes = Files.addTrace trace from same, Files.read?_lessonFile_addTrace,
          Files.newestText?_congr listed fun entry member =>
            Files.read?_addTrace tree trace (Files.isVersion_of_mem_versions member).1]
        exact ⟨found, dated, counted, newest⟩
      · have apart : Files.folder added.lessonId ≠ Files.folder id :=
          elsewhere added.lessonId kept
        have fresh := Files.read?_pastLatest tree added (by omega)
        have listed : Files.versions (tree.applyAll (Files.putContent added)) id =
            Files.versions tree id := by
          rw [Files.versions_eq, Files.versions_eq, Files.versionsIn_putContent tree added fresh,
            if_neg apart, List.append_nil]
        rw [show changes = Files.putContent added from same, Files.read?_lessonFile_putContent]
        refine ⟨found, dated, counted, ?_⟩
        rw [Files.newestText?_congr listed ?_]
        · exact newest
        · intro entry member
          obtain ⟨version, inside⟩ := Files.isVersion_of_mem_versions member
          rw [Files.read?_putContent tree added version, if_neg]
          intro here
          rw [here, Files.contentPath, List.dropLast_concat] at inside
          exact apart (List.append_cancel_right inside)

/-- The lesson that a store shows is found. -/
theorem Shows.find (shows : store.Shows id content) (proper : store.Proper sound)
    (there : rehearsal.store = store) :
    ∃ lesson, (rehearsal.askStore (.find id)).1 = .ok (some lesson) := by
  subst there
  cases there : rehearsal.store with
  | memory store =>
      rw [there] at shows
      rw [Rehearsal.askStore_memory there]
      obtain ⟨lesson, found⟩ := Option.isSome_iff_exists.mp shows.1
      exact ⟨lesson, congrArg Except.ok found⟩
  | files tree =>
      rw [there] at shows proper
      rw [Rehearsal.askStore_files there]
      obtain ⟨text, held⟩ := Option.isSome_iff_exists.mp shows.1
      obtain ⟨lesson, _, _, _, found⟩ := Files.Proper.find proper held
      exact ⟨lesson, congrArg Prod.fst (found rehearsal.now rehearsal.minted)⟩

/-- The newest version that a store shows is answered. -/
theorem Shows.latestContent (shows : store.Shows id content) (there : rehearsal.store = store) :
    (rehearsal.askStore (.latestContent id)).1 = .ok (some content) := by
  subst there
  cases there : rehearsal.store with
  | memory store =>
      rw [there] at shows
      rw [Rehearsal.askStore_memory there]
      exact congrArg Except.ok shows.2
  | files tree =>
      rw [there] at shows
      rw [Rehearsal.askStore_files there]
      obtain ⟨_, dated, counted, newest⟩ := shows
      exact Files.latestContent_of_newestText? dated counted newest rehearsal.now

/-- What is answered of a lesson is what the store shows of it. The lesson is named by no empty
text. -/
theorem shows_of_answers {later : Rehearsal} (proper : rehearsal.store.Proper sound)
    (same : later.store = rehearsal.store) {lesson : Lesson}
    (found : (rehearsal.askStore (.find id)).1 = .ok (some lesson))
    (latest : (later.askStore (.latestContent id)).1 = .ok (some content)) :
    rehearsal.store.Shows id content ∧
      sound content.sourceText content.moduleText content.sourceHash ∧ id ≠ "" := by
  have named {identifier : String} (fits : IsIdentifier identifier) : identifier ≠ "" := by
    rintro rfl
    exact absurd fits.length (by decide)
  cases there : rehearsal.store with
  | memory store =>
      rw [there] at proper
      have proper : Memory.Proper sound store := proper
      rw [Rehearsal.askStore_memory there] at found
      rw [Rehearsal.askStore_memory (same.trans there)] at latest
      have held : store.find id = some lesson := Except.ok.inj found
      have newest : (store.contentsOf id).getLast? = some content := Except.ok.inj latest
      have member := List.mem_of_mem_filter (List.mem_of_getLast? newest)
      refine ⟨⟨by rw [held]; rfl, newest⟩, proper.contents content member, ?_⟩
      rw [← Memory.id_of_find held]
      exact named (proper.lessons lesson (List.mem_of_find?_eq_some held))
  | files tree =>
      rw [there] at proper
      have proper : Files.Proper sound tree := proper
      rw [Rehearsal.askStore_files there] at found
      rw [Rehearsal.askStore_files (same.trans there)] at latest
      obtain ⟨held, identifier, _, place⟩ := proper.of_find (Prod.ext found rfl)
      obtain ⟨kind, dated, counted, newest⟩ := proper.newestText?_of_latestContent latest
      refine ⟨⟨held, dated, counted, newest⟩, kind, ?_⟩
      rintro rfl
      have nowhere : Files.folder "" = [] := by decide
      rw [identifier.folder_eq, nowhere] at place
      cases place

end AnyStore

end Lectern
