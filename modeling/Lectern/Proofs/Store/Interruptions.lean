/-
Module: Lectern.Proofs.Store.Interruptions
Purpose: What is left behind where the replacement of a file stops before its last step: a file
  beside its place that no operation looks at, as long as each lesson has one folder of its own.
Trusted boundary: none
Main exports: FileTree.settled, FileTree.stopped, Files.answer_settled, Files.perform_settled,
  Files.replies_settled, Files.settled_stopped, Files.interruption_unnoticed
-/
import Lectern.Proofs.Store.Agreement

namespace Lectern.Store

namespace FileTree

/-! ## What is left behind -/

/-- Is this the name of a file that is written beside the place that it is meant for? -/
def isTemporary (name : String) : Bool := ".tmp".toList.isSuffixOf name.toList

/-- Is this a file that was left behind beside a lesson or beside its content? -/
def isLeftover : FilePath → Bool
  | [_, name] => isTemporary name
  | [_, inner, name] => inner == "contents" && isTemporary name
  | _ => false

/-- Files without those that were left behind. -/
def settled (tree : FileTree) : FileTree where
  files := tree.files.filter fun file => !isLeftover file.1

/-- The files where changes stop behind the first step of a replacement: the file beside the place
holds the new text or a part of it. -/
def stopped (tree : FileTree) (part : String) : List Change → FileTree
  | .write path _ :: _ => tree.write path part
  | _ => tree

theorem isTemporary_tmp (name : String) : isTemporary (name ++ ".tmp") = true := by
  simp [isTemporary, List.isSuffixOf_iff_suffix]

theorem getLast_of_isTemporary {name : String} (temporary : isTemporary name = true) :
    name.toList.getLast? = some 'p' := by
  obtain ⟨front, spelled⟩ := List.isSuffixOf_iff_suffix.mp temporary
  rw [← spelled, List.getLast?_append]
  rfl

theorem isTemporary_of_isLeftover {path : FilePath} (leftover : isLeftover path = true)
    {name : String} (last : path.getLast? = some name) : isTemporary name = true := by
  unfold isLeftover at leftover
  split at leftover
  next folder found =>
    obtain rfl : found = name := by simpa using last
    exact leftover
  next folder inner found =>
    obtain rfl : found = name := by simpa using last
    exact (Bool.and_eq_true_iff.mp leftover).2
  next => cases leftover

/-- A file whose name ends otherwise was not left behind. -/
theorem isLeftover_append (folder : FilePath) {name : String} (plain : isTemporary name = false) :
    isLeftover (folder ++ [name]) = false := by
  rw [Bool.eq_false_iff]
  intro leftover
  rw [isTemporary_of_isLeftover leftover List.getLast?_concat] at plain
  cases plain

/-! ## Changes to what is kept -/

section Kept

variable (tree : FileTree) {path : FilePath}

theorem read?_settled (kept : isLeftover path = false) :
    tree.settled.read? path = tree.read? path := by
  unfold read? settled
  rw [List.find?_filter]
  congr 2
  funext file
  by_cases here : file.1 = path
  · simp [here, kept]
  · simp [here]

theorem settled_write (kept : isLeftover path = false) (text : String) :
    (tree.write path text).settled = tree.settled.write path text := by
  have held : (tree.files.filter fun file => !isLeftover file.1).any (·.1 == path) =
      tree.files.any (·.1 == path) := by
    rw [List.any_filter]
    congr 1
    funext file
    by_cases here : file.1 = path
    · simp [here, kept]
    · simp [here]
  simp only [settled, write, held]
  split
  next =>
    rw [List.filter_map]
    congr 2
    apply List.filter_congr
    intro file _
    by_cases here : file.1 = path
    · simp [here]
    · simp [here]
  next => simp [List.filter_append, kept]

theorem settled_remove : (tree.remove path).settled = tree.settled.remove path := by
  simp only [settled, remove, List.filter_filter, Bool.and_comm]

/-- What is written into a file that was left behind counts for nothing. -/
theorem settled_write_leftover (leftover : isLeftover path = true) (text : String) :
    (tree.write path text).settled = tree.settled :=
  congrArg FileTree.mk (filter_write tree (!isLeftover ·) (by rw [leftover]; rfl) text)

end Kept

theorem settled_replaceFile (tree : FileTree) (folder : FilePath) {name : String}
    (plain : isTemporary name = false) (text : String) :
    (tree.applyAll (replaceFile folder name text)).settled =
      tree.settled.applyAll (replaceFile folder name text) := by
  rw [applyAll_replaceFile, applyAll_replaceFile, settled_write _ (isLeftover_append folder plain),
    settled_remove]

end FileTree

namespace Files

open FileTree

/-- An identifier that names one folder, in which a lesson is alone. -/
def NamesFolder (id : String) : Prop := ∃ name, folder id = [name]

/-- Every lesson that is read from the files names one folder. -/
def NamesFolders (tree : FileTree) : Prop :=
  ∀ place characters, readText? tree (place ++ [lessonFile]) = some characters →
    ∀ now minted lesson more, readLesson now minted characters = (.ok lesson, more) →
      NamesFolder lesson.id

theorem isTemporary_lessonFile : isTemporary lessonFile = false := by
  decide

theorem isTemporary_tracesFile : isTemporary tracesFile = false := by
  decide

theorem isTemporary_of_versionOf? {name : String} {version : Nat}
    (named : versionOf? name = some version) : isTemporary name = false := by
  rw [Bool.eq_false_iff]
  intro temporary
  have ends := getLast_of_isTemporary temporary
  rw [getLast_of_versionOf? named] at ends
  cases ends

theorem isTemporary_versionFile (version : Nat) : isTemporary (versionFile version) = false :=
  isTemporary_of_versionOf? (versionOf?_versionFile version)

/-! ## Reading past what was left behind -/

section Reading

variable (tree : FileTree)

theorem readText?_settled (place : FilePath) {name : String} (plain : isTemporary name = false) :
    readText? tree.settled (place ++ [name]) = readText? tree (place ++ [name]) := by
  rw [readText?, readText?, read?_settled tree (isLeftover_append place plain)]

theorem find_settled (now : Timestamp) (minted : Nat) (id : String) :
    find now minted tree.settled id = find now minted tree id := by
  rw [find, find, readText?_settled tree _ isTemporary_lessonFile]

theorem lessonTexts_settled : lessonTexts tree.settled = lessonTexts tree := by
  unfold lessonTexts
  rw [settled, List.filterMap_filter]
  congr 1
  funext ⟨path, text⟩
  match path with
  | [] => rfl
  | [_] => rfl
  | [directory, name] =>
      by_cases named : name = lessonFile
      · subst named
        have plain := isLeftover_append [directory] isTemporary_lessonFile
        have read := readText?_settled tree [directory] isTemporary_lessonFile
        simp only [List.singleton_append] at plain read
        simp [plain, ← read, settled]
      · simp [named]
  | _ :: _ :: _ :: _ => simp

theorem lessons_settled (now : Timestamp) (minted : Nat) :
    lessons now minted tree.settled = lessons now minted tree := by
  rw [lessons, lessons, lessonTexts_settled]

theorem versions_settled (id : String) : versions tree.settled id = versions tree id := by
  unfold versions
  rw [settled, List.filterMap_filter]
  congr 1
  funext ⟨path, text⟩
  by_cases leftover : isLeftover path = true
  · simp only [leftover, Bool.not_true, Bool.false_eq_true, if_false]
    split
    next name last =>
      have temporary := isTemporary_of_isLeftover leftover last
      cases named : versionOf? name with
      | none => simp
      | some version =>
          rw [isTemporary_of_versionOf? named] at temporary
          cases temporary
    next => rfl
  · simp [leftover]

theorem latestVersion_settled (id : String) :
    latestVersion tree.settled id = latestVersion tree id := by
  rw [latestVersion, latestVersion, versions_settled]

theorem latestContent_settled (now : Timestamp) (id : String) :
    latestContent now tree.settled id = latestContent now tree id := by
  have text (latest : Nat) :
      (((versions tree id).find? (·.1 == latest)).bind fun file => readText? tree.settled file.2) =
        ((versions tree id).find? (·.1 == latest)).bind fun file => readText? tree file.2 := by
    apply Option.bind_congr
    intro file found
    obtain ⟨⟨path, kept⟩, _, counted⟩ := List.mem_filterMap.mp (List.mem_of_find?_eq_some found)
    simp only at counted
    split at counted
    next name last =>
      split at counted
      next =>
        obtain ⟨version, named, rfl⟩ := Option.map_eq_some_iff.mp counted
        obtain ⟨front, rfl⟩ := List.getLast?_eq_some_iff.mp last
        exact readText?_settled tree front (isTemporary_of_versionOf? named)
      next => cases counted
    next => cases counted
  unfold latestContent
  simp only [latestVersion_settled, versions_settled, text]

theorem hasFolder_settled {id : String} (named : NamesFolder id) :
    tree.settled.hasFolder (folder id ++ [tracesFile]) =
      tree.hasFolder (folder id ++ [tracesFile]) := by
  obtain ⟨name, here⟩ := named
  have inside : (tree.settled.below [name, tracesFile]) = tree.below [name, tracesFile] := by
    unfold below
    rw [settled, List.filterMap_filter]
    congr 2
    funext ⟨path, text⟩
    match path with
    | [] => simp
    | [_] => simp [isLeftover]
    | [_, _] => simp
    | [_, inner, last] =>
        by_cases content : inner = "contents"
        · have apart : tracesFile ≠ "contents" := by decide
          simp [content, apart]
        · simp [isLeftover, content]
    | _ :: _ :: _ :: _ :: _ => simp [isLeftover]
  rw [here, List.singleton_append, hasFolder, hasFolder, inside]

theorem traces_settled (now : Timestamp) (id : String) :
    traces now tree.settled id = traces now tree id := by
  rw [traces, traces, readText?_settled tree _ isTemporary_tracesFile]

end Reading

/-! ## One operation -/

/-- Whatever was left behind, an operation is answered as without it, and the same changes are
due. -/
theorem answer_settled (now : Timestamp) (minted : Nat) (tree : FileTree) {β : Type}
    {operation : Operation β} (named : ∀ id ∈ operation.id?, NamesFolder id) :
    answer now minted tree.settled operation = answer now minted tree operation := by
  cases operation with
  | create lesson => rfl
  | find id => simp only [answer, find_settled]
  | list limit => simp only [answer, lessons_settled]
  | claim id => simp only [answer, find_settled]
  | claimNext => simp only [answer, lessons_settled]
  | setStatus id status => simp only [answer, find_settled]
  | addContent id source code digest =>
      have plain := isLeftover_append (folder id) isTemporary_lessonFile
      simp only [answer, read?_settled tree plain, latestVersion_settled]
  | latestContent id => simp only [answer, latestContent_settled]
  | appendTrace trace => simp only [answer, hasFolder_settled tree (named _ rfl)]
  | traces id => simp only [answer, hasFolder_settled tree (named _ rfl), traces_settled]

/-- What an operation is due to change is changed past what was left behind. -/
theorem settled_applyAll (now : Timestamp) (minted : Nat) (tree kept : FileTree) {β : Type}
    (operation : Operation β) :
    (kept.applyAll (answer now minted tree operation).changes).settled =
      kept.settled.applyAll (answer now minted tree operation).changes := by
  have keeps : operation.KeepsOnly fun _ _ _ => True := by
    cases operation <;> trivial
  rcases changes_cases now minted tree keeps with
    same | ⟨lesson, same⟩ | ⟨trace, same⟩ | ⟨content, same, _⟩
  · rw [same]
    rfl
  · rw [same]
    exact settled_replaceFile kept _ isTemporary_lessonFile _
  · have plain := isLeftover_append (folder trace.lessonId) isTemporary_tracesFile
    rw [same]
    simp only [addTrace, applyAll, List.foldl_cons, List.foldl_nil, apply,
      settled_write _ plain, read?_settled _ plain]
  · rw [same]
    exact settled_replaceFile kept _ (isTemporary_versionFile _) _

/-- Files that differ in what was left behind alone answer an operation alike, and differ in no more
behind it. -/
theorem perform_settled {tree other : FileTree} (same : tree.settled = other.settled)
    (now : Timestamp) (minted : Nat) {β : Type} {operation : Operation β}
    (named : ∀ id ∈ operation.id?, NamesFolder id) :
    (perform now minted tree operation).1 = (perform now minted other operation).1 ∧
      (perform now minted tree operation).2.2 = (perform now minted other operation).2.2 ∧
      (perform now minted tree operation).2.1.settled =
        (perform now minted other operation).2.1.settled := by
  have answers : answer now minted tree operation = answer now minted other operation := by
    rw [← answer_settled now minted tree named, same, answer_settled now minted other named]
  refine ⟨congrArg Answer.result answers, congrArg Answer.minted answers, ?_⟩
  simp only [perform]
  rw [settled_applyAll, settled_applyAll, same, answers]

/-! ## All operations -/

/-- Files are listed in the order in which they are kept. -/
def asKept : Listing where
  order _ tree := tree
  same _ tree := List.Perm.refl tree.files

/-- Files that differ in what was left behind alone answer all calls alike. -/
theorem replies_settled {calls : List Call}
    (named : ∀ call ∈ calls, ∀ id ∈ call.operation.id?, NamesFolder id) (turn minted : Nat)
    {tree other : FileTree} (same : tree.settled = other.settled) :
    replies asKept turn minted tree calls = replies asKept turn minted other calls := by
  induction calls generalizing turn minted tree other with
  | nil => rfl
  | cons call calls inductionHypothesis =>
      obtain ⟨first, rest⟩ := List.forall_mem_cons.mp named
      obtain ⟨answered, counted, left⟩ := perform_settled same call.now minted first
      have later := inductionHypothesis rest (turn + 1)
        (perform call.now minted other call.operation).2.2 left
      simp only [replies, asKept]
      rw [answered, counted]
      exact congrArg _ later

/-! ## Operations that stop -/

/-- What an operation changes: nothing, or the files of a lesson that names one folder. -/
theorem changes_named (now : Timestamp) (minted : Nat) {tree : FileTree} {β : Type}
    {operation : Operation β} (named : ∀ id ∈ operation.id?, NamesFolder id)
    (held : NamesFolders tree) :
    (answer now minted tree operation).changes = [] ∨
      (∃ lesson, (answer now minted tree operation).changes = putLesson lesson ∧
        NamesFolder lesson.id) ∨
      (∃ trace, (answer now minted tree operation).changes = addTrace trace) ∨
      ∃ content, (answer now minted tree operation).changes = putContent content ∧
        NamesFolder content.lessonId := by
  cases operation with
  | create lesson => exact Or.inr (Or.inl ⟨lesson, rfl, named _ rfl⟩)
  | find id => exact Or.inl rfl
  | list limit => exact Or.inl rfl
  | claim id =>
      dsimp only [answer]
      split
      next => exact Or.inl rfl
      next lesson more found =>
        obtain ⟨characters, kept, read⟩ := readText?_of_find found
        split
        next =>
          have one := held _ _ kept _ _ _ _ read
          exact Or.inr (Or.inl ⟨_, rfl, one⟩)
        next => exact Or.inl rfl
      next => exact Or.inl rfl
  | claimNext =>
      dsimp only [answer]
      split
      next => exact Or.inl rfl
      next => exact Or.inl rfl
      next lesson next =>
        cases all : lessons now minted tree with
        | mk result more =>
            rw [all] at next
            cases result with
            | error failure => cases next
            | ok found =>
                obtain ⟨member, _⟩ := oldestQueued_spec next
                obtain ⟨directory, characters, before, behind, kept, read⟩ :=
                  readText?_of_lessons all member
                have one := held _ _ kept _ _ _ _ read
                exact Or.inr (Or.inl ⟨_, rfl, one⟩)
  | setStatus id status =>
      dsimp only [answer]
      split
      next => exact Or.inl rfl
      next lesson more found =>
        obtain ⟨characters, kept, read⟩ := readText?_of_find found
        have one := held _ _ kept _ _ _ _ read
        exact Or.inr (Or.inl ⟨_, rfl, one⟩)
      next => exact Or.inl rfl
  | addContent id source code digest =>
      dsimp only [answer]
      split
      next => exact Or.inl rfl
      next => exact Or.inr (Or.inr (Or.inr ⟨_, rfl, named _ rfl⟩))
  | latestContent id => exact Or.inl rfl
  | appendTrace trace =>
      dsimp only [answer]
      split
      next => exact Or.inl rfl
      next => exact Or.inr (Or.inr (Or.inl ⟨trace, rfl⟩))
  | traces id =>
      dsimp only [answer]
      split
      next => exact Or.inl rfl
      next => exact Or.inl rfl

/-- An operation that stops leaves a file behind, and changes nothing else. -/
theorem settled_stopped (now : Timestamp) (minted : Nat) {tree : FileTree} {β : Type}
    {operation : Operation β} (named : ∀ id ∈ operation.id?, NamesFolder id)
    (held : NamesFolders tree) (part : String) :
    (tree.stopped part (answer now minted tree operation).changes).settled = tree.settled := by
  rcases changes_named now minted named held with
    same | ⟨lesson, same, name, here⟩ | ⟨trace, same⟩ | ⟨content, same, name, here⟩
  · rw [same]
    rfl
  · have leftover : isLeftover (folder lesson.id ++ [lessonFile ++ ".tmp"]) = true := by
      rw [here]
      simp [isLeftover, isTemporary_tmp]
    rw [same]
    simp only [putLesson, replaceFile, stopped]
    exact settled_write_leftover tree leftover part
  · rw [same]
    rfl
  · have leftover : isLeftover
        (contentFolder content.lessonId ++ [versionFile content.version ++ ".tmp"]) = true := by
      rw [contentFolder, here]
      simp [isLeftover, isTemporary_tmp]
    rw [same]
    simp only [putContent, replaceFile, stopped]
    exact settled_write_leftover tree leftover part

/-- A replacement leaves the file of a lesson as it is where that is not the file replaced. -/
theorem readText?_lessonFile_replaceFile (tree : FileTree) {folder place : FilePath} {name : String}
    (elsewhere : place ++ [lessonFile] ≠ folder ++ [name]) (text : String) :
    readText? (tree.applyAll (replaceFile folder name text)) (place ++ [lessonFile]) =
      readText? tree (place ++ [lessonFile]) := by
  have beside : place ++ [lessonFile] ≠ folder ++ [name ++ ".tmp"] := by
    intro same
    have ends : lessonFile = name ++ ".tmp" := by simpa using congrArg List.getLast? same
    have plain := isTemporary_lessonFile
    rw [ends, isTemporary_tmp] at plain
    cases plain
  rw [readText?, readText?, read?_replaceFile, if_neg elsewhere, if_neg beside]

/-- Where every lesson names one folder, it is so behind an operation that names one. -/
theorem namesFolders_perform (now : Timestamp) (minted : Nat) {tree : FileTree} {β : Type}
    {operation : Operation β} (named : ∀ id ∈ operation.id?, NamesFolder id)
    (held : NamesFolders tree) : NamesFolders (perform now minted tree operation).2.1 := by
  simp only [perform]
  rcases changes_named now minted named held with
    same | ⟨lesson, same, one⟩ | ⟨trace, same⟩ | ⟨content, same, _⟩
  · rw [same]
    exact held
  · rw [same]
    intro place characters kept later fresh read more answered
    by_cases here : place = folder lesson.id
    · obtain ⟨data, freshId, parsed, valid⟩ := valid_of_readLesson answered
      have told : told? (tree.applyAll (putLesson lesson)) place = some data := by
        simp [told?, kept, parsed, Except.toOption]
      rw [told?_putLesson, if_pos here] at told
      obtain rfl := Option.some.inj told
      rw [(Lesson.parts_of_read valid).2 _ (Lesson.readId_toJson .snake lesson)]
      exact one
    · have elsewhere : place ++ [lessonFile] ≠ folder lesson.id ++ [lessonFile] := by
        simpa using here
      rw [putLesson, readText?_lessonFile_replaceFile tree elsewhere] at kept
      exact held place characters kept later fresh read more answered
  · rw [same]
    intro place characters kept
    rw [readText?, read?_lessonFile_addTrace] at kept
    exact held place characters kept
  · rw [same]
    intro place characters kept
    have elsewhere : place ++ [lessonFile] ≠
        contentFolder content.lessonId ++ [versionFile content.version] := by
      intro same
      have ends : lessonFile = versionFile content.version := by
        simpa using congrArg List.getLast? same
      have none : versionOf? lessonFile = none := by decide
      rw [ends, versionOf?_versionFile] at none
      cases none
    rw [putContent, readText?_lessonFile_replaceFile tree elsewhere] at kept
    exact held place characters kept

/-- A lesson is given the version behind its latest one. -/
theorem version_of_addContent {now : Timestamp} {minted : Nat} {tree : FileTree}
    {id source code digest : String} {content : Content}
    (added : (answer now minted tree (.addContent id source code digest)).result = .ok content) :
    (tree.read? (folder id ++ [lessonFile])).isSome = true ∧
      content.version = latestVersion tree id + 1 := by
  dsimp only [answer] at added
  split at added
  next => cases added
  next text held =>
    obtain rfl := Except.ok.inj added
    exact ⟨by rw [held]; rfl, rfl⟩

theorem namesFolders_empty : NamesFolders {} := by
  intro place characters held
  cases held

/-- An operation that stops between the two steps of a replacement goes unnoticed, where lessons
name one folder each: whatever is asked for later is answered as if the operation had not begun, and
a version of content that was being added gets the same number when it is added again. In general no
file that was left behind, whatever it holds, has a part in any answer. -/
theorem interruption_unnoticed :
    (∀ tree other : FileTree, tree.settled = other.settled →
      ∀ turn minted calls, (∀ call ∈ calls, ∀ id ∈ call.operation.id?, NamesFolder id) →
        replies asKept turn minted tree calls = replies asKept turn minted other calls) ∧
    ∀ (now : Timestamp) (minted : Nat) (tree : FileTree), NamesFolders tree →
      (∀ {β : Type} (operation : Operation β), (∀ id ∈ operation.id?, NamesFolder id) →
        ∀ part turn more calls, (∀ call ∈ calls, ∀ id ∈ call.operation.id?, NamesFolder id) →
          replies asKept turn more
              (tree.stopped part (answer now minted tree operation).changes) calls =
            replies asKept turn more tree calls) ∧
      ∀ id source code digest content, NamesFolder id →
        (answer now minted tree (.addContent id source code digest)).result = .ok content →
        ∀ part later more newSource newCode newDigest, ∃ next,
          (perform later more
            (tree.stopped part (answer now minted tree (.addContent id source code digest)).changes)
            (.addContent id newSource newCode newDigest)).1 = .ok next ∧
          next.version = content.version := by
  refine ⟨fun tree other same turn minted calls named => replies_settled named turn minted same,
    fun now minted tree held => ⟨?_, ?_⟩⟩
  · intro β operation begun part turn more calls named
    apply replies_settled named
    exact settled_stopped now minted begun held part
  · intro id source code digest content one added part later more newSource newCode newDigest
    have begun : ∀ other ∈ (Operation.addContent id source code digest).id?, NamesFolder other := by
      rintro _ ⟨⟩
      exact one
    have again : ∀ other ∈ (Operation.addContent id newSource newCode newDigest).id?,
        NamesFolder other := by
      rintro _ ⟨⟩
      exact one
    have same := settled_stopped now minted begun held part
    rw [(perform_settled same later more again).1]
    obtain ⟨present, number⟩ := version_of_addContent added
    obtain ⟨text, present⟩ := Option.isSome_iff_exists.mp present
    refine ⟨⟨id, latestVersion tree id + 1, newSource, newCode, newDigest, later⟩, ?_, number.symm⟩
    simp only [perform, answer, present]

/-- A lesson that names one folder. -/
def single : Lesson := waitingSince (seconds 1) "fractions"

/-- Whatever is read of a lesson, and a version of content that is added. -/
def enquiries : List Call :=
  [⟨seconds 4, .find single.id⟩, ⟨seconds 5, .list 10⟩, ⟨seconds 6, .latestContent single.id⟩,
    ⟨seconds 7, .traces single.id⟩, ⟨seconds 8, .addContent single.id "source" "code" "digest"⟩]

theorem interruption_unnoticed_single :
    let tree := (perform (seconds 1) 0 {} (.create single)).2.1
    let adding := answer (seconds 2) 0 tree (.addContent single.id "source" "code" "digest")
    let stopped := tree.stopped "\x7b" adding.changes
    replies asKept 0 0 stopped enquiries = replies asKept 0 0 tree enquiries ∧
      ∃ next, (perform (seconds 3) 0 stopped
        (.addContent single.id "source" "code" "digest")).1 = .ok next ∧ next.version = 1 := by
  have folder : NamesFolder single.id := ⟨"fractions", by decide⟩
  have created : ∀ id ∈ (Operation.create single).id?, NamesFolder id := by
    rintro _ ⟨⟩
    exact folder
  have adds : ∀ id ∈ (Operation.addContent single.id "source" "code" "digest").id?,
      NamesFolder id := by
    rintro _ ⟨⟩
    exact folder
  have asked : ∀ call ∈ enquiries, ∀ id ∈ call.operation.id?, NamesFolder id := by
    intro call member id names
    have same : ∀ call ∈ enquiries, ∀ id ∈ call.operation.id?, id = single.id := by decide
    rw [same call member id names]
    exact folder
  have held := namesFolders_perform (seconds 1) 0 created namesFolders_empty
  obtain ⟨alike, numbered⟩ := interruption_unnoticed.2 (seconds 2) 0 _ held
  have first := numbered single.id "source" "code" "digest"
    ⟨single.id, 1, "source", "code", "digest", seconds 2⟩ folder rfl
  exact ⟨alike _ adds _ 0 0 _ asked, first _ (seconds 3) 0 "source" "code" "digest"⟩

/-- A lesson whose folder stands in the place of the traces of another one: what is left of it makes
those traces unreadable. -/
theorem unnoticed_unless_folders_meet :
    let inside := waitingSince (seconds 1) "x/traces.jsonl"
    let stopped := FileTree.stopped {} "\x7b" (answer (seconds 2) 0 {} (.create inside)).changes
    (perform (seconds 3) 0 {} (.traces "x")).1 = .ok [] ∧
      (perform (seconds 3) 0 stopped (.traces "x")).1 =
        .error (isFolder ["x", "traces.jsonl"]) :=
  ⟨rfl, rfl⟩

end Files
end Lectern.Store
