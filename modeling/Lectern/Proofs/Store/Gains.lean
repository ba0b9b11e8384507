/-
Module: Lectern.Proofs.Store.Gains
Purpose: Which content a store holds that it did not hold before: only what it was asked to keep,
  and nothing is written over what it holds under another name. Of the files on a disk a change
  reaches the one that is changed, and all others hold what they held.
Trusted boundary: none
Main exports: FileTree.read?_write, FileTree.read?_remove, FileTree.read?_append,
  FileTree.filter_write, FileTree.applyAll_replaceFile, FileTree.read?_replaceFile,
  Operation.KeepsOnly, AnyStore.Gains, AnyStore.Answers.gains
-/
import Lectern.Proofs.Keyed
import Lectern.Proofs.Store.Conduct
import Lectern.Store.FileTree

namespace Lectern.Store.FileTree

/-- A file that was written holds its text, and all others hold theirs. -/
theorem read?_write (tree : FileTree) (path other : FilePath) (text : String) :
    (tree.write path text).read? other =
      if other = path then some text else tree.read? other := by
  have found := Keyed.find?_put Prod.fst (path, text) tree.files other
  unfold write read?
  rw [found]
  split <;> rfl

/-- A file that was removed is gone, and all others hold their texts. -/
theorem read?_remove (tree : FileTree) (path other : FilePath) :
    (tree.remove path).read? other = if other = path then none else tree.read? other := by
  unfold remove read?
  by_cases asked : other = path
  · subst other
    have absent : (tree.files.filter (·.1 != path)).find? (·.1 == path) = none := by
      rw [List.find?_eq_none]
      intro file member
      simpa using (List.mem_filter.mp member).2
    simp [absent]
  · rw [if_neg asked, List.find?_filter]
    congr 2
    funext file
    by_cases here : file.1 = other
    · simp [here, asked]
    · simp [here]

/-- What is appended stands behind what a file held before. -/
theorem read?_append (tree : FileTree) (path other : FilePath) (text : String) :
    (tree.apply (.append path text)).read? other =
      if other = path then some ((tree.read? path).getD "" ++ text) else tree.read? other :=
  read?_write tree path other _

/-- Of the files that are chosen by their paths, none changes where another one is written. -/
theorem filter_write (tree : FileTree) {path : FilePath} (keep : FilePath → Bool)
    (gone : keep path = false) (text : String) :
    (tree.write path text).files.filter (keep ·.1) = tree.files.filter (keep ·.1) := by
  simp only [write]
  split
  next =>
    rw [List.filter_map]
    have same : (tree.files.filter ((keep ·.1) ∘ fun file =>
        if file.1 == path then (path, text) else file)) = tree.files.filter (keep ·.1) := by
      apply List.filter_congr
      intro file _
      by_cases here : file.1 = path
      · simp [here]
      · simp [here]
    rw [same]
    refine (List.map_congr_left ?_).trans (List.map_id _)
    intro file member
    have kept : keep file.1 = true := (List.mem_filter.mp member).2
    have apart : file.1 ≠ path := by
      rintro rfl
      rw [gone] at kept
      cases kept
    simp [apart]
  next => simp [List.filter_append, gone]

theorem remove_write (tree : FileTree) (path : FilePath) (text : String) :
    (tree.write path text).remove path = tree.remove path :=
  congrArg FileTree.mk (filter_write tree (· != path) (bne_self_eq_false path) text)

/-- A replacement removes what stands beside the place and fills the place. -/
theorem applyAll_replaceFile (tree : FileTree) (folder : FilePath) (name text : String) :
    tree.applyAll (replaceFile folder name text) =
      (tree.remove (folder ++ [name ++ ".tmp"])).write (folder ++ [name]) text := by
  have written : (tree.write (folder ++ [name ++ ".tmp"]) text).read?
      (folder ++ [name ++ ".tmp"]) = some text := by
    rw [read?_write, if_pos rfl]
  simp only [applyAll, replaceFile, List.foldl_cons, List.foldl_nil, apply, written, remove_write]

/-- A file that is replaced holds its new text at once; nothing is left beside it, and all other
files hold their texts. -/
theorem read?_replaceFile (tree : FileTree) (folder : FilePath) (name text : String)
    (other : FilePath) :
    (tree.applyAll (replaceFile folder name text)).read? other =
      if other = folder ++ [name] then some text
      else if other = folder ++ [name ++ ".tmp"] then none
      else tree.read? other := by
  rw [applyAll_replaceFile, read?_write, read?_remove]

end Lectern.Store.FileTree

namespace Lectern

/-- An operation does not keep content, or keeps texts of some kind. -/
def Store.Operation.KeepsOnly {β : Type} (sound : String → String → String → Prop) :
    Store.Operation β → Prop
  | .addContent _ source code digest => sound source code digest
  | _ => True

namespace Store.Files

/-- Where a version of content is kept. -/
def contentPath (content : Content) : FilePath :=
  contentFolder content.lessonId ++ [versionFile content.version]

/-- How a version of content is kept. -/
def contentText (content : Content) : String := Json.pretty Json.recordStyle content.toJson

/-- Is a file named for a version of content? -/
def isVersion (path : FilePath) : Bool :=
  match path.getLast? with
  | some name => (versionOf? name).isSome
  | none => false

end Store.Files

namespace AnyStore

/-- Whatever content a store holds that another one does not hold is of some kind. -/
def Gains (sound : Content → Prop) : AnyStore → AnyStore → Prop
  | .memory before, .memory after =>
      ∀ content ∈ after.contents, content ∈ before.contents ∨ sound content
  | .files before, .files after =>
      ∀ path text, Store.Files.isVersion path → after.read? path = some text →
        before.read? path = some text ∨
          ∃ content, sound content ∧ path = Store.Files.contentPath content ∧
            text = Store.Files.contentText content
  | _, _ => False

theorem Gains.refl (sound : Content → Prop) (store : AnyStore) : Gains sound store store := by
  cases store with
  | memory store => exact fun _ member => Or.inl member
  | files tree => exact fun _ _ _ held => Or.inl held

theorem Gains.trans {sound : Content → Prop} {first middle last : AnyStore}
    (one : Gains sound first middle) (two : Gains sound middle last) :
    Gains sound first last := by
  cases first with
  | memory first =>
      cases middle with
      | files middle => exact one.elim
      | memory middle =>
          cases last with
          | files last => exact two.elim
          | memory last =>
              intro content member
              rcases two content member with old | new
              · exact one content old
              · exact Or.inr new
  | files first =>
      cases middle with
      | memory middle => exact one.elim
      | files middle =>
          cases last with
          | memory last => exact two.elim
          | files last =>
              intro path text named held
              rcases two path text named held with old | new
              · exact one path text named old
              · exact Or.inr new

end AnyStore

namespace Store.Files

theorem getLast_of_versionOf? {name : String} {version : Nat}
    (named : versionOf? name = some version) : name.toList.getLast? = some 'n' := by
  unfold versionOf? at named
  split at named
  next rest spelled =>
    simp only at named
    split at named
    next same =>
      have suffix : List.dropWhile Text.isDecimalDigit rest <:+ rest := List.dropWhile_suffix _
      obtain ⟨digits, restEq⟩ := suffix
      rw [eq_of_beq same] at restEq
      rw [spelled, ← restEq, ← List.cons_append, List.getLast?_append]
      rfl
    next => cases named
  next => cases named

theorem isVersion_append (folder : FilePath) (name : String) :
    isVersion (folder ++ [name]) = (versionOf? name).isSome := by
  simp [isVersion]

/-- What is written beside a file before it takes its place is no version. -/
theorem isVersion_tmp (folder : FilePath) (name : String) :
    isVersion (folder ++ [name ++ ".tmp"]) = false := by
  rw [isVersion_append]
  cases named : versionOf? (name ++ ".tmp") with
  | none => rfl
  | some version =>
      have ends := getLast_of_versionOf? named
      simp at ends

theorem isVersion_lessonFile (folder : FilePath) : isVersion (folder ++ [lessonFile]) = false := by
  rw [isVersion_append]
  rfl

theorem isVersion_tracesFile (folder : FilePath) : isVersion (folder ++ [tracesFile]) = false := by
  rw [isVersion_append]
  rfl

/-- A file that is no version is another file than one that is. -/
private theorem ne_of_isVersion {path other : FilePath} (version : isVersion path = true)
    (plain : isVersion other = false) : path ≠ other := by
  intro same
  rw [same, plain] at version
  cases version

/-- Keeping a lesson leaves all versions of content as they are. -/
theorem read?_putLesson (tree : FileTree) (lesson : Lesson) {path : FilePath}
    (version : isVersion path = true) :
    (tree.applyAll (putLesson lesson)).read? path = tree.read? path := by
  rw [putLesson, FileTree.read?_replaceFile, if_neg (ne_of_isVersion version (isVersion_lessonFile _)),
    if_neg (ne_of_isVersion version (isVersion_tmp _ _))]

/-- Keeping a trace leaves all versions of content as they are. -/
theorem read?_addTrace (tree : FileTree) (trace : Trace) {path : FilePath}
    (version : isVersion path = true) :
    (tree.applyAll (addTrace trace)).read? path = tree.read? path := by
  have apart := ne_of_isVersion version (isVersion_tracesFile (folder trace.lessonId))
  rw [addTrace, FileTree.applyAll, List.foldl_cons, List.foldl_nil, FileTree.read?_append,
    if_neg apart]

/-- Keeping a version of content leaves all other versions as they are. -/
theorem read?_putContent (tree : FileTree) (content : Content) {path : FilePath}
    (version : isVersion path = true) :
    (tree.applyAll (putContent content)).read? path =
      if path = contentPath content then some (contentText content) else tree.read? path := by
  rw [putContent, FileTree.read?_replaceFile, if_neg (ne_of_isVersion version (isVersion_tmp _ _))]
  rfl

/-- What an operation changes: nothing, a lesson, a trace, or content that it was asked to keep. -/
theorem changes_cases (now : Timestamp) (minted : Nat) (tree : FileTree) {β : Type}
    {operation : Operation β} {sound : String → String → String → Prop}
    (keeps : operation.KeepsOnly sound) :
    (answer now minted tree operation).changes = [] ∨
      (∃ lesson, (answer now minted tree operation).changes = putLesson lesson) ∨
      (∃ trace, (answer now minted tree operation).changes = addTrace trace) ∨
      ∃ content, (answer now minted tree operation).changes = putContent content ∧
        sound content.sourceText content.moduleText content.sourceHash := by
  cases operation with
  | create lesson => exact Or.inr (Or.inl ⟨lesson, rfl⟩)
  | find id => exact Or.inl rfl
  | list limit => exact Or.inl rfl
  | claim id =>
      unfold answer
      dsimp only
      split
      · exact Or.inl rfl
      · split
        · exact Or.inr (Or.inl ⟨_, rfl⟩)
        · exact Or.inl rfl
      · exact Or.inl rfl
  | claimNext =>
      unfold answer
      dsimp only
      split
      · exact Or.inl rfl
      · exact Or.inl rfl
      · exact Or.inr (Or.inl ⟨_, rfl⟩)
  | setStatus id status =>
      unfold answer
      dsimp only
      split
      · exact Or.inl rfl
      · exact Or.inr (Or.inl ⟨_, rfl⟩)
      · exact Or.inl rfl
  | addContent id source code digest =>
      unfold answer
      dsimp only
      split
      · exact Or.inl rfl
      · exact Or.inr (Or.inr (Or.inr ⟨_, rfl, keeps⟩))
  | latestContent id => exact Or.inl rfl
  | appendTrace trace =>
      dsimp only [answer]
      split
      · exact Or.inl rfl
      · exact Or.inr (Or.inr (Or.inl ⟨trace, rfl⟩))
  | traces id =>
      dsimp only [answer]
      split
      · exact Or.inl rfl
      · exact Or.inl rfl

/-- A trace that is kept comes last in its file. -/
theorem changes_appendTrace {now : Timestamp} {minted : Nat} {tree : FileTree} {trace : Trace}
    (kept : (answer now minted tree (.appendTrace trace)).result = .ok ()) :
    (answer now minted tree (.appendTrace trace)).changes = addTrace trace := by
  dsimp only [answer] at kept ⊢
  split
  next there =>
    rw [if_pos there] at kept
    cases kept
  next => rfl

end Store.Files

namespace Store.Memory

/-- What becomes of the content: nothing, or a version comes last that was asked for. -/
theorem contents_cases (now : Timestamp) (store : Memory) {β : Type}
    {operation : Operation β} {sound : String → String → String → Prop}
    (keeps : operation.KeepsOnly sound) :
    (store.perform now operation).2.contents = store.contents ∨
      ∃ content, (store.perform now operation).2.contents = store.contents ++ [content] ∧
        sound content.sourceText content.moduleText content.sourceHash := by
  cases operation with
  | create lesson => exact Or.inl rfl
  | find id => exact Or.inl rfl
  | list limit => exact Or.inl rfl
  | claim id =>
      dsimp only [perform]
      split
      · split
        · exact Or.inl rfl
        · exact Or.inl rfl
      · exact Or.inl rfl
  | claimNext =>
      dsimp only [perform]
      split
      · exact Or.inl rfl
      · exact Or.inl rfl
      · exact Or.inl rfl
  | setStatus id status =>
      dsimp only [perform]
      split
      · exact Or.inl rfl
      · exact Or.inl rfl
  | addContent id source code digest =>
      dsimp only [perform]
      split
      · exact Or.inr ⟨_, rfl, keeps⟩
      · exact Or.inl rfl
  | latestContent id => exact Or.inl rfl
  | appendTrace trace => exact Or.inl rfl
  | traces id => exact Or.inl rfl

end Store.Memory

namespace AnyStore

/-- A store gains by an operation only what it was asked to keep. -/
theorem Answers.gains {before after : AnyStore} {β : Type} {operation : Store.Operation β}
    {answer : Except Failure β} {sound : String → String → String → Prop}
    (answers : Answers before operation answer after) (keeps : operation.KeepsOnly sound) :
    Gains (fun content => sound content.sourceText content.moduleText content.sourceHash)
      before after := by
  cases answers with
  | @files tree _ _ _ _ permitted =>
      obtain ⟨now, minted, _, rfl⟩ := permitted
      intro path text version held
      change (tree.applyAll (Store.Files.answer now minted tree operation).changes).read? path =
        some text at held
      rcases Store.Files.changes_cases now minted tree keeps with
        same | ⟨lesson, same⟩ | ⟨trace, same⟩ | ⟨content, same, soundTexts⟩
      · rw [same] at held
        exact Or.inl held
      · rw [same, Store.Files.read?_putLesson tree lesson version] at held
        exact Or.inl held
      · rw [same, Store.Files.read?_addTrace tree trace version] at held
        exact Or.inl held
      · rw [same, Store.Files.read?_putContent tree content version] at held
        split at held
        next here =>
          exact Or.inr ⟨content, soundTexts, here, (Option.some.inj held).symm⟩
        next => exact Or.inl held
  | @memory store _ _ _ _ permitted =>
      obtain ⟨now, _, rfl⟩ := permitted
      intro content member
      rcases Store.Memory.contents_cases now store keeps with same | ⟨added, same, soundTexts⟩
      · rw [same] at member
        exact Or.inl member
      · rw [same] at member
        rcases List.mem_append.mp member with old | new
        · exact Or.inl old
        · rw [List.mem_singleton.mp new]
          exact Or.inr soundTexts

end AnyStore
end Lectern
