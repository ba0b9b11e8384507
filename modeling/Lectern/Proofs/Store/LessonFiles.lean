/-
Module: Lectern.Proofs.Store.LessonFiles
Purpose: What the files of lessons tell: the identifier and the status in the file of a lesson, and
  the versions of content beside it. The store of files does with them what is relied on.
Trusted boundary: none
Main exports: Files.told?, Files.told?_putLesson, Files.versions_eq, Files.ledger,
  Files.accounts, Files.inOrder_of_reaches
-/
import Lectern.Proofs.Json.Visible
import Lectern.Proofs.Lesson.ReadBack
import Lectern.Proofs.Store.Ledger
import Lectern.Proofs.Text.Trimming

namespace Lectern

open Schema

namespace Store.Files

/-! ## What the file of a lesson tells -/

/-- The data in the file of the lesson in a folder. -/
def told? (tree : FileTree) (place : FilePath) : Option Json :=
  (readText? tree (place ++ [lessonFile])).bind fun characters =>
    (Json.Parser.parseChars .record characters).toOption

/-- The status that the file of the lesson in a folder tells. -/
def status? (tree : FileTree) (place : FilePath) : Option Status :=
  (told? tree place).bind fun data => (Lesson.readStatus data).value?

/-- Files that are kept as lessons are: the one in a folder gives the lesson an identifier that
belongs to the folder. -/
def InOrder (tree : FileTree) : Prop :=
  ∀ place data, told? tree place = some data →
    ∃ own, Lesson.readId data = .valid own ∧ folder own = place

private theorem valid_of_check {α : Type} {read : Checked α} {value : α}
    (checked : check read = .ok value) : read = .valid value := by
  cases read with
  | valid part => rw [Except.ok.inj checked]
  | invalid faults => cases checked

/-- A lesson that is read from a text is the one in the data that the text holds. -/
theorem valid_of_readLesson {now : Timestamp} {minted more : Nat} {characters : List Char}
    {lesson : Lesson} (read : readLesson now minted characters = (.ok lesson, more)) :
    ∃ data freshId, Json.Parser.parseChars .record characters = .ok data ∧
      Lesson.read freshId now data = .valid lesson := by
  unfold readLesson readJson at read
  cases parsed : Json.Parser.parseChars .record characters with
  | error fault => simp [parsed] at read
  | ok data =>
      simp only [parsed] at read
      split at read
      next impossible => cases impossible
      next same =>
        cases same
        exact ⟨_, _, rfl, valid_of_check (congrArg Prod.fst read)⟩
      next same =>
        cases same
        exact ⟨_, _, rfl, valid_of_check (congrArg Prod.fst read)⟩

/-- A lesson that is read from the file in a folder is the one that the file tells of. -/
theorem told_of_readLesson {tree : FileTree} (ordered : InOrder tree) {place : FilePath}
    {now : Timestamp} {minted more : Nat} {characters : List Char} {lesson : Lesson}
    (held : readText? tree (place ++ [lessonFile]) = some characters)
    (read : readLesson now minted characters = (.ok lesson, more)) :
    folder lesson.id = place ∧ status? tree place = some lesson.status := by
  obtain ⟨data, freshId, parsed, valid⟩ := valid_of_readLesson read
  have told : told? tree place = some data := by simp [told?, held, parsed, Except.toOption]
  obtain ⟨own, ownRead, ownPlace⟩ := ordered place data told
  obtain ⟨statusRead, named⟩ := Lesson.parts_of_read valid
  rw [named own ownRead]
  refine ⟨ownPlace, ?_⟩
  simp [status?, told, statusRead, Checked.value?]

/-- Files that hold the same text at a path tell the same. -/
private theorem told?_congr {tree other : FileTree} {place : FilePath}
    (same : other.read? (place ++ [lessonFile]) = tree.read? (place ++ [lessonFile])) :
    told? other place = told? tree place := by
  simp only [told?, readText?, same]

/-- A lesson that was put is what its file holds. -/
theorem readText?_putLesson (tree : FileTree) (lesson : Lesson) :
    readText? (tree.applyAll (putLesson lesson)) (folder lesson.id ++ [lessonFile]) =
      some (Json.pretty Json.recordStyle (lesson.toJson .snake)).toList := by
  have held : (tree.applyAll (putLesson lesson)).read? (folder lesson.id ++ [lessonFile]) =
      some (Json.pretty Json.recordStyle (lesson.toJson .snake)) := by
    rw [putLesson, FileTree.read?_replaceFile, if_pos rfl]
  simp [readText?, held,
    Text.withPlainLineEnds_of_not_mem (Json.not_mem_pretty (lesson.toJson .snake))]

/-- A lesson that was put is what its file tells, and all others tell what they told. -/
theorem told?_putLesson (tree : FileTree) (lesson : Lesson) (place : FilePath) :
    told? (tree.applyAll (putLesson lesson)) place =
      if place = folder lesson.id then some (lesson.toJson .snake) else told? tree place := by
  have apart : lessonFile ≠ lessonFile ++ ".tmp" := by decide
  split
  next here =>
    subst here
    rw [told?, readText?_putLesson, Option.bind_some,
      Json.parseChars_pretty (lesson.withoutFloats_toJson .snake)]
    rfl
  next elsewhere =>
    apply told?_congr
    rw [putLesson, FileTree.read?_replaceFile, if_neg (by simpa using elsewhere),
      if_neg (by simp [apart])]

/-- Keeping a trace leaves the files of lessons as they are. -/
theorem read?_lessonFile_addTrace (tree : FileTree) (trace : Trace) (place : FilePath) :
    (tree.applyAll (addTrace trace)).read? (place ++ [lessonFile]) =
      tree.read? (place ++ [lessonFile]) := by
  have apart : lessonFile ≠ tracesFile := by decide
  rw [addTrace, FileTree.applyAll, List.foldl_cons, List.foldl_nil, FileTree.read?_append,
    if_neg (by simp [apart])]

/-- Keeping a trace changes nothing of what is told of lessons. -/
theorem told?_addTrace (tree : FileTree) (trace : Trace) (place : FilePath) :
    told? (tree.applyAll (addTrace trace)) place = told? tree place :=
  told?_congr (read?_lessonFile_addTrace tree trace place)

/-- Keeping content changes nothing of what is told of lessons. -/
theorem told?_putContent (tree : FileTree) (content : Content) (place : FilePath) :
    told? (tree.applyAll (putContent content)) place = told? tree place := by
  have apart (ending : String) : lessonFile ≠ versionFile content.version ++ ending := by
    intro same
    have first := congrArg (fun name => name.toList.head?) same
    simp [versionFile, lessonFile] at first
  apply told?_congr
  rw [putContent, FileTree.read?_replaceFile, if_neg ?_, if_neg ?_]
  · simp [apart]
  · have := apart ""
    simpa using fun _ => this

/-! ## Numbers of versions -/

private theorem decimal_of_isDigit {c : Char} (digit : c.isDigit = true) :
    Text.isDecimalDigit c = true ∧ Text.decimalValue? c = some (c.toNat - '0'.toNat) := by
  have all : ∀ code < 58, 48 ≤ code → Text.isDecimalDigit (Char.ofNat code) = true ∧
      Text.decimalValue? (Char.ofNat code) = some (code - '0'.toNat) := by
    decide
  simp only [Char.isDigit, Bool.and_eq_true, decide_eq_true_eq] at digit
  have least : 48 ≤ c.toNat := digit.1
  have most : c.toNat ≤ 57 := digit.2
  have here := all c.toNat (by omega) least
  rwa [Char.ofNat_toNat] at here

private theorem foldlM_decimal {digits : List Char} (all : ∀ c ∈ digits, c.isDigit = true)
    (number : Nat) :
    digits.foldlM (fun number c => (Text.decimalValue? c).map (10 * number + ·)) number =
      some (Nat.ofDigitChars 10 digits number) := by
  induction digits generalizing number with
  | nil => rfl
  | cons c digits inductionHypothesis =>
      have first := (decimal_of_isDigit (all c List.mem_cons_self)).2
      have rest := inductionHypothesis fun other member => all other (List.mem_cons_of_mem c member)
      simp [List.foldlM_cons, first, rest, Nat.ofDigitChars_cons]

/-- The file of a version is named for it. -/
theorem versionOf?_versionFile (version : Nat) : versionOf? (versionFile version) = some version := by
  have digits : ∃ zeros, (versionFile version).toList =
      'v' :: (List.replicate zeros '0' ++ Nat.toDigits 10 version ++ ".json".toList) := by
    refine ⟨4 - (toString version).length, ?_⟩
    simp [versionFile, Timestamp.padded]
  obtain ⟨zeros, spelled⟩ := digits
  have all : ∀ c ∈ List.replicate zeros '0' ++ Nat.toDigits 10 version, c.isDigit = true := by
    intro c member
    rcases List.mem_append.mp member with zero | digit
    · rw [List.eq_of_mem_replicate zero]
      rfl
    · exact Nat.isDigit_of_mem_toDigits (by decide) (by decide) digit
  have decimal : ∀ c ∈ List.replicate zeros '0' ++ Nat.toDigits 10 version,
      Text.isDecimalDigit c = true := fun c member => (decimal_of_isDigit (all c member)).1
  have some_digits : (List.replicate zeros '0' ++ Nat.toDigits 10 version).isEmpty = false := by
    simp [Nat.toDigits_ne_nil]
  unfold versionOf?
  rw [spelled]
  simp only [List.takeWhile_append_of_pos decimal, List.dropWhile_append_of_pos decimal]
  have stop : ".json".toList.takeWhile Text.isDecimalDigit = [] ∧
      ".json".toList.dropWhile Text.isDecimalDigit = ".json".toList := by decide
  rw [stop.1, stop.2, List.append_nil, if_pos (by decide), Text.decimalNumber?, some_digits]
  rw [if_neg (by decide), foldlM_decimal all]
  simp [Nat.ofDigitChars_append, Nat.ofDigitChars_replicate_zero]

/-! ## Versions of content -/

/-- The version that a file holds for a folder. -/
private def numbered (place path : FilePath) : Option (Nat × FilePath) :=
  match path.getLast? with
  | some name =>
    if path.dropLast == place ++ ["contents"] then (versionOf? name).map fun version => (version, path)
    else none
  | none => none

/-- The versions of content beside the lesson in a folder, with their files. -/
def versionsIn (tree : FileTree) (place : FilePath) : List (Nat × FilePath) :=
  tree.files.filterMap fun file => numbered place file.1

theorem versions_eq (tree : FileTree) (id : String) : versions tree id = versionsIn tree (folder id) :=
  rfl

private theorem numbered_of_plain {path : FilePath} (plain : isVersion path = false)
    (place : FilePath) : numbered place path = none := by
  unfold isVersion at plain
  unfold numbered
  split
  next name last =>
    rw [last] at plain
    cases named : versionOf? name with
    | none => split <;> rfl
    | some version => simp [named] at plain
  next => rfl

private theorem numbered_contentPath (place : FilePath) (content : Content) :
    numbered place (contentPath content) =
      if folder content.lessonId = place then some (content.version, contentPath content)
      else none := by
  simp [numbered, contentPath, contentFolder, versionOf?_versionFile]

private theorem versionsIn_write (tree : FileTree) (path : FilePath) (text : String)
    (place : FilePath) :
    versionsIn (tree.write path text) place =
      versionsIn tree place ++
        if (tree.read? path).isSome then [] else (numbered place path).toList := by
  have held : (tree.read? path).isSome = tree.files.any (·.1 == path) := by
    rw [Bool.eq_iff_iff]
    simp [FileTree.read?]
  rw [held]
  unfold versionsIn FileTree.write
  by_cases kept : tree.files.any (·.1 == path) = true
  · simp only [kept, if_true, List.append_nil, List.filterMap_map]
    congr 1
    funext file
    by_cases here : file.1 = path
    · simp [here]
    · simp [here]
  · simp only [if_neg kept, List.filterMap_append]
    congr 1

private theorem versionsIn_remove (tree : FileTree) {path : FilePath}
    (plain : isVersion path = false) (place : FilePath) :
    versionsIn (tree.remove path) place = versionsIn tree place := by
  unfold versionsIn FileTree.remove
  rw [List.filterMap_filter]
  congr 1
  funext file
  by_cases here : file.1 = path
  · simp [here, numbered_of_plain plain]
  · simp [here]

private theorem versionsIn_write_plain (tree : FileTree) {path : FilePath}
    (plain : isVersion path = false) (text : String) (place : FilePath) :
    versionsIn (tree.write path text) place = versionsIn tree place := by
  rw [versionsIn_write, numbered_of_plain plain]
  split <;> simp

/-- A file that is replaced counts among the versions if it did not before. -/
private theorem versionsIn_replaceFile (tree : FileTree) (folder : FilePath) (name text : String)
    (place : FilePath) :
    versionsIn (tree.applyAll (replaceFile folder name text)) place =
      versionsIn tree place ++
        if (tree.read? (folder ++ [name])).isSome then []
        else (numbered place (folder ++ [name])).toList := by
  have beside := isVersion_tmp folder name
  have apart : folder ++ [name] ≠ folder ++ [name ++ ".tmp"] := by
    simp [String.ext_iff]
  rw [FileTree.applyAll_replaceFile, versionsIn_write, versionsIn_remove _ beside,
    FileTree.read?_remove, if_neg apart]

/-- Keeping a lesson leaves the versions of content as they are. -/
theorem versionsIn_putLesson (tree : FileTree) (lesson : Lesson) (place : FilePath) :
    versionsIn (tree.applyAll (putLesson lesson)) place = versionsIn tree place := by
  rw [putLesson, versionsIn_replaceFile, numbered_of_plain (isVersion_lessonFile _)]
  simp

/-- Keeping a trace leaves the versions of content as they are. -/
theorem versionsIn_addTrace (tree : FileTree) (trace : Trace) (place : FilePath) :
    versionsIn (tree.applyAll (addTrace trace)) place = versionsIn tree place :=
  versionsIn_write_plain tree (isVersion_tracesFile _) _ place

/-- A version of content that was not there comes last among those beside its lesson. -/
theorem versionsIn_putContent (tree : FileTree) (content : Content)
    (fresh : tree.read? (contentPath content) = none) (place : FilePath) :
    versionsIn (tree.applyAll (putContent content)) place =
      versionsIn tree place ++
        if folder content.lessonId = place then [(content.version, contentPath content)] else [] := by
  rw [putContent, versionsIn_replaceFile]
  change _ ++ (if (tree.read? (contentPath content)).isSome then [] else
    (numbered place (contentPath content)).toList) = _
  rw [fresh, numbered_contentPath]
  by_cases here : folder content.lessonId = place
  · simp [here]
  · simp [here]

private theorem le_foldl_max (numbers : List Nat) (least : Nat) :
    least ≤ numbers.foldl max least ∧ ∀ number ∈ numbers, number ≤ numbers.foldl max least := by
  induction numbers generalizing least with
  | nil => simp
  | cons first rest inductionHypothesis =>
      obtain ⟨base, others⟩ := inductionHypothesis (max least first)
      rw [List.foldl_cons]
      refine ⟨by omega, ?_⟩
      intro number member
      rcases List.mem_cons.mp member with rfl | inside
      · omega
      · exact others number inside

/-- No file is named for a version past the latest. -/
theorem read?_pastLatest (tree : FileTree) (content : Content)
    (past : latestVersion tree content.lessonId < content.version) :
    tree.read? (contentPath content) = none := by
  cases held : tree.read? (contentPath content) with
  | none => rfl
  | some text =>
      obtain ⟨file, found, _⟩ := Option.map_eq_some_iff.mp held
      have same := List.find?_some found
      have here : file.1 = contentPath content := eq_of_beq same
      have counted : (content.version, contentPath content) ∈ versions tree content.lessonId := by
        rw [versions_eq, versionsIn, List.mem_filterMap]
        refine ⟨file, List.mem_of_find?_eq_some found, ?_⟩
        rw [here, numbered_contentPath, if_pos rfl]
      have most := (le_foldl_max ((versions tree content.lessonId).map (·.1)) 0).2 content.version
        (List.mem_map.mpr ⟨_, counted, rfl⟩)
      unfold latestVersion at past
      omega

/-! ## The ledger -/

/-- What is told of a store of files: a lesson is kept in its folder. -/
def ledger : Ledger FileTree FilePath where
  place := folder
  status? := status?
  versions tree place := (versionsIn tree place).length
  inOrder := InOrder

private theorem inOrder_congr {tree other : FileTree} (ordered : InOrder tree)
    (same : ∀ place, told? other place = told? tree place) : InOrder other := by
  intro place data held
  rw [same] at held
  exact ordered place data held

private theorem inOrder_putLesson {tree : FileTree} (ordered : InOrder tree) (lesson : Lesson) :
    InOrder (tree.applyAll (putLesson lesson)) := by
  intro place data held
  rw [told?_putLesson] at held
  split at held
  next here =>
    rw [← Option.some.inj held]
    exact ⟨_, Lesson.readId_toJson .snake _, here.symm⟩
  next => exact ordered place data held

/-- A lesson that is kept with a status moves on to it. -/
theorem moves_putLesson {tree : FileTree} (ordered : InOrder tree) (now : Timestamp)
    (status : Status) (lesson : Lesson) :
    ledger.Moves (folder lesson.id) status tree
      (tree.applyAll (putLesson (withStatus now status lesson))) where
  inOrder := inOrder_putLesson ordered _
  here := by
    change status? _ _ = _
    rw [status?, told?_putLesson, id_withStatus, if_pos rfl, Option.bind_some,
      Lesson.readStatus_toJson]
    rfl
  elsewhere other apart := by
    change status? _ _ = status? _ _
    rw [status?, told?_putLesson, id_withStatus, if_neg apart]
    rfl
  versions other := congrArg List.length (versionsIn_putLesson tree _ other)

/-- A version past the latest is one more. -/
theorem grows_putContent {tree : FileTree} (ordered : InOrder tree) (content : Content)
    (past : latestVersion tree content.lessonId < content.version) :
    ledger.Grows (folder content.lessonId) tree (tree.applyAll (putContent content)) where
  inOrder := inOrder_congr ordered (told?_putContent tree content)
  status other := by
    change status? _ _ = status? _ _
    rw [status?, told?_putContent]
    rfl
  here := by
    change (versionsIn _ _).length = (versionsIn _ _).length + 1
    rw [versionsIn_putContent tree content (read?_pastLatest tree content past), if_pos rfl,
      List.length_append]
    rfl
  elsewhere other apart := by
    change (versionsIn _ _).length = (versionsIn _ _).length
    rw [versionsIn_putContent tree content (read?_pastLatest tree content past),
      if_neg (Ne.symm apart), List.append_nil]

/-- A lesson that is found under an identifier is read from the file in its folder. -/
theorem readText?_of_find {tree : FileTree} {now : Timestamp} {minted more : Nat} {id : String}
    {lesson : Lesson} (answered : find now minted tree id = (.ok (some lesson), more)) :
    ∃ characters, readText? tree (folder id ++ [lessonFile]) = some characters ∧
      readLesson now minted characters = (.ok lesson, more) := by
  unfold find at answered
  split at answered
  next => cases answered
  next characters held =>
    refine ⟨characters, held, ?_⟩
    cases read : readLesson now minted characters with
    | mk result rest =>
        cases result with
        | error failure => simp [read, Except.map] at answered
        | ok other =>
            simp only [read, Except.map, Prod.mk.injEq, Except.ok.injEq, Option.some.injEq]
              at answered
            rw [answered.1, answered.2]

/-- What is found under an identifier: nothing, or the lesson that its file tells of. -/
private theorem told_of_find {tree : FileTree} (ordered : InOrder tree) {now : Timestamp}
    {minted more : Nat} {id : String} {found : Option Lesson}
    (answered : find now minted tree id = (.ok found, more)) :
    status? tree (folder id) = found.map (·.status) ∧
      ∀ lesson, found = some lesson → folder lesson.id = folder id := by
  cases found with
  | some lesson =>
      obtain ⟨characters, held, read⟩ := readText?_of_find answered
      obtain ⟨named, told⟩ := told_of_readLesson ordered held read
      refine ⟨told, ?_⟩
      intro other same
      rw [← Option.some.inj same]
      exact named
  | none =>
      unfold find at answered
      split at answered
      next absent =>
        refine ⟨by simp [status?, told?, absent], ?_⟩
        intro lesson impossible
        cases impossible
      next characters _ =>
        cases read : readLesson now minted characters with
        | mk result rest =>
            cases result with
            | error failure => simp [read, Except.map] at answered
            | ok lesson => simp [read, Except.map] at answered

/-- Each lesson of all that are read is read from one of the texts. -/
theorem readLesson_of_mem {now : Timestamp} {texts : List (List Char)} {minted more : Nat}
    {read : List Lesson} (answered : readLessons now minted texts = (.ok read, more))
    {lesson : Lesson} (member : lesson ∈ read) :
    ∃ characters ∈ texts, ∃ before behind,
      readLesson now before characters = (.ok lesson, behind) := by
  induction texts generalizing minted more read with
  | nil =>
      simp only [readLessons, Prod.mk.injEq, Except.ok.injEq] at answered
      rw [← answered.1] at member
      cases member
  | cons characters texts inductionHypothesis =>
      unfold readLessons at answered
      split at answered
      next => cases answered
      next first behind one =>
        cases others : readLessons now behind texts with
        | mk result rest =>
            cases result with
            | error failure => simp [others, Except.map] at answered
            | ok lessons =>
                simp only [others, Except.map, Prod.mk.injEq, Except.ok.injEq] at answered
                rw [← answered.1] at member
                rcases List.mem_cons.mp member with rfl | inside
                · exact ⟨characters, List.mem_cons_self, minted, behind, one⟩
                · obtain ⟨text, held, found⟩ := inductionHypothesis others inside
                  exact ⟨text, List.mem_cons_of_mem _ held, found⟩

/-- Each lesson of a store is read from the file in some folder. -/
theorem readText?_of_lessons {tree : FileTree} {now : Timestamp} {minted more : Nat}
    {read : List Lesson} (answered : lessons now minted tree = (.ok read, more)) {lesson : Lesson}
    (member : lesson ∈ read) :
    ∃ directory characters before behind,
      readText? tree ([directory] ++ [lessonFile]) = some characters ∧
        readLesson now before characters = (.ok lesson, behind) := by
  obtain ⟨characters, held, before, behind, one⟩ := readLesson_of_mem answered member
  obtain ⟨⟨path, text⟩, _, kept⟩ := List.mem_filterMap.mp held
  simp only at kept
  split at kept
  next directory name _ =>
    split at kept
    next named =>
      rw [eq_of_beq named] at kept
      exact ⟨directory, characters, before, behind, kept, one⟩
    next => cases kept
  next => cases kept

/-- Each lesson of a store is the one that the file in its folder tells of. -/
private theorem told_of_lessons {tree : FileTree} (ordered : InOrder tree) {now : Timestamp}
    {minted more : Nat} {read : List Lesson} (answered : lessons now minted tree = (.ok read, more))
    {lesson : Lesson} (member : lesson ∈ read) :
    status? tree (folder lesson.id) = some lesson.status := by
  obtain ⟨directory, characters, before, behind, inside, one⟩ :=
    readText?_of_lessons answered member
  obtain ⟨place, told⟩ := told_of_readLesson ordered inside one
  rw [place, told]

/-- The store of files does what is relied on. -/
theorem accounts : ledger.Accounts conduct where
  find {before after id found} ordered permitted := by
    obtain ⟨now, minted, answered, rfl⟩ := permitted
    exact ⟨rfl, told_of_find ordered (Prod.ext answered rfl)⟩
  claimed {before after id} ordered permitted := by
    obtain ⟨now, minted, answered, rfl⟩ := permitted
    simp only [perform, answer] at answered ⊢
    split at answered
    next => cases answered
    next lesson more found =>
      obtain ⟨told, named⟩ := told_of_find ordered found
      split at answered
      next queued =>
        have place := named lesson rfl
        have waiting : status? before (folder id) = some .queued := by
          rw [told, Option.map_some, eq_of_beq queued]
        refine ⟨waiting, ?_⟩
        simp only [queued, if_true, changeStatus]
        change ledger.Moves (folder id) _ _ _
        rw [← place]
        exact moves_putLesson ordered now .generating lesson
      next => cases answered
    next => cases answered
  refused {before after id} ordered permitted := by
    obtain ⟨now, minted, answered, rfl⟩ := permitted
    simp only [perform, answer] at answered ⊢
    split at answered
    next => cases answered
    next lesson more found =>
      obtain ⟨told, _⟩ := told_of_find ordered found
      split at answered
      next => cases answered
      next apart =>
        simp only [if_neg apart]
        refine ⟨?_, rfl⟩
        change status? before (folder id) ≠ _
        rw [told]
        simpa using apart
    next more found =>
      obtain ⟨told, _⟩ := told_of_find ordered found
      refine ⟨?_, rfl⟩
      change status? before (folder id) ≠ _
      rw [told]
      intro same
      cases same
  claimedNext {before after lesson} ordered permitted := by
    obtain ⟨now, minted, answered, rfl⟩ := permitted
    simp only [perform, answer] at answered ⊢
    split at answered
    next => cases answered
    next => cases answered
    next oldest next =>
      cases answered
      cases all : lessons now minted before with
      | mk result rest =>
          rw [all] at next
          cases result with
          | error failure => cases next
          | ok read =>
              obtain ⟨member, queued⟩ := oldestQueued_spec next
              have told := told_of_lessons ordered all member
              rw [queued] at told
              exact ⟨told, moves_putLesson ordered now .generating oldest⟩
  noneLeft {before after} _ permitted := by
    obtain ⟨now, minted, answered, rfl⟩ := permitted
    simp only [perform, answer] at answered ⊢
    split at answered
    next => cases answered
    next => rfl
    next => cases answered
  setStatus {before after id status lesson} ordered permitted := by
    obtain ⟨now, minted, answered, rfl⟩ := permitted
    simp only [perform, answer] at answered ⊢
    split at answered
    next => cases answered
    next kept more found =>
      obtain ⟨_, named⟩ := told_of_find ordered found
      change ledger.Moves (folder id) _ _ _
      rw [← named kept rfl]
      exact moves_putLesson ordered now status kept
    next => cases answered
  addContent {before after id source code digest content} ordered permitted := by
    obtain ⟨now, minted, answered, rfl⟩ := permitted
    simp only [perform, answer] at answered ⊢
    split at answered
    next => cases answered
    next text held =>
      exact grows_putContent ordered ⟨id, latestVersion before id + 1, source, code, digest, now⟩
        (Nat.lt_succ_self _)
  appendTrace {before after trace} ordered permitted := by
    obtain ⟨now, minted, answered, rfl⟩ := permitted
    rw [perform, changes_appendTrace answered]
    refine ⟨inOrder_congr ordered (told?_addTrace before trace), ?_, ?_⟩
    · intro place
      exact congrArg (Option.bind · fun data => (Lesson.readStatus data).value?)
        (told?_addTrace before trace place)
    · intro place
      exact congrArg List.length (versionsIn_addTrace before trace place)

/-- Every store of files that operations make of an empty one is in order. -/
theorem inOrder_of_reaches {tree : FileTree} (reaches : conduct.Reaches {} tree) :
    ledger.inOrder tree := by
  refine reaches.keeps ?_ ?_
  · rintro before after β operation result ordered ⟨now, minted, -, rfl⟩
    change InOrder (before.applyAll (answer now minted before operation).changes)
    have anything : operation.KeepsOnly fun _ _ _ => True := by
      cases operation <;> trivial
    rcases changes_cases now minted before anything with
      same | ⟨lesson, same⟩ | ⟨trace, same⟩ | ⟨content, same, _⟩
    · rw [same]
      exact ordered
    · rw [same]
      exact inOrder_putLesson ordered lesson
    · rw [same]
      exact inOrder_congr ordered (told?_addTrace before trace)
    · rw [same]
      exact inOrder_congr ordered (told?_putContent before content)
  · intro place data held
    cases held

end Store.Files

end Lectern
