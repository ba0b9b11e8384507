/-
Module: Lectern.Proofs.Store.Mirror
Purpose: Files that hold what a store in memory holds: which file there is for each lesson, version
  of content and list of traces, and what is read from them then, in whatever order the files are
  listed.
Trusted boundary: none
Main exports: IsIdentifier, Memory.text?, Memory.Sound, Mirrors, Mirrors.find_eq, Mirrors.lessons_eq,
  Mirrors.latestContent_eq, Mirrors.traces_eq
-/
import Lectern.Proofs.Store.Book
import Lectern.Proofs.Text.Trimming
import Mathlib.Data.List.Nodup

namespace Lectern.Store

/-! ## Identifiers -/

/-- A hexadecimal digit in lower or upper case. -/
def isHexDigit (c : Char) : Bool :=
  c.isDigit || ('a' ≤ c && c ≤ 'f') || ('A' ≤ c && c ≤ 'F')

/-- An identifier of a lesson has 32 hexadecimal digits. -/
structure IsIdentifier (id : String) : Prop where
  length : id.length = 32
  digits : ∀ c ∈ id.toList, isHexDigit c = true

instance (id : String) : Decidable (IsIdentifier id) :=
  decidable_of_iff (id.length = 32 ∧ id.toList.all isHexDigit = true)
    ⟨fun ⟨length, digits⟩ => ⟨length, List.all_eq_true.mp digits⟩,
      fun ⟨length, digits⟩ => ⟨length, List.all_eq_true.mpr digits⟩⟩

/-- The folder of a lesson is named for it. -/
theorem IsIdentifier.folder_eq {id : String} (identifier : IsIdentifier id) :
    Files.folder id = [id] := by
  have plain : ∀ c ∈ id.toList, (c == '/') = false := by
    intro c held
    rw [beq_eq_false_iff_ne]
    rintro rfl
    exact absurd (identifier.digits _ held) (by decide)
  have some : id ≠ "" := by
    rintro rfl
    exact absurd identifier.length (by decide)
  have other : id ≠ "." := by
    rintro rfl
    exact absurd identifier.length (by decide)
  rw [Files.folder, FilePath.ofText, Text.splitOn_of_forall plain]
  simp [some, other]

/-! ## What files hold -/

namespace Files

theorem versionFile_injective {one other : Nat} (same : versionFile one = versionFile other) :
    one = other := by
  have named := versionOf?_versionFile one
  rw [same, versionOf?_versionFile] at named
  exact (Option.some.inj named).symm

/-- How a lesson is kept. -/
def lessonText (lesson : Lesson) : String :=
  Json.pretty Json.recordStyle (lesson.toJson .snake)

end Files

namespace Memory

open Files (lessonFile tracesFile versionFile lessonText contentText traceLines)

/-- The traces of a lesson, the oldest first. -/
def tracesOf (store : Memory) (id : String) : List Trace := store.traces.filter (·.lessonId == id)

/-- What the file at a path holds if files hold what a store does. There is a file for each lesson
and each version of its content, and one for all traces of a lesson that has any. -/
def text? (store : Memory) : FilePath → Option String
  | [id, name] =>
    if name = lessonFile then (store.find id).map lessonText
    else if name = tracesFile ∧ store.tracesOf id ≠ [] then some (traceLines (store.tracesOf id))
    else none
  | [id, place, name] =>
    if place = "contents" then
      ((store.contentsOf id).find? fun content => versionFile content.version == name).map
        contentText
    else none
  | _ => none

/-- The text of the file of a version. -/
theorem text?_contents (store : Memory) (id name : String) :
    store.text? [id, "contents", name] =
      ((store.contentsOf id).find? fun content => versionFile content.version == name).map
        contentText := by
  rw [text?, if_pos rfl]

/-- What a store holds comes from what it was asked to keep: each lesson once and with the moment at
which it was made, the versions of its content numbered one by one. All of it is read back from what
is written of it. -/
structure Sound (known : List Lesson) (store : Memory) : Prop where
  distinct : (store.lessons.map (·.id)).Nodup
  lessons : ∀ lesson ∈ store.lessons, lesson.ReadsBack ∧
    ∃ first ∈ known, first.id = lesson.id ∧ first.createdAt = lesson.createdAt
  contents : ∀ content ∈ store.contents, content.createdAt.ReadsBack
  numbered : ∀ id, (store.contentsOf id).map (·.version) =
    List.range' 1 (store.contentsOf id).length
  traces : ∀ trace ∈ store.traces, trace.ReadsBack

/-- The versions of the content of a lesson are numbered from one up to their count. -/
theorem Sound.mem_version {known : List Lesson} {store : Memory} (sound : store.Sound known)
    (id : String) {version : Nat} : version ∈ (store.contentsOf id).map (·.version) ↔
      1 ≤ version ∧ version ≤ (store.contentsOf id).length := by
  rw [sound.numbered, List.mem_range'_1]
  omega

/-- The last version has the highest number. -/
theorem Sound.version_of_getLast? {known : List Lesson} {store : Memory} (sound : store.Sound known)
    {id : String} {content : Content} (last : (store.contentsOf id).getLast? = some content) :
    content.version = (store.contentsOf id).length := by
  have same := congrArg List.getLast? (sound.numbered id)
  have some : (store.contentsOf id).length ≠ 0 := by
    intro none
    rw [List.length_eq_zero_iff.mp none] at last
    cases last
  rw [List.getLast?_map, last, List.getLast?_range', if_neg some, Option.map_some,
    Option.some.injEq] at same
  omega

/-- There is one version with each number. -/
theorem Sound.eq_of_version {known : List Lesson} {store : Memory} (sound : store.Sound known)
    {id : String} {one other : Content} (first : one ∈ store.contentsOf id)
    (second : other ∈ store.contentsOf id) (same : one.version = other.version) : one = other := by
  have distinct : ((store.contentsOf id).map (·.version)).Nodup := by
    rw [sound.numbered]
    exact List.nodup_range'
  exact List.inj_on_of_nodup_map distinct first second same

end Memory

/-- Files hold what a store does, and nothing else. -/
structure Mirrors (store : Memory) (tree : FileTree) : Prop where
  distinct : (tree.files.map (·.1)).Nodup
  texts : ∀ path, tree.read? path = store.text? path

theorem FileTree.read?_eq_some_iff {tree : FileTree} (distinct : (tree.files.map (·.1)).Nodup)
    {path : FilePath} {text : String} : tree.read? path = some text ↔ (path, text) ∈ tree.files := by
  unfold FileTree.read?
  constructor
  · intro held
    obtain ⟨file, found, rfl⟩ := Option.map_eq_some_iff.mp held
    have same := List.find?_some found
    have here : file.1 = path := eq_of_beq same
    rw [← here]
    exact List.mem_of_find?_eq_some found
  · intro member
    have found := Keyed.find?_of_mem Prod.fst distinct member
    rw [found, Option.map_some]

theorem FileTree.read?_isSome {tree : FileTree} {path : FilePath} :
    (tree.read? path).isSome = true ↔ path ∈ tree.files.map (·.1) := by
  simp [FileTree.read?]

namespace Mirrors

variable {known : List Lesson} {store : Memory} {tree : FileTree}

/-- It does not matter in which order the files are listed. -/
theorem of_perm (mirrors : Mirrors store tree) {other : FileTree}
    (same : other.files.Perm tree.files) : Mirrors store other := by
  have distinct : (other.files.map (·.1)).Nodup :=
    ((same.map _).nodup_iff).mpr mirrors.distinct
  refine ⟨distinct, fun path => ?_⟩
  rw [← mirrors.texts]
  apply Option.ext
  intro text
  rw [FileTree.read?_eq_some_iff distinct, FileTree.read?_eq_some_iff mirrors.distinct,
    same.mem_iff]

theorem mem_paths (mirrors : Mirrors store tree) {path : FilePath} :
    path ∈ tree.files.map (·.1) ↔ (store.text? path).isSome = true := by
  rw [← FileTree.read?_isSome, mirrors.texts]

/-! ## Lessons -/

/-- The text of the file of a lesson. -/
theorem readText?_lessonFile (mirrors : Mirrors store tree) (id : String) :
    Files.readText? tree [id, Files.lessonFile] =
      (store.find id).map fun lesson => (Files.lessonText lesson).toList := by
  rw [Files.readText?, mirrors.texts, Memory.text?, if_pos rfl]
  cases store.find id with
  | none => rfl
  | some lesson =>
      exact congrArg some (Text.withPlainLineEnds_of_not_mem (Json.not_mem_pretty _))

theorem readLesson_lessonText {lesson : Lesson} (reads : lesson.ReadsBack) (now : Timestamp)
    (minted : Nat) :
    Files.readLesson now minted (Files.lessonText lesson).toList = (.ok lesson, minted) := by
  have parsed : Files.readJson (Files.lessonText lesson).toList = .ok (lesson.toJson .snake) := by
    rw [Files.readJson, Files.lessonText,
      Json.parseChars_pretty (lesson.withoutFloats_toJson .snake)]
  have named : Lesson.namesItself (lesson.toJson .snake) = true := rfl
  have read := reads (Identifier.plain minted) now
  unfold Lesson.toJson at parsed named read
  simp only [Files.readLesson, parsed, named, if_true, read, Files.check]

/-- What is found under an identifier. -/
theorem find_eq (mirrors : Mirrors store tree) (sound : store.Sound known) {id : String}
    (identifier : IsIdentifier id) (now : Timestamp) (minted : Nat) :
    Files.find now minted tree id = (.ok (store.find id), minted) := by
  rw [Files.find, identifier.folder_eq, List.singleton_append, mirrors.readText?_lessonFile]
  cases found : store.find id with
  | none => rfl
  | some lesson =>
      have reads := (sound.lessons lesson (List.mem_of_find?_eq_some found)).1
      simp only [Option.map_some, readLesson_lessonText reads, Except.map]

/-- The lesson that is kept at a path. -/
def lessonAt? (store : Memory) : FilePath → Option Lesson
  | [id, name] => if name = Files.lessonFile then store.find id else none
  | _ => none

theorem lessonAt?_eq_some_iff {path : FilePath} {lesson : Lesson} :
    lessonAt? store path = some lesson ↔
      path = [lesson.id, Files.lessonFile] ∧ store.find lesson.id = some lesson := by
  unfold lessonAt?
  split
  next id name =>
    split
    next here =>
      subst here
      constructor
      · intro found
        have same := Memory.id_of_find found
        exact ⟨by rw [same], by rwa [same]⟩
      · rintro ⟨same, found⟩
        cases same
        exact found
    next apart =>
      refine iff_of_false nofun fun both => apart ?_
      exact (List.cons.inj (List.cons.inj both.1).2).1
  next other =>
    refine iff_of_false nofun fun both => ?_
    exact other _ _ both.1

/-- The texts of all lessons, in the order in which the files are listed. -/
theorem lessonTexts_eq (mirrors : Mirrors store tree) :
    Files.lessonTexts tree = ((tree.files.map (·.1)).filterMap (lessonAt? store)).map
      fun lesson => (Files.lessonText lesson).toList := by
  rw [Files.lessonTexts, List.map_filterMap, List.filterMap_map]
  congr 1
  funext file
  obtain ⟨path, text⟩ := file
  simp only [Function.comp_apply]
  split
  next id name =>
    by_cases here : name = Files.lessonFile
    · subst here
      simp [lessonAt?, mirrors.readText?_lessonFile]
    · simp [lessonAt?, here]
  next other => rw [lessonAt?.eq_2 _ _ other, Option.map_none]

/-- The lessons that are kept are those that the store holds, in some order. -/
theorem lessons_perm (mirrors : Mirrors store tree) (sound : store.Sound known) :
    ((tree.files.map (·.1)).filterMap (lessonAt? store)).Perm store.lessons := by
  have single (path other : FilePath) (lesson : Lesson) (first : lesson ∈ lessonAt? store path)
      (second : lesson ∈ lessonAt? store other) : path = other :=
    (lessonAt?_eq_some_iff.mp first).1.trans (lessonAt?_eq_some_iff.mp second).1.symm
  rw [List.perm_ext_iff_of_nodup (List.Nodup.filterMap single mirrors.distinct)
    (List.Nodup.of_map _ sound.distinct)]
  intro lesson
  simp only [List.mem_filterMap, lessonAt?_eq_some_iff]
  constructor
  · rintro ⟨path, _, rfl, found⟩
    exact List.mem_of_find?_eq_some found
  · intro member
    have found := Memory.find_of_mem sound.distinct member
    refine ⟨_, mirrors.mem_paths.mpr ?_, rfl, found⟩
    rw [Memory.text?, if_pos rfl, found]
    rfl

theorem readLessons_lessonTexts {lessons : List Lesson}
    (reads : ∀ lesson ∈ lessons, lesson.ReadsBack) (now : Timestamp) (minted : Nat) :
    Files.readLessons now minted (lessons.map fun lesson => (Files.lessonText lesson).toList) =
      (.ok lessons, minted) := by
  induction lessons with
  | nil => rfl
  | cons lesson lessons inductionHypothesis =>
      obtain ⟨first, reads⟩ := List.forall_mem_cons.mp reads
      rw [List.map_cons, Files.readLessons, readLesson_lessonText first]
      simp only [inductionHypothesis reads, Except.map]

/-- All lessons are read, in some order. -/
theorem lessons_eq (mirrors : Mirrors store tree) (sound : store.Sound known) (now : Timestamp)
    (minted : Nat) :
    ∃ lessons, Files.lessons now minted tree = (.ok lessons, minted) ∧
      lessons.Perm store.lessons := by
  have same := mirrors.lessons_perm sound
  refine ⟨_, ?_, same⟩
  rw [Files.lessons, mirrors.lessonTexts_eq]
  refine readLessons_lessonTexts (fun lesson member => ?_) now minted
  exact (sound.lessons lesson (same.mem_iff.mp member)).1

/-! ## Content -/

open Files (versionFile versionOf? versionOf?_versionFile contentText)

/-- The versions that files are named for are those that the store holds. -/
theorem mem_versions (mirrors : Mirrors store tree) {id : String} (identifier : IsIdentifier id)
    {version : Nat} {path : FilePath} :
    (version, path) ∈ Files.versions tree id ↔
      version ∈ (store.contentsOf id).map (·.version) ∧
        path = [id, "contents", versionFile version] := by
  have place : Files.contentFolder id = [id, "contents"] := by
    rw [Files.contentFolder, identifier.folder_eq, List.singleton_append]
  rw [Files.versions, place, List.mem_filterMap]
  constructor
  · rintro ⟨⟨path, text⟩, member, found⟩
    simp only at found
    split at found
    next name last =>
      split at found
      next inside =>
        obtain ⟨version, named, same⟩ := Option.map_eq_some_iff.mp found
        cases same
        have whole := List.dropLast_append_getLast? name last
        rw [eq_of_beq inside] at whole
        have held := mirrors.mem_paths.mp (List.mem_map_of_mem member)
        rw [← whole, List.cons_append, List.cons_append, List.nil_append, Memory.text?_contents,
          Option.isSome_map, List.find?_isSome] at held
        obtain ⟨content, kept, same⟩ := held
        have same := eq_of_beq same
        rw [← same, versionOf?_versionFile] at named
        cases named
        exact ⟨List.mem_map_of_mem kept, by rw [← whole, same]; rfl⟩
      next => cases found
    next => cases found
  · rintro ⟨member, rfl⟩
    obtain ⟨content, kept, rfl⟩ := List.mem_map.mp member
    have held : [id, "contents", versionFile content.version] ∈ tree.files.map (·.1) := by
      rw [mirrors.mem_paths, Memory.text?_contents, Option.isSome_map, List.find?_isSome]
      exact ⟨content, kept, beq_self_eq_true _⟩
    obtain ⟨⟨path, text⟩, file, same⟩ := List.mem_map.mp held
    refine ⟨(path, text), file, ?_⟩
    simp only at same
    subst same
    simp [versionOf?_versionFile]

theorem latestVersion_eq (mirrors : Mirrors store tree) (sound : store.Sound known) {id : String}
    (identifier : IsIdentifier id) :
    Files.latestVersion tree id = (store.contentsOf id).length := by
  have numbers (version : Nat) : version ∈ (Files.versions tree id).map (·.1) ↔
      1 ≤ version ∧ version ≤ (store.contentsOf id).length := by
    rw [← sound.mem_version]
    constructor
    · intro member
      obtain ⟨⟨_, path⟩, held, rfl⟩ := List.mem_map.mp member
      exact ((mirrors.mem_versions identifier).mp held).1
    · intro member
      exact List.mem_map.mpr ⟨_, (mirrors.mem_versions identifier).mpr ⟨member, rfl⟩, rfl⟩
  rw [Files.latestVersion_eq, ← Files.versions_eq]
  by_cases none : (store.contentsOf id).length = 0
  · have empty : (Files.versions tree id).map (·.1) = [] := by
      rw [List.eq_nil_iff_forall_not_mem]
      intro version member
      have := (numbers version).mp member
      omega
    rw [empty, none]
    rfl
  · have most : ((Files.versions tree id).map (·.1)).max? = some (store.contentsOf id).length := by
      rw [List.max?_eq_some_iff]
      exact ⟨(numbers _).mpr (by omega), fun version member => ((numbers version).mp member).2⟩
    rw [most, Option.getD_some]

theorem readJson_contentText (content : Content) :
    Files.readJson (contentText content).toList = .ok content.toJson := by
  rw [Files.readJson, contentText, Json.parseChars_pretty content.withoutFloats_toJson]

/-- The text of the file of a version that the store holds. -/
theorem readText?_contentFile (mirrors : Mirrors store tree) (sound : store.Sound known) {id : String}
    {content : Content} (member : content ∈ store.contentsOf id) :
    Files.readText? tree [id, "contents", versionFile content.version] =
      some (contentText content).toList := by
  have found : (store.contentsOf id).find?
      (fun other => versionFile other.version == versionFile content.version) = some content := by
    cases first : (store.contentsOf id).find?
        (fun other => versionFile other.version == versionFile content.version) with
    | none => exact absurd (beq_self_eq_true _) (List.find?_eq_none.mp first content member)
    | some other =>
        have same := List.find?_some first
        have held := List.mem_of_find?_eq_some first
        rw [sound.eq_of_version held member (Files.versionFile_injective (eq_of_beq same))]
  rw [Files.readText?, mirrors.texts, Memory.text?_contents, found]
  exact congrArg some (Text.withPlainLineEnds_of_not_mem (Json.not_mem_pretty _))

/-- The latest version is read. -/
theorem latestContent_eq (mirrors : Mirrors store tree) (sound : store.Sound known) {id : String}
    (identifier : IsIdentifier id) (now : Timestamp) :
    Files.latestContent now tree id = .ok (store.contentsOf id).getLast? := by
  unfold Files.latestContent
  dsimp only
  rw [mirrors.latestVersion_eq sound identifier]
  cases latest : (store.contentsOf id).getLast? with
  | none =>
      have none : (Files.versions tree id).find? (·.1 == (store.contentsOf id).length) = none := by
        rw [List.find?_eq_none]
        rintro ⟨version, path⟩ member _
        have held := ((mirrors.mem_versions identifier).mp member).1
        rw [List.getLast?_eq_none_iff.mp latest] at held
        cases held
      rw [none]
      rfl
  | some content =>
      have member := List.mem_of_getLast? latest
      have version := sound.version_of_getLast? latest
      have listed : (content.version, [id, "contents", versionFile content.version]) ∈
          Files.versions tree id :=
        (mirrors.mem_versions identifier).mpr ⟨List.mem_map_of_mem member, rfl⟩
      rw [← version]
      cases found : (Files.versions tree id).find? (·.1 == content.version) with
      | none => exact absurd (beq_self_eq_true _) (List.find?_eq_none.mp found _ listed)
      | some entry =>
          have here := List.find?_some found
          have same : entry.1 = content.version := eq_of_beq here
          obtain ⟨number, path⟩ := entry
          cases same
          cases ((mirrors.mem_versions identifier).mp (List.mem_of_find?_eq_some found)).2
          have counted := (sound.mem_version id).mp (List.mem_map_of_mem member)
          have moment := sound.contents content (List.mem_of_mem_filter member)
          have read := Content.read_toJson moment counted.1 now
          rw [Option.bind_some]
          simp only [mirrors.readText?_contentFile sound member, readJson_contentText, read,
            Files.check, bind, Except.bind, pure, Except.pure]

/-! ## Traces -/

open Files (traceLines)

/-- The line that is written of a trace. -/
def traceLine (trace : Trace) : List Char :=
  (Json.compact Json.recordStyle trace.toJson).toList

theorem traceLines_cons (trace : Trace) (traces : List Trace) :
    (traceLines (trace :: traces)).toList =
      traceLine trace ++ '\n' :: (traceLines traces).toList := by
  simp [traceLines, traceLine]

theorem traceLine_ends (trace : Trace) :
    ∃ inside, traceLine trace = '\x7b' :: (inside ++ ['\x7d']) := by
  unfold traceLine Trace.toJson
  exact Json.compact_obj_ends _

/-- A line ends nowhere but at its end, and it has no blanks around it. -/
theorem traceLine_plain (trace : Trace) :
    (∀ c ∈ traceLine trace, (c == '\n') = false) ∧ '\r' ∉ traceLine trace ∧
      Text.trim (traceLine trace) = traceLine trace := by
  refine ⟨fun c held => ?_, Json.not_mem_compact _ (by decide), ?_⟩
  · rw [beq_eq_false_iff_ne]
    rintro rfl
    exact Json.not_mem_compact _ (by decide) held
  · obtain ⟨inside, spelled⟩ := traceLine_ends trace
    rw [spelled]
    refine Text.trimWhile_eq_self ?_ ?_
    · rw [List.head?_cons]
      rintro _ ⟨⟩
      rfl
    · rw [← List.cons_append, List.getLast?_concat]
      rintro _ ⟨⟩
      rfl

theorem lines_traceLines (traces : List Trace) :
    Text.splitOn (· == '\n') (traceLines traces).toList = traces.map traceLine ++ [[]] := by
  induction traces with
  | nil => rfl
  | cons trace traces inductionHypothesis =>
      rw [traceLines_cons, Text.splitOn_append_cons (traceLine_plain trace).1 (by decide),
        inductionHypothesis, List.map_cons, List.cons_append]

theorem not_mem_traceLines (traces : List Trace) : '\r' ∉ (traceLines traces).toList := by
  induction traces with
  | nil => exact List.not_mem_nil
  | cons trace traces inductionHypothesis =>
      rw [traceLines_cons, List.mem_append, List.mem_cons, not_or, not_or]
      exact ⟨(traceLine_plain trace).2.1, by decide, inductionHypothesis⟩

theorem readTraces_traceLines {traces : List Trace} (reads : ∀ trace ∈ traces, trace.ReadsBack)
    (now : Timestamp) :
    ((traces.map traceLine).mapM fun line => do
      Files.check (Trace.read now (← Files.readJson line))) = .ok traces := by
  induction traces with
  | nil => rfl
  | cons trace traces inductionHypothesis =>
      obtain ⟨⟨data, parsed, read⟩, reads⟩ := List.forall_mem_cons.mp reads
      have first : Files.readJson (traceLine trace) = .ok data := by
        rw [Files.readJson, traceLine, parsed]
      rw [List.map_cons, List.mapM_cons, inductionHypothesis reads, first]
      simp only [read now, Files.check, bind, Except.bind, pure, Except.pure]

/-- The lines that are not blank are those of the traces. -/
theorem fullLines_traceLines (traces : List Trace) :
    ((Text.splitOn (· == '\n') (traceLines traces).toList).map Text.trim).filter
      (fun line => !line.isEmpty) = traces.map traceLine := by
  have same : traces.map (Text.trim ∘ traceLine) = traces.map traceLine :=
    List.map_congr_left fun trace _ => by rw [Function.comp_apply, (traceLine_plain trace).2.2]
  have blank : ([[]] : List (List Char)).map Text.trim = [[]] := rfl
  rw [lines_traceLines, List.map_append, List.map_map, same, blank, List.filter_append,
    List.filter_eq_self.mpr]
  · simp
  · intro line member
    obtain ⟨trace, _, rfl⟩ := List.mem_map.mp member
    obtain ⟨inside, spelled⟩ := traceLine_ends trace
    rw [spelled]
    rfl

/-- The text of the file of traces of a lesson. -/
theorem readText?_tracesFile (mirrors : Mirrors store tree) (id : String) :
    Files.readText? tree [id, Files.tracesFile] =
      if store.tracesOf id = [] then none else some (traceLines (store.tracesOf id)).toList := by
  have apart : Files.tracesFile ≠ Files.lessonFile := by decide
  rw [Files.readText?, mirrors.texts, Memory.text?, if_neg apart]
  by_cases none : store.tracesOf id = []
  · simp [none]
  · simp [none, Text.withPlainLineEnds_of_not_mem (not_mem_traceLines _)]

/-- No folder stands in the place of the traces of a lesson. -/
theorem hasFolder_tracesFile (mirrors : Mirrors store tree) (id : String) :
    tree.hasFolder [id, Files.tracesFile] = false := by
  have apart : Files.tracesFile ≠ "contents" := by decide
  have nothing : (tree.below [id, Files.tracesFile]).files = [] := by
    refine List.filterMap_eq_nil_iff.mpr ?_
    rintro ⟨path, text⟩ member
    dsimp only
    rw [ite_eq_right_iff]
    intro inside
    rw [Bool.and_eq_true, List.isPrefixOf_iff_prefix] at inside
    obtain ⟨⟨rest, rfl⟩, longer⟩ := inside
    have held := (FileTree.read?_eq_some_iff mirrors.distinct).mpr member
    rw [mirrors.texts] at held
    match rest with
    | [] => simp at longer
    | [name] => simp [Memory.text?, apart] at held
    | _ :: _ :: _ => simp [Memory.text?] at held
  simp [FileTree.hasFolder, nothing]

/-- The traces of a lesson are read in the order in which they were appended. -/
theorem traces_eq (mirrors : Mirrors store tree) (sound : store.Sound known) {id : String}
    (identifier : IsIdentifier id) (now : Timestamp) :
    Files.traces now tree id = .ok (store.tracesOf id) := by
  have reads : ∀ trace ∈ store.tracesOf id, trace.ReadsBack :=
    fun trace member => sound.traces trace (List.mem_of_mem_filter member)
  rw [Files.traces, identifier.folder_eq, List.singleton_append, mirrors.readText?_tracesFile]
  by_cases none : store.tracesOf id = []
  · rw [if_pos none, none]
  · rw [if_neg none]
    simp only [fullLines_traceLines]
    exact readTraces_traceLines reads now

end Mirrors

/-! ## Changes -/

namespace FileTree

theorem distinct_apply {tree : FileTree} (distinct : (tree.files.map (·.1)).Nodup) (change : Change) :
    ((tree.apply change).files.map (·.1)).Nodup := by
  have written {tree : FileTree} (distinct : (tree.files.map (·.1)).Nodup) (path : FilePath)
      (text : String) : ((tree.write path text).files.map (·.1)).Nodup :=
    Keyed.nodup_put Prod.fst (path, text) tree.files distinct
  cases change with
  | write path text => exact written distinct path text
  | append path text => exact written distinct path _
  | rename source target =>
      unfold apply
      dsimp only
      split
      next => exact written (distinct.sublist (List.filter_sublist.map _)) target _
      next => exact distinct

/-- Changes leave each path once. -/
theorem distinct_applyAll {tree : FileTree} (distinct : (tree.files.map (·.1)).Nodup)
    (changes : List Change) : ((tree.applyAll changes).files.map (·.1)).Nodup := by
  induction changes generalizing tree with
  | nil => exact distinct
  | cons change changes inductionHypothesis =>
      exact inductionHypothesis (distinct_apply distinct change)

end FileTree

namespace Memory

open Files (lessonFile tracesFile versionFile lessonText contentText traceLines)

variable {known : List Lesson} {store : Memory}

/-- A store with one more version of content. -/
def withContent (store : Memory) (content : Content) : Memory :=
  { store with contents := store.contents ++ [content] }

/-- A store with one more trace. -/
def withTrace (store : Memory) (trace : Trace) : Memory :=
  { store with traces := store.traces ++ [trace] }

theorem contentsOf_withContent (store : Memory) (content : Content) (id : String) :
    (store.withContent content).contentsOf id =
      store.contentsOf id ++ if content.lessonId = id then [content] else [] := by
  by_cases here : content.lessonId = id
  · simp [contentsOf, withContent, here]
  · simp [contentsOf, withContent, here]

theorem tracesOf_withTrace (store : Memory) (trace : Trace) (id : String) :
    (store.withTrace trace).tracesOf id =
      store.tracesOf id ++ if trace.lessonId = id then [trace] else [] := by
  by_cases here : trace.lessonId = id
  · simp [tracesOf, withTrace, here]
  · simp [tracesOf, withTrace, here]

/-- A lesson that is put changes what its own file holds. -/
theorem text?_put (store : Memory) (lesson : Lesson) (path : FilePath) :
    (store.put lesson).text? path =
      if path = [lesson.id, lessonFile] then some (lessonText lesson) else store.text? path := by
  unfold text?
  split
  next id name =>
    rw [find_put]
    by_cases own : name = lessonFile
    · by_cases here : id = lesson.id
      · simp [own, here]
      · simp [own, here]
    · simp [own, tracesOf, put]
  next id place name => simp [contentsOf, put]
  next other apart _ =>
    rw [if_neg (apart _ _)]

/-- One more version of content comes with a file of its own. -/
theorem text?_withContent (sound : store.Sound known) {content : Content}
    (next : content.version = (store.contentsOf content.lessonId).length + 1) (path : FilePath) :
    (store.withContent content).text? path =
      if path = [content.lessonId, "contents", versionFile content.version] then
        some (contentText content)
      else store.text? path := by
  unfold text?
  split
  next id name => simp [find, tracesOf, withContent]
  next id place name =>
    rw [contentsOf_withContent]
    by_cases inside : place = "contents"
    · by_cases here : content.lessonId = id
      · subst here
        by_cases same : name = versionFile content.version
        · -- No version before has the number of the new one.
          have fresh : (store.contentsOf content.lessonId).find?
              (fun other => versionFile other.version == name) = none := by
            rw [List.find?_eq_none]
            intro other member named
            have number := (sound.mem_version _).mp (List.mem_map_of_mem member)
            rw [same, beq_iff_eq] at named
            have := Files.versionFile_injective named
            omega
          simp [inside, same, List.find?_append, same ▸ fresh]
        · have other : (versionFile content.version == name) = false := by
            simpa using Ne.symm same
          simp [inside, same, List.find?_append, other]
      · simp [inside, here, Ne.symm here]
    · simp [inside]
  next other _ apart => rw [if_neg (apart _ _ _)]

/-- One more trace comes behind those that the file of its lesson holds. -/
theorem text?_withTrace (store : Memory) (trace : Trace) (path : FilePath) :
    (store.withTrace trace).text? path =
      if path = [trace.lessonId, tracesFile] then
        some ((store.text? path).getD "" ++ traceLines [trace])
      else store.text? path := by
  have apart : tracesFile ≠ lessonFile := by decide
  have joined (traces : List Trace) :
      traceLines (traces ++ [trace]) = traceLines traces ++ traceLines [trace] := by
    simp [traceLines]
  unfold text?
  split
  next id name =>
    rw [tracesOf_withTrace]
    by_cases own : name = tracesFile
    · by_cases here : trace.lessonId = id
      · by_cases none : store.tracesOf id = []
        · simp [own, apart, here, none]
        · simp [own, apart, here, none, joined]
      · simp [own, apart, here, Ne.symm here]
    · simp [own, find, withTrace]
  next id place name => simp [contentsOf, withTrace]
  next other apart _ => rw [if_neg (apart _ _)]

/-! ### What stays so -/

theorem mem_put {lesson other : Lesson} (member : other ∈ (store.put lesson).lessons) :
    other = lesson ∨ other ∈ store.lessons := by
  unfold put at member
  dsimp only at member
  split at member
  next =>
    obtain ⟨kept, held, same⟩ := List.mem_map.mp member
    split at same
    next => exact .inl same.symm
    next => exact .inr (same ▸ held)
  next => exact (List.mem_append.mp member).symm.imp_left List.mem_singleton.mp

theorem Sound.put (sound : store.Sound known) {lesson : Lesson} (reads : lesson.ReadsBack)
    (made : ∃ first ∈ known, first.id = lesson.id ∧ first.createdAt = lesson.createdAt) :
    (store.put lesson).Sound known where
  distinct := Keyed.nodup_put Lesson.id lesson store.lessons sound.distinct
  lessons other member := by
    rcases mem_put member with rfl | held
    · exact ⟨reads, made⟩
    · exact sound.lessons other held
  contents := sound.contents
  numbered := sound.numbered
  traces := sound.traces

theorem Sound.withContent (sound : store.Sound known) {content : Content}
    (moment : content.createdAt.ReadsBack)
    (next : content.version = (store.contentsOf content.lessonId).length + 1) :
    (store.withContent content).Sound known where
  distinct := sound.distinct
  lessons := sound.lessons
  contents other member := by
    rcases List.mem_append.mp member with held | new
    · exact sound.contents other held
    · cases List.mem_singleton.mp new
      exact moment
  numbered id := by
    rw [contentsOf_withContent]
    split
    next here =>
      subst here
      rw [List.map_append, sound.numbered, List.length_append, List.map_singleton,
        List.length_singleton, List.range'_1_concat, next, Nat.add_comm 1]
    next => simpa using sound.numbered id
  traces := sound.traces

theorem Sound.withTrace (sound : store.Sound known) {trace : Trace} (reads : trace.ReadsBack) :
    (store.withTrace trace).Sound known where
  distinct := sound.distinct
  lessons := sound.lessons
  contents := sound.contents
  numbered := sound.numbered
  traces other member := by
    rcases List.mem_append.mp member with held | new
    · exact sound.traces other held
    · cases List.mem_singleton.mp new
      exact reads

/-! ### Files beside -/

theorem text?_tmp (store : Memory) (id : String) :
    store.text? [id, lessonFile ++ ".tmp"] = none := by
  have apart : lessonFile ++ ".tmp" ≠ lessonFile ∧ lessonFile ++ ".tmp" ≠ tracesFile := by decide
  simp [text?, apart]

theorem text?_contents_tmp (store : Memory) (id name : String) :
    store.text? [id, "contents", name ++ ".tmp"] = none := by
  rw [text?_contents, Option.map_eq_none_iff, List.find?_eq_none]
  intro content _ named
  have version := Files.isVersion_append [] (name ++ ".tmp")
  rw [Files.isVersion_tmp, ← eq_of_beq named, Files.versionOf?_versionFile] at version
  cases version

end Memory

namespace Mirrors

variable {known : List Lesson} {store : Memory} {tree : FileTree}

/-- Files mirror a lesson that is put. -/
theorem put (mirrors : Mirrors store tree) {lesson : Lesson} (identifier : IsIdentifier lesson.id) :
    Mirrors (store.put lesson) (tree.applyAll (Files.putLesson lesson)) := by
  refine ⟨FileTree.distinct_applyAll mirrors.distinct _, fun path => ?_⟩
  rw [Files.putLesson, FileTree.read?_replaceFile, identifier.folder_eq, List.singleton_append,
    List.singleton_append, Memory.text?_put, mirrors.texts]
  by_cases beside : path = [lesson.id, Files.lessonFile ++ ".tmp"]
  · simp [beside, Memory.text?_tmp]
  · rw [if_neg beside]
    rfl

/-- Files mirror one more version of content. -/
theorem withContent (mirrors : Mirrors store tree) (sound : store.Sound known) {content : Content}
    (identifier : IsIdentifier content.lessonId)
    (next : content.version = (store.contentsOf content.lessonId).length + 1) :
    Mirrors (store.withContent content) (tree.applyAll (Files.putContent content)) := by
  refine ⟨FileTree.distinct_applyAll mirrors.distinct _, fun path => ?_⟩
  have place (name : String) : Files.contentFolder content.lessonId ++ [name] =
      [content.lessonId, "contents", name] := by
    rw [Files.contentFolder, identifier.folder_eq]
    rfl
  rw [Files.putContent, FileTree.read?_replaceFile, place, place,
    Memory.text?_withContent sound next, mirrors.texts]
  by_cases beside : path = [content.lessonId, "contents", Files.versionFile content.version ++ ".tmp"]
  · rw [if_pos beside, beside, Memory.text?_contents_tmp]
    rfl
  · rw [if_neg beside]
    rfl

/-- Files mirror one more trace. -/
theorem withTrace (mirrors : Mirrors store tree) {trace : Trace}
    (identifier : IsIdentifier trace.lessonId) :
    Mirrors (store.withTrace trace) (tree.applyAll (Files.addTrace trace)) := by
  refine ⟨FileTree.distinct_applyAll mirrors.distinct _, fun path => ?_⟩
  have line : Files.traceLines [trace] =
      Json.compact Json.recordStyle trace.toJson ++ "\n" := by
    simp [Files.traceLines]
  rw [Files.addTrace, FileTree.applyAll, List.foldl_cons, List.foldl_nil, FileTree.read?_append,
    identifier.folder_eq, List.singleton_append, Memory.text?_withTrace, mirrors.texts,
    mirrors.texts, line]
  by_cases here : path = [trace.lessonId, Files.tracesFile]
  · rw [if_pos here, if_pos here, here]
  · rw [if_neg here, if_neg here]

end Mirrors

end Lectern.Store
