/-
Module: Lectern.Proofs.Store.Book
Purpose: What a store tells of one lesson beyond its status and the number of its versions: the
  latest version of its content and the traces it has come to hold, and what each operation of a run
  does to them. Both stores do it so.
Trusted boundary: none
Main exports: Book, Book.LeavesAlone, Book.Accounts, Book.Tracks, Book.Tracks.answer,
  Book.leavesAlone_of_moves, Memory.book, Memory.bookAccounts, Files.book, Files.bookAccounts
-/
import Lectern.Proofs.Program.Crowd
import Lectern.Proofs.Store.LessonFiles

namespace Lectern.Store

variable {σ κ τ : Type}

/-! ## Books -/

/-- Operations that add neither content nor a trace. -/
def Operation.AddsNothing {β : Type} : Operation β → Prop
  | .addContent _ _ _ _ => False
  | .appendTrace _ => False
  | _ => True

/-- A ledger that tells more of each lesson. -/
structure Book (σ κ : Type) extends Ledger σ κ where
  /-- The number of the latest version of content, if there is one. -/
  latest? : σ → κ → Option Nat
  /-- Behind the first store, the second has come to hold just these traces of the lesson at a
  place, in this order. -/
  adds : κ → List Trace → σ → σ → Prop

namespace Book

/-- Nothing that is told of the lesson at a place is another behind a change. -/
structure LeavesAlone (book : Book σ κ) (place : κ) (before after : σ) : Prop where
  inOrder : book.inOrder before → book.inOrder after
  status : book.status? after place = book.status? before place
  versions : book.versions after place = book.versions before place
  latest : book.latest? after place = book.latest? before place
  traces : book.adds place [] before after

/-- What operations that succeed do to a store in order. -/
structure Accounts (book : Book σ κ) (conduct : Conduct σ) : Prop where
  ledger : book.toLedger.Accounts conduct
  adds_nil : ∀ place store, book.adds place [] store store
  adds_append : ∀ {place : κ} {front back : List Trace} {first middle last : σ},
    book.adds place front first middle → book.adds place back middle last →
    book.adds place (front ++ back) first last
  addsNothing : ∀ {before after : σ} {β : Type} {operation : Operation β}
    {answer : Except Failure β},
    conduct.permits before operation answer after → operation.AddsNothing → ∀ place,
    book.latest? after place = book.latest? before place ∧ book.adds place [] before after
  addContent : ∀ {before after : σ} {id source code digest : String} {content : Content},
    conduct.permits before (.addContent id source code digest) (.ok content) after →
    book.latest? after (book.place id) = some content.version ∧
      (∀ other, other ≠ book.place id → book.latest? after other = book.latest? before other) ∧
      ∀ place, book.adds place [] before after
  appendTrace : ∀ {before after : σ} {trace : Trace},
    conduct.permits before (.appendTrace trace) (.ok ()) after →
    book.adds (book.place trace.lessonId) [trace] before after ∧
      (∀ other, other ≠ book.place trace.lessonId → book.adds other [] before after) ∧
      ∀ place, book.latest? after place = book.latest? before place

end Book

/-! ## What a run writes, and what is told then -/

/-- A program asks the store for nothing but to keep traces, content and the status of a lesson. -/
def WritesOnly (id : String) {β : Type} : Request τ β → Prop
  | .store (.appendTrace trace) => trace.lessonId = id
  | .store (.addContent asked _ _ _) => asked = id
  | .store (.setStatus asked _) => asked = id
  | .store _ => False
  | _ => True

namespace Book

/-- Behind some writes to the lesson at a place, a store tells of it what they come to. -/
structure Tracks (book : Book σ κ) (place : κ) (first now : σ) (writes : List Write) : Prop where
  inOrder : book.inOrder now
  status : book.status? now place =
    (writes.filterMap Write.status?).getLast?.or (book.status? first place)
  versions : book.versions now place =
    book.versions first place + (writes.filterMap Write.content?).length
  latest : book.latest? now place =
    ((writes.filterMap Write.content?).getLast?.map (·.version)).or (book.latest? first place)
  traces : book.adds place (writes.filterMap Write.trace?) first now

private theorem filterMap_snoc {α : Type} (told : Write → Option α) (writes : List Write)
    (write : Write) :
    (writes ++ [write]).filterMap told = writes.filterMap told ++ (told write).toList := by
  rw [List.filterMap_append]
  cases tells : told write with
  | none => simp [tells]
  | some value => simp [tells]

private theorem getLast?_toList {α : Type} (value : Option α) : value.toList.getLast? = value := by
  cases value with
  | none => rfl
  | some value => rfl

variable {book : Book σ κ} {conduct : Conduct σ} {place : κ} {first before after : σ}
  {writes : List Write}

theorem Tracks.refl (accounts : book.Accounts conduct) (ordered : book.inOrder first) (place : κ) :
    book.Tracks place first first [] where
  inOrder := ordered
  status := rfl
  versions := rfl
  latest := rfl
  traces := accounts.adds_nil place first

/-- What leaves the lesson alone changes nothing of what is told of it. -/
theorem Tracks.leavesAlone (accounts : book.Accounts conduct)
    (tracks : book.Tracks place first before writes) (alone : book.LeavesAlone place before after) :
    book.Tracks place first after writes where
  inOrder := alone.inOrder tracks.inOrder
  status := alone.status.trans tracks.status
  versions := alone.versions.trans tracks.versions
  latest := alone.latest.trans tracks.latest
  traces := by
    have both := accounts.adds_append tracks.traces alone.traces
    rwa [List.append_nil] at both

theorem leavesAlone_refl (accounts : book.Accounts conduct) (place : κ) (store : σ) :
    book.LeavesAlone place store store :=
  ⟨fun ordered => ordered, rfl, rfl, rfl, accounts.adds_nil place store⟩

/-- An operation that gives another lesson a status leaves this one alone. -/
theorem leavesAlone_of_moves (accounts : book.Accounts conduct) {other : κ} {status : Status}
    (moves : book.Moves other status before after) {β : Type} {operation : Operation β}
    {answer : Except Failure β} (permitted : conduct.permits before operation answer after)
    (nothing : operation.AddsNothing) (apart : other ≠ place) :
    book.LeavesAlone place before after := by
  obtain ⟨latest, traces⟩ := accounts.addsNothing permitted nothing place
  exact ⟨fun _ => moves.inOrder, moves.elsewhere place apart.symm, moves.versions place, latest,
    traces⟩

/-- One more write is all that the change to a store comes to. -/
theorem Tracks.snoc (accounts : book.Accounts conduct)
    (tracks : book.Tracks place first before writes) {write : Write} (ordered : book.inOrder after)
    (status : book.status? after place = write.status?.or (book.status? before place))
    (versions : book.versions after place =
      book.versions before place + write.content?.toList.length)
    (latest : book.latest? after place =
      (write.content?.map (·.version)).or (book.latest? before place))
    (traces : book.adds place write.trace?.toList before after) :
    book.Tracks place first after (writes ++ [write]) where
  inOrder := ordered
  status := by
    rw [status, tracks.status, filterMap_snoc, List.getLast?_append, getLast?_toList, Option.or_assoc]
  versions := by
    rw [versions, tracks.versions, filterMap_snoc, List.length_append, Nat.add_assoc]
  latest := by
    rw [latest, tracks.latest, filterMap_snoc, List.getLast?_append, getLast?_toList, Option.map_or,
      Option.or_assoc]
  traces := by
    rw [filterMap_snoc]
    exact accounts.adds_append tracks.traces traces

/-- Each request of a run that is answered does to its lesson what it wrote, and nothing else. -/
theorem Tracks.answer (accounts : book.Accounts conduct) {id : String}
    (tracks : book.Tracks (book.place id) first before writes) {β : Type} {request : Request τ β}
    {answer : Except Failure β} (allowed : WritesOnly id request)
    (answered : request.Answered conduct before answer after) (reliable : request.Reliable answer) :
    book.Tracks (book.place id) first after (writes ++ (request.write? answer).toList) := by
  by_cases leaves : request.LeavesStore
  · rw [answered.eq_of_leavesStore leaves, Request.write?_of_leavesStore leaves]
    rwa [Option.toList_none, List.append_nil]
  · cases request with
    | store operation =>
        obtain ⟨value, rfl⟩ := reliable
        cases operation with
        | setStatus asked status =>
            cases (show asked = id from allowed)
            have moves := accounts.ledger.setStatus tracks.inOrder answered
            obtain ⟨latest, traces⟩ := accounts.addsNothing answered trivial (book.place id)
            exact tracks.snoc accounts moves.inOrder moves.here (moves.versions _) latest traces
        | addContent asked source code digest =>
            cases (show asked = id from allowed)
            have grows := accounts.ledger.addContent tracks.inOrder answered
            obtain ⟨latest, _, traces⟩ := accounts.addContent answered
            exact tracks.snoc accounts grows.inOrder (grows.status _) grows.here latest (traces _)
        | appendTrace trace =>
            have here : trace.lessonId = id := allowed
            have stays := accounts.ledger.appendTrace tracks.inOrder answered
            obtain ⟨traces, _, latest⟩ := accounts.appendTrace answered
            rw [here] at traces
            exact tracks.snoc accounts stays.inOrder (stays.status _) (stays.versions _) (latest _)
              traces
        | _ => exact allowed.elim
    | _ => exact absurd trivial leaves

end Book

/-! ## The store in memory -/

namespace Memory

/-- What is told of a store in memory. -/
def book : Book Memory String where
  toLedger := ledger
  latest? store id := (store.contentsOf id).getLast?.map (·.version)
  adds id traces before after :=
    after.traces.filter (·.lessonId == id) = before.traces.filter (·.lessonId == id) ++ traces

/-- Operations that add neither content nor a trace leave both as they are. -/
private theorem perform_addsNothing (now : Timestamp) (store : Memory) {β : Type}
    {operation : Operation β} (nothing : operation.AddsNothing) :
    (store.perform now operation).2.contents = store.contents ∧
      (store.perform now operation).2.traces = store.traces := by
  cases operation with
  | addContent id source code digest => exact nothing.elim
  | appendTrace trace => exact nothing.elim
  | claim id =>
      dsimp only [perform]
      split
      · split
        · exact ⟨rfl, rfl⟩
        · exact ⟨rfl, rfl⟩
      · exact ⟨rfl, rfl⟩
  | claimNext =>
      dsimp only [perform]
      split
      · exact ⟨rfl, rfl⟩
      · exact ⟨rfl, rfl⟩
      · exact ⟨rfl, rfl⟩
  | setStatus id status =>
      dsimp only [perform]
      split
      · exact ⟨rfl, rfl⟩
      · exact ⟨rfl, rfl⟩
  | _ => exact ⟨rfl, rfl⟩

/-- The store in memory does what is relied on. -/
theorem bookAccounts : book.Accounts conduct where
  ledger := accounts
  adds_nil id store := (List.append_nil _).symm
  adds_append {id front back first middle last} one two := by
    change last.traces.filter _ = first.traces.filter _ ++ (front ++ back)
    rw [two, one, List.append_assoc]
  addsNothing {before after β operation answer} permitted nothing := by
    obtain ⟨now, _, rfl⟩ := permitted
    obtain ⟨contents, traces⟩ := perform_addsNothing now before nothing
    intro place
    simp [book, contentsOf, contents, traces]
  addContent {before after id source code digest content} permitted := by
    obtain ⟨now, answered, rfl⟩ := permitted
    cases found : before.find id with
    | none => simp [perform, found] at answered
    | some kept =>
        simp only [perform, found] at answered ⊢
        rw [← Except.ok.inj answered]
        refine ⟨by simp [book, ledger, contentsOf], ?_, fun place => (List.append_nil _).symm⟩
        intro other apart
        change other ≠ id at apart
        have elsewhere : (id == other) = false := by simpa using Ne.symm apart
        simp [book, contentsOf, elsewhere]
  appendTrace {before after trace} permitted := by
    obtain ⟨now, _, rfl⟩ := permitted
    refine ⟨by simp [book, ledger, perform], ?_, fun _ => rfl⟩
    intro other apart
    change other ≠ trace.lessonId at apart
    have elsewhere : (trace.lessonId == other) = false := by simpa using Ne.symm apart
    simp [book, perform, elsewhere]

end Memory

/-! ## The store of files -/

namespace Files

/-- The lines that the file of traces holds for some of them. -/
def traceLines (traces : List Trace) : String :=
  String.join (traces.map fun trace => Json.compact Json.recordStyle trace.toJson ++ "\n")

/-- The text of the file of traces in a folder. -/
def tracesText (tree : FileTree) (place : FilePath) : String :=
  (tree.read? (place ++ [tracesFile])).getD ""

/-- What is told of a store of files. -/
def book : Book FileTree FilePath where
  toLedger := ledger
  latest? tree place := ((versionsIn tree place).map (·.1)).max?
  adds place traces before after :=
    tracesText after place = tracesText before place ++ traceLines traces

theorem latestVersion_eq (tree : FileTree) (id : String) :
    latestVersion tree id = (((versionsIn tree (folder id)).map (·.1)).max?).getD 0 := by
  rw [latestVersion, versions_eq, List.foldl_max]
  exact Nat.zero_max _

/-- A number past all others is the greatest. -/
private theorem max?_append_past {numbers : List Nat} {past : Nat}
    (greater : numbers.max?.getD 0 < past) : (numbers ++ [past]).max? = some past := by
  rw [List.max?_eq_some_iff]
  refine ⟨by simp, ?_⟩
  intro number member
  rcases List.mem_append.mp member with inside | same
  · cases most : numbers.max? with
    | none =>
        rw [List.max?_eq_none_iff] at most
        rw [most] at inside
        cases inside
    | some greatest =>
        have := (List.max?_eq_some_iff.mp most).2 number inside
        rw [most] at greater
        exact Nat.le_of_lt (Nat.lt_of_le_of_lt this greater)
  · exact Nat.le_of_eq (List.mem_singleton.mp same)

/-- Content that is numbered one past the latest version is the latest then. -/
theorem latest?_putContent (tree : FileTree) (content : Content)
    (next : content.version = latestVersion tree content.lessonId + 1) :
    book.latest? (tree.applyAll (putContent content)) (folder content.lessonId) =
      some content.version := by
  have past : latestVersion tree content.lessonId < content.version := by omega
  have more := versionsIn_putContent tree content (read?_pastLatest tree content past)
    (folder content.lessonId)
  rw [if_pos rfl] at more
  change ((versionsIn _ _).map (·.1)).max? = _
  rw [more, List.map_append, List.map_singleton]
  apply max?_append_past
  rwa [← latestVersion_eq]

/-- It is no version of any other lesson. -/
theorem latest?_putContent_of_ne (tree : FileTree) (content : Content)
    (next : content.version = latestVersion tree content.lessonId + 1) {place : FilePath}
    (apart : place ≠ folder content.lessonId) :
    book.latest? (tree.applyAll (putContent content)) place = book.latest? tree place := by
  have past : latestVersion tree content.lessonId < content.version := by omega
  have same := versionsIn_putContent tree content (read?_pastLatest tree content past) place
  rw [if_neg (Ne.symm apart), List.append_nil] at same
  exact congrArg (fun versions => (versions.map (·.1)).max?) same

/-- Keeping a lesson leaves the traces as they are. -/
theorem tracesText_putLesson (tree : FileTree) (lesson : Lesson) (place : FilePath) :
    tracesText (tree.applyAll (putLesson lesson)) place = tracesText tree place := by
  have apart : tracesFile ≠ lessonFile := by decide
  have beside : tracesFile ≠ lessonFile ++ ".tmp" := by decide
  rw [tracesText, putLesson, FileTree.read?_replaceFile, if_neg (by simp [apart]),
    if_neg (by simp [beside])]
  rfl

/-- Keeping content leaves the traces as they are. -/
theorem tracesText_putContent (tree : FileTree) (content : Content) (place : FilePath) :
    tracesText (tree.applyAll (putContent content)) place = tracesText tree place := by
  have apart (ending : String) : tracesFile ≠ versionFile content.version ++ ending := by
    intro same
    have first := congrArg (fun name => name.toList.head?) same
    simp [versionFile, tracesFile] at first
  have plain := apart ""
  rw [String.append_empty] at plain
  rw [tracesText, putContent, FileTree.read?_replaceFile, if_neg (by simp [plain]),
    if_neg (by simp [apart])]
  rfl

/-- A trace that is kept comes behind those that were there. -/
theorem tracesText_addTrace (tree : FileTree) (trace : Trace) :
    tracesText (tree.applyAll (addTrace trace)) (folder trace.lessonId) =
      tracesText tree (folder trace.lessonId) ++ traceLines [trace] := by
  rw [tracesText, addTrace, FileTree.applyAll, List.foldl_cons, List.foldl_nil,
    FileTree.read?_append, if_pos rfl]
  simp [tracesText, traceLines]

/-- The traces of other lessons stay as they are. -/
theorem tracesText_addTrace_of_ne (tree : FileTree) (trace : Trace) {place : FilePath}
    (apart : place ≠ folder trace.lessonId) :
    tracesText (tree.applyAll (addTrace trace)) place = tracesText tree place := by
  rw [tracesText, addTrace, FileTree.applyAll, List.foldl_cons, List.foldl_nil,
    FileTree.read?_append, if_neg (by simpa using apart)]
  rfl

/-- Operations that add neither content nor a trace change nothing or keep a lesson. -/
private theorem changes_of_addsNothing (now : Timestamp) (minted : Nat) (tree : FileTree) {β : Type}
    {operation : Operation β} (nothing : operation.AddsNothing) :
    (answer now minted tree operation).changes = [] ∨
      ∃ lesson, (answer now minted tree operation).changes = putLesson lesson := by
  cases operation with
  | addContent id source code digest => exact nothing.elim
  | appendTrace trace => exact nothing.elim
  | create lesson => exact Or.inr ⟨lesson, rfl⟩
  | claim id =>
      dsimp only [answer]
      split
      · exact Or.inl rfl
      · split
        · exact Or.inr ⟨_, rfl⟩
        · exact Or.inl rfl
      · exact Or.inl rfl
  | claimNext =>
      dsimp only [answer]
      split
      · exact Or.inl rfl
      · exact Or.inl rfl
      · exact Or.inr ⟨_, rfl⟩
  | setStatus id status =>
      dsimp only [answer]
      split
      · exact Or.inl rfl
      · exact Or.inr ⟨_, rfl⟩
      · exact Or.inl rfl
  | traces id =>
      dsimp only [answer]
      split
      · exact Or.inl rfl
      · exact Or.inl rfl
  | _ => exact Or.inl rfl

/-- The store of files does what is relied on. -/
theorem bookAccounts : book.Accounts conduct where
  ledger := accounts
  adds_nil place tree := by simp [book, traceLines]
  adds_append {place front back first middle last} one two := by
    change tracesText last place = tracesText first place ++ traceLines (front ++ back)
    change tracesText middle place = tracesText first place ++ traceLines front at one
    change tracesText last place = tracesText middle place ++ traceLines back at two
    rw [two, one, String.append_assoc]
    simp [traceLines]
  addsNothing {before after β operation result} permitted nothing := by
    obtain ⟨now, minted, _, rfl⟩ := permitted
    intro place
    change book.latest? (before.applyAll (answer now minted before operation).changes) place = _ ∧
      book.adds place [] before (before.applyAll (answer now minted before operation).changes)
    rcases changes_of_addsNothing now minted before nothing with same | ⟨lesson, same⟩
    · rw [same]
      exact ⟨rfl, by simp [book, traceLines, FileTree.applyAll]⟩
    · rw [same]
      constructor
      · exact congrArg (fun versions => (versions.map (·.1)).max?)
          (versionsIn_putLesson before lesson place)
      · simp [book, traceLines, tracesText_putLesson]
  addContent {before after id source code digest content} permitted := by
    obtain ⟨now, minted, answered, rfl⟩ := permitted
    simp only [perform, answer] at answered ⊢
    split at answered
    next => cases answered
    next text held =>
      cases answered
      refine ⟨latest?_putContent before ⟨id, _, source, code, digest, now⟩ rfl, ?_, ?_⟩
      · intro other apart
        exact latest?_putContent_of_ne before ⟨id, _, source, code, digest, now⟩ rfl apart
      · intro place
        change tracesText _ place = _
        rw [tracesText_putContent]
        simp [traceLines]
  appendTrace {before after trace} permitted := by
    obtain ⟨now, minted, answered, rfl⟩ := permitted
    rw [perform, changes_appendTrace answered]
    refine ⟨tracesText_addTrace before trace, ?_, ?_⟩
    · intro other apart
      change tracesText (before.applyAll (addTrace trace)) other = _
      rw [tracesText_addTrace_of_ne before trace apart]
      simp [traceLines]
    · intro place
      exact congrArg (fun versions => (versions.map (·.1)).max?)
        (versionsIn_addTrace before trace place)

end Files

end Lectern.Store
