/-
Module: Lectern.Proofs.Store.Chronicle
Purpose: What both stores tell of a lesson over all calls: the versions of its content are numbered
  one by one, the latest one is the last that was added, its traces are those that were appended in
  their order, and nothing that is done to other lessons has a part in it.
Trusted boundary: none
Main exports: Exchange, Memory.log, Files.log, Chronicle, Chronicle.Tells, AppendOnly,
  stores_append_only
-/
import Lectern.Proofs.Store.Agreement

namespace Lectern.Store

/-! ## Exchanges -/

/-- A call and what was answered to it. -/
structure Exchange where
  now : Timestamp
  {answer : Type}
  operation : Operation answer
  reply : Except Failure answer

namespace Exchange

/-- The call of an exchange. -/
def call (exchange : Exchange) : Call := ⟨exchange.now, exchange.operation⟩

/-- Does an exchange keep a lesson with this identifier? -/
def creates (id : String) : Exchange → Bool
  | ⟨_, .create lesson, .ok _⟩ => decide (lesson.id = id)
  | _ => false

/-- The content that an exchange added to a lesson. -/
def content? (id : String) : Exchange → Option Content
  | ⟨_, .addContent asked _ _ _, .ok content⟩ => if asked = id then some content else none
  | _ => none

/-- The trace that an exchange appended for a lesson. -/
def trace? (id : String) : Exchange → Option Trace
  | ⟨_, .appendTrace trace, .ok _⟩ => if trace.lessonId = id then some trace else none
  | _ => none

end Exchange

/-- Was a lesson with this identifier created? -/
def wasCreated (id : String) (log : List Exchange) : Bool := log.any (·.creates id)

/-- The content that was added to a lesson, the oldest first. -/
def contentAdded (id : String) (log : List Exchange) : List Content := log.filterMap (·.content? id)

/-- The traces that were appended for a lesson, the oldest first. -/
def tracesAppended (id : String) (log : List Exchange) : List Trace := log.filterMap (·.trace? id)

/-- Does a call name no other lesson than this one? -/
def Call.concerns (id : String) (call : Call) : Bool := call.operation.id?.all (· == id)

/-- The calls to a store in memory, one after the other, with what it answers. -/
def Memory.log : Memory → List Call → List Exchange
  | _, [] => []
  | store, ⟨now, operation⟩ :: calls =>
    let (reply, after) := store.perform now operation
    ⟨now, operation, reply⟩ :: log after calls

/-- The calls to a store of files, one after the other, with what it answers. -/
def Files.log (listing : Listing) : Nat → Nat → FileTree → List Call → List Exchange
  | _, _, _, [] => []
  | turn, minted, tree, ⟨now, operation⟩ :: calls =>
    let (reply, after, minted) := Files.perform now minted (listing.order turn tree) operation
    ⟨now, operation, reply⟩ :: log listing (turn + 1) minted after calls

/-- A store that answers calls tells of each lesson what was added to it before, all of it and in
order, and calls that name other lessons have no part in that. -/
structure AppendOnly (log : List Call → List Exchange) (calls : List Call) : Prop where
  answered : (log calls).map (·.call) = calls
  /-- Content is added to each lesson that was created, numbered one past the versions before. -/
  added : ∀ {before after now id source code digest reply},
    log calls = before ++ ⟨now, .addContent id source code digest, reply⟩ :: after →
    reply = if wasCreated id before then
        .ok ⟨id, (contentAdded id before).length + 1, source, code, digest, now⟩
      else .error (.unknownLesson id)
  /-- The versions that were answered count from one on, without a gap. -/
  numbered : ∀ id, (contentAdded id (log calls)).map (·.version) =
    List.range' 1 (contentAdded id (log calls)).length
  /-- The latest content is the last that was added. -/
  latest : ∀ {before after now id reply},
    log calls = before ++ ⟨now, .latestContent id, reply⟩ :: after →
    reply = .ok (contentAdded id before).getLast?
  /-- It is the one with the highest version. -/
  highest : ∀ {before after now id content},
    log calls = before ++ ⟨now, .latestContent id, .ok (some content)⟩ :: after →
    content ∈ contentAdded id before ∧
      ∀ other ∈ contentAdded id before, other ≠ content → other.version < content.version
  appended : ∀ {before after now trace reply},
    log calls = before ++ ⟨now, .appendTrace trace, reply⟩ :: after → reply = .ok ()
  /-- The traces are those that were appended, in their order and as they were. -/
  traces : ∀ {before after now id reply},
    log calls = before ++ ⟨now, .traces id, reply⟩ :: after →
    reply = .ok (tracesAppended id before)
  /-- What was read of them is a prefix of what is read later. -/
  grows : ∀ {before between after early late id read reply},
    log calls = before ++ ⟨early, .traces id, .ok read⟩ ::
      (between ++ ⟨late, .traces id, reply⟩ :: after) →
    ∃ more, reply = .ok (read ++ more)
  /-- All of this is the same without the calls that name other lessons. -/
  apart : ∀ {before after} id, log calls = before ++ after →
    let own := log ((before.map (·.call)).filter (·.concerns id))
    wasCreated id before = wasCreated id own ∧ contentAdded id before = contentAdded id own ∧
      tracesAppended id before = tracesAppended id own

/-! ## Chronicles -/

/-- What there is to tell of a lesson: was it created, the versions of its content and its traces. -/
structure Chronicle where
  created : Bool := false
  contents : List Content := []
  traces : List Trace := []

namespace Chronicle

/-- The content that comes next. -/
def next (chronicle : Chronicle) (now : Timestamp) (id source code digest : String) : Content :=
  ⟨id, chronicle.contents.length + 1, source, code, digest, now⟩

/-- What there is to tell of a lesson behind a call. -/
def note (id : String) (chronicle : Chronicle) : Call → Chronicle
  | ⟨_, .create lesson⟩ =>
    if lesson.id = id then { chronicle with created := true } else chronicle
  | ⟨now, .addContent asked source code digest⟩ =>
    if asked = id ∧ chronicle.created then
      { chronicle with contents :=
          chronicle.contents ++ [chronicle.next now id source code digest] }
    else chronicle
  | ⟨_, .appendTrace trace⟩ =>
    if trace.lessonId = id then { chronicle with traces := chronicle.traces ++ [trace] }
    else chronicle
  | _ => chronicle

/-- What is answered to a call that names a lesson is what there is to tell of it. -/
def Tells (id : String) (chronicle : Chronicle) : Exchange → Prop
  | ⟨_, .create _, reply⟩ => reply = .ok ()
  | ⟨now, .addContent asked source code digest, reply⟩ => asked = id →
    reply = if chronicle.created then .ok (chronicle.next now id source code digest)
      else .error (.unknownLesson id)
  | ⟨_, .latestContent asked, reply⟩ => asked = id → reply = .ok chronicle.contents.getLast?
  | ⟨_, .appendTrace _, reply⟩ => reply = .ok ()
  | ⟨_, .traces asked, reply⟩ => asked = id → reply = .ok chronicle.traces
  | _ => True

/-- All that is answered is what there is to tell, as it comes to be. -/
def Told (id : String) : Chronicle → List Exchange → Prop
  | _, [] => True
  | chronicle, exchange :: log =>
    chronicle.Tells id exchange ∧ Told id (chronicle.note id exchange.call) log

end Chronicle

/-- What there is to tell of a lesson by what a store in memory holds. -/
def Memory.chronicle (store : Memory) (id : String) : Chronicle where
  created := (store.find id).isSome
  contents := store.contentsOf id
  traces := store.tracesOf id

namespace Chronicle

variable {id : String} {chronicle : Chronicle} {exchange : Exchange}

/-- What is told adds to what there is to tell just what was added. -/
private theorem note_of_tells (tells : chronicle.Tells id exchange) :
    chronicle.note id exchange.call =
      ⟨chronicle.created || exchange.creates id,
        chronicle.contents ++ (exchange.content? id).toList,
        chronicle.traces ++ (exchange.trace? id).toList⟩ := by
  obtain ⟨created, contents, traces⟩ := chronicle
  obtain ⟨now, operation, reply⟩ := exchange
  cases operation with
  | create lesson =>
      cases (show reply = .ok () from tells)
      by_cases here : lesson.id = id
      · simp [Exchange.call, note, Exchange.creates, Exchange.content?, Exchange.trace?, here]
      · simp [Exchange.call, note, Exchange.creates, Exchange.content?, Exchange.trace?, here]
  | addContent asked source code digest =>
      by_cases here : asked = id
      · cases tells here
        cases created with
        | false =>
            simp [Exchange.call, note, Exchange.creates, Exchange.content?, Exchange.trace?]
        | true =>
            simp [Exchange.call, note, Exchange.creates, Exchange.content?, Exchange.trace?, here]
      · have nothing : Exchange.content? id ⟨now, .addContent asked source code digest, reply⟩ =
            none := by
          cases reply with
          | error failure => rfl
          | ok content => exact if_neg here
        simp [Exchange.call, note, Exchange.creates, Exchange.trace?, here, nothing]
  | appendTrace trace =>
      cases (show reply = .ok () from tells)
      by_cases here : trace.lessonId = id
      · simp [Exchange.call, note, Exchange.creates, Exchange.content?, Exchange.trace?, here]
      · simp [Exchange.call, note, Exchange.creates, Exchange.content?, Exchange.trace?, here]
  | _ => simp [Exchange.call, note, Exchange.creates, Exchange.content?, Exchange.trace?]

/-- A lesson that was created stays created. -/
theorem created_note (created : chronicle.created = true) (call : Call) :
    (chronicle.note id call).created = true := by
  obtain ⟨now, operation⟩ := call
  cases operation with
  | create lesson =>
      dsimp only [note]
      split
      · rfl
      · exact created
  | addContent asked source code digest =>
      dsimp only [note]
      split
      · exact created
      · exact created
  | appendTrace trace =>
      dsimp only [note]
      split
      · exact created
      · exact created
  | _ => exact created

/-- What there is to tell of a lesson behind some exchanges. -/
def behind (id : String) (chronicle : Chronicle) (log : List Exchange) : Chronicle :=
  (log.map (·.call)).foldl (note id) chronicle

private theorem behind_cons {log : List Exchange} : chronicle.behind id (exchange :: log) =
    (chronicle.note id exchange.call).behind id log := rfl

private theorem told_append {front back : List Exchange} (told : chronicle.Told id (front ++ back)) :
    chronicle.Told id front ∧ (chronicle.behind id front).Told id back := by
  induction front generalizing chronicle with
  | nil => exact ⟨trivial, told⟩
  | cons exchange front inductionHypothesis =>
      obtain ⟨first, told⟩ := told
      obtain ⟨told, later⟩ := inductionHypothesis told
      exact ⟨⟨first, told⟩, later⟩

/-- Behind all that was told there is to tell what was added by it. -/
private theorem behind_of_told {log : List Exchange} (told : chronicle.Told id log) :
    chronicle.behind id log =
      ⟨chronicle.created || wasCreated id log, chronicle.contents ++ contentAdded id log,
        chronicle.traces ++ tracesAppended id log⟩ := by
  induction log generalizing chronicle with
  | nil => simp [behind, wasCreated, contentAdded, tracesAppended]
  | cons exchange log inductionHypothesis =>
      obtain ⟨tells, told⟩ := told
      rw [behind_cons, inductionHypothesis told, note_of_tells tells]
      have added {α : Type} (part : Exchange → Option α) :
          (exchange :: log).filterMap part = (part exchange).toList ++ log.filterMap part := by
        cases found : part exchange with
        | none => simp [found]
        | some value => simp [found]
      simp only [wasCreated, contentAdded, tracesAppended, List.any_cons, added, Bool.or_assoc,
        List.append_assoc]

/-- A call that names another lesson adds nothing. -/
private theorem note_of_not_concerns {call : Call} (other : call.concerns id = false) :
    chronicle.note id call = chronicle := by
  obtain ⟨now, operation⟩ := call
  cases operation with
  | create lesson => exact if_neg (by simpa [Call.concerns, Operation.id?] using other)
  | addContent asked source code digest =>
      exact if_neg fun both => absurd both.1 (by simpa [Call.concerns, Operation.id?] using other)
  | appendTrace trace => exact if_neg (by simpa [Call.concerns, Operation.id?] using other)
  | _ => rfl

private theorem foldl_note_filter (calls : List Call) :
    (calls.filter (·.concerns id)).foldl (note id) chronicle = calls.foldl (note id) chronicle := by
  induction calls generalizing chronicle with
  | nil => rfl
  | cons call calls inductionHypothesis =>
      by_cases concerns : call.concerns id = true
      · rw [List.filter_cons_of_pos concerns, List.foldl_cons, List.foldl_cons, inductionHypothesis]
      · rw [List.filter_cons_of_neg concerns, List.foldl_cons, inductionHypothesis,
          note_of_not_concerns (Bool.eq_false_iff.mpr concerns)]

/-- Versions are numbered from one on. -/
def Numbered (chronicle : Chronicle) : Prop :=
  chronicle.contents.map (·.version) = List.range' 1 chronicle.contents.length

private theorem Numbered.note (numbered : chronicle.Numbered) (call : Call) :
    (chronicle.note id call).Numbered := by
  obtain ⟨now, operation⟩ := call
  cases operation with
  | create lesson =>
      by_cases here : lesson.id = id
      · simpa [Chronicle.note, here, Numbered] using numbered
      · simpa [Chronicle.note, here] using numbered
  | addContent asked source code digest =>
      by_cases here : asked = id ∧ chronicle.created = true
      · simp only [Chronicle.note, if_pos here, Numbered]
        rw [List.map_append, numbered, List.length_append, List.map_singleton,
          List.length_singleton, List.range'_1_concat, next, Nat.add_comm 1]
      · simpa only [Chronicle.note, if_neg here] using numbered
  | appendTrace trace =>
      by_cases here : trace.lessonId = id
      · simpa [Chronicle.note, here, Numbered] using numbered
      · simpa [Chronicle.note, here] using numbered
  | _ => exact numbered

private theorem Numbered.behind (numbered : chronicle.Numbered) (log : List Exchange) :
    (chronicle.behind id log).Numbered := by
  induction log generalizing chronicle with
  | nil => exact numbered
  | cons exchange log inductionHypothesis => exact inductionHypothesis (numbered.note _)

end Chronicle

/-! ## One call -/

namespace Memory

variable {store : Memory}

private theorem chronicle_put (store : Memory) (lesson : Lesson) (id : String) :
    (store.put lesson).chronicle id =
      if lesson.id = id then { store.chronicle id with created := true } else store.chronicle id := by
  by_cases here : lesson.id = id
  · rw [if_pos here, chronicle, find_put, if_pos here.symm]
    rfl
  · rw [if_neg here, chronicle, find_put, if_neg (Ne.symm here)]
    rfl

/-- Another status for a lesson of the store changes nothing of what there is to tell. -/
private theorem chronicle_withStatus {lesson : Lesson} (member : lesson ∈ store.lessons)
    (now : Timestamp) (status : Status) (id : String) :
    (store.put (withStatus now status lesson)).chronicle id = store.chronicle id := by
  rw [chronicle_put, id_withStatus]
  split
  next here =>
    have found : (store.find id).isSome = true :=
      List.find?_isSome.mpr ⟨lesson, member, beq_iff_eq.mpr here⟩
    simp [chronicle, found]
  next => rfl

private theorem chronicle_withContent (store : Memory) (content : Content) (id : String) :
    (store.withContent content).chronicle id =
      if content.lessonId = id then
        { store.chronicle id with contents := (store.chronicle id).contents ++ [content] }
      else store.chronicle id := by
  rw [chronicle, contentsOf_withContent]
  split
  next => rfl
  next => simp [chronicle, find, tracesOf, withContent]

private theorem chronicle_withTrace (store : Memory) (trace : Trace) (id : String) :
    (store.withTrace trace).chronicle id =
      if trace.lessonId = id then
        { store.chronicle id with traces := (store.chronicle id).traces ++ [trace] }
      else store.chronicle id := by
  rw [chronicle, tracesOf_withTrace]
  split
  next => rfl
  next => simp [chronicle, find, contentsOf, withTrace]

/-- What there is to tell behind a call to a store in memory is what the call adds to it. -/
theorem chronicle_perform (store : Memory) (call : Call) (id : String) :
    (store.perform call.now call.operation).2.chronicle id = (store.chronicle id).note id call := by
  obtain ⟨now, operation⟩ := call
  cases operation with
  | create lesson => exact chronicle_put store lesson id
  | claim asked =>
      dsimp only [perform]
      split
      next lesson found =>
        split
        next => exact chronicle_withStatus (List.mem_of_find?_eq_some found) now _ id
        next => rfl
      next => rfl
  | claimNext =>
      dsimp only [perform]
      split
      next => rfl
      next => rfl
      next lesson found => exact chronicle_withStatus (oldestQueued_spec found).1 now _ id
  | setStatus asked status =>
      dsimp only [perform]
      split
      next lesson found =>
        exact chronicle_withStatus (List.mem_of_find?_eq_some found) now status id
      next => rfl
  | addContent asked source code digest =>
      by_cases here : asked = id
      · subst here
        cases found : store.find asked with
        | none => simp [perform, found, Chronicle.note, chronicle]
        | some kept =>
            have after : (store.perform now (.addContent asked source code digest)).2 =
                store.withContent
                  ⟨asked, (store.contentsOf asked).length + 1, source, code, digest, now⟩ := by
              rw [perform, found]
              rfl
            have created : (store.chronicle asked).created = true := by simp [chronicle, found]
            rw [after, chronicle_withContent, if_pos rfl, Chronicle.note, if_pos ⟨rfl, created⟩]
            rfl
      · have noted : (store.chronicle id).note id ⟨now, .addContent asked source code digest⟩ =
            store.chronicle id := if_neg fun both => here both.1
        rw [noted]
        dsimp only [perform]
        split
        next => exact (chronicle_withContent store _ id).trans (if_neg here)
        next => rfl
  | appendTrace trace => exact chronicle_withTrace store trace id
  | _ => rfl

/-- A store in memory answers what there is to tell. -/
theorem tells_perform (store : Memory) (call : Call) (id : String) :
    (store.chronicle id).Tells id
      ⟨call.now, call.operation, (store.perform call.now call.operation).1⟩ := by
  obtain ⟨now, operation⟩ := call
  cases operation with
  | addContent asked source code digest =>
      rintro rfl
      cases found : store.find asked with
      | none => simp [perform, found, chronicle]
      | some kept => simp [perform, found, chronicle, Chronicle.next]
  | latestContent asked =>
      rintro rfl
      rfl
  | traces asked =>
      rintro rfl
      rfl
  | create lesson => rfl
  | appendTrace trace => rfl
  | _ => trivial

end Memory

namespace Mirrors

variable {known : List Lesson} {store : Memory} {tree : FileTree}

/-- Files that mirror a store in memory answer what there is to tell by it, and mirror one behind the
call by which there is to tell what the call adds. -/
theorem perform_tells (mirrors : Mirrors store tree) (sound : store.Sound known)
    (identifiers : ∀ lesson ∈ known, IsIdentifier lesson.id) {call : Call} (fits : call.Fits known)
    (minted : Nat) :
    ∃ reply after, Files.perform call.now minted tree call.operation = (reply, after, minted) ∧
      ∃ held : Memory, Mirrors held after ∧ held.Sound known ∧ ∀ id,
        held.chronicle id = (store.chronicle id).note id call ∧
          (store.chronicle id).Tells id ⟨call.now, call.operation, reply⟩ := by
  by_cases ranks : call.operation.Ranks
  · obtain ⟨now, operation⟩ := call
    cases operation with
    | list limit =>
        obtain ⟨lessons, read, -⟩ := mirrors.lessons_eq sound now minted
        refine ⟨newestFirst limit lessons, tree, ?_, store, mirrors, sound, fun _ => ⟨rfl, trivial⟩⟩
        simp [Files.perform, Files.answer, read, FileTree.applyAll, Except.bind]
    | claimNext =>
        obtain ⟨lessons, read, same⟩ := mirrors.lessons_eq sound now minted
        simp only [Files.perform, Files.answer, read, Except.bind]
        cases waiting : oldestQueued lessons with
        | error failure => exact ⟨_, tree, rfl, store, mirrors, sound, fun _ => ⟨rfl, trivial⟩⟩
        | ok found =>
            cases found with
            | none => exact ⟨_, tree, rfl, store, mirrors, sound, fun _ => ⟨rfl, trivial⟩⟩
            | some lesson =>
                have member := same.mem_iff.mp (oldestQueued_spec waiting).1
                obtain ⟨mirrored, kept⟩ :=
                  mirrors.changeStatus sound identifiers member fits.moment .generating
                refine ⟨_, _, rfl, _, mirrored, kept, fun id => ⟨?_, trivial⟩⟩
                exact Memory.chronicle_withStatus member now .generating id
    | _ => exact ranks.elim
  · obtain ⟨after, performed, mirrored, kept⟩ :=
      perform_agrees mirrors sound identifiers fits (fun does => absurd does ranks) minted
    exact ⟨_, after, performed, _, mirrored, kept, fun id =>
      ⟨store.chronicle_perform call id, store.tells_perform call id⟩⟩

end Mirrors

/-! ## All calls -/

theorem Memory.told_log (store : Memory) (calls : List Call) (id : String) :
    (store.chronicle id).Told id (store.log calls) := by
  induction calls generalizing store with
  | nil => trivial
  | cons call calls inductionHypothesis =>
      refine ⟨store.tells_perform call id, ?_⟩
      have later := inductionHypothesis (store.perform call.now call.operation).2
      rwa [store.chronicle_perform call id] at later

theorem Mirrors.told_log {known : List Lesson} {store : Memory} {tree : FileTree}
    (listing : Listing) (identifiers : ∀ lesson ∈ known, IsIdentifier lesson.id) {calls : List Call}
    (fits : ∀ call ∈ calls, call.Fits known) (mirrors : Mirrors store tree)
    (sound : store.Sound known) (turn minted : Nat) (id : String) :
    (store.chronicle id).Told id (Files.log listing turn minted tree calls) := by
  induction calls generalizing store tree turn with
  | nil => trivial
  | cons call calls inductionHypothesis =>
      obtain ⟨first, fits⟩ := List.forall_mem_cons.mp fits
      have listed := mirrors.of_perm (listing.same turn tree)
      obtain ⟨reply, after, performed, held, mirrored, kept, tells⟩ :=
        listed.perform_tells sound identifiers first minted
      obtain ⟨noted, tells⟩ := tells id
      have later := inductionHypothesis fits mirrored kept (turn + 1)
      rw [noted] at later
      rw [Files.log, performed]
      exact ⟨tells, later⟩

theorem Memory.map_call_log (store : Memory) (calls : List Call) :
    (store.log calls).map (·.call) = calls := by
  induction calls generalizing store with
  | nil => rfl
  | cons call calls inductionHypothesis => exact congrArg _ (inductionHypothesis _)

theorem Files.map_call_log (listing : Listing) (turn minted : Nat) (tree : FileTree)
    (calls : List Call) : (Files.log listing turn minted tree calls).map (·.call) = calls := by
  induction calls generalizing turn minted tree with
  | nil => rfl
  | cons call calls inductionHypothesis => exact congrArg _ (inductionHypothesis _ _ _)

section Telling

variable {log : List Call → List Exchange} {calls : List Call}

/-- What is told of a lesson, as it comes to be, is what was added to it. -/
private theorem tells_of_split {front back : List Exchange} {exchange : Exchange} {id : String}
    (told : Chronicle.Told id {} (log calls)) (split : log calls = front ++ exchange :: back) :
    Chronicle.Tells id ⟨wasCreated id front, contentAdded id front, tracesAppended id front⟩
      exchange := by
  rw [split] at told
  obtain ⟨before, tells, -⟩ := Chronicle.told_append told
  rw [Chronicle.behind_of_told before] at tells
  exact tells

/-- The last of versions that count from one on is the highest. -/
private theorem highest_of_numbered {contents : List Content} {last : Content}
    (numbered : contents.map (·.version) = List.range' 1 contents.length)
    (found : contents.getLast? = some last) :
    last ∈ contents ∧ ∀ other ∈ contents, other ≠ last → other.version < last.version := by
  obtain ⟨front, rfl⟩ := List.getLast?_eq_some_iff.mp found
  rw [List.map_append, List.length_append, List.map_singleton, List.length_singleton,
    List.range'_1_concat] at numbered
  obtain ⟨earlier, here⟩ := List.append_inj' numbered rfl
  refine ⟨by simp, fun other member apart => ?_⟩
  have before : other ∈ front := by simpa [apart] using member
  have counted : other.version ∈ front.map (·.version) := List.mem_map_of_mem before
  rw [earlier, List.mem_range'_1] at counted
  rw [List.cons.inj here |>.1]
  exact counted.2

/-- Whatever there is to tell is told, so nothing is lost and nothing is changed. -/
private theorem appendOnly_of_told (answered : ∀ some, (log some).map (·.call) = some)
    (told : ∀ some ⊆ calls, ∀ id, Chronicle.Told id {} (log some)) : AppendOnly log calls := by
  have all := told calls (List.Subset.refl _)
  have numbered {front back : List Exchange} (id : String) (split : log calls = front ++ back) :
      (contentAdded id front).map (·.version) = List.range' 1 (contentAdded id front).length := by
    have before := (Chronicle.told_append (split ▸ all id)).1
    have opening : Chronicle.Numbered {} := rfl
    have counted : (Chronicle.behind id {} front).Numbered := opening.behind front
    rw [Chronicle.behind_of_told before] at counted
    exact counted
  refine ⟨answered calls, fun split => ?_, fun id => ?_, fun split => ?_, fun split => ?_,
    fun split => ?_, fun split => ?_, fun split => ?_, fun {front _} id split => ?_⟩
  · exact tells_of_split (all _) split rfl
  · exact numbered id (List.append_nil _).symm
  · exact tells_of_split (all _) split rfl
  · exact highest_of_numbered (numbered _ split)
      (Except.ok.inj (tells_of_split (all _) split rfl)).symm
  · exact tells_of_split (all "") split
  · exact tells_of_split (all _) split rfl
  · have first := Except.ok.inj (tells_of_split (all _) split rfl)
    rw [← List.cons_append, ← List.append_assoc] at split
    have second := tells_of_split (all _) split rfl
    rw [first, second, tracesAppended, List.filterMap_append]
    exact ⟨_, rfl⟩
  · have asked := congrArg (List.map (·.call)) split
    rw [answered, List.map_append] at asked
    have included : (front.map (·.call)).filter (·.concerns id) ⊆ calls := fun call member =>
      asked ▸ List.mem_append_left _ (List.mem_filter.mp member).1
    have before := (Chronicle.told_append (split ▸ all id)).1
    have same := Chronicle.behind_of_told (told _ included id)
    rw [Chronicle.behind, answered, Chronicle.foldl_note_filter, ← Chronicle.behind,
      Chronicle.behind_of_told before] at same
    simpa using same

end Telling

/-- Both stores, if they hold nothing at first, only ever add to what they tell of a lesson: versions
of its content that count from one on, of which the latest is answered, and its traces, which are
answered as they were appended. In the store of files, whatever the order in which these are listed,
this takes lessons that are named by identifiers and moments, lessons and traces that are read back
as they were. -/
theorem stores_append_only (listing : Listing) (turn minted : Nat) (calls : List Call)
    (identifiers : ∀ call ∈ calls, ∀ id ∈ call.operation.id?, IsIdentifier id)
    (moments : ∀ call ∈ calls, call.now.ReadsBack)
    (lessons : ∀ lesson ∈ calls.filterMap (·.operation.created?), lesson.ReadsBack)
    (traces : ∀ trace ∈ calls.filterMap (·.operation.appended?), trace.ReadsBack) :
    AppendOnly (Memory.log {}) calls ∧ AppendOnly (Files.log listing turn minted {}) calls := by
  have fits := fits_of_calls identifiers moments lessons traces
  refine ⟨appendOnly_of_told (Memory.map_call_log {}) fun some _ id => Memory.told_log {} some id,
    appendOnly_of_told (Files.map_call_log listing turn minted {}) fun some included id => ?_⟩
  exact mirrors_empty.told_log listing (identifiers_of_created identifiers)
    (fun call member => fits call (included member)) (sound_empty _) turn minted id

/-- A lesson gets a version of content and a trace, is created again, and gets another of each; so
does a lesson beside it. -/
def createdAgain : List Call :=
  let one := waitingSince (seconds 1) "00000000000000000000000000000001"
  let other := waitingSince (seconds 1) "00000000000000000000000000000002"
  let trace (id : String) (number : Nat) (now : Timestamp) : Trace :=
    ⟨id, number, none, none, none, [], [], none, now⟩
  [⟨seconds 2, .addContent one.id "early" "code" "digest"⟩, ⟨seconds 3, .create one⟩,
    ⟨seconds 4, .create other⟩, ⟨seconds 5, .addContent one.id "first" "code" "digest"⟩,
    ⟨seconds 6, .appendTrace (trace one.id 1 (seconds 6))⟩, ⟨seconds 7, .traces one.id⟩,
    ⟨seconds 8, .addContent other.id "beside" "code" "digest"⟩, ⟨seconds 9, .create one⟩,
    ⟨seconds 10, .addContent one.id "second" "code" "digest"⟩,
    ⟨seconds 11, .appendTrace (trace one.id 2 (seconds 11))⟩, ⟨seconds 12, .latestContent one.id⟩,
    ⟨seconds 13, .traces one.id⟩]

theorem stores_append_only_created_again :
    AppendOnly (Memory.log {}) createdAgain ∧ AppendOnly (Files.log reversing 0 0 {}) createdAgain :=
  stores_append_only reversing 0 0 createdAgain (by decide +kernel) (by decide +kernel)
    (by decide +kernel) (by
      intro trace appended
      rcases List.mem_cons.mp appended with rfl | appended
      · exact Trace.readsBack_of_withoutFloats (by decide +kernel) (.obj (List.forall_mem_nil _)) rfl
          (.obj (List.forall_mem_nil _)) rfl
      · obtain rfl := List.mem_singleton.mp appended
        exact Trace.readsBack_of_withoutFloats (by decide +kernel) (.obj (List.forall_mem_nil _)) rfl
          (.obj (List.forall_mem_nil _)) rfl)

end Lectern.Store
