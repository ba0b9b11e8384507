/-
Module: Lectern.Proofs.Store.Ledger
Purpose: What a generator of lessons relies on in a store, whichever it is: where lessons are kept,
  which status they have and how many versions of content, and what each operation that succeeds
  does to that. The store in memory does it so.
Trusted boundary: none
Main exports: Ledger, Ledger.Moves, Ledger.Accounts, Memory.ledger, Memory.accounts
-/
import Lectern.Proofs.Store.Conduct
import Lectern.Proofs.Store.Gains
import Lectern.Proofs.Store.Order

namespace Lectern.Store

variable {σ κ : Type}

/-- What is told of the lessons in a store: the place where one with some identifier is kept, its
status and the number of versions of its content. Not every value of a type need be a store in
order. -/
structure Ledger (σ κ : Type) where
  place : String → κ
  status? : σ → κ → Option Status
  versions : σ → κ → Nat
  inOrder : σ → Prop

namespace Ledger

/-- Nothing that is told of a store is another behind a change. -/
structure Stays (ledger : Ledger σ κ) (before after : σ) : Prop where
  inOrder : ledger.inOrder after
  status : ∀ place, ledger.status? after place = ledger.status? before place
  versions : ∀ place, ledger.versions after place = ledger.versions before place

/-- The lesson at a place has a status behind a change, and nothing else is another. -/
structure Moves (ledger : Ledger σ κ) (place : κ) (status : Status) (before after : σ) : Prop where
  inOrder : ledger.inOrder after
  here : ledger.status? after place = some status
  elsewhere : ∀ other, other ≠ place → ledger.status? after other = ledger.status? before other
  versions : ∀ other, ledger.versions after other = ledger.versions before other

/-- The lesson at a place has one more version of content behind a change, and nothing else is
another. -/
structure Grows (ledger : Ledger σ κ) (place : κ) (before after : σ) : Prop where
  inOrder : ledger.inOrder after
  status : ∀ other, ledger.status? after other = ledger.status? before other
  here : ledger.versions after place = ledger.versions before place + 1
  elsewhere : ∀ other, other ≠ place → ledger.versions after other = ledger.versions before other

/-- What operations that succeed do to a store in order. -/
structure Accounts (ledger : Ledger σ κ) (conduct : Conduct σ) : Prop where
  find : ∀ {before after : σ} {id : String} {found : Option Lesson},
    ledger.inOrder before → conduct.permits before (.find id) (.ok found) after →
    after = before ∧ ledger.status? before (ledger.place id) = found.map (·.status) ∧
      ∀ lesson, found = some lesson → ledger.place lesson.id = ledger.place id
  claimed : ∀ {before after : σ} {id : String},
    ledger.inOrder before → conduct.permits before (.claim id) (.ok true) after →
    ledger.status? before (ledger.place id) = some .queued ∧
      ledger.Moves (ledger.place id) .generating before after
  refused : ∀ {before after : σ} {id : String},
    ledger.inOrder before → conduct.permits before (.claim id) (.ok false) after →
    ledger.status? before (ledger.place id) ≠ some .queued ∧ after = before
  claimedNext : ∀ {before after : σ} {lesson : Lesson},
    ledger.inOrder before → conduct.permits before .claimNext (.ok (some lesson)) after →
    ledger.status? before (ledger.place lesson.id) = some .queued ∧
      ledger.Moves (ledger.place lesson.id) .generating before after
  noneLeft : ∀ {before after : σ},
    ledger.inOrder before → conduct.permits before .claimNext (.ok none) after → after = before
  setStatus : ∀ {before after : σ} {id : String} {status : Status} {lesson : Lesson},
    ledger.inOrder before → conduct.permits before (.setStatus id status) (.ok lesson) after →
    ledger.Moves (ledger.place id) status before after
  addContent : ∀ {before after : σ} {id source code digest : String} {content : Content},
    ledger.inOrder before →
    conduct.permits before (.addContent id source code digest) (.ok content) after →
    ledger.Grows (ledger.place id) before after
  appendTrace : ∀ {before after : σ} {trace : Trace},
    ledger.inOrder before → conduct.permits before (.appendTrace trace) (.ok ()) after →
    ledger.Stays before after

end Ledger

/-! ## Lessons with another status -/

@[simp]
theorem id_withStatus (now : Timestamp) (status : Status) (lesson : Lesson) :
    (withStatus now status lesson).id = lesson.id := rfl

@[simp]
theorem status_withStatus (now : Timestamp) (status : Status) (lesson : Lesson) :
    (withStatus now status lesson).status = status := rfl

/-! ## The store in memory -/

namespace Memory

/-- A lesson that was put is found, and so are all others that were found before. -/
theorem find_put (store : Memory) (lesson : Lesson) (id : String) :
    (store.put lesson).find id = if id = lesson.id then some lesson else store.find id :=
  Keyed.find?_put Lesson.id lesson store.lessons id

/-- What is told of a store in memory. Each lesson is kept once. -/
def ledger : Ledger Memory String where
  place id := id
  status? store id := (store.find id).map (·.status)
  versions store id := (store.contentsOf id).length
  inOrder store := (store.lessons.map (·.id)).Nodup

theorem moves_put {store : Memory} (distinct : ledger.inOrder store) (now : Timestamp)
    (status : Status) (lesson : Lesson) :
    ledger.Moves lesson.id status store (store.put (withStatus now status lesson)) where
  inOrder := Keyed.nodup_put Lesson.id (withStatus now status lesson) store.lessons distinct
  here := by simp [ledger, find_put]
  elsewhere other apart := by simp [ledger, find_put, apart]
  versions _ := rfl

/-- A lesson that is found has the identifier asked for. -/
theorem id_of_find {store : Memory} {id : String} {lesson : Lesson}
    (found : store.find id = some lesson) : lesson.id = id := by
  have same := List.find?_some found
  exact eq_of_beq same

/-- Each lesson of a store in order is the one that is found. -/
theorem find_of_mem {store : Memory} (distinct : ledger.inOrder store) {lesson : Lesson}
    (member : lesson ∈ store.lessons) : store.find lesson.id = some lesson :=
  Keyed.find?_of_mem Lesson.id distinct member

/-- The store in memory does what is relied on. -/
theorem accounts : ledger.Accounts conduct where
  find {before after id found} _ permitted := by
    obtain ⟨now, answered, rfl⟩ := permitted
    cases answered
    refine ⟨rfl, rfl, ?_⟩
    intro lesson found
    exact id_of_find found
  claimed {before after id} ordered permitted := by
    obtain ⟨now, answered, rfl⟩ := permitted
    cases found : before.find id with
    | none => simp [perform, found] at answered
    | some lesson =>
        cases queued : lesson.status == .queued with
        | false => simp [perform, found, queued] at answered
        | true =>
            have told : ledger.status? before id = some .queued := by
              simp [ledger, found, eq_of_beq queued]
            simp only [perform, found, queued, if_true]
            rw [← id_of_find found] at told ⊢
            exact ⟨told, moves_put ordered now .generating lesson⟩
  refused {before after id} ordered permitted := by
    obtain ⟨now, answered, rfl⟩ := permitted
    cases found : before.find id with
    | none => simp [perform, found, ledger]
    | some lesson =>
        cases queued : lesson.status == .queued with
        | false =>
            have apart : lesson.status ≠ .queued := by
              intro same
              rw [same] at queued
              cases queued
            simp [perform, found, queued, ledger, apart]
        | true => simp [perform, found, queued] at answered
  claimedNext {before after lesson} ordered permitted := by
    obtain ⟨now, answered, rfl⟩ := permitted
    cases next : oldestQueued before.lessons with
    | error failure => simp [perform, next] at answered
    | ok found =>
        cases found with
        | none => simp [perform, next] at answered
        | some oldest =>
            obtain ⟨member, queued⟩ := oldestQueued_spec next
            have told : ledger.status? before oldest.id = some .queued := by
              simp [ledger, find_of_mem ordered member, queued]
            simp only [perform, next] at answered ⊢
            cases answered
            exact ⟨told, moves_put ordered now .generating oldest⟩
  noneLeft {before after} _ permitted := by
    obtain ⟨now, answered, rfl⟩ := permitted
    cases next : oldestQueued before.lessons with
    | error failure => simp [perform, next] at answered
    | ok found =>
        cases found with
        | none => simp [perform, next]
        | some oldest => simp [perform, next] at answered
  setStatus {before after id status lesson} ordered permitted := by
    obtain ⟨now, answered, rfl⟩ := permitted
    cases found : before.find id with
    | none => simp [perform, found] at answered
    | some kept =>
        simp only [perform, found]
        rw [← id_of_find found]
        exact moves_put ordered now status kept
  addContent {before after id source code digest content} ordered permitted := by
    obtain ⟨now, answered, rfl⟩ := permitted
    cases found : before.find id with
    | none => simp [perform, found] at answered
    | some kept =>
        simp only [perform, found]
        refine ⟨ordered, fun _ => rfl, ?_, ?_⟩
        · simp [ledger, contentsOf]
        · intro other apart
          change other ≠ id at apart
          have elsewhere : (id == other) = false := by simpa using Ne.symm apart
          simp [ledger, contentsOf, elsewhere]
  appendTrace {before after trace} ordered permitted := by
    obtain ⟨now, answered, rfl⟩ := permitted
    exact ⟨ordered, fun _ => rfl, fun _ => rfl⟩

/-- Whatever is asked of a store in order, each lesson is kept once behind it. -/
theorem inOrder_perform {store : Memory} (ordered : ledger.inOrder store) (now : Timestamp)
    {β : Type} (operation : Operation β) : ledger.inOrder (store.perform now operation).2 := by
  have put (lesson : Lesson) : ledger.inOrder (store.put lesson) :=
    Keyed.nodup_put Lesson.id lesson store.lessons ordered
  cases operation with
  | create lesson => exact put lesson
  | claim id =>
      dsimp only [perform]
      split
      · split
        · exact put _
        · exact ordered
      · exact ordered
  | claimNext =>
      dsimp only [perform]
      split
      · exact ordered
      · exact ordered
      · exact put _
  | setStatus id status =>
      dsimp only [perform]
      split
      · exact put _
      · exact ordered
  | addContent id source code digest =>
      dsimp only [perform]
      split
      · exact ordered
      · exact ordered
  | _ => exact ordered

/-- Every store in memory that operations make of an empty one is in order. -/
theorem inOrder_of_reaches {store : Memory} (reaches : conduct.Reaches {} store) :
    ledger.inOrder store := by
  refine reaches.keeps ?_ List.nodup_nil
  rintro before after β operation answer ordered ⟨now, -, rfl⟩
  exact inOrder_perform ordered now operation

end Memory

end Lectern.Store
