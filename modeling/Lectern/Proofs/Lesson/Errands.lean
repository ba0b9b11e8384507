/-
Module: Lectern.Proofs.Lesson.Errands
Purpose: All that is done with lessons, side by side over a store of either kind: they are created,
  generated, listed and looked at. What the store holds then is in order, and what it shows of a lesson
  it goes on to show until another version of its content is kept.
Trusted boundary: none
Main exports: Errand, Event.Credible, Attending, Attending.history, Attending.shows
-/
import Lectern.Lesson.Catalogue
import Lectern.Proofs.Generation.SoundContent
import Lectern.Proofs.Store.Holdings

namespace Lectern

open Store

variable {τ : Type}

/-- Something that is done with lessons. -/
inductive Errand where
  | generate (call : Call)
  | create (topic : String) (pedagogy : Option Pedagogy)
  | details (id : String)
  | list (limit : Int)
  | latestContent (id : String)
  | bundle (id : String)

/-- What is done for an errand. Only what is generated is reported. -/
def Errand.program [Seconds τ] (context : Run.Context τ) (patience : Nat) :
    Errand → Program τ (List Report)
  | .generate call => call.program context patience
  | .create topic pedagogy => do
    let _ ← Catalogue.create topic pedagogy
    return []
  | .details id => do
    let _ ← Catalogue.details id
    return []
  | .list limit => do
    let _ ← Catalogue.list limit
    return []
  | .latestContent id => do
    let _ ← Catalogue.latestContent id
    return []
  | .bundle id => do
    let _ ← Catalogue.bundle id
    return []

/-- Whoever has a lesson created asks for a font size that may be asked for. -/
def Errand.Fits : Errand → Prop
  | .create _ pedagogy => ∀ given ∈ pedagogy, given.accessibility.InRange
  | _ => True

/-! ## What errands ask for -/

/-- The answers that the world around gives: identifiers are made up as such, and a moment is one that
a date can hold. -/
def Request.Credible {β : Type} : Request τ β → Except Failure β → Prop
  | .freshId, .ok id => IsIdentifier id
  | .moment, .ok now => now.ReadsBack
  | _, _ => True

/-- An event with such an answer. -/
def Event.Credible (event : Event τ) : Prop := event.request.Credible event.answer

/-- Who makes up identifiers as such, and gives a moment that a date can hold, answers so each time. -/
theorem Setting.credible_play {σ : Type} {setting : Setting τ σ}
    (identifier : IsIdentifier setting.fresh) (moment : setting.now.ReadsBack) (crowd : Crowd τ σ)
    (callers : List Nat) : ∀ moment ∈ setting.play crowd callers, moment.event.Credible := by
  induction callers generalizing crowd with
  | nil => exact List.forall_mem_nil _
  | cons caller callers inductionHypothesis =>
      unfold play
      split
      next β request next waits =>
        refine List.forall_mem_cons.mpr ⟨?_, inductionHypothesis _⟩
        cases request with
        | freshId => exact identifier
        | moment => exact moment
        | _ => trivial
      next => exact inductionHypothesis crowd

/-- Nothing is asked of the store but to keep what is in order. -/
def Request.Proper {β : Type} : Request τ β → Prop
  | .store operation => operation.Proper SoundTexts
  | _ => True

/-- Errands keep the store in order, if the world around answers as it does. -/
def errands (τ : Type) : Discipline τ Unit where
  allows _ _ request := request.Proper
  expects _ _ request answer := request.Credible answer
  after _ _ _ _ := ()

namespace Errand

open Program

/-- Whatever a program ends with, it asks for nothing else. -/
private abbrev Minds {α : Type} (program : Program τ α) : Prop :=
  program.Keeps (errands τ) (fun _ _ => True) ()

private theorem minds_then {α β : Type} {request : Request τ α} {next : α → Program τ β}
    (proper : request.Proper)
    (goes : ∀ value, request.Credible (.ok value) → Minds (next value)) :
    Minds (Program.call request >>= next) := by
  unfold Minds
  rw [keeps_bind', keeps_call]
  refine ⟨proper, ?_⟩
  intro answer credible
  cases answer with
  | ok value => exact goes value credible
  | error failure => trivial

private theorem minds_bind {α β : Type} {program : Program τ α} {next : α → Program τ β}
    (first : Minds program) (goes : ∀ value, Minds (next value)) : Minds (program >>= next) := by
  unfold Minds
  rw [keeps_bind']
  refine first.mono ?_
  intro _ result _
  cases result with
  | ok value => exact goes value
  | error failure => trivial

private theorem minds_call [Seconds τ] {context : Run.Context τ} {patience : Nat} (call : Call) :
    Minds (call.program context patience) := by
  refine (Run.running_call call).allowing ?_ (fun _ _ _ _ _ => trivial) (fun _ _ _ _ => rfl)
  intro _ β request asked
  cases request with
  | store operation =>
      cases operation with
      | create lesson => exact asked.elim
      | addContent id source code digest => exact asked
      | _ => trivial
  | _ => trivial

private theorem minds_create {topic : String} {pedagogy : Option Pedagogy}
    (fits : ∀ given ∈ pedagogy, given.accessibility.InRange) :
    Minds (Catalogue.create topic pedagogy : Program τ Lesson) := by
  unfold Catalogue.create
  split
  · trivial
  · refine minds_then trivial ?_
    intro id identifier
    refine minds_then trivial ?_
    intro now moment
    refine minds_then ⟨identifier, ?_⟩ fun _ _ => trivial
    exact Lesson.readsBack_of_inRange fits moment moment

private theorem minds_find (id : String) : Minds (Catalogue.find id : Program τ Lesson) := by
  refine minds_then trivial ?_
  intro found _
  cases found with
  | none => trivial
  | some lesson => trivial

/-- What only looks at a lesson and its content keeps nothing. -/
private theorem minds_bundle (id : String) :
    Minds (Catalogue.bundle id : Program τ (Option Bundle)) := by
  refine minds_bind (minds_find id) fun _ => minds_then trivial ?_
  intro latest _
  cases latest with
  | none => trivial
  | some content => trivial

/-- Every errand asks for nothing but what is in order. -/
theorem keeps_program [Seconds τ] {context : Run.Context τ} {patience : Nat} {errand : Errand}
    (fits : errand.Fits) :
    (errand.program context patience).Keeps (errands τ) (fun _ _ => True) () := by
  cases errand with
  | generate call => exact minds_call call
  | create topic pedagogy => exact minds_bind (minds_create fits) fun _ => trivial
  | details id =>
      refine minds_bind (minds_bind (minds_find id) fun _ => ?_) fun _ => trivial
      exact minds_then trivial fun _ _ => minds_then trivial fun _ _ => trivial
  | list limit => exact minds_then trivial fun _ _ => trivial
  | latestContent id =>
      refine minds_bind (minds_bind (minds_find id) fun _ => ?_) fun _ => trivial
      exact keeps_store.mpr ⟨trivial, fun _ _ => trivial⟩
  | bundle id => exact minds_bind (minds_bundle id) fun _ => trivial

end Errand

/-! ## Errands side by side -/

/-- Errands that have just been begun. -/
def Crowd.attending [Seconds τ] (context : Run.Context τ) (patience : Nat) (errands : List Errand)
    (store : AnyStore) : Crowd τ AnyStore where
  store
  programs := errands.map (Errand.program context patience)

/-- All go on with errands, and what the store holds is in order. -/
structure Attending (crowd : Crowd τ AnyStore) : Prop where
  fits : ∃ situations, (errands τ).Fits (fun _ _ _ => True) crowd.programs situations
  proper : crowd.store.Proper SoundTexts

namespace Attending

variable {crowd next last : Crowd τ AnyStore} {event : Event τ}
  {moments : List (Moment τ AnyStore)} {id : String} {content : Content}

theorem opening [Seconds τ] {context : Run.Context τ} {patience : Nat} {errands : List Errand}
    (fits : ∀ errand ∈ errands, errand.Fits) {store : AnyStore} (proper : store.Proper SoundTexts) :
    Attending (Crowd.attending context patience errands store) where
  fits := by
    refine ⟨errands.map fun _ => (), ?_, ?_⟩
    · simp [Crowd.attending]
    · intro caller program situation found _
      simp only [Crowd.attending, List.getElem?_map, Option.map_eq_some_iff] at found
      obtain ⟨errand, held, rfl⟩ := found
      exact Errand.keeps_program (fits errand (List.mem_of_getElem? held))
  proper

/-- What becomes of the store behind a request that was answered, or failed. -/
theorem step (attending : Attending crowd) (step : Crowd.Step AnyStore.timely.orFails crowd event next)
    (credible : event.Credible) :
    Attending next ∧ next.store.place = crowd.store.place ∧
      ∀ id content, crowd.store.Shows id content →
        (∀ other ∈ event.kept?, crowd.store.place other ≠ crowd.store.place id) →
        next.store.Shows id content := by
  obtain ⟨situations, fits⟩ := attending.fits
  obtain ⟨⟨_, _, asked⟩, nextFits⟩ := fits.step_of step fun _ _ _ => credible
  have answered := step.answered
  obtain ⟨caller, request, answer⟩ := event
  cases request with
  | store operation =>
      rcases answered with permitted | ⟨_, same⟩
      · exact ⟨⟨⟨_, nextFits⟩, AnyStore.proper_step attending.proper asked permitted⟩,
          AnyStore.place_step permitted,
          fun _ _ shows elsewhere => shows.step attending.proper asked permitted elsewhere⟩
      · rw [same]
        exact ⟨⟨⟨_, nextFits⟩, same ▸ attending.proper⟩, rfl, fun _ _ shows _ => shows⟩
  | _ =>
      have same : next.store = crowd.store := answered
      rw [same]
      exact ⟨⟨⟨_, nextFits⟩, same ▸ attending.proper⟩, rfl, fun _ _ shows _ => shows⟩

/-- Errands go on as they have begun. -/
theorem history (attending : Attending crowd)
    (history : Crowd.History AnyStore.timely.orFails crowd moments last)
    (credible : ∀ moment ∈ moments, moment.event.Credible) : Attending last := by
  induction history with
  | refl => exact attending
  | step head tail inductionHypothesis =>
      obtain ⟨here, later⟩ := List.forall_mem_cons.mp credible
      exact inductionHypothesis (attending.step head here).1 later

/-- What the store shows of a lesson it goes on to show while no other version is kept. -/
theorem shows (attending : Attending crowd)
    (history : Crowd.History AnyStore.timely.orFails crowd moments last)
    (credible : ∀ moment ∈ moments, moment.event.Credible)
    (elsewhere : ∀ moment ∈ moments, ∀ other ∈ moment.event.kept?,
      crowd.store.place other ≠ crowd.store.place id)
    (shown : crowd.store.Shows id content) : last.store.Shows id content := by
  induction history with
  | refl => exact shown
  | step head tail inductionHypothesis =>
      obtain ⟨here, later⟩ := List.forall_mem_cons.mp credible
      obtain ⟨apart, others⟩ := List.forall_mem_cons.mp elsewhere
      obtain ⟨attends, place, goes⟩ := attending.step head here
      refine inductionHypothesis attends later ?_ (goes id content shown apart)
      rw [place]
      exact others

end Attending

end Lectern
