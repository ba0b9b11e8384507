/-
Module: Lectern.Lesson.Catalogue
Purpose: What is done with lessons apart from generating them: queueing, listing and looking at
  them, and describing what is needed to show one.
Main exports: Catalogue.create, Catalogue.details, Catalogue.list, Catalogue.latestContent,
  Catalogue.bundle
-/
import Lectern.Digest.Encoding
import Lectern.Digest.Sha384
import Lectern.Generation.Program
import Lectern.Lesson.Topic
import Lectern.Sandbox.Reference

namespace Lectern.Catalogue

variable {τ : Type}

/-- How many lessons are listed if nothing else is asked for. -/
def defaultLimit : Int := 50

/-- Queue a new lesson. Its topic must not be blank. -/
def create (topic : String) (pedagogy : Option Pedagogy) : Program τ Lesson :=
  match Text.trim topic.toList with
  | [] => .failed (.outside "ValueError" "Topic must not be empty")
  | trimmed => do
    let id ← .call .freshId
    let now ← .call .moment
    let lesson : Lesson := {
      id
      title := Topic.title topic
      topic := String.ofList trimmed
      pedagogy
      createdAt := now
      updatedAt := now }
    .store (.create lesson)
    return lesson

/-- A lesson that must be there. -/
def find (id : String) : Program τ Lesson := do
  match ← Program.store (.find id) with
  | some lesson => return lesson
  | none => .failed (.unknownLesson id)

/-- A lesson with its latest content and its traces. -/
def details (id : String) : Program τ Details := do
  let lesson ← find id
  let content ← .store (.latestContent id)
  let traces ← .store (.traces id)
  return { lesson, content, traces }

/-- The newest lessons. -/
def list (limit : Int) : Program τ (List Lesson) := .store (.list limit)

/-- The latest content of a lesson that must be there. -/
def latestContent (id : String) : Program τ (Option Content) := do
  let _ ← find id
  .store (.latestContent id)

/-- The style that goes with a lesson. -/
def styleOf (lesson : Lesson) : String :=
  match lesson.pedagogy with
  | some pedagogy => pedagogy.accessibility.styleText
  | none => ({} : Accessibility).styleText

/-- What is needed to show the latest content of a lesson, if there is any. -/
def bundle (id : String) : Program τ (Option Bundle) := do
  let lesson ← find id
  match ← Program.store (.latestContent id) with
  | none => return none
  | some content =>
    return some ⟨Sandbox.moduleReference id, styleOf lesson, Digest.integrity content.moduleText⟩

end Lectern.Catalogue
