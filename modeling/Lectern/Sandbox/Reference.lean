/-
Module: Lectern.Sandbox.Reference
Purpose: Where the module of a lesson is found: the reference a bundle gives, read and written.
Main exports: moduleReference, referencedLesson?, fetchLatest
-/
import Lectern.Lesson.Failure
import Lectern.Text.Blank

namespace Lectern.Sandbox

/-- Where the module of a lesson is found. -/
def moduleReference (lessonId : String) : String := "/lessons/" ++ lessonId ++ "/module"

/-- The lesson that a reference names: what stands between the last slashes of a text that ends like
a reference. A line end behind it does not count. -/
def referencedLesson? (reference : String) : Option String :=
  let characters := reference.toList
  let text := if characters.getLast? == some '\n' then characters.dropLast else characters
  match ((Text.splitOn (· == '/') text).map String.ofList).reverse with
  | "module" :: lesson :: "lessons" :: _ :: _ => if lesson.isEmpty then none else some lesson
  | _ => none

/-- The module that a reference names; `latest` gives the newest module of a lesson. -/
def fetchLatest (latest : String → Option String) (reference : String) : Except Failure String :=
  match referencedLesson? reference with
  | none => .error (.sandbox ("Unrecognized module reference: " ++ reference) none none)
  | some lesson =>
    match latest lesson with
    | none => .error (.sandbox ("No compiled module for lesson " ++ lesson) none none)
    | some moduleText => .ok moduleText

end Lectern.Sandbox
