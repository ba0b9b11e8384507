/-
Module: Lectern.Store.Operation
Purpose: What a store of lessons can be asked to do, and what every store says the same way.
Main exports: Operation, newestFirst, oldestQueued
-/
import Lectern.Lesson.Failure
import Lectern.Lesson.Record

namespace Lectern.Store

/-- What a store can be asked to do, by what it answers. -/
inductive Operation : Type → Type where
  /-- Keep a new lesson, in place of one with the same identifier. -/
  | create (lesson : Lesson) : Operation Unit
  | find (id : String) : Operation (Option Lesson)
  /-- The newest lessons. -/
  | list (limit : Int) : Operation (List Lesson)
  /-- Move a lesson on from the queue; is it this caller who does? -/
  | claim (id : String) : Operation Bool
  /-- Move the oldest lesson on from the queue. -/
  | claimNext : Operation (Option Lesson)
  | setStatus (id : String) (status : Status) : Operation Lesson
  /-- Add a version of content, numbered one past the latest. -/
  | addContent (id source code digest : String) : Operation Content
  | latestContent (id : String) : Operation (Option Content)
  | appendTrace (trace : Trace) : Operation Unit
  /-- The traces of a lesson in the order they were appended. -/
  | traces (id : String) : Operation (List Trace)

/-- The first items of a list; a negative limit counts from its end. -/
def limited {α : Type} (limit : Int) (items : List α) : List α :=
  if limit < 0 then items.take (items.length - limit.natAbs) else items.take limit.toNat

/-- Moments with and without an offset have no order. -/
def comparable (lessons : List Lesson) : Bool :=
  lessons.all (·.createdAt.offset.isSome) || lessons.all (·.createdAt.offset.isNone)

/-- Lessons that have no order. -/
def incomparable : Failure :=
  .outside "TypeError" "can't compare offset-naive and offset-aware datetimes"

/-- The newest lessons; of lessons made at the same moment the one that came first stays first. -/
def newestFirst (limit : Int) (lessons : List Lesson) : Except Failure (List Lesson) :=
  if comparable lessons then
    .ok (limited limit (lessons.mergeSort fun a b => !a.createdAt.isBefore b.createdAt))
  else .error incomparable

/-- The oldest of some lessons; of lessons made at the same moment the first one. -/
def oldest : List Lesson → Option Lesson
  | [] => none
  | first :: rest =>
    some (rest.foldl (fun found lesson =>
      if lesson.createdAt.isBefore found.createdAt then lesson else found) first)

/-- The oldest lesson in the queue. -/
def oldestQueued (lessons : List Lesson) : Except Failure (Option Lesson) :=
  let queued := lessons.filter (·.status == .queued)
  if comparable queued then .ok (oldest queued) else .error incomparable

/-- A lesson with another status, changed now. -/
def withStatus (now : Timestamp) (status : Status) (lesson : Lesson) : Lesson :=
  { lesson with status, updatedAt := now }

end Lectern.Store
