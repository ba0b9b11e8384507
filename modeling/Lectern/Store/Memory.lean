/-
Module: Lectern.Store.Memory
Purpose: A store that holds lessons, versions of content and traces in memory.
Main exports: Memory, Memory.perform
-/
import Lectern.Store.Operation

namespace Lectern.Store

/-- What a store in memory holds: lessons by their identifiers, content and traces in the order they
came. -/
structure Memory where
  lessons : List Lesson := []
  contents : List Content := []
  traces : List Trace := []
  deriving Repr, Inhabited

namespace Memory

/-- The lesson with an identifier. -/
def find (store : Memory) (id : String) : Option Lesson := store.lessons.find? (·.id == id)

/-- Keep a lesson. One with the same identifier gives way; the place in the order stays. -/
def put (store : Memory) (lesson : Lesson) : Memory :=
  { store with lessons :=
      if store.lessons.any (·.id == lesson.id) then
        store.lessons.map fun kept => if kept.id == lesson.id then lesson else kept
      else store.lessons ++ [lesson] }

/-- The versions of the content of a lesson, the oldest first. -/
def contentsOf (store : Memory) (id : String) : List Content :=
  store.contents.filter (·.lessonId == id)

/-- Do what is asked, now. -/
def perform {β : Type} (now : Timestamp) (store : Memory) :
    Operation β → Except Failure β × Memory
  | .create lesson => (.ok (), store.put lesson)
  | .find id => (.ok (store.find id), store)
  | .list limit => (newestFirst limit store.lessons, store)
  | .claim id =>
    match store.find id with
    | some lesson =>
      if lesson.status == .queued then (.ok true, store.put (withStatus now .generating lesson))
      else (.ok false, store)
    | none => (.ok false, store)
  | .claimNext =>
    match oldestQueued store.lessons with
    | .error failure => (.error failure, store)
    | .ok none => (.ok none, store)
    | .ok (some lesson) =>
      let lesson := withStatus now .generating lesson
      (.ok (some lesson), store.put lesson)
  | .setStatus id status =>
    match store.find id with
    | some lesson =>
      let lesson := withStatus now status lesson
      (.ok lesson, store.put lesson)
    | none => (.error (.unknownLesson id), store)
  | .addContent id source code digest =>
    match store.find id with
    | some _ =>
      let content : Content := ⟨id, (store.contentsOf id).length + 1, source, code, digest, now⟩
      (.ok content, { store with contents := store.contents ++ [content] })
    | none => (.error (.unknownLesson id), store)
  | .latestContent id => (.ok (store.contentsOf id).getLast?, store)
  | .appendTrace trace => (.ok (), { store with traces := store.traces ++ [trace] })
  | .traces id => (.ok (store.traces.filter (·.lessonId == id)), store)

end Memory

end Lectern.Store
