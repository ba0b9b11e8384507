/-
Module: Lectern.Schema.Checked
Purpose: Data that has been read, or everything that is wrong with it: reading goes on after a
  fault, so that the parts of a record report all their faults in order.
Main exports: Checked, Checked.under, record, stringKeys, required, optional, closed
-/
import Lectern.Schema.Fault

namespace Lectern.Schema

/-- What reading some data gives. -/
inductive Checked (α : Type) where
  | valid (value : α)
  | invalid (faults : List Fault)
  deriving Repr

namespace Checked

/-- Only the value changes. -/
def map {α β : Type} (f : α → β) : Checked α → Checked β
  | .valid value => .valid (f value)
  | .invalid faults => .invalid faults

/-- Both parts are read, and the faults of both count. -/
def seq {α β : Type} (first : Checked (α → β)) (second : Unit → Checked α) : Checked β :=
  match first, second () with
  | .valid f, .valid value => .valid (f value)
  | .valid _, .invalid faults => .invalid faults
  | .invalid faults, .valid _ => .invalid faults
  | .invalid faults, .invalid more => .invalid (faults ++ more)

instance : Functor Checked where
  map := map

instance : Applicative Checked where
  pure := .valid
  seq := seq

/-- A problem with the data as a whole. -/
def fail {α : Type} (problem : Problem) : Checked α := .invalid [⟨[], problem⟩]

/-- A further condition on what has been read. -/
def andThen {α β : Type} (read : Checked α) (next : α → Checked β) : Checked β :=
  match read with
  | .valid value => next value
  | .invalid faults => .invalid faults

/-- The faults lie one step further down. -/
def under {α : Type} (step : Step) : Checked α → Checked α
  | .valid value => .valid value
  | .invalid faults => .invalid (faults.map fun fault => ⟨step :: fault.path, fault.problem⟩)

/-- The value, where there is nothing wrong. -/
def value? {α : Type} : Checked α → Option α
  | .valid value => some value
  | .invalid _ => none

end Checked

/-- How data of some shape is read. -/
abbrev Reader (α : Type) := Json → Checked α

/-- The members of an object, each key once. -/
abbrev Members := List (String × Json)

/-- A record, read member by member. A key that is no string is the name of no member. -/
def record {α : Type} (name : String) (read : Members → Checked α) : Reader α
  | .obj members => read (Json.distinctMembers members)
  | .unpairedKeys members _ => read (Json.distinctMembers members)
  | _ => .fail (.notRecord name)

/-- A record in which each key is looked at, so that all must be strings. -/
def stringKeys {α : Type} (read : Reader α) : Reader α
  | .unpairedKeys _ _ => .fail .notString
  | data => read data

/-- The first of some spellings of a key that occurs. -/
def spelled? (names : List String) (members : Members) : Option (String × Json) :=
  names.findSome? fun name => (Json.lookup name members).map fun value => (name, value)

/-- A member that must be there. -/
def required {α : Type} (names : List String) (read : Reader α) (members : Members) : Checked α :=
  match spelled? names members with
  | some (name, value) => (read value).under (.key name)
  | none => .invalid [⟨[.key (names.headD "")], .missing⟩]

/-- A member that may be left out. -/
def optional {α : Type} (names : List String) (read : Reader α) (fallback : α)
    (members : Members) : Checked α :=
  match spelled? names members with
  | some (name, value) => (read value).under (.key name)
  | none => .valid fallback

/-- Nothing but some members, each in one spelling, may be there. -/
def closed (fields : List (List String)) (members : Members) : Checked Unit :=
  let used := fields.filterMap fun names => (spelled? names members).map (·.1)
  match members.filter fun member => !used.contains member.1 with
  | [] => .valid ()
  | extra => .invalid (extra.map fun member => ⟨[.key member.1], .extra⟩)

end Lectern.Schema
