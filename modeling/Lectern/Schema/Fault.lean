/-
Module: Lectern.Schema.Fault
Purpose: What can be wrong with data that is meant to have a shape, where, and how it is said.
Main exports: Step, Problem, Fault, Fault.about, Problem.code, Problem.message
-/
import Lectern.Json.Access

namespace Lectern.Schema

/-- A step from data to a part of it. -/
inductive Step where
  | key (name : String)
  | index (place : Nat)
  deriving DecidableEq, Repr, Inhabited

/-- What is wrong with a part of some data. -/
inductive Problem where
  | missing
  | extra
  /-- A record with this name is due. -/
  | notRecord (name : String)
  | notList
  | notDictionary
  | notText
  /-- The text is no string. -/
  | notString
  /-- The path of a file is due. -/
  | notPath
  | textTooShort (least : Nat)
  | textTooLong (most : Nat)
  | notWhole
  | unreadWhole
  | fractional
  | wholeTooLarge
  | notFinite
  | notNumber
  | unreadNumber
  | notFlag
  | unreadFlag
  /-- One of these texts is due. -/
  | notAmong (choices : List String)
  /-- The name of one of the members of a closed set is due. -/
  | notMember (names : List String)
  | below (least : Int)
  | above (most : Int)
  | notMoreThan (bound : Int)
  | notTime
  | unreadTime (detail : String)
  | unreadJson (message : String)
  deriving DecidableEq, Repr, Inhabited

/-- A problem and the steps that lead to it. -/
structure Fault where
  path : List Step
  problem : Problem
  deriving DecidableEq, Repr, Inhabited

/-- The part of some data that a step leads to. -/
def Step.part? (data : Json) : Step → Option Json
  | .key name => data.member? name
  | .index place => data.items[place]?

/-- The part of some data that steps lead to. What is missing is told of the part that it is missing
in. -/
def partAt (data : Json) : List Step → Json
  | [] => data
  | step :: steps =>
    match step.part? data with
    | some part => partAt part steps
    | none => data

/-- The part of some data that a fault is about. -/
def Fault.about (fault : Fault) (data : Json) : Json := partAt data fault.path

/-- Where data comes from decides how a missing structure is described. -/
inductive Medium where
  /-- Values at hand. -/
  | values
  /-- A JSON text. -/
  | text
  /-- The body of a request. -/
  | request
  deriving DecidableEq, Repr, Inhabited

namespace Problem

/-- The code of a problem. -/
def code (medium : Medium) : Problem → String
  | .missing => "missing"
  | .extra => "extra_forbidden"
  | .notRecord _ => if medium == .request then "model_attributes_type" else "model_type"
  | .notList => "list_type"
  | .notDictionary => "dict_type"
  | .notText => "string_type"
  | .notString => "string_unicode"
  | .notPath => "path_type"
  | .textTooShort _ => "string_too_short"
  | .textTooLong _ => "string_too_long"
  | .notWhole => "int_type"
  | .unreadWhole => "int_parsing"
  | .fractional => "int_from_float"
  | .wholeTooLarge => "int_parsing_size"
  | .notFinite => "finite_number"
  | .notNumber => "float_type"
  | .unreadNumber => "float_parsing"
  | .notFlag => "bool_type"
  | .unreadFlag => "bool_parsing"
  | .notAmong _ => "literal_error"
  | .notMember _ => "enum"
  | .below _ => "greater_than_equal"
  | .above _ => "less_than_equal"
  | .notMoreThan _ => "greater_than"
  | .notTime => "datetime_type"
  | .unreadTime _ => "datetime_from_date_parsing"
  | .unreadJson _ => "json_invalid"

/-- Texts in quotes, with commas between and a last "or". -/
def alternatives : List String → String
  | [] => ""
  | [last] => "'" ++ last ++ "'"
  | [first, last] => "'" ++ first ++ "' or '" ++ last ++ "'"
  | first :: rest => "'" ++ first ++ "', " ++ alternatives rest

/-- A count of characters in words. -/
def characters (count : Nat) : String :=
  toString count ++ (if count == 1 then " character" else " characters")

/-- The text of a problem. -/
def message (medium : Medium) : Problem → String
  | .missing => "Field required"
  | .extra => "Extra inputs are not permitted"
  | .notRecord name =>
    match medium with
    | .values => "Input should be a valid dictionary or instance of " ++ name
    | .text => "Input should be an object"
    | .request => "Input should be a valid dictionary or object to extract fields from"
  | .notList =>
    if medium == .text then "Input should be a valid array" else "Input should be a valid list"
  | .notDictionary =>
    if medium == .text then "Input should be an object" else "Input should be a valid dictionary"
  | .notText => "Input should be a valid string"
  | .notString => "Input should be a valid string, unable to parse raw data as a unicode string"
  | .notPath => "Input is not a valid path"
  | .textTooShort least => "String should have at least " ++ characters least
  | .textTooLong most => "String should have at most " ++ characters most
  | .notWhole => "Input should be a valid integer"
  | .unreadWhole => "Input should be a valid integer, unable to parse string as an integer"
  | .fractional => "Input should be a valid integer, got a number with a fractional part"
  | .wholeTooLarge => "Unable to parse input string as an integer, exceeded maximum size"
  | .notFinite => "Input should be a finite number"
  | .notNumber => "Input should be a valid number"
  | .unreadNumber => "Input should be a valid number, unable to parse string as a number"
  | .notFlag => "Input should be a valid boolean"
  | .unreadFlag => "Input should be a valid boolean, unable to interpret input"
  | .notAmong choices => "Input should be " ++ alternatives choices
  | .notMember names => "Input should be " ++ alternatives names
  | .below least => "Input should be greater than or equal to " ++ toString least
  | .above most => "Input should be less than or equal to " ++ toString most
  | .notMoreThan bound => "Input should be greater than " ++ toString bound
  | .notTime => "Input should be a valid datetime"
  | .unreadTime detail => "Input should be a valid datetime or date, " ++ detail
  | .unreadJson message => message

end Problem

/-- A step as JSON. -/
def Step.toJson : Step → Json
  | .key name => .str name
  | .index place => .nat place

/-- A fault as JSON: the path, the code and the text. -/
def Fault.toJson (medium : Medium) (fault : Fault) : Json :=
  .obj [("loc", .arr (fault.path.map Step.toJson)), ("type", .str (fault.problem.code medium)),
    ("msg", .str (fault.problem.message medium))]

end Lectern.Schema
