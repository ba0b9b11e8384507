/-
Module: Lectern.Safety.Check
Purpose: Which forms a source must not contain, and the check for them: at most one issue a rule, at
  the first place where the rule is broken.
Main exports: form, lets, check, maxSourceBytes, isSafe
-/
import Lectern.Safety.Issue
import Lectern.Text.Pattern

namespace Lectern.Safety

open Lectern.Text

/-- The most bytes that a source may have. -/
def maxSourceBytes : Nat := 200 * 1024

/-- The addresses that only name a markup language and that nothing is loaded from. -/
def namespaceAddresses : List String :=
  ["http://www.w3.org/2000/svg", "http://www.w3.org/1999/xlink",
    "http://www.w3.org/XML/1998/namespace", "http://www.w3.org/1999/xhtml",
    "http://www.w3.org/1998/Math/MathML"]

/-! ## Forbidden forms -/

/-- A function that is called by a name. -/
def callOf (name : String) : Pattern :=
  .edge ++ .literal name ++ .blanks ++ .oneOf ['(']

/-- The names of network transports. -/
def transportNames : List String :=
  ["XMLHttpRequest", "WebSocket", "EventSource", "sendBeacon"]

/-- The name of a network transport as a whole word. -/
def transport : Pattern :=
  .edge ++ .anyOf (transportNames.map .literal) ++ .edge

/-- A quoted web address behind blanks, up to the colon of its scheme. -/
def quotedAddress (quotes : List Char) : Pattern :=
  .blanks ++ .oneOf quotes ++ .anyOf [.literal "https:", .literal "http:"]

/-- Code that is imported from a web address: by a call, or in a statement with or without names. -/
def addressImport : Pattern :=
  .anyOf [
    .edge ++ .literal "import" ++ .blanks ++ .oneOf ['('] ++ quotedAddress ['\'', '\x22', '\x60'],
    .edge ++ .literal "from" ++ quotedAddress ['\'', '\x22'],
    .edge ++ .literal "import" ++ quotedAddress ['\'', '\x22']]

/-- Does a web address end at this character? -/
def endsAddress (c : Char) : Bool :=
  isBlank c || ['\'', '\x22', '\x60', '<', '>', ')', ']', '\x7d'].contains c

/-- A web address with at least one character behind its scheme. -/
def address : Pattern :=
  .anyOf [.literal "https://", .literal "http://"] ++ .many fun c => !endsAddress c

/-- The form that a rule forbids. The size of a source is not a matter of place. -/
def form : Rule → Pattern
  | .networkFetch => callOf "fetch"
  | .evalUse => callOf "eval"
  | .dynamicFunction => callOf "Function"
  | .rawTransport => transport
  | .urlImport => addressImport
  | .externalUrl => address
  | .oversizedPayload => .nothing

/-- Punctuation that does not count as part of an address when it stands at its end. -/
def isAddressTail (c : Char) : Bool := ['.', ',', ';', ':', '!', '?'].contains c

/-- Does an address name a markup language and nothing else? -/
def isNamespaceAddress (address : List Char) : Bool :=
  namespaceAddresses.contains (String.ofList (dropEndWhile isAddressTail address))

/-- Is a form that a rule forbids let pass all the same? -/
def lets : Rule → List Char → Bool
  | .externalUrl => isNamespaceAddress
  | _ => fun _ => false

/-- Why a rule is there. -/
def message : Rule → String
  | .networkFetch => "Network calls are not allowed"
  | .evalUse => "eval is forbidden"
  | .dynamicFunction => "Dynamically constructed functions are not allowed"
  | .rawTransport => "Low-level network transports are not allowed"
  | .urlImport => "Importing code from a URL is not allowed"
  | .externalUrl => "External URLs are not allowed"
  | .oversizedPayload => "Source is too large"

/-! ## The check -/

/-- How much of a line is quoted. -/
def snippetLimit : Nat := 200

/-- The issue of a rule that is broken at a place. -/
def issueAt (rule : Rule) (spot : Spot) : Issue where
  rule
  message := message rule
  line := some spot.lineNumber
  snippet := some (String.ofList ((trim spot.line).take snippetLimit))

/-- The issue at the first place where a rule is broken. -/
def firstIssue (source : List Char) (rule : Rule) : Option Issue :=
  (Spot.scan (form rule) (lets rule) source).map (issueAt rule)

/-- The issue of a source that is too large. -/
def oversizedIssue (size : Nat) : Issue where
  rule := .oversizedPayload
  message := "Source is " ++ toString size ++ " bytes, limit is " ++ toString maxSourceBytes

/-- The issues of a source. A source that is too large is reported as that alone. -/
def check (source : String) : List Issue :=
  if source.utf8ByteSize > maxSourceBytes then [oversizedIssue source.utf8ByteSize]
  else Rule.all.filterMap (firstIssue source.toList)

/-- Does a source break no rule? -/
def isSafe (source : String) : Bool := (check source).isEmpty

end Lectern.Safety
