/-
Module: Lectern.Repair.Fix
Purpose: What a diagnostic asks for, and the mechanical fixes: taking a source out of a fenced block,
  binding members of the UI library, and exporting the last component.
Main exports: lacksDefaultExport, reportsToken, unboundName?, unfence, bindMembers,
  exportLastComponent
-/
import Lectern.Module.Host
import Lectern.Module.Names
import Lectern.Text.Blank
import Lectern.Text.Spot

namespace Lectern.Repair

open Lectern.Text

/-! ## Triggers

What a diagnostic asks for is read off its text: diagnostics may come from any compiler run, so the
text is all there is to go by. -/

/-- Does a text hold some words? -/
def mentions (words text : List Char) : Bool :=
  (Spot.first? (fun spot => (after? words spot.after).isSome) text).isSome

/-- Does a diagnostic say that nothing is exported as the default? -/
def lacksDefaultExport (message : String) : Bool :=
  mentions "has no default export".toList message.toList

/-- The rest behind one or more decimal digits. -/
def afterNumber? (text : List Char) : Option (List Char) :=
  match text with
  | c :: rest => if isDecimalDigit c then some (rest.dropWhile isDecimalDigit) else none
  | [] => none

/-- Does a diagnostic say that the source does not parse at some line and column? -/
def reportsToken (message : String) : Bool :=
  let behindPlace := do
    let rest ← after? "Line ".toList message.toList
    let rest ← afterNumber? rest
    let rest ← after? ":".toList rest
    let rest ← afterNumber? rest
    after? ": ".toList rest
  match behindPlace with
  | some rest =>
    (after? "Unexpected token ".toList rest).isSome || (after? "Missing ".toList rest).isSome
  | none => false

/-- Can a name go on with this character? -/
def isNameChar (c : Char) : Bool := isWordChar c || c == '$'

/-- Can a name start with this character? -/
def isNameStart (c : Char) : Bool :=
  ('a' ≤ c && c ≤ 'z') || ('A' ≤ c && c ≤ 'Z') || c == '_' || c == '$'

/-- The name in quotes that is reported as bound by nothing right here. -/
def unboundNameAt? (spot : Spot) : Option String := do
  let rest ← after? "Cannot find name '".toList spot.after
  let name := rest.takeWhile isNameChar
  let first ← name.head?
  let behind ← (rest.drop name.length).head?
  if isNameStart first && behind == '\'' then some (String.ofList name) else none

/-- The name that a diagnostic reports as bound by nothing. -/
def unboundName? (message : String) : Option String := do
  let spot ← Spot.first? (fun spot => (unboundNameAt? spot).isSome) message.toList
  unboundNameAt? spot

/-! ## Fences -/

/-- The marks that open and close a fenced block. -/
def fence : List Char := ['\x60', '\x60', '\x60']

/-- Does a fence stand here? -/
def atFence (spot : Spot) : Bool := (after? fence spot.after).isSome

/-- The text of the first fenced block: from the line behind the opening fence up to the next fence,
or to the end where there is none. -/
def fenced? (text : List Char) : Option (List Char) := do
  let opening ← Spot.first? atFence text
  let inside ← match (opening.after.drop 3).dropWhile (· != '\n') with
    | [] => none
    | _ :: inside => some inside
  match Spot.first? atFence inside with
  | some closing => some closing.before.reverse
  | none => some inside

/-- The source inside the first fenced block, where that holds one. -/
def unfence (source : String) : String :=
  match fenced? source.toList with
  | none => source
  | some block =>
    let body := trimWhile (· == '\n') block
    if body.isEmpty then source else String.ofList (body ++ ['\n'])

/-! ## Bindings -/

/-- The members of the UI library that some names ask for, each once, in order. -/
def wantedMembers (names : List String) : List String :=
  (names.filter Module.isUnboundMember).foldl
    (fun kept name => if kept.contains name then kept else kept ++ [name]) []

/-- Can this character stand in the list of a binding statement? -/
def isListChar (c : Char) : Bool := isNameChar c || c == ',' || c == ' '

/-- The list of names that a binding statement binds. -/
def bindingList? (line : List Char) : Option (List Char) := do
  let inside ← after? "const \x7b ".toList (trim line)
  let behind := (" \x7d = " ++ Module.hostObject ++ ";").toList
  let size := inside.length - behind.length
  if inside.length < behind.length || inside.drop size != behind then none
  else
    let names := inside.take size
    if names.all isListChar then some names else none

/-- The names of a list with commas between. -/
def listedNames (names : List Char) : List String :=
  ((splitOn (· == ',') names).map trim |>.filter (!·.isEmpty)).map String.ofList

/-- Names in the order of their characters. -/
def sorted (names : List String) : List String := names.mergeSort fun a b => !(b < a)

/-- Bind the members of the UI library that some names ask for: in the binding statement on the
first line, or else in a new first line. -/
def bindMembers (names : List String) (source : String) : String :=
  let wanted := wantedMembers names
  let text := source.toList
  let firstLine := text.takeWhile (· != '\n')
  if wanted.isEmpty then source
  else
    match bindingList? firstLine with
    | none => Module.bindingStatement (sorted wanted) ++ "\n" ++ source
    | some list =>
      let bound := listedNames list
      let missing := sorted (wanted.filter fun name => !bound.contains name)
      if missing.isEmpty then source
      else
        Module.bindingStatement (bound ++ missing) ++
          String.ofList (text.dropWhile (· != '\n'))

/-! ## Exports -/

/-- The rest behind one or more blanks. -/
def afterBlanks? (text : List Char) : Option (List Char) :=
  match text with
  | c :: rest => if isBlank c then some (rest.dropWhile isBlank) else none
  | [] => none

/-- The rest behind a word and the blanks it needs after it. -/
def afterKeyword? (word : String) (text : List Char) : Option (List Char) :=
  (after? word.toList text).bind afterBlanks?

/-- Past a keyword and its blanks, where it stands. -/
def skipKeyword (word : String) (text : List Char) : List Char :=
  (afterKeyword? word text).getD text

/-- Does a default export stand here as the first thing on its line? -/
def exportsDefault (spot : Spot) : Bool :=
  (spot.before.takeWhile (· != '\n')).all isBlank &&
    match (afterKeyword? "export" spot.after).bind (after? "default".toList) with
    | some rest => closesWord rest
    | none => false

/-- The name with a capital letter that a text starts with. -/
def componentName? (text : List Char) : Option String :=
  match text with
  | c :: rest =>
    if 'A' ≤ c && c ≤ 'Z' then some (String.ofList (c :: rest.takeWhile isNameChar)) else none
  | [] => none

/-- The name of a function behind its keyword. -/
def functionName? (text : List Char) : Option String := do
  let rest ← after? "function".toList (skipKeyword "async" text)
  let rest := rest.dropWhile isBlank
  let rest := match rest with
    | '*' :: inside => inside.dropWhile isBlank
    | _ => rest
  componentName? rest

/-- The name of a variable or class behind its keyword. -/
def bindingName? (text : List Char) : Option String :=
  (["const", "let", "var", "class"].findSome? fun word => afterKeyword? word text).bind
    componentName?

/-- Does a line start here? -/
def startsLine (spot : Spot) : Bool :=
  match spot.before with
  | [] => true
  | c :: _ => c == '\n'

/-- The name of the component whose declaration starts a line here. -/
def componentAt? (spot : Spot) : Option String :=
  if startsLine spot then
    let text := skipKeyword "export" spot.after
    (functionName? text).or (bindingName? text)
  else none

/-- The name of the last component that is declared from some place on; `found` is the last one
before it. -/
def lastComponentFrom (found : Option String) (before : List Char) : List Char → Option String
  | [] => (componentAt? ⟨before, []⟩).or found
  | c :: rest =>
    lastComponentFrom ((componentAt? ⟨before, c :: rest⟩).or found) (c :: before) rest

/-- The name of the last component that a source declares. -/
def lastComponent? (text : List Char) : Option String := lastComponentFrom none [] text

/-- Export the last component as the default, where nothing is exported as that. -/
def exportLastComponent (source : String) : String :=
  let text := source.toList
  if (Spot.first? exportsDefault text).isSome then source
  else
    match lastComponent? text with
    | none => source
    | some name =>
      String.ofList (trimRight text) ++ "\n\nexport default " ++ name ++ ";\n"

end Lectern.Repair
