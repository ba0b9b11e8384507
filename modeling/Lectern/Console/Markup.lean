/-
Module: Lectern.Console.Markup
Purpose: Text with style tags in brackets, as it is printed where styles do not show.
Main exports: Console.Markup.Fault, Console.Markup.plain
-/
import Lectern.Text.Blank

namespace Lectern.Console.Markup

/-- A tag that closes a style that is not open. -/
inductive Fault where
  /-- The name of the tag is not that of an open style. -/
  | unmatched (tag : String) (position : Nat)
  /-- No style is open at all. -/
  | nothingOpen (position : Nat)
  deriving DecidableEq, Repr, Inhabited

/-- What is said of a tag that closes nothing. -/
def Fault.message : Fault → String
  | .unmatched tag position =>
    "closing tag '" ++ tag ++ "' at position " ++ toString position ++ " doesn't match any open tag"
  | .nothingOpen position =>
    "closing tag '[/]' at position " ++ toString position ++ " has nothing to close"

/-! ## Pieces -/

/-- A piece of a text with tags. -/
inductive Piece where
  | plain (text : List Char)
  /-- A tag by what stands between its brackets. -/
  | tag (position : Nat) (content : List Char)
  deriving DecidableEq, Repr, Inhabited

/-- May a tag start with this? -/
def startsTag (c : Char) : Bool :=
  ('a' ≤ c && c ≤ 'z') || c == '#' || c == '/' || c == '@'

/-- The content of the tag whose bracket has just been opened, and the rest. -/
def tag? : List Char → Option (List Char × List Char)
  | [] => none
  | first :: rest =>
    let body := rest.takeWhile fun c => c != '[' && c != ']'
    match startsTag first, rest.drop body.length with
    | true, ']' :: rest => some (first :: body, rest)
    | _, _ => none

/-- The pieces from a position on; `before` is plain text that has been passed, in reverse. A
backslash in front of a tag makes it plain text, and of two the first one does that to the
second. -/
def piecesFrom : Nat → Nat → List Char → List Char → List Piece
  | 0, _, before, _ => [.plain before.reverse]
  | fuel + 1, position, before, text =>
    let slashes := text.takeWhile (· == '\\')
    let count := slashes.length
    match text.drop count with
    | [] => [.plain (slashes ++ before).reverse]
    | '[' :: inner =>
      match tag? inner with
      | some (content, rest) =>
        let next := position + count + content.length + 2
        let halves := .plain before.reverse :: .plain (List.replicate (count / 2) '\\') :: []
        if count % 2 == 1 then
          halves ++ .plain ('[' :: content ++ [']']) :: piecesFrom fuel next [] rest
        else halves ++ .tag (position + count) content :: piecesFrom fuel next [] rest
      | none => piecesFrom fuel (position + count + 1) ('[' :: slashes ++ before) inner
    | c :: rest => piecesFrom fuel (position + count + 1) (c :: slashes ++ before) rest

/-- The pieces of a text. -/
def pieces (text : List Char) : List Piece := piecesFrom (text.length + 1) 0 [] text

/-! ## Plain text -/

/-- Text without the backslashes in front of brackets. -/
def withoutEscapes : List Char → List Char
  | '\\' :: '[' :: rest => '[' :: withoutEscapes rest
  | c :: rest => c :: withoutEscapes rest
  | [] => []

/-- Is this a control character that is never printed? -/
def isSilent (c : Char) : Bool :=
  c == '\x07' || c == '\x08' || c == '\x0b' || c == '\x0c' || c == '\r'

/-- The name of a style, whatever blanks are around it and however it is capitalised. -/
def styleName (name : List Char) : List Char := (Text.trim name).map Char.toLower

/-- Close the style that was opened last under a name. -/
def close? (name : List Char) : List (List Char) → Option (List (List Char))
  | [] => none
  | first :: rest => if first == name then some rest else (close? name rest).map (first :: ·)

/-- The styles that are open after a tag. -/
def follow (position : Nat) (content : List Char) (openStyles : List (List Char)) :
    Except Fault (List (List Char)) :=
  match content.takeWhile (· != '=') with
  | '/' :: name =>
    let name := Text.trim name
    if name.isEmpty then
      match openStyles with
      | [] => .error (.nothingOpen position)
      | _ :: rest => .ok rest
    else
      match close? (styleName name) openStyles with
      | some rest => .ok rest
      | none => .error (.unmatched (String.ofList ('[' :: content ++ [']'])) position)
  | name => .ok (styleName name :: openStyles)

/-- The plain text of pieces, while some styles are open. -/
def plainFrom : List (List Char) → List Piece → Except Fault (List Char)
  | _, [] => .ok []
  | openStyles, .plain text :: rest => do
    return withoutEscapes text ++ (← plainFrom openStyles rest)
  | openStyles, .tag position content :: rest => do
    plainFrom (← follow position content openStyles) rest

/-- The text that is printed. -/
def plain (text : String) : Except Fault String := do
  let printed ← plainFrom [] (pieces text.toList)
  return String.ofList (printed.filter fun c => !isSilent c)

end Lectern.Console.Markup
