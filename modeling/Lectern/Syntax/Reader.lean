/-
Module: Lectern.Syntax.Reader
Purpose: Reading source text token by token, with a way back when a reading does not work out.
Main exports: Cursor, Reader, Reader.either, Reader.token, Reader.word, Reader.semicolon, build
-/
import Lectern.Syntax.Lexeme
import Lectern.Syntax.Node

namespace Lectern.Syntax

open Lectern.Text.Utf8 (byteAt)

/-- Where a reading stands. -/
structure Cursor where
  /-- The end of the last token read. -/
  last : Nat
  /-- The start of the next token. -/
  next : Nat
  /-- Starts from which a speculative reading is known to fail. -/
  dead : List Nat := []
  /-- How many heads of arrow functions with a return type were read. -/
  typedHeads : Nat := 0
  /-- The furthest token that any reading asked for. -/
  furthest : Nat := 0
  deriving Repr, Inhabited

/-- Go back to `origin`, keeping what was learnt since. -/
def Cursor.back (origin learnt : Cursor) : Cursor :=
  { origin with dead := learnt.dead, furthest := max origin.furthest learnt.furthest }

/-- What a reading comes to. A refusal keeps what was learnt on the way. -/
inductive Outcome (α : Type) where
  | found (value : α) (cursor : Cursor)
  | refused (cursor : Cursor)

/-- A reading of the source from where the cursor stands. -/
def Reader (α : Type) := ByteArray → Cursor → Outcome α

namespace Reader

@[always_inline] instance : Monad Reader where
  pure value := fun _ cursor => .found value cursor
  bind first next := fun source cursor =>
    match first source cursor with
    | .found value cursor => next value source cursor
    | .refused cursor => .refused cursor

/-- The text does not continue as asked. -/
def refuse {α : Type} : Reader α := fun _ cursor =>
  .refused { cursor with furthest := max cursor.furthest cursor.next }

/-- The source. -/
@[inline] def getSource : Reader ByteArray := fun source cursor => .found source cursor

/-- Where the reading stands. -/
@[inline] def getCursor : Reader Cursor := fun _ cursor => .found cursor cursor

/-- Read one way or, where that fails, another. -/
@[inline] def either {α : Type} (first second : Reader α) : Reader α := fun source cursor =>
  match first source cursor with
  | .found value cursor => .found value cursor
  | .refused learnt => second source (Cursor.back cursor learnt)

/-- Read something that need not be there. -/
@[inline] def optional {α : Type} (reader : Reader α) : Reader (Option α) :=
  either (some <$> reader) (pure none)

/--
Read speculatively. A start from which this fails is remembered, so that nested speculation never
reads the same stretch twice.
-/
@[inline] def speculate {α : Type} (reader : Reader α) : Reader (Option α) := fun source cursor =>
  if cursor.dead.contains cursor.next then .found none cursor
  else
    match reader source cursor with
    | .found value cursor => .found (some value) cursor
    | .refused learnt =>
      let back := Cursor.back cursor learnt
      .found none { back with dead := cursor.next :: back.dead }

/-- Remember that a speculative reading from a start would fail. -/
@[inline] def markDead (start : Nat) : Reader Unit := fun _ cursor =>
  .found () { cursor with dead := start :: cursor.dead }

/-- Read, and where that fails remember that it does. -/
@[inline] def orMarkDead {α : Type} (reader : Reader α) : Reader α := fun source cursor =>
  match reader source cursor with
  | .found value cursor => .found value cursor
  | .refused learnt => .refused { learnt with dead := cursor.next :: learnt.dead }

/-- Forget the starts that a reading past them can no longer come back to. -/
@[inline] def forgetDead : Reader Unit := fun _ cursor =>
  .found () { cursor with dead := [] }

/-- Repeat a reading until it answers `none`, collecting what it finds. -/
def collect (step : Reader (Option (List Node))) :
    Nat → List (List Node) → Reader (List Node)
  | 0, _ => refuse
  | fuel + 1, found => fun source cursor =>
    match step source cursor with
    | .found (some nodes) cursor => collect step fuel (nodes :: found) source cursor
    | .found none cursor => .found found.reverse.flatten cursor
    | .refused cursor => .refused cursor

/-- Repeat a reading until it answers `none`. -/
@[inline] def many (step : Reader (Option (List Node))) : Reader (List Node) :=
  fun source cursor => collect step (source.size + 2) [] source cursor

/-! ## Tokens -/

/-- Move past a token that ends at `stop`. -/
@[inline] def moveTo (stop : Nat) : Reader Unit := fun source cursor =>
  .found () { cursor with last := stop, next := Lexeme.skipTrivia source stop }

/-- Move back to the raw text after the last token. -/
@[inline] def moveRaw : Reader Unit := fun _ cursor =>
  .found () { cursor with next := cursor.last }

/-- Move over raw text. -/
@[inline] def moveOver (stop : Nat) : Reader Unit := fun _ cursor =>
  .found () { cursor with last := stop, next := stop }

/-- Does the next token start with these characters? -/
@[inline] def sees (text : String) : Reader Bool := fun source cursor =>
  .found (Lexeme.startsWith source cursor.next text.toList) cursor

/-- The byte at some distance into the next token. -/
@[inline] def peek (distance : Nat := 0) : Reader UInt8 := fun source cursor =>
  .found (byteAt source (cursor.next + distance)) cursor

/-- Is the whole source read? -/
@[inline] def atEnd : Reader Bool := fun source cursor =>
  .found (cursor.next ≥ source.size) cursor

/-- Read these characters as a token. -/
def token (text : String) : Reader Node := fun source cursor =>
  let chars := text.toList
  if Lexeme.startsWith source cursor.next chars then
    let stop := cursor.next + chars.length
    .found ⟨.lexeme text, false, cursor.next, stop, none, false, []⟩
      { cursor with last := stop, next := Lexeme.skipTrivia source stop }
  else refuse source cursor

/-- The word that comes next, empty when the next token is no word. -/
def word : Reader String := fun source cursor =>
  let stop := Lexeme.wordStop source cursor.next
  .found (if stop == cursor.next then ""
    else Lectern.Text.Utf8.read (Lectern.Text.Utf8.slice source cursor.next stop)) cursor

/-- Is this word next? -/
def seesWord (text : String) : Reader Bool := fun source cursor =>
  .found (Lexeme.startsWith source cursor.next text.toList &&
    Lexeme.wordStop source cursor.next == cursor.next + text.length) cursor

/-- Read this word as a token. -/
def keyword (text : String) : Reader Node := do
  if ← seesWord text then token text else refuse

/-- Read a leaf that ends at `stop`. -/
def leafTo (kind : Kind) (stop : Nat) : Reader Node := fun source cursor =>
  .found ⟨kind, true, cursor.next, stop, none, false, []⟩
    { cursor with last := stop, next := Lexeme.skipTrivia source stop }

/-- Read the next word as a leaf of a category. -/
def wordAs (kind : Kind) : Reader Node := fun source cursor =>
  let stop := Lexeme.wordStop source cursor.next
  if stop == cursor.next then refuse source cursor else leafTo kind stop source cursor

/-- Is a word next? -/
def seesAnyWord : Reader Bool := fun source cursor =>
  .found (Lexeme.wordStop source cursor.next != cursor.next) cursor

/-- Read a string literal. -/
def stringLeaf : Reader Node := fun source cursor =>
  match Lexeme.stringStop source cursor.next with
  | some stop => leafTo .stringLiteral stop source cursor
  | none => refuse source cursor

/-- What follows the next word, with nothing read. -/
@[inline] def afterWord {α : Type} (reader : Reader α) : Reader α := fun source cursor =>
  let stop := Lexeme.wordStop source cursor.next
  match reader source { cursor with last := stop, next := Lexeme.skipTrivia source stop } with
  | .found value learnt => .found value (Cursor.back cursor learnt)
  | .refused learnt => .refused (Cursor.back cursor learnt)

/-! ## Statement ends -/

/-- The tokens after a line break that keep a statement open. -/
def continuesStatement : List Char :=
  ['\x60', ',', '.', ';', '*', '%', '>', '<', '=', '?', '^', '|', '&', '/', ':']

/-- May a statement end at the cursor with no semicolon? At the end of the text, before a closing
brace, and at a line break before a token that could not continue it. -/
def endsUnmarked (afterType : Bool) (source : ByteArray) (cursor : Cursor) : Bool :=
  let at? := fun distance c => Lexeme.at? source (cursor.next + distance) c
  if cursor.next ≥ source.size then true
  else if at? 0 '}' then
    !(Lexeme.at? source (Lexeme.skipSpace source (cursor.next + 1)) ':' && afterType)
  else if !Lexeme.breaksLine source cursor.last cursor.next then false
  else if continuesStatement.any (at? 0) then false
  else if at? 0 '(' || at? 0 '[' then afterType
  else if at? 0 '+' then at? 1 '+'
  else if at? 0 '-' then at? 1 '-'
  else if at? 0 '!' then !at? 1 '='
  else if at? 0 'i' && at? 1 'n' then
    let letter := fun distance => Lexeme.isLetter (byteAt source (cursor.next + distance))
    if !letter 2 then false
    else if Lexeme.startsWith source (cursor.next + 2) "stanceof".toList then letter 10
    else true
  else true

/-- May a statement end here with no semicolon? -/
@[inline] def endsHere (afterType : Bool := false) : Reader Bool := fun source cursor =>
  .found (endsUnmarked afterType source cursor) cursor

/-- Read the end of a statement. -/
def semicolon (afterType : Bool := false) : Reader (List Node) := do
  if ← sees ";" then return [← token ";"]
  else if ← endsHere afterType then return []
  else refuse

end Reader

/-! ## Building nodes -/

/-- The comments in a gap, as nodes. -/
def commentNodes (source : ByteArray) (start stop : Nat) : List Node :=
  (Lexeme.commentsBetween source start stop).map fun (start, stop) =>
    ⟨.comment, true, start, stop, none, false, []⟩

/-- Put the comments that stand between neighbours among them. -/
def withComments (source : ByteArray) : List Node → List Node
  | [] => []
  | [node] => [node]
  | node :: next :: rest =>
    node :: (commentNodes source node.stop next.start ++ withComments source (next :: rest))

/-- A node over its parts. -/
def Node.over (kind : Kind) (parts children : List Node) : Node :=
  let start := match parts.head? with | some first => first.start | none => 0
  let stop := match parts.getLast? with | some last => last.stop | none => 0
  ⟨kind, true, start, stop, none, false, children⟩

/-- A node made of the parts just read, comments between them included. -/
@[inline] def build (kind : Kind) (parts : List Node) : Reader Node := fun source cursor =>
  .found (Node.over kind parts (withComments source parts)) cursor

/-- A node made of parts between which there is only raw text. -/
@[inline] def buildRaw (kind : Kind) (parts : List Node) : Reader Node := fun _ cursor =>
  .found (Node.over kind parts parts) cursor

end Lectern.Syntax
