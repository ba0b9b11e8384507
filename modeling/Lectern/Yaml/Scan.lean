/-
Module: Lectern.Yaml.Scan
Purpose: The tokens of a YAML text. Indentation opens and closes blocks, and a key is only known by
  the colon behind it, so that its token is put in later.
Main exports: Token.ofText
-/
import Lectern.Yaml.Token

namespace Lectern.Yaml

/-- A place where a key may have started. -/
structure KeyStart where
  /-- How many tokens stood before it. -/
  token : Nat
  /-- Must it turn out to be a key? -/
  required : Bool
  index : Nat
  line : Nat
  column : Nat
  deriving DecidableEq, Repr, Inhabited

/-- What is known while tokens are read. -/
structure Scanner where
  cursor : Cursor
  tokens : Array Token := #[]
  /-- How many flows are open. -/
  flow : Nat := 0
  /-- The column of the innermost block, and those of the blocks around it. -/
  indent : Int := -1
  indents : List Int := []
  keyAllowed : Bool := true
  /-- Where a key may have started, for each depth of flows. -/
  keys : List (Nat × KeyStart) := []
  deriving Repr, Inhabited

namespace Scanner

/-- Add a token. -/
def emit (scanner : Scanner) (token : Token) : Scanner :=
  { scanner with tokens := scanner.tokens.push token }

/-- Put a token in between. -/
def insert (scanner : Scanner) (place : Nat) (token : Token) : Scanner :=
  let before := scanner.tokens.extract 0 place
  { scanner with tokens := before.push token ++ scanner.tokens.extract place scanner.tokens.size }

/-- Is the scanner within a flow? -/
def inFlow (scanner : Scanner) : Bool := scanner.flow != 0

/-- Past some characters. -/
def skip (scanner : Scanner) (count : Nat) : Scanner :=
  { scanner with cursor := scanner.cursor.skip count }

/-- A key may start at the next token, or not. -/
def allowKey (scanner : Scanner) (allowed : Bool) : Scanner :=
  { scanner with keyAllowed := allowed }

/-! ## Keys -/

/-- Has the text gone on too far for a place to have started a key? -/
def isStale (scanner : Scanner) (key : KeyStart) : Bool :=
  key.line != scanner.cursor.line || scanner.cursor.index - key.index > 1024

/-- Forget places that have not started a key. -/
def dropStaleKeys (scanner : Scanner) : Except Fault Scanner :=
  let stale := scanner.keys.filter fun (_, key) => scanner.isStale key
  if stale.any fun (_, key) => key.required then .error .malformed
  else .ok { scanner with keys := scanner.keys.filter fun (_, key) => !scanner.isStale key }

/-- The place where a key may have started in the current flow. -/
def key? (scanner : Scanner) : Option KeyStart := scanner.keys.lookup scanner.flow

/-- Forget the place where a key may have started in the current flow. -/
def forgetKey (scanner : Scanner) : Scanner :=
  { scanner with keys := scanner.keys.filter fun (depth, _) => depth != scanner.flow }

/-- No key can have started in the current flow any more. -/
def dropKey (scanner : Scanner) : Except Fault Scanner :=
  match scanner.key? with
  | some key => if key.required then .error .malformed else .ok scanner.forgetKey
  | none => .ok scanner

/-- A key may start here. -/
def markKey (scanner : Scanner) : Except Fault Scanner := do
  let cursor := scanner.cursor
  let required := !scanner.inFlow && scanner.indent == cursor.column
  if scanner.keyAllowed then
    let scanner ← scanner.dropKey
    let key : KeyStart := ⟨scanner.tokens.size, required, cursor.index, cursor.line, cursor.column⟩
    return { scanner with keys := (scanner.flow, key) :: scanner.keys }
  else return scanner

/-! ## Blocks -/

/-- Close the blocks that are indented further than a column. -/
def closeBlocks (scanner : Scanner) (column : Int) : Scanner :=
  if scanner.inFlow then scanner
  else close scanner.indents scanner
where
  /-- Close blocks, given those around the innermost one. -/
  close : List Int → Scanner → Scanner
    | [], scanner => scanner
    | outer :: rest, scanner =>
      if scanner.indent > column then
        close rest { scanner.emit .blockEnd with indent := outer, indents := rest }
      else scanner

/-- Open a block at a column, if it is indented further than the innermost one. -/
def openBlock (scanner : Scanner) (column : Nat) : Option Scanner :=
  if scanner.indent < column then
    some { scanner with indent := column, indents := scanner.indent :: scanner.indents }
  else none

/-- Open a block at the cursor with a token, if it is indented further. -/
def openHere (scanner : Scanner) (token : Token) : Scanner :=
  match scanner.openBlock scanner.cursor.column with
  | some scanner => scanner.emit token
  | none => scanner

/-! ## Tokens -/

/-- Past blanks, comments and line ends. Behind a line end a key may start. -/
def skipGap : Nat → Scanner → Scanner
  | 0, scanner => scanner
  | fuel + 1, scanner =>
    let cursor := (scanner.cursor.dropWhile (· == ' ')).skipComment
    match cursor.lineBreak? with
    | some (_, behind) =>
      skipGap fuel
        { scanner with cursor := behind, keyAllowed := scanner.keyAllowed || !scanner.inFlow }
    | none => { scanner with cursor }

/-- All blocks end, and no key can have started. -/
def endBlocks (scanner : Scanner) : Except Fault Scanner := do
  return (← (scanner.closeBlocks (-1)).dropKey).allowKey false

/-- A flow starts. -/
def openFlow (scanner : Scanner) (token : Token) : Except Fault Scanner := do
  let scanner ← scanner.markKey
  return (({ scanner with flow := scanner.flow + 1 }.allowKey true).skip 1).emit token

/-- A flow ends. -/
def closeFlow (scanner : Scanner) (token : Token) : Except Fault Scanner := do
  if !scanner.inFlow then .error .malformed
  let scanner ← scanner.dropKey
  return (({ scanner with flow := scanner.flow - 1 }.allowKey false).skip 1).emit token

/-- A comma in a flow. -/
def flowEntry (scanner : Scanner) : Except Fault Scanner := do
  return ((← (scanner.allowKey true).dropKey).skip 1).emit .flowEntry

/-- The hyphen of an entry. -/
def blockEntry (scanner : Scanner) : Except Fault Scanner := do
  if !scanner.inFlow && !scanner.keyAllowed then .error .malformed
  let scanner := if scanner.inFlow then scanner else scanner.openHere .blockSequenceStart
  return ((← (scanner.allowKey true).dropKey).skip 1).emit .blockEntry

/-- The question mark of a key. -/
def explicitKey (scanner : Scanner) : Except Fault Scanner := do
  if !scanner.inFlow && !scanner.keyAllowed then .error .malformed
  let scanner := if scanner.inFlow then scanner else scanner.openHere .blockMappingStart
  return ((← (scanner.allowKey (!scanner.inFlow)).dropKey).skip 1).emit .key

/-- The colon behind what turns out to be a key. -/
def valueOfKey (scanner : Scanner) (key : KeyStart) : Scanner :=
  let scanner := scanner.forgetKey.insert key.token .key
  let scanner :=
    if scanner.inFlow then scanner
    else
      match scanner.openBlock key.column with
      | some scanner => scanner.insert key.token .blockMappingStart
      | none => scanner
  ((scanner.allowKey false).skip 1).emit .value

/-- A colon. -/
def value (scanner : Scanner) : Except Fault Scanner := do
  match scanner.key? with
  | some key => return scanner.valueOfKey key
  | none =>
    if !scanner.inFlow && !scanner.keyAllowed then .error .malformed
    let scanner := if scanner.inFlow then scanner else scanner.openHere .blockMappingStart
    return ((← (scanner.allowKey (!scanner.inFlow)).dropKey).skip 1).emit .value

/-- A token that is read off the text and may start a key. -/
def word {α : Type} (scanner : Scanner) (scan : Cursor → Except Fault (α × Cursor))
    (token : α → Token) : Except Fault Scanner := do
  let scanner ← scanner.markKey
  let (read, cursor) ← scan scanner.cursor
  return ({ scanner with cursor }.allowKey false).emit (token read)

/-- A scalar in a block. -/
def block (scanner : Scanner) (folded : Bool) : Except Fault Scanner := do
  let scanner ← (scanner.allowKey true).dropKey
  let (text, cursor) ← scanBlock folded scanner.indent scanner.cursor
  return { scanner with cursor }.emit (.scalar text false)

/-- A plain scalar. Behind a line end a key may start. -/
def plain (scanner : Scanner) : Except Fault Scanner := do
  let scanner ← scanner.markKey
  let (text, cursor, broken) := scanPlain scanner.inFlow scanner.indent scanner.cursor
  return ({ scanner with cursor }.allowKey broken).emit (.scalar text true)

/-- Can a plain scalar start here? -/
def startsPlain (scanner : Scanner) (c : Char) : Bool :=
  if isGap c then false
  else if !"-?:,[]\x7b\x7d#&*!|>'\x22%@\x60".toList.contains c then true
  else
    !endOr isGap (scanner.cursor.ahead? 1) &&
      (c == '-' || (!scanner.inFlow && (c == '?' || c == ':')))

/-- The token that starts with a character. -/
def token (scanner : Scanner) (c : Char) : Except Fault Scanner := do
  let cursor := scanner.cursor
  let atStart := cursor.column == 0
  let beforeGap := endOr isGap (cursor.ahead? 1)
  if atStart && c == '%' then
    let scanner ← scanner.endBlocks
    let (directive, cursor) ← scanDirective scanner.cursor
    return { scanner with cursor }.emit (.directive directive)
  else if atStart && cursor.atMark '-' then
    return ((← scanner.endBlocks).skip 3).emit .documentStart
  else if atStart && cursor.atMark '.' then
    return ((← scanner.endBlocks).skip 3).emit .documentEnd
  else if c == '[' then scanner.openFlow .flowSequenceStart
  else if c == '\x7b' then scanner.openFlow .flowMappingStart
  else if c == ']' then scanner.closeFlow .flowSequenceEnd
  else if c == '\x7d' then scanner.closeFlow .flowMappingEnd
  else if c == ',' then scanner.flowEntry
  else if c == '-' && beforeGap then scanner.blockEntry
  else if c == '?' && (scanner.inFlow || beforeGap) then scanner.explicitKey
  else if c == ':' && (scanner.inFlow || beforeGap) then scanner.value
  else if c == '*' then scanner.word scanAnchor .alias
  else if c == '&' then scanner.word scanAnchor .anchor
  else if c == '!' then scanner.word scanTag fun token => token
  else if c == '|' && !scanner.inFlow then scanner.block false
  else if c == '>' && !scanner.inFlow then scanner.block true
  else if c == '\'' || c == '\x22' then
    scanner.word (scanQuoted c) fun text => .scalar text false
  else if scanner.startsPlain c then scanner.plain
  else .error .malformed

/-- All further tokens. Every token takes at least one character. -/
def scan : Nat → Scanner → Except Fault (List Token)
  | 0, _ => .error .malformed
  | fuel + 1, scanner => do
    let scanner := skipGap scanner.cursor.rest.length.succ scanner
    let scanner ← scanner.dropStaleKeys
    let scanner := scanner.closeBlocks scanner.cursor.column
    match scanner.cursor.next? with
    | some c => scan fuel (← scanner.token c)
    | none => return (← scanner.endBlocks).tokens.toList

end Scanner

/-- May this character stand in a text? -/
def isAllowed (c : Char) : Bool :=
  let code := c.toNat
  code == 0x09 || code == 0x0A || code == 0x0D || (0x20 ≤ code && code ≤ 0x7E) || code == 0x85 ||
    (0xA0 ≤ code && code ≤ 0xD7FF) || (0xE000 ≤ code && code ≤ 0xFFFD) || 0x10000 ≤ code

/-- The tokens of a text. A byte order mark in front does not count. -/
def Token.ofText (text : List Char) : Except Fault (List Token) :=
  if !text.all isAllowed then .error .malformed
  else
    let start : Cursor := { rest := text }
    let start := if text.head? == some '\uFEFF' then start.forward else start
    Scanner.scan text.length.succ { cursor := start }

end Lectern.Yaml
