/-
Module: Lectern.Yaml.Token
Purpose: The tokens of a YAML text, and reading those that are spelled out: names, tags, directives
  and scalars in quotes, in blocks and plain.
Main exports: Token, scanAnchor, scanTag, scanDirective, scanBlock, scanQuoted, scanPlain
-/
import Lectern.Text.Utf8
import Lectern.Yaml.Cursor

namespace Lectern.Yaml

/-- A directive in front of a document. -/
inductive Directive where
  | version (major : Nat)
  | tag (handle start : String)
  | other
  deriving DecidableEq, Repr, Inhabited

/-- A token. -/
inductive Token where
  | directive (value : Directive)
  | documentStart
  | documentEnd
  | blockSequenceStart
  | blockMappingStart
  | blockEnd
  | flowSequenceStart
  | flowSequenceEnd
  | flowMappingStart
  | flowMappingEnd
  | blockEntry
  | flowEntry
  | key
  | value
  | alias (name : String)
  | anchor (name : String)
  /-- A tag; one without a handle is complete. -/
  | tag (handle : Option String) (suffix : String)
  | scalar (text : String) (plain : Bool)
  deriving DecidableEq, Repr, Inhabited

/-- What is read off a text, and the place behind it. -/
abbrev Scan (α : Type) := Except Fault (α × Cursor)

/-! ## Names, tags and directives -/

/-- The name behind a mark of one character. -/
def scanAnchor (cursor : Cursor) : Except Fault (String × Cursor) :=
  let (name, cursor) := cursor.forward.takeWhile isNameChar
  let follows (c : Char) := isGap c || "?:,]\x7d%@\x60".toList.contains c
  if name.isEmpty || !endOr follows cursor.next? then .error .malformed
  else .ok (String.ofList name, cursor)

/-- A character that may stand in a tag as it is. -/
def isTagChar (c : Char) : Bool :=
  c.isAlphanum || "-;/?:@&=+$,_.!~*'()[]".toList.contains c

/-- The value of a hexadecimal digit. -/
def hexValue? (c : Char) : Option Nat :=
  if c.isDigit then some (c.toNat - 48)
  else if 'a' ≤ c && c ≤ 'f' then some (c.toNat - 87)
  else if 'A' ≤ c && c ≤ 'F' then some (c.toNat - 55)
  else none

/-- The number that hexadecimal digits spell. -/
def hexNumber? (digits : List Char) : Option Nat :=
  digits.foldlM (fun number c => (hexValue? c).map (16 * number + ·)) 0

/-- The bytes of a tag; a percent sign stands before the code of a byte. -/
def tagBytes : Nat → Cursor → Except Fault (List UInt8 × Cursor)
  | 0, cursor => .ok ([], cursor)
  | fuel + 1, cursor => do
    match cursor.rest with
    | '%' :: high :: low :: _ =>
      match hexNumber? [high, low] with
      | some code =>
        let (bytes, cursor) ← tagBytes fuel (cursor.skip 3)
        return (code.toUInt8 :: bytes, cursor)
      | none => .error .malformed
    | c :: _ =>
      if isTagChar c then
        let (bytes, cursor) ← tagBytes fuel cursor.forward
        return (c.toNat.toUInt8 :: bytes, cursor)
      else if c == '%' then .error .malformed
      else return ([], cursor)
    | [] => return ([], cursor)

/-- The text of a tag, which must not be empty. -/
def scanTagText (cursor : Cursor) : Except Fault (String × Cursor) := do
  let (bytes, cursor) ← tagBytes cursor.rest.length cursor
  if bytes.isEmpty then .error .malformed
  match String.fromUTF8? ⟨bytes.toArray⟩ with
  | some text => return (text, cursor)
  | none => .error .malformed

/-- A handle: one exclamation mark, or a name between two. -/
def scanTagHandle (cursor : Cursor) : Except Fault (String × Cursor) :=
  if cursor.next? != some '!' then .error .malformed
  else
    let (name, behind) := cursor.forward.takeWhile isNameChar
    if behind.next? == some '!' then .ok ("!" ++ String.ofList name ++ "!", behind.forward)
    else if name.isEmpty && cursor.ahead? 1 == some ' ' then .ok ("!", cursor.forward)
    else .error .malformed

/-- A tag: its handle and the text behind that. -/
def scanTag (cursor : Cursor) : Except Fault (Token × Cursor) := do
  let (handle, suffix, cursor) ←
    if cursor.ahead? 1 == some '<' then do
      let (text, cursor) ← scanTagText (cursor.skip 2)
      if cursor.next? != some '>' then .error .malformed
      pure (none, text, cursor.forward)
    else if endOr isGap (cursor.ahead? 1) then pure (none, "!", cursor.forward)
    else do
      let word := (cursor.rest.drop 1).takeWhile fun c => !isBlankOrBreak c
      let (handle, behind) ←
        if word.contains '!' then scanTagHandle cursor else pure ("!", cursor.forward)
      let (text, behind) ← scanTagText behind
      pure (some handle, text, behind)
  if endOr isBlankOrBreak cursor.next? then return (.tag handle suffix, cursor)
  else .error .malformed

/-- A decimal number. -/
def scanNumber (cursor : Cursor) : Except Fault (Nat × Cursor) :=
  let (digits, cursor) := cursor.takeWhile Char.isDigit
  if digits.isEmpty then .error .malformed
  else .ok (digits.foldl (fun number c => 10 * number + (c.toNat - 48)) 0, cursor)

/-- The value of a directive behind its name. -/
def scanDirectiveValue (name : String) (cursor : Cursor) : Except Fault (Directive × Cursor) := do
  let value := cursor.dropWhile (· == ' ')
  if name == "YAML" then
    let (major, cursor) ← scanNumber value
    if cursor.next? != some '.' then .error .malformed
    let (_, cursor) ← scanNumber cursor.forward
    if endOr isBlankOrBreak cursor.next? then return (.version major, cursor)
    else .error .malformed
  else if name == "TAG" then
    let (handle, cursor) ← scanTagHandle value
    if cursor.next? != some ' ' then .error .malformed
    let (start, cursor) ← scanTagText (cursor.dropWhile (· == ' '))
    if endOr isBlankOrBreak cursor.next? then return (.tag handle start, cursor)
    else .error .malformed
  else return (.other, cursor.dropWhile fun c => !isBreak c)

/-- A directive with its line. -/
def scanDirective (cursor : Cursor) : Except Fault (Directive × Cursor) := do
  let (name, cursor) := cursor.forward.takeWhile isNameChar
  if name.isEmpty || !endOr isBlankOrBreak cursor.next? then .error .malformed
  let (value, cursor) ← scanDirectiveValue (String.ofList name) cursor
  return (value, ← cursor.restOfLine)

/-! ## Scalars in blocks -/

/-- What is done with the line ends at the end of a block. -/
inductive Chomping where
  | clip
  | strip
  | keep
  deriving DecidableEq, Repr, Inhabited

/-- How the end of a block is chomped, if a character says so. -/
def chomping? : Option Char → Option Chomping
  | some '+' => some .keep
  | some '-' => some .strip
  | _ => none

/-- How far a block is indented, if a digit says so. -/
def increment? (c : Option Char) : Except Fault (Option Nat) :=
  match c with
  | some c =>
    if c == '0' then .error .malformed
    else if c.isDigit then .ok (some (c.toNat - 48))
    else .ok none
  | none => .ok none

/-- The signs behind the mark of a block. -/
def scanBlockSigns (cursor : Cursor) : Except Fault ((Chomping × Option Nat) × Cursor) := do
  let signs ← match chomping? cursor.next? with
    | some chomping => do
      let cursor := cursor.forward
      match ← increment? cursor.next? with
      | some increment => pure ((chomping, some increment), cursor.forward)
      | none => pure ((chomping, none), cursor)
    | none => do
      match ← increment? cursor.next? with
      | none => pure ((.clip, none), cursor)
      | some increment =>
        let cursor := cursor.forward
        match chomping? cursor.next? with
        | some chomping => pure ((chomping, some increment), cursor.forward)
        | none => pure ((.clip, some increment), cursor)
  if endOr isBlankOrBreak signs.2.next? then return signs else .error .malformed

/-- The empty lines at the start of a block, and the widest indentation among its first lines. -/
def scanBlockStart : Nat → Cursor → List Char × Nat × Cursor
  | 0, cursor => ([], 0, cursor)
  | fuel + 1, cursor =>
    match cursor.lineBreak? with
    | some (ending, behind) =>
      let (breaks, widest, cursor) := scanBlockStart fuel behind
      (ending :: breaks, widest, cursor)
    | none =>
      if cursor.next? == some ' ' then
        let behind := cursor.forward
        let (breaks, widest, cursor) := scanBlockStart fuel behind
        (breaks, max widest behind.column, cursor)
      else ([], 0, cursor)

/-- Past blanks up to a column. -/
def skipIndent (indent : Nat) (cursor : Cursor) : Cursor :=
  let blanks := (cursor.rest.takeWhile (· == ' ')).length
  cursor.skip (min blanks (indent - cursor.column))

/-- The empty lines before the next line of a block. -/
def scanBlockBreaks (indent : Nat) : Nat → Cursor → List Char × Cursor
  | 0, cursor => ([], cursor)
  | fuel + 1, cursor =>
    let cursor := skipIndent indent cursor
    match cursor.lineBreak? with
    | some (ending, behind) =>
      let (breaks, cursor) := scanBlockBreaks indent fuel behind
      (ending :: breaks, cursor)
    | none => ([], cursor)

/-- Is the cursor at a line of a block with some indentation? -/
def inBlock (indent : Nat) (cursor : Cursor) : Bool :=
  cursor.column == indent && !cursor.rest.isEmpty

/-- The lines of a block: what is read, then the last line end and the empty lines behind it. -/
def scanBlockLines (folded : Bool) (indent : Nat) :
    Nat → List Char → Cursor → List Char × List Char × List Char × Cursor
  | 0, breaks, cursor => ([], [], breaks, cursor)
  | fuel + 1, breaks, cursor =>
    if !inBlock indent cursor then ([], [], breaks, cursor)
    else
      let leading := !someOf (fun c => c == ' ' || c == '\t') cursor.next?
      let (line, behind) := cursor.takeWhile fun c => !isBreak c
      let (ending, behind) := match behind.lineBreak? with
        | some (ending, behind) => ([ending], behind)
        | none => ([], behind)
      let (between, behind) := scanBlockBreaks indent behind.rest.length.succ behind
      if inBlock indent behind then
        let folds := folded && ending == ['\n'] && leading &&
          !someOf (fun c => c == ' ' || c == '\t') behind.next?
        let joint := if folds then (if between.isEmpty then [' '] else []) else ending
        let (text, last, after, cursor) := scanBlockLines folded indent fuel between behind
        (breaks ++ line ++ joint ++ text, last, after, cursor)
      else (breaks ++ line, ending, between, behind)

/-- A scalar in a block, within a construct that is indented so far. -/
def scanBlock (folded : Bool) (outer : Int) (cursor : Cursor) :
    Except Fault (String × Cursor) := do
  let ((chomping, increment), cursor) ← scanBlockSigns cursor.forward
  let cursor ← cursor.restOfLine
  let least := max 1 (outer + 1).toNat
  let (breaks, indent, cursor) := match increment with
    | none =>
      let (breaks, widest, cursor) := scanBlockStart cursor.rest.length.succ cursor
      (breaks, max least widest, cursor)
    | some increment =>
      let indent := least + increment - 1
      let (breaks, cursor) := scanBlockBreaks indent cursor.rest.length.succ cursor
      (breaks, indent, cursor)
  let (text, ending, after, cursor) :=
    scanBlockLines folded indent cursor.rest.length.succ breaks cursor
  let tail := match chomping with
    | .clip => ending
    | .strip => []
    | .keep => ending ++ after
  return (String.ofList (text ++ tail), cursor)

/-! ## Scalars in quotes -/

/-- What the characters behind a backslash stand for. -/
def escaped? (c : Char) : Option Char :=
  match c with
  | '0' => some '\x00'
  | 'a' => some '\x07'
  | 'b' => some '\x08'
  | 't' => some '\t'
  | '\t' => some '\t'
  | 'n' => some '\n'
  | 'v' => some '\x0b'
  | 'f' => some '\x0c'
  | 'r' => some '\r'
  | 'e' => some '\x1b'
  | ' ' => some ' '
  | '\x22' => some '\x22'
  | '\\' => some '\\'
  | '/' => some '/'
  | 'N' => some '\x85'
  | '_' => some '\xa0'
  | 'L' => some '\u2028'
  | 'P' => some '\u2029'
  | _ => none

/-- How many digits of a code stand behind a character. -/
def codeLength? : Char → Option Nat
  | 'x' => some 2
  | 'u' => some 4
  | 'U' => some 8
  | _ => none

/-- The character with a code that is given by its digits. -/
def scanCode (digits : List Char) (length : Nat) : Except Fault Char :=
  match hexNumber? digits with
  | some code =>
    if digits.length != length then .error .malformed
    else if code ≤ 0x10FFFF then .ok (Char.ofNat code)
    else .error (.unfit "ValueError" "chr() arg not in range(0x110000)")
  | none => .error .malformed

/-- The line ends that are left between the lines of a quoted scalar. -/
def scanQuotedBreaks : Nat → Cursor → Except Fault (List Char × Cursor)
  | 0, cursor => .ok ([], cursor)
  | fuel + 1, cursor => do
    if cursor.atDocumentMark then .error .malformed
    let cursor := cursor.dropWhile fun c => c == ' ' || c == '\t'
    match cursor.lineBreak? with
    | some (ending, behind) =>
      let (breaks, cursor) ← scanQuotedBreaks fuel behind
      return (ending :: breaks, cursor)
    | none => return ([], cursor)

/-- What the end of a line within a scalar stands for, and the line ends behind it. -/
def joint (ending : Char) (breaks : List Char) : List Char :=
  (if ending != '\n' then [ending] else if breaks.isEmpty then [' '] else []) ++ breaks

/-- The characters of a quoted scalar up to its quote, and the place behind that. -/
def scanQuotedText (quote : Char) : Nat → Cursor → Except Fault (List Char × Cursor)
  | 0, _ => .error .malformed
  | fuel + 1, cursor => do
    let isDouble := quote == '\x22'
    match cursor.rest with
    | [] => .error .malformed
    | c :: _ =>
      if c == quote then
        if !isDouble && cursor.ahead? 1 == some quote then
          let (text, cursor) ← scanQuotedText quote fuel (cursor.skip 2)
          return (quote :: text, cursor)
        else return ([], cursor.forward)
      else if c == '\\' && isDouble then
        let cursor := cursor.forward
        match cursor.next? with
        | none => .error .malformed
        | some mark =>
          match escaped? mark, codeLength? mark, cursor.lineBreak? with
          | some c, _, _ =>
            let (text, cursor) ← scanQuotedText quote fuel cursor.forward
            return (c :: text, cursor)
          | none, some length, _ =>
            let c ← scanCode ((cursor.rest.drop 1).take length) length
            let (text, cursor) ← scanQuotedText quote fuel (cursor.skip (length + 1))
            return (c :: text, cursor)
          | none, none, some (_, behind) =>
            let (breaks, cursor) ← scanQuotedBreaks behind.rest.length.succ behind
            let (text, cursor) ← scanQuotedText quote fuel cursor
            return (breaks ++ text, cursor)
          | none, none, none => .error .malformed
      else if isGap c then
        let (blanks, behind) := cursor.takeWhile fun c => c == ' ' || c == '\t'
        match behind.lineBreak? with
        | some (ending, behind) =>
          let (breaks, cursor) ← scanQuotedBreaks behind.rest.length.succ behind
          let (text, cursor) ← scanQuotedText quote fuel cursor
          return (joint ending breaks ++ text, cursor)
        | none =>
          let (text, cursor) ← scanQuotedText quote fuel behind
          return (blanks ++ text, cursor)
      else
        let (text, cursor) ← scanQuotedText quote fuel cursor.forward
        return (c :: text, cursor)

/-- A scalar in quotes. -/
def scanQuoted (quote : Char) (cursor : Cursor) : Except Fault (String × Cursor) := do
  let (text, cursor) ← scanQuotedText quote cursor.rest.length.succ cursor.forward
  return (String.ofList text, cursor)

/-! ## Plain scalars -/

/-- Does a plain scalar end here? In a flow, the marks of the flow end it, too. -/
def endsPlain (inFlow : Bool) : List Char → Bool
  | [] => true
  | ':' :: rest => endOr (fun c => isGap c || inFlow && ",[]\x7b\x7d".toList.contains c) rest.head?
  | c :: _ => isGap c || inFlow && ",?[]\x7b\x7d".toList.contains c

/-- The piece of a plain scalar that comes next. -/
def plainPiece (inFlow : Bool) : List Char → List Char
  | [] => []
  | c :: rest => if endsPlain inFlow (c :: rest) then [] else c :: plainPiece inFlow rest

/-- The line ends behind the first one within a plain scalar; none if a document ends there. -/
def scanPlainBreaks : Nat → Cursor → Option (List Char) × Cursor
  | 0, cursor => (some [], cursor)
  | fuel + 1, cursor =>
    match cursor.lineBreak? with
    | some (ending, behind) =>
      if behind.atDocumentMark then (none, behind)
      else
        let (breaks, cursor) := scanPlainBreaks fuel behind
        (breaks.map (ending :: ·), cursor)
    | none =>
      if cursor.next? == some ' ' then scanPlainBreaks fuel cursor.forward
      else (some [], cursor)

/-- What stands between two pieces of a plain scalar, the place behind it, and whether a line ends
in between. Nothing is between them if the scalar ends. -/
def scanPlainGap (cursor : Cursor) : List Char × Cursor × Bool :=
  let (blanks, behind) := cursor.takeWhile (· == ' ')
  match behind.lineBreak? with
  | some (ending, behind) =>
    if behind.atDocumentMark then ([], behind, true)
    else
      match scanPlainBreaks behind.rest.length.succ behind with
      | (some breaks, behind) => (joint ending breaks, behind, true)
      | (none, behind) => ([], behind, true)
  | none => (blanks, behind, false)

/-- The pieces of a plain scalar with what stands between them, and whether a line has ended behind
the last one. -/
def scanPlainText (inFlow : Bool) (indent : Nat) :
    Nat → List Char → Cursor → List Char × Cursor × Bool → List Char × Cursor × Bool
  | 0, _, _, done => done
  | fuel + 1, gap, cursor, done =>
    if cursor.next? == some '#' then done
    else
      let piece := plainPiece inFlow cursor.rest
      if piece.isEmpty then done
      else
        let text := done.1 ++ gap ++ piece
        let (gap, behind, broken) := scanPlainGap (cursor.skip piece.length)
        if gap.isEmpty || behind.next? == some '#' || (!inFlow && behind.column < indent) then
          (text, behind, broken)
        else scanPlainText inFlow indent fuel gap behind (text, behind, broken)

/-- A plain scalar, the place behind it and the gap that follows, and whether a line ends there. -/
def scanPlain (inFlow : Bool) (outer : Int) (cursor : Cursor) : String × Cursor × Bool :=
  let (text, cursor, broken) :=
    scanPlainText inFlow (outer + 1).toNat cursor.rest.length.succ [] cursor ([], cursor, false)
  (String.ofList text, cursor, broken)

end Lectern.Yaml
