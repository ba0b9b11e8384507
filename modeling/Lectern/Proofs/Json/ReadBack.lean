/-
Module: Lectern.Proofs.Json.ReadBack
Purpose: What is printed as JSON is read back as it was, on one line or a member a line, as long as
  no number in it has a fraction or an exponent, or more digits than are read; and a literal in ASCII is.
Trusted boundary: none
Main exports: Json.WithoutFloats, Json.toList_prettyAt, Json.toList_compact,
  Json.parseChars_pretty, Json.parseChars_compact, Json.parse_ascii, Json.parse_script
-/
import Lectern.Json.Parser
import Lectern.Json.Printer

namespace Lectern.Json

/-! ## Text between quotes -/

namespace Parser

private theorem hexValue_hexDigit :
    ∀ value < 16, hexValue (Text.Quoted.hexDigit value) = some value := by
  decide

/-- The digits of an escape give its unit. -/
private theorem hexUnit_hexDigits {value : Nat} (small : value < 0x10000) :
    hexUnit (Text.Quoted.hexDigit (value / 4096 % 16)) (Text.Quoted.hexDigit (value / 256 % 16))
      (Text.Quoted.hexDigit (value / 16 % 16)) (Text.Quoted.hexDigit (value % 16)) = some value := by
  have digit (value : Nat) : hexValue (Text.Quoted.hexDigit (value % 16)) = some (value % 16) :=
    hexValue_hexDigit _ (Nat.mod_lt _ (by decide))
  simp only [hexUnit, digit, Option.bind_eq_bind, Option.bind_some, Option.pure_def]
  congr 1
  omega

section

variable {dialect : Dialect} {token rest : List Char} {read : List Nat}

/-- A unit that is not refused is read with what is pending before it. -/
private theorem stringTail_unit {pending : Option Nat} {unit : Nat} (small : unit < 0x10000)
    (kept : isRefused dialect pending unit = false) :
    stringTail dialect token pending read (Text.Quoted.unit unit ++ rest) =
      stringTail dialect token (pushUnit pending unit read).1 (pushUnit pending unit read).2 rest := by
  simp only [Text.Quoted.unit, List.cons_append, List.nil_append]
  rw [stringTail, hexUnit_hexDigits small]
  simp [kept]

/-- The escape of a character gives it back, in one unit or in two. -/
private theorem stringTail_escape {c : Char} :
    stringTail dialect token none read (Text.Quoted.escape c ++ rest) =
      stringTail dialect token none (c.toNat :: read) rest := by
  have valid : c.toNat < 0xD800 ∨ 0xDFFF < c.toNat ∧ c.toNat < 0x110000 := c.valid
  unfold Text.Quoted.escape
  dsimp only
  split
  next basic =>
    have first : isFirstHalf c.toNat = false := by
      rw [isFirstHalf, Bool.and_eq_false_iff, decide_eq_false_iff_not, decide_eq_false_iff_not]
      omega
    have second : isSecondHalf c.toNat = false := by
      rw [isSecondHalf, Bool.and_eq_false_iff, decide_eq_false_iff_not, decide_eq_false_iff_not]
      omega
    rw [stringTail_unit basic (by simp [isRefused, second])]
    simp [pushUnit, first]
  next beyond =>
    let high := 0xD800 + (c.toNat - 0x10000) / 1024
    let low := 0xDC00 + (c.toNat - 0x10000) % 1024
    have highBounds : 0xD800 ≤ high ∧ high < 0xDC00 := by omega
    have first : isFirstHalf high = true := by simp [isFirstHalf, highBounds]
    have apart : isSecondHalf high = false := by
      rw [isSecondHalf, Bool.and_eq_false_iff, decide_eq_false_iff_not]
      exact .inl (Nat.not_le_of_lt highBounds.2)
    have lowBounds : 0xDC00 ≤ low ∧ low < 0xE000 := by omega
    have second : isSecondHalf low = true := by simp [isSecondHalf, lowBounds]
    have whole : 0x10000 + (high - 0xD800) * 1024 + (low - 0xDC00) = c.toNat := by omega
    rw [List.append_assoc,
      stringTail_unit (by omega : high < 0x10000) (by simp [isRefused, apart])]
    have pending : pushUnit none high read = (some high, read) := by
      simp [pushUnit, first]
    rw [pending, stringTail_unit (by omega : low < 0x10000) (by simp [isRefused, second])]
    have paired : pushUnit (some high) low read = (none, c.toNat :: read) := by
      simp [pushUnit, second, whole]
    rw [paired]

/-- A short escape gives its character back. -/
private theorem stringTail_shortEscape {text : List Char} {c : Char}
    (escaped : Text.Quoted.shortEscape c = some text) :
    stringTail dialect token none read (text ++ rest) =
      stringTail dialect token none (c.toNat :: read) rest := by
  unfold Text.Quoted.shortEscape at escaped
  split at escaped
  all_goals
    cases escaped
    try simp [stringTail, escapedChar, flush, isDue]

/-- A character that stands for itself is read. -/
private theorem stringTail_self {c : Char} (plain : Text.Quoted.shortEscape c = none)
    (visible : ¬ c < ' ') : stringTail dialect token none read (c :: rest) =
      stringTail dialect token none (c.toNat :: read) rest := by
  have quote : c ≠ '\x22' := by
    rintro rfl
    cases plain
  have backslash : c ≠ '\\' := by
    rintro rfl
    cases plain
  rw [stringTail]
  · simp [quote, visible, flush, isDue]
  · intro absurd; exact fun _ => backslash absurd
  all_goals simp [backslash]

/-- A character of a literal is read back. -/
theorem stringTail_plainChar {c : Char} :
    stringTail dialect token none read (Text.Quoted.plainChar c ++ rest) =
      stringTail dialect token none (c.toNat :: read) rest := by
  unfold Text.Quoted.plainChar
  split
  next text escaped => exact stringTail_shortEscape escaped
  next plain =>
    split
    next control => exact stringTail_escape
    next visible => exact stringTail_self plain visible

/-- A character of a literal in ASCII is read back. -/
private theorem stringTail_asciiChar {c : Char} :
    stringTail dialect token none read (Text.Quoted.asciiChar c ++ rest) =
      stringTail dialect token none (c.toNat :: read) rest := by
  unfold Text.Quoted.asciiChar
  split
  next text escaped => exact stringTail_shortEscape escaped
  next plain =>
    split
    next visible =>
      rw [Bool.and_eq_true, decide_eq_true_eq] at visible
      exact stringTail_self plain (Char.not_lt.mpr visible.1)
    next => exact stringTail_escape

/-- A character of a literal inside of a page is read back. -/
private theorem stringTail_scriptChar {c : Char} :
    stringTail dialect token none read (Text.Quoted.scriptChar c ++ rest) =
      stringTail dialect token none (c.toNat :: read) rest := by
  unfold Text.Quoted.scriptChar
  split
  next markup =>
    have basic : c.toNat < 0x10000 := by
      simp only [Bool.or_eq_true, beq_iff_eq, or_assoc] at markup
      rcases markup with rfl | rfl | rfl | rfl <;> decide
    have escaped := @stringTail_escape dialect token rest read c
    rwa [Text.Quoted.escape, if_pos basic] at escaped
  next => exact stringTail_asciiChar

end

/-- The codes of the characters of a text. -/
def codesOf (text : List Char) : List Nat := text.map Char.toNat

/-- Each character is read from what is written for it, whatever follows. -/
def ReadsChars (dialect : Dialect) (written : Char → List Char) : Prop :=
  ∀ {token rest : List Char} {read : List Nat} {c : Char},
    stringTail dialect token none read (written c ++ rest) =
      stringTail dialect token none (c.toNat :: read) rest

/-- A text between quotes is read back, whatever follows it, if each of its characters is. -/
private theorem stringTail_flatMap {dialect : Dialect} {written : Char → List Char}
    (reads : ReadsChars dialect written) {token rest text : List Char} {read : List Nat} :
    stringTail dialect token none read (text.flatMap written ++ '\x22' :: rest) =
      .ok (read.reverse ++ codesOf text, rest) := by
  induction text generalizing read with
  | nil => simp [stringTail, flush, isDue, codesOf]
  | cons c text inductionHypothesis =>
      rw [List.flatMap_cons, List.append_assoc, reads, inductionHypothesis]
      simp [codesOf]

theorem stringTail_plain {dialect : Dialect} {token rest text : List Char} {read : List Nat} :
    stringTail dialect token none read (text.flatMap Text.Quoted.plainChar ++ '\x22' :: rest) =
      .ok (read.reverse ++ codesOf text, rest) := stringTail_flatMap stringTail_plainChar

/-- The codes of a text are those of no other one, and none is half of a pair. -/
private theorem stringOf?_codesOf (text : List Char) :
    stringOf? (codesOf text) = some (String.ofList text) := by
  have back : (codesOf text).map Char.ofNat = text := by simp [codesOf, Function.comp_def]
  have valid : (codesOf text).all (fun code => decide code.isValidChar) = true := by
    simpa [codesOf] using fun c _ => c.valid
  rw [stringOf?, if_pos valid, back]

theorem textOf_codesOf (text : List Char) : textOf (codesOf text) = .str (String.ofList text) := by
  rw [textOf, stringOf?_codesOf]

/-- A member with its key spelled out. -/
def spelledOut (member : String × Json) : List Nat × Json := (codesOf member.1.toList, member.2)

theorem objectOf_spelledOut (members : List (String × Json)) :
    objectOf (members.map spelledOut) = .obj members := by
  have none : (members.map spelledOut).filter (fun member => (stringOf? member.1).isNone) = [] := by
    rw [List.filter_eq_nil_iff, List.forall_mem_map]
    intro member _
    simp [spelledOut, stringOf?_codesOf]
  have named : (members.map spelledOut).filterMap (fun member =>
      (stringOf? member.1).map fun key => (key, member.2)) = members := by
    simp [List.filterMap_map, Function.comp_def, spelledOut, stringOf?_codesOf]
  rw [objectOf, none, named]

/-! ## Numbers -/

/-- A number ends where none of its further parts begins. -/
def endsNumber : List Char → Bool
  | [] => true
  | c :: _ => !c.isDigit && c != '.' && c != 'e' && c != 'E'

private theorem digitsOf_append {digits rest : List Char} (all : ∀ c ∈ digits, c.isDigit = true)
    (ends : endsNumber rest = true) : digitsOf (digits ++ rest) = (digits, rest) := by
  have stops : rest.takeWhile Char.isDigit = [] ∧ rest.dropWhile Char.isDigit = rest := by
    cases rest with
    | nil => exact ⟨rfl, rfl⟩
    | cons c rest =>
        have plain : c.isDigit = false := by
          simp only [endsNumber, Bool.and_eq_true, Bool.not_eq_true'] at ends
          exact ends.1.1.1
        simp [plain]
  simp [digitsOf, List.takeWhile_append_of_pos all, List.dropWhile_append_of_pos all, stops.1,
    stops.2]

private theorem fraction_of_ends {rest : List Char} (ends : endsNumber rest = true) :
    fraction rest = .ok (none, rest) := by
  unfold fraction
  split
  · simp [endsNumber] at ends
  · rfl

private theorem exponent_of_ends {rest : List Char} (ends : endsNumber rest = true) :
    exponent rest = .ok (none, rest) := by
  unfold exponent
  split
  next e rest =>
    simp only [endsNumber, Bool.and_eq_true, bne_iff_ne, ne_eq] at ends
    simp [ends.1.2, ends.2]
  next => rfl

private theorem digitChar_ne_zero : ∀ value < 10, 0 < value → Nat.digitChar value ≠ '0' := by
  decide

/-- Only zero starts with a zero. -/
private theorem head?_toDigits_ne_zero {value : Nat} (positive : 0 < value) :
    (Nat.toDigits 10 value).head? ≠ some '0' := by
  induction value using Nat.strongRecOn with
  | ind value inductionHypothesis =>
      rw [Nat.toDigits_eq_if (by decide)]
      split
      next small =>
        intro starts
        exact digitChar_ne_zero value small positive (Option.some.inj starts)
      next large =>
        have shorter := inductionHypothesis (value / 10) (by omega) (by omega)
        cases digits : Nat.toDigits 10 (value / 10) with
        | nil => exact absurd digits Nat.toDigits_ne_nil
        | cons digit digits' => simpa [digits] using shorter

private theorem digitsValue_toDigits (value : Nat) :
    digitsValue (Nat.toDigits 10 value) = value := by
  have read : Nat.ofDigitChars 10 (Nat.toDigits 10 value) 0 = value :=
    Nat.ofDigitChars_ten_toDigits
  rw [Nat.ofDigitChars_eq_foldl] at read
  rw [digitsValue]
  simpa [Nat.mul_comm] using read

/-- A natural number is read back behind its sign. -/
private theorem numberTail_toDigits {dialect : Dialect} {token rest : List Char} {negative : Bool}
    {value : Nat} (short : dialect.overlong? (Nat.toDigits 10 value) = none)
    (ends : endsNumber rest = true) :
    numberTail dialect token negative (Nat.toDigits 10 value ++ rest) =
      .ok (.int (if negative then -(value : Int) else value), rest) := by
  have all : ∀ c ∈ Nat.toDigits 10 value, c.isDigit = true := fun c member =>
    Nat.isDigit_of_mem_toDigits (by decide) (by decide) member
  unfold numberTail
  rw [digitsOf_append all ends]
  simp only
  split
  next empty => exact absurd empty Nat.toDigits_ne_nil
  next empty _ => exact absurd empty Nat.toDigits_ne_nil
  next leading =>
    cases value with
    | zero => cases leading
    | succ value => exact absurd (by rw [leading]; rfl) (head?_toDigits_ne_zero value.succ_pos)
  next =>
    simp [fraction_of_ends ends, exponent_of_ends ends, short, numberValue, digitsValue_toDigits,
      bind, Except.bind, pure, Except.pure]

end Parser

/-! ## Values -/

/-- No number in a value has a fraction or an exponent, or more digits than are read. -/
inductive WithoutFloats (dialect : Parser.Dialect) : Json → Prop where
  | null : WithoutFloats dialect .null
  | bool (value : Bool) : WithoutFloats dialect (.bool value)
  | int (value : Int) (short : dialect.overlong? (Nat.toDigits 10 value.natAbs) = none) :
      WithoutFloats dialect (.int value)
  | str (value : String) : WithoutFloats dialect (.str value)
  | arr {items : List Json} (all : ∀ item ∈ items, WithoutFloats dialect item) :
      WithoutFloats dialect (.arr items)
  | obj {members : List (String × Json)}
      (all : ∀ member ∈ members, WithoutFloats dialect member.2) :
      WithoutFloats dialect (.obj members)

/-- In records whole numbers are as long as they may be. -/
theorem WithoutFloats.int_record (value : Int) : WithoutFloats .record (.int value) := .int value rfl

/-- The blanks of a layout: in front of items, members and closing brackets at a depth, and behind
colons. -/
structure Gaps where
  before : Nat → List Char
  behindColon : List Char
  blankBefore : ∀ depth, ∀ c ∈ before depth, Parser.isSpace c = true
  blankBehindColon : ∀ c ∈ behindColon, Parser.isSpace c = true

mutual

/-- A value as text with some blanks, at some depth. -/
def laidOut (gaps : Gaps) (depth : Nat) : Json → List Char
  | .arr [] => ['[', ']']
  | .arr (first :: rest) =>
    '[' :: (gaps.before (depth + 1) ++ laidOut gaps (depth + 1) first ++
      itemsLaidOut gaps (depth + 1) rest ++ gaps.before depth ++ [']'])
  | .obj [] => ['\x7b', '\x7d']
  | .obj ((key, first) :: rest) =>
    '\x7b' :: (gaps.before (depth + 1) ++ (recordStyle.quote key.toList).toList ++
      ':' :: gaps.behindColon ++ laidOut gaps (depth + 1) first ++
      membersLaidOut gaps (depth + 1) rest ++ gaps.before depth ++ ['\x7d'])
  | .null => "null".toList
  | .bool value => (scalar recordStyle (.bool value)).toList
  | .int value => (scalar recordStyle (.int value)).toList
  | .float value => (scalar recordStyle (.float value)).toList
  | .str value => (scalar recordStyle (.str value)).toList
  | .unpaired codes => (scalar recordStyle (.unpaired codes)).toList
  | .unpairedKeys members apart => (scalar recordStyle (.unpairedKeys members apart)).toList

/-- The further items of an array. -/
def itemsLaidOut (gaps : Gaps) (depth : Nat) : List Json → List Char
  | [] => []
  | first :: rest =>
    ',' :: (gaps.before depth ++ laidOut gaps depth first ++ itemsLaidOut gaps depth rest)

/-- The further members of an object. -/
def membersLaidOut (gaps : Gaps) (depth : Nat) : List (String × Json) → List Char
  | [] => []
  | (key, first) :: rest =>
    ',' :: (gaps.before depth ++ (recordStyle.quote key.toList).toList ++
      ':' :: gaps.behindColon ++ laidOut gaps depth first ++ membersLaidOut gaps depth rest)

end

/-- Each item and member on a line of its own. -/
def lines : Gaps where
  before depth := (lineStart depth).toList
  behindColon := [' ']
  blankBefore depth c member := by
    rcases (by simpa [lineStart] using member) with rfl | ⟨_, rfl⟩
    · rfl
    · rfl
  blankBehindColon c member := by
    rw [List.mem_singleton.mp member]
    rfl

/-- Without blanks. -/
def noGaps : Gaps where
  before _ := []
  behindColon := []
  blankBefore _ _ member := by cases member
  blankBehindColon _ member := by cases member

mutual

theorem toList_prettyAt (depth : Nat) : ∀ value : Json,
    (prettyAt recordStyle depth value).toList = laidOut lines depth value
  | .arr [] => by simp [prettyAt, laidOut]
  | .arr (first :: rest) => by
      simp [prettyAt, laidOut, lines, toList_prettyAt (depth + 1) first,
        toList_prettyItems (depth + 1) rest]
  | .obj [] => by simp [prettyAt, laidOut]
  | .obj ((key, first) :: rest) => by
      simp [prettyAt, laidOut, lines, toList_prettyAt (depth + 1) first,
        toList_prettyMembers (depth + 1) rest]
  | .null => rfl
  | .bool _ => rfl
  | .int _ => rfl
  | .float _ => rfl
  | .str _ => rfl
  | .unpaired _ => rfl
  | .unpairedKeys _ _ => rfl

theorem toList_prettyItems (depth : Nat) : ∀ items : List Json,
    (prettyItems recordStyle depth items).toList = itemsLaidOut lines depth items
  | [] => rfl
  | first :: rest => by
      simp [prettyItems, itemsLaidOut, lines, toList_prettyAt depth first,
        toList_prettyItems depth rest]

theorem toList_prettyMembers (depth : Nat) : ∀ members : List (String × Json),
    (prettyMembers recordStyle depth members).toList = membersLaidOut lines depth members
  | [] => rfl
  | (key, first) :: rest => by
      simp [prettyMembers, membersLaidOut, lines, toList_prettyAt depth first,
        toList_prettyMembers depth rest]

end

mutual

theorem toList_compact (depth : Nat) : ∀ value : Json,
    (compact recordStyle value).toList = laidOut noGaps depth value
  | .arr [] => by simp [compact, laidOut]
  | .arr (first :: rest) => by
      simp [compact, laidOut, noGaps, toList_compact (depth + 1) first,
        toList_compactItems (depth + 1) rest]
  | .obj [] => by simp [compact, laidOut]
  | .obj ((key, first) :: rest) => by
      simp [compact, laidOut, noGaps, toList_compact (depth + 1) first,
        toList_compactMembers (depth + 1) rest]
  | .null => rfl
  | .bool _ => rfl
  | .int _ => rfl
  | .float _ => rfl
  | .str _ => rfl
  | .unpaired _ => rfl
  | .unpairedKeys _ _ => rfl

theorem toList_compactItems (depth : Nat) : ∀ items : List Json,
    (compactItems recordStyle items).toList = itemsLaidOut noGaps depth items
  | [] => rfl
  | first :: rest => by
      simp [compactItems, itemsLaidOut, noGaps, toList_compact depth first,
        toList_compactItems depth rest]

theorem toList_compactMembers (depth : Nat) : ∀ members : List (String × Json),
    (compactMembers recordStyle members).toList = membersLaidOut noGaps depth members
  | [] => rfl
  | (key, first) :: rest => by
      simp [compactMembers, membersLaidOut, noGaps, toList_compact depth first,
        toList_compactMembers depth rest]

end

namespace Parser

private theorem skipSpace_append {blanks text : List Char}
    (blank : ∀ c ∈ blanks, isSpace c = true) : skipSpace (blanks ++ text) = skipSpace text :=
  List.dropWhile_append_of_pos blank

/-- Does a character begin a value? -/
private def begins (c : Char) : Bool := !isSpace c && c != ']' && c != '\x7d'

private theorem skipSpace_of_begins {c : Char} {text : List Char} (starts : begins c = true) :
    skipSpace (c :: text) = c :: text := by
  simp only [begins, Bool.and_eq_true, Bool.not_eq_true'] at starts
  simp [skipSpace, starts.1.1]

private theorem begins_of_isDigit {c : Char} (digit : c.isDigit = true) : begins c = true := by
  have apart (other : Char) (plain : other.isDigit = false) : c ≠ other := by
    rintro rfl
    rw [digit] at plain
    cases plain
  simp [begins, isSpace, apart ' ' rfl, apart '\n' rfl, apart '\r' rfl, apart '\t' rfl,
    apart ']' rfl, apart '\x7d' rfl]

theorem toList_quote (text : List Char) :
    (recordStyle.quote text).toList =
      '\x22' :: (text.flatMap Text.Quoted.plainChar ++ ['\x22']) := by
  simp [recordStyle, Text.Quoted.plain, Text.Quoted.wrap]

theorem toList_int (value : Int) :
    (toString value).toList =
      if 0 ≤ value then Nat.toDigits 10 value.toNat else '-' :: Nat.toDigits 10 (-value).toNat := by
  rw [Int.toString_eq_repr, Int.repr_eq_if]
  split
  · simp
  · simp

private theorem toDigits_cons (value : Nat) :
    ∃ c text, Nat.toDigits 10 value = c :: text ∧ c.isDigit = true := by
  cases digits : Nat.toDigits 10 value with
  | nil => exact absurd digits Nat.toDigits_ne_nil
  | cons c text =>
      have member : c ∈ Nat.toDigits 10 value := by
        rw [digits]
        exact List.mem_cons_self
      exact ⟨c, text, rfl, Nat.isDigit_of_mem_toDigits (by decide) (by decide) member⟩

private theorem laidOut_begins (gaps : Gaps) (depth : Nat) {dialect : Dialect} {value : Json}
    (whole : value.WithoutFloats dialect) :
    ∃ c text, laidOut gaps depth value = c :: text ∧ begins c = true := by
  cases whole with
  | null => exact ⟨_, _, rfl, rfl⟩
  | bool value =>
      cases value with
      | false => exact ⟨_, _, rfl, rfl⟩
      | true => exact ⟨_, _, rfl, rfl⟩
  | int value short =>
      change ∃ c text, (toString value).toList = c :: text ∧ _
      rw [toList_int]
      split
      · obtain ⟨c, text, digits, digit⟩ := toDigits_cons value.toNat
        exact ⟨c, text, digits, begins_of_isDigit digit⟩
      · exact ⟨_, _, rfl, rfl⟩
  | str value => exact ⟨_, _, toList_quote _, rfl⟩
  | @arr items all =>
      cases items with
      | nil => exact ⟨_, _, by rw [laidOut], rfl⟩
      | cons first rest => exact ⟨_, _, by rw [laidOut], rfl⟩
  | @obj members all =>
      cases members with
      | nil => exact ⟨_, _, by rw [laidOut], rfl⟩
      | cons first rest => exact ⟨_, _, by rw [laidOut], rfl⟩

/-- Behind some blanks the text of a value is all there. -/
private theorem skipSpace_laidOut {gaps : Gaps} {depth : Nat} {dialect : Dialect} {value : Json}
    (whole : value.WithoutFloats dialect) {blanks rest : List Char}
    (blank : ∀ c ∈ blanks, isSpace c = true) :
    skipSpace (blanks ++ (laidOut gaps depth value ++ rest)) = laidOut gaps depth value ++ rest := by
  obtain ⟨c, text, spelled, starts⟩ := laidOut_begins gaps depth whole
  rw [skipSpace_append blank, spelled, List.cons_append, skipSpace_of_begins starts]

section

variable {dialect : Dialect} {fuel : Nat} {rest : List Char}

private theorem value_of_isDigit {c : Char} {text : List Char} (digit : c.isDigit = true) :
    value dialect (fuel + 1) (c :: text) = numberTail dialect (c :: text) false (c :: text) := by
  have scalar : scalarValue dialect (c :: text) =
      numberTail dialect (c :: text) false (c :: text) := by
    unfold scalarValue
    split
    next other => cases other
    all_goals
      first
        | next other => cases other; cases digit
        | skip
    next other =>
      cases other
      rw [if_pos digit]
  rw [← scalar]
  unfold value
  split
  next => contradiction
  next other => cases other; cases digit
  next other => cases other; cases digit
  next => rfl

private theorem value_minus {c : Char} {text : List Char} (digit : c.isDigit = true) :
    value dialect (fuel + 1) ('-' :: c :: text) =
      numberTail dialect ('-' :: c :: text) true (c :: text) := by
  change scalarValue dialect ('-' :: c :: text) = _
  unfold scalarValue
  split
  all_goals
    first
      | next other => cases other; done
      | skip
  next other => cases other; cases digit
  next other => cases other; rfl
  next minus _ other =>
    cases other
    exact absurd rfl minus

private theorem value_int {number : Int}
    (short : dialect.overlong? (Nat.toDigits 10 number.natAbs) = none)
    (ends : endsNumber rest = true) :
    value dialect (fuel + 1) ((toString number).toList ++ rest) = .ok (.int number, rest) := by
  rw [toList_int]
  split
  next positive =>
    obtain ⟨c, text, digits, digit⟩ := toDigits_cons number.toNat
    rw [show number.natAbs = number.toNat by omega] at short
    rw [digits, List.cons_append, value_of_isDigit digit, ← List.cons_append, ← digits,
      numberTail_toDigits short ends]
    simp [Int.max_eq_left positive]
  next negative =>
    obtain ⟨c, text, digits, digit⟩ := toDigits_cons (-number).toNat
    rw [show number.natAbs = (-number).toNat by omega] at short
    rw [digits, List.cons_append, List.cons_append, value_minus digit, ← List.cons_append,
      ← digits, numberTail_toDigits short ends]
    have back : -max (-number) 0 = number := by omega
    simp [back]

/-- A literal is read as its text. -/
private theorem value_literal {written : Char → List Char} (reads : ReadsChars dialect written)
    {text : List Char} :
    value dialect (fuel + 1) ('\x22' :: (text.flatMap written ++ '\x22' :: rest)) =
      .ok (.str (String.ofList text), rest) := by
  simp [value, scalarValue, stringTail_flatMap reads, Except.map, textOf_codesOf]

private theorem value_str {text : String} :
    value dialect (fuel + 1) ((recordStyle.quote text.toList).toList ++ rest) =
      .ok (.str text, rest) := by
  rw [toList_quote, List.cons_append, List.append_assoc, List.singleton_append,
    value_literal stringTail_plainChar, String.ofList_toList]

end

/-! ### What follows an item or a member -/

section

variable {gaps : Gaps} {dialect : Dialect}

private theorem endsNumber_of_blank {blanks rest : List Char}
    (blank : ∀ c ∈ blanks, isSpace c = true) (ends : endsNumber rest = true) :
    endsNumber (blanks ++ rest) = true := by
  cases blanks with
  | nil => exact ends
  | cons c blanks =>
      have space : isSpace c = true := blank c List.mem_cons_self
      simp only [isSpace, Bool.or_eq_true, beq_iff_eq] at space
      rcases space with ((rfl | rfl) | rfl) | rfl
      all_goals rfl

private theorem endsNumber_items {depth : Nat} {items : List Json} {rest : List Char}
    (ends : endsNumber rest = true) :
    endsNumber (itemsLaidOut gaps depth items ++ rest) = true := by
  cases items with
  | nil => exact ends
  | cons first items => rw [itemsLaidOut]; rfl

private theorem endsNumber_members {depth : Nat} {members : List (String × Json)}
    {rest : List Char} (ends : endsNumber rest = true) :
    endsNumber (membersLaidOut gaps depth members ++ rest) = true := by
  cases members with
  | nil => exact ends
  | cons first members => rw [membersLaidOut]; rfl

/-- A value is read back at every depth, whatever follows it that is no part of a number. -/
private def ReadsBack (gaps : Gaps) (dialect : Dialect) (read : Json) : Prop :=
  read.WithoutFloats dialect ∧ ∀ (depth fuel : Nat) (rest : List Char),
    (laidOut gaps depth read).length ≤ fuel → endsNumber rest = true →
    value dialect fuel (laidOut gaps depth read ++ rest) = .ok (read, rest)

private theorem items_last {fuel : Nat} {read : List Json} {item : Json}
    {text closing rest : List Char} (blank : ∀ c ∈ closing, isSpace c = true)
    (last : value dialect fuel text = .ok (item, closing ++ ']' :: rest)) :
    items dialect (fuel + 1) read text = .ok (.arr (read.reverse ++ [item]), rest) := by
  have bracket : skipSpace (closing ++ ']' :: rest) = ']' :: rest := by
    rw [skipSpace_append blank]
    rfl
  simp [items, last, bracket, bind, Except.bind, pure, Except.pure]

private theorem items_next {fuel depth : Nat} {read : List Json} {item second : Json}
    {text blanks rest : List Char} (whole : second.WithoutFloats dialect)
    (blank : ∀ c ∈ blanks, isSpace c = true)
    (one : value dialect fuel text = .ok (item, ',' :: (blanks ++ (laidOut gaps depth second ++ rest)))) :
    items dialect (fuel + 1) read text = items dialect fuel (item :: read) (laidOut gaps depth second ++ rest) := by
  have comma (tail : List Char) : skipSpace (',' :: tail) = ',' :: tail := rfl
  obtain ⟨c, spelled, same, starts⟩ := laidOut_begins gaps depth whole
  have more : skipSpace (blanks ++ (laidOut gaps depth second ++ rest)) =
      laidOut gaps depth second ++ rest := skipSpace_laidOut whole blank
  have bracket : c ≠ ']' := by
    rintro rfl
    cases starts
  rw [same, List.cons_append] at one more ⊢
  simp only [items, one, comma, more, bind, Except.bind]
  split
  next impossible => cases impossible
  next impossible => cases impossible; exact absurd rfl bracket
  next => rfl

private theorem items_laidOut {depth : Nat} {closing rest : List Char}
    (blank : ∀ c ∈ closing, isSpace c = true) {first : Json} {others : List Json}
    (back : ∀ item ∈ first :: others, ReadsBack gaps dialect item) {fuel : Nat} {read : List Json}
    (long : (laidOut gaps depth first ++ itemsLaidOut gaps depth others).length < fuel) :
    items dialect fuel read (laidOut gaps depth first ++
      (itemsLaidOut gaps depth others ++ (closing ++ ']' :: rest))) =
      .ok (.arr (read.reverse ++ first :: others), rest) := by
  have close : endsNumber (closing ++ ']' :: rest) = true := endsNumber_of_blank blank rfl
  induction others generalizing first fuel read with
  | nil =>
      obtain ⟨fuel, rfl⟩ : ∃ more, fuel = more + 1 := ⟨fuel - 1, by omega⟩
      apply items_last blank
      refine (back first List.mem_cons_self).2 depth fuel _ ?_ close
      simp only [List.length_append] at long
      omega
  | cons second others inductionHypothesis =>
      obtain ⟨fuel, rfl⟩ : ∃ more, fuel = more + 1 := ⟨fuel - 1, by omega⟩
      simp only [itemsLaidOut, List.length_append, List.length_cons] at long
      have one := (back first List.mem_cons_self).2 depth fuel
        (itemsLaidOut gaps depth (second :: others) ++ (closing ++ ']' :: rest)) (by omega)
        (endsNumber_items close)
      simp only [itemsLaidOut, List.cons_append, List.append_assoc] at one ⊢
      rw [items_next (back second (by simp)).1 (gaps.blankBefore depth) one]
      refine (inductionHypothesis (fun item member => back item (List.mem_cons_of_mem _ member))
        ?_).trans ?_
      · simp only [List.length_append]
        omega
      · simp

/-- A key and its colon are read back, up to the value. -/
private theorem keyAndColon_laidOut {depth : Nat} {key : String} {member : Json}
    (whole : member.WithoutFloats dialect) {rest : List Char} :
    keyAndColon dialect ((recordStyle.quote key.toList).toList ++
      ':' :: (gaps.behindColon ++ (laidOut gaps depth member ++ rest))) =
      .ok (codesOf key.toList, laidOut gaps depth member ++ rest) := by
  have colonRead : colon (':' :: (gaps.behindColon ++ (laidOut gaps depth member ++ rest))) =
      .ok (laidOut gaps depth member ++ rest) :=
    congrArg Except.ok (skipSpace_laidOut whole gaps.blankBehindColon)
  rw [toList_quote, List.cons_append, List.append_assoc, List.singleton_append]
  simp [keyAndColon, stringTail_plain, colonRead, bind, Except.bind, pure, Except.pure]

private theorem members_last {fuel : Nat} {read : List (List Nat × Json)} {key : List Nat}
    {member : Json} {text inside closing rest : List Char} (blank : ∀ c ∈ closing, isSpace c = true)
    (named : keyAndColon dialect text = .ok (key, inside))
    (last : value dialect fuel inside = .ok (member, closing ++ '\x7d' :: rest)) :
    members dialect (fuel + 1) read text = .ok (objectOf (read.reverse ++ [(key, member)]), rest) := by
  have bracket : skipSpace (closing ++ '\x7d' :: rest) = '\x7d' :: rest := by
    rw [skipSpace_append blank]
    rfl
  simp [members, named, last, bracket, bind, Except.bind, pure, Except.pure]

private theorem members_next {fuel : Nat} {read : List (List Nat × Json)} {key : List Nat}
    {second : String} {member : Json} {text inside blanks rest : List Char}
    (blank : ∀ c ∈ blanks, isSpace c = true) (named : keyAndColon dialect text = .ok (key, inside))
    (one : value dialect fuel inside =
      .ok (member, ',' :: (blanks ++ ((recordStyle.quote second.toList).toList ++ rest)))) :
    members dialect (fuel + 1) read text =
      members dialect fuel ((key, member) :: read) ((recordStyle.quote second.toList).toList ++ rest) := by
  have comma (tail : List Char) : skipSpace (',' :: tail) = ',' :: tail := rfl
  have more : skipSpace (blanks ++ ((recordStyle.quote second.toList).toList ++ rest)) =
      (recordStyle.quote second.toList).toList ++ rest := by
    rw [skipSpace_append blank, toList_quote]
    rfl
  rw [toList_quote, List.cons_append] at one more ⊢
  simp only [members, named, one, comma, more, bind, Except.bind]
  rfl

private theorem members_laidOut {depth : Nat} {closing rest : List Char}
    (blank : ∀ c ∈ closing, isSpace c = true) {key : String} {first : Json}
    {others : List (String × Json)}
    (back : ∀ member ∈ (key, first) :: others, ReadsBack gaps dialect member.2) {fuel : Nat}
    {read : List (List Nat × Json)}
    (long : (laidOut gaps depth first ++ membersLaidOut gaps depth others).length < fuel) :
    members dialect fuel read ((recordStyle.quote key.toList).toList ++
      ':' :: (gaps.behindColon ++ (laidOut gaps depth first ++
        (membersLaidOut gaps depth others ++ (closing ++ '\x7d' :: rest))))) =
      .ok (objectOf (read.reverse ++ ((key, first) :: others).map spelledOut), rest) := by
  have close : endsNumber (closing ++ '\x7d' :: rest) = true := endsNumber_of_blank blank rfl
  induction others generalizing key first fuel read with
  | nil =>
      obtain ⟨fuel, rfl⟩ : ∃ more, fuel = more + 1 := ⟨fuel - 1, by omega⟩
      have one : ReadsBack gaps dialect first := back (key, first) List.mem_cons_self
      apply members_last blank (keyAndColon_laidOut one.1)
      refine one.2 depth fuel _ ?_ close
      simp only [List.length_append] at long
      omega
  | cons second others inductionHypothesis =>
      obtain ⟨fuel, rfl⟩ : ∃ more, fuel = more + 1 := ⟨fuel - 1, by omega⟩
      obtain ⟨name, second⟩ := second
      simp only [membersLaidOut, List.length_append, List.length_cons] at long
      have one : ReadsBack gaps dialect first := back (key, first) List.mem_cons_self
      have read := one.2 depth fuel
        (membersLaidOut gaps depth ((name, second) :: others) ++ (closing ++ '\x7d' :: rest))
        (by omega) (endsNumber_members close)
      simp only [membersLaidOut, List.cons_append, List.append_assoc] at read ⊢
      rw [members_next (gaps.blankBefore depth) (keyAndColon_laidOut one.1) read]
      refine (inductionHypothesis (fun member inside => back member (List.mem_cons_of_mem _ inside))
        ?_).trans ?_
      · simp only [List.length_append]
        omega
      · simp [spelledOut]

private theorem exists_fuel {depth fuel : Nat} {read : Json} (whole : read.WithoutFloats dialect)
    (long : (laidOut gaps depth read).length ≤ fuel) : ∃ more, fuel = more + 1 := by
  obtain ⟨c, text, spelled, _⟩ := laidOut_begins gaps depth whole
  rw [spelled, List.length_cons] at long
  exact ⟨fuel - 1, by omega⟩

private theorem value_arr {fuel depth : Nat} {first : Json} (whole : first.WithoutFloats dialect)
    {blanks rest : List Char} (blank : ∀ c ∈ blanks, isSpace c = true) :
    value dialect (fuel + 1) ('[' :: (blanks ++ (laidOut gaps depth first ++ rest))) =
      items dialect fuel [] (laidOut gaps depth first ++ rest) := by
  obtain ⟨c, spelled, same, starts⟩ := laidOut_begins gaps depth whole
  have more : skipSpace (blanks ++ (laidOut gaps depth first ++ rest)) =
      laidOut gaps depth first ++ rest := skipSpace_laidOut whole blank
  have bracket : c ≠ ']' := by
    rintro rfl
    cases starts
  rw [same, List.cons_append] at more ⊢
  simp only [value, more]
  split
  next impossible => cases impossible; exact absurd rfl bracket
  next impossible => cases impossible
  next => rfl

private theorem value_obj {fuel : Nat} {key : String} {blanks rest : List Char}
    (blank : ∀ c ∈ blanks, isSpace c = true) :
    value dialect (fuel + 1) ('\x7b' :: (blanks ++ ((recordStyle.quote key.toList).toList ++ rest))) =
      members dialect fuel [] ((recordStyle.quote key.toList).toList ++ rest) := by
  have more : skipSpace (blanks ++ ((recordStyle.quote key.toList).toList ++ rest)) =
      (recordStyle.quote key.toList).toList ++ rest := by
    rw [skipSpace_append blank, toList_quote]
    rfl
  rw [toList_quote, List.cons_append] at more ⊢
  simp only [value, more]
  rfl

/-- Every value without fractions is read back. -/
private theorem readsBack {read : Json} (whole : read.WithoutFloats dialect) : ReadsBack gaps dialect read := by
  induction whole with
  | null =>
      have whole : WithoutFloats dialect .null := .null
      refine ⟨whole, ?_⟩
      intro depth fuel rest long _
      obtain ⟨fuel, rfl⟩ := exists_fuel whole long
      rfl
  | bool flag =>
      have whole : WithoutFloats dialect (.bool flag) := .bool flag
      refine ⟨whole, ?_⟩
      intro depth fuel rest long _
      obtain ⟨fuel, rfl⟩ := exists_fuel whole long
      cases flag with
      | false => rfl
      | true => rfl
  | int number short =>
      have whole : WithoutFloats dialect (.int number) := .int number short
      refine ⟨whole, ?_⟩
      intro depth fuel rest long ends
      obtain ⟨fuel, rfl⟩ := exists_fuel whole long
      exact value_int short ends
  | str text =>
      have whole : WithoutFloats dialect (.str text) := .str text
      refine ⟨whole, ?_⟩
      intro depth fuel rest long _
      obtain ⟨fuel, rfl⟩ := exists_fuel whole long
      exact value_str
  | @arr items all inductionHypothesis =>
      refine ⟨.arr all, ?_⟩
      intro depth fuel rest long _
      obtain ⟨fuel, rfl⟩ := exists_fuel (.arr all) long
      cases items with
      | nil => simp [laidOut, value, skipSpace, isSpace]
      | cons first others =>
          simp only [laidOut, List.cons_append, List.append_assoc, List.length_cons,
            List.length_append] at long ⊢
          rw [value_arr (all first List.mem_cons_self) (gaps.blankBefore (depth + 1))]
          apply items_laidOut (gaps.blankBefore depth) inductionHypothesis
          simp only [List.length_append]
          omega
  | @obj members all inductionHypothesis =>
      refine ⟨.obj all, ?_⟩
      intro depth fuel rest long _
      obtain ⟨fuel, rfl⟩ := exists_fuel (.obj all) long
      cases members with
      | nil => simp [laidOut, value, skipSpace, isSpace]
      | cons first others =>
          obtain ⟨key, first⟩ := first
          simp only [laidOut, List.cons_append, List.append_assoc, List.length_cons,
            List.length_append] at long ⊢
          rw [value_obj (gaps.blankBefore (depth + 1)), ← objectOf_spelledOut]
          apply members_laidOut (gaps.blankBefore depth) inductionHypothesis
          simp only [List.length_append]
          omega

/-- A text that a value is laid out as reads as that value. -/
private theorem parseChars_laidOut {read : Json} (whole : read.WithoutFloats dialect) :
    parseChars dialect (laidOut gaps 0 read) = .ok read := by
  have start : skipSpace ([] ++ (laidOut gaps 0 read ++ [])) = laidOut gaps 0 read ++ [] :=
    skipSpace_laidOut whole fun _ impossible => by cases impossible
  rw [List.nil_append, List.append_nil] at start
  have back : ReadsBack gaps dialect read := readsBack whole
  have done := back.2 0 ((laidOut gaps 0 read).length + 1) [] (by omega) rfl
  rw [List.append_nil] at done
  simp only [parseChars, start, done, bind, Except.bind, pure, Except.pure]
  rfl

end

end Parser

/-- A value that was printed a member a line is read back. -/
theorem parseChars_pretty {dialect : Parser.Dialect} {read : Json}
    (whole : read.WithoutFloats dialect) :
    Parser.parseChars dialect (pretty recordStyle read).toList = .ok read := by
  rw [pretty, toList_prettyAt, Parser.parseChars_laidOut whole]

/-- A value that was printed on one line is read back. -/
theorem parseChars_compact {dialect : Parser.Dialect} {read : Json}
    (whole : read.WithoutFloats dialect) :
    Parser.parseChars dialect (compact recordStyle read).toList = .ok read := by
  rw [toList_compact 0, Parser.parseChars_laidOut whole]

/-- A literal is read back if each of its characters is. -/
private theorem parse_wrap {written : Char → List Char} (reads : Parser.ReadsChars .message written)
    (text : List Char) :
    parse (Text.Quoted.wrap (text.flatMap written)) = .ok (.str (String.ofList text)) := by
  have spelled : (Text.Quoted.wrap (text.flatMap written)).toList =
      '\x22' :: (text.flatMap written ++ ['\x22']) := String.toList_ofList
  have start : Parser.skipSpace ('\x22' :: (text.flatMap written ++ ['\x22'])) =
      '\x22' :: (text.flatMap written ++ ['\x22']) := rfl
  simp only [parse, Parser.parseChars, spelled, start, Parser.value_literal reads, bind, Except.bind,
    pure, Except.pure]
  rfl

/-- A literal in ASCII is read back. -/
theorem parse_ascii (text : List Char) :
    parse (Text.Quoted.ascii text) = .ok (.str (String.ofList text)) :=
  parse_wrap Parser.stringTail_asciiChar text

/-- A literal inside of a page is read back. -/
theorem parse_script (text : List Char) :
    parse (Text.Quoted.script text) = .ok (.str (String.ofList text)) :=
  parse_wrap Parser.stringTail_scriptChar text

end Lectern.Json
