/-
Module: Lectern.Proofs.Syntax.Spelling
Purpose: What the grammar sees where a source spells some text: its words at their byte offsets, the
  blanks that are skipped behind them, and the name that is read back.
Trusted boundary: none
Main exports: Spells, Spells.startsWith, Spells.prefix_of_startsWith, Spells.behindWord, Spells.text
-/
import Lectern.Proofs.Syntax.Readings
import Lectern.Text.Blank

namespace Lectern.Syntax

open Lectern.Text

/-- From a byte offset on, the source spells some text and ends behind it. -/
def Spells (source : ByteArray) (place : Nat) (text : List Char) : Prop :=
  ∃ front : List Char, source = (front ++ text).utf8Encode ∧ place = front.utf8Encode.size

/-- Every character of a text is an ASCII character. -/
abbrev IsAscii (text : List Char) : Prop := ∀ c ∈ text, c.toNat < 128

variable {source : ByteArray} {place : Nat} {c d : Char} {word front rest blanks : List Char}

/-! ## Bytes -/

theorem Spells.drop (spells : Spells source place (front ++ rest)) :
    Spells source (place + front.utf8Encode.size) rest := by
  obtain ⟨before, rfl, rfl⟩ := spells
  refine ⟨before ++ front, ?_, ?_⟩
  · rw [List.append_assoc]
  · rw [List.utf8Encode_append, ByteArray.size_append]

theorem Spells.room (spells : Spells source place (front ++ rest)) :
    place + front.utf8Encode.size ≤ source.size := by
  obtain ⟨before, rfl, rfl⟩ := spells
  simp only [List.utf8Encode_append, ByteArray.size_append]
  omega

/-- The bytes of a character stand where it is spelled. -/
theorem Spells.byteAt (spells : Spells source place (c :: rest)) {distance : Nat}
    (inside : distance < (String.utf8EncodeChar c).length) :
    Utf8.byteAt source (place + distance) = (String.utf8EncodeChar c)[distance] ∧
      place + distance < source.size := by
  obtain ⟨before, rfl, rfl⟩ := spells
  have size : [c].utf8Encode.size = (String.utf8EncodeChar c).length := by
    rw [List.utf8Encode_singleton, List.size_toByteArray]
  have bound : before.utf8Encode.size + distance < (before ++ c :: rest).utf8Encode.size := by
    rw [List.utf8Encode_append, List.utf8Encode_cons, ByteArray.size_append, ByteArray.size_append]
    omega
  refine ⟨?_, bound⟩
  rw [Utf8.byteAt, dif_pos bound]
  simp only [List.utf8Encode_append, List.utf8Encode_cons (l := rest)]
  rw [ByteArray.getElem_append_right (by omega), ByteArray.getElem_append_left (by omega)]
  simp [List.utf8Encode_singleton, List.getElem_toByteArray]

theorem utf8EncodeChar_of_ascii (ascii : c.toNat < 128) :
    String.utf8EncodeChar c = [UInt8.ofNat c.toNat] := by
  have low : c.toNat ≤ 0x7F := by omega
  simp [String.utf8EncodeChar, low]

theorem size_of_ascii (ascii : IsAscii word) : word.utf8Encode.size = word.length := by
  induction word with
  | nil => rfl
  | cons c word inductionHypothesis =>
      obtain ⟨first, others⟩ := List.forall_mem_cons.mp ascii
      rw [List.utf8Encode_cons, ByteArray.size_append, inductionHypothesis others,
        List.utf8Encode_singleton, utf8EncodeChar_of_ascii first, List.size_toByteArray,
        List.length_singleton, List.length_cons, Nat.add_comm]

theorem length_le_size (text : List Char) : text.length ≤ text.utf8Encode.size := by
  induction text with
  | nil => exact Nat.zero_le _
  | cons c text inductionHypothesis =>
      have filled : 0 < (String.utf8EncodeChar c).length := by
        rw [String.length_utf8EncodeChar]
        exact c.utf8Size_pos
      rw [List.utf8Encode_cons, ByteArray.size_append, List.utf8Encode_singleton,
        List.size_toByteArray, List.length_cons]
      omega

/-! ## Words -/

/-- The byte of an ASCII character stands where it is spelled. -/
theorem Spells.byteAt_of_ascii (spells : Spells source place (c :: rest)) (ascii : c.toNat < 128) :
    (Utf8.byteAt source place).toNat = c.toNat ∧ place < source.size := by
  have encoded := utf8EncodeChar_of_ascii ascii
  have inside : 0 < (String.utf8EncodeChar c).length := by
    rw [encoded]
    exact Nat.one_pos
  obtain ⟨byte, room⟩ := spells.byteAt inside
  rw [Nat.add_zero] at byte room
  refine ⟨?_, room⟩
  simp only [byte, encoded, List.getElem_cons_zero]
  exact UInt8.toNat_ofNat_of_lt' (Nat.lt_trans ascii (by decide))

/-- An ASCII character is seen where it is spelled, and no other one. -/
theorem Spells.at? (spells : Spells source place (c :: rest)) (ascii : c.toNat < 128) :
    Lexeme.at? source place d = (c == d) := by
  obtain ⟨byte, room⟩ := spells.byteAt_of_ascii ascii
  rw [Lexeme.at?, byte, decide_eq_true room, Bool.and_true, Bool.eq_iff_iff, beq_iff_eq, beq_iff_eq]
  exact ⟨Char.toNat_inj.mp, congrArg Char.toNat⟩

/-- Behind an ASCII character the rest of the text is spelled. -/
theorem Spells.tail (spells : Spells source place (c :: rest)) (ascii : c.toNat < 128) :
    Spells source (place + 1) rest := by
  have dropped := @Spells.drop _ _ [c] rest spells
  rwa [size_of_ascii (List.forall_mem_singleton.mpr ascii)] at dropped

theorem Spells.startsWith_single (spells : Spells source place (c :: rest)) (ascii : c.toNat < 128) :
    Lexeme.startsWith source place [d] = (c == d) := by
  rw [Lexeme.startsWith, spells.at? ascii, Lexeme.startsWith, Bool.and_true]

theorem Spells.startsWith (spells : Spells source place (word ++ rest)) (ascii : IsAscii word) :
    Lexeme.startsWith source place word = true := by
  induction word generalizing place with
  | nil => rfl
  | cons c word inductionHypothesis =>
      obtain ⟨first, others⟩ := List.forall_mem_cons.mp ascii
      rw [Lexeme.startsWith, spells.at? first, beq_self_eq_true, Bool.true_and]
      exact inductionHypothesis (spells.tail first) others

/-- Of a word that is seen and an ASCII text that is spelled in the same place, one goes on with the
other. -/
theorem Spells.prefix_of_startsWith (spells : Spells source place (front ++ rest))
    (ascii : IsAscii front) (starts : Lexeme.startsWith source place word = true) :
    word <+: front ∨ front <+: word := by
  induction front generalizing place word with
  | nil => exact Or.inr List.nil_prefix
  | cons c front inductionHypothesis =>
      cases word with
      | nil => exact Or.inl List.nil_prefix
      | cons d word =>
          obtain ⟨first, others⟩ := List.forall_mem_cons.mp ascii
          obtain ⟨here, behind⟩ := Bool.and_eq_true_iff.mp starts
          rw [spells.at? first] at here
          obtain rfl := beq_iff_eq.mp here
          rw [List.prefix_cons_inj, List.prefix_cons_inj]
          exact inductionHypothesis (spells.tail first) others behind

/-! ## Blanks -/

/-- A blank that the grammar skips, too: no separator of files, groups, records or units, and no
next line. -/
def isPlainBlank (c : Char) : Bool :=
  isBlank c && !((0x1C ≤ c.toNat && c.toNat ≤ 0x1F) || c.toNat == 0x85)

/-- The code points of plain blanks beyond Latin-1. -/
private def wideBlanks : List Nat :=
  [0x1680, 0x2000, 0x2001, 0x2002, 0x2003, 0x2004, 0x2005, 0x2006, 0x2007, 0x2008, 0x2009, 0x200A,
    0x2028, 0x2029, 0x202F, 0x205F, 0x3000]

private theorem cases_of_isPlainBlank (plain : isPlainBlank c = true) :
    (c.toNat = 0x20 ∨ 0x09 ≤ c.toNat ∧ c.toNat ≤ 0x0D) ∨ c.toNat = 0xA0 ∨ c.toNat ∈ wideBlanks := by
  simp only [isPlainBlank, isBlank, Bool.or_eq_true, Bool.and_eq_true, decide_eq_true_eq, beq_iff_eq,
    Bool.not_eq_true', Bool.or_eq_false_iff, Bool.and_eq_false_iff, decide_eq_false_iff_not,
    beq_eq_false_iff_ne] at plain
  simp only [wideBlanks, List.mem_cons, List.not_mem_nil, or_false]
  omega

/-- Only three bytes count for the width of a white space character. -/
theorem spaceWidth_congr {other : ByteArray} {elsewhere : Nat} (room : place < source.size)
    (otherRoom : elsewhere < other.size)
    (same : ∀ distance < 3,
      Utf8.byteAt source (place + distance) = Utf8.byteAt other (elsewhere + distance)) :
    Lexeme.spaceWidth source place = Lexeme.spaceWidth other elsewhere := by
  have first := same 0 (by decide)
  rw [Nat.add_zero, Nat.add_zero] at first
  have inside : ¬ place ≥ source.size := Nat.not_le.mpr room
  have insideOther : ¬ elsewhere ≥ other.size := Nat.not_le.mpr otherRoom
  simp only [Lexeme.spaceWidth, first, same 1 (by decide), same 2 (by decide), inside, insideOther]

theorem Spells.spaceWidth_of_isPlainBlank (spells : Spells source place (c :: rest))
    (plain : isPlainBlank c = true) : Lexeme.spaceWidth source place = c.utf8Size := by
  rcases cases_of_isPlainBlank plain with narrow | middle | wide
  · have ascii : c.toNat < 128 := by omega
    obtain ⟨byte, room⟩ := spells.byteAt_of_ascii ascii
    have inside : ¬ place ≥ source.size := Nat.not_le.mpr room
    have listed : (Utf8.byteAt source place == 0x20 ||
        (0x09 ≤ Utf8.byteAt source place && Utf8.byteAt source place ≤ 0x0D)) = true := by
      simp only [Bool.or_eq_true, Bool.and_eq_true, decide_eq_true_eq, beq_iff_eq,
        UInt8.le_iff_toNat_le, ← UInt8.toNat_inj, byte]
      exact narrow
    have size : c.utf8Size = 1 := by
      rw [← String.length_utf8EncodeChar, utf8EncodeChar_of_ascii ascii]
      rfl
    rw [Lexeme.spaceWidth, if_neg inside, if_pos listed, size]
  · obtain rfl : c = Char.ofNat 0xA0 := by rw [← middle, Char.ofNat_toNat]
    have first := spells.byteAt (show 0 < _ by decide)
    have second := spells.byteAt (show 1 < _ by decide)
    have inside : ¬ place ≥ source.size := Nat.not_le.mpr first.2
    have bytes : String.utf8EncodeChar (Char.ofNat 0xA0) = [0xC2, 0xA0] := by decide
    simp only [bytes, Nat.add_zero] at first second
    simp only [Lexeme.spaceWidth, inside, first.1, second.1]
    rfl
  · have tabled : ∀ code ∈ wideBlanks, (String.utf8EncodeChar (Char.ofNat code)).length = 3 ∧
        Lexeme.spaceWidth (String.utf8EncodeChar (Char.ofNat code)).toByteArray 0 = 3 := by
      decide +kernel
    obtain ⟨three, width⟩ := tabled c.toNat wide
    rw [Char.ofNat_toNat] at three width
    have room : place < source.size :=
      (spells.byteAt (show 0 < (String.utf8EncodeChar c).length by omega)).2
    rw [← String.length_utf8EncodeChar, three, ← width]
    apply spaceWidth_congr room
    · rw [List.size_toByteArray, three]
      decide
    · intro distance near
      rw [← three] at near
      rw [(spells.byteAt near).1, Utf8.byteAt, dif_pos (by rw [List.size_toByteArray]; omega)]
      simp [List.getElem_toByteArray]

/-- What a text goes on with where no trivia is skipped: an ASCII character that is neither blank nor
opens a comment. -/
structure IsSolid (c : Char) : Prop where
  ascii : c.toNat < 128
  filled : 0x20 < c.toNat
  plain : c ≠ '/'

theorem Spells.spaceWidth_of_isSolid (spells : Spells source place (c :: rest)) (solid : IsSolid c) :
    Lexeme.spaceWidth source place = 0 := by
  obtain ⟨byte, room⟩ := spells.byteAt_of_ascii solid.ascii
  have inside : ¬ place ≥ source.size := Nat.not_le.mpr room
  have unlisted : ¬ (Utf8.byteAt source place == 0x20 ||
      (0x09 ≤ Utf8.byteAt source place && Utf8.byteAt source place ≤ 0x0D)) = true := by
    simp only [Bool.or_eq_true, Bool.and_eq_true, decide_eq_true_eq, beq_iff_eq,
      UInt8.le_iff_toNat_le, ← UInt8.toNat_inj, byte]
    have filled := solid.filled
    change ¬ (c.toNat = 32 ∨ 9 ≤ c.toNat ∧ c.toNat ≤ 13)
    omega
  have low : Utf8.byteAt source place < 0xC2 := by
    rw [UInt8.lt_iff_toNat_lt, byte]
    exact Nat.lt_trans solid.ascii (by decide)
  rw [Lexeme.spaceWidth, if_neg inside, if_neg unlisted, if_pos low]

theorem Spells.skipSpaceWith (spells : Spells source place (blanks ++ c :: rest))
    (plain : ∀ d ∈ blanks, isPlainBlank d = true) (solid : IsSolid c) {fuel : Nat}
    (enough : blanks.length ≤ fuel) :
    Lexeme.skipSpaceWith source fuel place = place + blanks.utf8Encode.size := by
  induction blanks generalizing place fuel with
  | nil =>
      cases fuel with
      | zero => rfl
      | succ fuel => simp [Lexeme.skipSpaceWith, spells.spaceWidth_of_isSolid solid]
  | cons d blanks inductionHypothesis =>
      obtain ⟨first, others⟩ := List.forall_mem_cons.mp plain
      cases fuel with
      | zero => cases enough
      | succ fuel =>
          have size : [d].utf8Encode.size = d.utf8Size := by
            rw [List.utf8Encode_singleton, List.size_toByteArray, String.length_utf8EncodeChar]
          have wide : (d.utf8Size == 0) = false := beq_false_of_ne (Nat.ne_of_gt d.utf8Size_pos)
          have behind := @Spells.drop _ _ [d] (blanks ++ c :: rest) spells
          have width := spells.spaceWidth_of_isPlainBlank first
          rw [size] at behind
          rw [Lexeme.skipSpaceWith]
          simp only [width, wide, Bool.false_eq_true, if_false]
          rw [inductionHypothesis behind others (Nat.le_of_succ_le_succ enough),
            List.utf8Encode_cons (l := blanks), ByteArray.size_append, size, Nat.add_assoc]

theorem Spells.skipTrivia (spells : Spells source place (blanks ++ c :: rest))
    (plain : ∀ d ∈ blanks, isPlainBlank d = true) (solid : IsSolid c) :
    Lexeme.skipTrivia source place = place + blanks.utf8Encode.size := by
  have enough : blanks.length ≤ source.size - place := by
    have room := spells.room
    have short := length_le_size blanks
    omega
  have space : Lexeme.skipSpace source place = place + blanks.utf8Encode.size :=
    spells.skipSpaceWith plain solid enough
  have noComment : Lexeme.commentStop source (place + blanks.utf8Encode.size) = none := by
    rw [Lexeme.commentStop, spells.drop.at? solid.ascii, beq_false_of_ne solid.plain]
    rfl
  rw [Lexeme.skipTrivia, Lexeme.skipTriviaWith]
  simp only [space, noComment]

/-- Behind a word and blanks the grammar goes on with the next character. -/
theorem Spells.behindWord {word : String}
    (spells : Spells source place (word.toList ++ (blanks ++ c :: rest))) (ascii : IsAscii word.toList)
    (plain : ∀ d ∈ blanks, isPlainBlank d = true) (solid : IsSolid c) :
    behindWord source word place = place + (word.toList ++ blanks).utf8Encode.size := by
  have behind := spells.drop
  rw [size_of_ascii ascii, String.length_toList] at behind
  rw [Lectern.Syntax.behindWord, behind.skipTrivia plain solid, List.utf8Encode_append,
    ByteArray.size_append, size_of_ascii ascii, String.length_toList, Nat.add_assoc]

/-! ## Names -/

/-- A leaf over some text is read as that text. -/
theorem Spells.text {name : String} {leaf : Node} (spells : Spells source place (name.toList ++ rest))
    (start : leaf.start = place) (stop : leaf.stop = place + name.toList.utf8Encode.size) :
    leaf.text source = name := by
  obtain ⟨before, rfl, rfl⟩ := spells
  have bytes : leaf.bytes (before ++ (name.toList ++ rest)).utf8Encode = name.toByteArray := by
    have origin : leaf.start = before.utf8Encode.size + 0 := start
    rw [Node.bytes, Utf8.slice, origin, stop, List.utf8Encode_append, List.utf8Encode_append,
      ByteArray.extract_append_size_add]
    exact (ByteArray.extract_append_eq_left rfl).trans String.utf8Encode_toList
  have valid : String.fromUTF8? name.toByteArray = some name := dif_pos name.isValidUTF8
  rw [Node.text, bytes, Utf8.read, valid]

end Lectern.Syntax
