/-
Module: Lectern.Proofs.Json.Visible
Purpose: What is printed as JSON has no control characters but those of its layout, whatever its
  texts and numbers are: on one line there is none.
Trusted boundary: none
Main exports: Visible, Number.visible_render, Json.not_mem_pretty, Json.not_mem_compact,
  Json.compact_obj_ends
-/
import Lectern.Proofs.Json.ReadBack
import Lectern.Proofs.Text.Trimming

namespace Lectern

/-- All characters of a text have a shape or are blanks: none is a control character. -/
def Visible (text : List Char) : Prop := ∀ c ∈ text, 32 ≤ c.toNat

namespace Visible

theorem append {front back : List Char} (first : Visible front) (second : Visible back) :
    Visible (front ++ back) :=
  List.forall_mem_append.mpr ⟨first, second⟩

theorem cons {c : Char} {text : List Char} (first : 32 ≤ c.toNat) (second : Visible text) :
    Visible (c :: text) :=
  List.forall_mem_cons.mpr ⟨first, second⟩

theorem of_subset {text other : List Char} (visible : Visible text) (within : other ⊆ text) :
    Visible other :=
  fun c held => visible c (within held)

theorem replicate_zero (count : Nat) : Visible (List.replicate count '0') := by
  intro c held
  rw [List.eq_of_mem_replicate held]
  decide

theorem not_mem {c : Char} {text : List Char} (visible : Visible text) (control : c.toNat < 32) :
    c ∉ text :=
  fun held => absurd (visible c held) (Nat.not_le_of_lt control)

theorem toString (value : Nat) : Visible (ToString.toString value).toList := by
  intro c held
  have digit := Nat.isDigit_of_mem_toDigits (by decide) (by decide)
    (show c ∈ Nat.toDigits 10 value by simpa using held)
  simp only [Char.isDigit, Bool.and_eq_true, decide_eq_true_eq] at digit
  have large : 48 ≤ c.toNat := digit.1
  omega

end Visible

/-! ## Numbers -/

namespace Number

theorem visible_digits (mantissa : Nat) (exponent : Int) :
    Visible (Shortest.digits mantissa exponent).digits := by
  unfold Shortest.digits
  generalize Shortest.search _ _ 16 0 = found
  refine (Visible.toString found.1).of_subset fun c held => ?_
  have kept := (List.dropWhile_suffix _).subset (List.mem_reverse.mp held)
  exact List.mem_reverse.mp kept

theorem visible_exponentText (layout : Layout) (exponent : Int) :
    Visible (layout.exponentText exponent) := by
  unfold Layout.exponentText
  refine .cons (by decide) (.append ?_ (.append (.replicate_zero _) (.toString _)))
  split
  · exact .cons (by decide) nofun
  · split
    · exact .cons (by decide) nofun
    · exact nofun

theorem visible_decimal (layout : Layout) {value : Decimal} (digits : Visible value.digits) :
    Visible (layout.decimal value) := by
  have point : Visible ['.', '0'] := .cons (by decide) (.cons (by decide) nofun)
  unfold Layout.decimal
  dsimp only
  split
  next =>
    refine .append (.append (digits.of_subset (List.take_subset _ _)) ?_)
      (visible_exponentText layout _)
    split
    next => exact nofun
    next more =>
      exact .cons (by decide) (digits.of_subset (List.drop_subset _ _))
  next =>
    split
    next =>
      exact .append (.cons (by decide) (.cons (by decide) (.replicate_zero _))) digits
    next =>
      split
      next => exact .append (.append digits (.replicate_zero _)) point
      next =>
        exact .append (digits.of_subset (List.take_subset _ _))
          (.cons (by decide) (digits.of_subset (List.drop_subset _ _)))

/-- A number is written without control characters, whatever its bits are. -/
theorem visible_render (layout : Layout) (x : Float) : Visible (render layout x).toList := by
  unfold render
  cases Binary.ofFloat x with
  | notANumber => exact show Visible "NaN".toList from Text.forall_mem_of_all (by decide)
  | infinite negative =>
      cases negative with
      | false => exact show Visible "Infinity".toList from Text.forall_mem_of_all (by decide)
      | true => exact show Visible "-Infinity".toList from Text.forall_mem_of_all (by decide)
  | finite negative mantissa exponent =>
      have plain : Visible (if mantissa == 0 then ['0', '.', '0']
          else layout.decimal (Shortest.digits mantissa exponent)) := by
        split
        next => exact .cons (by decide) (.cons (by decide) (.cons (by decide) nofun))
        next => exact visible_decimal layout (visible_digits mantissa exponent)
      simp only [String.toList_ofList]
      split
      next => exact .cons (by decide) plain
      next => exact plain

end Number

/-! ## Values -/

namespace Json

theorem visible_plainChar (c : Char) : Visible (Text.Quoted.plainChar c) := by
  have units : ∀ code < 32, (Text.Quoted.unit code).all (fun c => decide (32 ≤ c.toNat)) = true := by
    decide
  unfold Text.Quoted.plainChar
  split
  next text escaped =>
    unfold Text.Quoted.shortEscape at escaped
    split at escaped
    all_goals
      cases escaped
      try exact .cons (by decide) (.cons (by decide) nofun)
  next =>
    split
    next control =>
      have small : c.toNat < 32 := control
      have basic : c.toNat < 0x10000 := by omega
      simp only [Text.Quoted.escape, if_pos basic]
      exact Text.forall_mem_of_all (units c.toNat small)
    next shaped => exact .cons (Nat.le_of_not_lt shaped) nofun

theorem visible_quote (text : List Char) : Visible (recordStyle.quote text).toList := by
  rw [Parser.toList_quote]
  refine .cons (by decide) (.append (fun c held => ?_) (.cons (by decide) nofun))
  obtain ⟨other, _, held⟩ := List.mem_flatMap.mp held
  exact visible_plainChar other c held

theorem visible_scalar (value : Json) : Visible (scalar recordStyle value).toList := by
  have null : Visible "null".toList := Text.forall_mem_of_all (by decide)
  cases value with
  | null => exact null
  | bool flag =>
      cases flag with
      | false => exact Text.forall_mem_of_all (by decide)
      | true => exact Text.forall_mem_of_all (by decide)
  | int number =>
      change Visible (ToString.toString number).toList
      rw [Parser.toList_int]
      have digits (value : Nat) : Visible (Nat.toDigits 10 value) := by
        simpa using Visible.toString value
      split
      · exact digits _
      · exact .cons (by decide) (digits _)
  | float number => exact Number.visible_render _ number
  | str text => exact visible_quote _
  | unpaired codes => exact null
  | arr items => exact null
  | obj members => exact null
  | unpairedKeys members apart => exact null

mutual

/-- The only control characters in the text of a value are those of its layout. -/
theorem not_mem_laidOut {gaps : Gaps} {c : Char} (control : c.toNat < 32)
    (apart : ∀ depth, c ∉ gaps.before depth) (apartColon : c ∉ gaps.behindColon) (depth : Nat) :
    ∀ value : Json, c ∉ laidOut gaps depth value
  | .arr [] => by
      rw [laidOut]
      exact Visible.not_mem (.cons (by decide) (.cons (by decide) nofun)) control
  | .arr (first :: rest) => by
      have inside := not_mem_laidOut control apart apartColon (depth + 1) first
      have others := not_mem_itemsLaidOut control apart apartColon (depth + 1) rest
      have brackets := Visible.not_mem (.cons (by decide) (.cons (by decide) nofun) :
        Visible ['[', ']']) control
      simp_all [laidOut]
  | .obj [] => by
      rw [laidOut]
      exact Visible.not_mem (.cons (by decide) (.cons (by decide) nofun)) control
  | .obj ((key, first) :: rest) => by
      have inside := not_mem_laidOut control apart apartColon (depth + 1) first
      have others := not_mem_membersLaidOut control apart apartColon (depth + 1) rest
      have brackets := Visible.not_mem (.cons (by decide) (.cons (by decide)
        (.cons (by decide) nofun)) : Visible ['\x7b', ':', '\x7d']) control
      have name := (visible_quote key.toList).not_mem control
      simp_all [laidOut]
  | .null => (visible_scalar .null).not_mem control
  | .bool value => (visible_scalar (.bool value)).not_mem control
  | .int value => (visible_scalar (.int value)).not_mem control
  | .float value => (visible_scalar (.float value)).not_mem control
  | .str value => (visible_scalar (.str value)).not_mem control
  | .unpaired codes => (visible_scalar (.unpaired codes)).not_mem control
  | .unpairedKeys members apart => (visible_scalar (.unpairedKeys members apart)).not_mem control

theorem not_mem_itemsLaidOut {gaps : Gaps} {c : Char} (control : c.toNat < 32)
    (apart : ∀ depth, c ∉ gaps.before depth) (apartColon : c ∉ gaps.behindColon) (depth : Nat) :
    ∀ items : List Json, c ∉ itemsLaidOut gaps depth items
  | [] => by simp [itemsLaidOut]
  | first :: rest => by
      have inside := not_mem_laidOut control apart apartColon depth first
      have others := not_mem_itemsLaidOut control apart apartColon depth rest
      have comma := Visible.not_mem (.cons (by decide) nofun : Visible [',']) control
      simp_all [itemsLaidOut]

theorem not_mem_membersLaidOut {gaps : Gaps} {c : Char} (control : c.toNat < 32)
    (apart : ∀ depth, c ∉ gaps.before depth) (apartColon : c ∉ gaps.behindColon) (depth : Nat) :
    ∀ members : List (String × Json), c ∉ membersLaidOut gaps depth members
  | [] => by simp [membersLaidOut]
  | (key, first) :: rest => by
      have inside := not_mem_laidOut control apart apartColon depth first
      have others := not_mem_membersLaidOut control apart apartColon depth rest
      have marks := Visible.not_mem (.cons (by decide) (.cons (by decide) nofun) :
        Visible [',', ':']) control
      have name := (visible_quote key.toList).not_mem control
      simp_all [membersLaidOut]

end

/-- A value that is printed a member a line has no carriage return. -/
theorem not_mem_pretty (value : Json) : '\r' ∉ (pretty recordStyle value).toList := by
  rw [pretty, toList_prettyAt]
  refine not_mem_laidOut (by decide) (fun depth => ?_) (by decide) 0 value
  simp [lines, lineStart]

/-- A value that is printed on one line has no control characters at all. -/
theorem not_mem_compact (value : Json) {c : Char} (control : c.toNat < 32) :
    c ∉ (compact recordStyle value).toList := by
  rw [toList_compact 0]
  exact not_mem_laidOut control (fun _ => List.not_mem_nil) List.not_mem_nil 0 value

/-- A record on one line stands between braces. -/
theorem compact_obj_ends (members : List (String × Json)) :
    ∃ inside, (compact recordStyle (.obj members)).toList = '\x7b' :: (inside ++ ['\x7d']) := by
  cases members with
  | nil => exact ⟨[], rfl⟩
  | cons first rest =>
      rw [toList_compact 0]
      simp only [laidOut, noGaps, List.append_nil]
      exact ⟨_, rfl⟩

end Json

end Lectern
