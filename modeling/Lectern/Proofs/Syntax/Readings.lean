/-
Module: Lectern.Proofs.Syntax.Readings
Purpose: What a reading of the grammar finds, told step by step, and what holds of nodes over their
  parts. No expression that is read has a role before it is given one.
Trusted boundary: none
Main exports: Reader.Finds, Reader.Always, child?_over, mem_namedChildren_program,
  Grammar.unroled_expressionRule
-/
import Lectern.Syntax.Parse

namespace Lectern.Syntax

/-! ## What readings find -/

/-- The place behind a word and what the grammar skips there. -/
def behindWord (source : ByteArray) (word : String) (place : Nat) : Nat :=
  Lexeme.skipTrivia source (place + word.length)

namespace Reader

/-- Whatever a reading finds meets a condition. -/
def Finds {α : Type} (reader : Reader α) (source : ByteArray) (cursor : Cursor)
    (meets : α → Cursor → Prop) : Prop :=
  ∀ value behind, reader source cursor = .found value behind → meets value behind

section Finding

variable {α β : Type} {source : ByteArray} {cursor : Cursor} {meets : β → Cursor → Prop}

theorem finds_any {reader : Reader β} (all : ∀ value behind, meets value behind) :
    Finds reader source cursor meets :=
  fun value behind _ => all value behind

theorem Finds.mono {reader : Reader β} {weaker : β → Cursor → Prop}
    (finds : Finds reader source cursor meets)
    (implies : ∀ value behind, meets value behind → weaker value behind) :
    Finds reader source cursor weaker :=
  fun value behind read => implies value behind (finds value behind read)

theorem finds_pure {value : β} (met : meets value cursor) :
    Finds (pure value) source cursor meets := by
  rintro _ _ ⟨⟩
  exact met

theorem finds_refuse : Finds (refuse : Reader β) source cursor meets := by
  rintro _ _ ⟨⟩

theorem finds_bind {reader : Reader α} {next : α → Reader β}
    (first : Finds reader source cursor fun value behind =>
      Finds (next value) source behind meets) :
    Finds (reader >>= next) source cursor meets := by
  intro value behind read
  cases part : reader source cursor with
  | found middle between =>
      simp only [bind, part] at read
      exact first middle between part value behind read
  | refused learnt =>
      simp only [bind, part] at read
      cases read

/-- What is read last is all that counts. -/
theorem finds_last {reader : Reader α} {next : α → Reader β}
    (last : ∀ value behind, Finds (next value) source behind meets) :
    Finds (reader >>= next) source cursor meets :=
  finds_bind (finds_any last)

theorem finds_ite {condition : Prop} [Decidable condition] {yes no : Reader β}
    (whenTrue : condition → Finds yes source cursor meets)
    (whenFalse : ¬ condition → Finds no source cursor meets) :
    Finds (if condition then yes else no) source cursor meets := by
  split
  next holds => exact whenTrue holds
  next fails => exact whenFalse fails

theorem finds_sees {text : String} {meets : Bool → Cursor → Prop}
    (met : meets (Lexeme.startsWith source cursor.next text.toList) cursor) :
    Finds (sees text) source cursor meets := by
  rintro _ _ ⟨⟩
  exact met

theorem finds_seesWord {text : String} {meets : Bool → Cursor → Prop}
    (met : ∀ seen, meets seen cursor) : Finds (seesWord text) source cursor meets := by
  rintro _ _ ⟨⟩
  exact met _

theorem finds_token {text : String} {meets : Node → Cursor → Prop}
    (met : Lexeme.startsWith source cursor.next text.toList = true → ∀ node behind,
      node.start = cursor.next → node.field = none →
      behind.next = behindWord source text cursor.next → meets node behind) :
    Finds (token text) source cursor meets := by
  intro node behind read
  unfold token at read
  simp only at read
  split at read
  next starts =>
    cases read
    exact met starts _ _ rfl rfl rfl
  next => cases read

theorem finds_keyword {text : String} {meets : Node → Cursor → Prop}
    (met : Lexeme.startsWith source cursor.next text.toList = true → ∀ node behind,
      node.start = cursor.next → node.field = none →
      behind.next = behindWord source text cursor.next → meets node behind) :
    Finds (keyword text) source cursor meets := by
  apply finds_bind
  apply finds_seesWord
  intro seen
  exact finds_ite (fun _ => finds_token met) fun _ => finds_refuse

/-- A leaf covers the word at a place. -/
structure CoversWord (source : ByteArray) (place : Nat) (leaf : Node) : Prop where
  start : leaf.start = place
  stop : leaf.stop = Lexeme.wordStop source place

theorem finds_wordAs {kind : Kind} {meets : Node → Cursor → Prop}
    (met : ∀ node behind, CoversWord source cursor.next node → node.kind = kind →
      meets node behind) :
    Finds (wordAs kind) source cursor meets := by
  intro node behind read
  unfold wordAs at read
  simp only at read
  split at read
  next => cases read
  next =>
    cases read
    exact met _ _ ⟨rfl, rfl⟩ rfl

theorem finds_build {kind : Kind} {parts : List Node} {meets : Node → Cursor → Prop}
    (met : meets (Node.over kind parts (withComments source parts)) cursor) :
    Finds (build kind parts) source cursor meets := by
  rintro _ _ ⟨⟩
  exact met

end Finding

/-- What is collected was found at some turn. -/
theorem mem_of_collect {source : ByteArray} {step : Reader (Option (List Node))} {fuel : Nat}
    {found : List (List Node)} {cursor behind : Cursor} {result : List Node} {node : Node}
    (read : collect step fuel found source cursor = .found result behind) (member : node ∈ result) :
    (∃ kept ∈ found, node ∈ kept) ∨ ∃ before after kept,
      step source before = .found (some kept) after ∧ node ∈ kept := by
  induction fuel generalizing found cursor with
  | zero => cases read
  | succ fuel inductionHypothesis =>
      unfold collect at read
      split at read
      next kept after turn =>
        rcases inductionHypothesis read with ⟨older, listed, inside⟩ | later
        · rcases List.mem_cons.mp listed with rfl | earlier
          · exact Or.inr ⟨cursor, after, older, turn, inside⟩
          · exact Or.inl ⟨older, earlier, inside⟩
        · exact Or.inr later
      next after turn =>
        cases read
        obtain ⟨kept, listed, inside⟩ := List.mem_flatten.mp member
        exact Or.inl ⟨kept, List.mem_reverse.mp listed, inside⟩
      next => cases read

/-- A condition on all that is found at every turn holds of all that is read. -/
theorem finds_many {source : ByteArray} {cursor : Cursor} {step : Reader (Option (List Node))}
    {meets : Node → Prop}
    (turns : ∀ before, Finds step source before fun found _ => ∀ kept ∈ found, ∀ node ∈ kept,
      meets node) :
    Finds (many step) source cursor fun nodes _ => ∀ node ∈ nodes, meets node := by
  intro _ _ read node member
  rcases mem_of_collect read member with
    ⟨_, listed, _⟩ | ⟨before, after, kept, turn, inside⟩
  · cases listed
  · exact turns before _ _ turn kept rfl node inside

end Reader

/-! ## Nodes over their parts -/

section Parts

variable {source : ByteArray} {kind : Kind} {parts : List Node} {node : Node} {field : Field}

theorem mem_commentNodes {start stop : Nat} (member : node ∈ commentNodes source start stop) :
    node.kind = .comment ∧ node.field = none := by
  obtain ⟨_, _, rfl⟩ := List.mem_map.mp member
  exact ⟨rfl, rfl⟩

theorem mem_of_mem_withComments (member : node ∈ withComments source parts) :
    node ∈ parts ∨ node.kind = .comment := by
  fun_induction withComments source parts with
  | case1 => cases member
  | case2 only => exact Or.inl member
  | case3 first second rest inductionHypothesis =>
      rcases List.mem_cons.mp member with rfl | behind
      · exact Or.inl List.mem_cons_self
      rcases List.mem_append.mp behind with comment | later
      · exact Or.inr (mem_commentNodes comment).1
      rcases inductionHypothesis later with kept | comment
      · exact Or.inl (List.mem_cons_of_mem _ kept)
      · exact Or.inr comment

theorem mem_withComments (member : node ∈ parts) : node ∈ withComments source parts := by
  fun_induction withComments source parts with
  | case1 => cases member
  | case2 only => exact member
  | case3 first second rest inductionHypothesis =>
      rcases List.mem_cons.mp member with rfl | behind
      · exact List.mem_cons_self
      · exact List.mem_cons_of_mem _ (List.mem_append_right _ (inductionHypothesis behind))

/-- The comments between parts have no roles. -/
theorem find?_withComments :
    (withComments source parts).find? (·.field == some field) =
      parts.find? (·.field == some field) := by
  fun_induction withComments source parts with
  | case1 => rfl
  | case2 only => rfl
  | case3 first second rest inductionHypothesis =>
      have none : (commentNodes source first.stop second.start).find? (·.field == some field) =
          none := by
        rw [List.find?_eq_none]
        intro comment member
        simp [(mem_commentNodes member).2]
      rw [List.find?_cons, List.find?_append, none, Option.none_or, inductionHypothesis,
        @List.find?_cons _ first]

theorem child?_over :
    (Node.over kind parts (withComments source parts)).child? field =
      parts.find? (·.field == some field) :=
  find?_withComments

theorem mem_namedChildren_over (member : node ∈ parts) (named : node.named = true) :
    node ∈ (Node.over kind parts (withComments source parts)).namedChildren :=
  List.mem_filter.mpr ⟨mem_withComments member, named⟩

/-- What stands at the top level of a module: its statements and comments. -/
theorem mem_namedChildren_program {statements : List Node}
    (member : node ∈ (Node.program source statements).namedChildren) :
    node ∈ statements ∨ node.kind = .comment := by
  have inside : node ∈ (Node.program source statements).children := (List.mem_filter.mp member).1
  unfold Node.program at inside
  simp only at inside
  split at inside
  next => cases inside
  next =>
    simp only [Node.over] at inside
    split at inside
    next =>
      rcases List.mem_append.mp inside with front | comment
      · rcases List.mem_append.mp front with comment | part
        · exact Or.inr (mem_commentNodes comment).1
        · exact mem_of_mem_withComments part
      · exact Or.inr (mem_commentNodes comment).1
    next => exact Or.inr (mem_commentNodes inside).1

end Parts

namespace Reader

/-- All that a reading ever finds meets a condition. -/
def Always {α : Type} (reader : Reader α) (holds : α → Prop) : Prop :=
  ∀ source cursor, Finds reader source cursor fun value _ => holds value

section Always

variable {α β : Type} {holds : β → Prop}

theorem always_bind {reader : Reader α} {next : α → Reader β} {first : α → Prop}
    (always : Always reader first) (last : ∀ value, first value → Always (next value) holds) :
    Always (reader >>= next) holds :=
  fun source cursor => finds_bind ((always source cursor).mono fun value behind held =>
    last value held source behind)

theorem always_last {reader : Reader α} {next : α → Reader β}
    (last : ∀ value, Always (next value) holds) : Always (reader >>= next) holds :=
  fun source _ => finds_last fun value behind => last value source behind

theorem always_pure {value : β} (held : holds value) : Always (pure value) holds :=
  fun _ _ => finds_pure held

theorem always_refuse : Always (refuse : Reader β) holds :=
  fun _ _ => finds_refuse

theorem always_ite {condition : Prop} [Decidable condition] {yes no : Reader β}
    (whenTrue : Always yes holds) (whenFalse : Always no holds) :
    Always (if condition then yes else no) holds :=
  fun source cursor => finds_ite (fun _ => whenTrue source cursor) fun _ => whenFalse source cursor

theorem always_speculate {reader : Reader β} (always : Always reader holds) :
    Always (speculate reader) fun found => ∀ value ∈ found, holds value := by
  intro source cursor found behind read
  unfold speculate at read
  split at read
  next =>
    cases read
    exact nofun
  next =>
    split at read
    next value after tried =>
      cases read
      rintro _ ⟨⟩
      exact always source cursor value _ tried
    next =>
      cases read
      exact nofun

end Always

/-! ## Nodes without a role -/

/-- No node that a reading finds has a role. -/
abbrev Unroled (reader : Reader Node) : Prop := Always reader fun node => node.field = none

theorem unroled_build {kind : Kind} {parts : List Node} : Unroled (build kind parts) :=
  fun _ _ => finds_build rfl

theorem unroled_buildRaw {kind : Kind} {parts : List Node} : Unroled (buildRaw kind parts) := by
  rintro _ _ _ _ ⟨⟩
  rfl

theorem unroled_leafTo {kind : Kind} {stop : Nat} : Unroled (leafTo kind stop) := by
  rintro _ _ _ _ ⟨⟩
  rfl

theorem unroled_wordAs {kind : Kind} : Unroled (wordAs kind) := by
  intro source cursor node behind read
  unfold wordAs at read
  simp only at read
  split at read
  next => cases read
  next => exact unroled_leafTo source cursor node behind read

theorem unroled_stringLeaf : Unroled stringLeaf := by
  intro source cursor node behind read
  unfold stringLeaf at read
  split at read
  next => exact unroled_leafTo source cursor node behind read
  next => cases read

end Reader

namespace Grammar

open Reader

variable {go : Rules} {site : Site}

theorem unroled_numberLeaf : Unroled numberLeaf := by
  intro source cursor node behind read
  unfold numberLeaf at read
  split at read
  next => exact unroled_leafTo source cursor node behind read
  next => cases read

theorem unroled_regexLeaf : Unroled regexLeaf := by
  intro source cursor node behind read
  unfold regexLeaf at read
  split at read
  next => exact unroled_leafTo source cursor node behind read
  next => cases read

theorem unroled_privateName : Unroled privateName := by
  intro source cursor node behind read
  unfold privateName at read
  simp only at read
  split at read
  next => exact unroled_leafTo source cursor node behind read
  next => cases read

theorem unroled_template {kind hole : Kind} {inner : Reader Node} :
    Unroled (template kind hole inner) :=
  always_last fun _ => always_last fun _ => always_last fun _ => always_last fun _ => unroled_buildRaw

theorem unroled_functionExpression {front : List Node} : Unroled (functionExpression go front) := by
  unfold functionExpression
  repeat' first
    | exact unroled_build
    | refine always_last fun _ => ?_
    | refine always_ite ?_ ?_

theorem unroled_classExpression : Unroled (classExpression go) := by
  unfold classExpression
  repeat' first
    | exact unroled_build
    | refine always_last fun _ => ?_
    | refine always_ite ?_ ?_

theorem unroled_prefixed {kind : Kind} {operator : String} :
    Unroled (prefixed go site kind operator) :=
  always_last fun _ => always_last fun _ => unroled_build

theorem unroled_arrowRest {head : List Node} : Unroled (arrowRest go site head) := by
  unfold arrowRest
  repeat' first
    | exact unroled_build
    | refine always_last fun _ => ?_
    | refine always_ite ?_ ?_

theorem unroled_parenthesized : Unroled (parenthesized go) := by
  unfold parenthesized
  repeat' first
    | exact unroled_build
    | refine always_last fun _ => ?_
    | refine always_ite ?_ ?_

theorem unroled_arrayLiteral : Unroled (arrayLiteral go) :=
  always_last fun _ => always_last fun _ => always_last fun _ => unroled_build

theorem unroled_objectLiteral : Unroled (objectLiteral go) :=
  always_last fun _ => always_last fun _ => always_last fun _ => unroled_build

theorem unroled_elementRule {inner : Reader Node} : Unroled (elementRule inner go) := by
  unfold elementRule
  repeat' first
    | exact unroled_build
    | exact unroled_buildRaw
    | refine always_last fun _ => ?_
    | refine always_ite ?_ ?_

theorem unroled_wordOperand {newOperand : Reader Node} (new : Unroled newOperand) (text : String) :
    Unroled (wordOperand go site newOperand text) := by
  unfold wordOperand
  split
  all_goals repeat' first
    | with_reducible exact new
    | with_reducible exact unroled_functionExpression
    | with_reducible exact unroled_classExpression
    | with_reducible exact unroled_prefixed
    | with_reducible exact unroled_arrowRest
    | with_reducible exact unroled_build
    | with_reducible exact unroled_wordAs
    | with_reducible exact always_refuse
    | with_reducible exact always_pure ‹_›
    | with_reducible refine always_ite ?_ ?_
    | with_reducible refine always_bind unroled_wordAs fun _ _ => ?_
    | with_reducible refine always_last fun _ => ?_
    | split

theorem unroled_operand {newOperand : Reader Node} (new : Unroled newOperand)
    (element : Unroled (go .element)) : Unroled (operand go site newOperand) := by
  unfold operand
  refine always_last fun byte => ?_
  split
  all_goals repeat' first
    | with_reducible exact element
    | with_reducible exact unroled_wordOperand new _
    | with_reducible exact unroled_classExpression
    | with_reducible exact unroled_prefixed
    | with_reducible exact unroled_arrowRest
    | with_reducible exact unroled_parenthesized
    | with_reducible exact unroled_arrayLiteral
    | with_reducible exact unroled_objectLiteral
    | with_reducible exact unroled_template
    | with_reducible exact unroled_stringLeaf
    | with_reducible exact unroled_regexLeaf
    | with_reducible exact unroled_privateName
    | with_reducible exact unroled_numberLeaf
    | with_reducible exact unroled_build
    | with_reducible exact always_refuse
    | with_reducible refine always_ite ?_ ?_
    | with_reducible refine always_last fun _ => ?_
    | split

theorem unroled_genericTail {left : Node} : Unroled (genericTail go site left) := by
  unfold genericTail
  repeat' first
    | with_reducible exact unroled_build
    | with_reducible exact always_refuse
    | with_reducible refine always_ite ?_ ?_
    | with_reducible refine always_last fun _ => ?_

theorem unroled_chain {calls : Bool} {fuel : Nat} {left : Node} (plain : left.field = none) :
    Unroled (chain go site calls fuel left) := by
  induction fuel generalizing left with
  | zero => exact always_pure plain
  | succ fuel inductionHypothesis =>
      unfold chain
      repeat' first
        | with_reducible exact always_pure plain
        | with_reducible refine always_bind unroled_build fun _ built => inductionHypothesis built
        | with_reducible refine always_bind (always_speculate unroled_genericTail) fun _ _ => ?_
        | with_reducible refine always_ite ?_ ?_
        | with_reducible refine always_last fun _ => ?_
        | split
      next node tried => exact inductionHypothesis (tried node rfl)

theorem unroled_newExpression : Unroled (newExpression go site) := by
  unfold newExpression
  repeat' first
    | with_reducible exact unroled_build
    | with_reducible refine always_ite ?_ ?_
    | with_reducible refine always_last fun _ => ?_
    | split

theorem unroled_placeRule (element : Unroled (go .element)) : Unroled (placeRule go site) :=
  always_bind (unroled_operand unroled_newExpression element) fun _ plain =>
    always_last fun _ => unroled_chain plain

theorem unroled_operandWithTail (element : Unroled (go .element)) :
    Unroled (operandWithTail go site) := by
  unfold operandWithTail
  refine always_bind (unroled_placeRule element) fun left plain => ?_
  repeat' first
    | with_reducible exact always_pure plain
    | with_reducible exact unroled_build
    | with_reducible refine always_ite ?_ ?_
    | with_reducible refine always_last fun _ => ?_
    | split

theorem unroled_operatorTail {level fuel : Nat} {left : Node} (plain : left.field = none) :
    Unroled (operatorTail go site level fuel left) := by
  induction fuel generalizing left with
  | zero => exact always_pure plain
  | succ fuel inductionHypothesis =>
      have conditional : Unroled (conditionalRest go site left) :=
        always_last fun _ => always_last fun ⟨_, _⟩ => always_last fun _ => unroled_build
      unfold operatorTail
      repeat' first
        | with_reducible exact always_pure plain
        | with_reducible refine always_bind unroled_build fun _ built => inductionHypothesis built
        | with_reducible refine always_bind conditional fun _ built => inductionHypothesis built
        | with_reducible refine always_ite ?_ ?_
        | with_reducible refine always_last fun _ => ?_
        | split

/-- An expression has no role before it is given one. -/
theorem unroled_expressionRule (element : Unroled (go .element)) (level : Nat) :
    Unroled (expressionRule go site level) := by
  unfold expressionRule
  refine always_bind (unroled_operandWithTail element) fun left plain => ?_
  refine always_ite (always_pure plain) (always_last fun _ => unroled_operatorTail plain)

theorem unroled_read_expression (depth : Nat) (level : Nat) :
    Unroled (read depth (.expression site level)) := by
  cases depth with
  | zero => exact always_refuse
  | succ depth =>
      apply unroled_expressionRule
      cases depth with
      | zero => exact always_refuse
      | succ depth => exact unroled_elementRule

end Grammar
end Lectern.Syntax
