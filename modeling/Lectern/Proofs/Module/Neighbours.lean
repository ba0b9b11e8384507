/-
Module: Lectern.Proofs.Module.Neighbours
Purpose: What stands between two top-level statements when those between them are taken out: nothing
  but white space and comments of the source. So two statements that become neighbours are kept apart
  by their own tokens or not at all, and a statement that leaned on the line break before one that is
  taken out runs together with the next.
Trusted boundary: none
Main exports: Spelled, Meets, Neighbours, Legible, Apart, written_elideImports, written_lowerTree,
  Written.meets, kept_apart_iff, neighbours_run_together
-/
import Lectern.Proofs.Module.Tokens
import Lectern.Syntax.Grammar.Expressions

namespace Lectern.Module

open Lectern.Syntax Lectern.Text

/-! ## What is written between two statements -/

/-- A text is made of some tokens with blanks around each. -/
def Spelled : List ByteArray → ByteArray → Prop
  | [], text => IsBlank text
  | token :: rest, text =>
    ∃ front back, text = front ++ token ++ back ∧ IsBlank front ∧ Spelled rest back

theorem Spelled.blank_append {front text : ByteArray} {tokens : List ByteArray}
    (blank : IsBlank front) (spelled : Spelled tokens text) : Spelled tokens (front ++ text) := by
  cases tokens with
  | nil => exact blank.append spelled
  | cons token rest =>
      obtain ⟨before, back, rfl, isBlank, others⟩ := spelled
      exact ⟨front ++ before, back, by simp only [ByteArray.append_assoc], blank.append isBlank, others⟩

/-- One text is followed by another one in an output, with only some tokens between them. -/
def Meets (output earlier : ByteArray) (between : List ByteArray) (later : ByteArray) : Prop :=
  ∃ head gap tail, output = head ++ earlier ++ gap ++ later ++ tail ∧ Spelled between gap

theorem Meets.of_holds {output text earlier later : ByteArray} {between : List ByteArray}
    (meets : Meets text earlier between later) (holds : Holds output text) :
    Meets output earlier between later := by
  obtain ⟨head, gap, tail, rfl, spelled⟩ := meets
  obtain ⟨front, back, rfl⟩ := holds
  exact ⟨front ++ head, gap, tail ++ back, by simp only [ByteArray.append_assoc], spelled⟩

/-- The comments among some nodes. -/
def commentTexts (source : ByteArray) (nodes : List Node) : List ByteArray :=
  (nodes.filter (·.kind == .comment)).map (·.bytes source)

namespace Written

variable {source : ByteArray} {own : Node → ByteArray → Prop} {resume : Node → Nat} {stop : Nat}
  {other : Node} {between back : List Node} {text : ByteArray}

/-- Of neighbours of which only comments are left, blanks and the comments stand in front of what
follows. -/
theorem spelled (written : Written source own resume stop (between ++ other :: back) text)
    (gone : ∀ node ∈ between, ∀ code, own node code →
      code = if node.kind = .comment then node.bytes source else ByteArray.empty)
    (gaps : (between ++ other :: back).IsChain fun one other =>
      IsBlank (Utf8.slice source (resume one) other.start)) :
    ∃ gap later tail, text = gap ++ later ++ tail ∧ own other later ∧
      Spelled (commentTexts source between) gap := by
  induction between generalizing text with
  | nil =>
      obtain ⟨code, tail, rfl, made, _⟩ := written.uncons
      exact ⟨ByteArray.empty, code, tail, by rw [ByteArray.empty_append], made, IsBlank.empty⟩
  | cons node rest inductionHypothesis =>
      obtain ⟨code, follower, _, follows, rfl, made, others⟩ := written.uncons_of_ne_nil (by simp)
      obtain ⟨blank, gaps⟩ := List.isChain_cons.mp gaps
      obtain ⟨gap, later, tail, rfl, makes, spelled⟩ := inductionHypothesis others
        (fun other member => gone other (List.mem_cons_of_mem _ member)) gaps
      have spelled := spelled.blank_append (blank follower follows)
      refine ⟨code ++ (Utf8.slice source (resume node) follower.start ++ gap), later, tail,
        by simp only [ByteArray.append_assoc], makes, ?_⟩
      rw [gone node List.mem_cons_self code made]
      by_cases comment : node.kind = .comment
      · rw [if_pos comment, commentTexts, List.filter_cons_of_pos (by simp [comment])]
        exact ⟨ByteArray.empty, _, by rw [ByteArray.empty_append], IsBlank.empty, spelled⟩
      · rw [if_neg comment, commentTexts, List.filter_cons_of_neg (by simp [comment]),
          ByteArray.empty_append]
        exact spelled

/-- What becomes of two of some neighbours meets if only comments are left of those between. -/
theorem meets {one : Node} {front : List Node}
    (written : Written source own resume stop (front ++ one :: (between ++ other :: back)) text)
    (gone : ∀ node ∈ between, ∀ code, own node code →
      code = if node.kind = .comment then node.bytes source else ByteArray.empty)
    (gaps : (front ++ one :: (between ++ other :: back)).IsChain fun one other =>
      IsBlank (Utf8.slice source (resume one) other.start)) :
    ∃ earlier later, own one earlier ∧ own other later ∧
      Meets text earlier (commentTexts source between) later := by
  induction front generalizing text with
  | nil =>
      obtain ⟨earlier, follower, _, follows, rfl, made, others⟩ :=
        written.uncons_of_ne_nil (by simp)
      obtain ⟨blank, gaps⟩ := List.isChain_cons.mp gaps
      obtain ⟨gap, later, tail, rfl, makes, spelled⟩ := others.spelled gone gaps
      exact ⟨earlier, later, made, makes, ByteArray.empty, _, tail,
        by simp only [ByteArray.append_assoc, ByteArray.empty_append],
        spelled.blank_append (blank follower follows)⟩
  | cons node rest inductionHypothesis =>
      obtain ⟨code, follower, _, _, rfl, _, others⟩ := written.uncons_of_ne_nil (by simp)
      obtain ⟨earlier, later, made, makes, head, gap, tail, rfl, spelled⟩ :=
        inductionHypothesis others (List.isChain_cons.mp gaps).2
      exact ⟨earlier, later, made, makes, code ++ (Utf8.slice source (resume node) follower.start ++ head),
        gap, tail, by simp only [ByteArray.append_assoc], spelled⟩

end Written

/-! ## Statements that become neighbours -/

/-- Is nothing left of a part when its parent is lowered? -/
def leavesNothing (parent : Kind) (child : Node) : Bool :=
  isErased parent child || exportsTypesOnly child

/-- Two statements of a tree that stay, between which some are taken out and only comments stay. -/
structure Neighbours (goes : Node → Bool) (root one : Node) (between : List Node) (other : Node) :
    Prop where
  order : ∃ front back, root.children = front ++ one :: (between ++ other :: back)
  earlier : goes one = false ∧ one.kind ≠ .comment
  later : goes other = false ∧ other.kind ≠ .comment
  removed : ∃ node ∈ between, goes node = true
  comments : ∀ node ∈ between, goes node = true ∨ node.kind = .comment

/-- Such statements, and what stands between them, are statements of the tree. -/
theorem Neighbours.subset {goes : Node → Bool} {root one other : Node} {between : List Node}
    (neighbours : Neighbours goes root one between other) :
    one :: other :: between ⊆ root.children := by
  obtain ⟨front, back, order⟩ := neighbours.order
  rw [order]
  intro node member
  simp only [List.mem_cons, List.mem_append] at member ⊢
  tauto

/-- A tree over a source as a reading of it gives one: only blanks stand between its statements and
around parts of which nothing is left, no statement begins with a line break, and a comment is no
semicolon. -/
structure Legible (source : ByteArray) (root : Node) : Prop where
  program : root.kind = .program
  wellFormed : WellFormed source root
  spaced : ∀ node ∈ root.preorder, Spaced source node
  separate : root.children.IsChain (Separate source)
  lines : ∀ child ∈ root.children,
    Utf8.byteAt source child.start ≠ 0x0A ∧ Utf8.byteAt source child.start ≠ 0x0D
  comments : ∀ child ∈ root.children, child.kind = .comment →
    child.children = [] ∧ child.bytes source ≠ ascii ";"

instance (source : ByteArray) (root : Node) : Decidable (Legible source root) :=
  decidable_of_iff
    (root.kind = .program ∧ WellFormed source root ∧ (∀ node ∈ root.preorder, Spaced source node) ∧
      root.children.IsChain (Separate source) ∧
      (∀ child ∈ root.children,
        Utf8.byteAt source child.start ≠ 0x0A ∧ Utf8.byteAt source child.start ≠ 0x0D) ∧
      ∀ child ∈ root.children, child.kind = .comment →
        child.children = [] ∧ (child.bytes source).data ≠ (ascii ";").data)
    ⟨fun parts => ⟨parts.1, parts.2.1, parts.2.2.1, parts.2.2.2.1, parts.2.2.2.2.1,
        fun child member comment => (parts.2.2.2.2.2 child member comment).imp_right
          (mt (congrArg ByteArray.data))⟩,
      fun legible => ⟨legible.program, legible.wellFormed, legible.spaced, legible.separate,
        legible.lines, fun child member comment => (legible.comments child member comment).imp_right
          (mt ByteArray.ext)⟩⟩

variable {source : ByteArray}

/-! ## The elision of imports -/

/-- What is left of some neighbours from an offset on when imports are taken out. -/
def keptFrom (source : ByteArray) (cursor : Nat) (nodes : List Node) : ByteArray :=
  keepOutside source cursor
    ((nodes.filter isDependency).map fun node => (node.start, afterLineBreak source node.stop))

/-- Where the copying goes on behind a statement when imports are taken out. -/
def resumeAt (source : ByteArray) (node : Node) : Nat :=
  if isDependency node then afterLineBreak source node.stop else node.stop

/-- There is nothing behind the end of a source. -/
theorem slice_past {start stop : Nat} (past : source.size ≤ start) :
    Utf8.slice source start stop = ByteArray.empty :=
  ByteArray.extract_eq_empty_iff.mpr (Nat.le_trans (Nat.min_le_right _ _) past)

/-- The rest of a source is what stands in front of a place and what is left from there on. -/
theorem slice_rest {cursor middle : Nat} (ahead : cursor ≤ middle) :
    Utf8.slice source cursor source.size =
      Utf8.slice source cursor middle ++ Utf8.slice source middle source.size := by
  rcases Nat.le_total middle source.size with inside | past
  · exact (slice_append ahead inside).symm
  · rw [slice_past past, ByteArray.append_empty]
    rcases Nat.le_total cursor source.size with front | back
    · rw [← slice_append front past, slice_past (Nat.le_refl _), ByteArray.append_empty]
    · rw [slice_past back, slice_past back]

/-- What stands in front of all ranges is copied. -/
theorem keepOutside_ahead {cursor middle : Nat} {ranges : List (Nat × Nat)} (ahead : cursor ≤ middle)
    (behind : ∀ range ∈ ranges, middle ≤ range.1) :
    keepOutside source cursor ranges =
      Utf8.slice source cursor middle ++ keepOutside source middle ranges := by
  cases ranges with
  | nil => exact slice_rest ahead
  | cons range rest =>
      rw [keepOutside, keepOutside, ← slice_append ahead (behind range List.mem_cons_self),
        ByteArray.append_assoc]

theorem keptFrom_cons_gone {cursor : Nat} {node : Node} (gone : isDependency node = true)
    (rest : List Node) :
    keptFrom source cursor (node :: rest) =
      Utf8.slice source cursor node.start ++ keptFrom source (resumeAt source node) rest := by
  rw [keptFrom, List.filter_cons_of_pos gone, List.map_cons, keepOutside, resumeAt, if_pos gone]
  rfl

theorem keptFrom_cons_kept {cursor start stop : Nat} {node : Node} {rest : List Node}
    (kept : isDependency node = false) (follows : Node.Follows start stop (node :: rest))
    (ahead : cursor ≤ node.start) :
    keptFrom source cursor (node :: rest) =
      Utf8.slice source cursor node.start ++
        (node.bytes source ++ keptFrom source (resumeAt source node) rest) := by
  obtain ⟨_, extent, others⟩ := follows
  have behind : ∀ range ∈ (rest.filter isDependency).map
      (fun node => (node.start, afterLineBreak source node.stop)), node.stop ≤ range.1 := by
    intro range taken
    obtain ⟨other, goes, rfl⟩ := List.mem_map.mp taken
    exact (others.between (List.mem_filter.mp goes).1).1
  rw [keptFrom, List.filter_cons_of_neg (by simp [kept]), keptFrom, resumeAt, kept,
    if_neg Bool.false_ne_true,
    keepOutside_ahead (Nat.le_trans ahead extent) behind,
    ← slice_append ahead extent, ByteArray.append_assoc]
  rfl

/-- What the elision leaves of a statement. -/
def elidedText (source : ByteArray) (node : Node) : ByteArray :=
  if isDependency node then ByteArray.empty else node.bytes source

theorem keptFrom_cons {cursor start stop : Nat} {node : Node} {rest : List Node}
    (follows : Node.Follows start stop (node :: rest)) (ahead : cursor ≤ node.start) :
    keptFrom source cursor (node :: rest) =
      Utf8.slice source cursor node.start ++
        (elidedText source node ++ keptFrom source (resumeAt source node) rest) := by
  rw [elidedText]
  cases depends : isDependency node with
  | true =>
      rw [if_pos rfl, ByteArray.empty_append]
      exact keptFrom_cons_gone depends rest
  | false =>
      rw [if_neg Bool.false_ne_true]
      exact keptFrom_cons_kept depends follows ahead

theorem resumeAt_le {one other : Node} (behind : one.stop ≤ other.start)
    (text : Utf8.byteAt source other.start ≠ 0x0A ∧ Utf8.byteAt source other.start ≠ 0x0D) :
    resumeAt source one ≤ other.start := by
  unfold resumeAt
  split
  next => exact afterLineBreak_le behind text
  next => exact behind

theorem le_resumeAt (node : Node) : node.stop ≤ resumeAt source node := by
  unfold resumeAt afterLineBreak
  repeat' split
  all_goals omega

/-- What the elision leaves from the first of some statements on. -/
theorem written_keptFrom {cursor start stop : Nat} {first : Node} {rest : List Node}
    (follows : Node.Follows start stop (first :: rest)) (ahead : cursor ≤ first.start)
    (lines : ∀ child ∈ rest,
      Utf8.byteAt source child.start ≠ 0x0A ∧ Utf8.byteAt source child.start ≠ 0x0D) :
    ∃ text, keptFrom source cursor (first :: rest) = Utf8.slice source cursor first.start ++ text ∧
      Written source (fun node text => text = elidedText source node) (resumeAt source) source.size
        (first :: rest) text := by
  induction rest generalizing cursor start first with
  | nil => exact ⟨_, keptFrom_cons follows ahead, .last rfl⟩
  | cons follower rest inductionHypothesis =>
      obtain ⟨text, kept, written⟩ := inductionHypothesis follows.2.2
        (resumeAt_le follows.2.2.1 (lines follower List.mem_cons_self))
        (fun child member => lines child (List.mem_cons_of_mem _ member))
      refine ⟨_, keptFrom_cons follows ahead, ?_⟩
      rw [kept, ← ByteArray.append_assoc]
      exact .next rfl rfl written

/-- Between statements that are followed by blanks, blanks are left. -/
theorem blank_resumeAt {start stop : Nat} {nodes : List Node}
    (follows : Node.Follows start stop nodes)
    (lines : ∀ child ∈ nodes,
      Utf8.byteAt source child.start ≠ 0x0A ∧ Utf8.byteAt source child.start ≠ 0x0D)
    (separate : nodes.IsChain (Separate source)) :
    nodes.IsChain fun one other => IsBlank (Utf8.slice source (resumeAt source one) other.start) := by
  induction nodes generalizing start with
  | nil => exact .nil
  | cons node rest inductionHypothesis =>
      obtain ⟨first, separate⟩ := List.isChain_cons.mp separate
      refine List.isChain_cons.mpr ⟨fun follower follows' => ?_, inductionHypothesis follows.2.2
        (fun child member => lines child (List.mem_cons_of_mem _ member)) separate⟩
      obtain ⟨more, rfl⟩ := List.head?_eq_some_iff.mp follows'
      have resumed : resumeAt source node ≤ follower.start := resumeAt_le follows.2.2.1
        (lines follower (List.mem_cons_of_mem _ List.mem_cons_self))
      exact (first follower rfl).of_holds (Holds.slice (le_resumeAt node) resumed (Nat.le_refl _))

/-- Two statements that become neighbours when imports are taken out meet as they are. -/
theorem elided_meets {root one other : Node} {between : List Node} (legible : Legible source root)
    (neighbours : Neighbours isDependency root one between other) :
    Meets (elideImports source root) (one.bytes source) (commentTexts source between)
      (other.bytes source) := by
  obtain ⟨⟨front, back, order⟩, earlier, later, _, comments⟩ := neighbours
  have follows := (legible.wellFormed.placed root root.mem_preorder_self).follows
  have lines := legible.lines
  have gaps := blank_resumeAt follows lines legible.separate
  obtain ⟨first, rest, parts⟩ : ∃ first rest, root.children = first :: rest :=
    List.exists_cons_of_ne_nil (by simp [order])
  rw [parts] at follows lines
  obtain ⟨text, kept, written⟩ := written_keptFrom follows (Nat.zero_le _)
    fun child member => lines child (List.mem_cons_of_mem _ member)
  rw [← parts, order] at written
  rw [order] at gaps
  have gone : ∀ node ∈ between, ∀ text, text = elidedText source node →
      text = if node.kind = .comment then node.bytes source else ByteArray.empty := by
    rintro node member _ rfl
    by_cases comment : node.kind = .comment
    · rw [elidedText, if_pos comment, if_neg (by simp [isDependency, comment])]
    · rw [elidedText, if_neg comment, if_pos ((comments node member).resolve_right comment)]
  obtain ⟨_, _, rfl, rfl, meets⟩ := written.meets gone gaps
  rw [elidedText, if_neg (by simp [earlier.1]), elidedText, if_neg (by simp [later.1])] at meets
  rw [elideImports, elisionRanges, parts]
  exact meets.of_holds ⟨_, ByteArray.empty, by rw [ByteArray.append_empty]; exact kept⟩

/-! ## The lowering -/

theorem leftCode_of_comment {depth : Nat} {parent : Kind} {child : Node} {code : ByteArray}
    (comment : child.kind = .comment) (whole : child.children = [])
    (left : leftCode source depth parent child = .ok code) : code = child.bytes source := by
  have kept : isErased parent child = false := by
    rw [isErased_of_kind (by rw [comment]; rfl), comment]
    decide
  rw [leftCode, kept, if_neg Bool.false_ne_true] at left
  cases depth with
  | zero => cases child; cases left
  | succ depth =>
      rw [render_succ, whole] at left
      have copied : isCopied child = true := by
        simp [isCopied, isElement, isAssertion, exportsTypesOnly, comment]
      have copies := copy_of_nodeCode copied left
      cases copies
      rfl

theorem leftCode_of_leavesNothing {depth : Nat} {parent : Kind} {child : Node} {code : ByteArray}
    (gone : leavesNothing parent child = true)
    (left : leftCode source depth parent child = .ok code) : code = ByteArray.empty := by
  unfold leftCode at left
  split at left
  next => exact (Except.ok.inj left).symm
  next kept =>
    have hidden : exportsTypesOnly child = true := (Bool.or_eq_true_iff.mp gone).resolve_left kept
    cases depth with
    | zero => cases child; cases left
    | succ depth =>
        rw [render_succ] at left
        exact code_of_typesOnly hidden left

/-- What the lowering makes of a module is made of what is left of its statements. -/
theorem written_lowerTree {root first : Node} {rest : List Node} {output : ByteArray}
    (program : root.kind = .program) (parts : root.children = first :: rest)
    (lowered : lowerTree source root = .ok output) :
    ∃ text, Holds output text ∧
      Written source (fun node code => leftCode source (maxDepth - 1) root.kind node = .ok code)
        (·.stop) root.stop root.children text := by
  rw [lowerTree] at lowered
  cases made : (render source maxDepth root).code with
  | error fault => rw [made] at lowered; cases lowered
  | ok body =>
      rw [made] at lowered
      cases lowered
      rw [show maxDepth = (maxDepth - 1) + 1 from rfl, render_succ] at made
      have copied : isCopied root = true := by
        simp [isCopied, isElement, isAssertion, exportsTypesOnly, program]
      have copies := copy_of_nodeCode copied made
      rw [parts] at copies
      obtain ⟨text, rfl, written⟩ := written_copy copies
      rw [← parts] at written
      exact ⟨text, (((Holds.refl text).append_left _).append_left _).append_right _, written⟩

/-- Two statements that become neighbours in the lowered module meet as they are lowered. -/
theorem lowered_meets {root one other : Node} {between : List Node} {output : ByteArray}
    (legible : Legible source root)
    (neighbours : Neighbours (leavesNothing root.kind) root one between other)
    (lowered : lowerTree source root = .ok output) :
    ∃ earlier later, (render source (maxDepth - 1) one).code = .ok earlier ∧
      (render source (maxDepth - 1) other).code = .ok later ∧
      Meets output earlier (commentTexts source between) later := by
  obtain ⟨⟨front, back, order⟩, stays, remains, _, comments⟩ := neighbours
  obtain ⟨first, rest, parts⟩ : ∃ first rest, root.children = first :: rest :=
    List.exists_cons_of_ne_nil (by simp [order])
  obtain ⟨text, holds, written⟩ := written_lowerTree legible.program parts lowered
  have separate := legible.separate
  rw [order] at written separate
  have gone : ∀ node ∈ between, ∀ code,
      leftCode source (maxDepth - 1) root.kind node = .ok code →
      code = if node.kind = .comment then node.bytes source else ByteArray.empty := by
    intro node member code left
    by_cases comment : node.kind = .comment
    · have inside : node ∈ root.children := by
        rw [order]
        simp [member]
      rw [if_pos comment]
      exact leftCode_of_comment comment (legible.comments node inside comment).1 left
    · rw [if_neg comment]
      exact leftCode_of_leavesNothing ((comments node member).resolve_right comment) left
  obtain ⟨earlier, later, made, makes, meets⟩ := written.meets gone separate
  have keptOne : isErased root.kind one = false := (Bool.or_eq_false_iff.mp stays.1).1
  have keptOther : isErased root.kind other = false := (Bool.or_eq_false_iff.mp remains.1).1
  rw [leftCode, keptOne, if_neg Bool.false_ne_true] at made
  rw [leftCode, keptOther, if_neg Bool.false_ne_true] at makes
  exact ⟨earlier, later, made, makes, meets.of_holds holds⟩

/-! ## What keeps two statements apart -/

/-- The tokens that continue an expression in front of them. -/
def continuingTokens : List String :=
  ["(", "[", "\x60", "=", "?", ",", ":"] ++ Grammar.binaryOperators.map (·.1)

/-- Does a token continue an expression in front of it? The mark of a regular expression does, as a
division; an increment or decrement does not behind a line break. -/
def continues (token : ByteArray) : Bool :=
  token != ascii "++" && token != ascii "--" &&
    continuingTokens.any fun text => Lexeme.startsWith token 0 text.toList

/-- Declarations that end with a closing brace. -/
def bracedKinds : List Kind :=
  [.functionDeclaration, .generatorFunctionDeclaration, .classDeclaration, .abstractClassDeclaration]

/-- Does a closing brace end a statement, as that of a declaration, which may be exported? -/
def isBraced (statement : Node) : Bool :=
  bracedKinds.contains statement.kind ||
    (statement.kind == .exportStatement &&
      (statement.child? .declaration).any fun inner => bracedKinds.contains inner.kind)

/-- A statement ends with a semicolon or the closing brace of a declaration. -/
def Closed (statement : Node) (tokens : List ByteArray) : Prop :=
  tokens.getLast? = some (ascii ";") ∨
    (isBraced statement = true ∧ tokens.getLast? = some (ascii "\x7d"))

/-- A statement begins with a token that continues an expression. -/
def Continues (tokens : List ByteArray) : Prop := ∃ token ∈ tokens.head?, continues token = true

/-- What keeps a statement apart from one that follows it: its own end, a semicolon between them, or
the beginning of the other. -/
def Apart (statement : Node) (tokens between others : List ByteArray) : Prop :=
  Closed statement tokens ∨ ascii ";" ∈ between ∨ ¬ Continues others

instance (statement : Node) (tokens : List ByteArray) : Decidable (Closed statement tokens) :=
  inferInstanceAs (Decidable (_ ∨ _))

instance (tokens : List ByteArray) : Decidable (Continues tokens) :=
  inferInstanceAs (Decidable (∃ token ∈ tokens.head?, continues token = true))

instance (statement : Node) (tokens between others : List ByteArray) :
    Decidable (Apart statement tokens between others) :=
  decidable_of_iff (Closed statement tokens ∨ (∃ text ∈ between, text.data = (ascii ";").data) ∨
    ¬ Continues others) (by simp [Apart, ← ByteArray.ext_iff])

/-- No separator stands among comments. -/
theorem apart_iff {root one other : Node} {goes : Node → Bool} {between : List Node}
    (legible : Legible source root) (neighbours : Neighbours goes root one between other)
    (tokens others : List ByteArray) :
    Apart one tokens (commentTexts source between) others ↔ Closed one tokens ∨ ¬ Continues others := by
  have none : ascii ";" ∉ commentTexts source between := by
    intro separates
    obtain ⟨node, kept, same⟩ := List.mem_map.mp separates
    obtain ⟨member, comment⟩ := List.mem_filter.mp kept
    have inside : node ∈ root.children := neighbours.subset (by simp [member])
    exact (legible.comments node inside (beq_iff_eq.mp comment)).2 same
  rw [Apart, or_iff_right none]

/-- A statement with a semicolon of its own keeps it in the lowering. -/
theorem semicolon_kept {statement mark : Node} (copied : isCopied statement = true)
    (last : statement.children.getLast? = some mark) (semicolon : mark.kind = .lexeme ";")
    (whole : mark.children = []) :
    (loweredTokens source statement).getLast? = some (mark.bytes source) := by
  obtain ⟨front, parts⟩ := List.getLast?_eq_some_iff.mp last
  have kept : isErased statement.kind mark = false := by
    rw [isErased_of_kind (by rw [semicolon]; rfl), semicolon]
    decide
  have own : leftTokens source statement.kind mark = [mark.bytes source] := by
    rw [leftTokens, kept, if_neg Bool.false_ne_true, loweredTokens_eq]
    simp [isElement, isAssertion, exportsTypesOnly, semicolon, whole]
  simp only [isCopied, Bool.and_eq_true, Bool.not_eq_true'] at copied
  rw [loweredTokens_eq, copied.1.1, copied.1.2, copied.2, parts]
  simp [own]

/-- Two statements that become neighbours meet with nothing but white space and the comments that
stood between them: as they are when imports and re-exports are taken out, and as they are lowered
when declarations and exports of types are. So no separator comes between them, and they are kept
apart exactly if the first ends with a semicolon or as a declaration does, or the second does not
begin with a token that continues an expression. -/
theorem kept_apart_iff {root one other : Node} {between : List Node} (legible : Legible source root) :
    (Neighbours isDependency root one between other →
      Meets (elideImports source root) (one.bytes source) (commentTexts source between)
          (other.bytes source) ∧
        Spans (one.bytes source) (sourceTokens source one) ∧
        Spans (other.bytes source) (sourceTokens source other) ∧
        (Apart one (sourceTokens source one) (commentTexts source between)
            (sourceTokens source other) ↔
          Closed one (sourceTokens source one) ∨ ¬ Continues (sourceTokens source other))) ∧
    ∀ output, Neighbours (leavesNothing root.kind) root one between other →
      lowerTree source root = .ok output →
      ∃ earlier later, (render source (maxDepth - 1) one).code = .ok earlier ∧
        (render source (maxDepth - 1) other).code = .ok later ∧
        Meets output earlier (commentTexts source between) later ∧
        Spans earlier (loweredTokens source one) ∧ Spans later (loweredTokens source other) ∧
        (Apart one (loweredTokens source one) (commentTexts source between)
            (loweredTokens source other) ↔
          Closed one (loweredTokens source one) ∨ ¬ Continues (loweredTokens source other)) := by
  have inside {goes : Node → Bool} (neighbours : Neighbours goes root one between other) :
      one ∈ root.children ∧ other ∈ root.children :=
    ⟨neighbours.subset (by simp), neighbours.subset (by simp)⟩
  have placed (child : Node) (member : child ∈ root.children) (node : Node)
      (visited : node ∈ child.preorder) : WellPlaced node :=
    legible.wellFormed.placed node (Node.mem_preorder_of_child member visited)
  have spaced (child : Node) (member : child ∈ root.children) (node : Node)
      (visited : node ∈ child.preorder) : Spaced source node :=
    legible.spaced node (Node.mem_preorder_of_child member visited)
  constructor
  · intro neighbours
    obtain ⟨first, second⟩ := inside neighbours
    exact ⟨elided_meets legible neighbours, spans_bytes (placed one first) (spaced one first),
      spans_bytes (placed other second) (spaced other second), apart_iff legible neighbours _ _⟩
  · intro output neighbours lowered
    obtain ⟨first, second⟩ := inside neighbours
    obtain ⟨earlier, later, made, makes, meets⟩ := lowered_meets legible neighbours lowered
    exact ⟨earlier, later, made, makes, meets, spans_code (spaced one first) made,
      spans_code (spaced other second) makes, apart_iff legible neighbours _ _⟩

/-- Two statements with semicolons around an export of a type that another module declares. -/
private def separated : String := "a;\nexport type \x7b T \x7d from 'y';\n(b);\n"

/-- The first statement of them, -/
private def firstStatement : Node :=
  ⟨.expressionStatement, true, 0, 2, none, false, [
    ⟨.identifier, true, 0, 1, none, false, []⟩, ⟨.lexeme ";", false, 1, 2, none, false, []⟩]⟩

/-- the export, -/
private def typeExport : Node :=
  ⟨.exportStatement, true, 3, 30, none, false, [
    ⟨.lexeme "export", false, 3, 9, none, false, []⟩,
    ⟨.lexeme "type", false, 10, 14, none, false, []⟩,
    ⟨.exportClause, true, 15, 20, none, false, [
      ⟨.lexeme "\x7b", false, 15, 16, none, false, []⟩,
      ⟨.exportSpecifier, true, 17, 18, none, false, [
        ⟨.identifier, true, 17, 18, some .name, false, []⟩]⟩,
      ⟨.lexeme "\x7d", false, 19, 20, none, false, []⟩]⟩,
    ⟨.lexeme "from", false, 21, 25, none, false, []⟩,
    ⟨.stringLiteral, true, 26, 29, some .source, false, []⟩,
    ⟨.lexeme ";", false, 29, 30, none, false, []⟩]⟩

/-- and the second statement. -/
private def secondStatement : Node :=
  ⟨.expressionStatement, true, 31, 35, none, false, [
    ⟨.parenthesizedExpression, true, 31, 34, none, false, [
      ⟨.lexeme "(", false, 31, 32, none, false, []⟩, ⟨.identifier, true, 32, 33, none, false, []⟩,
      ⟨.lexeme ")", false, 33, 34, none, false, []⟩]⟩,
    ⟨.lexeme ";", false, 34, 35, none, false, []⟩]⟩

/-- The tree of them. -/
private def separatedTree : Node :=
  ⟨.program, true, 0, 35, none, false, [firstStatement, typeExport, secondStatement]⟩

/-- The first statement keeps its semicolon, whichever way the export goes. -/
theorem kept_apart_iff_separated :
    Legible separated.toUTF8 separatedTree ∧
    Neighbours isDependency separatedTree firstStatement [typeExport] secondStatement ∧
    Neighbours (leavesNothing .program) separatedTree firstStatement [typeExport] secondStatement ∧
    lowerTree separated.toUTF8 separatedTree = .ok "a;\n\n(b);\n".toUTF8 ∧
    Apart firstStatement (sourceTokens separated.toUTF8 firstStatement)
      (commentTexts separated.toUTF8 [typeExport]) (sourceTokens separated.toUTF8 secondStatement) ∧
    Apart firstStatement (loweredTokens separated.toUTF8 firstStatement)
      (commentTexts separated.toUTF8 [typeExport])
      (loweredTokens separated.toUTF8 secondStatement) := by
  have legible : Legible separated.toUTF8 separatedTree := by decide +kernel
  have elides : Neighbours isDependency separatedTree firstStatement [typeExport] secondStatement :=
    ⟨⟨[], [], rfl⟩, by decide, by decide, by decide, by decide⟩
  have lowers :
      Neighbours (leavesNothing .program) separatedTree firstStatement [typeExport] secondStatement :=
    ⟨⟨[], [], rfl⟩, by decide, by decide, by decide, by decide⟩
  have lowered : lowerTree separated.toUTF8 separatedTree = .ok "a;\n\n(b);\n".toUTF8 := by
    decide +kernel
  refine ⟨legible, elides, lowers, lowered, ?_, ?_⟩
  · exact ((kept_apart_iff legible).1 elides).2.2.2.mpr (Or.inl (by decide +kernel))
  · obtain ⟨_, _, _, _, _, _, _, apart⟩ := (kept_apart_iff legible).2 _ lowers lowered
    exact apart.mpr (Or.inl (by decide +kernel))

/-- A declaration that leans on the line break before an import. -/
private def leansOnImport : String := "const a = b\nimport x from 'y';\n(c);\nexport default a;\n"

/-- A declaration that leans on the line break before a type. -/
private def leansOnType : String := "const a = b\ntype T = number;\n(c);\nexport default a;\n"

/-- Is a source read as four statements of which the second is taken out, and does nothing keep the
first apart from the third? -/
private def runsTogether (goes : Kind → Node → Bool)
    (tokens : ByteArray → Node → List ByteArray) (text : String) : Bool :=
  match parse text.toUTF8 with
  | .ok ⟨kind, _, _, _, _, _, [one, gone, other, _]⟩ =>
    !goes kind one && one.kind != .comment && !goes kind other && other.kind != .comment &&
      goes kind gone &&
      !decide (Apart one (tokens text.toUTF8 one) (commentTexts text.toUTF8 [gone])
        (tokens text.toUTF8 other))
  | _ => false

private theorem of_runsTogether {goes : Kind → Node → Bool}
    {tokens : ByteArray → Node → List ByteArray} {text : String}
    (runs : runsTogether goes tokens text = true) :
    ∃ root one between other, parse text.toUTF8 = .ok root ∧
      Neighbours (goes root.kind) root one between other ∧
      ¬ Apart one (tokens text.toUTF8 one) (commentTexts text.toUTF8 between)
        (tokens text.toUTF8 other) := by
  unfold runsTogether at runs
  split at runs
  next kind named start stop field missing one gone other last read =>
    simp only [Bool.and_eq_true, Bool.not_eq_true', bne_iff_ne, decide_eq_false_iff_not] at runs
    obtain ⟨⟨⟨⟨⟨stays, statement⟩, remains⟩, follower⟩, goes⟩, together⟩ := runs
    refine ⟨_, one, [gone], other, read, ⟨⟨[], [last], rfl⟩, ⟨stays, statement⟩,
      ⟨remains, follower⟩, ⟨gone, List.mem_cons_self, goes⟩, ?_⟩, together⟩
    intro node member
    rw [List.mem_singleton.mp member]
    exact Or.inl goes
  next => cases runs

/-- Nothing keeps apart two statements that become neighbours when an import goes, nor two that do
when a type goes. -/
theorem neighbours_run_together :
    (¬ ∀ (text : String) (root one other : Node) (between : List Node),
      parse text.toUTF8 = .ok root → Neighbours isDependency root one between other →
        Apart one (sourceTokens text.toUTF8 one) (commentTexts text.toUTF8 between)
          (sourceTokens text.toUTF8 other)) ∧
    ¬ ∀ (text : String) (root one other : Node) (between : List Node) (output : ByteArray),
      parse text.toUTF8 = .ok root → Neighbours (leavesNothing root.kind) root one between other →
        lowerTree text.toUTF8 root = .ok output →
        Apart one (loweredTokens text.toUTF8 one) (commentTexts text.toUTF8 between)
          (loweredTokens text.toUTF8 other) := by
  constructor
  · intro apart
    have runs : runsTogether (fun _ => isDependency) sourceTokens leansOnImport = true := by
      decide +kernel
    obtain ⟨root, one, between, other, read, neighbours, together⟩ := of_runsTogether runs
    exact together (apart leansOnImport root one other between read neighbours)
  · intro apart
    have runs : runsTogether leavesNothing loweredTokens leansOnType = true := by decide +kernel
    have lowers : (parse leansOnType.toUTF8 >>= fun root =>
        (lowerTree leansOnType.toUTF8 root).mapError fun _ => 0).toBool = true := by decide +kernel
    obtain ⟨root, one, between, other, read, neighbours, together⟩ := of_runsTogether runs
    rw [read] at lowers
    cases lowered : lowerTree leansOnType.toUTF8 root with
    | error fault =>
        simp only [bind, Except.bind, lowered] at lowers
        cases lowers
    | ok output =>
        exact together (apart leansOnType root one other between output read neighbours lowered)

/-- How many statements a source is read as, and how many what is left of it without imports. -/
private def statementCounts (text : String) : Option (Nat × Nat) :=
  match parse text.toUTF8 with
  | .error _ => none
  | .ok root =>
    match parse (elideImports text.toUTF8 root) with
    | .error _ => none
    | .ok tree => some (root.children.length, tree.children.length)

/-- One statement is taken out, and two of the other three are read as one. -/
example : statementCounts leansOnImport = some (4, 2) := by decide +kernel

end Lectern.Module
