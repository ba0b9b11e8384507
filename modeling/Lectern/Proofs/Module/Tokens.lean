/-
Module: Lectern.Proofs.Module.Tokens
Purpose: The tokens that a text made of a tree begins and ends with: the text of a node as it stands
  in the source, and what the lowering makes of a node, markup included.
Trusted boundary: none
Main exports: IsBlank, Spans, Written, sourceTokens, loweredTokens, Spaced, spans_bytes, spans_code
-/
import Lectern.Proofs.Module.DefaultExport
import Mathlib.Data.List.Chain

namespace Lectern.Module

open Lectern.Syntax Lectern.Text

/-! ## Blanks and tokens -/

/-- A text without visible ASCII characters, as white space is. -/
def IsBlank (text : ByteArray) : Prop := ∀ byte ∈ text.data, byte ≤ 0x20 ∨ 0x7F ≤ byte

instance (text : ByteArray) : Decidable (IsBlank text) :=
  inferInstanceAs (Decidable (∀ byte ∈ text.data, byte ≤ 0x20 ∨ 0x7F ≤ byte))

namespace IsBlank

theorem empty : IsBlank ByteArray.empty := fun byte held => absurd held (Array.not_mem_empty byte)

theorem append {one other : ByteArray} (first : IsBlank one) (second : IsBlank other) :
    IsBlank (one ++ other) := by
  intro byte held
  rw [ByteArray.data_append, Array.mem_append] at held
  rcases held with inFirst | inSecond
  · exact first byte inFirst
  · exact second byte inSecond

/-- A stretch of a blank text is blank. -/
theorem of_holds {outer inner : ByteArray} (blank : IsBlank outer) (holds : Holds outer inner) :
    IsBlank inner := by
  obtain ⟨front, back, rfl⟩ := holds
  intro byte held
  refine blank byte ?_
  rw [ByteArray.data_append, ByteArray.data_append, Array.mem_append, Array.mem_append]
  exact Or.inl (Or.inr held)

end IsBlank

/-- A text begins with the first of some tokens and ends with the last, but for blanks, and is blank
if there are none. -/
structure Spans (text : ByteArray) (tokens : List ByteArray) : Prop where
  first : ∀ token ∈ tokens.head?, ∃ blank tail, IsBlank blank ∧ text = blank ++ token ++ tail
  last : ∀ token ∈ tokens.getLast?, ∃ head blank, IsBlank blank ∧ text = head ++ token ++ blank
  blank : tokens = [] → IsBlank text

namespace Spans

theorem of_blank {text : ByteArray} (blank : IsBlank text) : Spans text [] :=
  ⟨nofun, nofun, fun _ => blank⟩

/-- A text that is one token. -/
theorem single (token : ByteArray) : Spans token [token] := by
  refine ⟨?_, ?_, nofun⟩
  · rintro _ ⟨⟩
    exact ⟨ByteArray.empty, ByteArray.empty, IsBlank.empty, by simp⟩
  · rintro _ ⟨⟩
    exact ⟨ByteArray.empty, ByteArray.empty, IsBlank.empty, by simp⟩

/-- A text between two tokens. -/
theorem between (opening inside closing : ByteArray) :
    Spans (opening ++ inside ++ closing) [opening, closing] := by
  refine ⟨?_, ?_, nofun⟩
  · rintro _ ⟨⟩
    exact ⟨ByteArray.empty, inside ++ closing, IsBlank.empty, by simp [ByteArray.append_assoc]⟩
  · rintro _ ⟨⟩
    exact ⟨opening ++ inside, ByteArray.empty, IsBlank.empty, by simp⟩

/-- Two texts with a gap between them. The gap is blank unless there are tokens on both sides. -/
theorem join {front gap back : ByteArray} {tokens others : List ByteArray}
    (first : Spans front tokens) (second : Spans back others)
    (fits : IsBlank gap ∨ (tokens ≠ [] ∧ others ≠ [])) :
    Spans (front ++ gap ++ back) (tokens ++ others) := by
  refine ⟨?_, ?_, ?_⟩
  · intro token begins
    cases tokens with
    | cons opening more =>
        obtain ⟨blank, tail, isBlank, rfl⟩ := first.first token begins
        exact ⟨blank, tail ++ gap ++ back, isBlank, by simp only [ByteArray.append_assoc]⟩
    | nil =>
        have gapBlank : IsBlank gap := fits.resolve_right fun both => both.1 rfl
        obtain ⟨blank, tail, isBlank, rfl⟩ := second.first token begins
        exact ⟨front ++ gap ++ blank, tail, ((first.blank rfl).append gapBlank).append isBlank,
          by simp only [ByteArray.append_assoc]⟩
  · intro token ends
    by_cases none : others = []
    · subst none
      have gapBlank : IsBlank gap := fits.resolve_right fun both => both.2 rfl
      rw [List.append_nil] at ends
      obtain ⟨head, blank, isBlank, rfl⟩ := first.last token ends
      exact ⟨head, blank ++ gap ++ back, (isBlank.append gapBlank).append (second.blank rfl),
        by simp only [ByteArray.append_assoc]⟩
    · rw [List.getLast?_append_of_ne_nil _ none] at ends
      obtain ⟨head, blank, isBlank, rfl⟩ := second.last token ends
      exact ⟨front ++ gap ++ head, blank, isBlank, by simp only [ByteArray.append_assoc]⟩
  · intro none
    obtain ⟨rfl, rfl⟩ := List.append_eq_nil_iff.mp none
    have gapBlank : IsBlank gap := fits.resolve_right fun both => both.1 rfl
    exact ((first.blank rfl).append gapBlank).append (second.blank rfl)

theorem blank_append {front text : ByteArray} {tokens : List ByteArray} (blank : IsBlank front)
    (spans : Spans text tokens) : Spans (front ++ text) tokens := by
  have joined := (of_blank blank).join spans (Or.inl IsBlank.empty)
  rwa [ByteArray.append_empty, List.nil_append] at joined

theorem append_blank {text back : ByteArray} {tokens : List ByteArray} (spans : Spans text tokens)
    (blank : IsBlank back) : Spans (text ++ back) tokens := by
  have joined := spans.join (of_blank blank) (Or.inl IsBlank.empty)
  rwa [ByteArray.append_empty, List.append_nil] at joined

end Spans

/-! ## Neighbours -/

variable {source : ByteArray}

/-- A text is made of what becomes of some neighbours, and behind each of them of the source from
where it is resumed to the next one, and to `stop` behind the last. -/
inductive Written (source : ByteArray) (own : Node → ByteArray → Prop) (resume : Node → Nat)
    (stop : Nat) : List Node → ByteArray → Prop
  | last {node : Node} {code : ByteArray} (made : own node code) :
    Written source own resume stop [node] (code ++ Utf8.slice source (resume node) stop)
  | next {node follower : Node} {rest : List Node} {code text : ByteArray} (made : own node code)
    (follows : rest.head? = some follower) (others : Written source own resume stop rest text) :
    Written source own resume stop (node :: rest)
      (code ++ Utf8.slice source (resume node) follower.start ++ text)

namespace Written

variable {own : Node → ByteArray → Prop} {resume : Node → Nat} {stop : Nat} {nodes : List Node}
  {text : ByteArray}

/-- What becomes of the first neighbour stands first, then the source up to the next one. -/
theorem uncons {node : Node} (written : Written source own resume stop (node :: nodes) text) :
    ∃ code tail, text = code ++ tail ∧ own node code ∧
      ∀ follower ∈ nodes.head?, ∃ others,
        tail = Utf8.slice source (resume node) follower.start ++ others ∧
          Written source own resume stop nodes others := by
  cases written with
  | @last _ code made => exact ⟨code, _, rfl, made, nofun⟩
  | @next _ follower _ code others made follows written =>
      refine ⟨code, _, ByteArray.append_assoc, made, fun other follows' => ?_⟩
      cases follows.symm.trans follows'
      exact ⟨others, rfl, written⟩

/-- If there is a next neighbour, the source up to it stands between. -/
theorem uncons_of_ne_nil {node : Node} (written : Written source own resume stop (node :: nodes) text)
    (more : nodes ≠ []) :
    ∃ code follower others, nodes.head? = some follower ∧
      text = code ++ (Utf8.slice source (resume node) follower.start ++ others) ∧
      own node code ∧ Written source own resume stop nodes others := by
  obtain ⟨code, _, rfl, made, next⟩ := written.uncons
  obtain ⟨follower, rest, rfl⟩ := List.exists_cons_of_ne_nil more
  obtain ⟨others, rfl, behind⟩ := next follower rfl
  exact ⟨code, follower, others, rfl, rfl, made, behind⟩

/-- Such a text begins and ends with the tokens of the neighbours. -/
theorem spans {tokens : Node → List ByteArray}
    (written : Written source own resume stop nodes text)
    (each : ∀ node ∈ nodes, ∀ code, own node code → Spans code (tokens node))
    (gaps : nodes.IsChain fun one other =>
      IsBlank (Utf8.slice source (resume one) other.start) ∨ (tokens one ≠ [] ∧ tokens other ≠ []))
    (closes : ∀ node ∈ nodes.getLast?, IsBlank (Utf8.slice source (resume node) stop)) :
    Spans text (nodes.flatMap tokens) := by
  induction written with
  | @last node code made =>
      rw [List.flatMap_singleton]
      exact (each node List.mem_cons_self code made).append_blank (closes node rfl)
  | @next node follower rest code text made follows others inductionHypothesis =>
      obtain ⟨gap, gaps⟩ := List.isChain_cons.mp gaps
      obtain ⟨more, rfl⟩ := List.head?_eq_some_iff.mp follows
      have later := inductionHypothesis (fun other member => each other (List.mem_cons_of_mem _ member))
        gaps closes
      rw [List.flatMap_cons]
      refine (each node List.mem_cons_self code made).join later
        ((gap follower rfl).imp_right fun both => ⟨both.1, ?_⟩)
      rw [List.flatMap_cons]
      exact List.append_ne_nil_of_left_ne_nil both.2 _

end Written

/-! ## The tokens of a node -/

/-- The parts of a node without parts of their own, in order. -/
def leaves (node : Node) : List Node := node.preorder.filter (·.children.isEmpty)

/-- The tokens of a node as they stand in the source. -/
def sourceTokens (source : ByteArray) (node : Node) : List ByteArray :=
  (leaves node).map (·.bytes source)

mutual

/-- The tokens of what the lowering makes of a node, in order. Of markup, which becomes a call, they
are the first and the last one alone. -/
def loweredTokens (source : ByteArray) : Node → List ByteArray
  | ⟨kind, named, start, stop, field, missing, children⟩ =>
    let node : Node := ⟨kind, named, start, stop, field, missing, children⟩
    if isElement kind then [ascii elementFactory, ascii ")"]
    else if isAssertion kind then firstLowered source children
    else if exportsTypesOnly node then []
    else if children.isEmpty then [node.bytes source]
    else allLowered source kind children

/-- The tokens of what the lowering makes of those of some neighbours that their parent keeps. -/
def allLowered (source : ByteArray) (parent : Kind) : List Node → List ByteArray
  | [] => []
  | child :: rest =>
    (if isErased parent child then [] else loweredTokens source child) ++
      allLowered source parent rest

/-- The tokens of what the lowering makes of the first named one of some neighbours. -/
def firstLowered (source : ByteArray) : List Node → List ByteArray
  | [] => []
  | child :: rest => if child.named then loweredTokens source child else firstLowered source rest

end

/-- The tokens of what is left of a child by its parent. -/
def leftTokens (source : ByteArray) (parent : Kind) (child : Node) : List ByteArray :=
  if isErased parent child then [] else loweredTokens source child

theorem allLowered_eq (parent : Kind) (nodes : List Node) :
    allLowered source parent nodes = nodes.flatMap (leftTokens source parent) := by
  induction nodes with
  | nil => rfl
  | cons first rest inductionHypothesis =>
      rw [allLowered, inductionHypothesis, List.flatMap_cons, leftTokens]

theorem firstLowered_eq (nodes : List Node) :
    firstLowered source nodes = ((nodes.find? (·.named)).map (loweredTokens source)).getD [] := by
  induction nodes with
  | nil => rfl
  | cons first rest inductionHypothesis =>
      rw [firstLowered, inductionHypothesis]
      by_cases named : first.named = true
      · simp [named]
      · simp [named]

theorem loweredTokens_eq (node : Node) :
    loweredTokens source node =
      if isElement node.kind then [ascii elementFactory, ascii ")"]
      else if isAssertion node.kind then
        ((node.children.find? (·.named)).map (loweredTokens source)).getD []
      else if exportsTypesOnly node then []
      else if node.children.isEmpty then [node.bytes source]
      else node.children.flatMap (leftTokens source node.kind) := by
  cases node
  rw [loweredTokens, firstLowered_eq, allLowered_eq]

theorem leaves_eq (node : Node) :
    leaves node = if node.children.isEmpty then [node] else node.children.flatMap leaves := by
  rw [leaves, Node.preorder_eq, List.filter_cons, List.filter_flatMap]
  by_cases whole : node.children.isEmpty = true
  · rw [if_pos whole, if_pos whole, List.isEmpty_iff.mp whole, List.flatMap_nil]
  · rw [if_neg whole, if_neg whole]
    rfl

theorem leaves_ne_nil (node : Node) : leaves node ≠ [] := by
  induction node using Node.induct with
  | step node inductionHypothesis =>
      rw [leaves_eq]
      split
      next => simp
      next parts =>
        obtain ⟨first, rest, same⟩ := List.exists_cons_of_ne_nil (mt List.isEmpty_iff.mpr parts)
        rw [same, List.flatMap_cons]
        exact List.append_ne_nil_of_left_ne_nil
          (inductionHypothesis first (same ▸ List.mem_cons_self)) _

/-- Only blanks stand between two nodes. -/
def Separate (source : ByteArray) (one other : Node) : Prop :=
  IsBlank (Utf8.slice source one.stop other.start)

instance (source : ByteArray) (one other : Node) : Decidable (Separate source one other) :=
  inferInstanceAs (Decidable (IsBlank _))

/-- Only blanks stand between two parts of a node, or something is left of both. -/
def Fits (source : ByteArray) (parent : Kind) (one other : Node) : Prop :=
  Separate source one other ∨
    (leftTokens source parent one ≠ [] ∧ leftTokens source parent other ≠ [])

instance (source : ByteArray) (parent : Kind) (one other : Node) :
    Decidable (Fits source parent one other) :=
  inferInstanceAs (Decidable (_ ∨ _))

/-- The parts of a node fit, with only blanks around them. Markup has parts. -/
structure Spaced (source : ByteArray) (node : Node) : Prop where
  opens : ∀ first ∈ node.children.head?, IsBlank (Utf8.slice source node.start first.start)
  closes : ∀ last ∈ node.children.getLast?, IsBlank (Utf8.slice source last.stop node.stop)
  fits : node.children.IsChain (Fits source node.kind)
  marked : isElement node.kind = true → node.children ≠ []

instance (source : ByteArray) (node : Node) : Decidable (Spaced source node) :=
  decidable_of_iff
    ((∀ first ∈ node.children.head?, IsBlank (Utf8.slice source node.start first.start)) ∧
      (∀ last ∈ node.children.getLast?, IsBlank (Utf8.slice source last.stop node.stop)) ∧
      node.children.IsChain (Fits source node.kind) ∧
      (isElement node.kind = true → node.children ≠ []))
    ⟨fun parts => ⟨parts.1, parts.2.1, parts.2.2.1, parts.2.2.2⟩,
      fun spaced => ⟨spaced.opens, spaced.closes, spaced.fits, spaced.marked⟩⟩

/-! ## Texts of nodes -/

theorem slice_append {start middle stop : Nat} (first : start ≤ middle) (second : middle ≤ stop) :
    Utf8.slice source start middle ++ Utf8.slice source middle stop =
      Utf8.slice source start stop :=
  (ByteArray.extract_eq_extract_append_extract middle first second).symm

/-- The text of neighbours is their own texts with the source between them. -/
theorem written_bytes {start stop : Nat} {first : Node} {rest : List Node}
    (follows : Node.Follows start stop (first :: rest)) :
    Written source (fun node code => code = node.bytes source) (·.stop) stop (first :: rest)
      (Utf8.slice source first.start stop) := by
  induction rest generalizing start first with
  | nil =>
      rw [← slice_append follows.2.1 follows.2.2]
      exact .last rfl
  | cons follower rest inductionHypothesis =>
      obtain ⟨_, extent, others⟩ := follows
      rw [← slice_append extent others.le,
        ← slice_append others.1 (Nat.le_trans others.2.1 others.2.2.le), ← ByteArray.append_assoc]
      exact .next rfl rfl (inductionHypothesis others)

/-- A node begins and ends with its tokens. -/
theorem spans_bytes {node : Node} (placed : ∀ other ∈ node.preorder, WellPlaced other)
    (spaced : ∀ other ∈ node.preorder, Spaced source other) :
    Spans (node.bytes source) (sourceTokens source node) := by
  induction node using Node.induct with
  | step node inductionHypothesis =>
      rw [sourceTokens, leaves_eq]
      cases parts : node.children with
      | nil => exact Spans.single _
      | cons first rest =>
          have here := spaced node node.mem_preorder_self
          have follows := (placed node node.mem_preorder_self).follows
          rw [parts] at follows
          have opens := here.opens first (by rw [parts]; rfl)
          have closes := here.closes
          rw [parts] at closes
          rw [Node.bytes, ← slice_append follows.1 (Nat.le_trans follows.2.1 follows.2.2.le),
            List.isEmpty_cons, if_neg Bool.false_ne_true, List.map_flatMap]
          refine Spans.blank_append opens ((written_bytes follows).spans ?_ ?_ closes)
          · rintro child member _ rfl
            rw [← parts] at member
            exact inductionHypothesis child member
              (fun other visited => placed other (Node.mem_preorder_of_child member visited))
              (fun other visited => spaced other (Node.mem_preorder_of_child member visited))
          · -- Every part has tokens of its own, so any gap will do.
            have all : (first :: rest).Pairwise fun one other =>
                IsBlank (Utf8.slice source one.stop other.start) ∨
                  ((leaves one).map (·.bytes source) ≠ [] ∧
                    (leaves other).map (·.bytes source) ≠ []) :=
              List.pairwise_of_forall fun one other => Or.inr
                ⟨mt List.map_eq_nil_iff.mp (leaves_ne_nil one),
                  mt List.map_eq_nil_iff.mp (leaves_ne_nil other)⟩
            exact all.isChain

/-! ## Texts that the lowering makes -/

/-- What is left of a child by its parent. -/
def leftCode (source : ByteArray) (depth : Nat) (parent : Kind) (child : Node) : Code :=
  if isErased parent child then .ok ByteArray.empty else (render source depth child).code

/-- The copy of a node with parts begins with the source in front of the first, and what is left of
them follows. -/
theorem written_copy {parent : Node} {depth cursor : Nat} {first : Node} {rest : List Node}
    {output : ByteArray}
    (made : copyFrom source parent cursor
      ((first :: rest).map fun child => ⟨child, render source depth child⟩) = .ok output) :
    ∃ text, output = Utf8.slice source cursor first.start ++ text ∧
      Written source (fun child code => leftCode source depth parent.kind child = .ok code) (·.stop)
        parent.stop (first :: rest) text := by
  induction rest generalizing cursor first output with
  | nil =>
      rw [List.map_cons, copyFrom_cons] at made
      cases own : leftCode source depth parent.kind first with
      | error fault =>
          rw [leftCode] at own
          rw [own] at made
          cases made
      | ok code =>
          have left := own
          rw [leftCode] at own
          rw [own] at made
          cases made
          exact ⟨_, ByteArray.append_assoc, .last left⟩
  | cons follower rest inductionHypothesis =>
      rw [List.map_cons, copyFrom_cons] at made
      cases own : leftCode source depth parent.kind first with
      | error fault =>
          rw [leftCode] at own
          rw [own] at made
          cases made
      | ok code =>
          cases others : copyFrom source parent first.stop
              ((follower :: rest).map fun child => ⟨child, render source depth child⟩) with
          | error fault =>
              rw [leftCode] at own
              rw [own, others] at made
              cases made
          | ok tail =>
              have left := own
              rw [leftCode] at own
              rw [own, others] at made
              cases made
              obtain ⟨text, rfl, written⟩ := inductionHypothesis others
              exact ⟨_, by simp only [ByteArray.append_assoc], .next left rfl written⟩

/-- A call that makes an element begins with the function and ends with a parenthesis. -/
theorem spans_elementCall (type properties : ByteArray) (children : List ByteArray) :
    Spans (elementCall type properties children) [ascii elementFactory, ascii ")"] := by
  have front : ascii (elementFactory ++ "(") = ascii elementFactory ++ ascii "(" :=
    String.toByteArray_append
  rw [elementCall, front, ByteArray.append_assoc (a := ascii elementFactory)]
  exact Spans.between _ _ _

theorem spans_tagCall {tag : Node} {properties : Code} {children : List ByteArray}
    {output : ByteArray} (made : tagCall source tag properties children = .ok output) :
    Spans output [ascii elementFactory, ascii ")"] := by
  unfold tagCall at made
  cases properties with
  | error fault => cases made
  | ok given =>
      cases made
      exact spans_elementCall _ _ _

/-- Markup with parts becomes a call. -/
theorem spans_elementCode {node : Node} {children : List Rendered} {output : ByteArray}
    (parts : children ≠ [])
    (made : elementCode source node children = .ok output) :
    Spans output [ascii elementFactory, ascii ")"] := by
  unfold elementCode at made
  split at made
  next => exact spans_tagCall made
  next =>
    simp only [bind, Except.bind] at made
    split at made
    next => cases made
    next =>
      cases made
      exact spans_elementCall _ _ _
  next =>
    split at made
    next =>
      simp only [bind, Except.bind] at made
      split at made
      next => cases made
      next => exact spans_tagCall made
    next lacking =>
      obtain ⟨first, rest, rfl⟩ := List.exists_cons_of_ne_nil parts
      exact absurd (List.getLast?_eq_some_getLast (List.cons_ne_nil first rest))
        (lacking first _ rfl)

theorem elementCode_of_nodeCode {node : Node} {children : List Rendered} {output : ByteArray}
    (element : isElement node.kind = true) (made : nodeCode source node children = .ok output) :
    elementCode source node children = .ok output := by
  simp only [isElement, Bool.or_eq_true, beq_iff_eq] at element
  unfold nodeCode at made
  rcases element with (kind | kind) | kind
  all_goals
    simp only [kind, unsupportedConstruct] at made
    exact made

/-- An assertion becomes what its first named part does. -/
theorem code_of_assertion {node : Node} {children : List Rendered} {output : ByteArray}
    (asserted : isAssertion node.kind = true) (made : nodeCode source node children = .ok output) :
    ((children.find? (·.node.named)).map (·.rendering.code)).getD (.ok ByteArray.empty) =
      .ok output := by
  simp only [isAssertion, Bool.or_eq_true, beq_iff_eq] at asserted
  unfold nodeCode at made
  rcases asserted with (kind | kind) | kind
  all_goals
    simp only [kind, unsupportedConstruct] at made
    split at made
    next found => rw [found]; exact made
    next missed => rw [missed]; exact made

/-- The first named one of some rendered nodes. -/
theorem find?_rendered (depth : Nat) (nodes : List Node) :
    (nodes.map fun child => (⟨child, render source depth child⟩ : Rendered)).find? (·.node.named) =
      (nodes.find? (·.named)).map fun child => ⟨child, render source depth child⟩ :=
  List.find?_map

/-- Nothing becomes of an export of types alone. -/
theorem code_of_typesOnly {node : Node} {children : List Rendered} {output : ByteArray}
    (hidden : exportsTypesOnly node = true) (made : nodeCode source node children = .ok output) :
    output = ByteArray.empty := by
  simp only [exportsTypesOnly, Bool.and_eq_true, beq_iff_eq] at hidden
  unfold nodeCode at made
  simp only [hidden.1, unsupportedConstruct, hidden.2, if_true] at made
  exact (Except.ok.inj made).symm

theorem spans_leftCode {depth : Nat} {parent : Kind} {child : Node} {code : ByteArray}
    (spans : ∀ {output : ByteArray}, (render source depth child).code = .ok output →
      Spans output (loweredTokens source child))
    (left : leftCode source depth parent child = .ok code) :
    Spans code (leftTokens source parent child) := by
  unfold leftCode at left
  unfold leftTokens
  split at left
  next erased =>
    rw [if_pos erased, ← Except.ok.inj left]
    exact Spans.of_blank IsBlank.empty
  next kept =>
    rw [if_neg kept]
    exact spans left

/-- A copied node begins and ends with what is left of its parts. -/
theorem spans_copy {node : Node} {depth : Nat} {output : ByteArray} (here : Spaced source node)
    (each : ∀ child ∈ node.children, ∀ code, leftCode source depth node.kind child = .ok code →
      Spans code (leftTokens source node.kind child))
    (made : copy source node (node.children.map fun child => ⟨child, render source depth child⟩) =
      .ok output) :
    Spans output (if node.children.isEmpty then [node.bytes source]
      else node.children.flatMap (leftTokens source node.kind)) := by
  obtain ⟨opens, closes, fits, _⟩ := here
  cases parts : node.children with
  | nil =>
      rw [parts] at made
      cases made
      exact Spans.single _
  | cons first rest =>
      rw [parts] at made opens closes fits each
      obtain ⟨text, rfl, written⟩ := written_copy made
      exact Spans.blank_append (opens first rfl) (written.spans each fits closes)

/-- What the lowering makes of a node begins and ends with its tokens. -/
theorem spans_code {node : Node} (spaced : ∀ other ∈ node.preorder, Spaced source other)
    {depth : Nat} {output : ByteArray} (made : (render source depth node).code = .ok output) :
    Spans output (loweredTokens source node) := by
  induction node using Node.induct generalizing depth output with
  | step node inductionHypothesis =>
      have here := spaced node node.mem_preorder_self
      have below (child : Node) (member : child ∈ node.children) {depth : Nat} {output : ByteArray}
          (made : (render source depth child).code = .ok output) :
          Spans output (loweredTokens source child) :=
        inductionHypothesis child member
          (fun other visited => spaced other (Node.mem_preorder_of_child member visited)) made
      cases depth with
      | zero => cases node; cases made
      | succ depth =>
          rw [render_succ] at made
          change nodeCode source node _ = .ok output at made
          rw [loweredTokens_eq]
          split
          next element =>
            have code := elementCode_of_nodeCode element made
            exact spans_elementCode (mt List.map_eq_nil_iff.mp (here.marked element)) code
          next noElement =>
            split
            next asserted =>
              have inner := code_of_assertion asserted made
              rw [find?_rendered, Option.map_map] at inner
              cases first : node.children.find? (·.named) with
              | none =>
                  rw [first] at inner
                  exact Spans.of_blank (Except.ok.inj inner ▸ IsBlank.empty)
              | some child =>
                  rw [first] at inner
                  exact below child (List.mem_of_find?_eq_some first) inner
            next noAssertion =>
              split
              next hidden => exact Spans.of_blank (code_of_typesOnly hidden made ▸ IsBlank.empty)
              next shown =>
                have copied : isCopied node = true := by
                  simp [isCopied, noElement, noAssertion, shown]
                exact spans_copy here (fun child member code => spans_leftCode (below child member))
                  (copy_of_nodeCode copied made)

end Lectern.Module
