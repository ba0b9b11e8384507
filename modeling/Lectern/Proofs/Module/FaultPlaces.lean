/-
Module: Lectern.Proofs.Module.FaultPlaces
Purpose: What a lowering fault is blamed on, and which place it names: that of the construct, counted in
  what the elision of imports leaves. In the source the construct stands there exactly if no line
  break, and nothing of its own line, is taken out in front of it.
Trusted boundary: none
Main exports: Blames, Traced, traced_render, overlong_of_compile, leftPlace, Undisturbed, Drifts, SameShifted,
  fault_place_iff, fault_place_drifts
-/
import Lectern.Proofs.Module.Elision
import Lectern.Proofs.Module.Output

namespace Lectern.Module

open Lectern.Syntax Lectern.Text

/-! ## What a fault is blamed on -/

/-- The place that a fault names. -/
def LoweringFault.place? : LoweringFault → Option Position
  | .unsupported place _ => some place
  | .parameterProperty place => some place
  | .emptyAttribute place => some place
  | _ => none

/-- An offset at which a text between the tags of an element may begin: that of the element, or behind
a part of it. -/
def BeginsText (node : Node) (offset : Nat) : Prop :=
  offset = node.start ∨ ∃ child ∈ node.children, child.stop = offset

/-- An offset at which such a text may end. -/
def EndsText (node : Node) (offset : Nat) : Prop :=
  offset = node.stop ∨ ∃ child ∈ node.children, child.start = offset

/-- A node has a reference whose number is too long: a string between its quotes, or an element in the
text between two of its parts. -/
inductive HoldsOverlong (source : ByteArray) (node : Node) (overlong : Number.Overlong) : Prop
  | string (kind : node.kind = .stringLiteral)
      (held : References.overlong? ((node.text source).toList.drop 1).dropLast = some overlong)
  | text {start stop : Nat} (element : isElement node.kind = true) (begins : BeginsText node start)
      (ends : EndsText node stop)
      (held : References.overlong? (Utf8.read (Utf8.slice source start stop)).toList =
        some overlong)

theorem HoldsOverlong.maxDigits_lt {source : ByteArray} {node : Node} {overlong : Number.Overlong}
    (holds : HoldsOverlong source node overlong) : Number.maxDigits < overlong.digits := by
  cases holds with
  | string _ held => exact References.maxDigits_lt_of_overlong? held
  | text _ _ _ held => exact References.maxDigits_lt_of_overlong? held

/-- A fault is blamed on a construct that cannot be lowered, on a parameter with a modifier, on a
container without anything to see in it, or on a string or an element with a reference whose number is
too long. -/
inductive Blames (source : ByteArray) (node : Node) : LoweringFault → Prop
  | unsupported {construct : Construct} (kind : unsupportedConstruct node.kind = some construct) :
      Blames source node (.unsupported (node.position source) construct)
  | parameterProperty (parameter : isParameter node.kind = true)
      (modified : node.children.any (isParameterModifier ·.kind) = true) :
      Blames source node (.parameterProperty (node.position source))
  | emptyAttribute (container : node.kind = .jsxExpression)
      (bare : node.children.find? isVisiblePart = none) :
      Blames source node (.emptyAttribute (node.position source))
  | overlongReference {overlong : Number.Overlong} (holds : HoldsOverlong source node overlong) :
      Blames source node (.overlongReference overlong)

theorem Blames.place {source : ByteArray} {node : Node} {fault : LoweringFault} {place : Position}
    (blames : Blames source node fault) (names : fault.place? = some place) :
    place = node.position source := by
  cases blames with
  | unsupported => exact (Option.some.inj names).symm
  | parameterProperty => exact (Option.some.inj names).symm
  | emptyAttribute => exact (Option.some.inj names).symm
  | overlongReference => cases names

/-- The text of a fault begins with the place it names. -/
theorem LoweringFault.messages_of_place {fault : LoweringFault} {place : Position}
    (names : fault.place? = some place) :
    ∃ problem, fault.messages = [place.label ++ ": " ++ problem] := by
  cases fault with
  | unsupported named construct =>
      cases names
      exact ⟨construct.label ++ " are not supported", by simp [messages, String.append_assoc]⟩
  | parameterProperty named =>
      cases names
      exact ⟨"constructor parameter properties are not supported", by
        rw [String.append_assoc]; rfl⟩
  | emptyAttribute named =>
      cases names
      exact ⟨"JSX attributes must be assigned a non-empty expression", by
        rw [String.append_assoc]; rfl⟩
  | nestedTooDeeply => cases names
  | overlongReference => cases names
  | unreadAfterElision => cases names
  | unreadOutput => cases names

variable {source : ByteArray} {root : Node}

/-! ## Tracing faults -/

/-- A failure is for want of depth or is blamed on a node of the tree. -/
def Traced {α : Type} (source : ByteArray) (root : Node) (result : Except LoweringFault α) : Prop :=
  ∀ fault, result = .error fault →
    fault = .nestedTooDeeply ∨ ∃ node ∈ root.preorder, Blames source node fault

theorem traced_ok {α : Type} (value : α) :
    Traced source root (.ok value : Except LoweringFault α) := by
  intro fault fails
  cases fails

theorem traced_bind {α β : Type} {first : Except LoweringFault α}
    {next : α → Except LoweringFault β} (here : Traced source root first)
    (behind : ∀ value, first = .ok value → Traced source root (next value)) :
    Traced source root (first >>= next) := by
  intro fault fails
  cases made : first with
  | error fault' =>
      rw [made] at fails
      cases fails
      exact here fault made
  | ok value =>
      rw [made] at fails
      exact behind value made fault fails

/-- What becomes of a node of the tree is traced wherever it can stand. -/
structure TracedPart (source : ByteArray) (root : Node) (part : Rendered) : Prop where
  belongs : part.node ∈ root.preorder
  code : Traced source root part.rendering.code
  entry : Traced source root part.rendering.entry
  properties : Traced source root part.rendering.properties
  /-- Only a container without anything to see in it gives no expression. -/
  bare : part.node.kind = .jsxExpression → part.rendering.entry = .ok none →
    part.node.children.find? isVisiblePart = none

variable {parts : List Rendered}

theorem traced_copyFrom (traced : ∀ part ∈ parts, TracedPart source root part) (parent : Node)
    (cursor : Nat) : Traced source root (copyFrom source parent cursor parts) := by
  induction parts generalizing cursor with
  | nil => exact traced_ok _
  | cons part rest inductionHypothesis =>
      rw [copyFrom_cons]
      apply traced_bind
      · split
        next => exact traced_ok _
        next => exact (traced part List.mem_cons_self).code
      · intro code _
        apply traced_bind
        · exact inductionHypothesis (fun other member => traced other (List.mem_cons_of_mem _ member)) _
        · intro tail _
          exact traced_ok _

theorem traced_copy (traced : ∀ part ∈ parts, TracedPart source root part) (node : Node) :
    Traced source root (copy source node parts) :=
  traced_copyFrom traced node node.start

theorem traced_containerEntry (traced : ∀ part ∈ parts, TracedPart source root part) :
    Traced source root (containerEntry parts) := by
  unfold containerEntry
  split
  next => exact traced_ok _
  next inner first =>
    apply traced_bind (traced inner (List.mem_of_find?_eq_some first)).code
    intro code _
    split
    next => exact traced_ok _
    next => exact traced_ok _

theorem traced_quotedText {string : Node} (belongs : string ∈ root.preorder)
    (kind : string.kind = .stringLiteral) : Traced source root (quotedText source string) := by
  unfold quotedText
  split
  next => exact traced_ok _
  next overlong fails =>
    intro fault same
    cases same
    exact .inr ⟨string, belongs, .overlongReference (.string kind (References.unescape_eq_error.mp fails))⟩

theorem traced_attributeEntry (traced : ∀ part ∈ parts, TracedPart source root part) :
    Traced source root (attributeEntry source parts) := by
  unfold attributeEntry
  split
  next => exact traced_ok _
  next => exact traced_ok _
  next name value others visible =>
    have part : TracedPart source root value :=
      traced value (List.mem_filter.mp (visible ▸ List.mem_cons_of_mem _ List.mem_cons_self)).1
    split
    next text =>
      apply traced_bind (traced_quotedText part.belongs (beq_iff_eq.mp text))
      intro inside _
      exact traced_ok _
    next =>
      split
      next container =>
        apply traced_bind part.entry
        intro entry made
        cases entry with
        | some code => exact traced_ok _
        | none =>
            have kind : value.node.kind = .jsxExpression := beq_iff_eq.mp container
            intro fault fails
            cases fails
            exact Or.inr ⟨value.node, part.belongs, .emptyAttribute kind (part.bare kind made)⟩
      next =>
        apply traced_bind part.code
        intro code _
        exact traced_ok _

theorem traced_tagEntries (traced : ∀ part ∈ parts, TracedPart source root part) :
    Traced source root (tagEntries parts) := by
  induction parts with
  | nil => exact traced_ok _
  | cons part rest inductionHypothesis =>
      have others := inductionHypothesis fun other member => traced other (List.mem_cons_of_mem _ member)
      unfold tagEntries
      split
      next =>
        apply traced_bind (traced part List.mem_cons_self).entry
        intro entry _
        apply traced_bind others
        intro entries _
        exact traced_ok _
      next => exact others

theorem traced_tagProperties (traced : ∀ part ∈ parts, TracedPart source root part) :
    Traced source root (tagProperties parts) := by
  apply traced_bind (traced_tagEntries traced)
  intro entries _
  split
  next => exact traced_ok _
  next => exact traced_ok _

/-- The literal for a text between tags. -/
theorem overlong_of_literal? {raw : List Char} {overlong : Number.Overlong}
    (fails : MarkupText.literal? raw = .error overlong) :
    References.overlong? raw = some overlong := by
  unfold MarkupText.literal? at fails
  cases unescaped : References.unescape raw with
  | error found =>
      rw [unescaped] at fails
      cases fails
      exact References.unescape_eq_error.mp unescaped
  | ok text =>
      rw [unescaped] at fails
      cases fails

theorem traced_gapLiteral {element : Node} {start stop : Nat} (belongs : element ∈ root.preorder)
    (kind : isElement element.kind = true) (begins : BeginsText element start)
    (ends : EndsText element stop) : Traced source root (gapLiteral source start stop) := by
  unfold gapLiteral
  split
  next => exact traced_ok _
  next => exact traced_ok _
  next overlong fails =>
    intro fault same
    cases same
    exact .inr ⟨element, belongs,
      .overlongReference (.text kind begins ends (overlong_of_literal? fails))⟩

theorem traced_elementChildren {element : Node} (belongs : element ∈ root.preorder)
    (kind : isElement element.kind = true)
    (traced : ∀ part ∈ parts, TracedPart source root part)
    (below : ∀ part ∈ parts, part.node ∈ element.children) {stop cursor : Nat}
    (begins : BeginsText element cursor) (ends : EndsText element stop) :
    Traced source root (elementChildren source stop cursor parts) := by
  induction parts generalizing cursor with
  | nil => exact traced_gapLiteral belongs kind begins ends
  | cons part rest inductionHypothesis =>
      have here := traced part List.mem_cons_self
      have child := below part List.mem_cons_self
      have others {cursor : Nat} (begins : BeginsText element cursor) :=
        inductionHypothesis (fun other member => traced other (List.mem_cons_of_mem _ member))
          (fun other member => below other (List.mem_cons_of_mem _ member)) begins
      have literal : Traced source root (gapLiteral source cursor part.node.start) :=
        traced_gapLiteral belongs kind begins (.inr ⟨_, child, rfl⟩)
      unfold elementChildren
      split
      next =>
        apply traced_bind literal
        intro text _
        apply traced_bind here.code
        intro code _
        apply traced_bind (others (.inr ⟨_, child, rfl⟩))
        intro tail _
        exact traced_ok _
      next =>
        split
        next =>
          apply traced_bind literal
          intro text _
          apply traced_bind here.entry
          intro entry _
          apply traced_bind (others (.inr ⟨_, child, rfl⟩))
          intro tail _
          exact traced_ok _
        next => exact others begins

theorem traced_tagCall {tag : Node} {properties : Code} (traced : Traced source root properties)
    (children : List ByteArray) : Traced source root (tagCall source tag properties children) := by
  apply traced_bind traced
  intro given _
  exact traced_ok _

theorem traced_elementCode {node : Node} (belongs : node ∈ root.preorder)
    (kind : isElement node.kind = true) (traced : ∀ part ∈ parts, TracedPart source root part)
    (below : ∀ part ∈ parts, part.node ∈ node.children) :
    Traced source root (elementCode source node parts) := by
  have begins (place : Nat) : BeginsText node ((parts[place]?.map (·.node.stop)).getD node.start) := by
    cases found : parts[place]? with
    | none => exact .inl rfl
    | some part => exact .inr ⟨part.node, below part (List.mem_of_getElem? found), rfl⟩
  have ends (place : Nat) : EndsText node ((parts[place]?.map (·.node.start)).getD node.stop) := by
    cases found : parts[place]? with
    | none => exact .inl rfl
    | some part => exact .inr ⟨part.node, below part (List.mem_of_getElem? found), rfl⟩
  unfold elementCode
  split
  next => exact traced_tagCall (traced_tagProperties traced) []
  next =>
    apply traced_bind
    · have some {part : Rendered} (member : part ∈ (parts.drop 2).take (parts.length - 5)) :
          part ∈ parts := List.mem_of_mem_drop (List.mem_of_mem_take member)
      exact traced_elementChildren belongs kind (fun part member => traced part (some member))
        (fun part member => below part (some member)) (begins 1) (ends (parts.length - 3))
    · intro inner _
      exact traced_ok _
  next =>
    split
    next opening closing first last =>
      have ahead : opening ∈ parts := List.mem_of_mem_head? first
      have behind : closing ∈ parts := List.mem_of_getLast? last
      apply traced_bind
      · have some {part : Rendered} (member : part ∈ (parts.drop 1).dropLast) : part ∈ parts :=
          List.mem_of_mem_drop (List.dropLast_subset _ member)
        exact traced_elementChildren belongs kind (fun part member => traced part (some member))
          (fun part member => below part (some member)) (.inr ⟨_, below opening ahead, rfl⟩)
          (.inr ⟨_, below closing behind, rfl⟩)
      · intro inner _
        exact traced_tagCall (traced opening ahead).properties inner
    next => exact traced_copy traced node

/-- What is left of an assertion is its first part. -/
private theorem traced_assertion (traced : ∀ part ∈ parts, TracedPart source root part) :
    Traced source root (match parts.find? (·.node.named) with
      | some inner => inner.rendering.code
      | none => .ok ByteArray.empty) := by
  split
  next inner first => exact (traced inner (List.mem_of_find?_eq_some first)).code
  next => exact traced_ok _

theorem traced_nodeCode {node : Node} (belongs : node ∈ root.preorder)
    (traced : ∀ part ∈ parts, TracedPart source root part)
    (below : ∀ part ∈ parts, part.node ∈ node.children) :
    Traced source root (nodeCode source node parts) := by
  have parameter (kind : isParameter node.kind = true) :
      Traced source root
        (if node.children.any fun child => isParameterModifier child.kind then
          .error (.parameterProperty (node.position source))
        else copy source node parts) := by
    split
    next modified =>
      intro fault fails
      cases fails
      exact Or.inr ⟨node, belongs, .parameterProperty kind modified⟩
    next => exact traced_copy traced node
  unfold nodeCode
  split
  next construct kind =>
    intro fault fails
    cases fails
    exact Or.inr ⟨node, belongs, .unsupported kind⟩
  next =>
    split
    next =>
      split
      next => exact traced_ok _
      next => exact traced_copy traced node
    next kind => exact parameter (by simp [isParameter, kind])
    next kind => exact parameter (by simp [isParameter, kind])
    next => exact traced_assertion traced
    next => exact traced_assertion traced
    next => exact traced_assertion traced
    next kind => exact traced_elementCode belongs (by simp [isElement, kind]) traced below
    next kind => exact traced_elementCode belongs (by simp [isElement, kind]) traced below
    next kind => exact traced_elementCode belongs (by simp [isElement, kind]) traced below
    next => exact traced_copy traced node

/-- A container gives no expression only if there is nothing to see in it. -/
theorem find?_of_containerEntry {depth : Nat} {nodes : List Node}
    (made : containerEntry (nodes.map fun child => ⟨child, render source depth child⟩) = .ok none) :
    nodes.find? isVisiblePart = none := by
  unfold containerEntry at made
  rw [find?_visible] at made
  cases first : nodes.find? isVisiblePart with
  | none => rfl
  | some inner =>
      rw [first] at made
      obtain ⟨code, _, made⟩ := bind_eq_ok made
      split at made
      next => cases made
      next => cases made

theorem traced_assemble {node : Node} (belongs : node ∈ root.preorder)
    (traced : ∀ part ∈ parts, TracedPart source root part)
    (below : ∀ part ∈ parts, part.node ∈ node.children)
    (bare : containerEntry parts = .ok none → node.children.find? isVisiblePart = none) :
    TracedPart source root ⟨node, assemble source node parts⟩ where
  belongs := belongs
  code := traced_nodeCode belongs traced below
  entry := by
    simp only [assemble]
    split
    next => exact traced_containerEntry traced
    next =>
      split
      next => exact traced_attributeEntry traced
      next => exact traced_ok _
  properties := traced_tagProperties traced
  bare := by
    intro container silent
    simp only at container
    simp only [assemble, container, BEq.rfl, if_true] at silent
    exact bare silent

/-- Every fault of the lowering is traced to the node it is blamed on. -/
theorem traced_render {node : Node} (belongs : node ∈ root.preorder) (depth : Nat) :
    TracedPart source root ⟨node, render source depth node⟩ := by
  induction node using Node.induct generalizing depth with
  | step node inductionHypothesis =>
      cases depth with
      | zero =>
          have deep : ∀ {α : Type}, Traced source root
              (.error .nestedTooDeeply : Except LoweringFault α) := by
            intro α fault fails
            cases fails
            exact Or.inl rfl
          cases node
          exact ⟨belongs, deep, deep, deep, fun _ made => by cases made⟩
      | succ depth =>
          rw [render_succ]
          apply traced_assemble belongs
          · intro part member
            obtain ⟨child, inside, rfl⟩ := List.mem_map.mp member
            exact inductionHypothesis child inside
              (Node.mem_preorder_trans belongs (Node.mem_preorder_of_child inside child.mem_preorder_self))
              depth
          · intro part member
            obtain ⟨child, inside, rfl⟩ := List.mem_map.mp member
            exact inside
          · exact find?_of_containerEntry

/-- A fault of the lowering is for want of depth or is blamed on a node of the tree. -/
theorem traced_lowerTree (source : ByteArray) (root : Node) :
    Traced source root (lowerTree source root) := by
  apply traced_bind (traced_render root.mem_preorder_self maxDepth).code
  intro body _
  exact traced_ok _

/-! ## Places in what is left -/

/-- The place behind what is left in front of an offset when some ranges are taken out. -/
def leftPlace (source : ByteArray) (ranges : List (Nat × Nat)) (offset : Nat) : Position :=
  Position.advance ⟨1, 1⟩ (bytesOutside source ranges 0 offset).toList

/-- How many bytes in front of an offset are left when some ranges are taken out. -/
def leftBefore (ranges : List (Nat × Nat)) (offset : Nat) : Nat :=
  (List.range' 0 offset).countP (!isInside ranges ·)

variable {ranges : List (Nat × Nat)}

theorem bytesOutside_single (offset : Nat) :
    bytesOutside source ranges offset (offset + 1) =
      if isInside ranges offset then ByteArray.empty else ⟨#[Utf8.byteAt source offset]⟩ := by
  unfold bytesOutside
  rw [show offset + 1 - offset = 1 by omega]
  cases inside : isInside ranges offset with
  | true => simp [inside]; rfl
  | false => simp [inside]

/-- One more byte of the source moves the place on if it is left. -/
theorem leftPlace_succ (offset : Nat) :
    leftPlace source ranges (offset + 1) =
      if isInside ranges offset then leftPlace source ranges offset
      else (leftPlace source ranges offset).advance [Utf8.byteAt source offset] := by
  unfold leftPlace
  rw [← bytesOutside_append (Nat.zero_le offset) (Nat.le_succ offset), bytesOutside_single]
  split
  next => rw [ByteArray.append_empty]
  next =>
    rw [toList_eq, ByteArray.data_append, Array.toList_append, Position.advance_append, ← toList_eq]

/-- The place of an offset in the source. -/
theorem ofOffset_eq {offset : Nat} (inside : offset ≤ source.size) :
    Position.ofOffset source offset = leftPlace source [] offset := by
  unfold Position.ofOffset leftPlace
  rw [bytesOutside_of_clear inside fun _ _ _ => rfl]

/-- The place of an offset in what is left. -/
theorem ofOffset_left {offset : Nat} (inside : offset ≤ source.size) :
    Position.ofOffset (bytesOutside source ranges 0 source.size) (leftBefore ranges offset) =
      leftPlace source ranges offset := by
  have front : (bytesOutside source ranges 0 offset).size = leftBefore ranges offset := by
    simp [bytesOutside, leftBefore, ByteArray.size, List.countP_eq_length_filter]
  unfold Position.ofOffset leftPlace Utf8.slice
  rw [← bytesOutside_append (Nat.zero_le offset) inside, ByteArray.extract_append, ← front,
    ByteArray.extract_zero_size, Nat.zero_sub, Nat.sub_self, ByteArray.extract_same,
    ByteArray.append_empty]

/-- No line break is taken out in front of an offset. -/
def KeepsLines (source : ByteArray) (ranges : List (Nat × Nat)) (offset : Nat) : Prop :=
  ∀ taken < offset, isInside ranges taken = true → Utf8.byteAt source taken ≠ 0x0A

/-- Behind all that is taken out in front of an offset there is a line break in front of it. -/
def KeepsColumn (source : ByteArray) (ranges : List (Nat × Nat)) (offset : Nat) : Prop :=
  ∀ taken < offset, isInside ranges taken = true →
    ∃ feed, taken < feed ∧ feed < offset ∧ Utf8.byteAt source feed = 0x0A

/-- How far the place in what is left is behind the place in the source. -/
structure Drifts (source : ByteArray) (ranges : List (Nat × Nat)) (offset : Nat) : Prop where
  line_le : (leftPlace source ranges offset).line ≤ (leftPlace source [] offset).line
  line_eq : (leftPlace source ranges offset).line = (leftPlace source [] offset).line ↔
    KeepsLines source ranges offset
  column_le : KeepsLines source ranges offset →
    (leftPlace source ranges offset).column ≤ (leftPlace source [] offset).column
  column_eq : KeepsLines source ranges offset →
    ((leftPlace source ranges offset).column = (leftPlace source [] offset).column ↔
      KeepsColumn source ranges offset)

theorem keepsLines_succ (offset : Nat) :
    KeepsLines source ranges (offset + 1) ↔ KeepsLines source ranges offset ∧
      (isInside ranges offset = true → Utf8.byteAt source offset ≠ 0x0A) := by
  constructor
  · intro keeps
    exact ⟨fun taken before => keeps taken (Nat.lt_succ_of_lt before),
      keeps offset (Nat.lt_succ_self offset)⟩
  · rintro ⟨before, here⟩ taken within
    rcases Nat.lt_succ_iff_lt_or_eq.mp within with earlier | rfl
    · exact before taken earlier
    · exact here

theorem keepsColumn_succ (offset : Nat) :
    KeepsColumn source ranges (offset + 1) ↔ isInside ranges offset = false ∧
      (Utf8.byteAt source offset = 0x0A ∨ KeepsColumn source ranges offset) := by
  constructor
  · intro keeps
    apply And.intro
    · apply Bool.eq_false_iff.mpr
      intro inside
      obtain ⟨feed, behind, before, _⟩ := keeps offset (Nat.lt_succ_self offset) inside
      omega
    · by_cases byte : Utf8.byteAt source offset = 0x0A
      · exact Or.inl byte
      · apply Or.inr
        intro taken before inside
        obtain ⟨feed, behind, within, isFeed⟩ := keeps taken (Nat.lt_succ_of_lt before) inside
        have apart : feed ≠ offset := fun same => byte (same ▸ isFeed)
        exact ⟨feed, behind, by omega, isFeed⟩
  · rintro ⟨outside, here⟩ taken within inside
    have before : taken < offset := by
      rcases Nat.lt_succ_iff_lt_or_eq.mp within with earlier | rfl
      · exact earlier
      · rw [outside] at inside
        cases inside
    rcases here with byte | keeps
    · exact ⟨offset, before, Nat.lt_succ_self offset, byte⟩
    · obtain ⟨feed, behind, inFront, isFeed⟩ := keeps taken before inside
      exact ⟨feed, behind, Nat.lt_succ_of_lt inFront, isFeed⟩

theorem advance_feed (place : Position) : place.advance [0x0A] = ⟨place.line + 1, 1⟩ := rfl

theorem advance_other (place : Position) {byte : UInt8} (other : byte ≠ 0x0A) :
    place.advance [byte] = ⟨place.line, place.column + 1⟩ := by
  rw [Position.advance, if_neg (by simpa using other), Position.advance]

/-- What one more byte of the source does to the drift. -/
theorem drifts_succ {offset : Nat} (drifts : Drifts source ranges offset) :
    Drifts source ranges (offset + 1) := by
  obtain ⟨line_le, line_eq, column_le, column_eq⟩ := drifts
  have here : leftPlace source [] (offset + 1) =
      (leftPlace source [] offset).advance [Utf8.byteAt source offset] := leftPlace_succ offset
  have left : leftPlace source ranges (offset + 1) =
      if isInside ranges offset then leftPlace source ranges offset
      else (leftPlace source ranges offset).advance [Utf8.byteAt source offset] :=
    leftPlace_succ offset
  have lines : KeepsLines source ranges (offset + 1) ↔ KeepsLines source ranges offset ∧
      (isInside ranges offset = true → Utf8.byteAt source offset ≠ 0x0A) := keepsLines_succ offset
  have column : KeepsColumn source ranges (offset + 1) ↔ isInside ranges offset = false ∧
      (Utf8.byteAt source offset = 0x0A ∨ KeepsColumn source ranges offset) := keepsColumn_succ offset
  by_cases byte : Utf8.byteAt source offset = 0x0A
  · rw [byte, advance_feed] at here left
    cases inside : isInside ranges offset with
    -- A line break goes: the place in what is left stays a line behind.
    | true =>
        have lost : ¬ KeepsLines source ranges (offset + 1) :=
          fun keeps => (lines.mp keeps).2 inside byte
        rw [if_pos inside] at left
        exact {
          line_le := by rw [here, left]; exact Nat.le_succ_of_le line_le
          line_eq := by
            rw [here, left]
            exact ⟨fun same => absurd line_le (by simp only at same; omega), fun keeps => absurd keeps lost⟩
          column_le := fun keeps => absurd keeps lost
          column_eq := fun keeps => absurd keeps lost }
    | false =>
        rw [if_neg (by simp [inside])] at left
        have kept : KeepsColumn source ranges (offset + 1) := column.mpr ⟨inside, Or.inl byte⟩
        have same : KeepsLines source ranges (offset + 1) ↔ KeepsLines source ranges offset := by
          simp [lines, inside]
        exact {
          line_le := by rw [here, left]; exact Nat.succ_le_succ line_le
          line_eq := by rw [here, left, same, ← line_eq]; exact Nat.succ_inj
          column_le := fun _ => by rw [here, left]
          column_eq := fun _ => by rw [here, left]; exact ⟨fun _ => kept, fun _ => rfl⟩ }
  · have same : KeepsLines source ranges (offset + 1) ↔ KeepsLines source ranges offset := by
      simp [lines, byte]
    rw [advance_other _ byte] at here left
    cases inside : isInside ranges offset with
    -- A byte of the line goes: the column in what is left stays behind.
    | true =>
        rw [if_pos inside] at left
        have lost : ¬ KeepsColumn source ranges (offset + 1) := fun keeps => by
          simp [inside] at column
          exact column keeps
        exact {
          line_le := by rw [here, left]; exact line_le
          line_eq := by rw [here, left, same]; exact line_eq
          column_le := fun keeps => by
            rw [here, left]
            exact Nat.le_succ_of_le (column_le (same.mp keeps))
          column_eq := fun keeps => by
            have behind := column_le (same.mp keeps)
            rw [here, left]
            exact ⟨fun equal => absurd behind (by simp only at equal; omega), fun kept => absurd kept lost⟩ }
    | false =>
        rw [if_neg (by simp [inside])] at left
        have sameColumn : KeepsColumn source ranges (offset + 1) ↔ KeepsColumn source ranges offset := by
          simp [column, inside, byte]
        exact {
          line_le := by rw [here, left]; exact line_le
          line_eq := by rw [here, left, same]; exact line_eq
          column_le := fun keeps => by
            rw [here, left]
            exact Nat.succ_le_succ (column_le (same.mp keeps))
          column_eq := fun keeps => by
            rw [here, left, sameColumn, ← column_eq (same.mp keeps)]
            exact Nat.succ_inj }

/-- How the place in what is left drifts, over a whole source. -/
theorem drifts (source : ByteArray) (ranges : List (Nat × Nat)) (offset : Nat) :
    Drifts source ranges offset := by
  induction offset with
  | zero =>
      have lines : KeepsLines source ranges 0 := fun taken before => absurd before (Nat.not_lt_zero _)
      have column : KeepsColumn source ranges 0 := fun taken before => absurd before (Nat.not_lt_zero _)
      exact ⟨Nat.le_refl _, ⟨fun _ => lines, fun _ => rfl⟩, fun _ => Nat.le_refl _,
        fun _ => ⟨fun _ => column, fun _ => rfl⟩⟩
  | succ offset inductionHypothesis => exact drifts_succ inductionHypothesis

/-- A place in what is left is the place in the source exactly if no line break, and nothing of its
line, has been taken out in front of it. -/
theorem leftPlace_eq_iff (offset : Nat) :
    leftPlace source ranges offset = leftPlace source [] offset ↔
      KeepsLines source ranges offset ∧ KeepsColumn source ranges offset := by
  obtain ⟨_, line_eq, _, column_eq⟩ := drifts source ranges offset
  constructor
  · intro same
    have keeps := line_eq.mp (congrArg Position.line same)
    exact ⟨keeps, (column_eq keeps).mp (congrArg Position.column same)⟩
  · rintro ⟨lines, column⟩
    have line := line_eq.mpr lines
    have columns := (column_eq lines).mpr column
    cases here : leftPlace source [] offset
    cases left : leftPlace source ranges offset
    rw [here, left] at line columns
    exact congrArg₂ Position.mk line columns

/-! ## The places that a compilation names -/

/-- Does a fault say that something cannot be read? -/
def LoweringFault.isUnread : LoweringFault → Bool
  | .unreadAfterElision => true
  | .unreadOutput _ => true
  | _ => false

/-- Any other fault arises in the lowering of what the elision of imports leaves. -/
theorem compile_fault_steps {text : String} {fault : LoweringFault}
    (fails : compile text = .error (.unlowerable fault)) (lowers : fault.isUnread = false) :
    ∃ root left, parse text.toUTF8 = .ok root ∧
      parse (elideImports text.toUTF8 root) = .ok left ∧
      lowerTree (elideImports text.toUTF8 root) left = .error fault := by
  unfold compile at fails
  cases checked : check text with
  | error rejected =>
      rw [checked] at fails
      cases fails
      -- The check itself only rejects.
      unfold check checkTree at checked
      simp only at checked
      split at checked
      next => cases checked
      next =>
        split at checked
        next =>
          split at checked
          next => cases checked
          next => cases checked
        next => cases checked
  | ok elided =>
      obtain ⟨root, read, _, rfl⟩ := check_steps checked
      rw [checked] at fails
      simp only [bind, Except.bind] at fails
      split at fails
      next =>
        cases fails
        cases lowers
      next left again =>
        refine ⟨root, left, read, again, ?_⟩
        split at fails
        next thrown failed =>
          cases fails
          unfold lower at failed
          cases made : lowerTree (elideImports text.toUTF8 root) left with
          | error reason =>
              rw [made] at failed
              exact congrArg Except.error (Except.error.inj failed)
          | ok output =>
              rw [made] at failed
              simp only [bind, Except.bind] at failed
              split at failed
              next => cases failed
              next =>
                cases failed
                cases lowers
        next => cases fails

/-- A compiler that breaks off has come to a reference whose number is too long. -/
theorem overlong_of_compile {text : String} {overlong : Number.Overlong}
    (breaks : compile text = .error (.unlowerable (.overlongReference overlong))) :
    ∃ root left found, parse text.toUTF8 = .ok root ∧
      parse (elideImports text.toUTF8 root) = .ok left ∧ found ∈ left.preorder ∧
      HoldsOverlong (elideImports text.toUTF8 root) found overlong := by
  obtain ⟨root, left, read, again, fails⟩ := compile_fault_steps breaks rfl
  rcases traced_lowerTree _ left _ fails with deep | ⟨found, belongs, blames⟩
  · cases deep
  · cases blames with
    | overlongReference holds => exact ⟨root, left, found, read, again, belongs, holds⟩

/-- What the walk over a tree shows of its nodes, with their places moved. -/
def outline (move : Nat → Nat) (node : Node) : List (Kind × Bool × Nat × Nat × Nat) :=
  node.preorder.map fun part =>
    (part.kind, part.named, part.children.length, move part.start, move part.stop)

/-- A node of a tree over what is left is a node of the tree over the source, moved to where its
bytes are left. -/
def SameShifted (ranges : List (Nat × Nat)) (original found : Node) : Prop :=
  outline id found = outline (leftBefore ranges) original

instance (ranges : List (Nat × Nat)) (original found : Node) :
    Decidable (SameShifted ranges original found) :=
  inferInstanceAs (Decidable (_ = _))

theorem SameShifted.start {original found : Node} (same : SameShifted ranges original found) :
    found.start = leftBefore ranges original.start := by
  unfold SameShifted outline at same
  rw [Node.preorder_eq found, Node.preorder_eq original, List.map_cons, List.map_cons] at same
  have heads := (List.cons.inj same).1
  simp only [Prod.mk.injEq] at heads
  exact heads.2.2.2.1

/-- What is known of the place that a fault names: of the tree of what the elision of imports leaves
it is blamed on the node `found`. -/
structure PlacedInRest (text : String) (root : Node) (fault : LoweringFault) (place : Position)
    (left found : Node) : Prop where
  again : parse (elideImports text.toUTF8 root) = .ok left
  belongs : found ∈ left.preorder
  blamed : Blames (elideImports text.toUTF8 root) found fault
  message : ∃ problem, fault.messages = [place.label ++ ": " ++ problem]
  /-- The place is counted in what is left. -/
  counted : place = found.position (elideImports text.toUTF8 root)
  /-- It is the place in the source exactly if no line break, and nothing of the line of the
  construct, was taken out in front of it. -/
  source_iff : ∀ original ∈ root.preorder, original.start ≤ text.toUTF8.size →
    SameShifted (elisionRanges text.toUTF8 root) original found →
    (place = original.position text.toUTF8 ↔
      KeepsLines text.toUTF8 (elisionRanges text.toUTF8 root) original.start ∧
        KeepsColumn text.toUTF8 (elisionRanges text.toUTF8 root) original.start)

/-- Every place that a lowering fault names is counted in what the elision of imports leaves. -/
theorem fault_place_iff {text : String} {root : Node} {stop : Nat} {fault : LoweringFault}
    {place : Position} (read : parse text.toUTF8 = .ok root)
    (follows : Node.Follows 0 stop root.children)
    (fails : compile text = .error (.unlowerable fault)) (names : fault.place? = some place) :
    ∃ left found, PlacedInRest text root fault place left found := by
  have lowers : fault.isUnread = false := by
    cases fault <;> first | rfl | cases names
  obtain ⟨root', left, read', again, failed⟩ := compile_fault_steps fails lowers
  cases read.symm.trans read'
  rcases traced_lowerTree _ left _ failed with rfl | ⟨found, belongs, blames⟩
  · cases names
  have counted := blames.place names
  refine ⟨left, found, again, belongs, blames, LoweringFault.messages_of_place names, counted, ?_⟩
  intro original _ inside same
  have foundAt : found.position (elideImports text.toUTF8 root) =
      leftPlace text.toUTF8 (elisionRanges text.toUTF8 root) original.start := by
    unfold Node.position
    rw [same.start, elideImports_eq follows, ofOffset_left inside]
  have originalAt : original.position text.toUTF8 = leftPlace text.toUTF8 [] original.start :=
    ofOffset_eq inside
  rw [counted, foundAt, originalAt]
  exact leftPlace_eq_iff original.start

/-- Where the compilation of a text fails at an enumeration: the place that the fault names, and the
place of the enumeration. -/
private def enumerationPlaces (text : String) : Option (Position × Position) :=
  match compile text, parse text.toUTF8 with
  | .error (.unlowerable (.unsupported place .enumeration)), .ok root =>
    match parse (elideImports text.toUTF8 root) with
    | .ok left =>
      match root.preorder.find? (·.kind == .enumDeclaration),
          left.preorder.find? (·.kind == .enumDeclaration) with
      | some original, some found =>
        if Node.Follows 0 text.toUTF8.size root.children ∧
            SameShifted (elisionRanges text.toUTF8 root) original found ∧
            place = found.position (elideImports text.toUTF8 root) then
          some (place, original.position text.toUTF8)
        else none
      | _, _ => none
    | .error _ => none
  | _, _ => none

private theorem of_enumerationPlaces {text : String} {place here : Position}
    (places : enumerationPlaces text = some (place, here)) :
    ∃ root left original found, parse text.toUTF8 = .ok root ∧
      Node.Follows 0 text.toUTF8.size root.children ∧
      parse (elideImports text.toUTF8 root) = .ok left ∧
      compile text = .error (.unlowerable (.unsupported place .enumeration)) ∧
      original ∈ root.preorder ∧ found ∈ left.preorder ∧
      Blames (elideImports text.toUTF8 root) found (.unsupported place .enumeration) ∧
      SameShifted (elisionRanges text.toUTF8 root) original found ∧
      original.position text.toUTF8 = here := by
  unfold enumerationPlaces at places
  split at places
  next named root fails read =>
    split at places
    next left again =>
      split at places
      next original found first firstLeft =>
        split at places
        next facts =>
          cases places
          obtain ⟨follows, same, rfl⟩ := facts
          have kind : found.kind = .enumDeclaration := by simpa using List.find?_some firstLeft
          have blames : Blames (elideImports text.toUTF8 root) found
              (.unsupported (found.position (elideImports text.toUTF8 root)) .enumeration) :=
            .unsupported (by rw [kind]; rfl)
          exact ⟨root, left, original, found, read, follows, again, fails,
            List.mem_of_find?_eq_some first, List.mem_of_find?_eq_some firstLeft, blames, same, rfl⟩
        next => cases places
      next => cases places
    next => cases places
  next => cases places

/-- An import in front of an enumeration. -/
private def importAhead : String := "import x from 'y';\nenum A \x7b B \x7d\nexport default 1;\n"

/-- The compilation of such a text fails at the enumeration. -/
theorem fault_place_iff_import_ahead :
    ∃ root left found, parse importAhead.toUTF8 = .ok root ∧
      Node.Follows 0 importAhead.toUTF8.size root.children ∧
      compile importAhead = .error (.unlowerable (.unsupported ⟨1, 1⟩ .enumeration)) ∧
      PlacedInRest importAhead root (.unsupported ⟨1, 1⟩ .enumeration) ⟨1, 1⟩ left found := by
  obtain ⟨root, _, _, _, read, follows, _, fails, _⟩ := of_enumerationPlaces
    (show enumerationPlaces importAhead = some (⟨1, 1⟩, ⟨2, 1⟩) by decide +kernel)
  obtain ⟨left, found, placed⟩ := fault_place_iff read follows fails rfl
  exact ⟨root, left, found, read, follows, fails, placed⟩

/-- The place that a fault names need not be that of the construct in the source. -/
theorem fault_place_drifts :
    ¬ ∀ (text : String) (root left original found : Node) (fault : LoweringFault) (place : Position),
      parse text.toUTF8 = .ok root → parse (elideImports text.toUTF8 root) = .ok left →
      compile text = .error (.unlowerable fault) → fault.place? = some place →
      original ∈ root.preorder → found ∈ left.preorder →
      Blames (elideImports text.toUTF8 root) found fault →
      SameShifted (elisionRanges text.toUTF8 root) original found →
      place = original.position text.toUTF8 := by
  intro sure
  obtain ⟨root, left, original, found, read, _, again, fails, inSource, inRest, blames, same, here⟩ :=
    of_enumerationPlaces
      (show enumerationPlaces importAhead = some (⟨1, 1⟩, ⟨2, 1⟩) by decide +kernel)
  have place := sure importAhead root left original found _ ⟨1, 1⟩ read again fails rfl inSource
    inRest blames same
  rw [here] at place
  cases place

end Lectern.Module
