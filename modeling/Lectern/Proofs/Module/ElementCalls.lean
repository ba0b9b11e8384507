/-
Module: Lectern.Proofs.Module.ElementCalls
Purpose: Each element of a module that is lowered becomes one call, whose properties are those that
  its tag gives and whose arguments are what stands between its tags, nothing left out and nothing
  there twice.
Trusted boundary: none
Main exports: Told, restOf_copyFrom, propertiesOf_tagEntries, argumentsOf_elementChildren,
  entryOf_attributeEntry, callOf_elementCode, told, elements_become_calls
-/
import Lectern.Proofs.Module.Bindings
import Lectern.Proofs.Module.CallForms

namespace Lectern.Module

open Lectern.Syntax Lectern.Text

/-- A node becomes what it is told to, in each of the places where it can stand. -/
structure Told (source : ByteArray) (depth : Nat) (node : Node) : Prop where
  code : ∀ bytes, (render source depth node).code = .ok bytes →
    CodeOf source node bytes (elements node)
  entry : node.kind = .jsxExpression ∨ node.kind = .jsxAttribute →
    ∀ given, (render source depth node).entry = .ok given →
      EntryOf source node given (elements node)
  properties : node.kind = .jsxOpeningElement →
    ∀ given, (render source depth node).properties = .ok given →
      ∃ entries, given = object entries ∧
        PropertiesOf source (node.children.filter givesProperties) entries (elements node)

variable {source : ByteArray} {depth : Nat} {node : Node}

/-! ## Copies -/

theorem restOf_copyFrom {parent : Node} {cursor : Nat} {nodes : List Node} {bytes : ByteArray}
    (told : ∀ child ∈ nodes, Told source depth child)
    (made : copyFrom source parent cursor
      (nodes.map fun child => ⟨child, render source depth child⟩) = .ok bytes) :
    RestOf source parent cursor nodes bytes
      ((nodes.filter (!isErased parent.kind ·)).flatMap elements) := by
  induction nodes generalizing cursor bytes with
  | nil =>
      rw [← Except.ok.inj made]
      exact .done
  | cons first rest inductionHypothesis =>
      rw [List.map_cons, copyFrom_cons] at made
      obtain ⟨code, own, made⟩ := bind_eq_ok made
      obtain ⟨tail, below, made⟩ := bind_eq_ok made
      have others := inductionHypothesis (fun child member => told child (List.mem_cons_of_mem _ member))
        below
      rw [← Except.ok.inj made]
      cases erased : isErased parent.kind first with
      | true =>
          rw [erased, if_pos rfl] at own
          rw [← Except.ok.inj own, ByteArray.append_empty, List.filter_cons_of_neg (by simp [erased])]
          exact .erased erased others
      | false =>
          rw [erased, if_neg Bool.false_ne_true] at own
          rw [List.filter_cons_of_pos (by simp [erased]), List.flatMap_cons]
          exact .kept erased ((told first List.mem_cons_self).code code own) others

/-! ## Tags -/

theorem propertiesOf_tagEntries {nodes : List Node} {entries : List ByteArray}
    (told : ∀ child ∈ nodes, Told source depth child)
    (made : tagEntries (nodes.map fun child => ⟨child, render source depth child⟩) = .ok entries) :
    PropertiesOf source (nodes.filter givesProperties) entries
      ((nodes.filter givesProperties).flatMap elements) := by
  induction nodes generalizing entries with
  | nil =>
      rw [← Except.ok.inj made]
      exact .none
  | cons first rest inductionHypothesis =>
      have later (child : Node) (member : child ∈ rest) := told child (List.mem_cons_of_mem _ member)
      rw [List.map_cons, tagEntries] at made
      split at made
      next gives =>
        obtain ⟨entry, own, made⟩ := bind_eq_ok made
        obtain ⟨others, below, made⟩ := bind_eq_ok made
        have kind : first.kind = .jsxExpression ∨ first.kind = .jsxAttribute := by
          simp only [Bool.and_eq_true, Bool.or_eq_true, beq_iff_eq] at gives
          exact gives.2.symm
        rw [List.filter_cons_of_pos (show givesProperties first = true from gives),
          List.flatMap_cons, ← Except.ok.inj made]
        exact .giver ((told first List.mem_cons_self).entry kind entry own)
          (inductionHypothesis later below)
      next silent =>
        rw [List.filter_cons_of_neg (show ¬ givesProperties first = true from silent)]
        exact inductionHypothesis later made

theorem propertiesOf_tagProperties {nodes : List Node} {given : ByteArray}
    (told : ∀ child ∈ nodes, Told source depth child)
    (made : tagProperties (nodes.map fun child => ⟨child, render source depth child⟩) = .ok given) :
    ∃ entries, given = object entries ∧
      PropertiesOf source (nodes.filter givesProperties) entries
        ((nodes.filter givesProperties).flatMap elements) := by
  obtain ⟨entries, collected, made⟩ := bind_eq_ok made
  refine ⟨entries, ?_, propertiesOf_tagEntries told collected⟩
  cases entries with
  | nil => exact (Except.ok.inj made).symm
  | cons first rest => exact (Except.ok.inj made).symm

/-! ## Containers and attributes -/

/-- The elements of a part of markup are those of the children that count. -/
theorem elements_of_holding {counts : Node → Bool} (holds : HoldsElementsIn counts node)
    (kind : node.kind ∈ [Kind.jsxOpeningElement, .jsxAttribute, .jsxExpression]) :
    elements node = (node.children.filter counts).flatMap elements := by
  have copied : isCopied node = true := by
    simp only [List.mem_cons, List.not_mem_nil, or_false] at kind
    rcases kind with kind | kind | kind
    all_goals simp [isCopied, isElement, isAssertion, exportsTypesOnly, kind]
  rw [elements_of_copied copied]
  exact elements_of_counting holds

theorem entryOf_containerEntry (kind : node.kind = .jsxExpression) (formed : MarkupFormed node)
    (told : ∀ child ∈ node.children, Told source depth child) {given : Option ByteArray}
    (made : containerEntry (node.children.map fun child => ⟨child, render source depth child⟩) =
      .ok given) :
    EntryOf source node given (elements node) := by
  obtain ⟨single, holds⟩ := formed.container kind
  rw [elements_of_holding holds (by simp [kind])]
  unfold containerEntry at made
  rw [find?_visible, ← List.head?_filter] at made
  match visible : node.children.filter isVisiblePart with
  | [] =>
      rw [visible] at made
      rw [← Except.ok.inj made]
      exact .empty kind visible
  | [inner] =>
      rw [visible] at made
      obtain ⟨code, own, made⟩ := bind_eq_ok made
      have member : inner ∈ node.children :=
        (List.mem_filter.mp (by rw [visible]; exact List.mem_singleton_self inner)).1
      have entry : given = some (delimited inner code) := by
        unfold delimited
        split at made
        next sequence => rw [if_pos sequence]; exact (Except.ok.inj made).symm
        next plain => rw [if_neg plain]; exact (Except.ok.inj made).symm
      rw [entry, List.flatMap_singleton]
      exact .expression kind visible ((told inner member).code code own)
  | first :: second :: rest =>
      rw [visible] at single
      exact absurd single (by simp)

/-- What a string in quotes is replaced by is what it stands for. -/
theorem decode_of_quotedText {string : Node} {inside : List Char}
    (replaced : quotedText source string = .ok inside) :
    References.decode ((string.text source).toList.drop 1).dropLast = inside := by
  unfold quotedText at replaced
  split at replaced
  next text unescaped =>
    cases replaced
    exact (References.unescape_eq_ok.mp unescaped).2
  next => cases replaced

theorem entryOf_attributeEntry (kind : node.kind = .jsxAttribute) (formed : MarkupFormed node)
    (told : ∀ child ∈ node.children, Told source depth child) {given : Option ByteArray}
    (made : attributeEntry source
      (node.children.map fun child => ⟨child, render source depth child⟩) = .ok given) :
    EntryOf source node given (elements node) := by
  obtain ⟨count, holds, named, quoted⟩ := formed.pair kind
  rw [elements_of_holding holds (by simp [kind])]
  have rendered : (node.children.map fun child =>
        (⟨child, render source depth child⟩ : Rendered)).filter
          (fun child => child.node.named && child.node.kind != .comment) =
      (node.children.filter isVisiblePart).map fun child => ⟨child, render source depth child⟩ :=
    List.filter_map
  unfold attributeEntry at made
  rw [rendered] at made
  match visible : node.children.filter isVisiblePart with
  | [] =>
      rw [visible] at count
      exact absurd count (by simp)
  | [name] =>
      rw [visible] at made named
      rw [List.flatMap_singleton, elements_of_plain (named name rfl), ← Except.ok.inj made]
      exact .flag kind visible
  | [name, value] =>
      rw [visible] at made named
      simp only [List.map_cons, List.map_nil] at made
      have member : value ∈ node.children :=
        (List.mem_filter.mp (by rw [visible]; simp : value ∈ node.children.filter isVisiblePart)).1
      rw [List.flatMap_cons, elements_of_plain (named name rfl), List.nil_append,
        List.flatMap_singleton]
      split at made
      next text =>
        have text := eq_of_beq text
        obtain ⟨inside, replaced, made⟩ := bind_eq_ok made
        have literal : (Quoted.ascii inside).toUTF8 = valueLiteral source value := by
          rw [valueLiteral, decode_of_quotedText replaced]
        rw [elements_of_plain (quoted value member text), ← Except.ok.inj made, literal]
        exact .text kind visible text
      next noText =>
        split at made
        next braced =>
          have braced := eq_of_beq braced
          obtain ⟨inner, own, made⟩ := bind_eq_ok made
          cases inner with
          | none => cases made
          | some code =>
              rw [← Except.ok.inj made]
              exact .braced kind visible braced
                ((told value member).entry (Or.inl braced) (some code) own)
        next noBraces =>
          obtain ⟨code, own, made⟩ := bind_eq_ok made
          have other : value.kind ≠ .stringLiteral ∧ value.kind ≠ .jsxExpression :=
            ⟨fun text => noText (beq_iff_eq.mpr text), fun braced => noBraces (beq_iff_eq.mpr braced)⟩
          rw [← Except.ok.inj made]
          exact .value kind visible other ((told value member).code code own)
  | name :: value :: third :: rest =>
      rw [visible] at count
      exact absurd count (by simp)

/-! ## Elements -/

/-- The code of an element is a call. -/
theorem CodeOf.callOf {bytes : ByteArray} {calls : List Node} (element : isElement node.kind = true)
    (code : CodeOf source node bytes calls) : CallOf source node bytes calls := by
  have kinds := element
  simp only [isElement, Bool.or_eq_true, beq_iff_eq] at kinds
  cases code with
  | copied copied => simp [isCopied, element] at copied
  | asserted asserted =>
      rcases kinds with (kind | kind) | kind
      all_goals simp [isAssertion, kind] at asserted
  | typesOnly hidden =>
      rcases kinds with (kind | kind) | kind
      all_goals simp [exportsTypesOnly, kind] at hidden
  | element call => exact call

/-- A text between tags makes a literal, or nothing. -/
theorem argumentsOf_gap {start stop : Nat} {items : List Item} {literal arguments : List ByteArray}
    {calls : List Node} (made : gapLiteral source start stop = .ok literal)
    (others : ArgumentsOf source items arguments calls) :
    ArgumentsOf source (.gap start stop :: items) (literal ++ arguments) calls := by
  unfold gapLiteral at made
  split at made
  next text keeps =>
    cases made
    exact .literal keeps others
  next drops =>
    cases made
    exact .silent drops others
  next => cases made

theorem argumentsOf_elementChildren {stop cursor : Nat} {nodes : List Node}
    {arguments : List ByteArray} (told : ∀ child ∈ nodes, Told source depth child)
    (made : elementChildren source stop cursor
      (nodes.map fun child => ⟨child, render source depth child⟩) = .ok arguments) :
    ArgumentsOf source (pieces stop cursor (nodes.filter isNested)) arguments
      ((nodes.filter isNested).flatMap elements) := by
  induction nodes generalizing cursor arguments with
  | nil =>
      rw [← List.append_nil arguments]
      exact argumentsOf_gap made .none
  | cons first rest inductionHypothesis =>
      have later (child : Node) (member : child ∈ rest) := told child (List.mem_cons_of_mem _ member)
      rw [List.map_cons, elementChildren] at made
      split at made
      next element =>
        obtain ⟨literal, text, made⟩ := bind_eq_ok made
        obtain ⟨code, own, made⟩ := bind_eq_ok made
        obtain ⟨tail, below, made⟩ := bind_eq_ok made
        have nested : isNested first = true := by rw [isNested, element, Bool.true_or]
        have call := ((told first List.mem_cons_self).code code own).callOf element
        rw [List.filter_cons_of_pos nested, List.flatMap_cons, ← Except.ok.inj made]
        exact argumentsOf_gap text (.element call (inductionHypothesis later below))
      next noElement =>
        split at made
        next container =>
          obtain ⟨literal, text, made⟩ := bind_eq_ok made
          obtain ⟨entry, own, made⟩ := bind_eq_ok made
          obtain ⟨tail, below, made⟩ := bind_eq_ok made
          have nested : isNested first = true := by rw [isNested, container, Bool.or_true]
          have kind := eq_of_beq container
          have expression := (told first List.mem_cons_self).entry (Or.inl kind) entry own
          rw [List.filter_cons_of_pos nested, List.flatMap_cons, ← Except.ok.inj made,
            List.append_assoc]
          exact argumentsOf_gap text (.expression kind expression (inductionHypothesis later below))
        next noContainer =>
          have text : ¬ isNested first = true := by simp [isNested, noElement, noContainer]
          rw [List.filter_cons_of_neg text]
          exact inductionHypothesis later made

/-- A self-closing element becomes a call without children. -/
theorem callOf_selfClosing (kind : node.kind = .jsxSelfClosingElement) (formed : MarkupFormed node)
    (told : ∀ child ∈ node.children, Told source depth child) {bytes : ByteArray}
    (made : elementCode source node
      (node.children.map fun child => ⟨child, render source depth child⟩) = .ok bytes) :
    CallOf source node bytes (elements node) := by
  unfold elementCode at made
  simp only [kind] at made
  obtain ⟨given, gives, made⟩ := bind_eq_ok made
  obtain ⟨entries, rfl, properties⟩ := propertiesOf_tagProperties told gives
  have inside : elements node = node :: (node.children.filter givesProperties).flatMap elements := by
    rw [elements_of_element (by simp [isElement, kind]),
      elements_of_counting (formed.tag (Or.inr kind))]
  rw [inside, ← Except.ok.inj made, ← List.append_nil (List.flatMap elements _)]
  exact .call (.selfClosing kind) properties .none

/-- Many nodes are some in front, some behind and the others between them. -/
private theorem exists_ends {nodes : List Node} (ahead behind : Nat)
    (many : ahead + behind ≤ nodes.length) :
    ∃ front between back, nodes = front ++ (between ++ back) ∧ front.length = ahead ∧
      back.length = behind := by
  have enough : behind ≤ (nodes.drop ahead).length := by
    rw [List.length_drop]
    omega
  refine ⟨nodes.take ahead, (nodes.drop ahead).take ((nodes.drop ahead).length - behind),
    (nodes.drop ahead).drop ((nodes.drop ahead).length - behind), ?_, ?_, ?_⟩
  · rw [List.take_append_drop, List.take_append_drop]
  · rw [List.length_take]
    omega
  · rw [List.length_drop]
    omega

/-- An element between two tags becomes a call. -/
theorem callOf_paired (kind : node.kind = .jsxElement) (formed : MarkupFormed node)
    (told : ∀ child ∈ node.children, Told source depth child) {bytes : ByteArray}
    (made : elementCode source node
      (node.children.map fun child => ⟨child, render source depth child⟩) = .ok bytes) :
    CallOf source node bytes (elements node) := by
  obtain ⟨two, opens, closes, content⟩ := formed.element kind
  obtain ⟨front, between, back, children, one, single⟩ := exists_ends 1 1 two
  obtain ⟨opening, rfl⟩ := List.length_eq_one_iff.mp one
  obtain ⟨closing, rfl⟩ := List.length_eq_one_iff.mp single
  have ends : node.children.getLast? = some closing := by
    rw [children, ← List.append_assoc, List.getLast?_concat]
  have plain : ∀ child ∈ [closing], isPlain child = true := by
    simpa using closes closing ends
  have tag : opening.kind = .jsxOpeningElement := opens opening (by rw [children]; rfl)
  have inside : elements node =
      node :: (elements opening ++ (between.filter isNested).flatMap elements) := by
    have kept : isErased node.kind opening = false := not_erased_of_markup _ (by simp [tag])
    have nested : ∀ child ∈ between, isPlain child = true ∨ isNested child = true :=
      fun child member => content child (by simp [children, member])
    rw [elements_of_element (by simp [isElement, kind]), children, List.singleton_append,
      List.filter_cons_of_pos (by simp [kept]), List.filter_append, List.flatMap_cons,
      List.flatMap_append, elements_of_all_plain plain, elements_of_between nested,
      List.append_nil]
  have call : elementCode source node
        (node.children.map fun child => ⟨child, render source depth child⟩) =
      elementChildren source closing.start opening.stop
          (between.map fun child => ⟨child, render source depth child⟩) >>=
        tagCall source opening (render source depth opening).properties := by
    have last : (node.children.map fun child =>
          (⟨child, render source depth child⟩ : Rendered)).getLast? =
        some ⟨closing, render source depth closing⟩ := by rw [List.getLast?_map, ends]; rfl
    unfold elementCode
    rw [kind, last, children]
    simp
  rw [call] at made
  obtain ⟨arguments, below, made⟩ := bind_eq_ok made
  obtain ⟨given, gives, made⟩ := bind_eq_ok made
  have toldOpening : Told source depth opening := told opening (by simp [children])
  obtain ⟨entries, rfl, properties⟩ := toldOpening.properties tag given gives
  have others := argumentsOf_elementChildren
    (fun child member => told child (by simp [children, member])) below
  rw [inside, ← Except.ok.inj made]
  exact .call (.element kind children) properties others

/-- A fragment becomes a call. -/
theorem callOf_fragment (kind : node.kind = .jsxFragment) (formed : MarkupFormed node)
    (told : ∀ child ∈ node.children, Told source depth child) {bytes : ByteArray}
    (made : elementCode source node
      (node.children.map fun child => ⟨child, render source depth child⟩) = .ok bytes) :
    CallOf source node bytes (elements node) := by
  obtain ⟨five, opens, closes, content⟩ := formed.fragment kind
  obtain ⟨front, between, back, children, two, three⟩ := exists_ends 2 3 five
  obtain ⟨first, opening, rfl⟩ := List.length_eq_two.mp two
  obtain ⟨closing, slash, last, rfl⟩ := List.length_eq_three.mp three
  have length : node.children.length - 3 = between.length + 2 := by simp [children]
  have inside : elements node = node :: ([] ++ (between.filter isNested).flatMap elements) := by
    have ahead : ∀ token ∈ [first, opening], isPlain token = true := by
      simpa [children] using opens
    have behind : ∀ token ∈ [closing, slash, last], isPlain token = true := by
      rw [length] at closes
      simpa [children] using closes
    have nested : ∀ child ∈ between, isPlain child = true ∨ isNested child = true :=
      fun child member => content child (by simp [children, member])
    rw [elements_of_element (by simp [isElement, kind]), children, List.filter_append,
      List.filter_append, List.flatMap_append, List.flatMap_append, elements_of_all_plain ahead,
      elements_of_all_plain behind, elements_of_between nested, List.append_nil]
  have call : elementCode source node
        (node.children.map fun child => ⟨child, render source depth child⟩) =
      elementChildren source closing.start opening.stop
          (between.map fun child => ⟨child, render source depth child⟩) >>= fun inner =>
        .ok (elementCall (ascii fragmentType) (object []) inner) := by
    have second : (node.children.map fun child =>
          (⟨child, render source depth child⟩ : Rendered))[1]? =
        some ⟨opening, render source depth opening⟩ := by rw [List.getElem?_map, children]; rfl
    have third : (node.children.map fun child =>
          (⟨child, render source depth child⟩ : Rendered))[node.children.length - 3]? =
        some ⟨closing, render source depth closing⟩ := by
      rw [List.getElem?_map, length, children]
      simp
    have inner : ((node.children.map fun child =>
          (⟨child, render source depth child⟩ : Rendered)).drop 2).take
            (node.children.length - 5) =
        between.map fun child => ⟨child, render source depth child⟩ := by
      rw [← List.map_drop, ← List.map_take, children]
      simp
    unfold elementCode
    simp only [kind, second, third, inner, List.length_map, Option.map_some, Option.getD_some]
    rfl
  rw [call] at made
  obtain ⟨arguments, below, made⟩ := bind_eq_ok made
  have others := argumentsOf_elementChildren
    (fun child member => told child (by simp [children, member])) below
  rw [inside, ← Except.ok.inj made]
  exact .call (.fragment kind children) .none others

/-! ## Trees -/

theorem codeOf_nodeCode (placed : WellPlaced node) (formed : MarkupFormed node)
    (told : ∀ child ∈ node.children, Told source depth child) {bytes : ByteArray}
    (made : nodeCode source node
      (node.children.map fun child => ⟨child, render source depth child⟩) = .ok bytes) :
    CodeOf source node bytes (elements node) := by
  by_cases asserted : isAssertion node.kind = true
  · obtain ⟨inner, first⟩ : ∃ inner, node.children.find? (·.named) = some inner := by
      obtain ⟨part, member, named⟩ := placed.asserted asserted
      exact Option.isSome_iff_exists.mp (List.find?_isSome.mpr ⟨part, member, named⟩)
    have own := code_of_assertion asserted made
    rw [find?_rendered, first] at own
    rw [elements_of_asserted asserted first]
    exact .asserted asserted first ((told inner (List.mem_of_find?_eq_some first)).code bytes own)
  by_cases hidden : exportsTypesOnly node = true
  · rw [code_of_typesOnly hidden made, elements_of_typesOnly hidden]
    exact .typesOnly hidden
  by_cases element : isElement node.kind = true
  · have call := elementCode_of_nodeCode element made
    simp only [isElement, Bool.or_eq_true, beq_iff_eq] at element
    rcases element with (kind | kind) | kind
    · exact .element (callOf_paired kind formed told call)
    · exact .element (callOf_selfClosing kind formed told call)
    · exact .element (callOf_fragment kind formed told call)
  have copied : isCopied node = true := by simp [isCopied, asserted, hidden, element]
  rw [elements_of_copied copied]
  exact .copied copied (restOf_copyFrom told (copy_of_nodeCode copied made))

/-- Each node of a tree becomes what it is told to, in as many levels as it may have. -/
theorem told_of_formed (formed : ∀ other ∈ node.preorder, WellPlaced other ∧ MarkupFormed other) :
    Told source depth node := by
  induction depth generalizing node with
  | zero =>
      cases node
      exact ⟨fun _ made => (nomatch made), fun _ _ made => (nomatch made),
        fun _ _ made => (nomatch made)⟩
  | succ depth inductionHypothesis =>
      obtain ⟨placed, here⟩ := formed node node.mem_preorder_self
      have told : ∀ child ∈ node.children, Told source depth child :=
        fun child member => inductionHypothesis fun other inside =>
          formed other (Node.mem_preorder_of_child member inside)
      refine ⟨fun bytes made => ?_, fun kind given made => ?_, fun kind given made => ?_⟩
      · rw [render_succ] at made
        exact codeOf_nodeCode placed here told made
      · rw [render_succ] at made
        simp only [assemble] at made
        rcases kind with container | pair
        · rw [if_pos (beq_iff_eq.mpr container)] at made
          exact entryOf_containerEntry container here told made
        · rw [if_neg (by simp [pair]), if_pos (beq_iff_eq.mpr pair)] at made
          exact entryOf_attributeEntry pair here told made
      · rw [render_succ] at made
        rw [elements_of_holding (here.tag (Or.inl kind)) (by simp [kind])]
        exact propertiesOf_tagProperties told made

/-- Where a module is lowered, each element that is not inside of what is erased becomes one call, and
the calls follow one another as the elements do. The properties of a call are those of the attributes
and spreads of its tag, the arguments are the texts, expressions and elements between its tags, and
all of them stand in the source in this order. -/
theorem elements_become_calls {root : Node} {output : ByteArray} (formed : WellFormed source root)
    (markup : ∀ node ∈ root.preorder, MarkupFormed node)
    (lowered : lowerTree source root = .ok output) :
    (∃ body, output = Utf8.slice source 0 root.start ++ body ++
        Utf8.slice source root.stop source.size ∧
      CodeOf source root body (elements root)) ∧
    ∀ node ∈ elements root, ∀ type givers items, Anatomy source node type givers items →
      InSourceOrder givers items := by
  constructor
  · obtain ⟨body, made, lowered⟩ := bind_eq_ok lowered
    have told : Told source maxDepth root :=
      told_of_formed fun node inside => ⟨formed.placed node inside, markup node inside⟩
    exact ⟨body, (Except.ok.inj lowered).symm, told.code body made⟩
  · intro node comes type givers items anatomy
    have inside := mem_preorder_of_reached (List.mem_filter.mp comes).1
    exact anatomy.inSourceOrder formed inside

/-- An element with a spread and with an element in an attribute, around a text and a container. -/
private def nestedMarkup : String := "<p \x7b...q\x7d k=\x7b<b/>\x7d>a \x7bc\x7d</p>"

/-- What becomes of it. -/
private def nestedCalls : String :=
  "React.createElement(\"p\", \x7b...q, k: React.createElement(\"b\", null)\x7d, \"a \", c)"

/-- Two elements, one in the other, become as many calls. -/
theorem elements_become_calls_nested :
    ∃ root, parse nestedMarkup.toUTF8 = .ok root ∧
      (WellFormed nestedMarkup.toUTF8 root ∧ (∀ node ∈ root.preorder, MarkupFormed node) ∧
        lowerTree nestedMarkup.toUTF8 root = .ok nestedCalls.toUTF8) ∧
      (elements root).length = 2 ∧
      (∃ body, nestedCalls.toUTF8 = Utf8.slice nestedMarkup.toUTF8 0 root.start ++ body ++
          Utf8.slice nestedMarkup.toUTF8 root.stop nestedMarkup.toUTF8.size ∧
        CodeOf nestedMarkup.toUTF8 root body (elements root)) ∧
      ∀ node ∈ elements root, ∀ type givers items,
        Anatomy nestedMarkup.toUTF8 node type givers items → InSourceOrder givers items := by
  obtain ⟨root, read, ⟨formed, markup, lowered⟩, two⟩ :=
    @exists_of_parse nestedMarkup (fun root =>
      (WellFormed nestedMarkup.toUTF8 root ∧ (∀ node ∈ root.preorder, MarkupFormed node) ∧
        lowerTree nestedMarkup.toUTF8 root = .ok nestedCalls.toUTF8) ∧
      (elements root).length = 2)
      _ (by decide +kernel)
  exact ⟨root, read, ⟨formed, markup, lowered⟩, two, elements_become_calls formed markup lowered⟩

end Lectern.Module
