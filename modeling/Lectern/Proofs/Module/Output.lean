/-
Module: Lectern.Proofs.Module.Output
Purpose: Where each byte of a lowered module comes from, markup included: what the lowering writes for
  a node is text of the node's own and, in between, what it writes for some of the parts, each once and
  in order. The nodes that it writes at all are known from the tree alone.
Trusted boundary: none
Main exports: Manner, writtenParts, Emitted, Own, Assembled, Becomes, assembled_of_becomes,
  Emitted.becomes, Emitted.not_refused
-/
import Lectern.Proofs.Module.Tokens

namespace Lectern.Module

open Lectern.Syntax Lectern.Text

/-! ## What of a tree is written -/

/-- How a node is written. -/
inductive Manner where
  /-- As code. -/
  | code
  /-- As the property of an attribute or the expression of a container. -/
  | entry
  /-- As the type and the properties that a tag gives to its element. -/
  | tag
  /-- As the text it covers, with quotes or without. -/
  | word
  deriving DecidableEq, Repr

/-- Is this something to see in a container or an attribute? -/
def isVisiblePart (node : Node) : Bool := node.named && node.kind != .comment

/-- Is this a part of a tag that gives properties? -/
def givesProperties (node : Node) : Bool :=
  node.named && (node.kind == .jsxAttribute || node.kind == .jsxExpression)

/-- How a child of an element is written: nested elements as calls, containers as expressions, and
nothing else. -/
def childPart (child : Node) : Option (Manner × Node) :=
  if isElement child.kind then some (.code, child)
  else if child.kind == .jsxExpression then some (.entry, child)
  else none

/-- How the value of an attribute is written. -/
def valueManner (value : Node) : Manner :=
  if value.kind == .stringLiteral then .word
  else if value.kind == .jsxExpression then .entry
  else .code

/-- The parts of an attribute that are written: its name and its value. -/
def attributeParts : List Node → List (Manner × Node)
  | [] => []
  | [name] => [(.word, name)]
  | name :: value :: _ => [(.word, name), (valueManner value, value)]

/-- The parts of a tag that are written: its name and what gives properties. -/
def tagParts (tag : Node) : List (Manner × Node) :=
  ((tag.child? .name).map fun name => (Manner.word, name)).toList ++
    (tag.children.filter givesProperties).map fun part => (.entry, part)

/-- The parts of a node that is copied. -/
def copiedParts (node : Node) : List (Manner × Node) :=
  (node.children.filter (!isErased node.kind ·)).map fun part => (.code, part)

/-- The parts of an element or a fragment. -/
def elementParts (node : Node) : List (Manner × Node) :=
  match node.kind with
  | .jsxSelfClosingElement => tagParts node
  | .jsxFragment => ((node.children.drop 2).take (node.children.length - 5)).filterMap childPart
  | _ =>
    match node.children.head?, node.children.getLast? with
    | some opening, some _ =>
      (.tag, opening) :: (node.children.drop 1).dropLast.filterMap childPart
    | _, _ => copiedParts node

/-- The parts of a node that are written when it is written in some manner, in order, each with the
manner in which it is. -/
def writtenParts : Manner → Node → List (Manner × Node)
  | .code, node =>
    if isAssertion node.kind then
      ((node.children.find? (·.named)).map fun part => (Manner.code, part)).toList
    else if exportsTypesOnly node then []
    else if isElement node.kind then elementParts node
    else copiedParts node
  | .entry, node =>
    if node.kind == .jsxExpression then
      ((node.children.find? isVisiblePart).map fun part => (Manner.code, part)).toList
    else if node.kind == .jsxAttribute then attributeParts (node.children.filter isVisiblePart)
    else []
  | .tag, node => tagParts node
  | .word, node => node.children.map fun part => (.word, part)

/-- The nodes that the lowering of a tree writes, and how. -/
inductive Emitted (root : Node) : Manner → Node → Prop
  | root : Emitted root .code root
  | part {manner partManner : Manner} {node part : Node} (emitted : Emitted root manner node)
      (written : (partManner, part) ∈ writtenParts manner node) : Emitted root partManner part

/-- The children that a copied node keeps are written. -/
theorem written_of_copied {node part : Node} (copied : isCopied node = true)
    (member : part ∈ node.children) (kept : isErased node.kind part = false) :
    (.code, part) ∈ writtenParts .code node := by
  simp only [isCopied, Bool.and_eq_true, Bool.not_eq_true'] at copied
  obtain ⟨⟨plain, runs⟩, shown⟩ := copied
  simp only [writtenParts, runs, shown, plain, Bool.false_eq_true, if_false]
  exact List.mem_map_of_mem (List.mem_filter.mpr ⟨member, by rw [kept]; rfl⟩)

/-- The node at a path of child indices, where all nodes above it are copied, keep what the path goes
through, and pass a test. -/
def copiedAt (passes : Node → Bool) : List Nat → Node → Option Node
  | [], node => some node
  | index :: rest, node =>
    if isCopied node && passes node then
      match node.children[index]? with
      | some child => if isErased node.kind child then none else copiedAt passes rest child
      | none => none
    else none

/-- What is handed down from nodes that pass to what is written of them holds of the node at a path. -/
theorem of_copiedAt {holds : Node → Prop} {passes : Node → Bool}
    (step : ∀ {node part : Node}, holds node → passes node = true →
      (.code, part) ∈ writtenParts .code node → holds part)
    {path : List Nat} {node inner : Node} (here : holds node)
    (reaches : copiedAt passes path node = some inner) : holds inner := by
  induction path generalizing node with
  | nil =>
      cases reaches
      exact here
  | cons index rest inductionHypothesis =>
      unfold copiedAt at reaches
      split at reaches
      next both =>
        rw [Bool.and_eq_true] at both
        split at reaches
        next child at' =>
          split at reaches
          next => cases reaches
          next kept =>
            have written := written_of_copied both.1 (List.mem_of_getElem? at') (by simpa using kept)
            exact inductionHypothesis (step here both.2 written) reaches
        next => cases reaches
      next => cases reaches

theorem mem_of_attributeParts {nodes : List Node} {manner : Manner} {part : Node}
    (written : (manner, part) ∈ attributeParts nodes) : part ∈ nodes := by
  match nodes, written with
  | [_], written => simp_all [attributeParts]
  | _ :: _ :: _, written =>
      simp only [attributeParts, List.mem_cons, Prod.mk.injEq, List.not_mem_nil, or_false] at written
      rcases written with ⟨-, rfl⟩ | ⟨-, rfl⟩
      · exact List.mem_cons_self
      · exact List.mem_cons_of_mem _ List.mem_cons_self

theorem mem_of_childPart {nodes : List Node} {manner : Manner} {part : Node}
    (written : (manner, part) ∈ nodes.filterMap childPart) : part ∈ nodes := by
  obtain ⟨child, member, same⟩ := List.mem_filterMap.mp written
  unfold childPart at same
  split at same
  next => cases same; exact member
  next =>
    split at same
    next => cases same; exact member
    next => cases same

theorem mem_of_tagParts {tag : Node} {manner : Manner} {part : Node}
    (written : (manner, part) ∈ tagParts tag) : part ∈ tag.children := by
  rcases List.mem_append.mp written with name | gives
  · obtain ⟨name, found, same⟩ := Option.map_eq_some_iff.mp (Option.mem_toList.mp name)
    cases same
    exact List.mem_of_find?_eq_some found
  · obtain ⟨child, gives, same⟩ := List.mem_map.mp gives
    cases same
    exact (List.mem_filter.mp gives).1

theorem mem_of_copiedParts {node : Node} {manner : Manner} {part : Node}
    (written : (manner, part) ∈ copiedParts node) :
    manner = .code ∧ part ∈ node.children ∧ isErased node.kind part = false := by
  obtain ⟨child, kept, same⟩ := List.mem_map.mp written
  cases same
  obtain ⟨member, kept⟩ := List.mem_filter.mp kept
  exact ⟨rfl, member, by simpa using kept⟩

/-- What is written of a node is among its children. -/
theorem mem_of_written {manner partManner : Manner} {node part : Node}
    (written : (partManner, part) ∈ writtenParts manner node) : part ∈ node.children := by
  cases manner with
  | code =>
      simp only [writtenParts] at written
      split at written
      next =>
        obtain ⟨inner, found, same⟩ := Option.map_eq_some_iff.mp (Option.mem_toList.mp written)
        cases same
        exact List.mem_of_find?_eq_some found
      next =>
        split at written
        next => cases written
        next =>
          split at written
          next =>
            unfold elementParts at written
            split at written
            next => exact mem_of_tagParts written
            next => exact List.mem_of_mem_drop (List.mem_of_mem_take (mem_of_childPart written))
            next =>
              split at written
              next opening _ first _ =>
                rcases List.mem_cons.mp written with same | below
                · cases same
                  exact List.mem_of_head? first
                · exact List.mem_of_mem_drop
                    ((List.dropLast_sublist _).subset (mem_of_childPart below))
              next => exact (mem_of_copiedParts written).2.1
          next => exact (mem_of_copiedParts written).2.1
  | entry =>
      simp only [writtenParts] at written
      split at written
      next =>
        obtain ⟨inner, found, same⟩ := Option.map_eq_some_iff.mp (Option.mem_toList.mp written)
        cases same
        exact List.mem_of_find?_eq_some found
      next =>
        split at written
        next => exact (List.mem_filter.mp (mem_of_attributeParts written)).1
        next => cases written
  | tag => exact mem_of_tagParts written
  | word =>
      obtain ⟨child, member, same⟩ := List.mem_map.mp written
      cases same
      exact member

/-- What is written belongs to the tree. -/
theorem Emitted.mem_preorder {root : Node} {manner : Manner} {node : Node}
    (emitted : Emitted root manner node) : node ∈ root.preorder := by
  induction emitted with
  | root => exact root.mem_preorder_self
  | part _ written inductionHypothesis =>
      exact Node.mem_preorder_trans inductionHypothesis
        (Node.mem_preorder_of_child (mem_of_written written) (Node.mem_preorder_self _))

/-! ## Where the bytes come from -/

/-- The words that the lowering puts in. -/
def generatedWords : List String :=
  [elementFactory ++ "(", fragmentType, "null", "\x7b", "\x7d", ", ", "(", ")", ": ", ": true"]

/-- The text that stands for a node as such: the stretches of a copied node around its children, the
literals for the text between tags, and words that the lowering puts in. -/
inductive Own (source : ByteArray) (node : Node) : ByteArray → Prop
  | gap {start stop : Nat} (front : node.start ≤ start) (back : stop ≤ node.stop)
      (apart : ∀ child ∈ node.children, stop ≤ child.start ∨ child.stop ≤ start) :
      Own source node (Utf8.slice source start stop)
  | literal {raw : List Char} {text : String} (stands : MarkupText.literal? raw = .ok (some text)) :
      Own source node text.toUTF8
  | word {text : String} (generated : text ∈ generatedWords) : Own source node (ascii text)

/-- A byte string is put together from what stands for a node as such and from one piece for each of
its parts, in order. -/
inductive Assembled (own : ByteArray → Prop) (piece : Manner × Node → ByteArray → Prop) :
    List (Manner × Node) → ByteArray → Prop
  | nil : Assembled own piece [] ByteArray.empty
  | own {bytes rest : ByteArray} {parts : List (Manner × Node)} (stands : own bytes)
      (others : Assembled own piece parts rest) : Assembled own piece parts (bytes ++ rest)
  | part {part : Manner × Node} {bytes rest : ByteArray} {parts : List (Manner × Node)}
      (stands : piece part bytes) (others : Assembled own piece parts rest) :
      Assembled own piece (part :: parts) (bytes ++ rest)

namespace Assembled

variable {own : ByteArray → Prop} {piece : Manner × Node → ByteArray → Prop}
  {part : Manner × Node} {parts others : List (Manner × Node)} {bytes rest : ByteArray}

theorem ofOwn (stands : own bytes) : Assembled own piece [] bytes := by
  rw [← ByteArray.append_empty (b := bytes)]
  exact .own stands .nil

theorem ofPart (stands : piece part bytes) : Assembled own piece [part] bytes := by
  rw [← ByteArray.append_empty (b := bytes)]
  exact .part stands .nil

theorem append (first : Assembled own piece parts bytes) (second : Assembled own piece others rest) :
    Assembled own piece (parts ++ others) (bytes ++ rest) := by
  induction first with
  | nil => rwa [ByteArray.empty_append]
  | own stands _ inductionHypothesis =>
      rw [ByteArray.append_assoc]
      exact .own stands inductionHypothesis
  | part stands _ inductionHypothesis =>
      rw [ByteArray.append_assoc]
      exact .part stands inductionHypothesis

theorem append_own (first : Assembled own piece parts bytes) (stands : own rest) :
    Assembled own piece parts (bytes ++ rest) := by
  rw [← List.append_nil parts]
  exact first.append (ofOwn stands)

/-- The piece of each part stands in the whole. -/
theorem holds (assembled : Assembled own piece parts bytes) (member : part ∈ parts) :
    ∃ inner, piece part inner ∧ Holds bytes inner := by
  induction assembled with
  | nil => cases member
  | own _ _ inductionHypothesis =>
      obtain ⟨inner, stands, holds⟩ := inductionHypothesis member
      exact ⟨inner, stands, holds.append_left _⟩
  | part stands _ inductionHypothesis =>
      rcases List.mem_cons.mp member with rfl | below
      · exact ⟨_, stands, (Holds.refl _).append_right _⟩
      · obtain ⟨inner, stands, holds⟩ := inductionHypothesis below
        exact ⟨inner, stands, holds.append_left _⟩

end Assembled

/-- Some byte strings are made of parts that follow one another. A part may stand for none of them. -/
inductive Listed (own : ByteArray → Prop) (piece : Manner × Node → ByteArray → Prop) :
    List (Manner × Node) → List ByteArray → Prop
  | nil : Listed own piece [] []
  | silent {part : Manner × Node} {parts : List (Manner × Node)} {items : List ByteArray}
      (stands : piece part ByteArray.empty) (others : Listed own piece parts items) :
      Listed own piece (part :: parts) items
  | item {parts others : List (Manner × Node)} {bytes : ByteArray} {items : List ByteArray}
      (assembled : Assembled own piece parts bytes) (rest : Listed own piece others items) :
      Listed own piece (parts ++ others) (bytes :: items)

namespace Listed

variable {own : ByteArray → Prop} {piece : Manner × Node → ByteArray → Prop}
  {parts others : List (Manner × Node)} {items rest : List ByteArray}

theorem append (first : Listed own piece parts items) (second : Listed own piece others rest) :
    Listed own piece (parts ++ others) (items ++ rest) := by
  induction first with
  | nil => exact second
  | silent stands _ inductionHypothesis => exact .silent stands inductionHypothesis
  | item assembled _ inductionHypothesis =>
      rw [List.append_assoc]
      exact .item assembled inductionHypothesis

/-- With separators between them the byte strings make one. -/
theorem join {separator : ByteArray} (separates : own separator) (listed : Listed own piece parts items) :
    Assembled own piece parts (joinBytes separator items) := by
  induction listed with
  | nil => exact .nil
  | silent stands _ inductionHypothesis =>
      rw [← ByteArray.empty_append (b := joinBytes _ _)]
      exact .part stands inductionHypothesis
  | @item parts others bytes items assembled _ inductionHypothesis =>
      cases items with
      | nil =>
          have whole := assembled.append inductionHypothesis
          rwa [joinBytes, ByteArray.append_empty] at whole
      | cons next items =>
          exact (assembled.append_own separates).append inductionHypothesis

end Listed

/-- The text a node covers, as it is written where it stands for a name or a value: as it is, as a
string, as the name of a property, or, when it is a string itself, with its references resolved. -/
inductive WordText (source : ByteArray) (node : Node) : ByteArray → Prop
  | text : WordText source node (node.bytes source)
  | name : WordText source node (Quoted.ascii (node.text source).toList).toUTF8
  | key : WordText source node (ascii (propertyKey (node.text source)))
  | value {text : List Char} (replaced : quotedText source node = .ok text) :
      WordText source node (Quoted.ascii text).toUTF8

/-- The type of the element that a tag makes. -/
def tagType (source : ByteArray) (tag : Node) : ByteArray :=
  match tag.child? .name with
  | some name => elementType source name
  | none => ascii fragmentType

/-- What the lowering makes of a node that is written in some manner. -/
def Becomes (source : ByteArray) (depth : Nat) : Manner × Node → ByteArray → Prop
  | (.code, node), bytes => (render source depth node).code = .ok bytes
  | (.entry, node), bytes => ∃ entry, (render source depth node).entry = .ok entry ∧
      bytes = entry.getD ByteArray.empty
  | (.tag, node), bytes => ∃ given, (render source depth node).properties = .ok given ∧
      bytes = tagType source node ++ ascii ", " ++ given
  | (.word, node), bytes => WordText source node bytes

variable {source : ByteArray} {depth : Nat} {node : Node}

theorem bind_eq_ok {α β : Type} {first : Except LoweringFault α} {next : α → Except LoweringFault β}
    {value : β} (made : first >>= next = .ok value) :
    ∃ item, first = .ok item ∧ next item = .ok value := by
  cases first with
  | error fault => cases made
  | ok item => exact ⟨item, rfl, made⟩

/-! ### Tags -/

/-- The separator that the lowering puts in. -/
theorem Own.comma : Own source node (ascii ", ") := .word (by simp [generatedWords])

theorem listed_tagEntries {nodes : List Node} {entries : List ByteArray}
    (made : tagEntries (nodes.map fun child => ⟨child, render source depth child⟩) = .ok entries) :
    Listed (Own source node) (Becomes source depth)
      ((nodes.filter givesProperties).map fun part => (.entry, part)) entries := by
  induction nodes generalizing entries with
  | nil =>
      cases made
      exact .nil
  | cons first rest inductionHypothesis =>
      rw [List.map_cons, tagEntries] at made
      split at made
      next gives =>
        obtain ⟨entry, own, made⟩ := bind_eq_ok made
        obtain ⟨others, below, made⟩ := bind_eq_ok made
        cases made
        rw [List.filter_cons_of_pos (show givesProperties first = true from gives), List.map_cons]
        cases entry with
        | none => exact .silent ⟨none, own, rfl⟩ (inductionHypothesis below)
        | some code =>
            have piece : Becomes source depth (.entry, first) code := ⟨some code, own, rfl⟩
            exact .item (.ofPart piece) (inductionHypothesis below)
      next silent =>
        rw [List.filter_cons_of_neg (show ¬ givesProperties first = true from silent)]
        exact inductionHypothesis made

theorem assembled_tagProperties {nodes : List Node} {given : ByteArray}
    (made : tagProperties (nodes.map fun child => ⟨child, render source depth child⟩) = .ok given) :
    Assembled (Own source node) (Becomes source depth)
      ((nodes.filter givesProperties).map fun part => (.entry, part)) given := by
  obtain ⟨entries, collected, made⟩ := bind_eq_ok made
  have listed : Assembled (Own source node) (Becomes source depth) _ _ :=
    (listed_tagEntries collected).join .comma
  cases entries with
  | nil =>
      cases made
      rw [← ByteArray.append_empty (b := ascii "null")]
      exact .own (.word (by simp [generatedWords])) listed
  | cons first rest =>
      cases made
      rw [ByteArray.append_assoc]
      exact .own (.word (by simp [generatedWords]))
        (listed.append_own (.word (by simp [generatedWords])))

theorem spelled_elementType (name : Node) : WordText source name (elementType source name) := by
  have either (quoted : Bool) : WordText source name
      (if quoted = true then (Quoted.ascii (name.text source).toList).toUTF8
        else name.bytes source) := by
    cases quoted with
    | true => exact .name
    | false => exact .text
  exact either _

/-- A tag becomes the type it stands for and the properties it gives. -/
theorem assembled_tag {tag : Node} {given : ByteArray}
    (made : tagProperties (tag.children.map fun child => ⟨child, render source depth child⟩) =
      .ok given) :
    Assembled (Own source node) (Becomes source depth) (tagParts tag)
      (tagType source tag ++ ascii ", " ++ given) := by
  refine Assembled.append ?_ (assembled_tagProperties made)
  refine Assembled.append_own ?_ .comma
  unfold tagType
  cases tag.child? .name with
  | none => exact .ofOwn (.word (by simp [generatedWords]))
  | some name =>
      have piece : Becomes source depth (.word, name) (elementType source name) :=
        spelled_elementType name
      exact .ofPart piece

/-! ### Elements -/

theorem listed_gapLiteral {start stop : Nat} {items : List ByteArray}
    {piece : Manner × Node → ByteArray → Prop} (made : gapLiteral source start stop = .ok items) :
    Listed (Own source node) piece [] items := by
  unfold gapLiteral at made
  split at made
  next literal stands =>
    cases made
    exact .item (.ofOwn (.literal stands)) .nil
  next =>
    cases made
    exact .nil
  next => cases made

theorem listed_elementChildren {stop cursor : Nat} {nodes : List Node} {items : List ByteArray}
    (made : elementChildren source stop cursor
      (nodes.map fun child => ⟨child, render source depth child⟩) = .ok items) :
    Listed (Own source node) (Becomes source depth) (nodes.filterMap childPart) items := by
  induction nodes generalizing cursor items with
  | nil => exact listed_gapLiteral made
  | cons first rest inductionHypothesis =>
      rw [List.map_cons, elementChildren] at made
      rw [List.filterMap_cons]
      split at made
      next element =>
        obtain ⟨literal, text, made⟩ := bind_eq_ok made
        obtain ⟨code, own, made⟩ := bind_eq_ok made
        obtain ⟨tail, below, made⟩ := bind_eq_ok made
        have part : childPart first = some (.code, first) := if_pos element
        rw [part, ← Except.ok.inj made]
        have piece : Becomes source depth (.code, first) code := own
        exact (listed_gapLiteral text).append (.item (.ofPart piece) (inductionHypothesis below))
      next noElement =>
        split at made
        next container =>
          obtain ⟨literal, text, made⟩ := bind_eq_ok made
          obtain ⟨entry, own, made⟩ := bind_eq_ok made
          obtain ⟨tail, below, made⟩ := bind_eq_ok made
          have part : childPart first = some (.entry, first) := by
            rw [childPart, if_neg noElement, if_pos container]
          rw [part, ← Except.ok.inj made, List.append_assoc]
          refine (listed_gapLiteral text).append ?_
          cases entry with
          | none => exact .silent ⟨none, own, rfl⟩ (inductionHypothesis below)
          | some code =>
              have piece : Becomes source depth (.entry, first) code := ⟨some code, own, rfl⟩
              exact .item (.ofPart piece) (inductionHypothesis below)
        next noContainer =>
          have part : childPart first = none := by
            rw [childPart, if_neg noElement, if_neg noContainer]
          rw [part]
          exact inductionHypothesis made

/-- A call that makes an element holds what its tag gives and what its children become. -/
theorem assembled_elementCall {piece : Manner × Node → ByteArray → Prop}
    {front back : List (Manner × Node)} {type given : ByteArray} {items : List ByteArray}
    (tag : Assembled (Own source node) piece front (type ++ ascii ", " ++ given))
    (children : Listed (Own source node) piece back items) :
    Assembled (Own source node) piece (front ++ back) (elementCall type given items) := by
  have same : joinBytes (ascii ", ") (type :: given :: items) =
      joinBytes (ascii ", ") ((type ++ ascii ", " ++ given) :: items) := by
    cases items with
    | nil => rfl
    | cons first rest => simp only [joinBytes, ByteArray.append_assoc]
  rw [elementCall, same, ByteArray.append_assoc]
  exact .own (.word (by simp [generatedWords]))
    (((Listed.item tag children).join .comma).append_own (.word (by simp [generatedWords])))

/-- An element or a fragment becomes a call. -/
theorem assembled_element {output : ByteArray} (element : isElement node.kind = true)
    (copies : ∀ {bytes : ByteArray}, copy source node
        (node.children.map fun child => ⟨child, render source depth child⟩) = .ok bytes →
      Assembled (Own source node) (Becomes source depth) (copiedParts node) bytes)
    (made : elementCode source node
      (node.children.map fun child => ⟨child, render source depth child⟩) = .ok output) :
    Assembled (Own source node) (Becomes source depth) (elementParts node) output := by
  unfold elementCode at made
  split at made
  next kind =>
    obtain ⟨given, gives, made⟩ := bind_eq_ok made
    rw [← Except.ok.inj made, elementParts, kind, ← List.append_nil (tagParts node)]
    exact assembled_elementCall (assembled_tag gives) .nil
  next kind =>
    obtain ⟨inner, below, made⟩ := bind_eq_ok made
    rw [← Except.ok.inj made, elementParts, kind]
    rw [← List.map_drop, List.length_map, ← List.map_take] at below
    have tag : Assembled (Own source node) (Becomes source depth) []
        (ascii fragmentType ++ ascii ", " ++ ascii "null") :=
      (((Assembled.ofOwn (.word (by simp [generatedWords]))).append_own .comma).append_own
        (.word (by simp [generatedWords])))
    exact assembled_elementCall tag (listed_elementChildren below)
  next noClosed noFragment =>
    have kind : node.kind = .jsxElement := by
      simp only [isElement, Bool.or_eq_true, beq_iff_eq] at element
      rcases element with (kind | kind) | kind
      · exact kind
      · exact absurd kind noClosed
      · exact absurd kind noFragment
    rw [elementParts, kind]
    cases parts : node.children with
    | nil =>
        rw [parts] at made
        have bytes := copies (by rw [parts]; exact made)
        rwa [copiedParts, parts] at bytes ⊢
    | cons opening rest =>
        obtain ⟨closing, last⟩ : ∃ closing, (opening :: rest).getLast? = some closing :=
          ⟨_, List.getLast?_eq_some_getLast (List.cons_ne_nil opening rest)⟩
        rw [parts, List.getLast?_map, last] at made
        simp only [List.map_cons, List.head?_cons, Option.map_some, last] at made ⊢
        obtain ⟨inner, below, made⟩ := bind_eq_ok made
        obtain ⟨given, gives, made⟩ := bind_eq_ok made
        rw [← Except.ok.inj made]
        have tag : Becomes source depth (.tag, opening)
            (tagType source opening ++ ascii ", " ++ given) := ⟨given, gives, rfl⟩
        rw [List.drop_one, List.tail_cons, ← List.map_dropLast] at below
        exact assembled_elementCall (.ofPart tag) (listed_elementChildren below)

/-! ### Containers and attributes -/

/-- The first visible one of some rendered nodes. -/
theorem find?_visible (nodes : List Node) :
    (nodes.map fun child => (⟨child, render source depth child⟩ : Rendered)).find?
        (fun child => child.node.named && child.node.kind != .comment) =
      (nodes.find? isVisiblePart).map fun child => ⟨child, render source depth child⟩ :=
  List.find?_map

/-- A container becomes the first thing to see in it. -/
theorem assembled_containerEntry {nodes : List Node} {entry : Option ByteArray}
    (made : containerEntry (nodes.map fun child => ⟨child, render source depth child⟩) =
      .ok entry) :
    Assembled (Own source node) (Becomes source depth)
      ((nodes.find? isVisiblePart).map fun part => (Manner.code, part)).toList
      (entry.getD ByteArray.empty) := by
  unfold containerEntry at made
  rw [find?_visible] at made
  cases first : nodes.find? isVisiblePart with
  | none =>
      rw [first] at made
      rw [← Except.ok.inj made]
      exact .nil
  | some inner =>
      rw [first] at made
      obtain ⟨code, own, made⟩ := bind_eq_ok made
      have piece : Becomes source depth (.code, inner) code := own
      split at made
      next =>
        rw [← Except.ok.inj made, Option.getD_some, ByteArray.append_assoc]
        exact .own (.word (by simp [generatedWords]))
          ((Assembled.ofPart piece).append_own (.word (by simp [generatedWords])))
      next =>
        rw [← Except.ok.inj made]
        exact .ofPart piece

/-- An attribute becomes its name and its value. -/
theorem assembled_attributeEntry {nodes : List Node} {entry : Option ByteArray}
    (made : attributeEntry source (nodes.map fun child => ⟨child, render source depth child⟩) =
      .ok entry) :
    Assembled (Own source node) (Becomes source depth)
      (attributeParts (nodes.filter isVisiblePart)) (entry.getD ByteArray.empty) := by
  have visible : (nodes.map fun child => (⟨child, render source depth child⟩ : Rendered)).filter
        (fun child => child.node.named && child.node.kind != .comment) =
      (nodes.filter isVisiblePart).map fun child => ⟨child, render source depth child⟩ :=
    List.filter_map
  have key (name : Node) (after : String) (generated : after ∈ generatedWords) :
      Assembled (Own source node) (Becomes source depth) [(.word, name)]
        (ascii (propertyKey (name.text source) ++ after)) := by
    have piece : Becomes source depth (.word, name) (ascii (propertyKey (name.text source))) :=
      WordText.key
    rw [show ascii (propertyKey (name.text source) ++ after) =
      ascii (propertyKey (name.text source)) ++ ascii after from String.toByteArray_append]
    exact (Assembled.ofPart piece).append_own (.word generated)
  unfold attributeEntry at made
  rw [visible] at made
  match parts : nodes.filter isVisiblePart with
  | [] =>
      rw [parts] at made
      rw [← Except.ok.inj made]
      exact .nil
  | [name] =>
      rw [parts] at made
      rw [← Except.ok.inj made]
      exact key name ": true" (by simp [generatedWords])
  | name :: value :: _ =>
      rw [parts] at made
      simp only [List.map_cons] at made
      have front := key name ": " (by simp [generatedWords])
      rw [attributeParts, valueManner]
      split at made
      next text =>
        rw [if_pos text]
        obtain ⟨inside, replaced, made⟩ := bind_eq_ok made
        rw [← Except.ok.inj made]
        have piece : Becomes source depth (.word, value) (Quoted.ascii inside).toUTF8 :=
          WordText.value replaced
        exact front.append (.ofPart piece)
      next noText =>
        rw [if_neg noText]
        split at made
        next container =>
          rw [if_pos container]
          obtain ⟨inner, own, made⟩ := bind_eq_ok made
          cases inner with
          | none => cases made
          | some code =>
              rw [← Except.ok.inj made]
              have piece : Becomes source depth (.entry, value) code := ⟨some code, own, rfl⟩
              exact front.append (.ofPart piece)
        next noContainer =>
          rw [if_neg noContainer]
          obtain ⟨code, own, made⟩ := bind_eq_ok made
          rw [← Except.ok.inj made]
          have piece : Becomes source depth (.code, value) code := own
          exact front.append (.ofPart piece)

/-! ### Copies -/

/-- The rest of a node that is copied, with the children before it in front of the cursor. -/
theorem assembled_copyFrom {cursor : Nat} {passed rest : List Node} {output : ByteArray}
    (children : node.children = passed ++ rest) (front : node.start ≤ cursor)
    (behind : ∀ child ∈ passed, child.stop ≤ cursor) (follows : Node.Follows cursor node.stop rest)
    (made : copyFrom source node cursor
      (rest.map fun child => ⟨child, render source depth child⟩) = .ok output) :
    Assembled (Own source node) (Becomes source depth)
      ((rest.filter (!isErased node.kind ·)).map fun part => (.code, part)) output := by
  induction rest generalizing cursor passed output with
  | nil =>
      rw [← Except.ok.inj made]
      refine .ofOwn (.gap front (Nat.le_refl _) fun child member => Or.inr ?_)
      exact behind child (by rwa [children, List.append_nil] at member)
  | cons first rest inductionHypothesis =>
      obtain ⟨ahead, extent, others⟩ := follows
      rw [List.map_cons, copyFrom_cons] at made
      obtain ⟨code, own, made⟩ := bind_eq_ok made
      obtain ⟨tail, below, made⟩ := bind_eq_ok made
      have gap : Own source node (Utf8.slice source cursor first.start) := by
        refine .gap front (Nat.le_trans extent others.le) fun child member => ?_
        rw [children] at member
        rcases List.mem_append.mp member with before | after
        · exact Or.inr (behind child before)
        · refine Or.inl ?_
          rcases List.mem_cons.mp after with rfl | later
          · exact Nat.le_refl _
          · exact Nat.le_trans extent (others.between later).1
      have next : node.children = (passed ++ [first]) ++ rest := by rw [children, List.append_cons]
      have later := inductionHypothesis next (Nat.le_trans front (Nat.le_trans ahead extent))
        (fun child member => by
          rcases List.mem_append.mp member with before | here
          · exact Nat.le_trans (behind child before) (Nat.le_trans ahead extent)
          · rw [List.mem_singleton.mp here]) others below
      rw [← Except.ok.inj made, ByteArray.append_assoc]
      refine .own gap ?_
      cases erased : isErased node.kind first with
      | true =>
          rw [erased, if_pos rfl] at own
          rw [← Except.ok.inj own, ByteArray.empty_append, List.filter_cons_of_neg (by simp [erased])]
          exact later
      | false =>
          rw [erased, if_neg Bool.false_ne_true] at own
          rw [List.filter_cons_of_pos (by simp [erased]), List.map_cons]
          have piece : Becomes source depth (.code, first) code := own
          exact .part piece later

/-- A node that is copied becomes its text around what becomes of the parts that it keeps. -/
theorem assembled_copy (follows : Node.Follows node.start node.stop node.children)
    {output : ByteArray}
    (made : copy source node
      (node.children.map fun child => ⟨child, render source depth child⟩) = .ok output) :
    Assembled (Own source node) (Becomes source depth) (copiedParts node) output :=
  assembled_copyFrom (List.nil_append _).symm (Nat.le_refl _) (fun _ member => nomatch member)
    follows made

/-! ### Nodes -/

theorem assembled_nodeCode (follows : Node.Follows node.start node.stop node.children)
    {output : ByteArray}
    (made : nodeCode source node
      (node.children.map fun child => ⟨child, render source depth child⟩) = .ok output) :
    Assembled (Own source node) (Becomes source depth) (writtenParts .code node) output := by
  rw [writtenParts]
  split
  next asserted =>
    have inner := code_of_assertion asserted made
    rw [find?_rendered] at inner
    cases first : node.children.find? (·.named) with
    | none =>
        rw [first] at inner
        rw [← Except.ok.inj inner]
        exact .nil
    | some part =>
        rw [first] at inner
        have piece : Becomes source depth (.code, part) output := inner
        exact .ofPart piece
  next plain =>
    split
    next hidden =>
      rw [code_of_typesOnly hidden made]
      exact .nil
    next shown =>
      split
      next element =>
        exact assembled_element element (assembled_copy follows) (elementCode_of_nodeCode element made)
      next noElement =>
        have copied : isCopied node = true := by simp [isCopied, noElement, plain, shown]
        exact assembled_copy follows (copy_of_nodeCode copied made)

/-- What the lowering makes of a node is put together from text of the node's own and from what it
makes of the parts that are written, each once and in order. -/
theorem assembled_of_becomes {manner : Manner} (parted : manner ≠ .word)
    (follows : Node.Follows node.start node.stop node.children) {bytes : ByteArray}
    (becomes : Becomes source depth (manner, node) bytes) :
    ∃ left, depth = left + 1 ∧
      Assembled (Own source node) (Becomes source left) (writtenParts manner node) bytes := by
  cases depth with
  | zero =>
      cases manner with
      | code => cases node; cases becomes
      | entry => obtain ⟨entry, made, rfl⟩ := becomes; cases node; cases made
      | tag => obtain ⟨given, made, rfl⟩ := becomes; cases node; cases made
      | word => exact absurd rfl parted
  | succ depth =>
      refine ⟨depth, rfl, ?_⟩
      cases manner with
      | code =>
          rw [Becomes, render_succ] at becomes
          exact assembled_nodeCode follows becomes
      | entry =>
          obtain ⟨entry, made, rfl⟩ := becomes
          rw [render_succ] at made
          simp only [assemble] at made
          rw [writtenParts]
          split at made
          next container => rw [if_pos container]; exact assembled_containerEntry made
          next noContainer =>
            rw [if_neg noContainer]
            split at made
            next isAttribute => rw [if_pos isAttribute]; exact assembled_attributeEntry made
            next noAttribute =>
              rw [if_neg noAttribute, ← Except.ok.inj made]
              exact .nil
      | tag =>
          obtain ⟨given, made, rfl⟩ := becomes
          rw [render_succ] at made
          exact assembled_tag made
      | word => exact absurd rfl parted

/-! ## All that is written -/

/-- A part of a word is a word, so what is written in another manner has parts of words nowhere above
it. -/
theorem parted_of_written {manner partManner : Manner} {part : Node} (parted : partManner ≠ .word)
    (written : (partManner, part) ∈ writtenParts manner node) : manner ≠ .word := by
  rintro rfl
  obtain ⟨child, _, same⟩ := List.mem_map.mp written
  cases same
  exact parted rfl

/-- All that the lowering of a tree writes, but for words, has become something that stands in what
became of the tree. -/
theorem Emitted.becomes {root : Node} {manner : Manner} (emitted : Emitted root manner node)
    (parted : manner ≠ .word) (placed : ∀ other ∈ root.preorder, WellPlaced other)
    {output : ByteArray} (made : (render source depth root).code = .ok output) :
    ∃ left bytes, Becomes source left (manner, node) bytes ∧ Holds output bytes := by
  induction emitted with
  | root => exact ⟨depth, output, made, Holds.refl output⟩
  | @part manner partManner node part above written inductionHypothesis =>
      have outer := parted_of_written parted written
      obtain ⟨left, bytes, becomes, holds⟩ := inductionHypothesis outer
      obtain ⟨left, rfl, assembled⟩ :=
        assembled_of_becomes outer (placed node above.mem_preorder).follows becomes
      obtain ⟨inner, piece, within⟩ := assembled.holds written
      exact ⟨left, inner, piece, holds.trans within⟩

/-- What becomes code is not refused. -/
theorem refusal?_eq_none {output : ByteArray} (made : (render source depth node).code = .ok output) :
    refusal? source node = none := by
  cases depth with
  | zero => cases node; cases made
  | succ depth =>
      rw [render_succ] at made
      change nodeCode source node _ = .ok output at made
      unfold nodeCode at made
      unfold refusal?
      cases supported : unsupportedConstruct node.kind with
      | some construct => rw [supported] at made; cases made
      | none =>
          rw [supported] at made
          refine if_neg fun refused => ?_
          simp only [isParameter, Bool.and_eq_true, Bool.or_eq_true, beq_iff_eq] at refused
          obtain ⟨kind, modified⟩ := refused
          rcases kind with kind | kind
          all_goals
            simp only [kind, if_pos modified] at made
            cases made

/-- No node that is written as code is refused. -/
theorem Emitted.not_refused {root : Node} (emitted : Emitted root .code node)
    (placed : ∀ other ∈ root.preorder, WellPlaced other) {output : ByteArray}
    (made : (render source depth root).code = .ok output) : ¬ Refused node := by
  obtain ⟨left, bytes, becomes, _⟩ := emitted.becomes (by decide) placed made
  rw [refused_iff source node, refusal?_eq_none becomes]
  exact Bool.false_ne_true

end Lectern.Module
