/-
Module: Lectern.Proofs.Module.CallForms
Purpose: What the elements of a module are to become, told from the tree: one call for each element
  that the lowering comes to, with the properties that its tag gives and, as arguments, the texts, the
  expressions and the elements between its tags. The relation keeps a list of the elements for which
  a call is made, so that none can be left out or be there twice.
Trusted boundary: none
Main exports: elements, MarkupFormed, pieces, Anatomy, CodeOf, CallOf, EntryOf, PropertiesOf,
  ArgumentsOf, PropertiesOf.length_eq, ArgumentsOf.length_eq, elements_of_counting, InSourceOrder,
  Anatomy.inSourceOrder
-/
import Lectern.Proofs.Module.Output

namespace Lectern.Module

open Lectern.Syntax Lectern.Text

/-! ## Elements and where they can stand -/

/-- The elements and fragments of a tree that are not inside of what is erased, in document order. -/
def elements (root : Node) : List Node := (reached root).filter fun node => isElement node.kind

/-- Is there no element in a tree? -/
def isPlain (root : Node) : Bool := root.preorder.all fun node => !isElement node.kind

/-- Does this stand for itself between the tags of an element, where all else is text? -/
def isNested (node : Node) : Bool := isElement node.kind || node.kind == .jsxExpression

/-- Of the children of a node, only those that count hold elements, and those are not erased. -/
def HoldsElementsIn (counts : Node → Bool) (node : Node) : Prop :=
  ∀ child ∈ node.children, isPlain child = true ∨
    counts child = true ∧ isErased node.kind child = false

instance (counts : Node → Bool) (node : Node) : Decidable (HoldsElementsIn counts node) :=
  inferInstanceAs (Decidable (∀ child ∈ node.children, isPlain child = true ∨
    counts child = true ∧ isErased node.kind child = false))

/-- The parts of markup are where the grammar puts them. -/
structure MarkupFormed (node : Node) : Prop where
  /-- A container holds one expression or only comments. -/
  container : node.kind = .jsxExpression → (node.children.filter isVisiblePart).length ≤ 1 ∧
    HoldsElementsIn isVisiblePart node
  /-- An attribute is a name and at most one value. -/
  pair : node.kind = .jsxAttribute →
    ((node.children.filter isVisiblePart).length = 1 ∨
      (node.children.filter isVisiblePart).length = 2) ∧
    HoldsElementsIn isVisiblePart node ∧
    (∀ name ∈ (node.children.filter isVisiblePart).head?, isPlain name = true) ∧
    ∀ child ∈ node.children, child.kind = .stringLiteral → isPlain child = true
  /-- A tag holds elements in its attributes and spreads alone. -/
  tag : node.kind = .jsxOpeningElement ∨ node.kind = .jsxSelfClosingElement →
    HoldsElementsIn givesProperties node
  /-- An element stands between an opening and a closing tag. -/
  element : node.kind = .jsxElement → 2 ≤ node.children.length ∧
    (∀ opening ∈ node.children.head?, opening.kind = .jsxOpeningElement) ∧
    (∀ closing ∈ node.children.getLast?, isPlain closing = true) ∧
    ∀ child ∈ node.children.drop 1, isPlain child = true ∨ isNested child = true
  /-- A fragment stands between two tokens and three. -/
  fragment : node.kind = .jsxFragment → 5 ≤ node.children.length ∧
    (∀ token ∈ node.children.take 2, isPlain token = true) ∧
    (∀ token ∈ node.children.drop (node.children.length - 3), isPlain token = true) ∧
    ∀ child ∈ node.children, isPlain child = true ∨ isNested child = true

instance (node : Node) : Decidable (MarkupFormed node) :=
  decidable_of_iff (_ ∧ _ ∧ _ ∧ _ ∧ _)
    ⟨fun parts => ⟨parts.1, parts.2.1, parts.2.2.1, parts.2.2.2.1, parts.2.2.2.2⟩,
      fun formed =>
        ⟨formed.container, formed.pair, formed.tag, formed.element, formed.fragment⟩⟩

/-! ## What a call is made from -/

/-- A piece of what stands between the tags of an element. -/
inductive Item where
  /-- The text between two offsets. -/
  | gap (start stop : Nat)
  /-- A nested element or a container. -/
  | nested (node : Node)

namespace Item

def start : Item → Nat
  | gap start _ => start
  | nested node => node.start

def stop : Item → Nat
  | gap _ stop => stop
  | nested node => node.stop

end Item

/-- What stands up to an offset, piece by piece: some nodes and the text around them. -/
def pieces (stop : Nat) : Nat → List Node → List Item
  | cursor, [] => [.gap cursor stop]
  | cursor, node :: rest => .gap cursor node.start :: .nested node :: pieces stop node.stop rest

/-- What the call for an element is made from: its type, the attributes and spreads of its tag, and
what stands between its tags. -/
inductive Anatomy (source : ByteArray) (node : Node) : ByteArray → List Node → List Item → Prop
  | selfClosing (kind : node.kind = .jsxSelfClosingElement) :
      Anatomy source node (tagType source node) (node.children.filter givesProperties) []
  | element {opening closing : Node} {between : List Node} (kind : node.kind = .jsxElement)
      (children : node.children = opening :: (between ++ [closing])) :
      Anatomy source node (tagType source opening) (opening.children.filter givesProperties)
        (pieces closing.start opening.stop (between.filter isNested))
  | fragment {first opening closing slash last : Node} {between : List Node}
      (kind : node.kind = .jsxFragment)
      (children : node.children = first :: opening :: (between ++ [closing, slash, last])) :
      Anatomy source node (ascii fragmentType) []
        (pieces closing.start opening.stop (between.filter isNested))

/-- Some properties as an object; there is none without properties. -/
def object : List ByteArray → ByteArray
  | [] => ascii "null"
  | entries => ascii "\x7b" ++ joinBytes (ascii ", ") entries ++ ascii "\x7d"

/-- The code of an expression where a comma would end it. -/
def delimited (expression : Node) (code : ByteArray) : ByteArray :=
  if expression.kind == .sequenceExpression then ascii "(" ++ code ++ ascii ")" else code

/-- The name of a property, with what follows it. -/
def keyed (source : ByteArray) (name : Node) (after : String) : ByteArray :=
  ascii (propertyKey (name.text source) ++ after)

/-- The string that a quoted attribute value stands for, as a literal. -/
def valueLiteral (source : ByteArray) (value : Node) : ByteArray :=
  (Quoted.ascii (References.decode ((value.text source).toList.drop 1).dropLast)).toUTF8

/-- The text between two offsets. -/
def textBetween (source : ByteArray) (start stop : Nat) : List Char :=
  (Utf8.read (Utf8.slice source start stop)).toList

/-! ## What a tree becomes -/

mutual

/-- The code of a node, and the elements in it for which a call is made, in order. -/
inductive CodeOf (source : ByteArray) : Node → ByteArray → List Node → Prop
  | copied {node : Node} {bytes : ByteArray} {calls : List Node} (copied : isCopied node = true)
      (parts : RestOf source node node.start node.children bytes calls) :
      CodeOf source node bytes calls
  | asserted {node inner : Node} {bytes : ByteArray} {calls : List Node}
      (asserted : isAssertion node.kind = true)
      (first : node.children.find? (·.named) = some inner) (code : CodeOf source inner bytes calls) :
      CodeOf source node bytes calls
  | typesOnly {node : Node} (hidden : exportsTypesOnly node = true) :
      CodeOf source node ByteArray.empty []
  | element {node : Node} {bytes : ByteArray} {calls : List Node}
      (call : CallOf source node bytes calls) : CodeOf source node bytes calls

/-- The rest of a node that is copied, from an offset on, with its children from there on. -/
inductive RestOf (source : ByteArray) : Node → Nat → List Node → ByteArray → List Node → Prop
  | done {parent : Node} {cursor : Nat} :
      RestOf source parent cursor [] (Utf8.slice source cursor parent.stop) []
  | erased {parent child : Node} {cursor : Nat} {rest : List Node} {bytes : ByteArray}
      {calls : List Node} (gone : isErased parent.kind child = true)
      (others : RestOf source parent child.stop rest bytes calls) :
      RestOf source parent cursor (child :: rest) (Utf8.slice source cursor child.start ++ bytes)
        calls
  | kept {parent child : Node} {cursor : Nat} {rest : List Node} {code bytes : ByteArray}
      {inside calls : List Node} (stays : isErased parent.kind child = false)
      (own : CodeOf source child code inside)
      (others : RestOf source parent child.stop rest bytes calls) :
      RestOf source parent cursor (child :: rest)
        (Utf8.slice source cursor child.start ++ code ++ bytes) (inside ++ calls)

/-- The call for an element: its type, one object with its properties, and one argument for each text,
expression and element between its tags. -/
inductive CallOf (source : ByteArray) : Node → ByteArray → List Node → Prop
  | call {node : Node} {type : ByteArray} {givers : List Node} {items : List Item}
      {entries arguments : List ByteArray} {front back : List Node}
      (anatomy : Anatomy source node type givers items)
      (properties : PropertiesOf source givers entries front)
      (children : ArgumentsOf source items arguments back) :
      CallOf source node (elementCall type (object entries) arguments) (node :: (front ++ back))

/-- The property that an attribute gives, or the expression of a container unless it is empty. -/
inductive EntryOf (source : ByteArray) : Node → Option ByteArray → List Node → Prop
  | empty {container : Node} (kind : container.kind = .jsxExpression)
      (visible : container.children.filter isVisiblePart = []) : EntryOf source container none []
  | expression {container inner : Node} {code : ByteArray} {calls : List Node}
      (kind : container.kind = .jsxExpression)
      (visible : container.children.filter isVisiblePart = [inner])
      (own : CodeOf source inner code calls) :
      EntryOf source container (some (delimited inner code)) calls
  | flag {pair name : Node} (kind : pair.kind = .jsxAttribute)
      (visible : pair.children.filter isVisiblePart = [name]) :
      EntryOf source pair (some (keyed source name ": true")) []
  | text {pair name value : Node} (kind : pair.kind = .jsxAttribute)
      (visible : pair.children.filter isVisiblePart = [name, value])
      (quoted : value.kind = .stringLiteral) :
      EntryOf source pair (some (keyed source name ": " ++ valueLiteral source value)) []
  | braced {pair name value : Node} {code : ByteArray} {calls : List Node}
      (kind : pair.kind = .jsxAttribute)
      (visible : pair.children.filter isVisiblePart = [name, value])
      (container : value.kind = .jsxExpression) (own : EntryOf source value (some code) calls) :
      EntryOf source pair (some (keyed source name ": " ++ code)) calls
  | value {pair name value : Node} {code : ByteArray} {calls : List Node}
      (kind : pair.kind = .jsxAttribute)
      (visible : pair.children.filter isVisiblePart = [name, value])
      (other : value.kind ≠ .stringLiteral ∧ value.kind ≠ .jsxExpression)
      (own : CodeOf source value code calls) :
      EntryOf source pair (some (keyed source name ": " ++ code)) calls

/-- The properties that some attributes and spreads give, one for each that is not empty. -/
inductive PropertiesOf (source : ByteArray) : List Node → List ByteArray → List Node → Prop
  | none : PropertiesOf source [] [] []
  | giver {node : Node} {rest : List Node} {entry : Option ByteArray} {entries : List ByteArray}
      {inside calls : List Node} (gives : EntryOf source node entry inside)
      (others : PropertiesOf source rest entries calls) :
      PropertiesOf source (node :: rest) (entry.toList ++ entries) (inside ++ calls)

/-- The arguments that the pieces between two tags make: a literal for a text unless nothing of it is
kept, the expression of a container unless it is empty, and the call of an element. -/
inductive ArgumentsOf (source : ByteArray) : List Item → List ByteArray → List Node → Prop
  | none : ArgumentsOf source [] [] []
  | literal {start stop : Nat} {text : String} {rest : List Item} {arguments : List ByteArray}
      {calls : List Node} (keeps : MarkupText.literal? (textBetween source start stop) = .ok (some text))
      (others : ArgumentsOf source rest arguments calls) :
      ArgumentsOf source (.gap start stop :: rest) (text.toUTF8 :: arguments) calls
  | silent {start stop : Nat} {rest : List Item} {arguments : List ByteArray} {calls : List Node}
      (drops : MarkupText.literal? (textBetween source start stop) = .ok Option.none)
      (others : ArgumentsOf source rest arguments calls) :
      ArgumentsOf source (.gap start stop :: rest) arguments calls
  | expression {container : Node} {rest : List Item} {entry : Option ByteArray}
      {arguments : List ByteArray} {inside calls : List Node}
      (kind : container.kind = .jsxExpression) (own : EntryOf source container entry inside)
      (others : ArgumentsOf source rest arguments calls) :
      ArgumentsOf source (.nested container :: rest) (entry.toList ++ arguments) (inside ++ calls)
  | element {node : Node} {rest : List Item} {code : ByteArray} {arguments : List ByteArray}
      {inside calls : List Node} (call : CallOf source node code inside)
      (others : ArgumentsOf source rest arguments calls) :
      ArgumentsOf source (.nested node :: rest) (code :: arguments) (inside ++ calls)

end

/-! ## How many there are -/

/-- Is there something to see in a container or an attribute? -/
def isFilled (node : Node) : Bool := !(node.children.filter isVisiblePart).isEmpty

/-- Does a piece of what stands between two tags make an argument? -/
def makesArgument (source : ByteArray) : Item → Bool
  | .gap start stop =>
    match MarkupText.literal? (textBetween source start stop) with
    | .ok literal => literal.isSome
    | .error _ => false
  | .nested node => isElement node.kind || isFilled node

section Count

variable {source : ByteArray} {node : Node} {calls : List Node}

theorem EntryOf.isSome_eq {entry : Option ByteArray} (given : EntryOf source node entry calls) :
    entry.isSome = isFilled node := by
  cases given with
  | empty _ visible => simp [isFilled, visible]
  | expression _ visible => simp [isFilled, visible]
  | flag _ visible => simp [isFilled, visible]
  | text _ visible => simp [isFilled, visible]
  | braced _ visible => simp [isFilled, visible]
  | value _ visible => simp [isFilled, visible]

theorem CallOf.isElement {bytes : ByteArray} (call : CallOf source node bytes calls) :
    isElement node.kind = true := by
  obtain ⟨anatomy, _, _⟩ := call
  cases anatomy with
  | selfClosing kind => simp [Module.isElement, kind]
  | element kind => simp [Module.isElement, kind]
  | fragment kind => simp [Module.isElement, kind]

/-- Each attribute and each spread that is not empty gives one property. -/
theorem PropertiesOf.length_eq {givers : List Node} {entries : List ByteArray}
    (given : PropertiesOf source givers entries calls) :
    entries.length = (givers.filter isFilled).length := by
  induction givers generalizing entries calls with
  | nil => cases given; rfl
  | cons first rest inductionHypothesis =>
      cases given with
      | @giver _ _ entry _ _ _ gives others =>
          have later := inductionHypothesis others
          have filled := gives.isSome_eq
          cases entry with
          | none =>
              rw [List.filter_cons_of_neg (by simp [← filled])]
              exact later
          | some code =>
              rw [List.filter_cons_of_pos (by simp [← filled])]
              simp [later]

/-- Each text of which something is kept, each container that is not empty and each element makes one
argument. -/
theorem ArgumentsOf.length_eq {items : List Item} {arguments : List ByteArray}
    (made : ArgumentsOf source items arguments calls) :
    arguments.length = (items.filter (makesArgument source)).length := by
  induction items generalizing arguments calls with
  | nil => cases made; rfl
  | cons first rest inductionHypothesis =>
      cases made with
      | literal keeps others =>
          rw [List.filter_cons_of_pos (by simp [makesArgument, keeps])]
          exact congrArg (· + 1) (inductionHypothesis others)
      | silent drops others =>
          rw [List.filter_cons_of_neg (by simp [makesArgument, drops])]
          exact inductionHypothesis others
      | @expression container _ entry _ _ _ kind own others =>
          have later := inductionHypothesis others
          have filled := own.isSome_eq
          have noElement : Module.isElement container.kind = false := by
            simp [Module.isElement, kind]
          cases entry with
          | none =>
              rw [List.filter_cons_of_neg (by simp [makesArgument, noElement, ← filled])]
              exact later
          | some code =>
              rw [List.filter_cons_of_pos (by simp [makesArgument, ← filled])]
              simp [later]
      | element call others =>
          rw [List.filter_cons_of_pos (by simp [makesArgument, call.isElement])]
          exact congrArg (· + 1) (inductionHypothesis others)

end Count

/-! ## The elements of a node and of its parts -/

section Elements

variable {node : Node}

theorem elements_of_plain (plain : isPlain node = true) : elements node = [] := by
  apply List.filter_eq_nil_iff.mpr
  intro inner comes
  have free := List.all_eq_true.mp plain inner (mem_preorder_of_reached comes)
  simpa using free

/-- The elements of an assertion are those of its first named part. -/
theorem elements_of_asserted {inner : Node} (asserted : isAssertion node.kind = true)
    (first : node.children.find? (·.named) = some inner) : elements node = elements inner := by
  have noElement : ¬ isElement node.kind = true := by
    simp only [isAssertion, Bool.or_eq_true, beq_iff_eq] at asserted
    rcases asserted with (kind | kind) | kind
    all_goals simp [isElement, kind]
  rw [elements, reached_eq, if_pos asserted, first, List.filter_cons_of_neg (by simpa using noElement)]
  rfl

/-- There are no elements in an export of types alone. -/
theorem elements_of_typesOnly (hidden : exportsTypesOnly node = true) : elements node = [] := by
  have kind : node.kind = .exportStatement := by
    simp only [exportsTypesOnly, Bool.and_eq_true, beq_iff_eq] at hidden
    exact hidden.1
  rw [elements, reached_eq, if_neg (by simp [isAssertion, kind]), if_pos hidden]
  simp [isElement, kind]

/-- The elements of a node that is copied are those of the children that it keeps. -/
theorem elements_of_copied (copied : isCopied node = true) :
    elements node = (node.children.filter (!isErased node.kind ·)).flatMap elements := by
  simp only [isCopied, Bool.and_eq_true, Bool.not_eq_true'] at copied
  obtain ⟨⟨noElement, plain⟩, shown⟩ := copied
  rw [elements, reached_eq, if_neg (by simp [plain]), if_neg (by simp [shown]),
    List.filter_cons_of_neg (by simp [noElement]), List.filter_flatMap]
  rfl

/-- The elements of an element are itself and those of the children that are not erased. -/
theorem elements_of_element (element : isElement node.kind = true) :
    elements node =
      node :: (node.children.filter (!isErased node.kind ·)).flatMap elements := by
  have kinds := element
  simp only [isElement, Bool.or_eq_true, beq_iff_eq] at kinds
  have plain : ¬ isAssertion node.kind = true := by
    rcases kinds with (kind | kind) | kind
    all_goals simp [isAssertion, kind]
  have shown : ¬ exportsTypesOnly node = true := by
    rcases kinds with (kind | kind) | kind
    all_goals simp [exportsTypesOnly, kind]
  rw [elements, reached_eq, if_neg plain, if_neg shown, List.filter_cons_of_pos (by simpa using element),
    List.filter_flatMap]
  rfl

/-- Where only the children that count hold elements, the others need not be looked at. -/
theorem elements_of_counting {counts : Node → Bool} {parent : Kind} {nodes : List Node}
    (holds : ∀ child ∈ nodes, isPlain child = true ∨
      counts child = true ∧ isErased parent child = false) :
    (nodes.filter (!isErased parent ·)).flatMap elements =
      (nodes.filter counts).flatMap elements := by
  induction nodes with
  | nil => rfl
  | cons first rest inductionHypothesis =>
      have others := inductionHypothesis fun child member => holds child (List.mem_cons_of_mem _ member)
      rcases holds first List.mem_cons_self with plain | ⟨counted, stays⟩
      · have nothing := elements_of_plain plain
        rw [List.filter_cons, List.filter_cons]
        split
        all_goals
          split
          all_goals simp [nothing, others]
      · rw [List.filter_cons_of_pos (by simp [stays]), List.filter_cons_of_pos counted,
          List.flatMap_cons, List.flatMap_cons, others]

/-- There are no elements in nodes that are plain. -/
theorem elements_of_all_plain {keeps : Node → Bool} {nodes : List Node}
    (plain : ∀ child ∈ nodes, isPlain child = true) :
    (nodes.filter keeps).flatMap elements = [] := by
  apply List.flatMap_eq_nil_iff.mpr
  intro child member
  exact elements_of_plain (plain child (List.mem_filter.mp member).1)

/-- The parts of markup that can hold elements are never erased. -/
theorem not_erased_of_markup {child : Node} (parent : Kind)
    (kind : child.kind ∈ [Kind.jsxElement, .jsxSelfClosingElement, .jsxFragment, .jsxOpeningElement,
      .jsxAttribute, .jsxExpression]) : isErased parent child = false := by
  simp only [List.mem_cons, List.not_mem_nil, or_false] at kind
  rcases kind with kind | kind | kind | kind | kind | kind
  all_goals
    rw [isErased_of_kind (by rw [kind]; rfl), kind]
    decide

/-- Between two tags, only the nested nodes hold elements. -/
theorem elements_of_between {parent : Kind} {nodes : List Node}
    (content : ∀ child ∈ nodes, isPlain child = true ∨ isNested child = true) :
    (nodes.filter (!isErased parent ·)).flatMap elements =
      (nodes.filter isNested).flatMap elements := by
  apply elements_of_counting
  intro child member
  rcases content child member with plain | nested
  · exact Or.inl plain
  · have kind := nested
    simp only [isNested, isElement, Bool.or_eq_true, beq_iff_eq] at kind
    refine Or.inr ⟨nested, not_erased_of_markup parent ?_⟩
    rcases kind with ((kind | kind) | kind) | kind
    all_goals simp [kind]

end Elements

/-! ## The order of the parts -/

/-- The parts of a call stand in the source as they are listed: attributes and spreads one behind the
other, and of what stands between the tags no byte is passed over or taken twice. -/
structure InSourceOrder (givers : List Node) (items : List Item) : Prop where
  givers : givers.Pairwise fun one other => one.stop ≤ other.start
  extents : ∀ item ∈ items, item.start ≤ item.stop
  items : items.IsChain fun one other => one.stop = other.start

variable {start stop : Nat} {nodes : List Node}

theorem start_of_head?_pieces : ∀ item ∈ (pieces stop start nodes).head?, item.start = start := by
  intro item first
  cases nodes with
  | nil => cases first; rfl
  | cons node rest => cases first; rfl

theorem pieces_extents (follows : Node.Follows start stop nodes) :
    ∀ item ∈ pieces stop start nodes, item.start ≤ item.stop := by
  induction nodes generalizing start with
  | nil =>
      intro item member
      rw [List.mem_singleton.mp member]
      exact follows
  | cons node rest inductionHypothesis =>
      obtain ⟨behind, extent, others⟩ := follows
      intro item member
      rcases List.mem_cons.mp member with rfl | below
      · exact behind
      · rcases List.mem_cons.mp below with rfl | later
        · exact extent
        · exact inductionHypothesis others item later

theorem pieces_contiguous :
    (pieces stop start nodes).IsChain fun one other => one.stop = other.start := by
  induction nodes generalizing start with
  | nil => exact .singleton _
  | cons node rest inductionHypothesis =>
      have next := inductionHypothesis.cons fun item first =>
        show (Item.nested node).stop = item.start from (start_of_head?_pieces item first).symm
      exact .cons_cons rfl next

/-- The parts of the call for an element stand in the source as they are listed. -/
theorem Anatomy.inSourceOrder {source : ByteArray} {root node : Node} {type : ByteArray}
    {givers : List Node} {items : List Item} (formed : WellFormed source root)
    (inside : node ∈ root.preorder) (anatomy : Anatomy source node type givers items) :
    InSourceOrder givers items := by
  have follows := (formed.placed node inside).follows
  cases anatomy with
  | selfClosing kind =>
      exact ⟨(follows.filter givesProperties).pairwise, fun _ member => (nomatch member), .nil⟩
  | @element opening closing between kind children =>
      rw [children] at follows
      have opens : opening ∈ root.preorder :=
        Node.mem_preorder_trans inside (Node.mem_preorder_of_child
          (by rw [children]; exact List.mem_cons_self) opening.mem_preorder_self)
      have attributes := (formed.placed opening opens).follows.filter givesProperties
      have content := follows.2.2.before.filter isNested
      exact ⟨attributes.pairwise, pieces_extents content, pieces_contiguous⟩
  | @fragment first opening closing slash last between kind children =>
      rw [children] at follows
      have content := follows.2.2.2.2.before.filter isNested
      exact ⟨.nil, pieces_extents content, pieces_contiguous⟩

end Lectern.Module
