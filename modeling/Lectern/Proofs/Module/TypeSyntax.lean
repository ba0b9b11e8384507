/-
Module: Lectern.Proofs.Module.TypeSyntax
Purpose: The syntax that only types have, form by form, and which of it the lowering writes into the
  module all the same: the erasure is a table of categories and of tokens under chosen parents, and the
  forms that the table leaves out are copied.
Trusted boundary: none
Main exports: typePhrases, typeParts, TypeOnly, Residue, Grammatical, type_syntax_written_iff,
  type_syntax_survives
-/
import Lectern.Proofs.Module.Bindings
import Lectern.Proofs.Module.Output

namespace Lectern.Module

open Lectern.Syntax Lectern.Text

/-! ## Forms that only types have -/

/-- The phrases that stand in code and belong to types as a whole. -/
def typePhrases : List Kind :=
  [.typeMark, .typePredicateMark, .assertsMark, .typeParameters, .typeArguments,
    .interfaceDeclaration, .typeAliasDeclaration, .ambientDeclaration, .enumDeclaration,
    .namespaceDeclaration, .moduleDeclaration, .functionSignature, .methodSignature,
    .abstractMethodSignature, .indexSignature, .implementsClause, .accessibilityModifier,
    .overrideModifier]

/-- The parts of which types and declarations of types are made. -/
def typeParts : List Kind :=
  [.interfaceBody, .extendsTypeClause, .enumBody, .enumAssignment, .typeParameter, .typeConstraint,
    .defaultType, .typePredicate, .asserts, .predefinedType, .literalType, .unionType,
    .intersectionType, .conditionalType, .functionType, .constructorType, .genericType,
    .nestedTypeIdentifier, .objectType, .arrayType, .tupleType, .parenthesizedType, .readonlyType,
    .inferType, .typeQuery, .indexTypeQuery, .lookupType, .thisType, .existentialType,
    .flowMaybeType, .templateLiteralType, .templateType, .optionalType, .restType,
    .propertySignature, .callSignature, .constructSignature, .mappedTypeClause, .omittingTypeMark,
    .addingTypeMark, .optingTypeMark]

/-- Is this the category of a phrase or a part that only types have? -/
def isTypeSyntax (kind : Kind) : Bool := typePhrases.contains kind || typeParts.contains kind

/-- Is a node one of some tokens? -/
def Token (texts : List String) (node : Node) : Prop :=
  node.named = false ∧ ∃ text ∈ texts, node.kind = .lexeme text

instance (texts : List String) (node : Node) : Decidable (Token texts node) :=
  inferInstanceAs (Decidable (_ ∧ ∃ text ∈ texts, _))

/-- A part of a node is there for types alone. -/
inductive TypeOnly (parent child : Node) : Prop
  /-- Annotations, declarations of types, modifiers and all that types are made of. -/
  | phrase (kind : isTypeSyntax child.kind = true)
  /-- What an assertion has besides the expression it is about. -/
  | assertion (asserts : isAssertion parent.kind = true)
      (other : ∀ inner, parent.children.find? (·.named) = some inner → child ≠ inner)
  /-- The mark of a parameter that can be left out. -/
  | optional (kind : parent.kind = .optionalParameter) (token : Token ["?"] child)
  /-- The mark of a variable that has a value without an initial one. -/
  | definite (kind : parent.kind = .variableDeclarator) (token : Token ["!"] child)
  /-- The marks and modifiers of a member of a class. -/
  | member (kind : parent.kind = .publicFieldDefinition ∨ parent.kind = .methodDefinition)
      (token : Token ["?", "!", "readonly", "declare", "abstract"] child)
  /-- The modifier of a class without instances of its own. -/
  | abstractClass (kind : parent.kind = .abstractClassDeclaration) (token : Token ["abstract"] child)
  /-- A parameter that gives the type of `this`. -/
  | receiver (kind : isParameter parent.kind = true) (word : child.kind = .thisKeyword)
      (role : child.field = some .pattern)
  /-- The modifier of an export of types alone. -/
  | typeExport (kind : parent.kind = .exportStatement) (token : Token ["type"] child)
  /-- The modifier of an import of types alone, or of one name in a list. -/
  | typeName
      (kind : parent.kind = .exportSpecifier ∨ parent.kind = .importSpecifier ∨
        parent.kind = .importStatement)
      (token : Token ["type", "typeof"] child)
  /-- A local name for a member of a namespace, or for a module that is asked for. -/
  | alias (kind : child.kind = .importAlias ∨ child.kind = .importRequireClause)
  /-- The marks of an export of one value as the whole module, and of one for modules without imports. -/
  | moduleExport (kind : parent.kind = .exportStatement)
      (token : Token ["=", "as", "namespace"] child)
  /-- A field that is declared only or has no value here. -/
  | ambientField (kind : parent.kind = .classBody) (field : child.kind = .publicFieldDefinition)
      (marked : ∃ mark ∈ child.children, Token ["declare", "abstract"] mark)

/-- The parts for types that a node which is copied keeps. -/
inductive Residue (parent child : Node) : Prop
  | receiver (kind : isParameter parent.kind = true) (word : child.kind = .thisKeyword)
      (role : child.field = some .pattern)
  | typeName
      (kind : parent.kind = .exportSpecifier ∨ parent.kind = .importSpecifier ∨
        parent.kind = .importStatement)
      (token : Token ["type", "typeof"] child)
  | alias (kind : child.kind = .importAlias ∨ child.kind = .importRequireClause)
  | moduleExport (kind : parent.kind = .exportStatement)
      (token : Token ["=", "as", "namespace"] child)
  | ambientField (kind : parent.kind = .classBody) (field : child.kind = .publicFieldDefinition)
      (marked : ∃ mark ∈ child.children, Token ["declare", "abstract"] mark)
  | method (kind : parent.kind = .methodDefinition)
      (token : Token ["!", "readonly", "declare", "abstract"] child)

/-! ## Trees of the grammar -/

/-- Is this a category that is neither for types nor a local name for what a module holds? -/
def isPlainKind (kind : Kind) : Bool :=
  !isTypeSyntax kind && kind != .importAlias && kind != .importRequireClause

/-- The categories of markup in which no types stand. -/
def isUntypedMarkup (kind : Kind) : Bool :=
  [Kind.jsxElement, .jsxFragment, .jsxExpression, .jsxAttribute].contains kind

/-- Is this the category of a tag with properties? -/
def isTag (kind : Kind) : Bool := kind == .jsxOpeningElement || kind == .jsxSelfClosingElement

/-- The categories of which the words in markup are made. -/
def isWordPart : Kind → Bool
  | .identifier | .propertyIdentifier | .jsxNamespaceName | .memberExpression | .stringLiteral
  | .comment | .lexeme _ => true
  | _ => false

/-- Types stand in a tree where the grammar has places for them. -/
structure Grammatical (root : Node) : Prop where
  program : root.kind = .program
  /-- What types are made of stands in types, or behind the expression of an assertion. -/
  parts : ∀ node ∈ root.preorder, ∀ child ∈ node.children, typeParts.contains child.kind = true →
    isTypeSyntax node.kind = true ∨ isAssertion node.kind = true
  /-- An assertion is about an expression. -/
  operand : ∀ node ∈ root.preorder, isAssertion node.kind = true →
    ∀ inner ∈ node.children.find? (·.named), isPlainKind inner.kind = true
  markup : ∀ node ∈ root.preorder, isUntypedMarkup node.kind = true →
    ∀ child ∈ node.children, isPlainKind child.kind = true
  /-- Only the arguments of a generic component are types in a tag. -/
  tags : ∀ node ∈ root.preorder, isTag node.kind = true → ∀ child ∈ node.children,
    isPlainKind child.kind = true ∨ (child.kind = .typeArguments ∧ child.field ≠ some .name)
  opening : ∀ node ∈ root.preorder, node.kind = .jsxElement →
    ∀ first ∈ node.children.head?, isTag first.kind = true
  /-- The names and strings of markup are words. -/
  words : ∀ node ∈ root.preorder, isUntypedMarkup node.kind = true ∨ isTag node.kind = true →
    ∀ manner ∈ [Manner.code, .entry, .tag], ∀ part ∈ writtenParts manner node,
      part.1 = .word → ∀ inner ∈ part.2.preorder, isWordPart inner.kind = true

instance (root : Node) : Decidable (Grammatical root) :=
  decidable_of_iff
    (root.kind = .program ∧
      (∀ node ∈ root.preorder, ∀ child ∈ node.children, typeParts.contains child.kind = true →
        isTypeSyntax node.kind = true ∨ isAssertion node.kind = true) ∧
      (∀ node ∈ root.preorder, isAssertion node.kind = true →
        ∀ inner ∈ node.children.find? (·.named), isPlainKind inner.kind = true) ∧
      (∀ node ∈ root.preorder, isUntypedMarkup node.kind = true →
        ∀ child ∈ node.children, isPlainKind child.kind = true) ∧
      (∀ node ∈ root.preorder, isTag node.kind = true → ∀ child ∈ node.children,
        isPlainKind child.kind = true ∨ (child.kind = .typeArguments ∧ child.field ≠ some .name)) ∧
      (∀ node ∈ root.preorder, node.kind = .jsxElement →
        ∀ first ∈ node.children.head?, isTag first.kind = true) ∧
      (∀ node ∈ root.preorder, isUntypedMarkup node.kind = true ∨ isTag node.kind = true →
        ∀ manner ∈ [Manner.code, .entry, .tag], ∀ part ∈ writtenParts manner node,
          part.1 = .word → ∀ inner ∈ part.2.preorder, isWordPart inner.kind = true))
    ⟨fun ⟨program, parts, operand, markup, tags, opening, words⟩ =>
        ⟨program, parts, operand, markup, tags, opening, words⟩,
      fun ⟨program, parts, operand, markup, tags, opening, words⟩ =>
        ⟨program, parts, operand, markup, tags, opening, words⟩⟩

/-! ## Tokens and kinds -/

theorem Token.kind_eq {texts : List String} {node : Node} (token : Token texts node) :
    ∃ text ∈ texts, node.kind = .lexeme text := token.2

/-- A token is erased exactly under the parents listed for its text. -/
theorem Token.isErased_iff {texts : List String} {node : Node} (token : Token texts node)
    {parent : Kind} :
    isErased parent node = true ↔
      ∃ text ∈ texts, node.kind = .lexeme text ∧ parent ∈ erasedTokenParents text := by
  obtain ⟨anonymous, text, listed, kind⟩ := token
  have noPhrase : erasedKinds.contains node.kind = false := by
    rw [kind]
    simp [erasedKinds]
  have named : (Kind.lexeme text).name = text := rfl
  rw [isErased, noPhrase, anonymous, kind, named]
  simp only [Bool.not_false, Bool.true_and, Bool.false_or, List.contains_iff_mem,
    Kind.lexeme.injEq]
  constructor
  · intro erased
    exact ⟨text, listed, rfl, erased⟩
  · rintro ⟨_, _, rfl, erased⟩
    exact erased

theorem Token.erased {texts : List String} {node : Node} (token : Token texts node) {parent : Kind}
    (listed : ∀ text ∈ texts, parent ∈ erasedTokenParents text) : isErased parent node = true := by
  obtain ⟨text, member, kind⟩ := token.kind_eq
  exact token.isErased_iff.mpr ⟨text, member, kind, listed text member⟩

theorem Token.kept {texts : List String} {node : Node} (token : Token texts node) {parent : Kind}
    (free : ∀ text ∈ texts, parent ∉ erasedTokenParents text) : isErased parent node = false := by
  rw [← Bool.not_eq_true, token.isErased_iff]
  rintro ⟨text, member, _, erased⟩
  exact free text member erased

theorem typePhrase_cases {kind : Kind} (phrase : typePhrases.contains kind = true) :
    erasedKinds.contains kind = true ∨ (unsupportedConstruct kind).isSome = true := by
  simp only [typePhrases, List.contains_iff_mem, List.mem_cons, List.not_mem_nil, or_false] at phrase
  rcases phrase with rfl | rfl | rfl | rfl | rfl | rfl | rfl | rfl | rfl | rfl | rfl | rfl | rfl |
    rfl | rfl | rfl | rfl | rfl
  all_goals decide

/-- What is left is no type syntax by its category. -/
theorem Residue.not_typeSyntax {parent child : Node} (left : Residue parent child) :
    isTypeSyntax child.kind = false := by
  have ofToken {texts : List String} (token : Token texts child) : isTypeSyntax child.kind = false := by
    obtain ⟨_, text, _, kind⟩ := token
    rw [kind]
    simp [isTypeSyntax, typePhrases, typeParts]
  cases left with
  | receiver _ word => rw [word]; decide
  | typeName _ token => exact ofToken token
  | «alias» kind => rcases kind with kind | kind <;> rw [kind] <;> decide
  | moduleExport _ token => exact ofToken token
  | ambientField _ field => rw [field]; decide
  | method _ token => exact ofToken token

/-- A copied node keeps what is left. -/
theorem Residue.kept {parent child : Node} (left : Residue parent child) :
    isErased parent.kind child = false := by
  cases left with
  | receiver _ word => rw [isErased_of_kind (by rw [word]; rfl), word]; decide
  | typeName _ token => exact token.kept (by simp [erasedTokenParents])
  | «alias» kind =>
      rcases kind with kind | kind
      · rw [isErased_of_kind (by rw [kind]; rfl), kind]; decide
      · rw [isErased_of_kind (by rw [kind]; rfl), kind]; decide
  | moduleExport _ token => exact token.kept (by simp [erasedTokenParents])
  | ambientField _ field => rw [isErased_of_kind (by rw [field]; rfl), field]; decide
  | method kind token => exact token.kept (by rw [kind]; simp [erasedTokenParents])

/-- Is this the category of a node in markup that is written in another way than by copying it? -/
def isRewritten (kind : Kind) : Bool := isUntypedMarkup kind || isTag kind || isWordPart kind

theorem not_assertion_of_rewritten {kind : Kind} (rewritten : isRewritten kind = true) :
    isAssertion kind = false := by
  rw [← Bool.not_eq_true]
  intro asserts
  simp only [isAssertion, Bool.or_eq_true, beq_iff_eq] at asserts
  rcases asserts with (rfl | rfl) | rfl
  all_goals exact absurd rewritten (by decide)

/-- In markup and in assertions, what is there for types is a type, a local name, or what an assertion
has besides its expression. -/
theorem TypeOnly.in_uncopied {parent child : Node} (typeOnly : TypeOnly parent child)
    (uncopied : (isRewritten parent.kind || isAssertion parent.kind) = true) :
    isPlainKind child.kind = false ∨ (isAssertion parent.kind = true ∧
      ∀ inner, parent.children.find? (·.named) = some inner → child ≠ inner) := by
  have elsewhere {kind : Kind} (same : parent.kind = kind)
      (code : (isRewritten kind || isAssertion kind) = false) :
      isPlainKind child.kind = false ∨ (isAssertion parent.kind = true ∧
        ∀ inner, parent.children.find? (·.named) = some inner → child ≠ inner) := by
    rw [same, code] at uncopied
    cases uncopied
  cases typeOnly with
  | phrase kind => exact Or.inl (by simp [isPlainKind, kind])
  | assertion asserts other => exact Or.inr ⟨asserts, other⟩
  | optional kind _ => exact elsewhere kind (by decide)
  | definite kind _ => exact elsewhere kind (by decide)
  | member kind _ => rcases kind with kind | kind <;> exact elsewhere kind (by decide)
  | abstractClass kind _ => exact elsewhere kind (by decide)
  | receiver kind _ _ =>
      simp only [isParameter, Bool.or_eq_true, beq_iff_eq] at kind
      rcases kind with kind | kind <;> exact elsewhere kind (by decide)
  | typeExport kind _ => exact elsewhere kind (by decide)
  | typeName kind _ => rcases kind with kind | kind | kind <;> exact elsewhere kind (by decide)
  | «alias» kind => exact Or.inl (by rcases kind with kind | kind <;> rw [kind] <;> decide)
  | moduleExport kind _ => exact elsewhere kind (by decide)
  | ambientField kind _ _ => exact elsewhere kind (by decide)

/-- A part for types of a node that is copied is erased or left, or it is a construct that is refused
or a part of a type. -/
theorem TypeOnly.erased_or_left {parent child : Node} (copied : isCopied parent = true)
    (inside : child ∈ parent.children) (typeOnly : TypeOnly parent child) :
    isErased parent.kind child = true ∨ Residue parent child ∨
      (unsupportedConstruct child.kind).isSome = true ∨ typeParts.contains child.kind = true := by
  cases typeOnly with
  | phrase kind =>
      rw [isTypeSyntax, Bool.or_eq_true] at kind
      rcases kind with phrase | part
      · rcases typePhrase_cases phrase with erased | refused
        · exact Or.inl (by rw [isErased, erased, Bool.true_or])
        · exact Or.inr (Or.inr (Or.inl refused))
      · exact Or.inr (Or.inr (Or.inr part))
  | assertion asserts _ => simp [isCopied, asserts] at copied
  | optional kind token => exact Or.inl (token.erased (by rw [kind]; decide))
  | definite kind token => exact Or.inl (token.erased (by rw [kind]; decide))
  | member kind token =>
      rcases kind with kind | kind
      · exact Or.inl (token.erased (by rw [kind]; decide))
      · obtain ⟨anonymous, text, listed, same⟩ := token
        rcases List.mem_cons.mp listed with rfl | others
        · have mark : Token ["?"] child := ⟨anonymous, _, List.mem_singleton_self _, same⟩
          exact Or.inl (mark.erased (by rw [kind]; decide))
        · exact Or.inr (Or.inl (.method kind ⟨anonymous, text, others, same⟩))
  | abstractClass kind token => exact Or.inl (token.erased (by rw [kind]; decide))
  | receiver kind word role => exact Or.inr (Or.inl (.receiver kind word role))
  | typeExport kind token =>
      obtain ⟨anonymous, text, listed, same⟩ := token
      rw [List.mem_singleton.mp listed] at same
      have marked : isTypeOnlyExport parent = true := by
        rw [isTypeOnlyExport, Bool.or_eq_true]
        exact Or.inr (List.any_eq_true.mpr ⟨child, inside, by simp [same, anonymous]⟩)
      simp [isCopied, exportsTypesOnly, kind, marked] at copied
  | typeName kind token => exact Or.inr (Or.inl (.typeName kind token))
  | «alias» kind => exact Or.inr (Or.inl (.alias kind))
  | moduleExport kind token => exact Or.inr (Or.inl (.moduleExport kind token))
  | ambientField kind field marked => exact Or.inr (Or.inl (.ambientField kind field marked))

/-! ## What is written of a part for types -/

variable {source : ByteArray} {root : Node}

theorem mem_copiedParts_iff {parent child : Node} (member : child ∈ parent.children) {manner : Manner} :
    (manner, child) ∈ copiedParts parent ↔ manner = .code ∧ isErased parent.kind child = false := by
  constructor
  · intro written
    obtain ⟨code, _, kept⟩ := mem_of_copiedParts written
    exact ⟨code, kept⟩
  · rintro ⟨rfl, kept⟩
    exact List.mem_map_of_mem (List.mem_filter.mpr ⟨member, by rw [kept]; rfl⟩)

theorem writtenParts_of_copied {parent : Node} (copied : isCopied parent = true) :
    writtenParts .code parent = copiedParts parent := by
  simp only [isCopied, Bool.and_eq_true, Bool.not_eq_true'] at copied
  obtain ⟨⟨plain, runs⟩, shown⟩ := copied
  simp only [writtenParts, runs, shown, plain, Bool.false_eq_true, if_false]

/-- What a tag writes of itself is no part for types. -/
theorem tagParts_plain (grammatical : Grammatical root) {tag part : Node} {manner : Manner}
    (visited : tag ∈ root.preorder) (kind : isTag tag.kind = true)
    (written : (manner, part) ∈ tagParts tag) : isPlainKind part.kind = true := by
  rcases grammatical.tags tag visited kind part (mem_of_tagParts written) with plain | ⟨types, role⟩
  · exact plain
  · rcases List.mem_append.mp written with name | gives
    · obtain ⟨name, found, same⟩ := Option.map_eq_some_iff.mp (Option.mem_toList.mp name)
      cases same
      exact absurd (by simpa using List.find?_some found) role
    · obtain ⟨child, gives, same⟩ := List.mem_map.mp gives
      cases same
      have property := (List.mem_filter.mp gives).2
      simp [givesProperties, types] at property

theorem manner_of_tagParts {tag part : Node} {manner : Manner}
    (written : (manner, part) ∈ tagParts tag) : manner = .word ∨ manner = .entry := by
  rcases List.mem_append.mp written with name | gives
  · obtain ⟨name, _, same⟩ := Option.map_eq_some_iff.mp (Option.mem_toList.mp name)
    cases same
    exact Or.inl rfl
  · obtain ⟨child, _, same⟩ := List.mem_map.mp gives
    cases same
    exact Or.inr rfl

theorem manner_of_childPart {nodes : List Node} {part : Node} {manner : Manner}
    (written : (manner, part) ∈ nodes.filterMap childPart) : manner = .code ∨ manner = .entry := by
  obtain ⟨child, _, same⟩ := List.mem_filterMap.mp written
  unfold childPart at same
  split at same
  next => cases same; exact Or.inl rfl
  next =>
    split at same
    next => cases same; exact Or.inr rfl
    next => cases same

theorem not_tag_of_attributeParts {nodes : List Node} {part : Node} :
    (Manner.tag, part) ∉ attributeParts nodes := by
  match nodes with
  | [] => exact List.not_mem_nil
  | [name] => simp [attributeParts]
  | name :: value :: _ =>
      have other : valueManner value ≠ .tag := by
        unfold valueManner
        split
        next => decide
        next => split <;> decide
      simp [attributeParts, other.symm]

/-- Only the first part of an element is written as a tag. -/
theorem opening_of_written {manner : Manner} {node part : Node}
    (written : (Manner.tag, part) ∈ writtenParts manner node) :
    node.kind = .jsxElement ∧ node.children.head? = some part := by
  cases manner with
  | code =>
      simp only [writtenParts] at written
      split at written
      next => simp [Option.mem_toList] at written
      next =>
        split at written
        next => cases written
        next =>
          split at written
          next element =>
            unfold elementParts at written
            split at written
            next => rcases manner_of_tagParts written with same | same <;> cases same
            next => rcases manner_of_childPart written with same | same <;> cases same
            next noClosed noFragment =>
              split at written
              next opening _ first _ =>
                rcases List.mem_cons.mp written with same | below
                · cases same
                  refine ⟨?_, first⟩
                  simp only [isElement, Bool.or_eq_true, beq_iff_eq] at element
                  rcases element with (kind | kind) | kind
                  · exact kind
                  · exact absurd kind noClosed
                  · exact absurd kind noFragment
                · rcases manner_of_childPart below with same | same <;> cases same
              next => cases (mem_of_copiedParts written).1
          next => cases (mem_of_copiedParts written).1
  | entry =>
      simp only [writtenParts] at written
      split at written
      next => simp [Option.mem_toList] at written
      next =>
        split at written
        next => exact absurd written not_tag_of_attributeParts
        next => cases written
  | tag => rcases manner_of_tagParts written with same | same <;> cases same
  | word =>
      obtain ⟨child, _, same⟩ := List.mem_map.mp written
      cases same

theorem isTag_of_emitted (grammatical : Grammatical root) {node : Node}
    (emitted : Emitted root .tag node) : isTag node.kind = true := by
  generalize manner_eq : Manner.tag = manner at emitted
  cases emitted with
  | root => cases manner_eq
  | part above written =>
      subst manner_eq
      obtain ⟨kind, first⟩ := opening_of_written written
      exact grammatical.opening _ above.mem_preorder kind _ first

/-- What has words is markup. -/
theorem markup_of_word (grammatical : Grammatical root) {manner : Manner} {node part : Node}
    (emitted : Emitted root manner node) (parted : manner ≠ .word)
    (written : (Manner.word, part) ∈ writtenParts manner node) :
    isUntypedMarkup node.kind = true ∨ isTag node.kind = true := by
  cases manner with
  | code =>
      simp only [writtenParts] at written
      split at written
      next => simp [Option.mem_toList] at written
      next =>
        split at written
        next => cases written
        next =>
          split at written
          next element =>
            simp only [isElement, Bool.or_eq_true, beq_iff_eq] at element
            rcases element with (kind | kind) | kind
            · exact Or.inl (by rw [kind]; decide)
            · exact Or.inr (by rw [kind]; decide)
            · exact Or.inl (by rw [kind]; decide)
          next => cases (mem_of_copiedParts written).1
  | entry =>
      simp only [writtenParts] at written
      split at written
      next => simp [Option.mem_toList] at written
      next =>
        split at written
        next kind => exact Or.inl (by rw [beq_iff_eq.mp kind]; decide)
        next => cases written
  | tag => exact Or.inr (isTag_of_emitted grammatical emitted)
  | word => exact absurd rfl parted

theorem plain_of_wordPart {kind : Kind} (word : isWordPart kind = true) : isPlainKind kind = true := by
  unfold isWordPart at word
  split at word
  next => decide
  next => decide
  next => decide
  next => decide
  next => decide
  next => decide
  next => simp [isPlainKind, isTypeSyntax, typePhrases, typeParts]
  next => cases word

/-- A word has words below it alone. -/
theorem isWordPart_of_emitted (grammatical : Grammatical root) {node : Node}
    (emitted : Emitted root .word node) : ∀ inner ∈ node.preorder, isWordPart inner.kind = true := by
  generalize manner_eq : Manner.word = manner at emitted
  induction emitted with
  | root => cases manner_eq
  | @part manner partManner node part above written inductionHypothesis =>
      subst manner_eq
      by_cases parted : manner = .word
      · exact fun inner below => inductionHypothesis parted.symm inner
          (Node.mem_preorder_of_child (mem_of_written written) below)
      · refine grammatical.words node above.mem_preorder (markup_of_word grammatical above parted written)
          manner ?_ (.word, part) written rfl
        cases manner with
        | word => exact absurd rfl parted
        | code => decide
        | entry => decide
        | tag => decide

/-- What is written of a node that is not copied is the expression of an assertion, or no part for
types that stands in markup. -/
theorem written_uncopied (grammatical : Grammatical root) {manner partManner : Manner}
    {node part : Node} (emitted : Emitted root manner node)
    (written : (partManner, part) ∈ writtenParts manner node)
    (uncopied : ¬ (manner = .code ∧ isCopied node = true)) :
    isPlainKind part.kind = true ∧
      (isRewritten node.kind = true ∨
        (isAssertion node.kind = true ∧ node.children.find? (·.named) = some part)) := by
  have visited := emitted.mem_preorder
  have inside := mem_of_written written
  have inMarkup (markup : isUntypedMarkup node.kind = true) :
      isPlainKind part.kind = true ∧
        (isRewritten node.kind = true ∨
        (isAssertion node.kind = true ∧ node.children.find? (·.named) = some part)) :=
    ⟨grammatical.markup node visited markup part inside, Or.inl (by simp [isRewritten, markup])⟩
  have inTag (tag : isTag node.kind = true) (written : (partManner, part) ∈ tagParts node) :
      isPlainKind part.kind = true ∧
        (isRewritten node.kind = true ∨
        (isAssertion node.kind = true ∧ node.children.find? (·.named) = some part)) :=
    ⟨tagParts_plain grammatical visited tag written, Or.inl (by simp [isRewritten, tag])⟩
  cases manner with
  | code =>
      simp only [writtenParts] at written
      split at written
      next asserts =>
        obtain ⟨inner, found, same⟩ := Option.map_eq_some_iff.mp (Option.mem_toList.mp written)
        cases same
        exact ⟨grammatical.operand node visited asserts part found, Or.inr ⟨asserts, found⟩⟩
      next runs =>
        split at written
        next => cases written
        next shown =>
          split at written
          next element =>
            simp only [isElement, Bool.or_eq_true, beq_iff_eq] at element
            rcases element with (kind | kind) | kind
            · exact inMarkup (by rw [kind]; decide)
            · rw [elementParts, kind] at written
              exact inTag (by rw [kind]; decide) written
            · exact inMarkup (by rw [kind]; decide)
          next plain => exact absurd ⟨rfl, by simp [isCopied, runs, shown, plain]⟩ uncopied
  | entry =>
      simp only [writtenParts] at written
      split at written
      next kind => exact inMarkup (by rw [beq_iff_eq.mp kind]; decide)
      next =>
        split at written
        next kind => exact inMarkup (by rw [beq_iff_eq.mp kind]; decide)
        next => cases written
  | tag => exact inTag (isTag_of_emitted grammatical emitted) written
  | word =>
      have words := isWordPart_of_emitted grammatical emitted
      have word := words part (Node.mem_preorder_of_child inside (Node.mem_preorder_self part))
      exact ⟨plain_of_wordPart word,
        Or.inl (by simp [isRewritten, words node (Node.mem_preorder_self node)])⟩

/-- What is there for types is written where it is left of a node that is copied. -/
theorem written_iff_left (grammatical : Grammatical root)
    (placed : ∀ node ∈ root.preorder, WellPlaced node) {depth : Nat} {output : ByteArray}
    (made : (render source depth root).code = .ok output) {manner : Manner} {parent child : Node}
    (emitted : Emitted root manner parent) (code : isTypeSyntax parent.kind = false)
    (member : child ∈ parent.children) (typeOnly : TypeOnly parent child) :
    (∃ partManner, (partManner, child) ∈ writtenParts manner parent) ↔
      manner = .code ∧ isCopied parent = true ∧ Residue parent child := by
  by_cases copies : manner = .code ∧ isCopied parent = true
  · obtain ⟨rfl, copied⟩ := copies
    rw [writtenParts_of_copied copied]
    simp only [mem_copiedParts_iff member, exists_eq_left, copied, true_and]
    constructor
    · intro kept
      rcases typeOnly.erased_or_left copied member with erased | left | refused | part
      · rw [kept] at erased
        cases erased
      · exact left
      · have written := written_of_copied copied member kept
        exact absurd (Or.inl refused) ((Emitted.part emitted written).not_refused placed made)
      · simp only [isCopied, Bool.and_eq_true, Bool.not_eq_true'] at copied
        rcases grammatical.parts parent emitted.mem_preorder child member part with types | asserts
        · rw [code] at types
          cases types
        · rw [copied.1.2] at asserts
          cases asserts
    · exact fun left => left.kept
  · constructor
    · rintro ⟨partManner, written⟩
      obtain ⟨plain, place⟩ := written_uncopied grammatical emitted written copies
      have uncopied : (isRewritten parent.kind || isAssertion parent.kind) = true := by
        rcases place with rewritten | ⟨asserts, _⟩
        · rw [rewritten, Bool.true_or]
        · rw [asserts, Bool.or_true]
      rcases typeOnly.in_uncopied uncopied with foreign | ⟨asserts, other⟩
      · rw [plain] at foreign
        cases foreign
      · rcases place with rewritten | ⟨_, found⟩
        · rw [not_assertion_of_rewritten rewritten] at asserts
          cases asserts
        · exact absurd rfl (other child found)
    · rintro ⟨rfl, copied, _⟩
      exact absurd ⟨rfl, copied⟩ copies

/-- Nothing that is written is a phrase or a part that only types have. -/
theorem not_typeSyntax_of_emitted (grammatical : Grammatical root)
    (placed : ∀ node ∈ root.preorder, WellPlaced node) {depth : Nat} {output : ByteArray}
    (made : (render source depth root).code = .ok output) {manner : Manner} {node : Node}
    (emitted : Emitted root manner node) : isTypeSyntax node.kind = false := by
  induction emitted with
  | root => rw [grammatical.program]; decide
  | part above written inductionHypothesis =>
      rw [← Bool.not_eq_true]
      intro types
      have left := ((written_iff_left grammatical placed made above inductionHypothesis
        (mem_of_written written) (.phrase types)).mp ⟨_, written⟩).2.2
      rw [left.not_typeSyntax] at types
      cases types

/-- Over a tree of the grammar that the lowering does not refuse, what it makes is put together from
what becomes of nodes that it writes, markup included, and each of these from text of its own and from
what becomes of its written parts. None of them is of a category that only types have, and of all
other parts that are there for types exactly these are written: the parts of copied nodes that give
the type of `this`, mark a name or an import as a type, name a member of a namespace or a module that
is asked for, export a value as the whole module or for modules without imports, are fields without
values, or are modifiers of a method. -/
theorem type_syntax_written_iff {output : ByteArray} (wellFormed : WellFormed source root)
    (grammatical : Grammatical root) (lowered : lowerTree source root = .ok output) :
    (∃ body, Becomes source maxDepth (.code, root) body ∧
      output = Utf8.slice source 0 root.start ++ body ++
        Utf8.slice source root.stop source.size) ∧
    (∀ manner node, Emitted root manner node → manner ≠ .word →
      ∃ depth bytes, Becomes source (depth + 1) (manner, node) bytes ∧ Holds output bytes ∧
        Assembled (Own source node) (Becomes source depth) (writtenParts manner node) bytes) ∧
    (∀ manner node, Emitted root manner node → isTypeSyntax node.kind = false) ∧
    ∀ manner parent, Emitted root manner parent → ∀ child ∈ parent.children,
      TypeOnly parent child →
        ((∃ partManner, (partManner, child) ∈ writtenParts manner parent) ↔
          manner = .code ∧ isCopied parent = true ∧ Residue parent child) := by
  have placed := wellFormed.placed
  obtain ⟨body, made, whole⟩ := bind_eq_ok lowered
  have output_eq := (Except.ok.inj whole).symm
  refine ⟨⟨body, made, output_eq⟩, ?_, ?_, ?_⟩
  · intro manner node emitted parted
    obtain ⟨depth, bytes, becomes, holds⟩ := emitted.becomes parted placed made
    obtain ⟨left, rfl, assembled⟩ := assembled_of_becomes parted
      (placed node emitted.mem_preorder).follows becomes
    refine ⟨left, bytes, becomes, ?_, assembled⟩
    rw [output_eq]
    exact (holds.append_left _).append_right _
  · exact fun manner node emitted => not_typeSyntax_of_emitted grammatical placed made emitted
  · intro manner parent emitted child member typeOnly
    exact written_iff_left grammatical placed made emitted
      (not_typeSyntax_of_emitted grammatical placed made emitted) member typeOnly

/-- A function with a parameter that gives the type of `this`. -/
private def withReceiver : String := "function f(this: T) \x7b\x7d"

/-- Is the copied node at a path a parameter that begins with the receiver? -/
private def holdsReceiver (path : List Nat) (root : Node) : Bool :=
  match copiedAt (fun _ => true) path root with
  | some parameter =>
    isCopied parameter && isParameter parameter.kind &&
      match parameter.children with
      | first :: _ => first.kind == .thisKeyword && first.field == some .pattern
      | [] => false
  | none => false

private theorem of_holdsReceiver {path : List Nat} (holds : holdsReceiver path root = true) :
    ∃ parent child, Emitted root .code parent ∧ isCopied parent = true ∧ child ∈ parent.children ∧
      TypeOnly parent child ∧ Residue parent child := by
  unfold holdsReceiver at holds
  split at holds
  next parameter reaches =>
    rw [Bool.and_eq_true, Bool.and_eq_true] at holds
    obtain ⟨⟨copied, kind⟩, begins⟩ := holds
    split at begins
    next first rest children =>
      rw [Bool.and_eq_true, beq_iff_eq, beq_iff_eq] at begins
      have emitted : Emitted root .code parameter :=
        of_copiedAt (fun emitted _ => .part emitted) .root reaches
      exact ⟨parameter, first, emitted, copied, by rw [children]; exact List.mem_cons_self,
        .receiver kind begins.1 begins.2, .receiver kind begins.1 begins.2⟩
    next => cases begins
  next => cases holds

private theorem withReceiver_read :
    ∃ root output, parse withReceiver.toUTF8 = .ok root ∧ WellFormed withReceiver.toUTF8 root ∧
      Grammatical root ∧ lowerTree withReceiver.toUTF8 root = .ok output ∧
      holdsReceiver [0, 2, 1] root = true := by
  obtain ⟨root, read, wellFormed, grammatical, lowers, receiver⟩ :=
    @exists_of_parse withReceiver (fun root => WellFormed withReceiver.toUTF8 root ∧
      Grammatical root ∧ (lowerTree withReceiver.toUTF8 root).isOk = true ∧
      holdsReceiver [0, 2, 1] root = true) inferInstance (by decide +kernel)
  cases lowered : lowerTree withReceiver.toUTF8 root with
  | error fault => rw [lowered] at lowers; cases lowers
  | ok output => exact ⟨root, output, read, wellFormed, grammatical, lowered, receiver⟩

/-- The receiver of a function is written. -/
theorem type_syntax_written_receiver :
    ∃ root output, (parse withReceiver.toUTF8 = .ok root ∧ WellFormed withReceiver.toUTF8 root ∧
      Grammatical root ∧ lowerTree withReceiver.toUTF8 root = .ok output) ∧
      ∃ parent child, Emitted root .code parent ∧ TypeOnly parent child ∧
        ∃ manner, (manner, child) ∈ writtenParts .code parent := by
  obtain ⟨root, output, read, wellFormed, grammatical, lowered, receiver⟩ := withReceiver_read
  obtain ⟨parent, child, emitted, copied, member, typeOnly, left⟩ := of_holdsReceiver receiver
  have written := (type_syntax_written_iff wellFormed grammatical lowered).2.2.2
    .code parent emitted child member typeOnly
  exact ⟨root, output, ⟨read, wellFormed, grammatical, lowered⟩, parent, child, emitted, typeOnly,
    written.mpr ⟨rfl, copied, left⟩⟩

/-- What is there for types alone can be written into a module. -/
theorem type_syntax_survives :
    ¬ ∀ (source : ByteArray) (root : Node) (output : ByteArray), WellFormed source root →
      Grammatical root → lowerTree source root = .ok output →
        ∀ manner parent child partManner, Emitted root manner parent → TypeOnly parent child →
          (partManner, child) ∉ writtenParts manner parent := by
  intro erased
  obtain ⟨root, output, read, wellFormed, grammatical, lowered, receiver⟩ := withReceiver_read
  obtain ⟨parent, child, emitted, copied, member, typeOnly, left⟩ := of_holdsReceiver receiver
  exact erased _ root output wellFormed grammatical lowered .code parent child .code emitted typeOnly
    (written_of_copied copied member left.kept)

end Lectern.Module
