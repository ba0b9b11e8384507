/-
Module: Lectern.Proofs.Page.Rendering
Purpose: The text of an element tells the whole tree below it. Tags, attributes, texts, shadow trees
  and children are read off one flat text, whatever characters the texts and the values of the
  attributes hold.
Trusted boundary: none
Main exports: Markup.IsName, Tree.Legible, Tree.Legible.told, Page.Unfolds, Page.Unfolds.tree_eq,
  Page.eq_of_render_eq
-/
import Mathlib.Data.List.Perm.Subperm
import Lectern.Page.Tree
import Lectern.Proofs.Page.Forest

namespace Lectern

namespace Markup

/-! ## Names -/

/-- May a character stand in the name of an element or an attribute? -/
def isNameChar (c : Char) : Bool := c.isAlphanum || c == '-'

/-- A name: some letters, digits and hyphens. -/
structure IsName (name : String) : Prop where
  nonempty : name ≠ ""
  made : ∀ c ∈ name.toList, isNameChar c = true

instance (name : String) : Decidable (IsName name) :=
  decidable_of_iff (name ≠ "" ∧ name.toList.all isNameChar = true)
    ⟨fun ⟨nonempty, made⟩ => ⟨nonempty, List.all_eq_true.mp made⟩,
      fun ⟨nonempty, made⟩ => ⟨nonempty, List.all_eq_true.mpr made⟩⟩

/-- The element that a shadow tree is written as. -/
def shadowElement : String := "template"

/-- The elements whose text is no markup, and the one that a shadow tree is written as. -/
def reservedTags : List String := shadowElement :: rawTextTags

theorem IsName.cons {name : String} (named : IsName name) :
    ∃ c rest, name.toList = c :: rest ∧ isNameChar c = true := by
  cases spelled : name.toList with
  | nil => exact absurd (String.toList_eq_nil_iff.mp spelled) named.nonempty
  | cons c rest => exact ⟨c, rest, rfl, named.made c (spelled ▸ List.mem_cons_self)⟩

/-! ## Runs of characters -/

/-- Does a text go on with none of some characters? -/
def StopsAt (kept : Char → Bool) (text : List Char) : Prop := ∀ c ∈ text.head?, kept c = false

/-- A run of some characters is told from what stands behind it. -/
theorem run_append_inj {kept : Char → Bool} {run other rest behind : List Char}
    (all : ∀ c ∈ run, kept c = true) (also : ∀ c ∈ other, kept c = true)
    (stops : StopsAt kept rest) (ends : StopsAt kept behind)
    (same : run ++ rest = other ++ behind) : run = other ∧ rest = behind := by
  have taken {run rest : List Char} (all : ∀ c ∈ run, kept c = true) (stops : StopsAt kept rest) :
      (run ++ rest).takeWhile kept = run := by
    rw [List.takeWhile_append_of_pos all]
    cases rest with
    | nil => simp
    | cons c rest => simp [stops c rfl]
  have run_eq : run = other := by rw [← taken all stops, same, taken also ends]
  subst run_eq
  exact ⟨rfl, List.append_cancel_left same⟩

/-! ## Escaped text -/

/-- What a character is written as is told from what stands behind it. -/
private theorem escapeChar_append_inj {c other : Char} {rest behind : List Char}
    (same : escapeChar c ++ rest = escapeChar other ++ behind) : c = other ∧ rest = behind := by
  unfold escapeChar at same
  split at same <;> split at same <;> grind

theorem escapeChar_ne_nil (c : Char) : escapeChar c ≠ [] := by
  unfold escapeChar
  split <;> simp

theorem not_mem_escapeChar (c : Char) : '<' ∉ escapeChar c ∧ '\x22' ∉ escapeChar c := by
  unfold escapeChar
  split <;> simp_all [eq_comm]

theorem toList_escape (text : String) : (escape text).toList = text.toList.flatMap escapeChar :=
  String.toList_ofList

/-- Text that is escaped holds neither a bracket that opens a tag nor a quote that ends a value. -/
theorem not_mem_escape (text : String) :
    '<' ∉ (escape text).toList ∧ '\x22' ∉ (escape text).toList := by
  simp only [toList_escape, List.mem_flatMap, not_exists, not_and]
  exact ⟨fun c _ => (not_mem_escapeChar c).1, fun c _ => (not_mem_escapeChar c).2⟩

theorem escape_injective {text other : String} (same : escape text = escape other) :
    text = other := by
  have flat : text.toList.flatMap escapeChar = other.toList.flatMap escapeChar := by
    rw [← toList_escape, same, toList_escape]
  suffices lists : ∀ {run other : List Char},
      run.flatMap escapeChar = other.flatMap escapeChar → run = other from
    String.toList_injective (lists flat)
  intro run
  induction run with
  | nil =>
      intro other same
      cases other with
      | nil => rfl
      | cons c other =>
          rw [List.flatMap_nil, List.flatMap_cons] at same
          exact absurd (List.append_eq_nil_iff.mp same.symm).1 (escapeChar_ne_nil c)
  | cons c run inductionHypothesis =>
      intro other same
      cases other with
      | nil =>
          rw [List.flatMap_nil, List.flatMap_cons] at same
          exact absurd (List.append_eq_nil_iff.mp same).1 (escapeChar_ne_nil c)
      | cons other others =>
          rw [List.flatMap_cons, List.flatMap_cons] at same
          obtain ⟨rfl, rest⟩ := escapeChar_append_inj same
          rw [inductionHypothesis rest]

/-- Escaped text is told from a text behind it that starts with a character which is never escaped
text. -/
theorem escape_append_inj {closing : Char} (never : ∀ text, closing ∉ (escape text).toList)
    {text other : String} {rest behind : List Char}
    (same : (escape text).toList ++ closing :: rest = (escape other).toList ++ closing :: behind) :
    text = other ∧ rest = behind := by
  have within (text : String) : ∀ c ∈ (escape text).toList, (c != closing) = true := by
    intro c member
    simpa using ne_of_mem_of_not_mem member (never text)
  have stops (rest : List Char) : StopsAt (· != closing) (closing :: rest) := by
    rintro c ⟨⟩
    simp
  obtain ⟨spelled, behind⟩ := run_append_inj (within text) (within other) (stops _) (stops _) same
  exact ⟨escape_injective (String.toList_injective spelled), (List.cons.inj behind).2⟩

/-! ## Attributes -/

/-- The value of an attribute behind its name. -/
def valueText (value : String) : List Char :=
  if value.isEmpty then [] else '=' :: '\x22' :: (escape value).toList ++ ['\x22']

theorem toList_renderAttribute (name value : String) :
    (renderAttribute (name, value)).toList = ' ' :: (name.toList ++ valueText value) := by
  unfold renderAttribute valueText
  dsimp only
  split <;> simp

/-- Attributes one after the other. -/
def attributesText (attributes : List (String × String)) : List Char :=
  attributes.flatMap fun entry => (renderAttribute entry).toList

private theorem attributesText_cons (entry : String × String)
    (attributes : List (String × String)) :
    attributesText (entry :: attributes) =
      ' ' :: (entry.1.toList ++ (valueText entry.2 ++ attributesText attributes)) := by
  rw [attributesText, List.flatMap_cons, toList_renderAttribute, List.cons_append,
    List.append_assoc]
  rfl

/-- Behind the attributes read so far there is a blank, or the tag ends. -/
private theorem attributes_open (attributes : List (String × String)) (rest : List Char) :
    ∃ c behind, attributesText attributes ++ '>' :: rest = c :: behind ∧ (c = ' ' ∨ c = '>') := by
  cases attributes with
  | nil => exact ⟨'>', rest, rfl, .inr rfl⟩
  | cons entry attributes =>
      exact ⟨' ', _, by rw [attributesText_cons]; rfl, .inl rfl⟩

/-- A name ends where the attributes go on. -/
theorem stopsAt_attributes (attributes : List (String × String)) (rest : List Char) :
    StopsAt isNameChar (attributesText attributes ++ '>' :: rest) := by
  obtain ⟨c, behind, opens, kind⟩ := attributes_open attributes rest
  rw [opens]
  rintro _ ⟨⟩
  rcases kind with rfl | rfl <;> rfl

private theorem stopsAt_value (value : String) (attributes : List (String × String))
    (rest : List Char) :
    StopsAt isNameChar (valueText value ++ (attributesText attributes ++ '>' :: rest)) := by
  unfold valueText
  split
  · exact stopsAt_attributes attributes rest
  · rintro _ ⟨⟩
    rfl

/-- Whether an attribute has a value, and which, is told from what stands behind its name. -/
private theorem value_append_inj {value other : String} {attributes others : List (String × String)}
    {rest behind : List Char}
    (same : valueText value ++ (attributesText attributes ++ '>' :: rest) =
      valueText other ++ (attributesText others ++ '>' :: behind)) :
    value = other ∧ attributesText attributes ++ '>' :: rest =
      attributesText others ++ '>' :: behind := by
  -- A value is announced by a sign that no further attribute starts with.
  have apart (attributes : List (String × String)) (rest text : List Char) :
      attributesText attributes ++ '>' :: rest ≠ '=' :: text := by
    obtain ⟨c, behind, opens, kind⟩ := attributes_open attributes rest
    rw [opens]
    rcases kind with rfl | rfl <;> simp
  unfold valueText at same
  split at same
  next bare =>
    split at same
    next also =>
      rw [String.isEmpty_iff.mp bare, String.isEmpty_iff.mp also]
      exact ⟨rfl, same⟩
    next => exact absurd same (apart _ _ _)
  next =>
    split at same
    next => exact absurd same.symm (apart _ _ _)
    next =>
      simp only [List.cons_append, List.append_assoc, List.cons.injEq, true_and,
        List.nil_append] at same
      exact escape_append_inj (fun text => (not_mem_escape text).2) same

/-- Attributes are told, one by one, from what stands behind them. -/
theorem attributes_append_inj {attributes others : List (String × String)}
    (named : ∀ entry ∈ attributes, IsName entry.1) (also : ∀ entry ∈ others, IsName entry.1)
    {rest behind : List Char}
    (same : attributesText attributes ++ '>' :: rest = attributesText others ++ '>' :: behind) :
    attributes = others ∧ rest = behind := by
  induction attributes generalizing others with
  | nil =>
      cases others with
      | nil => exact ⟨rfl, (List.cons.inj same).2⟩
      | cons entry others =>
          rw [attributesText_cons] at same
          simp [attributesText] at same
  | cons entry attributes inductionHypothesis =>
      cases others with
      | nil =>
          rw [attributesText_cons] at same
          simp [attributesText] at same
      | cons other others =>
          obtain ⟨first, named⟩ := List.forall_mem_cons.mp named
          obtain ⟨second, also⟩ := List.forall_mem_cons.mp also
          simp only [attributesText_cons, List.cons_append, List.append_assoc, List.cons.injEq,
            true_and] at same
          obtain ⟨name, same⟩ := run_append_inj first.made second.made
            (stopsAt_value entry.2 attributes rest) (stopsAt_value other.2 others behind) same
          obtain ⟨value, same⟩ := value_append_inj same
          obtain ⟨rfl, behind⟩ := inductionHypothesis named also same
          exact ⟨by rw [Prod.ext (String.toList_injective name) value], behind⟩

end Markup

namespace Tree

open Markup

/-! ## Trees -/

/-- A tree whose names are names and whose elements are none that mean something else in a text. -/
inductive Legible : Tree → Prop
  | node {tag : String} {attributes : List (String × String)} {text : String}
      {shadow : Option (List Tree)} {children : List Tree} (named : IsName tag)
      (free : tag ∉ reservedTags) (attributed : ∀ entry ∈ attributes, IsName entry.1)
      (shaded : ∀ trees, shadow = some trees → ∀ tree ∈ trees, Legible tree)
      (below : ∀ tree ∈ children, Legible tree) :
      Legible (.node tag attributes text shadow children)

theorem sizeOf_shadow {tag text : String} {attributes : List (String × String)} {tree : Tree}
    {shadow : Option (List Tree)} {trees children : List Tree} (given : trees ∈ shadow)
    (member : tree ∈ trees) :
    sizeOf tree < sizeOf (Tree.node tag attributes text shadow children) := by
  obtain rfl := Option.mem_def.mp given
  have smaller := List.sizeOf_lt_of_mem member
  simp only [node.sizeOf_spec, Option.some.sizeOf_spec]
  omega

theorem sizeOf_child {tag text : String} {attributes : List (String × String)} {tree : Tree}
    {shadow : Option (List Tree)} {children : List Tree} (member : tree ∈ children) :
    sizeOf tree < sizeOf (Tree.node tag attributes text shadow children) := by
  have smaller := List.sizeOf_lt_of_mem member
  simp only [node.sizeOf_spec]
  omega

/-- What stands between the tags of an element behind its shadow tree. -/
def contentText (text : String) (children : List Tree) : List Char :=
  (escape text).toList ++ (renderAll children).toList

theorem toList_renderAll_cons (tree : Tree) (trees : List Tree) :
    (renderAll (tree :: trees)).toList = tree.render.toList ++ (renderAll trees).toList := by
  rw [renderAll, String.toList_append]

theorem toList_render {tag : String} {attributes : List (String × String)} {text : String}
    {shadow : Option (List Tree)} {children : List Tree} (free : tag ∉ reservedTags) :
    (render (.node tag attributes text shadow children)).toList =
      '<' :: (tag.toList ++ (attributesText attributes ++ '>' :: ((renderShadow shadow).toList ++
        (contentText text children ++ '<' :: '/' :: (tag.toList ++ ['>']))))) := by
  have plain : tag ∉ rawTextTags := mt (List.mem_cons_of_mem shadowElement) free
  simp [render, contentText, textOf, plain, attributesText, List.flatMap_map]

/-- A tree starts with its name, which is not that of a shadow tree, and with its attributes. -/
theorem Legible.opens {tree : Tree} (legible : tree.Legible) :
    ∃ tag attributes rest, IsName tag ∧ tag ≠ shadowElement ∧
      tree.render.toList = '<' :: (tag.toList ++ (attributesText attributes ++ '>' :: rest)) := by
  cases legible with
  | @node tag attributes text shadow children named free attributed shaded below =>
      refine ⟨tag, attributes, _, named, ?_, toList_render free⟩
      rintro rfl
      exact free List.mem_cons_self

/-- A tree is told from what stands behind it. -/
def Told (tree : Tree) : Prop :=
  ∀ {other : Tree} {rest behind : List Char}, other.Legible →
    tree.render.toList ++ rest = other.render.toList ++ behind → tree = other ∧ rest = behind

/-- No tree starts like an end tag. -/
private theorem Legible.ne_endTag {tree : Tree} (legible : tree.Legible) (rest behind : List Char) :
    tree.render.toList ++ rest ≠ '<' :: '/' :: behind := by
  obtain ⟨tag, attributes, after, named, -, opens⟩ := legible.opens
  obtain ⟨c, others, spelled, part⟩ := named.cons
  rw [opens, spelled]
  intro same
  obtain ⟨rfl, -⟩ := List.cons.inj (List.cons.inj same).2
  cases part

/-- Trees in front of an end tag are told, one by one. -/
theorem renderAll_append_inj {trees others : List Tree} (told : ∀ tree ∈ trees, tree.Told)
    (legible : ∀ tree ∈ trees, tree.Legible) (also : ∀ tree ∈ others, tree.Legible)
    {rest behind : List Char}
    (same : (renderAll trees).toList ++ '<' :: '/' :: rest =
      (renderAll others).toList ++ '<' :: '/' :: behind) : trees = others ∧ rest = behind := by
  induction trees generalizing others with
  | nil =>
      cases others with
      | nil => simpa [renderAll] using same
      | cons other others =>
          rw [toList_renderAll_cons, List.append_assoc] at same
          exact absurd same.symm ((also other List.mem_cons_self).ne_endTag _ _)
  | cons tree trees inductionHypothesis =>
      obtain ⟨first, told⟩ := List.forall_mem_cons.mp told
      obtain ⟨starts, legible⟩ := List.forall_mem_cons.mp legible
      rw [toList_renderAll_cons, List.append_assoc] at same
      cases others with
      | nil => exact absurd same (starts.ne_endTag _ _)
      | cons other others =>
          obtain ⟨second, also⟩ := List.forall_mem_cons.mp also
          rw [toList_renderAll_cons, List.append_assoc] at same
          obtain ⟨head, same⟩ := first second same
          obtain ⟨tail, behind⟩ := inductionHypothesis told legible also same
          exact ⟨by rw [head, tail], behind⟩

theorem toList_renderShadow_none : (renderShadow none).toList = [] := rfl

theorem toList_renderShadow_some (trees : List Tree) : (renderShadow (some trees)).toList =
    '<' :: (shadowElement.toList ++ ' ' :: ("shadowrootmode=\x22open\x22>".toList ++
      ((renderAll trees).toList ++ '<' :: '/' :: (shadowElement.toList ++ ['>'])))) := by
  have written : renderShadow (some trees) =
      "<" ++ (shadowElement ++ (" " ++ ("shadowrootmode=\x22open\x22>" ++
        (renderAll trees ++ ("</" ++ (shadowElement ++ ">")))))) := by
    have opening : "<template shadowrootmode=\x22open\x22>" =
        "<" ++ (shadowElement ++ (" " ++ "shadowrootmode=\x22open\x22>")) := by decide
    have closing : "</template>" = "</" ++ (shadowElement ++ ">") := by decide
    have unfolded : renderShadow (some trees) =
      "<template shadowrootmode=\x22open\x22>" ++ renderAll trees ++ "</template>" := rfl
    rw [unfolded, opening, closing]
    simp only [String.append_assoc]
  rw [written]
  generalize "shadowrootmode=\x22open\x22>" = mode
  simp [-String.toList_ofList]

/-- Behind a tag there is nothing that starts like a shadow tree. -/
private theorem content_ne_shadow {text : String} {children : List Tree}
    (below : ∀ tree ∈ children, tree.Legible) (rest behind : List Char) :
    contentText text children ++ '<' :: '/' :: rest ≠
      '<' :: (shadowElement.toList ++ ' ' :: behind) := by
  intro same
  unfold contentText at same
  cases written : (escape text).toList with
  | cons c others =>
      rw [written] at same
      obtain ⟨rfl, -⟩ := List.cons.inj same
      exact (not_mem_escape text).1 (written ▸ List.mem_cons_self)
  | nil =>
      rw [written] at same
      cases children with
      | nil => simp [renderAll, shadowElement] at same
      | cons child children =>
          obtain ⟨tag, attributes, after, named, apart, opens⟩ :=
            (below child List.mem_cons_self).opens
          rw [toList_renderAll_cons, opens] at same
          simp only [List.nil_append, List.cons_append, List.append_assoc, List.cons.injEq,
            true_and] at same
          have stops (text : List Char) : StopsAt isNameChar (' ' :: text) := by
            rintro _ ⟨⟩
            rfl
          have shadow : IsName shadowElement := by decide
          obtain ⟨spelled, -⟩ := run_append_inj named.made shadow.made
            (stopsAt_attributes attributes _) (stops behind) same
          exact apart (String.toList_injective spelled)

/-- Whether an element has a shadow tree, and which, is told from what stands behind it. -/
private theorem shadow_append_inj {shadow other : Option (List Tree)} {text text' : String}
    {children children' : List Tree} {rest behind : List Char}
    (told : ∀ trees, shadow = some trees → ∀ tree ∈ trees, tree.Told ∧ tree.Legible)
    (also : ∀ trees, other = some trees → ∀ tree ∈ trees, tree.Legible)
    (below : ∀ tree ∈ children, tree.Legible) (below' : ∀ tree ∈ children', tree.Legible)
    (same : (renderShadow shadow).toList ++ (contentText text children ++ '<' :: '/' :: rest) =
      (renderShadow other).toList ++ (contentText text' children' ++ '<' :: '/' :: behind)) :
    shadow = other ∧ contentText text children ++ '<' :: '/' :: rest =
      contentText text' children' ++ '<' :: '/' :: behind := by
  cases shadow with
  | none =>
      cases other with
      | none =>
          rw [toList_renderShadow_none, List.nil_append, List.nil_append] at same
          exact ⟨rfl, same⟩
      | some others =>
          simp only [toList_renderShadow_none, toList_renderShadow_some, List.nil_append,
            List.cons_append, List.append_assoc] at same
          exact absurd same (content_ne_shadow below _ _)
  | some trees =>
      cases other with
      | none =>
          simp only [toList_renderShadow_none, toList_renderShadow_some, List.nil_append,
            List.cons_append, List.append_assoc] at same
          exact absurd same.symm (content_ne_shadow below' _ _)
      | some others =>
          simp only [toList_renderShadow_some, List.nil_append, List.cons_append, List.append_assoc,
            List.cons.injEq, List.append_cancel_left_eq, true_and] at same
          obtain ⟨shadows, after⟩ := renderAll_append_inj
            (fun tree member => (told trees rfl tree member).1)
            (fun tree member => (told trees rfl tree member).2) (also others rfl) same
          rw [List.append_cancel_left_eq, List.cons.injEq] at after
          exact ⟨congrArg some shadows, after.2⟩

/-- The text between two tags of an element tells its own text and its children. -/
private theorem content_append_inj {text text' : String} {children children' : List Tree}
    {rest behind : List Char} (told : ∀ tree ∈ children, tree.Told)
    (below : ∀ tree ∈ children, tree.Legible) (below' : ∀ tree ∈ children', tree.Legible)
    (same : contentText text children ++ '<' :: '/' :: rest =
      contentText text' children' ++ '<' :: '/' :: behind) :
    text = text' ∧ children = children' ∧ rest = behind := by
  -- Behind the own text there is a bracket in any case: that of a child or of the end tag.
  have opens {trees : List Tree} (below : ∀ tree ∈ trees, tree.Legible) (rest : List Char) :
      ∃ behind, (renderAll trees).toList ++ '<' :: '/' :: rest = '<' :: behind := by
    cases trees with
    | nil => exact ⟨_, by simp [renderAll]; rfl⟩
    | cons tree trees =>
        obtain ⟨tag, attributes, after, -, -, opens⟩ := (below tree List.mem_cons_self).opens
        rw [toList_renderAll_cons, opens]
        exact ⟨_, rfl⟩
  obtain ⟨after, first⟩ := opens below rest
  obtain ⟨after', second⟩ := opens below' behind
  rw [contentText, contentText, List.append_assoc, List.append_assoc, first, second] at same
  obtain ⟨rfl, followed⟩ := escape_append_inj (fun text => (not_mem_escape text).1) same
  rw [← followed, ← first] at second
  obtain ⟨rfl, ended⟩ := renderAll_append_inj told below below' second.symm
  exact ⟨rfl, rfl, ended⟩

/-- What a tree is rendered as tells the whole of it, whatever stands behind. The induction is on
the tree; what stands between its tags is read from the front. -/
theorem Legible.told {tree : Tree} (legible : tree.Legible) : tree.Told := by
  induction legible with
  | @node tag attributes text shadow children named free attributed shaded below told toldBelow =>
      intro other rest behind legible' same
      cases legible' with
      | @node tag' attributes' text' shadow' children' named' free' attributed' shaded' below' =>
          simp only [toList_render free, toList_render free', List.cons_append, List.append_assoc,
            List.nil_append, List.cons.injEq, true_and] at same
          obtain ⟨spelled, inside⟩ := run_append_inj named.made named'.made
            (stopsAt_attributes attributes _) (stopsAt_attributes attributes' _) same
          obtain ⟨entries, inside⟩ := attributes_append_inj attributed attributed' inside
          obtain ⟨shadows, inside⟩ := shadow_append_inj
            (fun trees given tree member =>
              ⟨told trees given tree member, shaded trees given tree member⟩)
            shaded' below below' inside
          obtain ⟨texts, trees, ended⟩ := content_append_inj toldBelow below below' inside
          rw [spelled, List.append_cancel_left_eq, List.cons.injEq] at ended
          exact ⟨by rw [String.toList_injective spelled, entries, texts, shadows, trees], ended.2⟩

end Tree

namespace Page

/-! ## Trees of elements -/

/-- An element with nothing of its own but its children, as a shadow root is. -/
structure Plain (element : Element) : Prop where
  attributes : element.attributes = []
  text : element.text = ""
  shadowRoot : element.shadowRoot = none

/-- An element with all below it unfolds to a tree. What comes to no end, or has a shadow root with
more than children, unfolds to none. -/
inductive Unfolds (page : Page) : Nat → Tree → Prop
  | node (id : Nat) (subtree : Nat → Tree)
      (plain : ∀ root ∈ (page.get id).shadowRoot, Plain (page.get root))
      (shaded : ∀ root ∈ (page.get id).shadowRoot, ∀ child ∈ (page.get root).children,
        page.Unfolds child (subtree child))
      (below : ∀ child ∈ (page.get id).children, page.Unfolds child (subtree child)) :
      page.Unfolds id (.node (page.get id).tag (page.get id).attributes (page.get id).text
        ((page.get id).shadowRoot.map fun root => (page.get root).children.map subtree)
        ((page.get id).children.map subtree))

namespace Unfolds

variable {page : Page} {id : Nat} {tree other : Tree}

theorem unique (unfolds : page.Unfolds id tree) (also : page.Unfolds id other) : tree = other := by
  induction unfolds generalizing other with
  | node id subtree plain shaded below inShadow inChildren =>
      cases also with
      | node _ subtree' plain' shaded' below' =>
          congr 1
          · refine Option.map_congr fun root given => List.map_congr_left fun child member => ?_
            exact inShadow root given child member (shaded' root given child member)
          · refine List.map_congr_left fun child member => ?_
            exact inChildren child member (below' child member)

/-- A tree of some depth is found by going down as deep once that and the way from above make up
for all elements of the page. The way cannot pass an element twice, since the trees on it get
smaller. -/
theorem treeTo_eq (unfolds : page.Unfolds id tree) {depth : Nat} (path : List Nat)
    (larger : ∀ passed ∈ path, ∃ above, page.Unfolds passed above ∧ sizeOf tree < sizeOf above)
    (distinct : path.Nodup) (inside : ∀ passed ∈ path, passed < page.nextId)
    (enough : page.nextId < depth + path.length) : page.treeTo depth id = tree := by
  induction unfolds generalizing depth path with
  | node id subtree plain shaded below inShadow inChildren =>
      have fits : path.Subperm (List.range page.nextId) :=
        distinct.subperm fun passed member => List.mem_range.mpr (inside passed member)
      have short := fits.length_le
      rw [List.length_range] at short
      obtain ⟨depth, rfl⟩ : ∃ less, depth = less + 1 := ⟨depth - 1, by omega⟩
      have here := Unfolds.node id subtree plain shaded below
      have fresh : id ∉ path := by
        intro earlier
        obtain ⟨above, unfolds, smaller⟩ := larger id earlier
        rw [here.unique unfolds] at smaller
        exact Nat.lt_irrefl _ smaller
      have way {part : Tree} (smaller : sizeOf part < sizeOf (Tree.node (page.get id).tag
          (page.get id).attributes (page.get id).text
          ((page.get id).shadowRoot.map fun root => (page.get root).children.map subtree)
          ((page.get id).children.map subtree))) :
          ∀ passed ∈ id :: path, ∃ above, page.Unfolds passed above ∧
            sizeOf part < sizeOf above := by
        refine List.forall_mem_cons.mpr ⟨⟨_, here, smaller⟩, fun passed earlier => ?_⟩
        obtain ⟨above, unfolds, larger⟩ := larger passed earlier
        exact ⟨above, unfolds, Nat.lt_trans smaller larger⟩
      have distinct : (id :: path).Nodup := List.nodup_cons.mpr ⟨fresh, distinct⟩
      -- Outside the page there is nothing below an element.
      have inside (held : page.get id ≠ default) : ∀ passed ∈ id :: path, passed < page.nextId :=
        List.forall_mem_cons.mpr ⟨Nat.lt_of_not_le fun beyond => held (get_of_le beyond), inside⟩
      have enough : page.nextId < depth + (id :: path).length := by
        rw [List.length_cons]
        omega
      show Tree.node _ _ _ _ _ = _
      congr 1
      · refine Option.map_congr fun root given => List.map_congr_left fun child member => ?_
        refine inShadow root given child member (id :: path) (way ?_) distinct (inside ?_) enough
        · exact Tree.sizeOf_shadow (Option.mem_map_of_mem _ given) (List.mem_map_of_mem member)
        · intro missing
          rw [missing] at given
          cases given
      · refine List.map_congr_left fun child member => ?_
        refine inChildren child member (id :: path) (way ?_) distinct (inside ?_) enough
        · exact Tree.sizeOf_child (List.mem_map_of_mem member)
        · intro missing
          rw [missing] at member
          cases member

theorem tree_eq (unfolds : page.Unfolds id tree) : page.tree id = tree := by
  apply unfolds.treeTo_eq [] nofun List.nodup_nil nofun
  exact Nat.lt_succ_self _

end Unfolds

/-- Where elements stand in a forest and shadow roots hold nothing but children, each one
unfolds. -/
theorem Forest.unfolds {page : Page} (forest : page.Forest)
    (plain : ∀ host, ∀ root ∈ (page.get host).shadowRoot, Plain (page.get root)) (id : Nat) :
    page.Unfolds id (page.tree id) := by
  induction id using forest.bottomed.transGen.induction with
  | _ id inductionHypothesis =>
      have under {child : Nat} (member : child ∈ page.below id) :
          Relation.TransGen (fun lower upper => page.Above upper lower) child id :=
        .single (forest.mem_below.mp member)
      have unfolds := @Unfolds.node page id page.tree (plain id)
        (fun root given child member => inductionHypothesis child (.head
          (forest.mem_below.mp (List.mem_append_right _ member))
          (under (List.mem_append_left _ (Option.mem_toList.mpr given)))))
        (fun child member => inductionHypothesis child (under (List.mem_append_right _ member)))
      exact unfolds.tree_eq ▸ unfolds

/-- The text of an element tells the tree that it unfolds to, whatever characters stand in the texts
and in the values of the attributes. -/
theorem eq_of_render_eq {page other : Page} {a b : Nat} {tree tree' : Tree}
    (unfolds : page.Unfolds a tree) (unfolds' : other.Unfolds b tree') (legible : tree.Legible)
    (legible' : tree'.Legible) (same : page.render a = other.render b) : tree = tree' := by
  rw [render, render, unfolds.tree_eq, unfolds'.tree_eq] at same
  have alone : tree.render.toList ++ [] = tree'.render.toList ++ [] := by rw [same]
  exact (legible.told legible' alone).1

/-- Two pages hold one tree at different places, with marks in its texts and values, an attribute
without a value, and a shadow tree. -/
theorem eq_of_render_eq_rearranged :
    let page : Page := ⟨#[
      { tag := "div", attributes := [("title", "\x22><p>"), ("hidden", "")], text := "1 < 2 &amp;",
        children := [1], shadowRoot := some 2 },
      { tag := "p", text := "</div>", parent := some 0 },
      { tag := shadowTag, children := [3] },
      { tag := "my-mark", text := "</template>", parent := some 2 }]⟩
    let other : Page := ⟨#[
      { tag := "my-mark", text := "</template>", parent := some 1 },
      { tag := shadowTag, children := [0] },
      { tag := "div", attributes := [("title", "\x22><p>"), ("hidden", "")], text := "1 < 2 &amp;",
        children := [3], shadowRoot := some 1 },
      { tag := "p", text := "</div>", parent := some 2 }]⟩
    page.Unfolds 0 (page.tree 0) ∧ other.Unfolds 2 (other.tree 2) ∧ (page.tree 0).Legible ∧
      (other.tree 2).Legible ∧ page.render 0 = other.render 2 ∧ page.tree 0 = other.tree 2 := by
  intro page other
  let leaf (page : Page) (id : Nat) : Tree :=
    .node (page.get id).tag (page.get id).attributes (page.get id).text none []
  have bottom (page : Page) (id : Nat) (children : (page.get id).children = [])
      (root : (page.get id).shadowRoot = none) : page.Unfolds id (leaf page id) := by
    have unfolds := @Unfolds.node page id (leaf page) (by simp [root]) (by simp [root])
      (by simp [children])
    rwa [root, children] at unfolds
  let tree : Tree := .node "div" [("title", "\x22><p>"), ("hidden", "")] "1 < 2 &amp;"
    (some [.node "my-mark" [] "</template>" none []]) [.node "p" [] "</div>" none []]
  have first : page.Unfolds 0 tree := by
    refine .node 0 (leaf page) ?_ ?_ ?_
    · rintro _ ⟨⟩
      exact ⟨rfl, rfl, rfl⟩
    · rintro _ ⟨⟩
      exact List.forall_mem_singleton.mpr (bottom page 3 rfl rfl)
    · exact List.forall_mem_singleton.mpr (bottom page 1 rfl rfl)
  have second : other.Unfolds 2 tree := by
    refine .node 2 (leaf other) ?_ ?_ ?_
    · rintro _ ⟨⟩
      exact ⟨rfl, rfl, rfl⟩
    · rintro _ ⟨⟩
      exact List.forall_mem_singleton.mpr (bottom other 0 rfl rfl)
    · exact List.forall_mem_singleton.mpr (bottom other 3 rfl rfl)
  have plain : tree.Legible := by
    have bare (tag text : String) (named : Markup.IsName tag) (free : tag ∉ Markup.reservedTags) :
        (Tree.node tag [] text none []).Legible := .node named free nofun nofun nofun
    refine .node (by decide) (by decide) (by decide) ?_ ?_
    · rintro _ ⟨⟩
      exact List.forall_mem_singleton.mpr (bare "my-mark" _ (by decide) (by decide))
    · exact List.forall_mem_singleton.mpr (bare "p" _ (by decide) (by decide))
  have same : page.render 0 = other.render 2 := by
    rw [render, render, first.tree_eq, second.tree_eq]
  have legible : (page.tree 0).Legible := first.tree_eq ▸ plain
  have legible' : (other.tree 2).Legible := second.tree_eq ▸ plain
  have first' : page.Unfolds 0 (page.tree 0) := first.tree_eq.symm ▸ first
  have second' : other.Unfolds 2 (other.tree 2) := second.tree_eq.symm ▸ second
  exact ⟨first', second', legible, legible', same,
    eq_of_render_eq first' second' legible legible' same⟩

end Page

end Lectern
