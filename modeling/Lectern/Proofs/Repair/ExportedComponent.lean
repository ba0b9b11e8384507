/-
Module: Lectern.Proofs.Repair.ExportedComponent
Purpose: When the component that a repair exports as the default is declared at the top level of the
  module that the source is read as: the grammar must read a declaration in the place where the text
  seems to have one, or another declaration must introduce the name.
Trusted boundary: none
Main exports: Component.IsReadAs, Component.In.mem_topLevelNames_iff,
  exportLastComponent_declared_iff
-/
import Lectern.Proofs.Module.Bindings
import Lectern.Proofs.Repair.Idempotence
import Lectern.Proofs.Syntax.Declarations
import Lectern.Proofs.Syntax.Spelling

namespace Lectern.Repair

open Lectern.Text Lectern.Syntax

variable {rest : List Char} {word name : String}

/-! ## How the grammar reads a component -/

/-- The words that openings start with. -/
def openingWords : List String := ["async", "function", "const", "let", "var", "class"]

theorem isAscii_of_all {text : List Char} (all : text.all (·.toNat < 128) = true) : IsAscii text :=
  fun c member => of_decide_eq_true (List.all_eq_true.mp all c member)

theorem isAscii_openingWords (listed : word ∈ openingWords) : IsAscii word.toList := by
  have all : ∀ word ∈ openingWords, word.toList.all (·.toNat < 128) = true := by decide
  exact isAscii_of_all (all word listed)

theorem isAscii_star : IsAscii "*".toList := isAscii_of_all (by decide)

/-- Of the words that declarations open with, only its own is seen where an opening is spelled. -/
theorem same_of_startsWith {source : ByteArray} {place : Nat} {known seen : String}
    (listed : known ∈ openingWords) (listedSeen : seen ∈ "@" :: "abstract" :: openingWords)
    (spells : Spells source place (known.toList ++ rest))
    (starts : Lexeme.startsWith source place seen.toList = true) : seen = known := by
  have apart : ∀ known ∈ openingWords, ∀ seen ∈ "@" :: "abstract" :: openingWords,
      seen.toList <+: known.toList ∨ known.toList <+: seen.toList → seen = known := by decide
  exact apart known listed seen listedSeen
    (spells.prefix_of_startsWith (isAscii_openingWords listed) starts)

theorem IsCapital.isSolid {c : Char} (low : 65 ≤ c.toNat) (high : c.toNat ≤ 90) : IsSolid c where
  ascii := by omega
  filled := by omega
  plain := by
    rintro rfl
    exact absurd low (by decide)

/-- Behind the word `function`, and behind a star if one stands there, the name follows. -/
theorem behindStar_of_spells {source : ByteArray} {place : Nat} {middle : List Char}
    (spells : Spells source place ("function".toList ++ (middle ++ (name.toList ++ rest))))
    (starred : IsStarred middle) (capital : IsCapital name)
    (plain : ∀ c ∈ middle, isBlank c = true → isPlainBlank c = true) :
    behindStar source (behindWord source "function" place) =
      place + ("function".toList ++ middle).utf8Encode.size := by
  obtain ⟨c, more, spelled, low, high⟩ := capital.exists_cons
  have solid := IsCapital.isSolid low high
  have ascii := @isAscii_openingWords "function" (by decide)
  obtain ⟨blanks, star, rfl, blank, stars⟩ := starred
  have plainBlanks : ∀ d ∈ blanks, isPlainBlank d = true := fun d member =>
    plain d (List.mem_append_left _ member) (blank d member)
  rw [spelled] at spells
  rcases stars with rfl | ⟨others, rfl, blankOthers⟩
  · rw [List.append_nil] at spells ⊢
    have behind : Spells source (place + ("function".toList ++ blanks).utf8Encode.size)
        (c :: (more ++ rest)) := by
      apply Spells.drop
      rw [List.append_assoc]
      exact spells
    have differs : (c == '*') = false := by
      apply beq_false_of_ne
      rintro rfl
      exact absurd low (by decide)
    have unseen : Lexeme.startsWith source (place + ("function".toList ++ blanks).utf8Encode.size)
        "*".toList = false := (behind.startsWith_single solid.ascii).trans differs
    rw [spells.behindWord ascii plainBlanks solid, behindStar, unseen,
      if_neg Bool.false_ne_true]
  · have plainOthers : ∀ d ∈ others, isPlainBlank d = true := fun d member =>
      plain d (List.mem_append_right _ (List.mem_cons_of_mem _ member)) (blankOthers d member)
    have star : IsSolid '*' := ⟨by decide, by decide, by decide⟩
    have spelledStar : Spells source place
        ("function".toList ++ (blanks ++ '*' :: (others ++ c :: (more ++ rest)))) := by
      rw [List.append_assoc] at spells
      exact spells
    have behind : Spells source (place + ("function".toList ++ blanks).utf8Encode.size)
        ("*".toList ++ (others ++ c :: (more ++ rest))) := by
      apply Spells.drop
      rw [List.append_assoc]
      exact spelledStar
    rw [spelledStar.behindWord ascii plainBlanks star, behindStar,
      behind.startsWith isAscii_star, if_pos rfl, behind.behindWord isAscii_star plainOthers solid,
      Nat.add_assoc, ← ByteArray.size_append, ← List.utf8Encode_append, List.append_assoc]
    rfl

section Declarations

variable {source : ByteArray} {declaration : Node}

/-- What a declaration introduces that starts with some word. -/
structure Introduced (source : ByteArray) (declaration : Node) (word : String) : Prop where
  ofFunction : word = "function" → DeclaresWordAt source declaration
    (behindStar source (behindWord source "function" declaration.start))
  ofAsync : word = "async" → DeclaresWordAt source declaration (behindStar source
    (behindWord source "function" (behindWord source "async" declaration.start)))
  ofBinding : word ∈ ["const", "let", "var", "class"] →
    Lexeme.startsWith source (behindWord source word declaration.start) ['\x7b'] = false →
    Lexeme.startsWith source (behindWord source word declaration.start) ['['] = false →
    DeclaresWordAt source declaration (behindWord source word declaration.start)

theorem introduced_of_spells (listed : word ∈ openingWords)
    (spells : Spells source declaration.start (word.toList ++ rest))
    (opens : Opens source declaration) : Introduced source declaration word := by
  cases opens with
  | function opening declares =>
      obtain rfl := same_of_startsWith listed (by decide) spells opening
      exact ⟨fun _ => declares, fun other => absurd other (by decide),
        fun other => absurd other (by decide)⟩
  | asyncFunction opening next declares =>
      obtain rfl := same_of_startsWith listed (by decide) spells opening
      exact ⟨fun other => absurd other (by decide), fun _ => declares,
        fun other => absurd other (by decide)⟩
  | @binding seen listedSeen opening declares =>
      have known : ∀ seen ∈ ["class", "const", "let", "var"],
          seen ∈ "@" :: "abstract" :: openingWords ∧ seen ≠ "function" ∧ seen ≠ "async" := by decide
      obtain ⟨counts, noFunction, noAsync⟩ := known seen listedSeen
      obtain rfl := same_of_startsWith listed counts spells opening
      exact ⟨fun other => absurd other noFunction, fun other => absurd other noAsync,
        fun _ => declares⟩
  | @marked mark listedMark opening =>
      have known : ∀ mark ∈ ["@", "abstract"],
          mark ∈ "@" :: "abstract" :: openingWords ∧ mark ∉ openingWords := by decide
      obtain ⟨counts, other⟩ := known mark listedMark
      obtain rfl := same_of_startsWith listed counts spells opening
      exact absurd listed other

/-- A declaration that starts with the opening of a component introduces the word behind it. -/
theorem declaresWordAt_of_opening {opening : List Char} (isOpening : IsOpening opening)
    (capital : IsCapital name)
    (plain : ∀ c ∈ opening, isBlank c = true → isPlainBlank c = true)
    (spells : Spells source declaration.start (opening ++ (name.toList ++ rest)))
    (opens : Opens source declaration) :
    DeclaresWordAt source declaration (declaration.start + opening.utf8Encode.size) := by
  cases isOpening with
  | @function async middle optional starred =>
      have plainMiddle : ∀ c ∈ middle, isBlank c = true → isPlainBlank c = true := fun d member =>
        plain d (List.mem_append_right _ (List.mem_append_right _ member))
      rw [List.append_assoc, List.append_assoc] at spells
      have named := behindStar_of_spells spells.drop starred capital plainMiddle
      rw [List.utf8Encode_append, ByteArray.size_append, ← Nat.add_assoc, ← named]
      rcases optional with rfl | ⟨gap, isGap, rfl⟩
      · exact (introduced_of_spells (by decide) spells opens).ofFunction rfl
      · have plainGap : ∀ d ∈ gap, isPlainBlank d = true := fun d member =>
          plain d (List.mem_append_left _ (List.mem_append_right _ member)) (isGap.blank d member)
        rw [List.append_assoc] at spells
        have behind : behindWord source "async" declaration.start =
            declaration.start + ("async".toList ++ gap).utf8Encode.size :=
          @Spells.behindWord _ _ 'f' _ gap "async" spells
            (isAscii_openingWords (by decide)) plainGap ⟨by decide, by decide, by decide⟩
        rw [← behind]
        exact (introduced_of_spells (by decide) spells opens).ofAsync rfl
  | @binding word gap listed isGap =>
      have known : ∀ word ∈ ["const", "let", "var", "class"], word ∈ openingWords := by decide
      have counts := known word listed
      have ascii := isAscii_openingWords counts
      obtain ⟨c, more, spelled, low, high⟩ := capital.exists_cons
      have solid := IsCapital.isSolid low high
      have plainGap : ∀ d ∈ gap, isPlainBlank d = true := fun d member =>
        plain d (List.mem_append_right _ member) (isGap.blank d member)
      rw [spelled] at spells
      have behind := spells.drop
      have unseen {d : Char} (apart : d.toNat < 65 ∨ 90 < d.toNat) : Lexeme.startsWith source
          (declaration.start + (word.toList ++ gap).utf8Encode.size) [d] = false := by
        rw [behind.startsWith_single solid.ascii]
        apply beq_false_of_ne
        rintro rfl
        omega
      rw [List.append_assoc] at spells
      have place := spells.behindWord ascii plainGap solid
      rw [← place] at unseen ⊢
      exact (introduced_of_spells counts spells opens).ofBinding listed
        (unseen (by decide)) (unseen (by decide))

end Declarations

namespace Component

variable {component : Component} {source : String} {declaration root : Node}

/-- The offset of the byte that the opening starts with. -/
def place (component : Component) : Nat :=
  (String.ofList (component.front ++ component.exported)).utf8ByteSize

/-- The offset of the byte that the name starts with. -/
def namePlace (component : Component) : Nat :=
  component.place + (String.ofList component.opening).utf8ByteSize

/-- A declaration of the tree is read in the place of a component, with nothing but plain blanks in
its opening, and its name ends where the word in that place does. -/
structure IsReadAs (component : Component) (source : ByteArray) (declaration : Node) : Prop where
  start : declaration.start = component.place
  plain : ∀ c ∈ component.opening, isBlank c = true → isPlainBlank c = true
  whole : Lexeme.wordStop source component.namePlace =
    component.namePlace + component.name.utf8ByteSize

theorem In.spells (declares : component.In source.toList) :
    Spells source.toUTF8 component.place component.declared := by
  refine ⟨component.front ++ component.exported, ?_, ?_⟩
  · rw [List.append_assoc, ← declares.split, String.utf8Encode_toList]
    rfl
  · rw [place, ← String.size_toByteArray, String.toByteArray_ofList]

/-- A declaration that is read in the place of a component introduces its name. -/
theorem In.mem_declarationNames (declares : component.In source.toList)
    (read : component.IsReadAs source.toUTF8 declaration)
    (opens : Opens source.toUTF8 declaration) :
    component.name ∈ Module.declarationNames source.toUTF8 declaration := by
  have spells := declares.spells
  have behind : component.namePlace = declaration.start + component.opening.utf8Encode.size := by
    rw [namePlace, read.start, ← String.size_toByteArray, String.toByteArray_ofList]
  have spelled := spells.drop
  rw [← read.start] at spells spelled
  obtain ⟨leaf, introduces, covers⟩ :=
    declaresWordAt_of_opening declares.opens declares.capital read.plain spells opens
  rw [← behind] at covers spelled
  have text : leaf.text source.toUTF8 = component.name := by
    apply spelled.text covers.start
    rw [covers.stop, read.whole, String.utf8Encode_toList, String.size_toByteArray]
  rw [← text]
  exact introduces.mem_declarationNames

/-- The module that a source is read as declares the name of a component exactly if a declaration at
its top level is read in the place of the component, or another one introduces the name. -/
theorem In.mem_topLevelNames_iff (declares : component.In source.toList)
    (parsed : parse source.toUTF8 = .ok root) :
    component.name ∈ Module.topLevelNames source.toUTF8 root ↔
      (∃ declaration, Module.TopLevel root declaration ∧
        Module.isTopLevelDeclaration declaration.kind = true ∧
        component.IsReadAs source.toUTF8 declaration) ∨
      ∃ declaration, Module.TopLevel root declaration ∧
        ¬ component.IsReadAs source.toUTF8 declaration ∧
        component.name ∈ Module.declarationNames source.toUTF8 declaration := by
  rw [Module.mem_topLevelNames_iff]
  constructor
  · rintro ⟨declaration, top, named⟩
    by_cases read : component.IsReadAs source.toUTF8 declaration
    · exact Or.inl ⟨declaration, top, Module.isTopLevelDeclaration_of_mem named, read⟩
    · exact Or.inr ⟨declaration, top, read, named⟩
  · rintro (⟨declaration, top, counts, read⟩ | ⟨declaration, top, _, named⟩)
    · exact ⟨declaration, top,
        declares.mem_declarationNames read (opens_of_parse parsed top counts)⟩
    · exact ⟨declaration, top, named⟩

end Component

/-! ## Exports -/

/-- A source to which a default export is added is kept up to the white space at its end, and the name
behind it is that of the last component that the text declares at the start of a line. The module that
the source is read as declares that name at its top level exactly if a declaration there is read in the
place of the component, or another one introduces the name. A comment, a template or the body of a
function may hold the component just as well. -/
theorem exportLastComponent_declared_iff {source : String}
    (changed : exportLastComponent source ≠ source) :
    ∃ component : Component, component.IsLast source.toList ∧
      exportLastComponent source = String.ofList (trimRight source.toList) ++
        "\n\nexport default " ++ component.name ++ ";\n" ∧
      ∀ root, parse source.toUTF8 = .ok root →
        (component.name ∈ Module.topLevelNames source.toUTF8 root ↔
          (∃ declaration, Module.TopLevel root declaration ∧
            Module.isTopLevelDeclaration declaration.kind = true ∧
            component.IsReadAs source.toUTF8 declaration) ∨
          ∃ declaration, Module.TopLevel root declaration ∧
            ¬ component.IsReadAs source.toUTF8 declaration ∧
            component.name ∈ Module.declarationNames source.toUTF8 declaration) := by
  obtain ⟨name, last, spelled⟩ := (exportLastComponent_cases source).resolve_left changed
  obtain ⟨component, isLast, rfl⟩ := exists_isLast_of_lastComponent? last
  refine ⟨component, isLast, ?_, fun root parsed => isLast.declared.mem_topLevelNames_iff parsed⟩
  apply String.toList_inj.mp
  rw [spelled]
  simp [exportLine]

/-- A component that an arrow function is, in a module of its own. -/
private def plainCard : String := "const title = 1;\nexport const Card = () => title;\n"

/-- A component that is declared at the top level. -/
theorem exportLastComponent_declared_iff_plain :
    exportLastComponent plainCard ≠ plainCard ∧ (parse plainCard.toUTF8).toBool = true ∧
      ∃ component : Component, component.IsLast plainCard.toList ∧
        exportLastComponent plainCard = String.ofList (trimRight plainCard.toList) ++
          "\n\nexport default " ++ component.name ++ ";\n" ∧
        ∀ root, parse plainCard.toUTF8 = .ok root →
          (component.name ∈ Module.topLevelNames plainCard.toUTF8 root ↔
            (∃ declaration, Module.TopLevel root declaration ∧
              Module.isTopLevelDeclaration declaration.kind = true ∧
              component.IsReadAs plainCard.toUTF8 declaration) ∨
            ∃ declaration, Module.TopLevel root declaration ∧
              ¬ component.IsReadAs plainCard.toUTF8 declaration ∧
              component.name ∈ Module.declarationNames plainCard.toUTF8 declaration) := by
  have changed : exportLastComponent plainCard ≠ plainCard := by decide +kernel
  exact ⟨changed, by decide +kernel, exportLastComponent_declared_iff changed⟩

/-- A component that stands in a comment alone. -/
private def commentedCard : String := "/*\nfunction Card() \x7b\x7d\n*/\nconst x = 1;\n"

/-- What stands in a comment is exported as the default, although the module does not declare it. -/
theorem exports_commented_component :
    repair commentedCard ["Module has no default export."] =
        "/*\nfunction Card() \x7b\x7d\n*/\nconst x = 1;\n\nexport default Card;\n" ∧
      ∃ root, parse commentedCard.toUTF8 = .ok root ∧
        Module.topLevelNames commentedCard.toUTF8 root = ["x"] := by
  refine ⟨by decide +kernel, ?_⟩
  exact @Module.exists_of_parse commentedCard
    (fun root => Module.topLevelNames commentedCard.toUTF8 root = ["x"]) _ (by decide +kernel)

end Lectern.Repair
