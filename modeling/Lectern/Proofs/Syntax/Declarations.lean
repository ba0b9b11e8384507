/-
Module: Lectern.Proofs.Syntax.Declarations
Purpose: What stands in the source where the grammar reads a declaration at the top level: the words
  that open it and, behind them, the first name that it introduces. Declarations of constants and
  variables have no name of their own, so all that is declared at the top level is found twice.
Trusted boundary: none
Main exports: Opens, opens_of_parse, valuesNameless_of_parse, topLevelNames_subset_of_parse
-/
import Lectern.Proofs.Module.Scope
import Lectern.Proofs.Syntax.Readings

namespace Lectern.Syntax

open Lectern.Module (Declares Introduces TopLevel ValuesNameless declaredNames isTopLevelDeclaration
  mem_declaredNames_of_topLevel topLevelNames)

/-! ## How declarations open -/

/-- The place behind a star, if one stands here. -/
def behindStar (source : ByteArray) (place : Nat) : Nat :=
  if Lexeme.startsWith source place "*".toList then behindWord source "*" place else place

/-- A declaration introduces the word at a place. -/
def DeclaresWordAt (source : ByteArray) (node : Node) (place : Nat) : Prop :=
  ∃ leaf, Declares node leaf ∧ Reader.CoversWord source place leaf

/-- How the source starts where a declaration does, and which word the declaration introduces. -/
inductive Opens (source : ByteArray) (node : Node) : Prop
  | function (opening : Lexeme.startsWith source node.start "function".toList = true)
      (declares : DeclaresWordAt source node
        (behindStar source (behindWord source "function" node.start)))
  | asyncFunction (opening : Lexeme.startsWith source node.start "async".toList = true)
      (next : Lexeme.startsWith source (behindWord source "async" node.start)
        "function".toList = true)
      (declares : DeclaresWordAt source node (behindStar source
        (behindWord source "function" (behindWord source "async" node.start))))
  | binding {word : String} (listed : word ∈ ["class", "const", "let", "var"])
      (opening : Lexeme.startsWith source node.start word.toList = true)
      (declares :
        Lexeme.startsWith source (behindWord source word node.start) ['\x7b'] = false →
        Lexeme.startsWith source (behindWord source word node.start) ['['] = false →
        DeclaresWordAt source node (behindWord source word node.start))
  | marked {mark : String} (listed : mark ∈ ["@", "abstract"])
      (opening : Lexeme.startsWith source node.start mark.toList = true)

namespace Grammar

open Reader

variable {go : Rules} {source : ByteArray} {cursor : Cursor}

/-- The first part with a role stands behind parts with none. -/
theorem find?_role {front back : List Node} {part : Node} {field : Field}
    (plain : ∀ node ∈ front, node.field ≠ some field) (role : part.field = some field) :
    (front ++ part :: back).find? (·.field == some field) = some part := by
  have none : front.find? (·.field == some field) = none := by
    rw [List.find?_eq_none]
    intro node member same
    exact plain node member (beq_iff_eq.mp same)
  rw [List.find?_append, none, Option.none_or, List.find?_cons, role, beq_self_eq_true]

/-- A node over parts starts where the first of them does. -/
theorem start_over {kind : Kind} {parts children : List Node} :
    (Node.over kind parts children).start = (parts.head?.map (·.start)).getD 0 := by
  cases parts <;> rfl

/-- A category of nodes that neither export nor declare constants or variables. -/
def declaresItself (kind : Kind) : Bool :=
  kind != .exportStatement && kind != .lexicalDeclaration && kind != .variableDeclaration

/-- What is found where a function is read behind some parts: it starts with the first of them, and
it introduces the word behind its keyword if it has a body. -/
def ReadsFunction (source : ByteArray) (front : List Node) (place : Nat) (node : Node) : Prop :=
  Lexeme.startsWith source place "function".toList = true ∧ declaresItself node.kind = true ∧
    node.start = (front.head?.map (·.start)).getD place ∧
    (isTopLevelDeclaration node.kind = true →
      DeclaresWordAt source node (behindStar source (behindWord source "function" place)))

theorem finds_functionDeclaration {front : List Node} (plain : ∀ node ∈ front, node.field = none) :
    Finds (functionDeclaration go front) source cursor fun node _ =>
      ReadsFunction source front cursor.next node := by
  unfold functionDeclaration
  apply finds_bind
  apply finds_token
  intro starts function behind here unnamed next
  apply finds_bind
  apply finds_sees
  extract_lets rest
  have goesOn (star : List Node) (middle : Cursor) (unnamedStar : ∀ node ∈ star, node.field = none)
      (place : middle.next = behindStar source behind.next) :
      Finds (rest star) source middle fun node _ =>
        ReadsFunction source front cursor.next node := by
    have first (more : List Node) :
        (((front ++ function :: star) ++ more).head?.map (·.start)).getD 0 =
          (front.head?.map (·.start)).getD cursor.next := by
      cases front with
      | nil => simp [here]
      | cons one _ => simp
    have nameless : ∀ node ∈ front ++ function :: star, node.field ≠ some .name := by
      intro node member
      have none : node.field = none := by
        rcases List.mem_append.mp member with inFront | behindFront
        · exact plain node inFront
        rcases List.mem_cons.mp behindFront with rfl | inStar
        · exact unnamed
        · exact unnamedStar node inStar
      rw [none]
      exact nofun
    apply finds_bind
    apply finds_wordAs
    intro name _ covers kind
    apply finds_last
    intro signature _
    apply finds_bind
    apply finds_sees
    apply finds_ite
    · intro _
      apply finds_last
      intro body _
      apply finds_build
      refine ⟨starts, ?_, ?_, fun _ => ⟨name.as .name, ?_, ?_⟩⟩
      · dsimp only [Node.over]
        split <;> rfl
      · rw [start_over, List.append_assoc, first]
      · refine .ofFunction ?_ ?_
        · dsimp only [Node.over]
          split <;> simp
        · rw [child?_over, List.append_assoc]
          exact find?_role nameless rfl
      · rw [← next, ← place]
        exact ⟨covers.start, covers.stop⟩
    · intro _
      apply finds_ite
      · intro _
        apply finds_last
        intro ending _
        apply finds_build
        refine ⟨starts, rfl, ?_, nofun⟩
        rw [start_over, List.append_assoc, first]
      · intro _
        exact finds_refuse
  apply finds_ite
  · intro sees
    apply finds_bind
    apply finds_token
    intro _ star middle _ unnamedStar place
    apply finds_bind
    apply finds_pure
    apply goesOn
    · simpa using unnamedStar
    · rw [place, behindStar, if_pos sees]
  · intro sees
    apply finds_bind
    apply finds_pure
    apply goesOn
    · exact List.forall_mem_nil _
    · rw [behindStar, if_neg sees]

/-- A declaration at the top level opens as one, and one of constants or variables has no name of its
own. -/
structure Forms (source : ByteArray) (node : Node) : Prop where
  opens : Opens source node
  nameless : node.kind = .lexicalDeclaration ∨ node.kind = .variableDeclaration →
    node.child? .name = none

/-- What is found where a declaration is read: no export, and a declaration that is formed as one. -/
def ReadsDeclaration (source : ByteArray) (node : Node) : Prop :=
  node.kind ≠ .exportStatement ∧ (isTopLevelDeclaration node.kind = true → Forms source node)

/-- What neither exports nor declares constants or variables is read as a declaration if it opens as
one. -/
theorem readsDeclaration_of_itself {node : Node} (itself : declaresItself node.kind = true)
    (opens : isTopLevelDeclaration node.kind = true → Opens source node) :
    ReadsDeclaration source node := by
  simp only [declaresItself, Bool.and_eq_true, bne_iff_ne] at itself
  obtain ⟨⟨plain, notLexical⟩, notVariable⟩ := itself
  refine ⟨plain, fun top => ⟨opens top, fun values => ?_⟩⟩
  rcases values with lexical | variable'
  · exact absurd lexical notLexical
  · exact absurd variable' notVariable

/-- Decorators stand behind at signs and have a role of their own. -/
def Decorates (source : ByteArray) (node : Node) : Prop :=
  node.field = some (.role "decorator") ∧
    Lexeme.startsWith source node.start "@".toList = true

theorem finds_decorator :
    Finds (decorator go) source cursor fun node _ =>
      Lexeme.startsWith source node.start "@".toList = true := by
  unfold decorator
  apply finds_bind
  apply finds_token
  intro starts at' _ here _ _
  apply finds_last
  intro bracketed _
  extract_lets rest
  have goesOn (target : Node) (middle : Cursor) :
      Finds (rest target) source middle fun node _ =>
        Lexeme.startsWith source node.start "@".toList = true := by
    apply finds_build
    rw [start_over]
    rw [← here] at starts
    exact starts
  apply finds_ite
  · intro _
    exact finds_last goesOn
  · intro _
    refine finds_last fun _ _ => finds_last fun _ _ => finds_last fun _ _ => finds_last fun _ _ => ?_
    apply finds_ite
    · intro _
      exact finds_last fun _ _ => finds_last goesOn
    · intro _
      exact finds_last goesOn

theorem finds_decorators :
    Finds (decorators go) source cursor fun marks _ => ∀ mark ∈ marks, Decorates source mark := by
  apply finds_many
  intro before
  apply finds_bind
  apply finds_sees
  apply finds_ite
  · intro _
    apply finds_bind
    refine finds_decorator.mono fun mark _ starts => ?_
    apply finds_pure
    rintro _ ⟨⟩ node member
    obtain rfl := List.mem_singleton.mp member
    exact ⟨rfl, starts⟩
  · intro _
    apply finds_pure
    exact nofun

theorem finds_classDeclaration {marks : List Node} (decorated : ∀ mark ∈ marks, Decorates source mark) :
    Finds (classDeclaration go marks) source cursor fun node _ => ReadsDeclaration source node := by
  unfold classDeclaration
  apply finds_bind
  apply finds_seesWord
  intro seen
  extract_lets rest
  have goesOn (abstract' : List Node) (middle : Cursor)
      (unnamed : ∀ node ∈ abstract', node.field = none)
      (opening : abstract' = [] ∧ middle = cursor ∨ ∃ first, abstract' = [first] ∧
        Lexeme.startsWith source first.start "abstract".toList = true) :
      Finds (rest abstract') source middle fun node _ => ReadsDeclaration source node := by
    apply finds_bind
    apply finds_keyword
    intro starts class' behind here unnamedClass next
    apply finds_bind
    apply finds_wordAs
    intro name _ covers kind
    apply finds_last
    intro tail _
    apply finds_build
    apply readsDeclaration_of_itself
    · dsimp only [Node.over]
      split <;> rfl
    · intro _
      cases marks with
      | cons mark marks =>
          refine @Opens.marked _ _ "@" (by decide) ?_
          rw [start_over]
          exact (decorated mark List.mem_cons_self).2
      | nil =>
          rcases opening with ⟨rfl, rfl⟩ | ⟨first, rfl, starts⟩
          · refine @Opens.binding _ _ "class" (by decide) ?_ ?_
            · rw [start_over]
              change Lexeme.startsWith source class'.start "class".toList = true
              rw [here]
              exact starts
            · intro _ _
              rw [start_over]
              change DeclaresWordAt source _ (behindWord source "class" class'.start)
              rw [here, ← next]
              have nameless : ∀ node ∈ [class'], node.field ≠ some .name := by
                simp [unnamedClass]
              refine ⟨name.as .name, .ofClass (Or.inl rfl) ?_, covers.start, covers.stop⟩
              rw [child?_over]
              exact find?_role nameless rfl
          · refine @Opens.marked _ _ "abstract" (by decide) ?_
            rw [start_over]
            exact starts
  apply finds_ite
  · intro _
    apply finds_bind
    apply finds_token
    intro starts abstract' middle here unnamed _
    apply finds_bind
    apply finds_pure
    apply goesOn
    · simpa using unnamed
    · rw [← here] at starts
      exact Or.inr ⟨abstract', rfl, starts⟩
  · intro _
    apply finds_bind
    apply finds_pure
    exact goesOn [] _ (List.forall_mem_nil _) (Or.inl ⟨rfl, rfl⟩)

/-- A declarator introduces the word that it starts with, unless that is a pattern. -/
def BindsWordAt (source : ByteArray) (place : Nat) (node : Node) : Prop :=
  Lexeme.startsWith source place openBrace.toList = false →
    Lexeme.startsWith source place "[".toList = false →
      ∃ leaf, node.kind = .variableDeclarator ∧ node.named = true ∧
        node.child? .name = some leaf ∧ leaf.kind = .identifier ∧ CoversWord source place leaf

theorem finds_declaredName :
    Finds (declaredName go) source cursor fun node _ =>
      Lexeme.startsWith source cursor.next openBrace.toList = false →
        Lexeme.startsWith source cursor.next "[".toList = false →
          node.kind = .identifier ∧ CoversWord source cursor.next node := by
  unfold declaredName
  apply finds_bind
  apply finds_sees
  apply finds_bind
  apply finds_sees
  apply finds_ite
  · intro pattern
    apply finds_any
    intro node _ brace bracket
    rw [brace, bracket] at pattern
    cases pattern
  · intro _
    apply finds_wordAs
    intro node _ covers kind _ _
    exact ⟨kind, covers⟩

theorem finds_declarator :
    Finds (declarator go) source cursor fun found _ =>
      found.1.field = none ∧ BindsWordAt source cursor.next found.1 := by
  unfold declarator
  apply finds_bind
  refine finds_declaredName.mono fun name _ named => ?_
  refine finds_last fun _ _ => finds_last fun _ _ => ?_
  extract_lets marked
  have valued (mark annotation value : List Node) (middle : Cursor) :
      Finds (do
        let node ← build .variableDeclarator (name.as .name :: mark ++ annotation ++ value)
        return (node, !value.isEmpty)) source middle fun found _ =>
          found.1.field = none ∧ BindsWordAt source cursor.next found.1 := by
    apply finds_bind
    apply finds_build
    apply finds_pure
    refine ⟨rfl, fun brace bracket => ⟨name.as .name, rfl, rfl, ?_, (named brace bracket).1, ?_⟩⟩
    · rw [child?_over, List.cons_append, List.cons_append]
      exact @find?_role [] _ _ _ (List.forall_mem_nil _) rfl
    · exact ⟨(named brace bracket).2.start, (named brace bracket).2.stop⟩
  have goesOn (mark : List Node) (middle : Cursor) :
      Finds (marked mark) source middle fun found _ =>
        found.1.field = none ∧ BindsWordAt source cursor.next found.1 := by
    refine finds_last fun _ _ => ?_
    apply finds_ite
    · intro _
      apply finds_bind
      exact finds_refuse
    · intro _
      refine finds_last fun annotation _ => ?_
      apply finds_ite
      · intro _
        exact finds_last fun value _ => valued mark annotation value _
      · intro _
        exact finds_last fun value _ => valued mark annotation value _
  apply finds_ite
  · intro _
    exact finds_last fun _ _ => finds_last goesOn
  · intro _
    exact finds_last goesOn

theorem finds_moreDeclarators {fuel : Nat} {found : List Node} {valued : Bool}
    (unnamed : ∀ node ∈ found, node.field = none) :
    Finds (moreDeclarators go fuel found valued) source cursor fun result _ =>
      (∀ node ∈ result.1, node.field = none) ∧ ∀ node ∈ found, node ∈ result.1 := by
  induction fuel generalizing found valued cursor with
  | zero => exact finds_refuse
  | succ fuel inductionHypothesis =>
      unfold moreDeclarators
      refine finds_last fun sees _ => ?_
      apply finds_ite
      · intro _
        apply finds_bind
        apply finds_token
        intro _ comma _ _ plain _
        apply finds_bind
        refine finds_declarator.mono fun ⟨node, again⟩ _ ⟨field, _⟩ => ?_
        have known : ∀ part ∈ node :: comma :: found, part.field = none :=
          List.forall_mem_cons.mpr ⟨field, List.forall_mem_cons.mpr ⟨plain, unnamed⟩⟩
        refine (inductionHypothesis known).mono fun result _ ⟨fields, kept⟩ => ⟨fields, ?_⟩
        intro part member
        exact kept part (List.mem_cons_of_mem _ (List.mem_cons_of_mem _ member))
      · intro _
        apply finds_pure
        exact ⟨fun node member => unnamed node (List.mem_reverse.mp member),
          fun node member => List.mem_reverse.mpr member⟩

/-- The end of a statement has no role. -/
theorem finds_semicolon {afterType : Bool} :
    Finds (semicolon afterType) source cursor fun ending _ =>
      ∀ node ∈ ending, node.field = none := by
  unfold semicolon
  refine finds_last fun _ _ => ?_
  apply finds_ite
  · intro _
    apply finds_bind
    apply finds_token
    intro _ mark _ _ plain _
    apply finds_pure
    simpa using plain
  · intro _
    refine finds_last fun _ _ => ?_
    apply finds_ite
    · intro _
      apply finds_pure
      exact List.forall_mem_nil _
    · intro _
      exact finds_refuse

theorem finds_variableDeclaration {word : String} (listed : word ∈ ["const", "let", "var"]) :
    Finds (variableDeclaration go word) source cursor fun node _ => ReadsDeclaration source node := by
  unfold variableDeclaration
  apply finds_bind
  apply finds_token
  intro starts keyword behind here plain next
  apply finds_bind
  refine finds_declarator.mono fun ⟨first, valued⟩ _ ⟨field, binds⟩ => ?_
  refine finds_last fun _ _ => ?_
  apply finds_bind
  have known : ∀ node ∈ [first], node.field = none := by simpa using field
  refine (finds_moreDeclarators known).mono fun ⟨declarators, again⟩ _ ⟨fields, kept⟩ => ?_
  apply finds_bind
  refine finds_semicolon.mono fun ending _ unnamed => ?_
  have built (kind : Kind) (lead : Node)
      (values : kind = .lexicalDeclaration ∨ kind = .variableDeclaration)
      (start : lead.start = cursor.next) (aside : lead.field ≠ some .name) :
      ReadsDeclaration source (Node.over kind (lead :: declarators ++ ending)
        (withComments source (lead :: declarators ++ ending))) := by
    have nameless : (Node.over kind (lead :: declarators ++ ending)
        (withComments source (lead :: declarators ++ ending))).child? .name = none := by
      rw [child?_over, List.find?_eq_none]
      intro node member same
      rcases List.mem_cons.mp member with rfl | inside
      · exact aside (beq_iff_eq.mp same)
      have none : node.field = none := by
        rcases List.mem_append.mp inside with declared | ended
        · exact fields node declared
        · exact unnamed node ended
      rw [none] at same
      cases same
    refine ⟨?_, fun _ => ⟨@Opens.binding _ _ word ?_ ?_ fun brace bracket => ?_, fun _ => nameless⟩⟩
    · rcases values with rfl | rfl <;> exact nofun
    · exact List.mem_cons_of_mem _ listed
    · rw [start_over]
      change Lexeme.startsWith source lead.start word.toList = true
      rw [start]
      exact starts
    · rw [start_over] at brace bracket ⊢
      change Lexeme.startsWith source (behindWord source word lead.start) openBrace.toList = false
        at brace
      change Lexeme.startsWith source (behindWord source word lead.start) "[".toList = false
        at bracket
      change DeclaresWordAt source _ (behindWord source word lead.start)
      rw [start, ← next] at brace bracket ⊢
      obtain ⟨leaf, declares, named, found, identifier, covers⟩ := binds brace bracket
      have member : first ∈ lead :: declarators ++ ending :=
        List.mem_cons_of_mem _ (List.mem_append_left _ (kept first (List.mem_singleton_self _)))
      exact ⟨leaf, .ofValues values nameless (mem_namedChildren_over member named) declares found
        (.name identifier), covers⟩
  apply finds_ite
  · intro _
    apply finds_build
    apply built .variableDeclaration keyword (Or.inr rfl) here
    rw [plain]
    exact nofun
  · intro _
    apply finds_build
    exact built .lexicalDeclaration (keyword.as (.role "kind")) (Or.inl rfl) here nofun

/-! ## What is no declaration at the top level -/

/-- A category that is neither an export nor a declaration that counts at the top level. -/
def isAside (kind : Kind) : Bool := kind != .exportStatement && !isTopLevelDeclaration kind

/-- Nothing that a reading finds is an export or a declaration that counts at the top level. -/
abbrev ReadsAside (reader : Reader Node) : Prop :=
  Always reader fun node => isAside node.kind = true

theorem readsAside_build {kind : Kind} {parts : List Node} (aside : isAside kind = true) :
    ReadsAside (build kind parts) :=
  fun _ _ => finds_build aside

theorem readsAside_blockRule : ReadsAside (blockRule go) :=
  always_last fun _ => always_last fun _ => always_last fun _ => readsAside_build rfl

theorem readsAside_expressionStatement : ReadsAside (expressionStatement go) :=
  always_last fun _ => always_last fun _ => readsAside_build rfl

theorem readsAside_typeAlias : ReadsAside (typeAlias go) := by
  unfold typeAlias
  repeat' first
    | with_reducible exact readsAside_build rfl
    | with_reducible refine always_last fun _ => ?_

theorem readsAside_interfaceDeclaration : ReadsAside (interfaceDeclaration go) := by
  unfold interfaceDeclaration
  repeat' first
    | with_reducible exact readsAside_build rfl
    | with_reducible refine always_ite ?_ ?_
    | with_reducible refine always_last fun _ => ?_

theorem readsAside_enumDeclaration {front : List Node} : ReadsAside (enumDeclaration go front) := by
  unfold enumDeclaration
  repeat' first
    | with_reducible exact readsAside_build rfl
    | with_reducible refine always_last fun _ => ?_

theorem readsAside_moduleDeclaration {kind : Kind} (aside : isAside kind = true) (text : String) :
    ReadsAside (moduleDeclaration go kind text) := by
  unfold moduleDeclaration
  repeat' first
    | with_reducible exact readsAside_build aside
    | with_reducible refine always_ite ?_ ?_
    | with_reducible refine always_last fun _ => ?_

theorem readsAside_importAlias : ReadsAside importAlias :=
  always_last fun _ => always_last fun _ => always_last fun _ => always_last fun _ =>
    always_last fun _ => readsAside_build rfl

theorem readsAside_importStatement : ReadsAside (importStatement go) := by
  unfold importStatement
  repeat' first
    | with_reducible exact readsAside_build rfl
    | with_reducible refine always_ite ?_ ?_
    | with_reducible refine always_last fun _ => ?_

theorem readsAside_ifStatement : ReadsAside (ifStatement go) := by
  unfold ifStatement
  repeat' first
    | with_reducible exact readsAside_build rfl
    | with_reducible refine always_ite ?_ ?_
    | with_reducible refine always_last fun _ => ?_

theorem readsAside_switchStatement : ReadsAside (switchStatement go) := by
  unfold switchStatement
  repeat' first
    | with_reducible exact readsAside_build rfl
    | with_reducible refine always_last fun _ => ?_

theorem readsAside_forStatement : ReadsAside (forStatement go) := by
  unfold forStatement
  repeat' first
    | with_reducible exact readsAside_build rfl
    | with_reducible refine always_ite ?_ ?_
    | with_reducible refine always_last fun _ => ?_
    | split

theorem readsAside_tryStatement : ReadsAside (tryStatement go) := by
  unfold tryStatement
  repeat' first
    | with_reducible exact readsAside_build rfl
    | with_reducible refine always_ite ?_ ?_
    | with_reducible refine always_last fun _ => ?_

theorem readsAside_jumpStatement {kind : Kind} (aside : isAside kind = true) (text : String) :
    ReadsAside (jumpStatement kind text) := by
  unfold jumpStatement
  repeat' first
    | with_reducible exact readsAside_build aside
    | with_reducible refine always_ite ?_ ?_
    | with_reducible refine always_last fun _ => ?_

/-! ## Declarations, exports and statements -/

theorem readsDeclaration_of_aside {node : Node} (aside : isAside node.kind = true) :
    ReadsDeclaration source node := by
  obtain ⟨plain, other⟩ := Bool.and_eq_true_iff.mp aside
  refine ⟨bne_iff_ne.mp plain, fun top => ?_⟩
  rw [top] at other
  cases other

theorem ReadsFunction.plain {place : Nat} {node : Node} (reads : ReadsFunction source [] place node) :
    ReadsDeclaration source node := by
  obtain ⟨starts, kind, start, declares⟩ := reads
  refine readsDeclaration_of_itself kind fun top => .function ?_ ?_
  · rw [start]
    exact starts
  · rw [start]
    exact declares top

theorem ReadsFunction.async {place : Nat} {async node : Node}
    (starts : Lexeme.startsWith source async.start "async".toList = true)
    (next : place = behindWord source "async" async.start)
    (reads : ReadsFunction source [async] place node) : ReadsDeclaration source node := by
  obtain ⟨function, kind, start, declares⟩ := reads
  have same : node.start = async.start := start
  rw [next] at function declares
  refine readsDeclaration_of_itself kind fun top => .asyncFunction ?_ ?_ ?_
  · rw [same]
    exact starts
  · rw [same]
    exact function
  · rw [same]
    exact declares top

theorem finds_some {reader : Reader Node}
    (finds : Finds reader source cursor fun node _ => ReadsDeclaration source node) :
    Finds (reader >>= fun node => pure (some node)) source cursor fun found _ =>
      ∀ node ∈ found, ReadsDeclaration source node := by
  apply finds_bind
  refine finds.mono fun node _ reads => finds_pure ?_
  rintro _ ⟨⟩
  exact reads

theorem finds_some_aside {reader : Reader Node} (aside : ReadsAside reader) :
    Finds (reader >>= fun node => pure (some node)) source cursor fun found _ =>
      ∀ node ∈ found, ReadsDeclaration source node :=
  finds_some ((aside source cursor).mono fun _ _ => readsDeclaration_of_aside)

theorem finds_none :
    Finds (pure none) source cursor fun (found : Option Node) _ =>
      ∀ node ∈ found, ReadsDeclaration source node :=
  finds_pure nofun

/-- A declaration that is read opens as one. -/
theorem finds_declaration :
    Finds (declaration go) source cursor fun found _ =>
      ∀ node ∈ found, ReadsDeclaration source node := by
  unfold declaration
  refine finds_last fun text behind => ?_
  split
  · refine finds_last fun _ _ => finds_ite (fun _ => finds_some ?_) fun _ => finds_none
    exact (finds_functionDeclaration (List.forall_mem_nil _)).mono fun _ _ reads => reads.plain
  · refine finds_last fun _ _ => finds_ite (fun _ => ?_) fun _ => finds_none
    apply finds_bind
    apply finds_token
    intro starts async _ here plain next
    rw [← here] at starts next
    apply finds_some
    have unnamed : ∀ node ∈ [async], node.field = none := by simpa using plain
    exact (finds_functionDeclaration unnamed).mono fun _ _ reads => reads.async starts next
  · refine finds_last fun _ _ => finds_ite (fun _ => finds_some ?_) fun _ => finds_none
    exact finds_classDeclaration (List.forall_mem_nil _)
  · refine finds_last fun _ _ => finds_ite (fun _ => finds_some ?_) fun _ => finds_none
    exact finds_classDeclaration (List.forall_mem_nil _)
  · exact finds_some (finds_variableDeclaration (by decide))
  · refine finds_last fun _ _ => finds_ite (fun _ => ?_) fun _ => ?_
    · exact finds_last fun _ _ => finds_some_aside readsAside_enumDeclaration
    · exact finds_some (finds_variableDeclaration (by decide))
  · refine finds_last fun _ _ => finds_ite (fun _ => ?_) fun _ => finds_none
    exact finds_some (finds_variableDeclaration (by decide))
  · refine finds_last fun _ _ => finds_ite (fun _ => ?_) fun _ => finds_none
    exact finds_some_aside readsAside_typeAlias
  · exact finds_some_aside readsAside_interfaceDeclaration
  · exact finds_some_aside readsAside_enumDeclaration
  · refine finds_last fun _ _ => finds_ite (fun _ => ?_) fun _ => finds_none
    exact finds_some_aside (readsAside_moduleDeclaration rfl _)
  · refine finds_last fun _ _ => finds_ite (fun _ => ?_) fun _ => finds_none
    exact finds_some_aside (readsAside_moduleDeclaration rfl _)
  · refine finds_last fun _ _ => finds_ite (fun _ => finds_none) fun _ => ?_
    refine finds_last fun _ _ => finds_last fun _ _ => finds_ite (fun _ => ?_) fun _ => ?_
    · exact finds_last fun _ _ => finds_last fun _ _ => finds_some_aside (readsAside_build rfl)
    refine finds_last fun _ _ => finds_last fun _ _ => finds_ite (fun _ => ?_) fun _ => ?_
    · exact finds_last fun _ _ => finds_last fun _ _ => finds_last fun _ _ => finds_last fun _ _ =>
        finds_last fun _ _ => finds_last fun _ _ => finds_some_aside (readsAside_build rfl)
    refine finds_last fun _ _ => finds_ite (fun _ => ?_) fun _ => ?_
    · exact finds_last fun _ _ => finds_some_aside (readsAside_build rfl)
    refine finds_last fun _ _ => finds_ite (fun _ => ?_) fun _ => finds_refuse
    exact finds_some_aside (readsAside_build rfl)
  · refine finds_last fun _ _ => finds_ite (fun _ => ?_) fun _ => finds_none
    exact finds_some_aside readsAside_importAlias
  · exact finds_none

/-- What is found where a statement is read: a declaration is formed as one, by itself or exported. -/
structure ReadsStatement (source : ByteArray) (node : Node) : Prop where
  declares : isTopLevelDeclaration node.kind = true → Forms source node
  exports : node.kind = .exportStatement → ∀ inner, node.child? .declaration = some inner →
    isTopLevelDeclaration inner.kind = true → Forms source inner

theorem readsStatement_of_declaration {node : Node} (reads : ReadsDeclaration source node) :
    ReadsStatement source node where
  declares := reads.2
  exports exported := absurd exported reads.1

theorem declares_as {node leaf : Node} (declares : Declares node leaf) (field : Field) :
    Declares (node.as field) leaf := by
  cases declares with
  | ofFunction kind found => exact .ofFunction kind found
  | ofClass kind found => exact .ofClass kind found
  | ofValues kind nameless member declares found introduces =>
      exact .ofValues kind nameless member declares found introduces

theorem opens_as {node : Node} (opens : Opens source node) (field : Field) :
    Opens source (node.as field) := by
  have told {place : Nat} (declares : DeclaresWordAt source node place) :
      DeclaresWordAt source (node.as field) place := by
    obtain ⟨leaf, inside, covers⟩ := declares
    exact ⟨leaf, declares_as inside field, covers⟩
  cases opens with
  | function opening declares => exact .function opening (told declares)
  | asyncFunction opening next declares => exact .asyncFunction opening next (told declares)
  | binding listed opening declares =>
      exact .binding listed opening fun brace bracket => told (declares brace bracket)
  | marked listed opening => exact .marked listed opening

theorem forms_as {node : Node} (forms : Forms source node) (field : Field) :
    Forms source (node.as field) :=
  ⟨opens_as forms.opens field, forms.nameless⟩

/-- An export of a declaration that was read. -/
theorem readsStatement_export {front : List Node} {inner : Node}
    (aside : ∀ node ∈ front, node.field ≠ some .declaration) (reads : ReadsDeclaration source inner) :
    ReadsStatement source (Node.over .exportStatement (front ++ [inner.as .declaration])
      (withComments source (front ++ [inner.as .declaration]))) where
  declares := nofun
  exports _ other found top := by
    rw [child?_over, find?_role aside rfl] at found
    obtain rfl := Option.some.inj found
    exact forms_as (reads.2 top) .declaration

/-- An export of something else. -/
theorem readsStatement_exportOther {parts : List Node}
    (aside : ∀ node ∈ parts, node.field ≠ some .declaration) :
    ReadsStatement source (Node.over .exportStatement parts (withComments source parts)) where
  declares := nofun
  exports _ other found _ := by
    rw [child?_over] at found
    have role := List.find?_some found
    exact absurd (beq_iff_eq.mp role) (aside other (List.mem_of_find?_eq_some found))

/-- No part that is read has the role of an exported declaration. -/
abbrev NoDeclaration (nodes : List Node) : Prop := ∀ node ∈ nodes, node.field ≠ some .declaration

theorem noDeclaration_of_unroled {nodes : List Node} (unnamed : ∀ node ∈ nodes, node.field = none) :
    NoDeclaration nodes := by
  intro node member
  rw [unnamed node member]
  exact nofun

theorem noDeclaration_append {front back : List Node} (first : NoDeclaration front)
    (last : NoDeclaration back) : NoDeclaration (front ++ back) :=
  List.forall_mem_append.mpr ⟨first, last⟩

theorem noDeclaration_cons {node : Node} {nodes : List Node}
    (plain : node.field ≠ some .declaration) (others : NoDeclaration nodes) :
    NoDeclaration (node :: nodes) :=
  List.forall_mem_cons.mpr ⟨plain, others⟩

theorem noDeclaration_single {node : Node} (plain : node.field = none) : NoDeclaration [node] :=
  noDeclaration_of_unroled (List.forall_mem_singleton.mpr plain)

/-- The module that names come from is no declaration. -/
theorem finds_fromClause :
    Finds fromClause source cursor fun nodes _ => NoDeclaration nodes := by
  unfold fromClause
  apply finds_bind
  apply finds_keyword
  intro _ from' _ _ plain _
  refine finds_last fun text _ => finds_pure ?_
  exact noDeclaration_append (noDeclaration_single plain)
    (noDeclaration_cons nofun (List.forall_mem_nil _))

theorem unroled_specifierList {clause item : Kind} : Unroled (specifierList clause item) :=
  always_last fun _ => always_last fun _ => always_last fun _ => unroled_build

/-- An export that ends with a semicolon or where its line does. -/
theorem finds_exportOther {parts : List Node} (aside : NoDeclaration parts) :
    Finds (do build .exportStatement (parts ++ (← semicolon))) source cursor fun node _ =>
      ReadsStatement source node := by
  apply finds_bind
  refine finds_semicolon.mono fun ending _ unnamed => finds_build ?_
  exact readsStatement_exportOther (noDeclaration_append aside (noDeclaration_of_unroled unnamed))

theorem finds_defaultExport {front : List Node} (aside : NoDeclaration front) :
    Finds (defaultExport go front) source cursor fun node _ => ReadsStatement source node := by
  unfold defaultExport
  refine finds_last fun _ _ => finds_ite (fun _ => ?_) fun _ => ?_
  · apply finds_bind
    refine finds_decorators.mono fun marks _ decorated => ?_
    refine finds_last fun _ _ => finds_ite (fun _ => ?_) fun _ => finds_refuse
    apply finds_bind
    refine (finds_classDeclaration decorated).mono fun inner _ reads => finds_build ?_
    exact readsStatement_export aside reads
  · apply finds_bind
    refine finds_declaration.mono fun found _ reads => ?_
    cases found with
    | some inner => exact finds_build (readsStatement_export aside (reads inner rfl))
    | none =>
        apply finds_last
        intro value _
        apply finds_bind
        refine finds_semicolon.mono fun ending _ unnamed => finds_build ?_
        apply readsStatement_exportOther
        apply noDeclaration_append aside
        exact noDeclaration_cons nofun (noDeclaration_of_unroled unnamed)

/-- An export of names behind some parts, from another module or from this one. -/
theorem finds_exportList {clause item : Kind} {front more : List Node} (aside : NoDeclaration front)
    (others : NoDeclaration more) :
    Finds (do
      let names ← specifierList clause item
      let module' ← if ← seesWord "from" then fromClause else pure []
      build .exportStatement (front ++ (more ++ names :: module') ++ (← semicolon)))
      source cursor fun node _ => ReadsStatement source node := by
  apply finds_bind
  refine (unroled_specifierList source cursor).mono fun names _ plain => ?_
  refine finds_last fun _ _ => ?_
  extract_lets rest
  have goesOn (module' : List Node) (middle : Cursor) (plainModule : NoDeclaration module') :
      Finds (rest module') source middle fun node _ => ReadsStatement source node := by
    apply finds_exportOther
    apply noDeclaration_append aside
    apply noDeclaration_append others
    exact noDeclaration_append (noDeclaration_single plain) plainModule
  apply finds_ite
  · intro _
    apply finds_bind
    exact finds_fromClause.mono goesOn
  · intro _
    apply finds_bind
    exact finds_pure (goesOn [] _ (List.forall_mem_nil _))

/-- The declaration that is read behind `export` opens as one, if expressions have no role before
they are given one. -/
theorem finds_exportStatement {marks : List Node} (decorated : ∀ mark ∈ marks, Decorates source mark)
    (values : Unroled (go (.expression .atEnd assignmentLevel))) :
    Finds (exportStatement go marks) source cursor fun node _ => ReadsStatement source node := by
  unfold exportStatement
  apply finds_bind
  apply finds_token
  intro _ export' _ _ plain _
  have aside : NoDeclaration (marks ++ [export']) := by
    apply noDeclaration_append _ (noDeclaration_single plain)
    intro mark member
    rw [(decorated mark member).1]
    exact nofun
  refine finds_last fun _ _ => finds_ite (fun _ => ?star) fun _ => ?_
  case star =>
    apply finds_bind
    apply finds_token
    intro _ star _ _ plainStar _
    refine finds_last fun _ _ => finds_ite (fun _ => ?_) fun _ => ?_
    · refine finds_last fun _ _ => finds_last fun _ _ => ?_
      apply finds_bind
      refine (unroled_build _ _).mono fun namespace' _ plainNamespace => ?_
      apply finds_bind
      refine finds_fromClause.mono fun module' _ plainModule => finds_exportOther ?_
      apply noDeclaration_append aside
      exact noDeclaration_append (noDeclaration_single plainNamespace) plainModule
    · apply finds_bind
      refine finds_fromClause.mono fun module' _ plainModule => finds_exportOther ?_
      apply noDeclaration_append aside
      exact noDeclaration_append (noDeclaration_single plainStar) plainModule
  refine finds_last fun _ _ => finds_ite (fun _ => ?list) fun _ => ?_
  case list => exact @finds_exportList _ _ _ _ _ [] aside (List.forall_mem_nil _)
  refine finds_last fun _ _ => finds_ite (fun _ => ?value) fun _ => ?_
  case value =>
    apply finds_bind
    apply finds_token
    intro _ equals _ _ plainEquals _
    apply finds_bind
    refine (values _ _).mono fun value _ plainValue => ?_
    apply finds_bind
    refine finds_semicolon.mono fun ending _ unnamed => finds_build (readsStatement_exportOther ?_)
    apply noDeclaration_append aside
    apply noDeclaration_of_unroled
    exact List.forall_mem_cons.mpr ⟨plainEquals, List.forall_mem_cons.mpr ⟨plainValue, unnamed⟩⟩
  refine finds_last fun _ _ => finds_ite (fun _ => ?default) fun _ => ?_
  case default =>
    apply finds_bind
    apply finds_token
    intro _ default _ _ plainDefault _
    exact finds_defaultExport (noDeclaration_append aside (noDeclaration_single plainDefault))
  refine finds_last fun _ _ => finds_last fun _ _ => finds_ite (fun _ => ?types) fun _ => ?_
  case types =>
    apply finds_bind
    apply finds_token
    intro _ type _ _ plainType _
    exact @finds_exportList _ _ _ _ _ [type] aside (noDeclaration_single plainType)
  refine finds_last fun _ _ => finds_ite (fun _ => ?namespace') fun _ => ?_
  case namespace' =>
    apply finds_bind
    apply finds_token
    intro _ as' _ _ plainAs _
    apply finds_bind
    apply finds_keyword
    intro _ namespace' _ _ plainNamespace _
    apply finds_bind
    refine (unroled_wordAs _ _).mono fun name _ plainName => ?_
    apply finds_bind
    refine finds_semicolon.mono fun ending _ unnamed => finds_build (readsStatement_exportOther ?_)
    apply noDeclaration_append aside
    apply noDeclaration_of_unroled
    exact List.forall_mem_cons.mpr ⟨plainAs, List.forall_mem_cons.mpr ⟨plainNamespace,
      List.forall_mem_cons.mpr ⟨plainName, unnamed⟩⟩⟩
  refine finds_last fun _ _ => finds_ite (fun _ => ?marked) fun _ => ?_
  case marked =>
    apply finds_bind
    refine finds_decorators.mono fun more _ decoratedMore => ?_
    apply finds_bind
    refine (finds_classDeclaration decoratedMore).mono fun inner _ reads => finds_build ?_
    exact readsStatement_export aside reads
  apply finds_bind
  refine finds_declaration.mono fun found _ reads => ?_
  cases found with
  | some inner => exact finds_build (readsStatement_export aside (reads inner rfl))
  | none => exact finds_refuse

theorem readsStatement_of_aside {node : Node} (aside : isAside node.kind = true) :
    ReadsStatement source node :=
  readsStatement_of_declaration (readsDeclaration_of_aside aside)

/-- What is read as a declaration where one may be told, and else as something aside. -/
theorem finds_declarationOr {other : Reader Node} (aside : ReadsAside other) :
    Finds (do
      match ← declaration go with
      | some node => return node
      | none => other) source cursor fun node _ => ReadsStatement source node := by
  apply finds_bind
  refine finds_declaration.mono fun found middle reads => ?_
  cases found with
  | some node => exact finds_pure (readsStatement_of_declaration (reads node rfl))
  | none => exact (aside source middle).mono fun _ _ => readsStatement_of_aside

theorem finds_statementRule (blocks : ReadsAside (go .block))
    (values : Unroled (go (.expression .atEnd assignmentLevel))) :
    Finds (statementRule go) source cursor fun node _ => ReadsStatement source node := by
  have asideOf {reader : Reader Node} {middle : Cursor} (aside : ReadsAside reader) :
      Finds reader source middle fun node _ => ReadsStatement source node :=
    (aside source middle).mono fun _ _ => readsStatement_of_aside
  unfold statementRule
  refine finds_last fun _ _ => finds_ite (fun _ => asideOf blocks) fun _ => ?_
  refine finds_ite (fun _ => asideOf (always_last fun _ => readsAside_build rfl)) fun _ => ?_
  refine finds_ite (fun _ => ?marked) fun _ => ?_
  case marked =>
    apply finds_bind
    refine finds_decorators.mono fun marks _ decorated => ?_
    refine finds_last fun _ _ => finds_ite (fun _ => ?_) fun _ => ?_
    · exact finds_exportStatement decorated values
    refine finds_last fun _ _ => finds_ite (fun _ => ?_) fun _ => finds_refuse
    exact (finds_classDeclaration decorated).mono fun _ _ => readsStatement_of_declaration
  refine finds_last fun text _ => ?_
  split
  · exact asideOf readsAside_expressionStatement
  · refine finds_last fun _ _ => finds_ite (fun _ => ?_) fun _ => ?_
    · exact asideOf readsAside_expressionStatement
    · exact finds_exportStatement (List.forall_mem_nil _) values
  · refine finds_last fun _ _ => finds_ite (fun _ => ?_) fun _ => ?_
    · exact asideOf readsAside_expressionStatement
    refine finds_last fun _ _ => finds_ite (fun _ => ?_) fun _ => ?_
    · exact asideOf readsAside_importStatement
    · exact finds_declarationOr readsAside_importStatement
  · exact asideOf (always_last fun _ => always_last fun _ => readsAside_build rfl)
  · exact asideOf readsAside_ifStatement
  · exact asideOf readsAside_switchStatement
  · exact asideOf readsAside_forStatement
  · exact asideOf (always_last fun _ => always_last fun _ => always_last fun _ =>
      readsAside_build rfl)
  · refine asideOf (always_last fun _ => always_last fun _ => always_last fun _ =>
      always_last fun _ => always_last fun _ => always_ite ?_ ?_)
    · exact always_last fun _ => always_last fun _ => readsAside_build rfl
    · exact always_last fun _ => readsAside_build rfl
  · exact asideOf readsAside_tryStatement
  · exact asideOf (always_last fun _ => always_last fun _ => always_last fun _ =>
      readsAside_build rfl)
  · exact asideOf (readsAside_jumpStatement rfl _)
  · exact asideOf (readsAside_jumpStatement rfl _)
  · refine asideOf (always_last fun _ => always_last fun _ => always_last fun _ => always_ite ?_ ?_)
    · exact always_last fun _ => readsAside_build rfl
    · exact always_last fun _ => always_last fun _ => readsAside_build rfl
  · exact asideOf (always_last fun _ => always_last fun _ => always_last fun _ =>
      readsAside_build rfl)
  · refine finds_last fun _ _ => finds_ite (fun _ => ?_) fun _ => ?_
    · exact asideOf (always_last fun _ => always_last fun _ => always_last fun _ =>
        readsAside_build rfl)
    refine finds_ite (fun _ => asideOf readsAside_expressionStatement) fun _ => ?_
    exact finds_declarationOr readsAside_expressionStatement

/-! ## Whole modules -/

theorem readsAside_readBlock (depth : Nat) : ReadsAside (read depth .block) := by
  cases depth with
  | zero => exact always_refuse
  | succ depth => exact readsAside_blockRule

theorem finds_readStatement (depth : Nat) :
    Finds (read depth .statement) source cursor fun node _ => ReadsStatement source node := by
  cases depth with
  | zero => exact finds_refuse
  | succ depth =>
      exact finds_statementRule (readsAside_readBlock depth) (unroled_read_expression depth _)

theorem finds_program (depth : Nat) :
    Finds (program (read depth)) source cursor fun nodes _ =>
      ∀ node ∈ nodes, ReadsStatement source node := by
  have interpreted : Finds interpreterLine source cursor fun nodes _ =>
      ∀ node ∈ nodes, ReadsStatement source node := by
    unfold interpreterLine
    refine finds_last fun _ _ => finds_last fun here _ => ?_
    refine finds_last fun _ _ => finds_ite (fun _ => ?_) fun _ => finds_pure (List.forall_mem_nil _)
    apply finds_bind
    rintro line _ ⟨⟩
    apply finds_pure
    exact List.forall_mem_singleton.mpr (readsStatement_of_aside rfl)
  apply finds_bind
  refine interpreted.mono fun first _ readFirst => ?_
  apply finds_bind
  have turns (before : Cursor) : Finds (do
      if ← atEnd then return none
      let statement ← read depth .statement
      forgetDead
      return some [statement]) source before fun found _ =>
        ∀ kept ∈ found, ∀ node ∈ kept, ReadsStatement source node := by
    refine finds_last fun _ _ => finds_ite (fun _ => finds_pure nofun) fun _ => ?_
    apply finds_bind
    refine (finds_readStatement depth).mono fun statement _ reads => ?_
    refine finds_last fun _ _ => finds_pure ?_
    rintro _ ⟨⟩ node member
    obtain rfl := List.mem_singleton.mp member
    exact reads
  refine (finds_many turns).mono fun body _ readBody => finds_pure ?_
  exact List.forall_mem_append.mpr ⟨readFirst, readBody⟩

end Grammar

/-- Every declaration at the top level of a module is formed as one. -/
theorem forms_of_parse {source : ByteArray} {root declaration : Node}
    (parsed : parse source = .ok root) (top : TopLevel root declaration)
    (counts : isTopLevelDeclaration declaration.kind = true) : Grammar.Forms source declaration := by
  have statements {statement : Node} (member : statement ∈ root.namedChildren) :
      Grammar.ReadsStatement source statement := by
    unfold parse at parsed
    simp only at parsed
    split at parsed
    next nodes behind read =>
      split at parsed
      next =>
        cases parsed
        rcases mem_namedChildren_program member with inside | comment
        · exact Grammar.finds_program _ _ _ read statement inside
        · exact Grammar.readsStatement_of_aside (by rw [comment]; rfl)
      next => cases parsed
    next => cases parsed
  cases top with
  | statement member => exact (statements member).declares counts
  | exported member kind found => exact (statements member).exports kind _ found counts

/-- Every declaration at the top level of a module opens as one. -/
theorem opens_of_parse {source : ByteArray} {root declaration : Node}
    (parsed : parse source = .ok root) (top : TopLevel root declaration)
    (counts : isTopLevelDeclaration declaration.kind = true) : Opens source declaration :=
  (forms_of_parse parsed top counts).opens

/-- In a module that is read, declarations of constants and variables have no name of their own. -/
theorem valuesNameless_of_parse {source : ByteArray} {root : Node} (parsed : parse source = .ok root) :
    ValuesNameless root := by
  intro declaration top values
  refine (forms_of_parse parsed top ?_).nameless values
  rcases values with kind | kind <;> rw [kind] <;> rfl

/-- What is collected at the top level of a module that is read is among all that it declares. -/
theorem topLevelNames_subset_of_parse {source : ByteArray} {root : Node}
    (parsed : parse source = .ok root) : topLevelNames source root ⊆ declaredNames source root :=
  fun _ named => mem_declaredNames_of_topLevel (valuesNameless_of_parse parsed) named

end Lectern.Syntax
