/-
Module: Lectern.Proofs.Module.Banner
Purpose: The banner of a compiled module next to the module's own scope: which names both of them bind,
  and whether the names that its statements read have values by then. The banner leaves out what the
  module declares at its top level, whether or not a later line of it reads that name.
Trusted boundary: none
Main exports: BannerStatement, bannerStatements, RunsFrom, Makes, banner_runs_iff, banner_reads_too_early,
  scopes_overlap_iff, scopes_overlap
-/
import Lectern.Proofs.Module.Scope

namespace Lectern.Module

open Lectern.Syntax Lectern.Text

/-! ## The statements of a banner -/

/-- A statement of the banner: it binds one global of the host, or members of the UI library. -/
inductive BannerStatement where
  | global (name : String)
  | members (names : List String)
  deriving DecidableEq, Repr

/-- The object that holds the globals of the host. -/
def globalObject : String := "globalThis"

namespace BannerStatement

/-- The names that a statement binds. -/
def binds : BannerStatement → List String
  | .global name => [name]
  | .members names => names

/-- The name whose value a statement reads. -/
def reads : BannerStatement → String
  | .global _ => globalObject
  | .members _ => hostObject

/-- What stands on the left of a statement. -/
def target : BannerStatement → String
  | .global name => name
  | .members names => "\x7b " ++ ", ".intercalate names ++ " \x7d"

/-- The member of what it reads that a statement takes. -/
def path : BannerStatement → String
  | .global name => "." ++ name
  | .members _ => ""

/-- How a statement is written. -/
def text (statement : BannerStatement) : String :=
  "const " ++ statement.target ++ " = " ++ statement.reads ++ statement.path ++ ";"

end BannerStatement

/-- The members of the UI library that the banner of a module binds. -/
def boundHooks (declared : List String) : List String :=
  bannerHooks.filter fun name => !declared.contains name

/-- The statements of the banner of a module that declares some names. -/
def bannerStatements (declared : List String) : List BannerStatement :=
  (bannerGlobals.filter fun name => !declared.contains name).map .global ++
    (if (boundHooks declared).isEmpty then [] else [.members (boundHooks declared)])

theorem globalStatement_eq (name : String) :
    globalStatement name = (BannerStatement.global name).text := by
  have word : " = globalThis." = " = " ++ globalObject ++ "." := by decide
  simp only [globalStatement, word, BannerStatement.text, BannerStatement.target,
    BannerStatement.reads, BannerStatement.path, String.append_assoc]

theorem bindingStatement_eq (names : List String) :
    bindingStatement names = (BannerStatement.members names).text := by
  have opening : "const \x7b " = "const " ++ "\x7b " := by decide
  have closing : " \x7d = " = " \x7d" ++ " = " := by decide
  simp only [bindingStatement, opening, closing, BannerStatement.text, BannerStatement.target,
    BannerStatement.reads, BannerStatement.path, String.append_assoc, String.empty_append]

/-- The banner is made of its statements. -/
theorem banner_eq (declared : List String) :
    banner declared = "\n".intercalate ((bannerStatements declared).map (·.text)) := by
  have globals : globalStatement = fun name => (BannerStatement.global name).text :=
    funext globalStatement_eq
  rw [banner, bannerLines, bannerStatements, List.map_append, List.map_map, globals,
    bindingStatement_eq]
  change _ = "\n".intercalate (_ ++ List.map _ (if (boundHooks declared).isEmpty then _ else _))
  rw [apply_ite (List.map _)]
  rfl

/-- The banner of a module binds a name. -/
def BoundByBanner (declared : List String) (name : String) : Prop :=
  ∃ statement ∈ bannerStatements declared, name ∈ statement.binds

theorem mem_boundHooks {declared : List String} {name : String} :
    name ∈ boundHooks declared ↔ name ∈ bannerHooks ∧ name ∉ declared := by
  simp [boundHooks]

theorem members_mem {declared names : List String} :
    .members names ∈ bannerStatements declared ↔
      names = boundHooks declared ∧ ∃ hook ∈ bannerHooks, hook ∉ declared := by
  have some : (∃ hook ∈ bannerHooks, hook ∉ declared) ↔ boundHooks declared ≠ [] := by
    rw [ne_eq, List.eq_nil_iff_forall_not_mem]
    simp only [mem_boundHooks, not_forall, not_not]
  rw [some, bannerStatements]
  cases hooks : boundHooks declared with
  | nil => simp
  | cons first rest => simp

theorem global_mem {declared : List String} {name : String} :
    .global name ∈ bannerStatements declared ↔ name ∈ bannerGlobals ∧ name ∉ declared := by
  rw [bannerStatements]
  split
  next => simp
  next => simp

/-- Nothing stands behind the statement that takes members. -/
theorem bannerStatements_members_last {declared names : List String} {front back : List BannerStatement}
    (split : bannerStatements declared = front ++ .members names :: back) : back = [] := by
  have last : (bannerStatements declared).Pairwise fun first _ => ∃ name, first = .global name := by
    rw [bannerStatements, List.pairwise_append]
    refine ⟨List.pairwise_map.mpr (List.pairwise_of_forall fun name _ => ⟨name, rfl⟩), ?_, ?_⟩
    · split
      next => exact .nil
      next => exact List.pairwise_singleton _ _
    · rintro _ member _ _
      obtain ⟨name, _, rfl⟩ := List.mem_map.mp member
      exact ⟨name, rfl⟩
  rw [split] at last
  cases back with
  | nil => rfl
  | cons next rest =>
      have behind := (List.pairwise_cons.mp (List.pairwise_append.mp last).2.1).1
      obtain ⟨name, same⟩ := behind next List.mem_cons_self
      cases same

/-- The banner binds exactly those of its names that the module does not declare. -/
theorem boundByBanner_iff {declared : List String} {name : String} :
    BoundByBanner declared name ↔ name ∈ bannerNames ∧ name ∉ declared := by
  rw [bannerNames, List.mem_append]
  constructor
  · rintro ⟨statement, member, binds⟩
    cases statement with
    | «global» other =>
        obtain ⟨known, free⟩ := global_mem.mp member
        rw [List.mem_singleton.mp binds]
        exact ⟨Or.inl known, free⟩
    | members names =>
        obtain ⟨rfl, _⟩ := members_mem.mp member
        obtain ⟨known, free⟩ := mem_boundHooks.mp binds
        exact ⟨Or.inr known, free⟩
  · rintro ⟨known | known, free⟩
    · exact ⟨.global name, global_mem.mpr ⟨known, free⟩, List.mem_singleton_self name⟩
    · exact ⟨.members (boundHooks declared), members_mem.mpr ⟨rfl, name, known, free⟩,
        mem_boundHooks.mpr ⟨known, free⟩⟩

/-! ## Running a banner -/

/-- Some statements run one after the other while no name that one of them reads is still pending: a
name is pending until the statement that binds it has run. -/
def RunsFrom (pending : String → Prop) : List BannerStatement → Prop
  | [] => True
  | statement :: rest =>
    ¬ pending statement.reads ∧ RunsFrom (fun name => pending name ∧ name ∉ statement.binds) rest

/-- A constant, a variable of a block or a class at the top level introduces a name. -/
def LexicalName (source : ByteArray) (root : Node) (name : String) : Prop :=
  ∃ leaf, Lexical root leaf ∧ identifierName source leaf = name

/-- The names that have no value when a module starts to run: those that its banner binds, and those
that its top level introduces lexically. -/
def PendingAtStart (source : ByteArray) (root : Node) (name : String) : Prop :=
  BoundByBanner (topLevelNames source root) name ∨ LexicalName source root name

theorem runsFrom_append {pending : String → Prop} {front back : List BannerStatement} :
    RunsFrom pending (front ++ back) ↔
      RunsFrom pending front ∧
        RunsFrom (fun name => pending name ∧ ∀ statement ∈ front, name ∉ statement.binds) back := by
  induction front generalizing pending with
  | nil => simp [RunsFrom]
  | cons first rest inductionHypothesis =>
      rw [List.cons_append, RunsFrom, RunsFrom, inductionHypothesis]
      simp only [List.forall_mem_cons, and_assoc]

/-- Statements for globals run exactly if the object that they all read has a value. -/
theorem runsFrom_globals {pending : String → Prop} {names : List String}
    (other : globalObject ∉ names) :
    RunsFrom pending (names.map .global) ↔ (pending globalObject → names = []) := by
  induction names generalizing pending with
  | nil => simp [RunsFrom]
  | cons first rest inductionHypothesis =>
      rw [List.mem_cons, not_or] at other
      rw [List.map_cons, RunsFrom, inductionHypothesis other.2]
      constructor
      · rintro ⟨ready, _⟩ waiting
        exact absurd waiting ready
      · intro ready
        exact ⟨fun waiting => List.cons_ne_nil _ _ (ready waiting),
          fun waiting => absurd (ready waiting.1) (List.cons_ne_nil _ _)⟩

/-- A banner runs exactly if the object of the globals has a value where a statement reads it, and the
object of the UI library has one where members are taken from it. -/
theorem runsFrom_bannerStatements {pending : String → Prop} {declared : List String} :
    RunsFrom pending (bannerStatements declared) ↔
      ¬ (pending globalObject ∧ ∃ name ∈ bannerGlobals, name ∉ declared) ∧
        ¬ (pending hostObject ∧ hostObject ∈ declared ∧ ∃ hook ∈ bannerHooks, hook ∉ declared) := by
  have other : globalObject ∉ bannerGlobals.filter fun name => !declared.contains name :=
    fun inside => absurd (List.mem_filter.mp inside).1 (by decide)
  rw [bannerStatements, runsFrom_append, runsFrom_globals other]
  refine and_congr ?_ ?_
  · simp [List.filter_eq_nil_iff]
  · have bound : (∀ statement ∈ (bannerGlobals.filter fun name => !declared.contains name).map
        BannerStatement.global, hostObject ∉ statement.binds) ↔ hostObject ∈ declared := by
      constructor
      · intro free
        by_contra undeclared
        have kept : hostObject ∈ bannerGlobals.filter fun name => !declared.contains name :=
          List.mem_filter.mpr ⟨by decide, by simp [undeclared]⟩
        exact free _ (List.mem_map_of_mem kept) (List.mem_singleton_self hostObject)
      · intro known statement member binds
        obtain ⟨name, kept, rfl⟩ := List.mem_map.mp member
        rw [← List.mem_singleton.mp binds] at kept
        simp [known] at kept
    have taken : (∃ hook ∈ bannerHooks, hook ∉ declared) ↔ ¬ boundHooks declared = [] := by
      simp [boundHooks]
    rw [taken]
    cases boundHooks declared with
    | nil => simp [RunsFrom]
    | cons first rest =>
        rw [List.isEmpty_cons, if_neg Bool.false_ne_true, RunsFrom, BannerStatement.reads, bound]
        simp [RunsFrom]

/-! ## Compiled modules -/

/-- How a text is compiled: what the elision of its imports leaves and the tree of that, and what the
lowering makes of it. -/
structure Makes (text : String) (artifact : Artifact) (elided : ByteArray) (tree : Node)
    (body : ByteArray) : Prop where
  elision : ∃ root, parse text.toUTF8 = .ok root ∧ elided = elideImports text.toUTF8 root
  read : parse elided = .ok tree
  lowered : lowerTree elided tree = .ok body
  /-- The banner stands between the header and what the lowering makes. -/
  result : artifact.moduleText =
    "\n".intercalate [header (Digest.sourceHash text),
      "\n".intercalate ((bannerStatements (topLevelNames elided tree)).map (·.text)),
      String.ofList (trimWhile (· == '\n') (Utf8.read body).toList)] ++ "\n"

theorem makes_of_compile {text : String} {artifact : Artifact}
    (compiled : compile text = .ok artifact) :
    ∃ elided tree body, Makes text artifact elided tree body := by
  obtain ⟨root, tree, body, parsed, _, read, lowered, rfl⟩ := compile_steps compiled
  refine ⟨_, tree, body, ⟨root, parsed, rfl⟩, read, lowered, ?_⟩
  simp only [moduleText, banner_eq]

/-- What is found in the tree of what the check leaves of a text that compiles. -/
private def found {α : Type} (inspect : ByteArray → Node → α) (text : String) : Option α :=
  match compile text, parse text.toUTF8 with
  | .ok _, .ok root =>
    match parse (elideImports text.toUTF8 root) with
    | .ok tree => some (inspect (elideImports text.toUTF8 root) tree)
    | .error _ => none
  | _, _ => none

private theorem of_found {α : Type} {inspect : ByteArray → Node → α} {text : String} {value : α}
    (checked : found inspect text = some value) :
    ∃ artifact, compile text = .ok artifact ∧ ∀ {elided : ByteArray} {tree : Node}
      {body : ByteArray}, Makes text artifact elided tree body → inspect elided tree = value := by
  unfold found at checked
  split at checked
  next artifact root compiled parsed =>
    split at checked
    next tree read =>
      refine ⟨artifact, compiled, fun makes => ?_⟩
      obtain ⟨other, same, rfl⟩ := makes.elision
      cases parsed.symm.trans same
      cases read.symm.trans makes.read
      exact Option.some.inj checked
    next => cases checked
  next => cases checked

/-- The name that a declaration introduces where it introduces a single one. -/
private def singleName (source : ByteArray) (declaration : Node) : Option String := do
  let declarator ← declaration.namedChildren.find? (·.kind == .variableDeclarator)
  let pattern ← declarator.child? .name
  if pattern.kind == .identifier then some (identifierName source pattern) else none

private theorem of_singleName {source : ByteArray} {declaration : Node} {name : String}
    (single : singleName source declaration = some name) :
    ∃ declarator leaf, declarator ∈ declaration.namedChildren ∧
      declarator.kind = .variableDeclarator ∧ declarator.child? .name = some leaf ∧
      Introduces leaf leaf ∧ identifierName source leaf = name := by
  obtain ⟨declarator, first, single⟩ := Option.bind_eq_some_iff.mp single
  obtain ⟨leaf, target, single⟩ := Option.bind_eq_some_iff.mp single
  split at single
  next kind =>
    exact ⟨declarator, leaf, List.mem_of_find?_eq_some first, by simpa using List.find?_some first,
      target, .name (by simpa using kind), Option.some.inj single⟩
  next => cases single

/-- Does the first statement of a module declare a single constant of some name? -/
private def opensWithConstant (name : String) (source : ByteArray) (root : Node) : Bool :=
  match root.children with
  | first :: _ => isCopied root && first.named && first.kind == .lexicalDeclaration &&
      (first.child? .name).isNone && singleName source first == some name
  | [] => false

private theorem of_opensWithConstant {name : String} {source : ByteArray} {root : Node}
    (opens : opensWithConstant name source root = true) : LexicalName source root name := by
  unfold opensWithConstant at opens
  split at opens
  next first rest children =>
    simp only [Bool.and_eq_true, beq_iff_eq, Option.isNone_iff_eq_none] at opens
    obtain ⟨⟨⟨⟨copied, named⟩, kind⟩, nameless⟩, single⟩ := opens
    obtain ⟨declarator, leaf, member, declares, found, introduces, same⟩ := of_singleName single
    have inside : first ∈ root.children := by rw [children]; exact List.mem_cons_self
    have kept : isErased root.kind first = false := by simp [isErased, erasedKinds, kind, named]
    exact ⟨leaf, ⟨first, .statement (List.mem_filter.mpr ⟨inside, named⟩),
      .part .root (written_of_copied copied inside kept),
      .ofValues (Or.inl kind) nameless member declares found introduces, by rw [kind]; rfl⟩, same⟩
  next => cases opens

/-- Does the statement at a path declare a single variable of some name? -/
private def hoistsAt (path : List Nat) (name : String) (source : ByteArray) (root : Node) : Bool :=
  match copiedAt (!holdsVariables ·.kind) path root with
  | some statement =>
    statement.kind == .variableDeclaration && singleName source statement == some name
  | none => false

private theorem of_hoistsAt {path : List Nat} {name : String} {source : ByteArray} {root : Node}
    (hoists : hoistsAt path name source root = true) : BoundInModule source root name := by
  unfold hoistsAt at hoists
  split at hoists
  next statement reaches =>
    simp only [Bool.and_eq_true, beq_iff_eq] at hoists
    obtain ⟨declarator, leaf, member, declares, found, introduces, same⟩ := of_singleName hoists.2
    have outer : Outer root .code statement :=
      of_copiedAt (fun outer passes => .part outer (by simpa using passes)) .root reaches
    exact ⟨leaf, Or.inr ⟨.code, statement, outer,
      .declaration hoists.1 member declares found introduces⟩, same⟩
  next => cases hoists

/-! ## What the banner reads -/

/-- In every compiled module the banner stands in front of the body, and it takes members from the UI
library unless the module declares all of them. A statement that binds the library comes before that
one exactly if the module does not declare the library's name, so the banner runs exactly unless the
module declares that name lexically and not all members, or the name of the object that holds the
globals and not all globals. -/
theorem banner_runs_iff {text : String} {artifact : Artifact}
    (compiled : compile text = .ok artifact) :
    ∃ elided tree body, Makes text artifact elided tree body ∧
      ((∃ names, .members names ∈ bannerStatements (topLevelNames elided tree)) ↔
        ∃ hook ∈ bannerHooks, hook ∉ topLevelNames elided tree) ∧
      (∀ front names back,
        bannerStatements (topLevelNames elided tree) = front ++ .members names :: back →
          (.global hostObject ∈ front ↔ hostObject ∉ topLevelNames elided tree)) ∧
      (RunsFrom (PendingAtStart elided tree) (bannerStatements (topLevelNames elided tree)) ↔
        ¬ (LexicalName elided tree globalObject ∧
            ∃ name ∈ bannerGlobals, name ∉ topLevelNames elided tree) ∧
          ¬ (LexicalName elided tree hostObject ∧ hostObject ∈ topLevelNames elided tree ∧
            ∃ hook ∈ bannerHooks, hook ∉ topLevelNames elided tree)) := by
  obtain ⟨elided, tree, body, makes⟩ := makes_of_compile compiled
  refine ⟨elided, tree, body, makes, ?_, ?_, ?_⟩
  · simp only [members_mem, exists_eq_left]
  · intro front names back split
    have last := bannerStatements_members_last split
    have known : .global hostObject ∈ front ↔
        .global hostObject ∈ bannerStatements (topLevelNames elided tree) := by
      rw [split, last]
      simp
    rw [known, global_mem]
    exact and_iff_right (by decide)
  · have host : PendingAtStart elided tree hostObject ∧ hostObject ∈ topLevelNames elided tree ↔
        LexicalName elided tree hostObject ∧ hostObject ∈ topLevelNames elided tree := by
      rw [PendingAtStart, boundByBanner_iff]
      refine and_congr_left fun declared => or_iff_right fun bound => bound.2 declared
    have globals : PendingAtStart elided tree globalObject ↔ LexicalName elided tree globalObject := by
      rw [PendingAtStart, boundByBanner_iff]
      exact or_iff_right fun bound => absurd bound.1 (by decide)
    rw [runsFrom_bannerStatements, globals, ← and_assoc, host, and_assoc]

/-- A module that declares a member of the library. -/
private def declaringMember : String := "const useRef = 1;\nexport default 1;\n"

/-- A module that declares the library. -/
private def declaringLibrary : String := "const React = \x7b\x7d;\nexport default React;\n"

/-- A lexical name is spelled among the names that the compiler collects. -/
private theorem LexicalName.spelled {source : ByteArray} {root : Node} {name : String}
    (lexical : LexicalName source root name) :
    ∃ spelling ∈ topLevelNames source root, nameOfSpelling spelling = name := by
  obtain ⟨leaf, introduced, same⟩ := lexical
  exact ⟨_, mem_topLevelNames introduced.declared, same⟩

/-- The banner of a module that declares a member of the library runs. -/
theorem banner_runs_declaring_member :
    ∃ artifact elided tree body, compile declaringMember = .ok artifact ∧
      Makes declaringMember artifact elided tree body ∧
      RunsFrom (PendingAtStart elided tree) (bannerStatements (topLevelNames elided tree)) := by
  obtain ⟨artifact, compiled, inspected⟩ := of_found
    (show found topLevelNames declaringMember = some ["useRef"] by decide +kernel)
  obtain ⟨elided, tree, body, makes, _, _, runs⟩ := banner_runs_iff compiled
  have names := inspected makes
  have other {name : String} (foreign : ∀ spelling ∈ ["useRef"],
      nameOfSpelling spelling ≠ name) : ¬ LexicalName elided tree name := fun lexical => by
    obtain ⟨spelling, member, same⟩ := lexical.spelled
    exact foreign spelling (names ▸ member) same
  have noObject : ¬ LexicalName elided tree globalObject := other (by decide)
  have noLibrary : ¬ LexicalName elided tree hostObject := other (by decide)
  exact ⟨artifact, elided, tree, body, compiled, makes,
    runs.mpr ⟨fun reads => noObject reads.1, fun reads => noLibrary reads.1⟩⟩

/-- The banner of a module that declares the library takes members from it before it has a value. -/
theorem banner_reads_too_early :
    ¬ ∀ (text : String) (artifact : Artifact) (elided : ByteArray) (tree : Node) (body : ByteArray),
      compile text = .ok artifact → Makes text artifact elided tree body →
        RunsFrom (PendingAtStart elided tree) (bannerStatements (topLevelNames elided tree)) := by
  intro always
  obtain ⟨artifact, compiled, inspected⟩ := of_found
    (show found (fun source root => (topLevelNames source root, opensWithConstant hostObject source root))
      declaringLibrary = some (["React"], true) by decide +kernel)
  obtain ⟨elided, tree, body, makes⟩ := makes_of_compile compiled
  have names := congrArg Prod.fst (inspected makes)
  have constant := congrArg Prod.snd (inspected makes)
  have runs := runsFrom_bannerStatements.mp (always _ artifact elided tree body compiled makes)
  simp only at names constant
  rw [names] at runs
  exact runs.2 ⟨Or.inr (of_opensWithConstant constant), by decide, by decide⟩

/-! ## What the banner and the module both bind -/

/-- In every compiled module the banner binds exactly those of its names that the compiler does not
find among the declarations at the top level, and none that is spelled like one of these. So a name is
bound twice exactly if it is one of the banner's, the compiler has not found it, and either a variable
of that name is hoisted out of a statement or a declaration spells the name with an escape. -/
theorem scopes_overlap_iff {text : String} {artifact : Artifact}
    (compiled : compile text = .ok artifact) :
    ∃ elided tree body, Makes text artifact elided tree body ∧
      (∀ name, BoundByBanner (topLevelNames elided tree) name ↔
        name ∈ bannerNames ∧ name ∉ topLevelNames elided tree) ∧
      (∀ leaf, Declared tree leaf →
        ¬ BoundByBanner (topLevelNames elided tree) (leaf.text elided)) ∧
      (∀ name, BoundByBanner (topLevelNames elided tree) name ∧ BoundInModule elided tree name ↔
        name ∈ bannerNames ∧ name ∉ topLevelNames elided tree ∧
          ∃ leaf, identifierName elided leaf = name ∧
            (Hoisted tree leaf ∨ (Declared tree leaf ∧ leaf.text elided ≠ name))) := by
  obtain ⟨elided, tree, body, makes⟩ := makes_of_compile compiled
  refine ⟨elided, tree, body, makes, fun name => boundByBanner_iff, ?_, ?_⟩
  · intro leaf declared bound
    exact (boundByBanner_iff.mp bound).2 (mem_topLevelNames declared)
  · intro name
    rw [boundByBanner_iff, and_assoc]
    refine and_congr_right fun known => and_congr_right fun free => ?_
    constructor
    · rintro ⟨leaf, declared | hoisted, same⟩
      · refine ⟨leaf, same, Or.inr ⟨declared, fun plain => free ?_⟩⟩
        rw [← plain]
        exact mem_topLevelNames declared
      · exact ⟨leaf, same, Or.inl hoisted⟩
    · rintro ⟨leaf, same, hoisted | ⟨declared, _⟩⟩
      · exact ⟨leaf, Or.inr hoisted, same⟩
      · exact ⟨leaf, Or.inl declared, same⟩

/-- A module with a variable inside of a block. -/
private def hoistingGlobal : String := "\x7b var ReactDOM = 1; \x7d\nexport default 1;\n"

private theorem hoistingGlobal_bound :
    ∃ artifact, compile hoistingGlobal = .ok artifact ∧
      ∀ {elided : ByteArray} {tree : Node} {body : ByteArray},
        Makes hoistingGlobal artifact elided tree body →
          BoundByBanner (topLevelNames elided tree) "ReactDOM" ∧
            BoundInModule elided tree "ReactDOM" := by
  obtain ⟨artifact, compiled, inspected⟩ := of_found
    (show found (fun source root => (topLevelNames source root, hoistsAt [0, 1] "ReactDOM" source root))
      hoistingGlobal = some ([], true) by decide +kernel)
  refine ⟨artifact, compiled, fun {elided tree body} makes => ?_⟩
  have names : topLevelNames elided tree = [] := congrArg Prod.fst (inspected makes)
  exact ⟨boundByBanner_iff.mpr ⟨by decide, by simp [names]⟩,
    of_hoistsAt (congrArg Prod.snd (inspected makes))⟩

/-- A source that compiles to a module that binds a name twice. -/
theorem scopes_overlap_in_block :
    ∃ artifact elided tree body, compile hoistingGlobal = .ok artifact ∧
      Makes hoistingGlobal artifact elided tree body ∧
      ∃ leaf, identifierName elided leaf = "ReactDOM" ∧
        (Hoisted tree leaf ∨ (Declared tree leaf ∧ leaf.text elided ≠ "ReactDOM")) := by
  obtain ⟨artifact, compiled, bound⟩ := hoistingGlobal_bound
  obtain ⟨elided, tree, body, makes, _, _, overlap⟩ := scopes_overlap_iff compiled
  exact ⟨artifact, elided, tree, body, compiled, makes,
    ((overlap "ReactDOM").mp (bound makes)).2.2⟩

/-- The banner of a module can bind a name that the module binds as well. -/
theorem scopes_overlap :
    ¬ ∀ (text : String) (artifact : Artifact) (elided : ByteArray) (tree : Node) (body : ByteArray),
      compile text = .ok artifact → Makes text artifact elided tree body →
        ∀ name, ¬ (BoundByBanner (topLevelNames elided tree) name ∧
          BoundInModule elided tree name) := by
  intro apart
  obtain ⟨artifact, compiled, bound⟩ := hoistingGlobal_bound
  obtain ⟨elided, tree, body, makes⟩ := makes_of_compile compiled
  exact apart _ artifact elided tree body compiled makes "ReactDOM" (bound makes)

end Lectern.Module
