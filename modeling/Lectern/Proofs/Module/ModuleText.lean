/-
Module: Lectern.Proofs.Module.ModuleText
Purpose: The text of a compiled module, as the linter sees it. Header and banner contain no word that a
  forbidden form begins with, so what is found in a module is what is found in its body, a known number
  of lines further down. What a source compiles to that declares nothing is told by its steps, and its
  issues by its body, so that no hash has to be worked out for it.
Trusted boundary: none
Main exports: Safety.openings, Safety.Forbidden.opens, Safety.firstIssue_behind_lines, preamble,
  moduleBody, clear_preamble, count_preamble, toList_moduleText, forbidden_in_body, check_moduleText,
  compilesTo, compile_of_compilesTo, check_bareArtifact
-/
import Mathlib.Data.List.Infix
import Mathlib.Data.String.Basic
import Lectern.Module.Compile
import Lectern.Proofs.Module.Banner
import Lectern.Proofs.Safety.Edits
import Lectern.Safety.Check

namespace Lectern

open Syntax Text

/-! ## What forms begin with -/

namespace Safety

/-- The words that forbidden forms begin with. -/
def openings : List String :=
  ["fetch", "eval", "Function"] ++ transportNames ++ ["import", "from", "http"]

variable {rule : Rule} {before after : List Char}

theorem Forbidden.opens (forbidden : Forbidden rule before after) :
    ∃ word ∈ openings, word.toList <+: after := by
  cases rule with
  | networkFetch =>
      obtain ⟨_, blanks, rest, _, rfl⟩ := forbidden
      exact ⟨"fetch", by decide, List.prefix_append _ _⟩
  | evalUse =>
      obtain ⟨_, blanks, rest, _, rfl⟩ := forbidden
      exact ⟨"eval", by decide, List.prefix_append _ _⟩
  | dynamicFunction =>
      obtain ⟨_, blanks, rest, _, rfl⟩ := forbidden
      exact ⟨"Function", by decide, List.prefix_append _ _⟩
  | rawTransport =>
      obtain ⟨_, name, listed, rest, rfl, _⟩ := forbidden
      exact ⟨name, List.mem_append_left _ (List.mem_append_right _ listed), List.prefix_append _ _⟩
  | urlImport =>
      obtain ⟨_, imports⟩ := forbidden
      cases imports with
      | call => exact ⟨"import", by decide, List.prefix_append _ _⟩
      | names => exact ⟨"from", by decide, List.prefix_append _ _⟩
      | bare => exact ⟨"import", by decide, List.prefix_append _ _⟩
  | externalUrl =>
      obtain ⟨scheme, run, rest, listed, _, _, _, rfl, _⟩ := forbidden
      have schemes : ∀ scheme ∈ ["https://", "http://"], "http".toList <+: scheme.toList := by
        decide +kernel
      rw [List.append_assoc]
      exact ⟨"http", by decide, (schemes scheme listed).trans (List.prefix_append _ _)⟩
  | oversizedPayload => cases forbidden

/-- Nothing forbidden starts in lines without the words that forms begin with. -/
theorem Forbidden.behind_lines {lines text : List Char}
    (clear : ∀ word ∈ openings, ¬ word.toList <:+: lines) (forbidden : Forbidden rule before after)
    (split : lines ++ '\n' :: text = before ++ after) :
    ∃ inside, before = lines ++ '\n' :: inside ∧ text = inside ++ after := by
  obtain ⟨word, listed, starts⟩ := forbidden.opens
  have letters : ∀ word ∈ openings, '\n' ∉ word.toList ∧ word.toList ≠ [] := by decide +kernel
  obtain ⟨unbroken, filled⟩ := letters word listed
  have apart (rest : List Char) : ∀ c ∈ ('\n' :: rest).head?, c ∉ word.toList := by
    rintro c ⟨⟩
    exact unbroken
  rcases List.append_eq_append_iff.mp split with ⟨more, rfl, follows⟩ | ⟨part, rfl, follows⟩
  · cases more with
    | nil =>
        rw [List.nil_append] at follows
        rw [← follows, ← List.nil_append ('\n' :: text)] at starts
        have nothing := prefix_of_prefix_append starts (apart text)
        exact absurd (List.prefix_nil.mp nothing) filled
    | cons c inside =>
        obtain ⟨rfl, behind⟩ := List.cons.inj follows
        exact ⟨inside, rfl, behind⟩
  · rw [follows] at starts
    have within := prefix_of_prefix_append starts (apart text)
    exact absurd (within.isInfix.trans (List.suffix_append before part).isInfix) (clear word listed)

/-- An issue of a text behind some lines. -/
def Issue.below (lines : Nat) (issue : Issue) : Issue :=
  { issue with line := issue.line.map (· + (lines : Int)) }

/-- The issue of a place is the same behind some lines, but for the line it names. -/
theorem issueAt_behind (rule : Rule) (lines before after : List Char) :
    issueAt rule (.between (lines ++ '\n' :: before) after) =
      (issueAt rule (.between before after)).below ((lines ++ ['\n']).count '\n') := by
  have around : (Spot.between (lines ++ '\n' :: before) after).line =
      (Spot.between before after).line := by
    unfold Spot.line Spot.between
    rw [List.reverse_append, List.reverse_cons, List.append_assoc, List.takeWhile_append]
    split
    next all =>
      have whole := (List.takeWhile_prefix _).eq_of_length all
      simp [whole]
    next => rfl
  have number : (Spot.between (lines ++ '\n' :: before) after).lineNumber =
      (Spot.between before after).lineNumber + (lines ++ ['\n']).count '\n' := by
    unfold Spot.lineNumber Spot.between
    rw [List.count_reverse, List.count_reverse, List.append_cons, List.count_append]
    omega
  unfold issueAt Issue.below
  rw [around, number]
  rfl

/-- Lines without the words that forms begin with change nothing of what is found behind them, but for
the lines that are named. -/
theorem firstIssue_behind_lines {lines : List Char}
    (clear : ∀ word ∈ openings, ¬ word.toList <:+: lines) (text : List Char) (rule : Rule) :
    firstIssue (lines ++ '\n' :: text) rule =
      (firstIssue text rule).map (Issue.below ((lines ++ ['\n']).count '\n')) := by
  have back (inside after : List Char) (forbidden : Forbidden rule (lines ++ '\n' :: inside) after) :
      Forbidden rule inside after := by
    apply forbidden.rehead
    intro outside
    rw [List.append_cons] at outside
    exact outside.of_append
  cases found : firstIssue text rule with
  | none =>
      rw [firstIssue_eq_none_iff] at found
      rw [Option.map_none, firstIssue_eq_none_iff]
      rintro ⟨before, after, split, forbidden⟩
      obtain ⟨inside, rfl, rfl⟩ := forbidden.behind_lines clear split
      exact found ⟨inside, after, rfl, back inside after forbidden⟩
  | some issue =>
      unfold firstIssue at found ⊢
      rw [Spot.scan_eq_first? (form_hidesNothing rule) (form_takesSome rule)] at found ⊢
      obtain ⟨spot, first, rfl⟩ := Option.map_eq_some_iff.mp found
      obtain ⟨before, after, rfl, rfl, here, least⟩ := Spot.first?_eq_some_iff.mp first
      simp only [offends_iff] at here least
      have stays : Forbidden rule (lines ++ '\n' :: before) after := by
        apply here.rehead
        intro outside
        rw [List.append_cons]
        apply endsOutside_append _ outside
        rintro c last
        rw [List.getLast?_concat] at last
        cases last
        decide
      have stillFirst : Spot.first? ((form rule).offends (lets rule))
          (lines ++ '\n' :: (before ++ after)) = some (.between (lines ++ '\n' :: before) after) := by
        rw [Spot.first?_eq_some_iff]
        refine ⟨_, _, by simp, rfl, offends_iff.mpr stays, ?_⟩
        intro earlier later split broken
        obtain ⟨inside, rfl, follows⟩ := (offends_iff.mp broken).behind_lines clear split
        have ahead := least inside later follows (back inside later (offends_iff.mp broken))
        simp only [List.length_append, List.length_cons]
        omega
      rw [stillFirst, Option.map_some, Option.map_some, issueAt_behind]

/-- The check of a text that is small enough, told by its characters. -/
theorem check_of_toList {source : String} {text : List Char} (same : source.toList = text)
    (small : String.utf8Len text ≤ maxSourceBytes) :
    check source = Rule.all.filterMap (firstIssue text) := by
  have size : source.utf8ByteSize = String.utf8Len text := by
    rw [← same, ← String.utf8ByteSize_ofList, String.ofList_toList]
  have fits : ¬ source.utf8ByteSize > maxSourceBytes := by
    rw [size]
    exact Nat.not_lt.mpr small
  rw [check, if_neg fits, same]

end Safety

/-! ## Words that stand in no line of the preamble -/

namespace Module

/-- What stands in no line of the preamble: a line break, and what forms begin with. -/
def absentWords : List (List Char) := ['\n'] :: Safety.openings.map String.toList

variable {word front back : List Char}

/-- A word stands on one side of a character that it does not have. -/
theorem infix_split {c : Char} (apart : c ∉ word) (inside : word <:+: front ++ c :: back) :
    word <:+: front ∨ word <:+: back := by
  rcases List.infix_append_iff.mp inside with early | late | ⟨first, second, rfl, ends, goesOn⟩
  · exact .inl early
  · rcases List.infix_cons_iff.mp late with starts | later
    · cases word with
      | nil => exact .inr (List.nil_infix)
      | cons d word =>
          obtain ⟨rfl, _⟩ := List.cons_prefix_cons.mp starts
          exact absurd List.mem_cons_self apart
    · exact .inr later
  · cases second with
    | nil =>
        rw [List.append_nil]
        exact .inl ends.isInfix
    | cons d second =>
        obtain ⟨rfl, _⟩ := List.cons_prefix_cons.mp goesOn
        exact absurd (List.mem_append_right _ List.mem_cons_self) apart

/-- A word stands on one side of characters that it does not have. -/
theorem infix_split_run {run : List Char} (apart : ∀ c ∈ run, c ∉ word) (filled : run ≠ [])
    (inside : word <:+: front ++ (run ++ back)) : word <:+: front ∨ word <:+: back := by
  induction run generalizing front with
  | nil => exact absurd rfl filled
  | cons c run inductionHypothesis =>
      obtain ⟨first, others⟩ := List.forall_mem_cons.mp apart
      rcases infix_split first inside with before | behind
      · exact .inl before
      · cases run with
        | nil => exact .inr behind
        | cons d run =>
            have later : word <:+: [] ++ (d :: run ++ back) := behind
            rcases inductionHypothesis others (List.cons_ne_nil _ _) later with nothing | found
            · exact .inl (nothing.trans List.nil_infix)
            · exact .inr found

/-- A word of some joined texts is part of one of them. -/
theorem infix_of_intercalate {separator : String} (filled : word ≠ [])
    (apart : ∀ c ∈ separator.toList, c ∉ word) (separates : separator.toList ≠ [])
    {texts : List String}
    (inside : word <:+: (separator.intercalate texts).toList) :
    ∃ text ∈ texts, word <:+: text.toList := by
  rw [String.toList_intercalate] at inside
  induction texts with
  | nil => exact absurd (List.infix_nil.mp inside) filled
  | cons text texts inductionHypothesis =>
      cases texts with
      | nil => exact ⟨text, List.mem_cons_self, by simpa using inside⟩
      | cons next texts =>
          rw [List.map_cons, List.map_cons, List.intercalate_cons_cons, List.append_assoc] at inside
          rcases infix_split_run apart separates inside with here | behind
          · exact ⟨text, List.mem_cons_self, here⟩
          · obtain ⟨other, member, found⟩ := inductionHypothesis behind
            exact ⟨other, List.mem_cons_of_mem _ member, found⟩

/-- Lines without line breaks are as many as the line breaks between them, and one more. -/
theorem count_lines {lines : List String} (unbroken : ∀ line ∈ lines, '\n' ∉ line.toList) :
    ("\n".intercalate lines).toList.count '\n' = lines.length - 1 := by
  rw [String.toList_intercalate]
  induction lines with
  | nil => rfl
  | cons line lines inductionHypothesis =>
      obtain ⟨here, others⟩ := List.forall_mem_cons.mp unbroken
      have none := List.count_eq_zero.mpr here
      cases lines with
      | nil => simpa using none
      | cons next lines =>
          have behind := inductionHypothesis others
          rw [List.map_cons] at behind
          rw [List.map_cons, List.map_cons, List.intercalate_cons_cons, List.count_append,
            List.count_append, none, behind]
          simp [Nat.add_comm]

theorem clear_statement {declared : List String} {statement : BannerStatement}
    (member : statement ∈ bannerStatements declared) (absent : word ∈ absentWords) :
    ¬ word <:+: statement.text.toList := by
  intro inside
  cases statement with
  | «global» name =>
      have each : ∀ name ∈ bannerGlobals, ∀ word ∈ absentWords,
          ¬ word <:+: (BannerStatement.global name).text.toList := by decide +kernel
      exact each name (global_mem.mp member).1 word absent inside
  | members names =>
      obtain ⟨rfl, _⟩ := members_mem.mp member
      have spelled : (BannerStatement.members (boundHooks declared)).text.toList =
          "const \x7b".toList ++ ' ' :: ((", ".intercalate (boundHooks declared)).toList ++
            ' ' :: "\x7d = React;".toList) := by
        simp [BannerStatement.text, BannerStatement.target, BannerStatement.reads,
          BannerStatement.path, hostObject]
      have around : ∀ word ∈ absentWords, ¬ word <:+: "const \x7b".toList ∧
          ¬ word <:+: "\x7d = React;".toList := by decide +kernel
      have hooks : ∀ name ∈ bannerHooks, ∀ word ∈ absentWords, ¬ word <:+: name.toList := by
        decide +kernel
      have apart : ∀ word ∈ absentWords, word ≠ [] ∧ ' ' ∉ word ∧
          (", ".toList.all fun c => decide (c ∉ word)) = true := by decide +kernel
      obtain ⟨filled, space, comma⟩ := apart word absent
      rw [spelled] at inside
      rcases infix_split space inside with opening | behind
      · exact (around word absent).1 opening
      · rcases infix_split space behind with within | closing
        · obtain ⟨name, bound, found⟩ := infix_of_intercalate filled (forall_mem_of_all comma)
            (by decide) within
          exact hooks name (mem_boundHooks.mp bound).1 word absent found
        · exact (around word absent).2 closing

theorem hexDigit_mem {value : Nat} (small : value < 16) :
    Quoted.hexDigit value ∈ "0123456789abcdef".toList := by
  have each : ∀ value < 16, Quoted.hexDigit value ∈ "0123456789abcdef".toList := by decide +kernel
  exact each value small

theorem mem_sourceHash {text : String} {c : Char} (member : c ∈ (Digest.sourceHash text).toList) :
    c ∈ "0123456789abcdef".toList := by
  rw [Digest.sourceHash, Digest.hex, String.toList_ofList, List.mem_flatMap] at member
  obtain ⟨byte, _, digit⟩ := member
  have bounded : byte.toNat < 256 := byte.toNat_lt
  rcases List.mem_pair.mp digit with rfl | rfl
  · exact hexDigit_mem (by omega)
  · exact hexDigit_mem (by omega)

theorem clear_header (text : String) (absent : word ∈ absentWords) :
    ¬ word <:+: (header (Digest.sourceHash text)).toList := by
  intro inside
  have label : ∀ word ∈ absentWords, ¬ word <:+: "// lessonforge-module sha256".toList := by
    decide +kernel
  have letter : ∀ word ∈ absentWords, '=' ∉ word ∧
      (word.any fun c => decide (c ∉ "0123456789abcdef".toList)) = true := by decide +kernel
  obtain ⟨unequal, other⟩ := letter word absent
  obtain ⟨c, member, foreign⟩ := List.any_eq_true.mp other
  have spelled : (header (Digest.sourceHash text)).toList =
      "// lessonforge-module sha256".toList ++ '=' :: (Digest.sourceHash text).toList := by
    simp [header, headerLabel]
  rw [spelled] at inside
  rcases infix_split unequal inside with front | digest
  · exact label word absent front
  · exact of_decide_eq_true foreign (mem_sourceHash (digest.subset member))

/-! ## Header, banner and body -/

/-- What stands in front of the body of a module that declares some names, up to the last line
break. -/
def preamble (text : String) (declared : List String) : List Char :=
  (header (Digest.sourceHash text)).toList ++ '\n' :: (banner declared).toList

/-- What the preamble of a module is followed by. -/
def moduleBody (body : String) : List Char := trimWhile (· == '\n') body.toList ++ ['\n']

/-- How many lines stand in front of the body: the header, and the banner, which takes up a line even
if it binds nothing. -/
def preambleLines (declared : List String) : Nat := 1 + max 1 (bannerStatements declared).length

theorem clear_preamble (text : String) (declared : List String) {word : String}
    (listed : word ∈ Safety.openings) : ¬ word.toList <:+: preamble text declared := by
  have absent : word.toList ∈ absentWords := .tail _ (List.mem_map_of_mem listed)
  have letters : ∀ word ∈ Safety.openings, word.toList ≠ [] ∧ '\n' ∉ word.toList ∧
      ("\n".toList.all fun c => decide (c ∉ word.toList)) = true := by decide +kernel
  obtain ⟨filled, unbroken, apart⟩ := letters word listed
  intro inside
  rcases infix_split unbroken inside with inHeader | inBanner
  · exact clear_header text absent inHeader
  · rw [banner_eq] at inBanner
    obtain ⟨line, member, found⟩ := infix_of_intercalate filled (forall_mem_of_all apart)
      (by decide) inBanner
    obtain ⟨statement, bound, rfl⟩ := List.mem_map.mp member
    exact clear_statement bound absent found

theorem count_preamble (text : String) (declared : List String) :
    (preamble text declared ++ ['\n']).count '\n' = preambleLines declared := by
  have feed : ['\n'] ∈ absentWords := List.mem_cons_self
  have inHeader : '\n' ∉ (header (Digest.sourceHash text)).toList := fun member =>
    clear_header text feed ((List.singleton_infix_iff _ _).mpr member)
  have inBanner : ∀ line ∈ (bannerStatements declared).map (·.text), '\n' ∉ line.toList := by
    intro line member broken
    obtain ⟨statement, bound, rfl⟩ := List.mem_map.mp member
    exact clear_statement bound feed ((List.singleton_infix_iff _ _).mpr broken)
  have lines := count_lines inBanner
  rw [← banner_eq, List.length_map] at lines
  rw [preamble, List.count_append, List.count_append, List.count_cons_self, lines,
    List.count_eq_zero.mpr inHeader, preambleLines]
  simp only [List.count_singleton_self]
  omega

theorem toList_moduleText (text : String) (declared : List String) (body : String) :
    (moduleText (Digest.sourceHash text) declared body).toList =
      preamble text declared ++ '\n' :: moduleBody body := by
  simp [moduleText, preamble, moduleBody]

variable {text : String} {artifact : Artifact} {elided body : ByteArray} {tree : Node}

theorem Makes.toList_moduleText (makes : Makes text artifact elided tree body) :
    artifact.moduleText.toList =
      preamble text (topLevelNames elided tree) ++ '\n' :: moduleBody (Utf8.read body) := by
  rw [makes.result, ← banner_eq]
  exact Module.toList_moduleText text (topLevelNames elided tree) (Utf8.read body)

/-- Whatever is forbidden in a compiled module stands in its body. -/
theorem forbidden_in_body (makes : Makes text artifact elided tree body) {rule : Safety.Rule}
    {before after : List Char} (split : artifact.moduleText.toList = before ++ after)
    (forbidden : Safety.Forbidden rule before after) :
    ∃ inside, before = preamble text (topLevelNames elided tree) ++ '\n' :: inside ∧
      moduleBody (Utf8.read body) = inside ++ after := by
  rw [makes.toList_moduleText] at split
  exact forbidden.behind_lines
    (fun _ listed => clear_preamble text (topLevelNames elided tree) listed) split

/-- The issues of a module that is small enough are those of its body, below its preamble. -/
theorem check_moduleText {text : String} {declared : List String} {body : String}
    (small : String.utf8Len (preamble text declared ++ '\n' :: moduleBody body) ≤
      Safety.maxSourceBytes) :
    Safety.check (moduleText (Digest.sourceHash text) declared body) =
      (Safety.Rule.all.filterMap (Safety.firstIssue (moduleBody body))).map
        (Safety.Issue.below (preambleLines declared)) := by
  have clear : ∀ word ∈ Safety.openings, ¬ word.toList <:+: preamble text declared :=
    fun _ listed => clear_preamble text declared listed
  have behind := funext (Safety.firstIssue_behind_lines clear (moduleBody body))
  rw [count_preamble] at behind
  rw [Safety.check_of_toList (toList_moduleText text declared body) small, behind,
    List.map_filterMap]

/-! ## Modules that declare nothing -/

/-- Does a source compile to a module that declares no name at its top level and has some body? -/
def compilesTo (source body : String) : Bool :=
  match check source with
  | .error _ => false
  | .ok elided =>
    match parse elided with
    | .error _ => false
    | .ok root =>
      match lower elided root with
      | .error _ => false
      | .ok lowered => topLevelNames elided root == [] && Utf8.read lowered == body

/-- What a source becomes that declares no name at its top level and has some body. -/
def bareArtifact (source body : String) : Artifact :=
  ⟨Digest.sourceHash source, moduleText (Digest.sourceHash source) [] body⟩

theorem compile_of_compilesTo {source body : String} (steps : compilesTo source body = true) :
    compile source = .ok (bareArtifact source body) := by
  unfold compilesTo at steps
  split at steps
  next => cases steps
  next elided checked =>
    split at steps
    next => cases steps
    next root read =>
      split at steps
      next => cases steps
      next lowered made =>
        obtain ⟨none, same⟩ := Bool.and_eq_true_iff.mp steps
        rw [compile, checked]
        simp only [bind, Except.bind, read, made, eq_of_beq none, eq_of_beq same]
        rfl

/-- A character takes up at most four bytes. -/
theorem utf8Len_le (characters : List Char) :
    String.utf8Len characters ≤ 4 * characters.length := by
  induction characters with
  | nil => exact Nat.le_refl 0
  | cons c rest inductionHypothesis =>
      have most := c.utf8Size_le_four
      rw [String.utf8Len_cons, List.length_cons]
      omega

/-- A hash takes up two digits for each byte of a digest. -/
theorem length_sourceHash (text : String) : (Digest.sourceHash text).toList.length = 64 := by
  have word (value : Nat) : (Digest.Sha256.bigEndian 4 value).length = 4 := by
    simp [Digest.Sha256.bigEndian]
  have digest : (Digest.Sha256.digest text.toUTF8).length = 32 := by
    unfold Digest.Sha256.digest
    simp [word]
  have two (bytes : List UInt8) : (Digest.hex bytes).toList.length = 2 * bytes.length := by
    simp [Digest.hex, Nat.mul_comm]
  rw [Digest.sourceHash, two, digest]

/-- How much stands in front of the body of a module that declares nothing. -/
theorem length_bare (text : String) : (preamble text [] ++ ['\n']).length = 243 := by
  have label : "// lessonforge-module sha256=".toList.length = 29 := by simp
  have bound : (banner []).toList.length = 148 := by decide +kernel
  have spelled : preamble text [] ++ ['\n'] = "// lessonforge-module sha256=".toList ++
      (Digest.sourceHash text).toList ++ ['\n'] ++ (banner []).toList ++ ['\n'] := by
    simp [preamble, header, headerLabel]
  rw [spelled]
  simp only [List.length_append, List.length_singleton, label, bound, length_sourceHash]

/-- The issues of such a module are those of its body, below the header and three statements. -/
theorem check_bareArtifact {source body : String}
    (small : 4 * ((moduleBody body).length + 243) ≤ Safety.maxSourceBytes) :
    Safety.check (bareArtifact source body).moduleText =
      (Safety.Rule.all.filterMap (Safety.firstIssue (moduleBody body))).map
        (Safety.Issue.below 4) := by
  apply check_moduleText
  apply Nat.le_trans (utf8Len_le _)
  rw [List.append_cons, List.length_append, length_bare]
  omega

end Module

end Lectern
