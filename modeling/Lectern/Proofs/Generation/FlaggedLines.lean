/-
Module: Lectern.Proofs.Generation.FlaggedLines
Purpose: Which lines the issues of an attempt name. They are lines of the text that was checked, and
  this is the source that the next prompt quotes only if that source is flagged itself: where its
  module is, the lines are counted behind the header and the banner of the module.
Trusted boundary: none
Main exports: Safety.PointsInto, Evaluation.Flags, Evaluation.flags_evaluate, Run.flagged_lines_iff
-/
import Lectern.Proofs.Generation.Attempts
import Lectern.Proofs.Generation.SoundReply

namespace Lectern

/-! ## Lines that issues name -/

namespace Safety

/-- The line, counted from one, on which the text that follows some other begins. -/
def lineBehind (before : List Char) : Int := ((1 + before.count '\n' : Nat) : Int)

/-- What a rule forbids stands on a line of a text. -/
def StandsOn (text : List Char) (rule : Rule) (line : Int) : Prop :=
  ∃ before after, text = before ++ after ∧ Forbidden rule before after ∧ line = lineBehind before

/-- On the line that an issue names, if it names one, a text has what the issue is about. -/
def PointsInto (text : List Char) (issue : Issue) : Prop :=
  ∀ line, issue.line = some line → StandsOn text issue.rule line

/-- The issues of a text point into it. -/
theorem pointsInto_check {source : String} {issue : Issue} (member : issue ∈ check source) :
    PointsInto source.toList issue := by
  intro line names
  rw [check] at member
  split at member
  next =>
    rw [List.mem_singleton.mp member] at names
    cases names
  next =>
    obtain ⟨rule, _, found⟩ := List.mem_filterMap.mp member
    obtain ⟨_, before, after, split, forbidden, _, named⟩ := reports_of_firstIssue found
    rw [named] at names
    exact ⟨before, after, split, forbidden, (Option.some.inj names).symm⟩

/-- Nothing that a rule forbids stands on any line of a text without issues. -/
theorem not_standsOn_of_clear {source : String} (clear : check source = []) (rule : Rule)
    (line : Int) : ¬ StandsOn source.toList rule line := by
  rintro ⟨before, after, split, forbidden, _⟩
  exact (check_eq_nil_iff.mp clear).2 rule ⟨before, after, split, forbidden⟩

end Safety

/-! ## The text that was flagged -/

namespace Evaluation

variable {now : Timestamp} {number : Nat} {source raw : String} {attempt : Attempt}

/-- Which text the issues held against a source are those of: its own, or its module's. -/
inductive Flags (raw : String) : List Safety.Issue → Prop
  | source (broken : Safety.check raw ≠ []) : Flags raw (Safety.check raw)
  | module {artifact : Module.Artifact} (clear : Safety.check raw = [])
      (compiled : Module.compile raw = .ok artifact)
      (broken : Safety.check artifact.moduleText ≠ []) :
      Flags raw (Safety.check artifact.moduleText)

/-- The source that an attempt names is flagged with its own issues, if it has any. -/
theorem issues_of_flagged (made : evaluate now number source = .ok attempt)
    (named : attempt.rawSource = some raw) (broken : Safety.check raw ≠ []) :
    attempt.issues = Safety.check raw := by
  have verdict := verdict_evaluate made
  by_cases ruled : attempt.repairRules = []
  · obtain rfl : source = raw := Option.some.inj ((verdict.asGenerated ruled).symm.trans named)
    cases made.symm.trans (evaluate_of_flagged broken)
    rfl
  · obtain ⟨patch, mends, mended, _⟩ := verdict.mended ruled
    obtain rfl : patch.source = raw := Option.some.inj (mended.symm.trans named)
    cases made.symm.trans (evaluate_of_flagged_patch mends broken)
    rfl

/-- An attempt that fails for safety names the source that is flagged, and says what is found in it or
in its module. -/
theorem flags_evaluate (made : evaluate now number source = .ok attempt)
    (stage : attempt.failureStage = some .safety) :
    ∃ raw, attempt.rawSource = some raw ∧
      attempt.errors = attempt.issues.map Safety.Issue.label ∧ Flags raw attempt.issues := by
  obtain ⟨raw, named, passes | fails⟩ := (verdict_evaluate made).decided
  · cases passes.failureStage.symm.trans stage
  · have broken := fails.issues.mpr stage
    obtain ⟨errors, own | ⟨artifact, compiled, emitted⟩⟩ := fails.flagged stage
    · refine ⟨raw, named, errors, ?_⟩
      rw [own] at broken ⊢
      exact .source broken
    · refine ⟨raw, named, errors, ?_⟩
      by_cases clear : Safety.check raw = []
      · rw [emitted] at broken ⊢
        exact .module clear compiled broken
      · rw [issues_of_flagged made named clear]
        exact .source clear

end Evaluation

/-! ## Lines of a module next to its source -/

namespace Module

open Safety

variable {raw : String} {artifact : Artifact} {elided body : ByteArray}
  {tree : Syntax.Node}

/-- A line that is named for a module, read as one of the module's source. What it is about stands
behind a part of the body, and the line counts what the module has in front of that, so it is the
line of a place in the source exactly if as many lines stand in front of that place. -/
structure CountedInBody (raw : String) (declared : List String) (body : ByteArray) (rule : Rule)
    (line : Int) (inside : List Char) : Prop where
  forbids : ∃ after, moduleBody (Text.Utf8.read body) = inside ++ after ∧
    Forbidden rule (preamble raw declared ++ '\n' :: inside) after
  counts : line = ((1 + (preambleLines declared + inside.count '\n') : Nat) : Int)
  meets : ∀ before rest, raw.toList = before ++ rest →
    (line = lineBehind before ↔ before.count '\n' = preambleLines declared + inside.count '\n')

/-- The lines that the issues of a module name are counted behind its preamble. -/
theorem countedInBody_of_issue (makes : Makes raw artifact elided tree body) {issue : Issue}
    (member : issue ∈ Safety.check artifact.moduleText) {line : Int}
    (names : issue.line = some line) :
    ∃ inside, CountedInBody raw (topLevelNames elided tree) body issue.rule line inside := by
  obtain ⟨before, after, split, forbidden, rfl⟩ := pointsInto_check member line names
  obtain ⟨inside, rfl, follows⟩ := forbidden_in_body makes split forbidden
  have lines : lineBehind (preamble raw (topLevelNames elided tree) ++ '\n' :: inside) =
      ((1 + (preambleLines (topLevelNames elided tree) + inside.count '\n') : Nat) : Int) := by
    rw [lineBehind, List.append_cons, List.count_append, count_preamble]
  refine ⟨inside, ⟨after, follows, forbidden⟩, lines, ?_⟩
  intro earlier rest _
  rw [lines, lineBehind]
  omega

end Module

namespace Run

/-- The next prompt quotes the source of a failed attempt next to its errors. -/
theorem promptFor_of_rawSource {made : Attempt} {raw : String} (named : made.rawSource = some raw)
    (lesson : Lesson) (pedagogy : Pedagogy) :
    promptFor lesson pedagogy (some made) = .fix lesson.topic raw made.errors := by
  cases made with
  | mk number rawSource errors =>
      obtain rfl : rawSource = some raw := named
      rfl

variable {number : Nat} {response : Option String} {made : Attempt} {raw : String}

/-- The next prompt quotes the source of an attempt that failed for safety next to the lines of its
issues. They all point into that source exactly if it is flagged itself or none of them names a line.
Where its module is flagged, what they are about stands nowhere in the source as it is written, and
wherever it stands in the form that compiles to it, a line is right exactly if as many lines stand in
front of that place as the preamble and the body of the module have in front of what was found. -/
theorem flagged_lines_iff (arises : Attempt.Arises number response made)
    (stage : made.failureStage = some .safety) (named : made.rawSource = some raw)
    (lesson : Lesson) (pedagogy : Pedagogy) :
    promptFor lesson pedagogy (some made) =
        .fix lesson.topic raw (made.issues.map Safety.Issue.label) ∧
      ((∀ issue ∈ made.issues, Safety.PointsInto raw.toList issue) ↔
        Safety.check raw ≠ [] ∨ ∀ issue ∈ made.issues, issue.line = none) ∧
      (Safety.check raw = [] → ∃ artifact elided tree body,
        Module.compile raw = .ok artifact ∧ Module.Makes raw artifact elided tree body ∧
          made.issues = Safety.check artifact.moduleText ∧
          ∀ issue ∈ made.issues, ∀ line, issue.line = some line →
            (∀ other, ¬ Safety.StandsOn raw.toList issue.rule other) ∧
              ∃ inside, Module.CountedInBody raw (Module.topLevelNames elided tree) body
                issue.rule line inside) := by
  cases arises with
  | unanswered other error => cases named
  | evaluated now source judged =>
      obtain ⟨_, same, errors, flags⟩ := Evaluation.flags_evaluate judged stage
      obtain rfl := Option.some.inj (same.symm.trans named)
      refine ⟨errors ▸ promptFor_of_rawSource named lesson pedagogy, ?_⟩
      generalize made.issues = issues at flags
      cases flags with
      | source broken =>
          constructor
          · exact iff_of_true (fun issue member => Safety.pointsInto_check member) (.inl broken)
          · intro clear
            exact absurd clear broken
      | @module artifact clear compiled broken =>
          obtain ⟨elided, tree, body, makes⟩ := Module.makes_of_compile compiled
          have nowhere := Safety.not_standsOn_of_clear clear
          constructor
          · constructor
            · intro points
              apply Or.inr
              intro issue member
              cases names : issue.line with
              | none => rfl
              | some line => exact absurd (points issue member line names) (nowhere issue.rule line)
            · rintro (flagged | nameless)
              · exact absurd clear flagged
              · intro issue member line names
                cases (nameless issue member).symm.trans names
          · intro _
            refine ⟨artifact, elided, tree, body, compiled, makes, rfl, ?_⟩
            intro issue member line names
            exact ⟨nowhere issue.rule, Module.countedInBody_of_issue makes member names⟩

/-- The issues of a source that is flagged itself point into it. -/
theorem flagged_lines_iff_eval :
    ∃ made, Evaluation.evaluate (.after 1) 1 "eval(1)" = .ok made ∧
      made.failureStage = some .safety ∧ made.rawSource = some "eval(1)" ∧
      ∀ issue ∈ made.issues, Safety.PointsInto "eval(1)".toList issue := by
  have broken : Safety.check "eval(1)" ≠ [] := by decide +kernel
  have judged : Evaluation.evaluate (.after 1) 1 "eval(1)" = _ := Evaluation.evaluate_of_flagged broken
  obtain ⟨_, points, _⟩ := flagged_lines_iff (.evaluated (.after 1) "eval(1)" judged) rfl rfl
    { id := "a", title := "Tides", topic := "Tides", createdAt := .after 0, updatedAt := .after 0 } {}
  exact ⟨_, judged, rfl, rfl, points.mpr (.inl broken)⟩

/-- The module of a source on one line is flagged, and the prompt quotes the source next to an error
on line five. -/
theorem flagged_module_misleads :
    ∃ made, Evaluation.evaluate (.after 1) 1 Module.spelledAddress = .ok made ∧
      made.failureStage = some .safety ∧ made.rawSource = some Module.spelledAddress ∧
      (∃ issue ∈ made.issues, issue.line = some 5 ∧
        ¬ Safety.PointsInto Module.spelledAddress.toList issue) ∧
      (∀ before rest, Module.spelledAddress.toList = before ++ rest →
        Safety.lineBehind before ≠ 5) ∧
      ∀ (lesson : Lesson) (pedagogy : Pedagogy), promptFor lesson pedagogy (some made) =
        .fix lesson.topic Module.spelledAddress
          ["[external-url] line 5: External URLs are not allowed"] := by
  have judged := Evaluation.evaluate_spelledAddress (.after 1) 1
  have single : Module.spelledAddress.toList.count '\n' = 0 := by decide +kernel
  refine ⟨_, judged, rfl, rfl, ⟨_, List.mem_cons_self, rfl, ?_⟩, ?_, fun lesson pedagogy => rfl⟩
  · intro points
    exact Safety.not_standsOn_of_clear Module.check_spelledAddress _ 5 (points 5 rfl)
  · intro before rest split
    rw [split, List.count_append] at single
    rw [Safety.lineBehind]
    omega

end Run

end Lectern
