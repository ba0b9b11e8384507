/-
Module: Lectern.Proofs.Generation.Verdicts
Purpose: What an evaluation says of a generated source, whichever way that goes through the check, the
  compiler and the repair: all fields of the attempt tell of one source, and they agree on whether and
  why it failed. Only where the compiler breaks off is there no attempt.
Trusted boundary: none
Main exports: Offered, Passes, Fails, Verdict, GivesOut, BreaksOff, verdict_evaluate,
  evaluate_eq_error, evaluate_decides
-/
import Lectern.Proofs.Generation.Calls
import Lectern.Proofs.Module.FaultPlaces
import Lectern.Proofs.Repair.Idempotence

namespace Lectern

/-! ## Faults have something to say -/

namespace Module

open Lectern.Syntax

variable {text : String} {fault : CompileFault}

theorem LoweringFault.messages_ne_nil (fault : LoweringFault) : fault.messages ≠ [] := by
  cases fault <;> exact List.cons_ne_nil _ _

theorem messages_ne_nil_of_checkTree {source : ByteArray} {root : Node}
    (fails : checkTree source root = .error fault) : fault.messages ≠ [] := by
  unfold checkTree at fails
  split at fails
  next =>
    split at fails
    next => cases fails
    next diagnostics reported =>
      cases fails
      exact fun silent => reported (List.map_eq_nil_iff.mp silent)
  next diagnostics reported =>
    cases fails
    exact fun silent => reported (List.map_eq_nil_iff.mp silent)

theorem messages_ne_nil_of_check (fails : check text = .error fault) : fault.messages ≠ [] := by
  rw [check] at fails
  split at fails
  next => cases fails; exact List.cons_ne_nil _ _
  next => exact messages_ne_nil_of_checkTree fails

/-- A source that does not compile is told why. -/
theorem messages_ne_nil_of_compile (fails : compile text = .error fault) : fault.messages ≠ [] := by
  unfold compile at fails
  cases checked : check text with
  | error early =>
      rw [checked] at fails
      cases fails
      exact messages_ne_nil_of_check checked
  | ok elided =>
      rw [checked] at fails
      simp only [bind, Except.bind] at fails
      split at fails
      next => cases fails; exact LoweringFault.messages_ne_nil .unreadAfterElision
      next =>
        split at fails
        next lowering _ => cases fails; exact lowering.messages_ne_nil
        next => cases fails

end Module

/-- Rules that a patch names have changed something. -/
theorem Repair.rules_ne_nil_of_propose {source : String} {errors : List String} {patch : Patch}
    (proposed : propose source errors = some patch) : patch.rules ≠ [] := by
  rw [propose_eq, Option.ite_none_left_eq_some] at proposed
  obtain ⟨changed, made⟩ := proposed
  cases made
  exact fun none => changed (List.isEmpty_iff.mpr none)

namespace Evaluation

/-! ## Attempts that pass and attempts that fail -/

/-- What is compiled from a source is offered: the source and the module pass the safety check. -/
structure Offered (source : String) (artifact : Module.Artifact) : Prop where
  safe : Safety.check source = []
  compiled : Module.compile source = .ok artifact
  emitted : Safety.check artifact.moduleText = []

/-- An attempt has succeeded: it offers what its source compiles to, and nothing is held against
it. -/
structure Passes (now : Timestamp) (source : String) (attempt : Attempt) : Prop where
  outcome : attempt.outcome = .succeeded
  failureStage : attempt.failureStage = none
  errors : attempt.errors = []
  issues : attempt.issues = []
  offers : ∃ artifact, attempt.artifact = some ⟨artifact, now⟩ ∧ Offered source artifact

/-- An attempt has failed: it offers nothing and says why. The issues are those of its source or of
what that compiles to; where there are none, the compiler has refused the source. -/
structure Fails (source : String) (attempt : Attempt) : Prop where
  outcome : attempt.outcome = .failed
  artifact : attempt.artifact = none
  errors : attempt.errors ≠ []
  stage : attempt.failureStage ∈ [some .safety, some .parsing, some .transform]
  issues : attempt.issues ≠ [] ↔ attempt.failureStage = some .safety
  flagged : attempt.failureStage = some .safety →
    attempt.errors = attempt.issues.map Safety.Issue.label ∧
      (attempt.issues = Safety.check source ∨
        ∃ artifact, Module.compile source = .ok artifact ∧
          attempt.issues = Safety.check artifact.moduleText)
  refused : attempt.failureStage ≠ some .safety →
    ∃ fault, Module.compile source = .error fault ∧
      attempt.failureStage = some (.ofFault fault) ∧ attempt.errors = fault.messages

section

variable {now : Timestamp} {number : Nat} {source : String} {artifact : Module.Artifact}
  {rules : List String} {fault : Module.CompileFault} {issues : List Safety.Issue}
  {attempt : Attempt}

theorem fails_flagged (broken : issues ≠ [])
    (found : issues = Safety.check source ∨
      ∃ artifact, Module.compile source = .ok artifact ∧
        issues = Safety.check artifact.moduleText) :
    Fails source (flagged number source issues rules) where
  outcome := rfl
  artifact := rfl
  errors := fun silent => broken (List.map_eq_nil_iff.mp silent)
  stage := .head _
  issues := iff_of_true broken rfl
  flagged := fun _ => ⟨rfl, found⟩
  refused := fun other => absurd rfl other

theorem fails_failed (fails : Module.compile source = .error fault) :
    Fails source (failed number (some source) (.ofFault fault) fault.messages [] rules) where
  outcome := rfl
  artifact := rfl
  errors := Module.messages_ne_nil_of_compile fails
  stage := by cases fault <;> simp [failed, Stage.ofFault]
  issues := by cases fault <;> simp [failed, Stage.ofFault]
  flagged := by cases fault <;> exact nofun
  refused := fun _ => ⟨fault, fails, rfl, rfl⟩

/-! ## One source through the compiler -/

/-- An attempt is of a source that some rules made, and it has passed or failed. -/
structure Judges (now : Timestamp) (number : Nat) (source : String) (rules : List String)
    (attempt : Attempt) : Prop where
  number : attempt.number = number
  rawSource : attempt.rawSource = some source
  repairRules : attempt.repairRules = rules
  decided : Passes now source attempt ∨ Fails source attempt

theorem judges_flagged (broken : issues ≠ [])
    (found : issues = Safety.check source ∨
      ∃ artifact, Module.compile source = .ok artifact ∧
        issues = Safety.check artifact.moduleText) :
    Judges now number source rules (flagged number source issues rules) :=
  ⟨rfl, rfl, rfl, .inr (fails_flagged broken found)⟩

theorem judges_uncompiled (fails : Module.compile source = .error fault)
    (made : uncompiled number source fault rules = .ok attempt) :
    Judges now number source rules attempt := by
  unfold uncompiled at made
  split at made
  next => cases made
  next =>
    cases made
    exact ⟨rfl, rfl, rfl, .inr (fails_failed fails)⟩

/-- A source that compiles is judged by its module. -/
theorem judges_accept (safe : Safety.check source = [])
    (compiled : Module.compile source = .ok artifact) :
    Judges now number source rules (accept now number source artifact rules) := by
  unfold accept
  split
  next emitted =>
    exact ⟨rfl, rfl, rfl, .inl ⟨rfl, rfl, rfl, rfl, artifact, rfl, safe, compiled, emitted⟩⟩
  next broken => exact judges_flagged broken (.inr ⟨artifact, compiled, rfl⟩)

theorem judges_compileChecked (safe : Safety.check source = [])
    (made : compileChecked now number source rules = .ok attempt) :
    Judges now number source rules attempt := by
  unfold compileChecked at made
  split at made
  next artifact compiled =>
    cases made
    exact judges_accept safe compiled
  next fault fails => exact judges_uncompiled fails made

end

/-! ## The source as it came and the source as it was repaired -/

variable {now : Timestamp} {number : Nat} {source : String}

/-- A repair that a source asks for: it passes the safety check, the compiler rejects it, and the
diagnostics ask for a patch. -/
def Mends (source : String) (patch : Repair.Patch) : Prop :=
  Safety.check source = [] ∧ ∃ diagnostics,
    Module.compile source = .error (.rejected diagnostics) ∧
      Repair.propose source (Module.CompileFault.rejected diagnostics).messages = some patch

/-- What is said of a generated source: the attempt is of that source if no rule repaired it, and else
of what the rules made of it, and it has passed or failed. -/
structure Verdict (now : Timestamp) (number : Nat) (source : String) (attempt : Attempt) : Prop where
  number : attempt.number = number
  decided : ∃ judged, attempt.rawSource = some judged ∧
    (Passes now judged attempt ∨ Fails judged attempt)
  asGenerated : attempt.repairRules = [] → attempt.rawSource = some source
  mended : attempt.repairRules ≠ [] → ∃ patch, Mends source patch ∧
    attempt.rawSource = some patch.source ∧
      attempt.repairRules = patch.rules.map Repair.Rule.name

/-- An attempt that offers something has passed. -/
theorem Verdict.offered {attempt : Attempt} {judged : String} {dated : DatedArtifact}
    (verdict : Verdict now number source attempt) (named : attempt.rawSource = some judged)
    (made : attempt.artifact = some dated) : Offered judged dated.artifact := by
  obtain ⟨_, same, passes | fails⟩ := verdict.decided
  · cases named.symm.trans same
    obtain ⟨artifact, offers, offered⟩ := passes.offers
    cases made.symm.trans offers
    exact offered
  · cases fails.artifact.symm.trans made

theorem Judges.asGenerated {attempt : Attempt} (judges : Judges now number source [] attempt) :
    Verdict now number source attempt where
  number := judges.number
  decided := ⟨source, judges.rawSource, judges.decided⟩
  asGenerated := fun _ => judges.rawSource
  mended := fun ruled => absurd judges.repairRules ruled

theorem Judges.mended {attempt : Attempt} {patch : Repair.Patch} (mends : Mends source patch)
    (judges : Judges now number patch.source (patch.rules.map Repair.Rule.name) attempt) :
    Verdict now number source attempt where
  number := judges.number
  decided := ⟨patch.source, judges.rawSource, judges.decided⟩
  asGenerated := by
    intro unruled
    obtain ⟨_, diagnostics, _, proposed⟩ := mends
    rw [judges.repairRules, List.map_eq_nil_iff] at unruled
    exact absurd unruled (Repair.rules_ne_nil_of_propose proposed)
  mended := fun _ => ⟨patch, mends, judges.rawSource, judges.repairRules⟩

theorem verdict_repaired {diagnostics : List Module.Diagnostic} {attempt : Attempt}
    (safe : Safety.check source = [])
    (rejected : Module.compile source = .error (.rejected diagnostics))
    (made : repaired now number source (.rejected diagnostics) = .ok attempt) :
    Verdict now number source attempt := by
  unfold repaired at made
  split at made
  next => exact (judges_uncompiled rejected made).asGenerated
  next patch proposed =>
    apply Judges.mended ⟨safe, diagnostics, rejected, proposed⟩
    split at made
    next safeAgain => exact judges_compileChecked safeAgain made
    next broken =>
      cases made
      exact judges_flagged broken (.inl rfl)

theorem verdict_evaluate {attempt : Attempt} (made : evaluate now number source = .ok attempt) :
    Verdict now number source attempt := by
  unfold evaluate at made
  split at made
  next safe =>
    split at made
    next artifact compiled =>
      cases made
      exact (judges_accept safe compiled).asGenerated
    next diagnostics rejected => exact verdict_repaired safe rejected made
    next fault fails => exact (judges_uncompiled fails made).asGenerated
  next broken =>
    cases made
    exact (judges_flagged broken (.inl rfl)).asGenerated

/-! ## Sources that are flagged -/

/-- A source that is flagged is not compiled. -/
theorem evaluate_of_flagged (broken : Safety.check source ≠ []) :
    evaluate now number source = .ok (flagged number source (Safety.check source) []) := by
  unfold evaluate
  split
  next clear => exact absurd clear broken
  next => rfl

/-- A source that compiles to a flagged module is flagged with the issues of that. -/
theorem evaluate_of_flagged_module {artifact : Module.Artifact}
    (clear : Safety.check source = []) (compiled : Module.compile source = .ok artifact)
    (broken : Safety.check artifact.moduleText ≠ []) :
    evaluate now number source =
      .ok (flagged number source (Safety.check artifact.moduleText) []) := by
  unfold evaluate
  rw [clear, compiled]
  dsimp only
  unfold accept
  split
  next emitted => exact absurd emitted broken
  next => rfl

/-- A repaired source that is flagged is not compiled again. -/
theorem evaluate_of_flagged_patch {patch : Repair.Patch} (mends : Mends source patch)
    (broken : Safety.check patch.source ≠ []) :
    evaluate now number source = .ok (flagged number patch.source (Safety.check patch.source)
      (patch.rules.map Repair.Rule.name)) := by
  obtain ⟨clear, diagnostics, rejected, proposed⟩ := mends
  unfold evaluate
  rw [clear, rejected]
  dsimp only
  unfold repaired
  rw [proposed]
  dsimp only
  split
  next mended => exact absurd mended broken
  next => rfl

/-! ## Where there is no attempt -/

/-- A source passes the safety check, and the compiler breaks off at it: the number of a reference in
it has more digits than are read. -/
structure GivesOut (source : String) (overlong : Number.Overlong) : Prop where
  safe : Safety.check source = []
  breaks : Module.compile source = .error (.unlowerable (.overlongReference overlong))

/-- The evaluation of a source breaks off, at the source itself or at what the repair makes of it. -/
def BreaksOff (source : String) (overlong : Number.Overlong) : Prop :=
  GivesOut source overlong ∨ ∃ patch, Mends source patch ∧ GivesOut patch.source overlong

/-- Only a source that passes the safety check comes to the compiler. -/
theorem BreaksOff.safe {overlong : Number.Overlong} (breaksOff : BreaksOff source overlong) :
    Safety.check source = [] := by
  rcases breaksOff with gives | ⟨patch, mends, _⟩
  · exact gives.safe
  · exact mends.1

/-- The failure that ends an evaluation. -/
def breakdown (overlong : Number.Overlong) : Failure := .outside "ValueError" overlong.message

variable {fault : Module.CompileFault} {rules : List String} {failure : Failure}

theorem uncompiled_eq_error : uncompiled number source fault rules = .error failure ↔
    ∃ overlong, fault = .unlowerable (.overlongReference overlong) ∧ failure = breakdown overlong := by
  constructor
  · intro fails
    cases fault with
    | rejected diagnostics => cases fails
    | unlowerable lowering =>
        cases lowering with
        | overlongReference overlong =>
            cases fails
            exact ⟨overlong, rfl, rfl⟩
        | _ => cases fails
  · rintro ⟨overlong, rfl, rfl⟩
    rfl

theorem compileChecked_eq_error (safe : Safety.check source = []) :
    compileChecked now number source rules = .error failure ↔
      ∃ overlong, GivesOut source overlong ∧ failure = breakdown overlong := by
  unfold compileChecked
  split
  next artifact compiled =>
    refine iff_of_false nofun ?_
    rintro ⟨overlong, gives, _⟩
    cases compiled.symm.trans gives.breaks
  next fault fails =>
    rw [uncompiled_eq_error]
    constructor
    · rintro ⟨overlong, rfl, same⟩
      exact ⟨overlong, ⟨safe, fails⟩, same⟩
    · rintro ⟨overlong, gives, same⟩
      exact ⟨overlong, Except.error.inj (fails.symm.trans gives.breaks), same⟩

theorem repaired_eq_error {diagnostics : List Module.Diagnostic} (safe : Safety.check source = [])
    (rejected : Module.compile source = .error (.rejected diagnostics)) :
    repaired now number source (.rejected diagnostics) = .error failure ↔
      ∃ patch overlong, Mends source patch ∧ GivesOut patch.source overlong ∧
        failure = breakdown overlong := by
  have same {patch : Repair.Patch} : Mends source patch ↔
      Repair.propose source (Module.CompileFault.rejected diagnostics).messages = some patch := by
    constructor
    · rintro ⟨_, others, again, proposed⟩
      cases rejected.symm.trans again
      exact proposed
    · exact fun proposed => ⟨safe, diagnostics, rejected, proposed⟩
  simp only [same]
  unfold repaired
  split
  next unmended => simp [uncompiled_eq_error, unmended]
  next patch proposed =>
    simp only [proposed, Option.some.injEq, exists_and_left, exists_eq_left']
    split
    next safeAgain => exact compileChecked_eq_error safeAgain
    next broken =>
      refine iff_of_false nofun ?_
      rintro ⟨overlong, gives, _⟩
      exact broken gives.safe

/-- A source that the compiler does not reject breaks the evaluation off only by itself. -/
theorem breaksOff_iff_givesOut {overlong : Number.Overlong}
    (kept : ∀ diagnostics, Module.compile source ≠ .error (.rejected diagnostics)) :
    BreaksOff source overlong ↔ GivesOut source overlong :=
  or_iff_left fun ⟨_, ⟨_, diagnostics, rejected, _⟩, _⟩ => kept diagnostics rejected

/-- There is no attempt exactly where the compiler breaks off, and that is the failure then. -/
theorem evaluate_eq_error : evaluate now number source = .error failure ↔
    ∃ overlong, BreaksOff source overlong ∧ failure = breakdown overlong := by
  unfold evaluate
  split
  next safe =>
    split
    next artifact compiled =>
      refine iff_of_false nofun ?_
      rintro ⟨overlong, breaksOff, _⟩
      rw [breaksOff_iff_givesOut (by simp [compiled])] at breaksOff
      cases compiled.symm.trans breaksOff.breaks
    next diagnostics rejected =>
      rw [repaired_eq_error safe rejected]
      constructor
      · rintro ⟨patch, overlong, mends, gives, same⟩
        exact ⟨overlong, .inr ⟨patch, mends, gives⟩, same⟩
      · rintro ⟨overlong, gives | ⟨patch, mends, gives⟩, same⟩
        · cases rejected.symm.trans gives.breaks
        · exact ⟨patch, overlong, mends, gives, same⟩
    next lowering fails =>
      have kept : ∀ diagnostics, Module.compile source ≠ .error (.rejected diagnostics) := by
        simp [fails]
      simp only [breaksOff_iff_givesOut kept, uncompiled_eq_error]
      constructor
      · rintro ⟨overlong, same, named⟩
        exact ⟨overlong, ⟨safe, same ▸ fails⟩, named⟩
      · rintro ⟨overlong, gives, named⟩
        exact ⟨overlong, Except.error.inj (fails.symm.trans gives.breaks), named⟩
  next broken =>
    exact iff_of_false nofun fun ⟨_, breaksOff, _⟩ => broken breaksOff.safe

theorem BreaksOff.evaluate_eq {overlong : Number.Overlong} (breaksOff : BreaksOff source overlong) :
    evaluate now number source = .error (breakdown overlong) :=
  evaluate_eq_error.mpr ⟨overlong, breaksOff, rfl⟩

/-- A source has a reference whose number has more digits than are read: behind its imports there is a
string or an element that holds it. -/
def ReadsOverlong (source : String) (overlong : Number.Overlong) : Prop :=
  Number.maxDigits < overlong.digits ∧ ∃ root left found,
    Syntax.parse source.toUTF8 = .ok root ∧
      Syntax.parse (Module.elideImports source.toUTF8 root) = .ok left ∧ found ∈ left.preorder ∧
        Module.HoldsOverlong (Module.elideImports source.toUTF8 root) found overlong

theorem GivesOut.readsOverlong {overlong : Number.Overlong} (gives : GivesOut source overlong) :
    ReadsOverlong source overlong := by
  obtain ⟨root, left, found, read, again, belongs, holds⟩ := Module.overlong_of_compile gives.breaks
  exact ⟨holds.maxDigits_lt, root, left, found, read, again, belongs, holds⟩

/-- Wherever the evaluation breaks off, the source that was judged is to blame. -/
theorem BreaksOff.readsOverlong {overlong : Number.Overlong}
    (breaksOff : BreaksOff source overlong) :
    ∃ judged, (judged = source ∨ ∃ patch, Mends source patch ∧ judged = patch.source) ∧
      ReadsOverlong judged overlong := by
  rcases breaksOff with gives | ⟨patch, mends, gives⟩
  · exact ⟨source, .inl rfl, gives.readsOverlong⟩
  · exact ⟨patch.source, .inr ⟨patch, mends, rfl⟩, gives.readsOverlong⟩

/-- Whatever source was generated, it is decided and the fields of the attempt agree, exactly if the
compiler does not break off, at the source or at what the repair makes of it: the attempt offers what
its source compiles to and nothing is held against it, or it offers nothing and says why. The compiler
breaks off at a reference whose number is too long to be read, and that failure is all there is then. On
the way the source is repaired at most once, and the compiler is called at most twice. -/
theorem evaluate_decides (now : Timestamp) (number : Nat) (source : String) :
    ((∃ attempt, evaluate now number source = .ok attempt ∧ Verdict now number source attempt) ↔
        ∀ overlong, ¬ BreaksOff source overlong) ∧
      (∀ overlong, BreaksOff source overlong →
        evaluate now number source = .error (breakdown overlong) ∧
          ∃ judged, (judged = source ∨ ∃ patch, Mends source patch ∧ judged = patch.source) ∧
            ReadsOverlong judged overlong) ∧
      ∃ calls, Noted.evaluate now number source = ⟨evaluate now number source, calls⟩ ∧
        calls.countP Call.isPropose ≤ 1 ∧ calls.countP Call.isCompile ≤ 2 := by
  have noted : Noted.evaluate now number source =
      ⟨evaluate now number source, (Noted.evaluate now number source).calls⟩ := by
    rw [← Noted.value_evaluate]
  refine ⟨⟨?_, ?_⟩, fun _ breaksOff => ⟨breaksOff.evaluate_eq, breaksOff.readsOverlong⟩, _, noted,
    Noted.within_evaluate.proposals, Noted.within_evaluate.compiles⟩
  · rintro ⟨attempt, made, _⟩ overlong breaksOff
    cases made.symm.trans breaksOff.evaluate_eq
  · intro whole
    cases made : evaluate now number source with
    | ok attempt => exact ⟨attempt, rfl, verdict_evaluate made⟩
    | error failure =>
        obtain ⟨overlong, breaksOff, _⟩ := evaluate_eq_error.mp made
        exact absurd breaksOff (whole overlong)

end Evaluation

end Lectern
