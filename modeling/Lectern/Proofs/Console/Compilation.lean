/-
Module: Lectern.Proofs.Console.Compilation
Purpose: The two ways from a source to a module side by side: compiling a file with repairs at the
  command line, and judging a generated source. Both stand on the same notion of what a source
  yields; they part where the module itself breaks a rule.
Trusted boundary: none
Main exports: Yields, Console.compileSource_artifact, Console.emits_iff,
  Evaluation.accepts_iff, Console.accepted_iff_emitted_safe
-/
import Lectern.Console.Desk
import Lectern.Proofs.Generation.Verdicts
import Lectern.Proofs.Module.ModuleText

namespace Lectern

/-- A source yields a module: it passes the check and compiles as it is, or it does not parse or
resolve, and what it is repaired to passes the check and compiles. -/
inductive Yields (source : String) (artifact : Module.Artifact) : Prop
  | directly (safe : Safety.check source = []) (compiled : Module.compile source = .ok artifact)
  | repaired {diagnostics : List Module.Diagnostic} {patch : Repair.Patch}
      (safe : Safety.check source = [])
      (rejected : Module.compile source = .error (.rejected diagnostics))
      (mended : Repair.propose source (Module.CompileFault.rejected diagnostics).messages =
        some patch)
      (safeAgain : Safety.check patch.source = [])
      (compiled : Module.compile patch.source = .ok artifact)

variable {source : String} {artifact : Module.Artifact}

/-! ## Compiling at the command line -/

namespace Console

/-- There is no module of a source that does not compile. -/
theorem artifact_uncompiled (fault : Module.CompileFault) : (uncompiled fault).artifact = none := by
  unfold uncompiled
  cases fault.breaksOff <;> rfl

theorem compileChecked_artifact {mend : Module.CompileFault → Compilation} :
    (compileChecked source mend).artifact = some artifact ↔ Safety.check source = [] ∧
      (Module.compile source = .ok artifact ∨ ∃ diagnostics,
        Module.compile source = .error (.rejected diagnostics) ∧
          (mend (.rejected diagnostics)).artifact = some artifact) := by
  unfold compileChecked
  split
  next safe =>
    split
    next compiled => simp [safe, compiled]
    next diagnostics rejected => simp [safe, rejected]
    next fault other compiled =>
      simpa [safe, compiled, artifact_uncompiled] using fun diagnostics same =>
        (other diagnostics same).elim
  next issues flagged => simp [show Safety.check source ≠ [] from flagged]

theorem compileRepaired_artifact {fault : Module.CompileFault} :
    (compileRepaired source fault).artifact = some artifact ↔
      ∃ patch, Repair.propose source fault.messages = some patch ∧
        Safety.check patch.source = [] ∧ Module.compile patch.source = .ok artifact := by
  unfold compileRepaired
  split
  next unmended => simp [unmended, refused]
  next patch mended =>
    simp [mended, Compilation.after, compileChecked_artifact, artifact_uncompiled]

/-- Where repairs are asked for, compiling a source gives the module that the source yields. -/
theorem compileSource_artifact :
    (compileSource source true).artifact = some artifact ↔ Yields source artifact := by
  rw [compileSource, if_pos rfl, compileChecked_artifact]
  simp only [compileRepaired_artifact]
  constructor
  · rintro ⟨safe, compiled | ⟨diagnostics, rejected, patch, mended, safeAgain, compiled⟩⟩
    · exact .directly safe compiled
    · exact .repaired safe rejected mended safeAgain compiled
  · rintro (⟨safe, compiled⟩ | ⟨safe, rejected, mended, safeAgain, compiled⟩)
    · exact ⟨safe, .inl compiled⟩
    · exact ⟨safe, .inr ⟨_, rejected, _, mended, safeAgain, compiled⟩⟩

/-! ### What is printed on the way -/

private theorem exists_of_isOk {α ε : Type} {result : Except ε α} (holds : result.isOk = true) :
    ∃ value, result = .ok value := by
  cases result with
  | ok value => exact ⟨value, rfl⟩
  | error fault => cases holds

/-- The note on repairs names rules and nothing of the source, so its tags are closed whatever the
source is. -/
theorem rendered_repairs {errors : List String} {patch : Repair.Patch}
    (mended : Repair.propose source errors = some patch) : ∃ text,
    (info ("Applied repairs: " ++ ", ".intercalate (patch.rules.map Repair.Rule.name))).render =
      .ok text := by
  have allRender : ∀ first second third : Bool,
      let rules : List Repair.Rule := (if first then [] else [.stripFence]) ++
        (if second then [] else [.bindHostMembers]) ++ (if third then [] else [.addDefaultExport])
      (info ("Applied repairs: " ++ ", ".intercalate (rules.map Repair.Rule.name))).render.isOk := by
    decide +kernel
  rw [Repair.propose_eq, Option.ite_none_left_eq_some] at mended
  rw [← Option.some.inj mended.2]
  have renders := allRender (Repair.unfencedSource source errors = source)
    (Repair.boundSource source errors = Repair.unfencedSource source errors)
    (Repair.exportedSource source errors = Repair.boundSource source errors)
  simp only [decide_eq_true_eq] at renders
  exact exists_of_isOk renders

/-- On the way to a module nothing is printed that could not be. -/
theorem rendered_of_yields (yields : Yields source artifact) :
    ∃ notes, (compileSource source true).printed.mapM Block.render = .ok notes := by
  cases yields with
  | directly safe compiled =>
      refine ⟨[], ?_⟩
      rw [compileSource, compileChecked, safe]
      simp only [compiled, List.mapM_nil]
      rfl
  | repaired safe rejected mended safeAgain compiled =>
      obtain ⟨note, rendered⟩ := rendered_repairs mended
      refine ⟨[note], ?_⟩
      simp [compileSource, compileChecked, compileRepaired, Compilation.after, safe, rejected,
        mended, safeAgain, compiled, rendered]

/-! ### What a run of the command does -/

namespace Act

variable {α β : Type} {desk : Desk}

theorem run_bind (act : Act α) (next : α → Act β) (desk : Desk) :
    (act >>= next).run desk = match act.run desk with
      | (.ok value, after) => (next value).run after
      | (.error ending, after) => (.error ending, after) := by
  change (match act.run desk with
    | (result, after) => ExceptT.bindCont next result after) = _
  rcases act.run desk with ⟨ending | value, after⟩ <;> rfl

theorem run_get (desk : Desk) : (get : Act Desk).run desk = (.ok desk, desk) := rfl

theorem run_readSource {file held : String}
    (there : desk.files.read? (Store.FilePath.place file) = some held) :
    (readSource file).run desk =
      (.ok (String.ofList (Text.withPlainLineEnds held.toList)), desk) := by
  rw [readSource, run_bind, run_get]
  simp only [there]
  rfl

/-- Printing changes nothing but what has been printed. -/
theorem run_print (block : Block) (desk : Desk) : ∃ ending printed,
    (print block).run desk = (ending, { desk with printed }) := by
  unfold print
  split
  next text rendered => exact ⟨_, _, rfl⟩
  next fault rendered => exact ⟨_, desk.printed, rfl⟩

theorem run_printAll (blocks : List Block) (desk : Desk) : ∃ ending printed,
    (printAll blocks).run desk = (ending, { desk with printed }) := by
  induction blocks generalizing desk with
  | nil => exact ⟨_, desk.printed, rfl⟩
  | cons block blocks inductionHypothesis =>
      obtain ⟨ending, printed, ran⟩ := run_print block desk
      have unrolled : (printAll (block :: blocks)).run desk = _ :=
        run_bind (print block) (fun _ => printAll blocks) desk
      rw [unrolled, ran]
      cases ending with
      | error ending => exact ⟨_, _, rfl⟩
      | ok _ => exact inductionHypothesis { desk with printed }

theorem run_writeFile {file : String} (text : String)
    (clear : obstacle? desk (Store.FilePath.place file) = none) : (writeFile file text).run desk =
      (.ok (), { desk with files := desk.files.write (Store.FilePath.place file) text }) := by
  rw [writeFile, run_bind, run_get]
  simp only [clear]
  rfl

theorem run_printAll_of_rendered {blocks : List Block} {texts : List String}
    (rendered : blocks.mapM Block.render = .ok texts) (desk : Desk) :
    (printAll blocks).run desk =
      (.ok (), { desk with printed := desk.printed ++ String.join texts }) := by
  induction blocks generalizing desk texts with
  | nil =>
      cases rendered
      simp [printAll]
      rfl
  | cons block blocks inductionHypothesis =>
      rw [List.mapM_cons] at rendered
      cases first : block.render with
      | error fault => rw [first] at rendered; cases rendered
      | ok text =>
          cases later : blocks.mapM Block.render with
          | error fault => rw [first, later] at rendered; cases rendered
          | ok laterTexts =>
              rw [first, later] at rendered
              cases rendered
              have unrolled : (printAll (block :: blocks)).run desk = _ :=
                run_bind (print block) (fun _ => printAll blocks) desk
              have printed : (print block).run desk =
                  (.ok (), { desk with printed := desk.printed ++ text }) := by
                rw [print, first]
                rfl
              rw [unrolled, printed]
              simp only
              rw [inductionHypothesis later, String.join_cons, String.append_assoc]

end Act

variable {desk : Desk} {file held : String}

/-- The text of a file as the command reads it. -/
def readAs (held : String) : String := String.ofList (Text.withPlainLineEnds held.toList)

/-- The command prints a module behind its notes on repairs and ends well, and told where to write the
module, it writes it there if nothing is in the way. -/
structure Emits (desk : Desk) (file source text : String) : Prop where
  prints : ∃ notes, (compileSource source true).printed.mapM Block.render = .ok notes ∧
    (compile file none true).run desk =
      (.ok (), { desk with printed := desk.printed ++ String.join notes ++ text })
  writes : ∀ path, Act.obstacle? desk (Store.FilePath.place path) = none →
    ((compile file (some path) true).run desk).2.files =
      desk.files.write (Store.FilePath.place path) text

theorem run_compile (there : desk.files.read? (Store.FilePath.place file) = some held)
    (output : Option String) :
    (compile file output true).run desk =
      (do
        Act.printAll (compileSource (readAs held) true).printed
        match (compileSource (readAs held) true).artifact, output with
        | none, _ =>
          match (compileSource (readAs held) true).crash with
          | some failure => Act.crash failure
          | none => throw (.exit 1)
        | some artifact, none => Act.echo artifact.moduleText
        | some artifact, some output =>
          Act.writeFile output artifact.moduleText
          let digest := String.ofList (artifact.sourceHash.toList.take 12)
          Act.print (success ("Wrote " ++ output ++ " (sha256 " ++ digest ++ ")")) : Act Unit).run
        desk := by
  rw [compile, Act.run_bind, Act.run_readSource there]
  rfl

/-- The files stay as they are where there is no module, and the command does not end well. -/
theorem run_compile_of_not_yields (there : desk.files.read? (Store.FilePath.place file) = some held)
    (without : ∀ artifact, ¬ Yields (readAs held) artifact) (output : Option String) :
    ∃ ending printed, (compile file output true).run desk =
      (.error ending, { desk with printed }) := by
  have none : (compileSource (readAs held) true).artifact = none :=
    Option.eq_none_iff_forall_ne_some.mpr fun artifact made =>
      without artifact (compileSource_artifact.mp made)
  obtain ⟨ending, printed, ran⟩ := Act.run_printAll (compileSource (readAs held) true).printed desk
  rw [run_compile there, none, Act.run_bind, ran]
  cases ending with
  | error ending => exact ⟨_, _, rfl⟩
  | ok _ =>
      dsimp only
      split
      next => exact ⟨_, _, rfl⟩
      next => exact ⟨_, _, rfl⟩

theorem emits_of_yields (there : desk.files.read? (Store.FilePath.place file) = some held)
    (yields : Yields (readAs held) artifact) : Emits desk file (readAs held) artifact.moduleText := by
  obtain ⟨notes, rendered⟩ := rendered_of_yields yields
  have noted := Act.run_printAll_of_rendered rendered desk
  constructor
  · refine ⟨notes, rendered, ?_⟩
    rw [run_compile there, Act.run_bind, noted, compileSource_artifact.mpr yields]
    rfl
  · intro path clear
    rw [run_compile there, Act.run_bind, noted, compileSource_artifact.mpr yields]
    simp only
    have written := Act.run_writeFile artifact.moduleText
      (show Act.obstacle? { desk with printed := desk.printed ++ String.join notes } _ = none from
        clear)
    rw [Act.run_bind, written]
    obtain ⟨ending, printed, ran⟩ := Act.run_print _ _
    exact congrArg (·.2.files) ran

/-- The command emits exactly the module that the source yields. -/
theorem emits_iff {text : String} (there : desk.files.read? (Store.FilePath.place file) = some held) :
    Emits desk file (readAs held) text ↔
      ∃ artifact, Yields (readAs held) artifact ∧ artifact.moduleText = text := by
  constructor
  · rintro ⟨⟨notes, rendered, ran⟩, _⟩
    by_cases without : ∀ artifact, ¬ Yields (readAs held) artifact
    · obtain ⟨ending, printed, failed⟩ := run_compile_of_not_yields there without none
      rw [failed] at ran
      cases ran
    · obtain ⟨artifact, yields⟩ := not_forall_not.mp without
      obtain ⟨sameNotes, renderedSame, yielded⟩ := (emits_of_yields there yields).prints
      obtain rfl := Except.ok.inj (rendered.symm.trans renderedSame)
      have same := congrArg (·.2.printed) (ran.symm.trans yielded)
      exact ⟨artifact, yields, (String.append_right_inj _ |>.mp same).symm⟩
  · rintro ⟨artifact, yields, rfl⟩
    exact emits_of_yields there yields

end Console

/-! ## Judging a generated source -/

namespace Evaluation

variable {now : Timestamp} {number : Nat}

theorem accept_of_safe {mended : String} {rules : List String}
    (safe : Safety.check artifact.moduleText = []) : accept now number mended artifact rules =
      { number, rawSource := some mended, artifact := some ⟨artifact, now⟩, outcome := .succeeded,
        repairRules := rules } := by
  rw [accept, safe]

theorem accept_of_flagged {mended : String} {rules : List String}
    (broken : Safety.check artifact.moduleText ≠ []) : accept now number mended artifact rules =
      flagged number mended (Safety.check artifact.moduleText) rules := by
  unfold accept
  split
  next safe => exact absurd safe broken
  next issues _ => rfl

/-- A source that yields a module is judged by that module. -/
theorem evaluate_of_yields (now : Timestamp) (number : Nat) (yields : Yields source artifact) :
    ∃ mended rules, evaluate now number source = .ok (accept now number mended artifact rules) := by
  cases yields with
  | directly safe compiled =>
      refine ⟨source, [], ?_⟩
      rw [evaluate, safe]
      simp only [compiled]
  | @repaired diagnostics patch safe rejected mended safeAgain compiled =>
      refine ⟨patch.source, patch.rules.map Repair.Rule.name, ?_⟩
      rw [evaluate, safe]
      simp only [rejected, repaired, mended, safeAgain]
      unfold compileChecked
      rw [compiled]

/-- A source that yields no module comes to nothing. -/
theorem artifact_evaluate_of_not_yields {attempt : Attempt}
    (made : evaluate now number source = .ok attempt)
    (without : ∀ artifact, ¬ Yields source artifact) : attempt.artifact = none := by
  have verdict := verdict_evaluate made
  obtain ⟨judged, named, passes | fails⟩ := verdict.decided
  · obtain ⟨artifact, _, safe, compiled, _⟩ := passes.offers
    by_cases unruled : attempt.repairRules = []
    · cases named.symm.trans (verdict.asGenerated unruled)
      exact absurd (.directly safe compiled) (without artifact)
    · obtain ⟨patch, ⟨first, _, rejected, proposed⟩, patched, _⟩ := verdict.mended unruled
      cases named.symm.trans patched
      exact absurd (.repaired first rejected proposed safe compiled) (without artifact)
  · exact fails.artifact

/-- The attempt that a source makes succeeds with a module of this text. -/
def Accepts (now : Timestamp) (number : Nat) (source text : String) : Prop :=
  ∃ attempt artifact, evaluate now number source = .ok attempt ∧ attempt.outcome = .succeeded ∧
    attempt.artifact = some ⟨artifact, now⟩ ∧ artifact.moduleText = text

/-- A generated source becomes a lesson exactly if it yields a module that passes the check, too. -/
theorem accepts_iff {text : String} : Accepts now number source text ↔
    (∃ artifact, Yields source artifact ∧ artifact.moduleText = text) ∧
      Safety.check text = [] := by
  constructor
  · rintro ⟨attempt, artifact, made, succeeded, offers, rfl⟩
    by_cases without : ∀ artifact, ¬ Yields source artifact
    · cases (artifact_evaluate_of_not_yields made without).symm.trans offers
    · obtain ⟨yielded, yields⟩ := not_forall_not.mp without
      obtain ⟨mended, rules, judged⟩ := evaluate_of_yields now number yields
      cases made.symm.trans judged
      by_cases safe : Safety.check yielded.moduleText = []
      · rw [accept_of_safe safe] at offers
        cases offers
        exact ⟨⟨artifact, yields, rfl⟩, safe⟩
      · rw [accept_of_flagged safe] at offers
        cases offers
  · rintro ⟨⟨artifact, yields, rfl⟩, safe⟩
    obtain ⟨mended, rules, judged⟩ := evaluate_of_yields now number yields
    rw [accept_of_safe safe] at judged
    exact ⟨_, artifact, judged, rfl, rfl, rfl⟩

end Evaluation

/-! ## Both ways side by side -/

namespace Console

/-- A generated source becomes a lesson exactly if the command, told to repair, emits the module and
the module passes the check, too: the command does not look at what it has compiled. What it emits
although a rule is broken fails the attempt for just that reason. -/
theorem accepted_iff_emitted_safe {desk : Desk} {file held : String}
    (there : desk.files.read? (Store.FilePath.place file) = some held) (now : Timestamp)
    (number : Nat) (text : String) :
    (Evaluation.Accepts now number (readAs held) text ↔
        Emits desk file (readAs held) text ∧ Safety.check text = []) ∧
      (Emits desk file (readAs held) text → Safety.check text ≠ [] →
        ∃ mended rules, Evaluation.evaluate now number (readAs held) =
          .ok (Evaluation.flagged number mended (Safety.check text) rules)) := by
  rw [emits_iff there]
  refine ⟨Evaluation.accepts_iff, ?_⟩
  rintro ⟨artifact, yields, rfl⟩ broken
  obtain ⟨mended, rules, judged⟩ := Evaluation.evaluate_of_yields now number yields
  exact ⟨mended, rules, judged.trans (congrArg _ (Evaluation.accept_of_flagged broken))⟩

/-- A desk with one file. -/
private def deskWith (file held : String) : Desk where
  folder := "/work"
  files := ({} : Store.FileTree).write (Store.FilePath.place file) held
  rehearsal := { store := default, now := default }

/-- What a source yields that declares no name at its top level, and whether its module passes the
check. -/
private theorem yields_of_check {body : String} {safe : Bool} (passes : Safety.check source = [])
    (compiles : Module.compilesTo source body = true)
    (small : 4 * ((Module.moduleBody body).length + 243) ≤ Safety.maxSourceBytes)
    (judged : (Safety.Rule.all.filterMap
      (Safety.firstIssue (Module.moduleBody body))).isEmpty = safe) :
    ∃ artifact, Yields source artifact ∧ (Safety.check artifact.moduleText).isEmpty = safe := by
  refine ⟨_, .directly passes (Module.compile_of_compilesTo compiles), ?_⟩
  rw [Module.check_bareArtifact small, List.isEmpty_map, judged]

private def plainLesson : String := "export default <p>Half</p>;"

theorem accepted_iff_emitted_safe_plain :
    (deskWith "lesson.tsx" plainLesson).files.read? (Store.FilePath.place "lesson.tsx") =
        some plainLesson ∧
      ∃ text, Emits (deskWith "lesson.tsx" plainLesson) "lesson.tsx" (readAs plainLesson) text ∧
        Evaluation.Accepts ⟨0, some 0⟩ 1 (readAs plainLesson) text := by
  have there : (deskWith "lesson.tsx" plainLesson).files.read? (Store.FilePath.place "lesson.tsx") =
      some plainLesson := by decide +kernel
  obtain ⟨artifact, yields, safe⟩ :=
    @yields_of_check (readAs plainLesson)
      "export default React.createElement(\"p\", null, \"Half\");" true
      (by decide +kernel) (by decide +kernel) (by decide +kernel) (by decide +kernel)
  have emits := emits_of_yields there yields
  have accepts := (accepted_iff_emitted_safe there ⟨0, some 0⟩ 1 artifact.moduleText).1.mpr
    ⟨emits, List.isEmpty_iff.mp safe⟩
  exact ⟨there, artifact.moduleText, emits, accepts⟩

/-- A lesson whose text spells a web address with an entity. -/
private def linkedLesson : String := "export default <p>&#104;ttp://e</p>;"

/-- The address that an entity spells stands in the module alone: the command emits it, and the attempt
fails. -/
theorem emitted_module_rejected :
    ∃ text, Emits (deskWith "lesson.tsx" linkedLesson) "lesson.tsx" (readAs linkedLesson) text ∧
      ∀ now number, ¬ Evaluation.Accepts now number (readAs linkedLesson) text := by
  have there : (deskWith "lesson.tsx" linkedLesson).files.read?
      (Store.FilePath.place "lesson.tsx") = some linkedLesson := by decide +kernel
  obtain ⟨artifact, yields, flagged⟩ :=
    @yields_of_check (readAs linkedLesson)
      "export default React.createElement(\"p\", null, \"http://e\");" false
      (by decide +kernel) (by decide +kernel) (by decide +kernel) (by decide +kernel)
  refine ⟨artifact.moduleText, emits_of_yields there yields, fun now number accepts => ?_⟩
  rw [(Evaluation.accepts_iff.mp accepts).2] at flagged
  cases flagged

end Console

end Lectern
