/-
Module: Lectern.Proofs.Generation.TraceAccounts
Purpose: What the trace of an evaluated reply says of the calls that were made for it. It says rightly
  whether a check has found an issue; whether the compiler was called it says rightly only as long as
  no check found one after that.
Trusted boundary: none
Main exports: Call.Flags, Noted.Flagged, Noted.Compiled, Noted.Tells, Noted.tells_evaluate,
  Trace.AgreesWith, Run.trace_agrees_iff
-/
import Lectern.Proofs.Generation.Attempts
import Lectern.Proofs.Generation.SoundReply
import Lectern.Proofs.Program.World

namespace Lectern

/-! ## Calls that find issues -/

namespace Evaluation

/-- A check finds an issue. -/
def Call.Flags : Call → Prop
  | .check text => Safety.check text ≠ []
  | _ => False

namespace Noted

variable {α : Type}

/-- A check that was made on the way has found an issue. -/
def Flagged (noted : Noted α) : Prop := ∃ call ∈ noted.calls, call.Flags

/-- The compiler was called on the way. -/
def Compiled (noted : Noted α) : Prop := ∃ call ∈ noted.calls, call.isCompile = true

theorem flagged_bind {β : Type} {noted : Noted α} {next : α → Noted β} :
    (noted >>= next).Flagged ↔ noted.Flagged ∨ (next noted.value).Flagged := by
  simp only [Flagged, calls_bind, List.mem_append, or_and_right, exists_or]

theorem compiled_bind {β : Type} {noted : Noted α} {next : α → Noted β} :
    (noted >>= next).Compiled ↔ noted.Compiled ∨ (next noted.value).Compiled := by
  simp only [Compiled, calls_bind, List.mem_append, or_and_right, exists_or]

theorem flagged_check {text : String} : (check text).Flagged ↔ Safety.check text ≠ [] := by
  simp [Flagged, check, Call.Flags]

theorem flagged_compile {source : String} : ¬ (compile source).Flagged := by
  simp [Flagged, compile, Call.Flags]

theorem flagged_propose {source : String} {errors : List String} :
    ¬ (propose source errors).Flagged := by
  simp [Flagged, propose, Call.Flags]

theorem flagged_pure {value : α} : ¬ (pure value : Noted α).Flagged := by
  rintro ⟨call, member, _⟩
  exact absurd member List.not_mem_nil

theorem compiled_check {text : String} : ¬ (check text).Compiled := by
  simp [Compiled, check, Call.isCompile]

theorem compiled_compile {source : String} : (compile source).Compiled := by
  simp [Compiled, compile, Call.isCompile]

theorem compiled_propose {source : String} {errors : List String} :
    ¬ (propose source errors).Compiled := by
  simp [Compiled, propose, Call.isCompile]

theorem compiled_pure {value : α} : ¬ (pure value : Noted α).Compiled := by
  rintro ⟨call, member, _⟩
  exact absurd member List.not_mem_nil

/-! ## What an attempt tells of them -/

/-- An attempt tells of the calls behind it: it has failed for safety exactly if a check has found an
issue, and it counts as compiled exactly if the compiler was called, be it before, and no check has
found an issue. Where there is no attempt, no check has found any. -/
structure Tells (before : Prop) (noted : Noted (Except Failure Attempt)) : Prop where
  flagged {attempt : Attempt} (made : noted.value = .ok attempt) :
    attempt.failureStage = some .safety ↔ noted.Flagged
  compiled {attempt : Attempt} (made : noted.value = .ok attempt) :
    Run.wasCompiled attempt = true ↔ (before ∨ noted.Compiled) ∧ ¬ noted.Flagged
  unflagged {failure : Failure} (fails : noted.value = .error failure) : ¬ noted.Flagged

section

variable {before : Prop} {now : Timestamp} {number : Nat} {text source : String}
  {artifact : Module.Artifact} {rules errors : List String} {fault : Module.CompileFault}

/-- A check that finds an issue is the last call. -/
theorem Tells.after_issues {next : List Safety.Issue → Noted (Except Failure Attempt)}
    (broken : Safety.check text ≠ [])
    (ends : next (Safety.check text) =
      pure (.ok (Evaluation.flagged number source (Safety.check text) rules))) :
    Tells before (check text >>= next) := by
  have flags : (check text >>= next).Flagged := flagged_bind.mpr (.inl (flagged_check.mpr broken))
  have value : (check text >>= next).value =
      .ok (Evaluation.flagged number source (Safety.check text) rules) := congrArg Noted.value ends
  constructor
  · intro attempt made
    cases value.symm.trans made
    exact iff_of_true rfl flags
  · intro attempt made
    cases value.symm.trans made
    exact iff_of_false nofun fun both => both.2 flags
  · intro failure fails
    cases value.symm.trans fails

/-- A check that finds nothing changes nothing. -/
theorem Tells.after_check {next : List Safety.Issue → Noted (Except Failure Attempt)}
    (clear : Safety.check text = []) (rest : Tells before (next (Safety.check text))) :
    Tells before (check text >>= next) := by
  have silent : ¬ (check text).Flagged := fun flags => flagged_check.mp flags clear
  constructor
  · intro attempt made
    rw [flagged_bind, or_iff_right silent]
    exact rest.flagged made
  · intro attempt made
    rw [flagged_bind, or_iff_right silent, compiled_bind, or_iff_right compiled_check]
    exact rest.compiled made
  · intro failure fails
    rw [flagged_bind, or_iff_right silent]
    exact rest.unflagged fails

theorem Tells.after_compile
    {next : Except Module.CompileFault Module.Artifact → Noted (Except Failure Attempt)}
    (rest : Tells True (next (Module.compile source))) :
    Tells before (compile source >>= next) := by
  constructor
  · intro attempt made
    rw [flagged_bind, or_iff_right flagged_compile]
    exact rest.flagged made
  · intro attempt made
    have called : before ∨ (compile source >>= next).Compiled :=
      .inr (compiled_bind.mpr (.inl compiled_compile))
    rw [flagged_bind, or_iff_right flagged_compile, and_iff_right called]
    exact (rest.compiled made).trans (and_iff_right (.inl trivial))
  · intro failure fails
    rw [flagged_bind, or_iff_right flagged_compile]
    exact rest.unflagged fails

theorem Tells.after_propose {next : Option Repair.Patch → Noted (Except Failure Attempt)}
    (rest : Tells before (next (Repair.propose source errors))) :
    Tells before (propose source errors >>= next) := by
  constructor
  · intro attempt made
    rw [flagged_bind, or_iff_right flagged_propose]
    exact rest.flagged made
  · intro attempt made
    rw [flagged_bind, or_iff_right flagged_propose, compiled_bind, or_iff_right compiled_propose]
    exact rest.compiled made
  · intro failure fails
    rw [flagged_bind, or_iff_right flagged_propose]
    exact rest.unflagged fails

/-- An attempt with no further call tells of the compiler alone. -/
theorem Tells.of_pure {attempt : Attempt} (unflagged : attempt.failureStage ≠ some .safety)
    (compiled : Run.wasCompiled attempt = true) : Tells True (pure (.ok attempt)) := by
  constructor
  · rintro _ ⟨⟩
    exact iff_of_false unflagged flagged_pure
  · rintro _ ⟨⟩
    exact iff_of_true compiled ⟨.inl trivial, flagged_pure⟩
  · exact fun _ => flagged_pure

/-- Where there is no attempt, none tells of anything. -/
theorem Tells.of_error {failure : Failure} : Tells before (pure (.error failure)) where
  flagged := nofun
  compiled := nofun
  unflagged := fun _ => flagged_pure

theorem tells_uncompiled : Tells True (pure (uncompiled number source fault rules)) := by
  unfold uncompiled
  split
  next => exact .of_error
  next =>
    cases fault with
    | rejected diagnostics => exact .of_pure nofun rfl
    | unlowerable fault => exact .of_pure nofun rfl

theorem tells_accept : Tells True (.ok <$> accept now number source artifact rules) := by
  unfold accept
  rw [map_bind_eq]
  by_cases clear : Safety.check artifact.moduleText = []
  · apply Tells.after_check clear
    rw [clear]
    exact .of_pure nofun rfl
  · apply Tells.after_issues clear
    split
    next none => exact absurd none clear
    next => rfl

theorem tells_compileChecked : Tells before (compileChecked now number source rules) := by
  apply Tells.after_compile
  split
  next => exact tells_accept
  next => exact tells_uncompiled

theorem tells_repaired : Tells True (repaired now number source fault) := by
  apply Tells.after_propose
  split
  next => exact tells_uncompiled
  next patch _ =>
    by_cases clear : Safety.check patch.source = []
    · apply Tells.after_check clear
      rw [clear]
      exact tells_compileChecked
    · apply Tells.after_issues clear
      split
      next none => exact absurd none clear
      next => rfl

/-- Whichever way an evaluation goes, the attempt tells of all its calls. -/
theorem tells_evaluate (now : Timestamp) (number : Nat) (source : String) :
    Tells False (evaluate now number source) := by
  by_cases clear : Safety.check source = []
  · apply Tells.after_check clear
    rw [clear]
    apply Tells.after_compile
    split
    next => exact tells_accept
    next => exact tells_repaired
    next => exact tells_uncompiled
  · apply Tells.after_issues clear
    split
    next none => exact absurd none clear
    next => rfl

/-- The compiler is called exactly for a source that passes the check. -/
theorem compiled_evaluate : (evaluate now number source).Compiled ↔ Safety.check source = [] := by
  unfold evaluate
  rw [compiled_bind, or_iff_right compiled_check]
  constructor
  · intro compiled
    by_contra broken
    revert compiled
    split
    next none => exact absurd none broken
    next => exact compiled_pure
  · intro clear
    rw [check, clear]
    exact compiled_bind.mpr (.inl compiled_compile)

/-- What is called for a source that compiles at once. -/
theorem calls_evaluate_of_compiled (clear : Safety.check source = [])
    (compiled : Module.compile source = .ok artifact) : (evaluate now number source).calls =
      [.check source, .compile source, .check artifact.moduleText] := by
  have accepted : (accept now number source artifact []).calls =
      [.check artifact.moduleText] := by
    unfold accept
    rw [calls_bind]
    split
    next => rfl
    next => rfl
  unfold evaluate
  rw [calls_bind, check, clear]
  dsimp only
  rw [calls_bind, compile, compiled]
  dsimp only
  rw [calls_map, accepted]
  rfl

end

end Noted

end Evaluation

/-! ## What a trace says -/

namespace Trace

/-- A trace says that no check found an issue. -/
def SaysPassed (trace : Trace) : Prop := Json.lookup "passed" trace.validation = some (.bool true)

/-- A trace says that the compiler was called. -/
def SaysCompiled (trace : Trace) : Prop :=
  Json.lookup "attempted" trace.compilation = some (.bool true)

/-- What a trace says of the check and of the compiler agrees with the calls that were made. -/
structure AgreesWith (trace : Trace) {α : Type} (noted : Evaluation.Noted α) : Prop where
  passed : trace.SaysPassed ↔ ¬ noted.Flagged
  compiled : trace.SaysCompiled ↔ noted.Compiled

end Trace

namespace Run

variable {lessonId source : String} {prompt : Prompt} {model : Option String} {made : Attempt}
  {now : Timestamp}

theorem saysPassed_traceOf : (traceOf lessonId prompt model (some source) made now).SaysPassed ↔
    made.failureStage ≠ some .safety := by
  simp [Trace.SaysPassed, traceOf, validationOf, Json.lookup]

theorem saysCompiled_traceOf {response : Option String} :
    (traceOf lessonId prompt model response made now).SaysCompiled ↔ wasCompiled made = true := by
  simp [Trace.SaysCompiled, traceOf, compilationOf, Json.lookup]

/-- What the trace of an evaluated reply says, by the calls that were made. -/
theorem traceOf_evaluate (lessonId source : String) (prompt : Prompt) (model : Option String)
    (now later : Timestamp) (number : Nat) {trace : Trace}
    (judged : Evaluation.evaluate now number source = .ok made)
    (traced : trace = traceOf lessonId prompt model (some source) made later) :
    (trace.SaysPassed ↔ ¬ (Evaluation.Noted.evaluate now number source).Flagged) ∧
      (trace.SaysCompiled ↔ (Evaluation.Noted.evaluate now number source).Compiled ∧
        ¬ (Evaluation.Noted.evaluate now number source).Flagged) := by
  have tells := Evaluation.Noted.tells_evaluate now number source
  have value := Evaluation.Noted.value_evaluate.trans judged
  rw [traced]
  constructor
  · exact saysPassed_traceOf.trans (not_congr (tells.flagged value))
  · exact saysCompiled_traceOf.trans ((tells.compiled value).trans (by rw [false_or]))

/-- What the trace of a crash says where the compiler has broken off at a reply: nothing, although the
compiler was called and no check has found an issue. -/
theorem crashTrace_breakdown (lessonId : String) (number : Nat) (now later : Timestamp)
    {overlong : Number.Overlong} (breaksOff : Evaluation.BreaksOff source overlong) :
    Evaluation.evaluate now number source = .error (Evaluation.breakdown overlong) ∧
      (Evaluation.Noted.evaluate now number source).Compiled ∧
      ¬ (Evaluation.Noted.evaluate now number source).Flagged ∧
      ¬ (crashTrace lessonId number (Evaluation.breakdown overlong) later).SaysPassed ∧
      ¬ (crashTrace lessonId number (Evaluation.breakdown overlong) later).SaysCompiled := by
  have fails : Evaluation.evaluate now number source = _ := breaksOff.evaluate_eq
  have tells := Evaluation.Noted.tells_evaluate now number source
  exact ⟨fails, Evaluation.Noted.compiled_evaluate.mpr breaksOff.safe,
    tells.unflagged (Evaluation.Noted.value_evaluate.trans fails), nofun, nofun⟩

/-- The trace of an attempt at a reply says rightly whether a check found an issue. What it says of the
compiler is right unless the source passes the check and a later one, that of the repaired source or of
the module, finds an issue: the compiler was called then, and the trace denies it. Where the compiler
breaks off at the reply, there is only the trace of the crash, and it says nothing of either. -/
theorem trace_agrees_iff {τ : Type} [Seconds τ] (task : Task τ) (number : Nat)
    (previous : Option Attempt) (world : World τ) (log : List (Inquiry τ)) (source : String) :
    (∀ made trace, ((attempt task number previous).carryOut world log).2 = .ok (made, trace) →
      trace.response = some source →
      ∃ now, (Evaluation.Noted.evaluate now number source).value = .ok made ∧
        (trace.SaysPassed ↔ ¬ (Evaluation.Noted.evaluate now number source).Flagged) ∧
        (trace.AgreesWith (Evaluation.Noted.evaluate now number source) ↔
          ¬ (Safety.check source = [] ∧ (Evaluation.Noted.evaluate now number source).Flagged)) ∧
        (Safety.check source = [] → (Evaluation.Noted.evaluate now number source).Flagged →
          (Evaluation.Noted.evaluate now number source).Compiled ∧ ¬ trace.SaysCompiled)) ∧
    ∀ overlong, Evaluation.BreaksOff source overlong → ∀ now later,
      Evaluation.evaluate now number source = .error (Evaluation.breakdown overlong) ∧
        (Evaluation.Noted.evaluate now number source).Compiled ∧
        ¬ (Evaluation.Noted.evaluate now number source).Flagged ∧
        ¬ (crashTrace task.lesson.id number (Evaluation.breakdown overlong) later).SaysPassed ∧
        ¬ (crashTrace task.lesson.id number (Evaluation.breakdown overlong) later).SaysCompiled := by
  refine ⟨?_, fun _ breaksOff now later => crashTrace_breakdown _ number now later breaksOff⟩
  intro made trace done answered
  have offers : Offers task number (.ok (made, trace)) :=
    done ▸ outside_attempt.carried_outside world log
  obtain ⟨_, _, prompt, response, later, arises, traced⟩ := offers
  obtain rfl : response = some source := by
    rw [traced] at answered
    exact answered
  cases arises with
  | evaluated now _ judged =>
      obtain ⟨passed, told⟩ := traceOf_evaluate _ source prompt _ now later number judged traced
      have called : (Evaluation.Noted.evaluate now number source).Compiled ↔
          Safety.check source = [] := Evaluation.Noted.compiled_evaluate
      refine ⟨now, Evaluation.Noted.value_evaluate.trans judged, passed, ?_, ?_⟩
      · constructor
        · rintro ⟨_, agrees⟩ ⟨clear, flags⟩
          exact (told.mp (agrees.mpr (called.mpr clear))).2 flags
        · intro unflagged
          refine ⟨passed, told.trans (and_iff_left_of_imp ?_)⟩
          intro compiled flags
          exact unflagged ⟨called.mp compiled, flags⟩
      · intro clear flags
        exact ⟨called.mpr clear, fun compiled => (told.mp compiled).2 flags⟩

/-- A world in which the generator has a source. -/
private def replying (source : String) : World Int := fun _ _ request =>
  match request with
  | .store _ => .error (.outside "OSError" "")
  | .clock => .ok 0
  | .moment => .ok (.after 1)
  | .sleep _ => .ok ()
  | .generate _ _ => .ok source
  | .freshId => .ok "a"

/-- A lesson is generated, with a minute left. -/
private def minuteLeft : Task Int :=
  { Context.threeAttempts with
    lesson := { id := "a", title := "Tides", topic := "Tides", createdAt := .after 0,
                updatedAt := .after 0 }
    pedagogy := {}
    started := 0
    deadline := 60 }

/-- The trace of the attempt at a source there. -/
private def minuteTrace (source : String) (made : Attempt) : Trace :=
  traceOf "a" (.initial "Tides" {}) none (some source) made (.after 1)

private theorem attempt_minuteLeft {source : String} {made : Attempt}
    (visible : isBlank source = false)
    (judged : Evaluation.evaluate (.after 1) 1 source = .ok made) :
    ((attempt minuteLeft 1 none).carryOut (replying source) []).2 =
      .ok (made, minuteTrace source made) := by
  have went : ((attempt minuteLeft 1 none).carryOut (replying source) []).2 =
      ((if isBlank source then
          unanswered minuteLeft (.initial "Tides" {}) 1 .generation
            "Generation returned an empty response"
        else evaluated minuteLeft (.initial "Tides" {}) 1 source).carryOut (replying source)
        [⟨.clock, .ok 0⟩, ⟨.generate (.initial "Tides" {}) 60, .ok source⟩]).2 := rfl
  rw [went, visible]
  change ((Program.ofExcept (Evaluation.evaluate (.after 1) 1 source) >>= _).carryOut _ _).2 = _
  rw [judged]
  rfl

/-- The trace of a source that is flagged at once agrees with what happened. -/
theorem trace_agrees_iff_unsafe :
    ∃ made trace, ((attempt minuteLeft 1 none).carryOut (replying "eval(1)") []).2 =
        .ok (made, trace) ∧ trace.response = some "eval(1)" ∧
      ∃ now, trace.AgreesWith (Evaluation.Noted.evaluate now 1 "eval(1)") := by
  have broken : Safety.check "eval(1)" ≠ [] := by decide +kernel
  have done := attempt_minuteLeft (show isBlank "eval(1)" = false by decide +kernel)
    (Evaluation.evaluate_of_flagged broken)
  obtain ⟨now, _, _, agrees, _⟩ := (trace_agrees_iff minuteLeft 1 none _ [] _).1 _ _ done rfl
  exact ⟨_, _, done, rfl, now, agrees.mpr fun both => broken both.1⟩

/-- A source compiles, its module is flagged, and the trace says that the compiler was not called. -/
theorem compiled_reply_untold :
    .compile Module.spelledAddress ∈
        (Evaluation.Noted.evaluate (.after 1) 1 Module.spelledAddress).calls ∧
      ∃ made trace, ((attempt minuteLeft 1 none).carryOut (replying Module.spelledAddress) []).2 =
          .ok (made, trace) ∧ ¬ trace.SaysCompiled := by
  have calls : (Evaluation.Noted.evaluate (.after 1) 1 Module.spelledAddress).calls = _ :=
    Evaluation.Noted.calls_evaluate_of_compiled Module.check_spelledAddress
      Module.compile_spelledAddress
  have judged := Evaluation.evaluate_spelledAddress (.after 1) 1
  have done := attempt_minuteLeft (show isBlank Module.spelledAddress = false by decide +kernel)
    judged
  refine ⟨?_, _, _, done, ?_⟩
  · rw [calls]
    exact List.mem_cons_of_mem _ List.mem_cons_self
  · intro compiled
    have told := traceOf_evaluate "a" Module.spelledAddress (.initial "Tides" {}) none (.after 1)
      (.after 1) 1 judged (minuteTrace.eq_1 Module.spelledAddress _)
    apply (told.2.mp compiled).2
    unfold Evaluation.Noted.Flagged
    rw [calls]
    refine ⟨_, List.mem_cons_of_mem _ (List.mem_cons_of_mem _ List.mem_cons_self), ?_⟩
    intro clear
    rw [Module.check_addressModule] at clear
    exact List.cons_ne_nil _ _ clear

end Run

end Lectern
