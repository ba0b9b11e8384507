/-
Module: Lectern.Proofs.Generation.Calls
Purpose: The evaluation of a generated source with a note of what it calls: the safety check, the
  compiler and the repair. It comes to the same as the evaluation without notes.
Trusted boundary: none
Main exports: Call, Noted, Noted.evaluate, Noted.value_evaluate, Noted.Within, Noted.within_evaluate
-/
import Lectern.Generation.Evaluation

namespace Lectern.Evaluation

/-- What an evaluation calls, and what with. -/
inductive Call where
  | check (text : String)
  | compile (source : String)
  | propose (source : String) (errors : List String)
  deriving DecidableEq, Repr

/-- Is this a call of the compiler? -/
def Call.isCompile : Call → Bool
  | .compile _ => true
  | _ => false

/-- Is this a call of the repair? -/
def Call.isPropose : Call → Bool
  | .propose _ _ => true
  | _ => false

/-- A value and the calls that were made on the way to it, in order. -/
structure Noted (α : Type) where
  value : α
  calls : List Call
  deriving DecidableEq, Repr

namespace Noted

variable {α β : Type}

instance : Monad Noted where
  pure value := ⟨value, []⟩
  bind noted next := ⟨(next noted.value).value, noted.calls ++ (next noted.value).calls⟩

@[simp] theorem value_bind (noted : Noted α) (next : α → Noted β) :
    (noted >>= next).value = (next noted.value).value := rfl

@[simp] theorem calls_bind (noted : Noted α) (next : α → Noted β) :
    (noted >>= next).calls = noted.calls ++ (next noted.value).calls := rfl

@[simp] theorem value_map (f : α → β) (noted : Noted α) : (f <$> noted).value = f noted.value := rfl

@[simp] theorem calls_map (f : α → β) (noted : Noted α) : (f <$> noted).calls = noted.calls :=
  List.append_nil _

theorem map_bind_eq {γ : Type} (f : β → γ) (noted : Noted α) (next : α → Noted β) :
    f <$> (noted >>= next) = noted >>= fun value => f <$> next value := by
  rw [Noted.mk.injEq]
  exact ⟨rfl, by simp⟩

/-! ## The evaluation -/

/-- The safety check, noted. -/
def check (text : String) : Noted (List Safety.Issue) := ⟨Safety.check text, [.check text]⟩

/-- The compiler, noted. -/
def compile (source : String) : Noted (Except Module.CompileFault Module.Artifact) :=
  ⟨Module.compile source, [.compile source]⟩

/-- The repair, noted. -/
def propose (source : String) (errors : List String) : Noted (Option Repair.Patch) :=
  ⟨Repair.propose source errors, [.propose source errors]⟩

section

variable (now : Timestamp) (number : Nat) (source : String)

/-- An attempt whose source compiles, noted. -/
def accept (artifact : Module.Artifact) (rules : List String) : Noted Attempt := do
  match ← check artifact.moduleText with
  | [] =>
    return { number, rawSource := some source, artifact := some ⟨artifact, now⟩,
             outcome := .succeeded, repairRules := rules }
  | issues => return flagged number source issues rules

/-- Compile a source that passes the safety check, noted. -/
def compileChecked (rules : List String) : Noted (Except Failure Attempt) := do
  match ← compile source with
  | .ok artifact => .ok <$> accept now number source artifact rules
  | .error fault => return uncompiled number source fault rules

/-- An attempt whose source does not parse or resolve, noted. -/
def repaired (fault : Module.CompileFault) : Noted (Except Failure Attempt) := do
  match ← propose source fault.messages with
  | none => return uncompiled number source fault []
  | some patch =>
    let rules := patch.rules.map Repair.Rule.name
    match ← check patch.source with
    | [] => compileChecked now number patch.source rules
    | issues => return .ok (flagged number patch.source issues rules)

/-- The attempt that a generated source makes, noted. -/
def evaluate : Noted (Except Failure Attempt) := do
  match ← check source with
  | [] =>
    match ← compile source with
    | .ok artifact => .ok <$> accept now number source artifact []
    | .error (.rejected diagnostics) => repaired now number source (.rejected diagnostics)
    | .error (.unlowerable fault) => return uncompiled number source (.unlowerable fault) []
  | issues => return .ok (flagged number source issues [])

end

/-! ## The same without notes -/

variable {now : Timestamp} {number : Nat} {source : String} {artifact : Module.Artifact}
  {rules : List String} {fault : Module.CompileFault}

theorem value_accept : (accept now number source artifact rules).value =
    Evaluation.accept now number source artifact rules := by
  unfold accept Evaluation.accept
  rw [value_bind, check]
  cases Safety.check artifact.moduleText with
  | nil => rfl
  | cons issue issues => rfl

theorem value_compileChecked : (compileChecked now number source rules).value =
    Evaluation.compileChecked now number source rules := by
  unfold compileChecked Evaluation.compileChecked
  rw [value_bind, compile]
  cases Module.compile source with
  | ok artifact => exact congrArg Except.ok value_accept
  | error fault => rfl

theorem value_repaired : (repaired now number source fault).value =
    Evaluation.repaired now number source fault := by
  unfold repaired Evaluation.repaired
  rw [value_bind, propose]
  cases Repair.propose source fault.messages with
  | none => rfl
  | some patch =>
      simp only [value_bind, check]
      cases Safety.check patch.source with
      | nil => exact value_compileChecked
      | cons issue issues => rfl

/-- With its calls noted, an evaluation comes to the same attempt. -/
theorem value_evaluate : (evaluate now number source).value =
    Evaluation.evaluate now number source := by
  unfold evaluate Evaluation.evaluate
  rw [value_bind, check]
  cases Safety.check source with
  | cons issue issues => rfl
  | nil =>
      simp only [value_bind, compile]
      cases Module.compile source with
      | ok artifact => exact congrArg Except.ok value_accept
      | error fault =>
          cases fault with
          | rejected diagnostics => exact value_repaired
          | unlowerable fault => rfl

/-! ## How many calls are made -/

/-- At most so many calls of the compiler and of the repair are made. -/
structure Within (compiles proposals : Nat) (noted : Noted α) : Prop where
  compiles : noted.calls.countP Call.isCompile ≤ compiles
  proposals : noted.calls.countP Call.isPropose ≤ proposals

section

variable {compiles proposals : Nat} {text : String} {errors : List String}

theorem within_pure (value : α) : Within compiles proposals (pure value : Noted α) :=
  ⟨Nat.zero_le _, Nat.zero_le _⟩

theorem Within.map {noted : Noted α} (within : Within compiles proposals noted) (f : α → β) :
    Within compiles proposals (f <$> noted) := by
  constructor
  · simpa using within.compiles
  · simpa using within.proposals

theorem Within.after_check {next : List Safety.Issue → Noted α}
    (rest : Within compiles proposals (next (Safety.check text))) :
    Within compiles proposals (check text >>= next) := by
  constructor
  · simpa [check, Call.isCompile] using rest.compiles
  · simpa [check, Call.isPropose] using rest.proposals

theorem Within.after_compile {next : Except Module.CompileFault Module.Artifact → Noted α}
    (rest : Within compiles proposals (next (Module.compile source))) :
    Within (compiles + 1) proposals (compile source >>= next) := by
  constructor
  · simpa [compile, Call.isCompile, List.countP_cons] using rest.compiles
  · simpa [compile, Call.isPropose] using rest.proposals

theorem Within.after_propose {next : Option Repair.Patch → Noted α}
    (rest : Within compiles proposals (next (Repair.propose source errors))) :
    Within compiles (proposals + 1) (propose source errors >>= next) := by
  constructor
  · simpa [propose, Call.isCompile] using rest.compiles
  · simpa [propose, Call.isPropose, List.countP_cons] using rest.proposals

theorem within_accept : Within compiles proposals (accept now number source artifact rules) := by
  apply Within.after_check
  split
  next => exact within_pure _
  next => exact within_pure _

theorem within_compileChecked :
    Within (compiles + 1) proposals (compileChecked now number source rules) := by
  apply Within.after_compile
  split
  next => exact within_accept.map _
  next => exact within_pure _

end

theorem within_repaired : Within 1 1 (repaired now number source fault) := by
  apply Within.after_propose
  split
  next => exact within_pure _
  next patch _ =>
    apply Within.after_check
    split
    next => exact within_compileChecked
    next => exact within_pure _

/-- A source is repaired at most once, and the compiler is called at most twice. -/
theorem within_evaluate : Within 2 1 (evaluate now number source) := by
  apply Within.after_check
  split
  next =>
    apply Within.after_compile
    split
    next => exact within_accept.map _
    next => exact within_repaired
    next => exact within_pure _
  next => exact within_pure _

end Noted

end Lectern.Evaluation
