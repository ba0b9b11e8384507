/-
Module: Lectern.Proofs.Program.Discipline
Purpose: Rules for what a program may ask for, which depend on what it has asked for before and how
  that was answered, and the proof rules by which programs are shown to keep them.
Trusted boundary: none
Main exports: Discipline, Program.Keeps, Program.Keeps.mono, Program.keeps_bind,
  Program.keeps_attempt, Program.keeps_call, outside, Program.Keeps.of_outside_within
-/
import Lectern.Generation.Program

namespace Lectern

universe u

/-- Rules for the requests of a program. A situation says what may be asked for, which answers have
to be reckoned with, and which situation the program is in behind an answer. -/
structure Discipline (τ : Type) (S : Type u) where
  allows : S → {β : Type} → Request τ β → Prop
  expects : S → {β : Type} → Request τ β → Except Failure β → Prop
  after : S → {β : Type} → Request τ β → Except Failure β → S

namespace Program

variable {τ α β : Type} {S : Type u}

/-- From a situation on, whatever the expected answers are, a program asks for nothing that is not
allowed, and it ends only in a situation and with a result that go together. -/
def Keeps (rules : Discipline τ S) (post : S → Except Failure α → Prop) :
    S → Program τ α → Prop
  | situation, .done value => post situation (.ok value)
  | situation, .failed failure => post situation (.error failure)
  | situation, .ask request next =>
    rules.allows situation request ∧
      ∀ answer, rules.expects situation request answer →
        Keeps rules post (rules.after situation request answer) (next answer)

/-- What holds at the end of the first of two programs, so that the second may follow. -/
def Then (rules : Discipline τ S) (next : α → Program τ β)
    (post : S → Except Failure β → Prop) : S → Except Failure α → Prop
  | situation, .ok value => Keeps rules post situation (next value)
  | situation, .error failure => post situation (.error failure)

variable {rules : Discipline τ S}

@[simp]
theorem then_ok {next : α → Program τ β} {post : S → Except Failure β → Prop} {situation : S}
    {value : α} : Then rules next post situation (.ok value) ↔
      Keeps rules post situation (next value) := Iff.rfl

/-- A program that ends well enough ends well enough for less. -/
theorem Keeps.mono {post weaker : S → Except Failure α → Prop}
    (weakens : ∀ situation result, post situation result → weaker situation result)
    {program : Program τ α} {situation : S} (keeps : Keeps rules post situation program) :
    Keeps rules weaker situation program := by
  induction program generalizing situation with
  | done value => exact weakens _ _ keeps
  | failed failure => exact weakens _ _ keeps
  | ask request next inductionHypothesis =>
      refine ⟨keeps.1, ?_⟩
      intro answer expected
      exact inductionHypothesis answer (keeps.2 answer expected)

/-- A program that keeps some rules keeps others that allow more, and that reckon with no other
answers. -/
theorem Keeps.allowing {looser : Discipline τ S} {post : S → Except Failure α → Prop}
    {program : Program τ α} {situation : S} (keeps : Keeps rules post situation program)
    (allowed : ∀ (situation : S) {β : Type} (request : Request τ β),
      rules.allows situation request → looser.allows situation request)
    (expected : ∀ (situation : S) {β : Type} (request : Request τ β) (answer : Except Failure β),
      looser.expects situation request answer → rules.expects situation request answer)
    (same : ∀ (situation : S) {β : Type} (request : Request τ β) (answer : Except Failure β),
      looser.after situation request answer = rules.after situation request answer) :
    Keeps looser post situation program := by
  induction program generalizing situation with
  | done value => exact keeps
  | failed failure => exact keeps
  | ask request next inductionHypothesis =>
      refine ⟨allowed situation request keeps.1, ?_⟩
      intro answer reckoned
      rw [same]
      exact inductionHypothesis answer (keeps.2 answer (expected situation request answer reckoned))

/-- One program after another: the second goes on in the situation that the first leaves, and
nothing follows a failure. -/
@[simp]
theorem keeps_bind {post : S → Except Failure β → Prop} {program : Program τ α}
    {next : α → Program τ β} {situation : S} :
    Keeps rules post situation (program.bind next) ↔
      Keeps rules (Then rules next post) situation program := by
  induction program generalizing situation with
  | done value => rfl
  | failed failure => rfl
  | ask request go inductionHypothesis =>
      constructor
      · intro keeps
        refine ⟨keeps.1, ?_⟩
        intro answer expected
        exact (inductionHypothesis answer).mp (keeps.2 answer expected)
      · intro keeps
        refine ⟨keeps.1, ?_⟩
        intro answer expected
        exact (inductionHypothesis answer).mpr (keeps.2 answer expected)

@[simp]
theorem keeps_bind' {post : S → Except Failure β → Prop} {program : Program τ α}
    {next : α → Program τ β} {situation : S} :
    Keeps rules post situation (program >>= next) ↔
      Keeps rules (Then rules next post) situation program := keeps_bind

/-- A failure that is caught is a result like any other. -/
@[simp]
theorem keeps_attempt {post : S → Except Failure (Except Failure α) → Prop}
    {program : Program τ α} {situation : S} :
    Keeps rules post situation program.attempt ↔
      Keeps rules (fun situation result => post situation (.ok result)) situation program := by
  induction program generalizing situation with
  | done value => rfl
  | failed failure => rfl
  | ask request go inductionHypothesis =>
      constructor
      · intro keeps
        refine ⟨keeps.1, ?_⟩
        intro answer expected
        exact (inductionHypothesis answer).mp (keeps.2 answer expected)
      · intro keeps
        refine ⟨keeps.1, ?_⟩
        intro answer expected
        exact (inductionHypothesis answer).mpr (keeps.2 answer expected)

/-- A single request ends with its answer. -/
@[simp]
theorem keeps_call {post : S → Except Failure α → Prop} {request : Request τ α} {situation : S} :
    Keeps rules post situation (.call request) ↔
      rules.allows situation request ∧
        ∀ answer, rules.expects situation request answer →
          post (rules.after situation request answer) answer := by
  constructor
  · intro keeps
    refine ⟨keeps.1, ?_⟩
    intro answer expected
    have behind := keeps.2 answer expected
    cases answer with
    | ok value => exact behind
    | error failure => exact behind
  · intro keeps
    refine ⟨keeps.1, ?_⟩
    intro answer expected
    have behind := keeps.2 answer expected
    cases answer with
    | ok value => exact behind
    | error failure => exact behind

@[simp]
theorem keeps_store {post : S → Except Failure α → Prop} {operation : Store.Operation α}
    {situation : S} :
    Keeps rules post situation (.store operation) ↔
      rules.allows situation (.store operation) ∧
        ∀ answer, rules.expects situation (.store operation) answer →
          post (rules.after situation (.store operation) answer) answer := keeps_call

@[simp]
theorem keeps_ofExcept {post : S → Except Failure α → Prop} {result : Except Failure α}
    {situation : S} :
    Keeps rules post situation (.ofExcept result) ↔ post situation result := by
  cases result with
  | ok value => rfl
  | error failure => rfl

end Program

/-! ## Requests that leave the store alone -/

/-- A request to the clock or the generator, not to the store. -/
def Request.LeavesStore {τ β : Type} : Request τ β → Prop
  | .store _ => False
  | _ => True

/-- Nothing is asked of the store. -/
def outside (τ : Type) : Discipline τ Unit where
  allows _ _ request := request.LeavesStore
  expects _ _ _ _ := True
  after _ _ _ _ := ()

/-- A program that leaves the store alone stays within situations in which all such requests are
allowed and lead to no other ones. -/
theorem Program.Keeps.of_outside_within {τ α : Type} {S : Type u} {rules : Discipline τ S}
    {within : S → Prop}
    (allowed : ∀ {situation : S} {β : Type} (request : Request τ β), within situation →
      request.LeavesStore → rules.allows situation request)
    (stays : ∀ {situation : S} {β : Type} (request : Request τ β) (answer : Except Failure β),
      within situation → request.LeavesStore → within (rules.after situation request answer))
    {post : Except Failure α → Prop} {program : Program τ α} {situation : S} (held : within situation)
    (keeps : program.Keeps (outside τ) (fun _ result => post result) ()) :
    program.Keeps rules (fun behind result => within behind ∧ post result) situation := by
  induction program generalizing situation with
  | done value => exact ⟨held, keeps⟩
  | failed failure => exact ⟨held, keeps⟩
  | ask request next inductionHypothesis =>
      refine ⟨allowed request held keeps.1, ?_⟩
      intro answer _
      exact inductionHypothesis answer (stays request answer held keeps.1) (keeps.2 answer trivial)

/-- A program that leaves the store alone stays in a situation in which all such requests are
allowed and change nothing. -/
theorem Program.Keeps.of_outside {τ α : Type} {S : Type u} {rules : Discipline τ S} {situation : S}
    (allowed : ∀ {β : Type} (request : Request τ β),
      request.LeavesStore → rules.allows situation request)
    (stays : ∀ {β : Type} (request : Request τ β) (answer : Except Failure β),
      request.LeavesStore → rules.after situation request answer = situation)
    {post : Except Failure α → Prop} {program : Program τ α}
    (keeps : program.Keeps (outside τ) (fun _ result => post result) ()) :
    program.Keeps rules (fun behind result => behind = situation ∧ post result) situation := by
  refine Keeps.of_outside_within ?_ ?_ rfl keeps
  · rintro _ β request rfl leaves
    exact allowed request leaves
  · rintro _ β request answer rfl leaves
    exact stays request answer leaves

end Lectern
