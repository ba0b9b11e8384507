/-
Module: Lectern.Proofs.Program.World
Purpose: A program carried out in a world that answers whatever it asks, in view of all that was
  asked before; what it asks is kept in order, and a program that keeps its rules keeps them there.
Trusted boundary: none
Main exports: Inquiry, World, Program.carryOut, Discipline.recording, Program.Keeps.carried,
  Program.Keeps.carried_upheld, Program.Keeps.allowed, World.Tends
-/
import Lectern.Proofs.Program.Crowd

namespace Lectern

variable {τ α β : Type}

/-! ## Worlds -/

/-- A request and what was answered to it. -/
structure Inquiry (τ : Type) where
  {β : Type}
  request : Request τ β
  answer : Except Failure β

/-- All that a program may ask: each request is answered or fails, and how it is may depend on what
was asked before. -/
def World (τ : Type) : Type 1 :=
  List (Inquiry τ) → {β : Type} → Request τ β → Except Failure β

/-- Carry a program out behind some inquiries: all inquiries that there are in the end, and what the
program comes to. -/
def Program.carryOut (world : World τ) :
    List (Inquiry τ) → Program τ α → List (Inquiry τ) × Except Failure α
  | log, .done value => (log, .ok value)
  | log, .failed failure => (log, .error failure)
  | log, .ask request next =>
    let answer := world log request
    carryOut world (log ++ [⟨request, answer⟩]) (next answer)

section Calls

variable {world : World τ} {log : List (Inquiry τ)} {request : Request τ α} {next : α → Program τ β}

/-- A call that is answered, and what follows it. -/
theorem Program.carryOut_call_ok {value : α} (answered : world log request = .ok value) :
    (Program.call request >>= next).carryOut world log =
      (next value).carryOut world (log ++ [⟨request, .ok value⟩]) := by
  change Program.carryOut world (log ++ [⟨request, world log request⟩]) _ = _
  rw [answered]
  rfl

/-- Nothing follows a call that fails. -/
theorem Program.carryOut_call_error {failure : Failure}
    (failed : world log request = .error failure) :
    (Program.call request >>= next).carryOut world log =
      (log ++ [⟨request, .error failure⟩], .error failure) := by
  change Program.carryOut world (log ++ [⟨request, world log request⟩]) _ = _
  rw [failed]
  rfl

end Calls

/-- What is asked comes behind all that was asked before. -/
theorem Program.carryOut_extends (world : World τ) (log : List (Inquiry τ))
    (program : Program τ α) : ∃ more, (program.carryOut world log).1 = log ++ more := by
  induction program generalizing log with
  | done value => exact ⟨[], (List.append_nil log).symm⟩
  | failed failure => exact ⟨[], (List.append_nil log).symm⟩
  | ask request next inductionHypothesis =>
      obtain ⟨more, asked⟩ := inductionHypothesis (world log request)
        (log ++ [⟨request, world log request⟩])
      refine ⟨⟨request, world log request⟩ :: more, ?_⟩
      rw [carryOut, asked, List.append_assoc]
      rfl

/-- Whatever is asked has the answer that the world gives to it behind what was asked before, if that
holds at the start. -/
private theorem Program.carryOut_answered_behind (world : World τ) (program : Program τ α)
    {log front back : List (Inquiry τ)} {inquiry : Inquiry τ}
    (answered : ∀ front back inquiry, log = front ++ inquiry :: back →
      inquiry.answer = world front inquiry.request)
    (split : (program.carryOut world log).1 = front ++ inquiry :: back) :
    inquiry.answer = world front inquiry.request := by
  induction program generalizing log with
  | done value => exact answered _ _ _ split
  | failed failure => exact answered _ _ _ split
  | ask request next inductionHypothesis =>
      refine inductionHypothesis (world log request) ?_ split
      intro front back inquiry split
      rcases List.eq_nil_or_concat back with rfl | ⟨back, last, rfl⟩
      · obtain ⟨rfl, same⟩ := List.append_inj' split rfl
        cases same
        rfl
      · rw [List.concat_eq_append, ← List.cons_append, ← List.append_assoc] at split
        exact answered _ _ _ (List.append_inj' split rfl).1

theorem Program.carryOut_answered (world : World τ) (program : Program τ α)
    {front back : List (Inquiry τ)} {inquiry : Inquiry τ}
    (split : (program.carryOut world []).1 = front ++ inquiry :: back) :
    inquiry.answer = world front inquiry.request :=
  carryOut_answered_behind world program (fun front back inquiry split => by simp at split) split

/-- What a program asks first is asked at once. -/
theorem Program.carryOut_asks (world : World τ) (log : List (Inquiry τ)) (request : Request τ α)
    (next : Except Failure α → Program τ β) :
    ∃ back, ((Program.ask request next).carryOut world log).1 =
      log ++ ⟨request, world log request⟩ :: back := by
  obtain ⟨back, asked⟩ := carryOut_extends world (log ++ [⟨request, world log request⟩])
    (next (world log request))
  refine ⟨back, asked.trans ?_⟩
  rw [List.append_assoc]
  rfl

/-- What is called first is asked at once. -/
theorem Program.carryOut_call_asks (world : World τ) (log : List (Inquiry τ))
    (request : Request τ α) (next : α → Program τ β) :
    ∃ back, ((Program.call request >>= next).carryOut world log).1 =
      log ++ ⟨request, world log request⟩ :: back :=
  carryOut_asks world log request _

/-- A program goes on behind all that the one before it asked, if that one did not fail. -/
theorem Program.carryOut_bind {world : World τ} {log behind : List (Inquiry τ)} {value : α}
    {program : Program τ α} {next : α → Program τ β}
    (first : program.carryOut world log = (behind, .ok value)) :
    (program >>= next).carryOut world log = (next value).carryOut world behind := by
  induction program generalizing log with
  | done result =>
      cases first
      rfl
  | failed failure => cases first
  | ask request go inductionHypothesis => exact inductionHypothesis _ first

/-- What a program comes to may be made something else at its end. -/
theorem Program.carryOut_map (world : World τ) (log : List (Inquiry τ)) (program : Program τ α)
    (made : α → β) : (program >>= fun value => .done (made value)).carryOut world log =
      ((program.carryOut world log).1, (program.carryOut world log).2.map made) := by
  induction program generalizing log with
  | done value => rfl
  | failed failure => rfl
  | ask request next inductionHypothesis => exact inductionHypothesis _ _

namespace Inquiry

/-- A reading of the clock. -/
abbrev reads (now : τ) : Inquiry τ := ⟨.clock, .ok now⟩

/-- The oldest lesson that waits is claimed. -/
abbrev claims (lesson : Lesson) : Inquiry τ := ⟨.store .claimNext, .ok (some lesson)⟩

/-- Is the clock asked for a reading? -/
def isReading : Inquiry τ → Bool
  | ⟨.clock, _⟩ => true
  | _ => false

/-- Is the generator asked for a source? -/
def isGeneration : Inquiry τ → Bool
  | ⟨.generate _ _, _⟩ => true
  | _ => false

/-- Is a trace to be appended? -/
def isTracing : Inquiry τ → Bool
  | ⟨.store (.appendTrace _), _⟩ => true
  | _ => false

/-- It was answered, or may well have failed. -/
def IsReliable (inquiry : Inquiry τ) : Prop := inquiry.request.Reliable inquiry.answer

end Inquiry

/-- How often the generator was asked for a source. -/
def generations (log : List (Inquiry τ)) : Nat := log.countP (·.isGeneration)

/-- How often a trace was to be appended. -/
def tracings (log : List (Inquiry τ)) : Nat := log.countP (·.isTracing)

@[simp]
theorem generations_append (front back : List (Inquiry τ)) :
    generations (front ++ back) = generations front + generations back := List.countP_append

@[simp]
theorem tracings_append (front back : List (Inquiry τ)) :
    tracings (front ++ back) = tracings front + tracings back := List.countP_append

theorem tracings_snoc_other {log : List (Inquiry τ)} {inquiry : Inquiry τ}
    (other : inquiry.isTracing = false) : tracings (log ++ [inquiry]) = tracings log := by
  simp [tracings, other]

/-! ## Rules in a world -/

/-- Rules by all that was asked before. -/
def Discipline.recording
    (allows : List (Inquiry τ) → {β : Type} → Request τ β → Prop)
    (expects : List (Inquiry τ) → {β : Type} → Request τ β → Except Failure β → Prop) :
    Discipline τ (List (Inquiry τ)) where
  allows log _ request := allows log request
  expects log _ request answer := expects log request answer
  after log _ request answer := log ++ [⟨request, answer⟩]

/-- What a program comes to that leaves the store alone, in whatever world. -/
theorem Program.Keeps.carried_outside {post : Except Failure α → Prop} {program : Program τ α}
    (keeps : program.Keeps (outside τ) (fun _ result => post result) ()) (world : World τ)
    (log : List (Inquiry τ)) : post (program.carryOut world log).2 := by
  induction program generalizing log with
  | done value => exact keeps
  | failed failure => exact keeps
  | ask request next inductionHypothesis => exact inductionHypothesis _ (keeps.2 _ trivial) _

namespace Program.Keeps

variable {allows : List (Inquiry τ) → {β : Type} → Request τ β → Prop}
  {expects : List (Inquiry τ) → {β : Type} → Request τ β → Except Failure β → Prop}
  {post : List (Inquiry τ) → Except Failure α → Prop} {program : Program τ α}
  {log : List (Inquiry τ)} (world : World τ)

/-- In a world that answers as expected, a program that keeps its rules ends as it should. -/
theorem carried (expected : ∀ log {β : Type} (request : Request τ β),
      expects log request (world log request))
    (keeps : program.Keeps (.recording allows expects) post log) :
    post (program.carryOut world log).1 (program.carryOut world log).2 := by
  induction program generalizing log with
  | done value => exact keeps
  | failed failure => exact keeps
  | ask request next inductionHypothesis =>
      exact inductionHypothesis _ (keeps.2 _ (expected log request))

/-- It is enough that the world answers as expected while something is upheld, if every request that
is allowed upholds it. -/
theorem carried_upheld (upheld : List (Inquiry τ) → Prop)
    (upholds : ∀ {log : List (Inquiry τ)} {β : Type} {request : Request τ β}, upheld log →
      allows log request → expects log request (world log request) ∧
        upheld (log ++ [⟨request, world log request⟩]))
    (held : upheld log) (keeps : program.Keeps (.recording allows expects) post log) :
    upheld (program.carryOut world log).1 ∧
      post (program.carryOut world log).1 (program.carryOut world log).2 := by
  induction program generalizing log with
  | done value => exact ⟨held, keeps⟩
  | failed failure => exact ⟨held, keeps⟩
  | ask request next inductionHypothesis =>
      obtain ⟨expected, stays⟩ := upholds held keeps.1
      exact inductionHypothesis _ stays (keeps.2 _ expected)

/-- In such a world, each request was allowed behind what was asked before it. -/
theorem allowed (expected : ∀ log {β : Type} (request : Request τ β),
      expects log request (world log request))
    (keeps : program.Keeps (.recording allows expects) post log) :
    ∃ more, (program.carryOut world log).1 = log ++ more ∧
      ∀ {front back : List (Inquiry τ)} {inquiry : Inquiry τ},
        more = front ++ inquiry :: back → allows (log ++ front) inquiry.request := by
  induction program generalizing log with
  | done value => exact ⟨[], (List.append_nil _).symm, fun split => by simp at split⟩
  | failed failure => exact ⟨[], (List.append_nil _).symm, fun split => by simp at split⟩
  | ask request next inductionHypothesis =>
      let log' := log ++ [⟨request, world log request⟩]
      obtain ⟨more, asked, allowed⟩ : ∃ more, _ = log' ++ more ∧ _ :=
        inductionHypothesis _ (keeps.2 _ (expected log request))
      refine ⟨⟨request, world log request⟩ :: more, ?_, ?_⟩
      · rw [carryOut, asked, List.append_assoc]
        rfl
      · intro front back inquiry split
        cases front with
        | nil =>
            obtain ⟨rfl, -⟩ := List.cons.inj split
            rw [List.append_nil]
            exact keeps.1
        | cons first front =>
            obtain ⟨rfl, rest⟩ := List.cons.inj split
            have inside := allowed rest
            rwa [List.append_assoc] at inside

end Program.Keeps

/-! ## Worlds with a store -/

/-- A world answers for a store as the store behaves, and nobody else changes the store: it is told
by what was asked before. -/
def World.Tends {σ : Type} (world : World τ) (conduct : Store.Conduct σ)
    (stores : List (Inquiry τ) → σ) : Prop :=
  ∀ (log : List (Inquiry τ)) {β : Type} (request : Request τ β),
    request.Answered conduct (stores log) (world log request)
      (stores (log ++ [⟨request, world log request⟩]))

end Lectern
