/-
Module: Lectern.Proofs.Store.Conduct
Purpose: How a store behaves, as a relation between what is asked of it in a state, what it answers
  and the state it is in then; and the behaviour of the two stores.
Trusted boundary: none
Main exports: Store.Conduct, Conduct.orFails, Conduct.neverFails, Conduct.Reaches,
  Memory.conduct, Files.conduct,
  AnyStore.conduct, AnyStore.perform
-/
import Lectern.Generation.Rehearsal

namespace Lectern

namespace Store

/-- How a store behaves: the answers it may give to an operation in a state, and the states that it
may be in behind them. -/
structure Conduct (σ : Type) where
  permits : σ → {β : Type} → Operation β → Except Failure β → σ → Prop

/-- The lesson that content is kept for. -/
def Operation.kept? {β : Type} : Operation β → Except Failure β → Option String
  | .addContent id _ _ _, .ok _ => some id
  | _, _ => none

/-- Calls may also fail and then leave the store as it was. -/
def Conduct.orFails {σ : Type} (conduct : Conduct σ) : Conduct σ where
  permits before _ operation answer after :=
    conduct.permits before operation answer after ∨
      ((∃ failure, answer = .error failure) ∧ after = before)

/-- No call fails. -/
def Conduct.neverFails {σ : Type} (conduct : Conduct σ) : Conduct σ where
  permits before _ operation answer after :=
    conduct.permits before operation answer after ∧ ∃ value, answer = .ok value

/-- A call that fails leaves the store as it was. -/
def Conduct.FailsQuietly {σ : Type} (conduct : Conduct σ) : Prop :=
  ∀ {before after : σ} {β : Type} {operation : Operation β} {failure : Failure},
    conduct.permits before operation (.error failure) after → after = before

/-- A store comes to be another by operations, whatever they answer. -/
inductive Conduct.Reaches {σ : Type} (conduct : Conduct σ) (first : σ) : σ → Prop where
  | refl : Reaches conduct first first
  | step {before after : σ} {β : Type} {operation : Operation β} {answer : Except Failure β}
      (reached : Reaches conduct first before)
      (permitted : conduct.permits before operation answer after) : Reaches conduct first after

/-- What operations keep holds of all that they reach. -/
theorem Conduct.Reaches.keeps {σ : Type} {conduct : Conduct σ} {kept : σ → Prop}
    (keeps : ∀ {before after : σ} {β : Type} {operation : Operation β} {answer : Except Failure β},
      kept before → conduct.permits before operation answer after → kept after)
    {first last : σ} (reaches : conduct.Reaches first last) (held : kept first) : kept last := by
  induction reaches with
  | refl => exact held
  | step _ permitted inductionHypothesis => exact keeps inductionHypothesis permitted

/-- A store in memory answers at some moment. -/
def Memory.conduct : Conduct Memory where
  permits before _ operation answer after :=
    ∃ now, (before.perform now operation).1 = answer ∧ (before.perform now operation).2 = after

/-- A store of files answers at some moment, and has made up some identifiers before. -/
def Files.conduct : Conduct FileTree where
  permits before _ operation answer after :=
    ∃ now minted, (Files.perform now minted before operation).1 = answer ∧
      (Files.perform now minted before operation).2.1 = after

/-- In memory nothing is changed by a call that fails. -/
theorem Memory.failsQuietly : Memory.conduct.FailsQuietly := by
  rintro before after β operation failure ⟨now, answered, rfl⟩
  cases operation with
  | claim id =>
      unfold perform at answered ⊢
      dsimp only at answered ⊢
      split at answered
      next lesson found =>
        split at answered
        · cases answered
        · cases answered
      next => cases answered
  | claimNext =>
      unfold perform at answered ⊢
      dsimp only at answered ⊢
      split at answered
      next => rfl
      next => cases answered
      next => cases answered
  | setStatus id status =>
      unfold perform at answered ⊢
      dsimp only at answered ⊢
      split at answered
      next => cases answered
      next => rfl
  | addContent id source code digest =>
      unfold perform at answered ⊢
      dsimp only at answered ⊢
      split at answered
      next => cases answered
      next => rfl
  | list limit => rfl
  | _ => cases answered

/-- Files are not changed by a call that fails. -/
theorem Files.failsQuietly : Files.conduct.FailsQuietly := by
  rintro before after β operation failure ⟨now, minted, answered, rfl⟩
  have unchanged : (Files.answer now minted before operation).changes = [] := by
    change (Files.answer now minted before operation).result = .error failure at answered
    cases operation with
    | claim id =>
        unfold answer at answered ⊢
        dsimp only at answered ⊢
        split at answered
        next => rfl
        next => split at answered <;> cases answered
        next => cases answered
    | claimNext =>
        unfold answer at answered ⊢
        dsimp only at answered ⊢
        split at answered
        next => rfl
        next => cases answered
        next => cases answered
    | setStatus id status =>
        unfold answer at answered ⊢
        dsimp only at answered ⊢
        split at answered
        next => rfl
        next => cases answered
        next => rfl
    | addContent id source code digest =>
        unfold answer at answered ⊢
        dsimp only at answered ⊢
        split at answered
        next => rfl
        next => cases answered
    | appendTrace trace =>
        unfold answer at answered ⊢
        dsimp only at answered ⊢
        split at answered
        next => simp [*]
        next => cases answered
    | traces id =>
        dsimp only [answer]
        split
        · rfl
        · rfl
    | create lesson => cases answered
    | _ => rfl
  rw [perform, unchanged]
  rfl

end Store

namespace AnyStore

/-- A store behaves like one of its kind, and stays of that kind. -/
inductive Answers : AnyStore → {β : Type} → Store.Operation β → Except Failure β → AnyStore → Prop
    where
  | memory {before after : Store.Memory} {β : Type} {operation : Store.Operation β}
      {answer : Except Failure β}
      (permitted : Store.Memory.conduct.permits before operation answer after) :
      Answers (.memory before) operation answer (.memory after)
  | files {before after : Store.FileTree} {β : Type} {operation : Store.Operation β}
      {answer : Except Failure β}
      (permitted : Store.Files.conduct.permits before operation answer after) :
      Answers (.files before) operation answer (.files after)

/-- How stores of either kind behave. -/
def conduct : Store.Conduct AnyStore where
  permits before _ operation answer after := Answers before operation answer after

/-- What a store answers at a moment, and the store behind it. -/
def perform (now : Timestamp) (store : AnyStore) {β : Type} (operation : Store.Operation β) :
    Except Failure β × AnyStore :=
  match store with
  | .memory store =>
    let (answer, after) := store.perform now operation
    (answer, .memory after)
  | .files tree =>
    let (answer, after, _) := Store.Files.perform now 0 tree operation
    (answer, .files after)

theorem permits_perform (now : Timestamp) (store : AnyStore) {β : Type}
    (operation : Store.Operation β) :
    conduct.permits store operation (store.perform now operation).1
      (store.perform now operation).2 := by
  cases store with
  | memory store => exact .memory ⟨now, rfl, rfl⟩
  | files tree => exact .files ⟨now, 0, rfl, rfl⟩

end AnyStore

end Lectern
