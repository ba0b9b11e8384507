/-
Module: Lectern.Generation.Pace
Purpose: How many attempts a lesson gets, how long they may take, and how long is waited in between.
Main exports: Seconds, Pace, Budgets.pace
-/
import Lectern.Number.Binary
import Lectern.Lesson.Failure
import Lectern.Settings.Basic

namespace Lectern

/-- What durations are counted in: seconds that can be added, compared and written with some
places. -/
class Seconds (τ : Type) where
  zero : τ
  add : τ → τ → τ
  sub : τ → τ → τ
  isLess : τ → τ → Bool
  /-- Is there some time left? There is, unless it is known to be spent. -/
  isLeft : τ → Bool
  written : Nat → τ → String

instance : Seconds Float where
  zero := 0.0
  add := (· + ·)
  sub := (· - ·)
  isLess a b := a < b
  isLeft a := !decide (a ≤ 0.0)
  written := Number.fixed

namespace Seconds

variable {τ : Type} [Seconds τ]

/-- The smaller one; of two equal ones the first. -/
def least (a b : τ) : τ := if isLess b a then b else a

/-- A duration, or zero in place of one that is negative. -/
def positivePart (a : τ) : τ := if isLess a zero then zero else a

end Seconds

/-- The budgets of a lesson in seconds. -/
structure Pace (τ : Type) where
  attempts : Nat
  /-- How long all attempts together may take. -/
  limit : τ
  /-- How long one attempt may take. -/
  attemptLimit : τ
  /-- How long is waited after some failed attempts. -/
  backoff : Nat → Except Failure τ

/-- A doubling that no number holds. -/
def backoffOverflow : Failure := .outside "OverflowError" "int too large to convert to float"

/-- Budgets in seconds. -/
def Budgets.pace (budgets : Budgets) : Pace Float where
  attempts := budgets.maxAttempts.toNat
  limit := budgets.maxMinutes * 60.0
  attemptLimit := budgets.attemptTimeoutSeconds
  backoff failed := match budgets.backoffDelay? failed with
    | some delay => .ok delay
    | none => .error backoffOverflow

end Lectern
