/-
Module: Lectern.Proofs.Web.Responses
Purpose: What the server makes of whatever a reaction comes to: every request that is no preflight is
  responded to, and generation that follows changes nothing of the response.
Trusted boundary: none
Main exports: Program.carryOut_attempt, Api.told, Api.carryOut_respond, Api.carryOut_handle
-/
import Lectern.Proofs.Program.World
import Lectern.Proofs.Web.Delivery

namespace Lectern

variable {τ α β : Type}

/-! ## Failures that are caught or raised -/

namespace Program

/-- A failure that is caught is a result like any other. -/
theorem carryOut_attempt (world : World τ) (log : List (Inquiry τ)) (program : Program τ α) :
    program.attempt.carryOut world log =
      ((program.carryOut world log).1, .ok (program.carryOut world log).2) := by
  induction program generalizing log with
  | done value => rfl
  | failed failure => rfl
  | ask request next inductionHypothesis => exact inductionHypothesis _ _

end Program

/-! ## Reactions that become responses -/

namespace Web

variable [Seconds τ] {request : Request}

/-- The reaction that is told once it is known what has come of a request: failures have responses
of their own. -/
def Api.told (api : Api τ) (request : Request) : Except Failure Reaction → Reaction
  | .ok reaction => { reaction with response := api.origins.tell request reaction.response }
  | .error failure =>
    match failureResponse? failure with
    | some response => .only (api.origins.tell request response)
    | none => .only unexpected

/-- What is done at an endpoint that knows the method of a request. -/
theorem Api.react_eq {endpoint : Endpoint} {program : Program τ Reaction} {api : Api τ}
    (leads : Endpoint.ofPath? request.path = some endpoint)
    (known : endpoint.react? api request = some program) : api.react request = program := by
  unfold Api.react
  rw [leads]
  dsimp only
  rw [known]
  rfl

/-- Every request is responded to, and nothing is asked for that but what its reaction asks. -/
theorem Api.carryOut_respond (api : Api τ) (asked : request.method ≠ "OPTIONS") (world : World τ)
    (log : List (Inquiry τ)) :
    (api.respond request).carryOut world log =
      (((api.react request).carryOut world log).1,
        .ok (api.told request ((api.react request).carryOut world log).2)) := by
  have caught := Program.carryOut_attempt world log (api.react request)
  unfold Api.respond
  rw [api.origins.preflight?_eq_none asked]
  dsimp only
  rw [Program.carryOut_bind caught]
  cases ((api.react request).carryOut world log).2 with
  | ok reaction => rfl
  | error failure =>
      unfold Api.told
      dsimp only
      cases failureResponse? failure with
      | some response => rfl
      | none => rfl

/-- Whatever becomes of the generation behind a response, the response stays what it was. -/
theorem Api.carryOut_handle (api : Api τ) (asked : request.method ≠ "OPTIONS") (world : World τ)
    (log : List (Inquiry τ)) :
    ∃ more, (api.handle request).carryOut world log =
        (((api.react request).carryOut world log).1 ++ more,
          .ok (api.told request ((api.react request).carryOut world log).2).response) ∧
      ((api.told request ((api.react request).carryOut world log).2).generates = none →
        more = []) := by
  have responded := api.carryOut_respond asked world log
  unfold Api.handle
  rw [Program.carryOut_bind responded]
  cases (api.told request ((api.react request).carryOut world log).2).generates with
  | none => exact ⟨[], by rw [List.append_nil]; rfl, fun _ => rfl⟩
  | some id =>
      have caught := Program.carryOut_attempt world ((api.react request).carryOut world log).1
        (Run.kickoff api.context id none)
      obtain ⟨more, asked⟩ := Program.carryOut_extends world
        ((api.react request).carryOut world log).1 (Run.kickoff api.context id none)
      rw [asked] at caught
      refine ⟨more, ?_, nofun⟩
      exact Program.carryOut_bind caught

/-- A reaction that generates nothing is all that comes of a request. -/
theorem Api.carryOut_handle_only {api : Api τ} (asked : request.method ≠ "OPTIONS")
    {world : World τ} {log behind : List (Inquiry τ)} {result : Except Failure Reaction}
    (reacts : (api.react request).carryOut world log = (behind, result))
    (only : ∀ reaction, result = .ok reaction → reaction.generates = none) :
    (api.handle request).carryOut world log =
      (behind, .ok (api.told request result).response) := by
  have nothing : (api.told request result).generates = none := by
    unfold Api.told
    cases result with
    | ok reaction => exact only reaction rfl
    | error failure =>
        dsimp only
        split
        next => rfl
        next => rfl
  obtain ⟨more, handled, ends⟩ := api.carryOut_handle asked world log
  rw [reacts] at handled ends
  rw [ends nothing, List.append_nil] at handled
  exact handled

end Web

end Lectern
