/-
Module: Lectern.Proofs.Web.SigningKey
Purpose: Who may ask for generation: whoever brings the signing key, as long as nothing that is not
  ASCII has to be compared for that. What cannot be compared is not turned away but breaks down.
Trusted boundary: none
Main exports: InAscii, KeyCheck, Endpoint.ofPath?_generation, Api.Guards, Api.Incomparable,
  generation_guarded_iff
-/
import Lectern.Proofs.Web.Responses

namespace Lectern.Web

variable {τ : Type}

/-! ## Checking a key -/

/-- All characters of a text are ASCII. -/
def InAscii (text : String) : Prop := ∀ c ∈ text.toList, c.toNat < 128

instance (text : String) : Decidable (InAscii text) :=
  decidable_of_iff ((text.toList.all fun c => decide (c.toNat < 128)) = true) <| by
    simp only [InAscii, List.all_eq_true, decide_eq_true_eq]

/-- The response where nobody can bring a key, since none is set. -/
def noKey : Response := .detail 503 "Signing key not configured"

/-- The response to whoever brings no key or another one. -/
def wrongKey : Response := .detail 401 "Invalid signing key"

/-- What the check of a key comes to, by the key that is set and the one that is brought. -/
inductive KeyCheck : Option String → Option String → Except Failure (Option Response) → Prop where
  | unset (given : Option String) : KeyCheck none given (.ok (some noKey))
  | empty (given : Option String) : KeyCheck (some "") given (.ok (some noKey))
  | missing {key : String} (set : key ≠ "") : KeyCheck (some key) none (.ok (some wrongKey))
  | incomparable {key given : String} (set : key ≠ "") (alien : ¬ (InAscii given ∧ InAscii key)) :
      KeyCheck (some key) (some given) (.error (.outside "TypeError"
        "comparing strings with non-ASCII characters is not supported"))
  | different {key given : String} (set : key ≠ "") (plain : InAscii given ∧ InAscii key)
      (apart : given ≠ key) : KeyCheck (some key) (some given) (.ok (some wrongKey))
  | same {key : String} (set : key ≠ "") (plain : InAscii key) :
      KeyCheck (some key) (some key) (.ok none)

/-- Texts are compared if both are ASCII. -/
theorem agrees_eq (given key : String) :
    agrees given key =
      if InAscii given ∧ InAscii key then .ok (given == key)
      else .error (.outside "TypeError"
        "comparing strings with non-ASCII characters is not supported") := by
  have both : ((given.toList ++ key.toList).all fun c => c.toNat < 128) = true ↔
      InAscii given ∧ InAscii key := by
    rw [List.all_append, Bool.and_eq_true, List.all_eq_true, List.all_eq_true]
    simp only [InAscii, decide_eq_true_eq]
  unfold agrees
  simp only [both]

/-- Every check of a key comes to what it should. -/
theorem keyCheck (signingKey given : Option String) :
    KeyCheck signingKey given (checkKey signingKey given) := by
  cases signingKey with
  | none => exact .unset given
  | some key =>
      by_cases empty : key = ""
      · subst empty
        exact .empty given
      · cases given with
        | none =>
            have checked : checkKey (some key) none = .ok (some wrongKey) := by
              simp [checkKey, wrongKey]
            rw [checked]
            exact .missing empty
        | some given =>
            have checked : checkKey (some key) (some given) =
                (agrees given key).map fun same => if same then none else some wrongKey := by
              simp [checkKey, wrongKey]
            rw [checked, agrees_eq]
            by_cases plain : InAscii given ∧ InAscii key
            · rw [if_pos plain]
              by_cases same : given = key
              · subst same
                rw [Except.map, beq_self_eq_true]
                exact .same empty plain.1
              · rw [Except.map, beq_eq_false_iff_ne.mpr same]
                exact .different empty plain same
            · rw [if_neg plain]
              exact .incomparable empty plain

/-! ## Asking for generation -/

/-- The path that asks for the generation of a lesson. -/
def generationPath (id : String) : String := "/internal/generate/" ++ id

/-- The path leads there for every identifier that is one step. -/
theorem Endpoint.ofPath?_generation {id : String} (named : id ≠ "") (plain : '/' ∉ id.toList) :
    ofPath? (generationPath id) = some (.generation id) := by
  have spelled : (generationPath id).toList =
      [] ++ '/' :: ("internal".toList ++ '/' :: ("generate".toList ++ '/' :: id.toList)) := by
    have front : "/internal/generate/".toList =
        '/' :: ("internal".toList ++ '/' :: ("generate".toList ++ ['/'])) := by
      decide +kernel
    unfold generationPath
    rw [String.toList_append, front]
    simp only [List.cons_append, List.append_assoc, List.nil_append]
  have whole : ∀ c ∈ id.toList, (c == '/') = false := by
    intro c held
    rw [beq_eq_false_iff_ne]
    rintro rfl
    exact plain held
  unfold ofPath? stepsOf
  rw [spelled, Text.splitOn_append_cons (List.forall_mem_nil _) rfl,
    Text.splitOn_append_cons (by simp) rfl, Text.splitOn_append_cons (by simp) rfl,
    Text.splitOn_of_forall whole]
  simp [ofSteps?, named]

/-- The key that a request brings. -/
def Request.key? (request : Request) : Option String := request.header? "x-sign-key"

namespace Api

/-- A request brings the key that is set. -/
def Unlocked (api : Api τ) (request : Request) : Prop :=
  ∃ key, key ≠ "" ∧ api.signingKey = some key ∧ request.key? = some key

/-- A request brings a key where one is set, and one of the two is not ASCII. -/
def Incomparable (api : Api τ) (request : Request) : Prop :=
  ∃ key given, key ≠ "" ∧ api.signingKey = some key ∧ request.key? = some given ∧
    ¬ (InAscii given ∧ InAscii key)

variable [Seconds τ] {request : Request} {id : String} {world : World τ} {log : List (Inquiry τ)}

/-- Generation is guarded: whoever brings the key has the lesson generated and is told of it, and for
all others nothing is asked of the world, neither of the generator nor of the store. They are told
that no key is set, or that theirs is not it. -/
structure Guards (api : Api τ) (world : World τ) (log : List (Inquiry τ)) (request : Request)
    (id : String) : Prop where
  starts : api.Unlocked request →
    (api.handle request).carryOut world log =
      (((Run.kickoff api.context id none).carryOut world log).1,
        .ok (api.told request
          (((Run.kickoff api.context id none).carryOut world log).2.map fun report =>
            .only (.ofJson 200 report.toJson))).response)
  refuses : ¬ api.Unlocked request →
    (api.handle request).carryOut world log = (log, .ok (api.origins.tell request
      (if api.signingKey = none ∨ api.signingKey = some "" then noKey else wrongKey)))

/-- Whoever asks for generation asks for something. -/
theorem carryOut_kickoff_ne (context : Run.Context τ) (pedagogy : Option Pedagogy) :
    ((Run.kickoff context id pedagogy).carryOut world log).1 ≠ log := by
  unfold Run.kickoff Program.store
  obtain ⟨back, asked⟩ := Program.carryOut_call_asks world log (.store (.find id)) _
  intro same
  have longer := congrArg List.length (asked.symm.trans same)
  simp at longer

section

variable {api : Api τ} (asked : request.method = "POST")
  (leads : Endpoint.ofPath? request.path = some (.generation id))

include asked leads

theorem react_generation : api.react request = generate api request id := by
  apply react_eq leads
  unfold Endpoint.react?
  dsimp only
  rw [asked]
  rfl

/-- Nothing is asked if the check of the key fails. -/
theorem carryOut_failedCheck {failure : Failure}
    (checked : checkKey api.signingKey request.key? = .error failure) :
    (api.react request).carryOut world log = (log, .error failure) := by
  rw [react_generation asked leads]
  unfold generate
  rw [show checkKey api.signingKey (request.header? "x-sign-key") = .error failure from checked]
  rfl

/-- Nothing is asked for a request that is turned away. -/
theorem carryOut_turnedAway {response : Response}
    (checked : checkKey api.signingKey request.key? = .ok (some response)) :
    (api.react request).carryOut world log = (log, .ok (.only response)) := by
  rw [react_generation asked leads]
  unfold generate
  rw [show checkKey api.signingKey (request.header? "x-sign-key") = .ok (some response) from
    checked]
  rfl

/-- The lesson is generated for a request that is let in. -/
theorem carryOut_letIn (checked : checkKey api.signingKey request.key? = .ok none) :
    (api.react request).carryOut world log =
      (((Run.kickoff api.context id none).carryOut world log).1,
        ((Run.kickoff api.context id none).carryOut world log).2.map fun report =>
          .only (.ofJson 200 report.toJson)) := by
  rw [react_generation asked leads]
  unfold generate
  rw [show checkKey api.signingKey (request.header? "x-sign-key") = .ok none from checked]
  exact Program.carryOut_map world log (Run.kickoff api.context id none) _

/-- A request that is let in and brings the key has the lesson generated. -/
theorem guards_of_letIn (unlocked : api.Unlocked request)
    (checked : checkKey api.signingKey request.key? = .ok none) :
    api.Guards world log request id where
  starts _ := by
    apply carryOut_handle_only (by rw [asked]; decide) (carryOut_letIn asked leads checked)
    intro reaction done
    cases result : ((Run.kickoff api.context id none).carryOut world log).2 with
    | ok report =>
        rw [result] at done
        cases done
        rfl
    | error failure =>
        rw [result] at done
        cases done
  refuses locked := absurd unlocked locked

/-- A request without the key is turned away. -/
theorem guards_of_turnedAway {response : Response} (locked : ¬ api.Unlocked request)
    (checked : checkKey api.signingKey request.key? = .ok (some response))
    (fits : response =
      if api.signingKey = none ∨ api.signingKey = some "" then noKey else wrongKey) :
    api.Guards world log request id where
  starts unlocked := absurd unlocked locked
  refuses _ := by
    rw [← fits]
    apply carryOut_handle_only (by rw [asked]; decide) (carryOut_turnedAway asked leads checked)
    rintro reaction ⟨⟩
    rfl

/-- A request breaks down where a comparison would need more than ASCII. -/
theorem handle_of_incomparable (incomparable : api.Incomparable request) :
    (api.handle request).carryOut world log = (log, .ok unexpected) := by
  obtain ⟨key, given, set, there, brought, alien⟩ := incomparable
  have checked : checkKey api.signingKey request.key? = .error (.outside "TypeError"
      "comparing strings with non-ASCII characters is not supported") := by
    rw [there, brought]
    have check := keyCheck (some key) (some given)
    generalize checkKey (some key) (some given) = outcome at check
    cases check with
    | empty => exact absurd rfl set
    | incomparable => rfl
    | different _ plain _ => exact absurd plain alien
    | same _ plain => exact absurd ⟨plain, plain⟩ alien
  exact carryOut_handle_only (by rw [asked]; decide) (carryOut_failedCheck asked leads checked)
    nofun

/-- Where everything can be compared, generation is guarded. -/
theorem guards_of_comparable (comparable : ¬ api.Incomparable request) :
    api.Guards world log request id := by
  have check := keyCheck api.signingKey request.key?
  generalize there : api.signingKey = signingKey at check
  generalize brought : request.key? = given at check
  generalize checked : checkKey signingKey given = outcome at check
  rw [← there, ← brought] at checked
  cases check with
  | unset =>
      apply guards_of_turnedAway asked leads _ checked
      · rw [there, if_pos (.inl rfl)]
      · rintro ⟨key, _, other, _⟩
        rw [there] at other
        cases other
  | empty =>
      apply guards_of_turnedAway asked leads _ checked
      · rw [there, if_pos (.inr rfl)]
      · rintro ⟨key, set, other, _⟩
        rw [there] at other
        exact set (Option.some.inj other).symm
  | missing set =>
      apply guards_of_turnedAway asked leads _ checked
      · rw [there, if_neg (by simp [set])]
      · rintro ⟨key, _, _, other⟩
        rw [brought] at other
        cases other
  | incomparable set alien => exact absurd ⟨_, _, set, there, brought, alien⟩ comparable
  | different set _ apart =>
      apply guards_of_turnedAway asked leads _ checked
      · rw [there, if_neg (by simp [set])]
      · rintro ⟨key, _, first, second⟩
        rw [there] at first
        rw [brought] at second
        exact apart ((Option.some.inj second).trans (Option.some.inj first).symm)
  | same set _ => exact guards_of_letIn asked leads ⟨_, set, there, brought⟩ checked

end

/-- A request for generation is answered as it should be as long as nothing that is not ASCII has to
be compared. Where it has to be, nobody is turned away: the request breaks down, and nothing is
generated. -/
theorem generation_guarded_iff (api : Api τ) (world : World τ) (log : List (Inquiry τ))
    (asked : request.method = "POST")
    (leads : Endpoint.ofPath? request.path = some (.generation id)) :
    (api.Guards world log request id ↔ ¬ api.Incomparable request) ∧
      (api.Incomparable request →
        (api.handle request).carryOut world log = (log, .ok unexpected)) := by
  refine ⟨⟨?_, guards_of_comparable asked leads⟩, handle_of_incomparable asked leads⟩
  intro guards incomparable
  have broken : (api.handle request).carryOut world log = (log, .ok unexpected) :=
    handle_of_incomparable asked leads incomparable
  by_cases unlocked : api.Unlocked request
  · have started := congrArg Prod.fst ((guards.starts unlocked).symm.trans broken)
    exact carryOut_kickoff_ne api.context none started
  · have refused := (guards.refuses unlocked).symm.trans broken
    have status := congrArg Response.status (Except.ok.inj (congrArg Prod.snd refused))
    rw [(api.origins.tell_spec request _).1] at status
    split at status
    next => cases status
    next => cases status

/-- A world in which everything fails. -/
private def failing : World Int := fun _ _ _ => .error (.noGeneration "No scripted responses left")

/-- A server with a key. -/
private def locked (key : String) : Api Int := { signingKey := some key, context := .threeAttempts }

/-- A request for generation that brings a key. -/
private def knocking (key : String) : Request where
  method := "POST"
  path := generationPath "x"
  headers := [("X-Sign-Key", key)]

private theorem knocking_leads (key : String) :
    Endpoint.ofPath? (knocking key).path = some (.generation "x") :=
  Endpoint.ofPath?_generation (by decide) (by decide)

/-- Generation is guarded where the key and what is brought are ASCII. -/
theorem generation_guarded_iff_ascii :
    (knocking "k").method = "POST" ∧
      Endpoint.ofPath? (knocking "k").path = some (.generation "x") ∧
      (locked "key").Guards failing [] (knocking "k") "x" := by
  refine ⟨rfl, knocking_leads "k", ?_⟩
  apply ((locked "key").generation_guarded_iff failing [] rfl (knocking_leads "k")).1.mpr
  rintro ⟨key, given, _, there, brought, alien⟩
  cases there
  cases brought
  exact alien (by decide)

/-- Whoever brings another key than one with an accent is not turned away: the request breaks
down. -/
theorem accented_key_breaks_down :
    ¬ (locked "clé").Unlocked (knocking "k") ∧
      ((locked "clé").handle (knocking "k")).carryOut failing [] = ([], .ok unexpected) ∧
      unexpected.status = 500 ∧ ¬ (locked "clé").Guards failing [] (knocking "k") "x" := by
  have broken : ((locked "clé").handle (knocking "k")).carryOut failing [] = ([], .ok unexpected) :=
    handle_of_incomparable rfl (knocking_leads "k")
      ⟨"clé", "k", by decide, rfl, rfl, by decide⟩
  have closed : ¬ (locked "clé").Unlocked (knocking "k") := by
    rintro ⟨key, _, there, brought⟩
    cases there
    have same : some "k" = some "clé" := brought
    exact absurd same (by decide)
  refine ⟨closed, broken, rfl, ?_⟩
  intro guards
  have refused := (guards.refuses closed).symm.trans broken
  have status := congrArg Response.status (Except.ok.inj (congrArg Prod.snd refused))
  cases status

end Api

end Lectern.Web
