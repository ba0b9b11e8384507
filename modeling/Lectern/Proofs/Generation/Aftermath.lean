/-
Module: Lectern.Proofs.Generation.Aftermath
Purpose: What callers leave behind when requests fail, of the generator, of the clock and of the store.
  A lesson that was claimed has its last status when the call is over, unless one of the last requests
  of a run has failed; and the last status of a lesson with content tells what failed behind that.
Trusted boundary: none
Main exports: Serving, Serving.step, Store.Ledger.Leaves, leaves_of_accounts, Store.Ledger.Tells,
  tells_of_accounts
-/
import Lectern.Proofs.Generation.Duties
import Lectern.Proofs.Generation.OnceGenerated

namespace Lectern

open Store

variable {τ σ κ : Type}

/-! ## What a caller has heard -/

/-- The requests of a caller and their answers. -/
def eventsOf (caller : Nat) (moments : List (Moment τ σ)) : List (Event τ) :=
  (moments.map (·.event)).filter (·.caller == caller)

/-- The lessons that a caller claims, one after the other. -/
def claimsOf (caller : Nat) (moments : List (Moment τ σ)) : List String :=
  (eventsOf caller moments).filterMap Event.claimed?

/-- The last thing that a caller hears is a failure behind which a lesson may be left in
generation. -/
def Stranded (caller : Nat) (moments : List (Moment τ σ)) : Prop :=
  ∃ event, (eventsOf caller moments).getLast? = some event ∧
    event.request.strands event.answer = true

/-- Which of the writes of a caller for the lesson at a place went well. -/
def outcomesOf [DecidableEq κ] (place : String → κ) (here : κ) (caller : Nat)
    (moments : List (Moment τ σ)) : List Bool :=
  ((eventsOf caller moments).filter fun event => event.request.written?.map place = some here).map
    (·.answer.isOk)

/-- Is nothing more to be asked? -/
def Program.isOver {α : Type} : Program τ α → Bool
  | .ask _ _ => false
  | _ => true

section

variable {caller : Nat} {moment : Moment τ σ} {moments : List (Moment τ σ)}

theorem eventsOf_cons_own (own : moment.event.caller = caller) :
    eventsOf caller (moment :: moments) = moment.event :: eventsOf caller moments := by
  simp [eventsOf, own]

theorem eventsOf_cons_other (other : moment.event.caller ≠ caller) :
    eventsOf caller (moment :: moments) = eventsOf caller moments := by
  simp [eventsOf, other]

end

/-! ## Answers and failures -/

section

variable {ledger : Ledger σ κ} {conduct : Conduct σ} {before after : σ}

theorem Role.after_error {place : String → κ} {role : Role κ} {β : Type} (request : Request τ β)
    (failure : Failure) : role.After place request (.error failure) = role := by
  cases request with
  | store operation => cases operation <;> rfl
  | _ => rfl

theorem Request.claimed?_error {β : Type} (request : Request τ β) (failure : Failure) :
    request.claimed? (.error failure) = none := by
  cases request with
  | store operation => cases operation <;> rfl
  | _ => rfl

/-- What is asked for is answered as if nothing could fail, or it fails and nothing has changed. -/
theorem Request.Answered.of_orFails (quiet : conduct.FailsQuietly) {β : Type} {request : Request τ β}
    {answer : Except Failure β} (answered : request.Answered conduct.orFails before answer after) :
    (∃ value, answer = .ok value ∧ request.Answered conduct.neverFails before answer after) ∨
      ∃ failure, answer = .error failure ∧ after = before := by
  cases answer with
  | ok value =>
      refine Or.inl ⟨value, rfl, ?_⟩
      cases request with
      | store operation =>
          rcases answered with permitted | ⟨⟨_, impossible⟩, _⟩
          · exact ⟨permitted, value, rfl⟩
          · cases impossible
      | _ => exact answered
  | error failure =>
      refine Or.inr ⟨failure, rfl, ?_⟩
      cases request with
      | store operation =>
          rcases answered with permitted | ⟨_, same⟩
          · exact quiet permitted
          · exact same
      | _ => exact answered

end

/-! ## Callers at their duties -/

/-- A store and its callers: each plays its part, and whoever may be stranded is at work. -/
structure AtDuty (ledger : Ledger σ κ) (first store : σ) (all : List (Duty κ)) : Prop where
  fit : Fit ledger first store (all.map Duty.role)
  working : ∀ duty ∈ all, duty.stranded = true → ∃ here kept, duty.role = .running here kept

/-- The parts of all callers behind an event. -/
theorem map_role_follow (place : String → κ) (all : List (Duty κ)) (event : Event τ) :
    ((duties τ place).follow all event).map Duty.role =
      (roles τ place).follow (all.map Duty.role) event := by
  refine List.ext_getElem? fun caller => ?_
  rw [List.getElem?_map, Discipline.getElem?_follow, Discipline.getElem?_follow, List.getElem?_map]
  split
  · rw [Option.map_map, Option.map_map]
    rfl
  · rfl

/-- Whoever meets a failure that may strand it is at work, and stays so. -/
theorem working_of_strands {place : String → κ} {role : Role κ} {β : Type} {request : Request τ β}
    {answer : Except Failure β} (allowed : role.Allows place request)
    (strands : request.strands answer = true) :
    ∃ here kept, role.After place request answer = .running here kept := by
  cases answer with
  | ok value =>
      cases request with
      | store operation => cases operation <;> cases strands
      | _ => cases strands
  | error failure =>
      rw [Role.after_error]
      cases role with
      | running here kept => exact ⟨here, kept, rfl⟩
      | _ =>
          cases request with
          | store operation => cases operation <;> first | exact allowed.elim | cases strands
          | _ => exact allowed.elim

section

variable {ledger : Ledger σ κ} {conduct : Conduct σ} {first before after : σ}

/-- What an answer does to a store and to the part of the caller, be it a failure or not. -/
theorem effect_of_answered (accounts : ledger.Accounts conduct) (quiet : conduct.FailsQuietly)
    {situations : List (Role κ)} (fit : Fit ledger first before situations) {caller : Nat}
    {role : Role κ} (found : situations[caller]? = some role) {β : Type} {request : Request τ β}
    (allowed : role.Allows ledger.place request) {answer : Except Failure β}
    (answered : request.Answered conduct.orFails before answer after) :
    (∀ value, answer = .ok value → role.Expects ledger.place request answer) ∧
      Effect ledger before after role (role.After ledger.place request answer)
        ((request.claimed? answer).map ledger.place) ∧
      Fit ledger first after ((roles τ ledger.place).follow situations ⟨caller, request, answer⟩) := by
  rcases answered.of_orFails quiet with ⟨value, rfl, fine⟩ | ⟨failure, rfl, rfl⟩
  · have consequence := fit.consequence accounts found allowed fine
    exact ⟨fun _ _ => consequence.expected, consequence.effect, fit.step found consequence⟩
  · have same : (roles τ ledger.place).follow situations ⟨caller, request, .error failure⟩ =
        situations := by
      refine List.ext_getElem? fun other => ?_
      rw [Discipline.getElem?_follow]
      split
      next own =>
        obtain rfl : caller = other := own
        rw [found, Option.map_some]
        exact congrArg some (Role.after_error request failure)
      next => rfl
    have stays : ledger.Stays after after := ⟨fit.inOrder, fun _ => rfl, fun _ => rfl⟩
    rw [Request.claimed?_error, Role.after_error, same]
    exact ⟨nofun, .quiet stays rfl, fit⟩

/-- Callers go on to see to their duties, whatever is answered to them. -/
theorem upheld_duties (accounts : ledger.Accounts conduct) (quiet : conduct.FailsQuietly) (first : σ) :
    (duties τ ledger.place).Upheld conduct.orFails (AtDuty ledger first) := by
  intro before all caller duty β request answer after atDuty found allowed answered
  have roleFound : (all.map Duty.role)[caller]? = some duty.role := by
    rw [List.getElem?_map, found]
    rfl
  obtain ⟨expected, _, fit⟩ :=
    effect_of_answered accounts quiet atDuty.fit roleFound allowed.1 answered
  refine ⟨?_, ?_, ?_⟩
  · cases answer with
    | ok value => exact expected value rfl
    | error failure => trivial
  · rw [map_role_follow]
    exact fit
  · intro other member stranded
    obtain ⟨place, otherFound⟩ := List.mem_iff_getElem?.mp member
    rw [Discipline.getElem?_follow] at otherFound
    split at otherFound
    next own =>
      obtain rfl : caller = place := own
      rw [found] at otherFound
      cases otherFound
      exact working_of_strands allowed.1 stranded
    next => exact atDuty.working other (List.mem_of_getElem? otherFound) stranded

end

/-- Callers that see to their duties, and the store they share. -/
structure Serving (ledger : Ledger σ κ) (first : σ) (crowd : Crowd τ σ) (all : List (Duty κ)) :
    Prop where
  fits : (duties τ ledger.place).Fits (fun _ duty _ => duty.Ended) crowd.programs all
  atDuty : AtDuty ledger first crowd.store all

namespace Serving

variable {ledger : Ledger σ κ} {conduct : Conduct σ} {first : σ} {crowd next last : Crowd τ σ}
  {all : List (Duty κ)} {event : Event τ} {moments : List (Moment τ σ)}

/-- The duties with which calls start. -/
def start (call : Call) : Duty κ := { role := call.role }

theorem opening [Seconds τ] {context : Run.Context τ} {patience : Nat} {calls : List Call} {store : σ}
    (ordered : ledger.inOrder store) :
    Serving ledger store (Crowd.opening context patience calls store : Crowd τ σ)
      (calls.map start) where
  fits := .opening fun _ call _ => Run.duties_call call
  atDuty := by
    constructor
    · rw [List.map_map]
      exact .opening ordered calls
    · intro duty member stranded
      obtain ⟨call, _, rfl⟩ := List.mem_map.mp member
      cases stranded

/-- What becomes of the store and of the caller who is answered. -/
structure Answers (ledger : Ledger σ κ) (conduct : Conduct σ) (before after : σ) (duty : Duty κ)
    (event : Event τ) : Prop where
  allowed : duty.Allows ledger.place event.request
  answered : event.request.Answered conduct.orFails before event.answer after
  effect : Effect ledger before after duty.role
    (duty.role.After ledger.place event.request event.answer)
    (event.claimed?.map ledger.place)

theorem step (accounts : ledger.Accounts conduct) (quiet : conduct.FailsQuietly)
    (serving : Serving ledger first crowd all) (head : Crowd.Step conduct.orFails crowd event next) :
    (∃ duty, all[event.caller]? = some duty ∧
        Answers ledger conduct crowd.store next.store duty event) ∧
      Serving ledger first next ((duties τ ledger.place).follow all event) := by
  obtain ⟨⟨duty, found, allowed, _⟩, fits, atDuty⟩ :=
    serving.fits.step (upheld_duties accounts quiet first) serving.atDuty head
  refine ⟨⟨duty, found, allowed, head.answered, ?_⟩, fits, atDuty⟩
  have roleFound : (all.map Duty.role)[event.caller]? = some duty.role := by
    rw [List.getElem?_map, found]
    rfl
  cases head with
  | answer waits answered =>
      exact (effect_of_answered accounts quiet serving.atDuty.fit roleFound allowed.1 answered).2.1

theorem history (accounts : ledger.Accounts conduct) (quiet : conduct.FailsQuietly)
    (serving : Serving ledger first crowd all)
    (history : Crowd.History conduct.orFails crowd moments last) :
    Serving ledger first last ((duties τ ledger.place).followAll all moments) := by
  obtain ⟨fits, atDuty⟩ :=
    history.keeps serving.fits (upheld_duties accounts quiet first) serving.atDuty
  exact ⟨fits, atDuty⟩

/-- The lesson that each caller works on behind an event. -/
theorem workOf?_step (place : String → κ) {duty : Duty κ} (found : all[event.caller]? = some duty)
    (caller : Nat) :
    workOf? (((duties τ place).follow all event).map Duty.role) caller =
      if event.caller = caller then (duty.role.After place event.request event.answer).work?
      else workOf? (all.map Duty.role) caller := by
  have roleFound : (all.map Duty.role)[event.caller]? = some duty.role := by
    rw [List.getElem?_map, found]
    rfl
  rw [map_role_follow]
  exact workOf?_follow roleFound caller

/-! ### Lessons that are claimed -/

/-- A caller sees to a lesson: it works on it, or the last status is written. -/
def SeesTo (ledger : Ledger σ κ) (store : σ) (all : List (Duty κ)) (caller : Nat) (place : κ) : Prop :=
  (∃ kept, workOf? (all.map Duty.role) caller = some (place, kept)) ∨
    ∃ status : Status, status.Last ∧ ledger.status? store place = some status

variable {caller : Nat} {place : κ}

/-- A last status stays, whoever is answered. -/
theorem last_stays (serving : Serving ledger first crowd all) {duty : Duty κ}
    (found : all[event.caller]? = some duty)
    (answers : Answers ledger conduct crowd.store next.store duty event) {status : Status}
    (last : status.Last) (told : ledger.status? crowd.store place = some status) :
    ledger.status? next.store place = some status := by
  have roleFound : (all.map Duty.role)[event.caller]? = some duty.role := by
    rw [List.getElem?_map, found]
    rfl
  rcases serving.atDuty.fit.follows roleFound answers.effect place with
    same | ⟨queued, _⟩ | ⟨generating, _⟩
  · exact same.trans told
  · rw [told] at queued
    cases queued
    rcases last with impossible | impossible <;> cases impossible
  · rw [told] at generating
    cases generating
    rcases last with impossible | impossible <;> cases impossible

/-- A caller goes on to see to a lesson, and it sees to one that it claims. -/
theorem seesTo_step (serving : Serving ledger first crowd all) {duty : Duty κ}
    (found : all[event.caller]? = some duty)
    (answers : Answers ledger conduct crowd.store next.store duty event)
    (before : SeesTo ledger crowd.store all caller place ∨
      event.caller = caller ∧ event.claimed?.map ledger.place = some place) :
    SeesTo ledger next.store ((duties τ ledger.place).follow all event) caller place := by
  have roleFound : (all.map Duty.role)[event.caller]? = some duty.role := by
    rw [List.getElem?_map, found]
    rfl
  have work := workOf?_step ledger.place found caller
  rcases before with (⟨kept, works⟩ | ⟨status, last, told⟩) | ⟨own, claimed⟩
  · by_cases own : event.caller = caller
    · have worked : duty.role.work? = some (place, kept) := by
        rw [workOf?, ← own, roleFound] at works
        exact works
      rw [if_pos own] at work
      rcases answers.effect.works_or_settled worked with ⟨flag, works⟩ | settled
      · exact Or.inl ⟨flag, work.trans works⟩
      · exact Or.inr settled
    · rw [if_neg own] at work
      exact Or.inl ⟨kept, work.trans works⟩
  · exact Or.inr ⟨status, last, serving.last_stays found answers last told⟩
  · rw [if_pos own] at work
    exact Or.inl ⟨false, work.trans (answers.effect.works_of_claimed claimed)⟩

theorem seesTo_history (accounts : ledger.Accounts conduct) (quiet : conduct.FailsQuietly)
    (serving : Serving ledger first crowd all)
    (history : Crowd.History conduct.orFails crowd moments last)
    (before : SeesTo ledger crowd.store all caller place ∨
      place ∈ (claimsOf caller moments).map ledger.place) :
    SeesTo ledger last.store ((duties τ ledger.place).followAll all moments) caller place := by
  induction history generalizing all with
  | refl => exact before.resolve_right (List.not_mem_nil)
  | @step crowd next last event moments head tail inductionHypothesis =>
      obtain ⟨⟨duty, found, answers⟩, serves⟩ := serving.step accounts quiet head
      refine inductionHypothesis serves ?_
      rcases before with held | claimed
      · exact Or.inl (serving.seesTo_step found answers (Or.inl held))
      · by_cases own : event.caller = caller
        · rw [claimsOf, eventsOf_cons_own own, List.filterMap_cons] at claimed
          cases now : event.claimed? with
          | none =>
              rw [now] at claimed
              exact Or.inr claimed
          | some id =>
              rw [now, List.map_cons, List.mem_cons] at claimed
              rcases claimed with rfl | later
              · exact Or.inl (serving.seesTo_step found answers (Or.inr ⟨own, by rw [now]; rfl⟩))
              · exact Or.inr later
        · rw [claimsOf, eventsOf_cons_other own] at claimed
          exact Or.inr claimed

/-- The lesson that a caller works on is the one that it has claimed last. -/
theorem lastClaim_history (accounts : ledger.Accounts conduct) (quiet : conduct.FailsQuietly)
    (serving : Serving ledger first crowd all)
    (history : Crowd.History conduct.orFails crowd moments last) {kept : Bool}
    (works : workOf? (((duties τ ledger.place).followAll all moments).map Duty.role) caller =
      some (place, kept)) :
    ((claimsOf caller moments).map ledger.place).getLast? = some place ∨
      claimsOf caller moments = [] ∧
        ∃ kept, workOf? (all.map Duty.role) caller = some (place, kept) := by
  induction history generalizing all with
  | refl => exact Or.inr ⟨rfl, kept, works⟩
  | @step crowd next last event moments head tail inductionHypothesis =>
      obtain ⟨⟨duty, found, answers⟩, serves⟩ := serving.step accounts quiet head
      have work := workOf?_step ledger.place found caller
      have claims (own : event.caller = caller) : claimsOf caller (⟨event, next⟩ :: moments) =
          event.claimed?.toList ++ claimsOf caller moments := by
        rw [claimsOf, eventsOf_cons_own own, List.filterMap_cons]
        cases event.claimed? <;> rfl
      rcases inductionHypothesis serves works with claimed | ⟨none, flag, worked⟩
      · by_cases own : event.caller = caller
        · rw [claims own, List.map_append, List.getLast?_append, claimed]
          exact Or.inl rfl
        · rw [claimsOf, eventsOf_cons_other own]
          exact Or.inl claimed
      · by_cases own : event.caller = caller
        · rw [worked, if_pos own] at work
          rw [claims own, none, List.append_nil]
          cases now : event.claimed? with
          | some id =>
              have claimed := answers.effect.works_of_claimed (by rw [now]; rfl)
              rw [claimed] at work
              cases work
              exact Or.inl rfl
          | none =>
              have nothing : event.claimed?.map ledger.place ≠ some place := by
                rw [now]
                exact nofun
              obtain ⟨before, already⟩ :=
                (answers.effect.claimed_of_work work.symm).resolve_right nothing
              refine Or.inr ⟨rfl, before, ?_⟩
              rw [workOf?, List.getElem?_map, ← own, found]
              exact already
        · rw [worked, if_neg own] at work
          rw [claimsOf, eventsOf_cons_other own]
          exact Or.inr ⟨none, flag, work.symm⟩

/-! ### Callers that are stranded -/

/-- Whether a caller may be stranded is told by the last thing that it has heard. -/
theorem stranded_followAll (place : String → κ) (moments : List (Moment τ σ)) {all : List (Duty κ)}
    {duty : Duty κ} (found : all[caller]? = some duty) :
    ∃ behind, ((duties τ place).followAll all moments)[caller]? = some behind ∧
      behind.stranded = ((eventsOf caller moments).getLast?.map fun event =>
        event.request.strands event.answer).getD duty.stranded := by
  induction moments generalizing all duty with
  | nil => exact ⟨duty, found, rfl⟩
  | cons moment moments inductionHypothesis =>
      have moved := (duties τ place).getElem?_follow all moment.event caller
      rw [found, Option.map_some] at moved
      by_cases own : moment.event.caller = caller
      · rw [if_pos own] at moved
        obtain ⟨behind, behindFound, told⟩ := inductionHypothesis moved
        refine ⟨behind, behindFound, told.trans ?_⟩
        rw [eventsOf_cons_own own, List.getLast?_cons]
        cases (eventsOf caller moments).getLast? <;> rfl
      · rw [if_neg own] at moved
        obtain ⟨behind, behindFound, told⟩ := inductionHypothesis moved
        refine ⟨behind, behindFound, told.trans ?_⟩
        rw [eventsOf_cons_other own]

end Serving

/-! ### Writes behind the content -/

section

variable {ledger : Ledger σ κ} {conduct : Conduct σ} {first : σ} {crowd next last : Crowd τ σ}
  {all : List (Duty κ)} {event : Event τ} {moments : List (Moment τ σ)} {caller : Nat} {place : κ}

/-- How a caller stands to a lesson that it has kept content for, by its writes since then: it works
on the lesson, or the last one was the status, and that tells whether one before has failed. -/
inductive Stands (ledger : Ledger σ κ) (store : σ) (place : κ) (duty : Duty κ) (outcomes : List Bool) :
    Prop where
  | working (running : duty.role = .running place true) (same : duty.outcomes = outcomes)
  | settled (free : ∀ kept, duty.role.work? ≠ some (place, kept))
      (last : outcomes.getLast? = some true)
      (status : ledger.status? store place =
        some (if false ∈ outcomes then .failed else .generated))

theorem last_of_outcomes (outcomes : List Bool) :
    (if false ∈ outcomes then .failed else .generated : Status).Last := by
  split
  · exact Or.inr rfl
  · exact Or.inl rfl

/-- What an event adds to the outcomes of the writes for a lesson. -/
def Event.outcome [DecidableEq κ] (place : String → κ) (here : κ) (event : Event τ) : List Bool :=
  if event.request.written?.map place = some here then [event.answer.isOk] else []

/-- A caller that has just kept content has written nothing since then. -/
theorem Serving.stands_kept {duty : Duty κ}
    (answers : Serving.Answers ledger conduct crowd.store next.store duty event) {id : String}
    (kept : event.kept? = some id) : Stands ledger next.store (ledger.place id)
      (duty.After ledger.place event.request event.answer) [] := by
  obtain ⟨role, outcomes, stranded⟩ := duty
  obtain ⟨asker, request, answer⟩ := event
  obtain ⟨⟨allowed, -⟩, -, -⟩ := answers
  cases request with
  | store operation =>
      cases operation with
      | addContent asked source code digest =>
          cases answer with
          | error failure => cases kept
          | ok content =>
              cases kept
              cases role with
              | running here flag =>
                  obtain ⟨rfl, -⟩ := allowed
                  exact .working rfl rfl
              | _ => exact allowed.elim
      | _ => cases kept
  | _ => cases kept

/-- A caller at work on a lesson with content writes one more trace, or the last status. -/
theorem Serving.stands_working [DecidableEq κ] (accounts : ledger.Accounts conduct)
    (serving : Serving ledger first crowd all) {duty : Duty κ}
    (answers : Serving.Answers ledger conduct crowd.store next.store duty event)
    (running : duty.role = .running place true) :
    Stands ledger next.store place (duty.After ledger.place event.request event.answer)
      (duty.outcomes ++ event.outcome ledger.place place) := by
  obtain ⟨role, outcomes, stranded⟩ := duty
  obtain rfl : role = .running place true := running
  obtain ⟨asker, request, answer⟩ := event
  obtain ⟨⟨allowed, told⟩, answered, -⟩ := answers
  cases request with
  | store operation =>
      cases operation with
      | appendTrace trace =>
          have here : ledger.place trace.lessonId = place := allowed
          exact .working rfl (by simp [Duty.After, Duty.outcomesBehind, Event.outcome,
            Request.written?, here])
      | setStatus id status =>
          obtain ⟨here, last⟩ := allowed
          have behind : Event.outcome ledger.place place
              ⟨asker, (.store (.setStatus id status) : Request τ Lesson), answer⟩ =
                [answer.isOk] := by
            simp [Event.outcome, Request.written?, here]
          rw [behind]
          cases answer with
          | error failure => exact .working rfl rfl
          | ok lesson =>
              rcases answered with permitted | ⟨⟨_, impossible⟩, _⟩
              · have moves := accounts.setStatus serving.atDuty.fit.inOrder permitted
                have same : status = .failed ↔ false ∈ outcomes ++ [true] := by
                  simpa using told place rfl
                refine .settled nofun List.getLast?_concat ?_
                rw [← here, moves.here]
                rcases last with rfl | rfl
                · exact congrArg some (if_neg (mt same.mpr nofun)).symm
                · exact congrArg some (if_pos (same.mp rfl)).symm
              · cases impossible
      | addContent id source code digest => cases allowed.2
      | _ => exact allowed.elim
  | _ => exact .working rfl (List.append_nil _).symm

/-- A caller has nothing more to do with a lesson whose last status is written. -/
theorem Serving.stands_settled [DecidableEq κ] (serving : Serving ledger first crowd all)
    {duty : Duty κ} (found : all[event.caller]? = some duty)
    (answers : Serving.Answers ledger conduct crowd.store next.store duty event)
    {outcomes : List Bool} (free : ∀ kept, duty.role.work? ≠ some (place, kept))
    (last : outcomes.getLast? = some true)
    (status : ledger.status? crowd.store place =
      some (if false ∈ outcomes then .failed else .generated)) :
    Stands ledger next.store place (duty.After ledger.place event.request event.answer)
      (outcomes ++ event.outcome ledger.place place) := by
  have final := last_of_outcomes outcomes
  have unwritten : event.outcome ledger.place place = [] := by
    refine if_neg fun written => ?_
    obtain ⟨id, named, here⟩ := Option.map_eq_some_iff.mp written
    obtain ⟨kept, works⟩ := (works_of_allows answers.allowed.1).2 id named
    exact free kept (here ▸ works)
  rw [unwritten, List.append_nil]
  refine .settled ?_ last ?_
  · intro kept works
    rcases answers.effect.claimed_of_work works with ⟨flag, worked⟩ | claimed
    · exact free flag worked
    · have queued := (answers.effect.claims claimed).1
      rw [status] at queued
      cases Option.some.inj queued ▸ final with
      | inl impossible => cases impossible
      | inr impossible => cases impossible
  · exact serving.last_stays found answers final status

theorem outcomesOf_cons [DecidableEq κ] (toPlace : String → κ) (moment : Moment τ σ)
    (moments : List (Moment τ σ)) : outcomesOf toPlace place caller (moment :: moments) =
      (if moment.event.caller = caller then moment.event.outcome toPlace place else []) ++
        outcomesOf toPlace place caller moments := by
  rw [outcomesOf]
  split
  next own =>
    rw [eventsOf_cons_own own, List.filter_cons, Event.outcome]
    by_cases written : moment.event.request.written?.map toPlace = some place
    · simp [written, outcomesOf]
    · simp [written, outcomesOf]
  next other =>
    rw [eventsOf_cons_other other]
    rfl

/-- A caller that has kept content for a lesson goes on to stand to it as its writes tell. -/
theorem Serving.stands_history [DecidableEq κ] (accounts : ledger.Accounts conduct)
    (quiet : conduct.FailsQuietly) (serving : Serving ledger first crowd all)
    (history : Crowd.History conduct.orFails crowd moments last) {duty : Duty κ}
    (found : all[caller]? = some duty) {outcomes : List Bool}
    (stands : Stands ledger crowd.store place duty outcomes) :
    ∃ behind, ((duties τ ledger.place).followAll all moments)[caller]? = some behind ∧
      Stands ledger last.store place behind
        (outcomes ++ outcomesOf ledger.place place caller moments) := by
  induction history generalizing all duty outcomes with
  | refl =>
      rw [show outcomesOf ledger.place place caller ([] : List (Moment τ σ)) = [] from rfl,
        List.append_nil]
      exact ⟨duty, found, stands⟩
  | @step crowd next last event moments head tail inductionHypothesis =>
      obtain ⟨⟨asker, askerFound, answers⟩, serves⟩ := serving.step accounts quiet head
      have moved := (duties τ ledger.place).getElem?_follow all event caller
      rw [outcomesOf_cons, ← List.append_assoc]
      by_cases own : event.caller = caller
      · rw [if_pos own, found, Option.map_some] at moved
        rw [if_pos own]
        rw [own, found] at askerFound
        cases askerFound
        refine inductionHypothesis serves moved ?_
        cases stands with
        | working running same => exact same ▸ serving.stands_working accounts answers running
        | settled free last status =>
            exact serving.stands_settled (own ▸ found) answers free last status
      · rw [if_neg own, found] at moved
        rw [if_neg own, List.append_nil]
        refine inductionHypothesis serves moved ?_
        cases stands with
        | working running same => exact .working running same
        | settled free last status =>
            refine .settled free last (serving.last_stays askerFound answers ?_ status)
            exact last_of_outcomes outcomes

end

/-! ## Calls that are over -/

/-- What becomes of the lessons that a caller has claimed, once its call is over: each has its last
status, but the one that was claimed last stays in generation if the caller is stranded. -/
structure Store.Ledger.Leaves (ledger : Ledger σ κ) (caller : Nat) (moments : List (Moment τ σ))
    (store : σ) : Prop where
  settled : ∀ id ∈ claimsOf caller moments,
    ledger.status? store (ledger.place id) = some .generating ∨
      ∃ status : Status, status.Last ∧ ledger.status? store (ledger.place id) = some status
  stranded : ∀ id ∈ claimsOf caller moments,
    ledger.status? store (ledger.place id) = some .generating ↔
      Stranded caller moments ∧
        ((claimsOf caller moments).map ledger.place).getLast? = some (ledger.place id)

section

variable {ledger : Ledger σ κ} {conduct : Conduct σ} {calls : List Call} {store : σ}
  {last : Crowd τ σ} {moments : List (Moment τ σ)}

/-- A caller whose call is over has ended as callers may end. -/
theorem Serving.ended {first : σ} {all : List (Duty κ)} (serving : Serving ledger first last all)
    {caller : Nat} {program : Program τ (List Report)} (found : last.programs[caller]? = some program)
    (finished : program.isOver = true) {duty : Duty κ} (dutyFound : all[caller]? = some duty) :
    duty.Ended := by
  have keeps := serving.fits.keeps found dutyFound
  cases program with
  | ask request next => cases finished
  | _ => exact keeps

/-- A caller is stranded exactly if it may be so and ends with a lesson on its hands. -/
theorem Serving.stranded_iff {calls : List Call} {caller : Nat} {duty : Duty κ}
    (found : ((duties τ ledger.place).followAll (calls.map Serving.start) moments)[caller]? =
      some duty) : Stranded caller moments ↔ duty.stranded = true := by
  have inside := (List.getElem?_eq_some_iff.mp found).1
  rw [Discipline.length_followAll, List.length_map] at inside
  have started : (calls.map Serving.start)[caller]? = some (Serving.start calls[caller] : Duty κ) := by
    rw [List.getElem?_map, List.getElem?_eq_getElem inside]
    rfl
  obtain ⟨behind, behindFound, told⟩ :=
    Serving.stranded_followAll ledger.place moments started
  rw [found] at behindFound
  cases behindFound
  rw [told, Stranded]
  cases (eventsOf caller moments).getLast? with
  | none => simp [Serving.start]
  | some event => simp

/-- Whatever fails, a caller whose call is over has written the last status of all that it has
claimed, unless it is stranded. -/
theorem leaves_of_accounts [Seconds τ] (accounts : ledger.Accounts conduct)
    (quiet : conduct.FailsQuietly) {context : Run.Context τ} {patience : Nat}
    (ordered : ledger.inOrder store)
    (history : Crowd.History conduct.orFails (.opening context patience calls store) moments last)
    {caller : Nat} {program : Program τ (List Report)} (found : last.programs[caller]? = some program)
    (finished : program.isOver = true) : ledger.Leaves caller moments last.store := by
  have opening : Serving ledger store (Crowd.opening context patience calls store : Crowd τ σ)
      (calls.map Serving.start) := .opening ordered
  have serving := opening.history accounts quiet history
  have inside : caller < ((duties τ ledger.place).followAll (calls.map Serving.start) moments).length := by
    rw [← serving.fits.together]
    exact (List.getElem?_eq_some_iff.mp found).1
  obtain ⟨duty, dutyFound⟩ : ∃ duty,
      ((duties τ ledger.place).followAll (calls.map Serving.start) moments)[caller]? = some duty :=
    ⟨_, List.getElem?_eq_getElem inside⟩
  have ended := serving.ended found finished dutyFound
  have works {place : κ} {kept : Bool} : workOf? (((duties τ ledger.place).followAll
      (calls.map Serving.start) moments).map Duty.role) caller = some (place, kept) ↔
        duty.role = .running place kept := by
    rw [workOf?, List.getElem?_map, dutyFound, Option.map_some, Option.bind_some]
    cases duty.role <;> simp [Role.work?]
  have generating {place : κ} {kept : Bool} (running : duty.role = .running place kept) :
      ledger.status? last.store place = some .generating :=
    ((serving.atDuty.fit.progress place).of_work (works.mpr running)).2.1
  have seesTo {id : String} (claimed : id ∈ claimsOf caller moments) :=
    opening.seesTo_history accounts quiet history (Or.inr (List.mem_map_of_mem claimed))
  constructor
  · intro id claimed
    rcases seesTo claimed with ⟨kept, working⟩ | settled
    · exact Or.inl (generating (works.mp working))
    · exact Or.inr settled
  · intro id claimed
    rw [Serving.stranded_iff dutyFound]
    have lastClaimed {place : κ} {kept : Bool} (running : duty.role = .running place kept) :
        ((claimsOf caller moments).map ledger.place).getLast? = some place := by
      refine (opening.lastClaim_history accounts quiet history (works.mpr running)).resolve_right ?_
      rintro ⟨none, _⟩
      rw [none] at claimed
      exact List.not_mem_nil claimed
    constructor
    · intro told
      rcases seesTo claimed with ⟨kept, working⟩ | ⟨status, final, settled⟩
      · have running := works.mp working
        exact ⟨(ended _ _ running).1, lastClaimed running⟩
      · rw [told] at settled
        cases settled
        rcases final with impossible | impossible <;> cases impossible
    · rintro ⟨stranded, claimedLast⟩
      obtain ⟨here, kept, running⟩ :=
        serving.atDuty.working duty (List.mem_of_getElem? dutyFound) stranded
      rw [lastClaimed running] at claimedLast
      cases claimedLast
      exact generating running

/-- What the status of a lesson with content tells of the writes behind the content: whether each of
them went well. -/
structure Store.Ledger.Tells (ledger : Ledger σ κ) (store : σ) (place : κ) (outcomes : List Bool) :
    Prop where
  generated : ledger.status? store place = some .generated ↔ false ∉ outcomes
  failed : ledger.status? store place = some .failed ↔
    false ∈ outcomes ∧ outcomes.getLast? = some true
  generating : ledger.status? store place = some .generating ↔ outcomes.getLast? = some false

theorem Serving.tells {first : σ} {all : List (Duty κ)} (serving : Serving ledger first last all)
    {caller : Nat} {duty : Duty κ} (found : all[caller]? = some duty) (ended : duty.Ended) {place : κ}
    {outcomes : List Bool} (stands : Stands ledger last.store place duty outcomes) :
    ledger.Tells last.store place outcomes := by
  cases stands with
  | working running same =>
      have broken : outcomes.getLast? = some false := same ▸ (ended _ _ running).2 rfl
      have works : workOf? (all.map Duty.role) caller = some (place, true) := by
        rw [workOf?, List.getElem?_map, found, Option.map_some, Option.bind_some, running]
        rfl
      have told := ((serving.atDuty.fit.progress place).of_work works).2.1
      have held : false ∈ outcomes := List.mem_of_getLast? broken
      constructor <;> simp [told, broken, held]
  | settled free last status =>
      by_cases held : false ∈ outcomes
      · rw [if_pos held] at status
        constructor <;> simp [status, last, held]
      · rw [if_neg held] at status
        constructor <;> simp [status, last, held]

/-- Whatever fails, once the call is over the status of a lesson that it has kept content for tells of
the writes behind the content. -/
theorem tells_of_accounts [Seconds τ] [DecidableEq κ] (accounts : ledger.Accounts conduct)
    (quiet : conduct.FailsQuietly) {context : Run.Context τ} {patience : Nat}
    (ordered : ledger.inOrder store) {before later : List (Moment τ σ)} {moment : Moment τ σ}
    (history : Crowd.History conduct.orFails (.opening context patience calls store)
      (before ++ moment :: later) last)
    {id : String} (kept : moment.event.kept? = some id) {program : Program τ (List Report)}
    (found : last.programs[moment.event.caller]? = some program) (finished : program.isOver = true) :
    ledger.Tells last.store (ledger.place id)
      (outcomesOf ledger.place (ledger.place id) moment.event.caller later) := by
  have opening : Serving ledger store (Crowd.opening context patience calls store : Crowd τ σ)
      (calls.map Serving.start) := .opening ordered
  obtain ⟨middle, reached, head, rest⟩ := history.split
  obtain ⟨⟨duty, dutyFound, answers⟩, serves⟩ :=
    (opening.history accounts quiet reached).step accounts quiet head
  have moved := (duties τ ledger.place).getElem?_follow
    ((duties τ ledger.place).followAll (calls.map Serving.start) before) moment.event
      moment.event.caller
  rw [if_pos rfl, dutyFound, Option.map_some] at moved
  obtain ⟨behind, behindFound, stands⟩ := serves.stands_history accounts quiet rest moved
    (Serving.stands_kept answers kept)
  have serving := serves.history accounts quiet rest
  exact serving.tells behindFound (serving.ended found finished behindFound) stands

end

end Lectern
