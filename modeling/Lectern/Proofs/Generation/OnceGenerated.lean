/-
Module: Lectern.Proofs.Generation.OnceGenerated
Purpose: However many callers generate lessons side by side, and in whichever order they are
  answered, each lesson is generated at most once. Its statuses follow one another in one order, it
  gains at most one version of content, and a caller that comes late changes nothing.
Trusted boundary: none
Main exports: Ledger.GeneratesOnce, Unfolds, generatesOnce_of_accounts, lessons_generated_once
-/
import Mathlib.Data.List.Destutter
import Lectern.Proofs.Generation.Progress
import Lectern.Proofs.Store.LessonFiles

namespace Lectern

open Store

variable {τ σ κ : Type}

/-! ## What callers do -/

namespace Request

/-- The lesson that something is written for. -/
def written? {β : Type} : Request τ β → Option String
  | .store (.setStatus id _) => some id
  | .store (.addContent id _ _ _) => some id
  | .store (.appendTrace trace) => some trace.lessonId
  | _ => none

/-- Is a source asked for? -/
def generates {β : Type} : Request τ β → Bool
  | .generate _ _ => true
  | _ => false

/-- The lesson is looked up, or tried to be claimed. -/
def Inquires {β : Type} (id : String) : Request τ β → Prop
  | .store (.find asked) => asked = id
  | .store (.claim asked) => asked = id
  | _ => False

end Request

/-- The lesson that an event claims for its caller. -/
def Event.claimed? (event : Event τ) : Option String := event.request.claimed? event.answer

/-- What becomes of a call for a lesson that it does not claim: it waits for one of at most three
answers, or has told the status of the lesson, or has found none. -/
def Program.Skips (id : String) (answered : Nat) (absent : Prop) : Program τ (List Report) → Prop
  | .ask _ _ => answered < 3
  | .done reports => ∃ status, status ≠ .queued ∧ reports = [Run.skippedReport id status]
  | .failed failure => failure = .unknownLesson id ∧ absent

/-- Each lesson is generated at most once in a history. -/
structure Store.Ledger.GeneratesOnce (ledger : Ledger σ κ) (calls : List Call) (first : Crowd τ σ)
    (moments : List (Moment τ σ)) (last : Crowd τ σ) : Prop where
  /-- The statuses of a lesson in the queue follow one another in one order, each once. -/
  inOrder : ∀ place, ledger.status? first.store place = some .queued →
    ∃ final : Status, final.Last ∧
      ((ledger.status? first.store place ::
          moments.map fun moment => ledger.status? moment.crowd.store place).destutter (· ≠ ·)) <+:
        [some .queued, some .generating, some final]
  /-- A lesson that is not in the queue keeps its status. -/
  untouched : ∀ place, ledger.status? first.store place ≠ some .queued →
    ∀ moment ∈ moments,
      ledger.status? moment.crowd.store place = ledger.status? first.store place
  /-- No lesson is claimed twice. -/
  claimedOnce : (moments.filterMap fun moment => moment.event.claimed?.map ledger.place).Nodup
  /-- Whoever has a source generated has claimed a lesson before. -/
  generates : ∀ before moment behind, moments = before ++ moment :: behind →
    moment.event.request.generates = true →
    ∃ earlier ∈ before, earlier.event.caller = moment.event.caller ∧
      earlier.event.claimed?.isSome = true
  /-- Whoever writes something for a lesson has claimed it before. -/
  writes : ∀ before moment behind, moments = before ++ moment :: behind →
    ∀ id, moment.event.request.written? = some id →
    ∃ earlier ∈ before, earlier.event.caller = moment.event.caller ∧
      earlier.event.claimed?.map ledger.place = some (ledger.place id)
  /-- A call for a lesson that does not claim it makes inquiries, leaves the store as it is, and
  reports a lesson that is not in the queue. -/
  skips : ∀ caller id pedagogy, calls[caller]? = some (.kickoff id pedagogy) →
    (∀ moment ∈ moments, moment.event.caller = caller → moment.event.claimed? = none) →
    (∀ before moment behind, moments = before ++ moment :: behind →
      moment.event.caller = caller →
        moment.event.request.Inquires id ∧ moment.crowd.store = (first.behind before).store) ∧
    ∃ program, last.programs[caller]? = some program ∧
      program.Skips id (moments.countP fun moment => moment.event.caller == caller)
        (ledger.status? first.store (ledger.place id) = none)
  /-- A lesson gains at most one version of content. -/
  versions : ∀ place,
    ledger.versions last.store place ≤ ledger.versions first.store place + 1

/-! ## Statuses -/

/-- What moments do to the statuses of lessons: each keeps its status or has the one that follows,
and only a lesson in the queue is claimed. -/
inductive Unfolds (ledger : Ledger σ κ) : σ → List (Moment τ σ) → Prop where
  | nil (store : σ) : Unfolds ledger store []
  | cons {store : σ} {moment : Moment τ σ} {moments : List (Moment τ σ)}
      (follows : ∀ place, Status.Follows (ledger.status? store place)
        (ledger.status? moment.crowd.store place))
      (claims : ∀ place, moment.event.claimed?.map ledger.place = some place →
        ledger.status? store place = some .queued ∧
          ledger.status? moment.crowd.store place = some .generating)
      (rest : Unfolds ledger moment.crowd.store moments) :
      Unfolds ledger store (moment :: moments)

namespace Unfolds

variable {ledger : Ledger σ κ} {store : σ} {moments : List (Moment τ σ)}

private theorem not_queued_of_follows {before after : Option Status}
    (follows : Status.Follows before after) (apart : before ≠ some .queued) :
    after ≠ some .queued := by
  rcases follows with rfl | ⟨queued, _⟩ | ⟨_, last, final, rfl⟩
  · exact apart
  · exact absurd queued apart
  · rcases final with rfl | rfl
    · exact nofun
    · exact nofun

/-- Nobody claims a lesson that is not in the queue. -/
theorem unclaimed (unfolds : Unfolds ledger store moments) {place : κ}
    (apart : ledger.status? store place ≠ some .queued) :
    place ∉ moments.filterMap fun moment => moment.event.claimed?.map ledger.place := by
  induction unfolds with
  | nil => simp
  | @cons store moment moments follows claims rest inductionHypothesis =>
      have later := inductionHypothesis (not_queued_of_follows (follows place) apart)
      rw [List.filterMap_cons]
      split
      next => exact later
      next claimedPlace claimed =>
        rw [List.mem_cons, not_or]
        refine ⟨?_, later⟩
        rintro rfl
        exact apart (claims place claimed).1

/-- No lesson is claimed twice. -/
theorem nodup_claimed (unfolds : Unfolds ledger store moments) :
    (moments.filterMap fun moment => moment.event.claimed?.map ledger.place).Nodup := by
  induction unfolds with
  | nil => simp
  | @cons store moment moments follows claims rest inductionHypothesis =>
      rw [List.filterMap_cons]
      split
      next => exact inductionHypothesis
      next place claimed =>
        rw [List.nodup_cons]
        refine ⟨rest.unclaimed ?_, inductionHypothesis⟩
        rw [(claims place claimed).2]
        exact nofun

/-- The statuses that a lesson has, one after the other. -/
private def statuses (ledger : Ledger σ κ) (place : κ) (moments : List (Moment τ σ)) :
    List (Option Status) :=
  moments.map fun moment => ledger.status? moment.crowd.store place

private theorem destutter_last (unfolds : Unfolds ledger store moments) {place : κ} {final : Status}
    (last : final.Last) (status : ledger.status? store place = some final) :
    (statuses ledger place moments).destutter' (· ≠ ·) (some final) = [some final] := by
  induction unfolds with
  | nil => rfl
  | @cons store moment moments follows claims rest inductionHypothesis =>
      have same : ledger.status? moment.crowd.store place = some final := by
        rcases follows place with same | ⟨queued, _⟩ | ⟨generating, _⟩
        · exact same.trans status
        · rw [status] at queued
          cases queued
          rcases last with impossible | impossible <;> cases impossible
        · rw [status] at generating
          cases generating
          rcases last with impossible | impossible <;> cases impossible
      rw [statuses, List.map_cons, same, List.destutter'_cons_neg _ (by simp)]
      exact inductionHypothesis same

private theorem destutter_generating (unfolds : Unfolds ledger store moments) {place : κ}
    (status : ledger.status? store place = some .generating) :
    ∃ final : Status, final.Last ∧
      (statuses ledger place moments).destutter' (· ≠ ·) (some .generating) <+:
        [some .generating, some final] := by
  induction unfolds with
  | nil => exact ⟨.generated, Or.inl rfl, by simp [statuses]⟩
  | @cons store moment moments follows claims rest inductionHypothesis =>
      rcases follows place with same | ⟨queued, _⟩ | ⟨_, final, last, new⟩
      · rw [status] at same
        rw [statuses, List.map_cons, same, List.destutter'_cons_neg _ (by simp)]
        exact inductionHypothesis same
      · rw [status] at queued
        cases queued
      · have apart : some Status.generating ≠ some final := by
          rintro ⟨⟩
          rcases last with impossible | impossible <;> cases impossible
        have more := rest.destutter_last last new
        rw [statuses, List.map_cons, new, List.destutter'_cons_pos _ apart]
        exact ⟨final, last, (List.prefix_cons_inj _).mpr ⟨[], (List.append_nil _).trans more⟩⟩

/-- The statuses of a lesson in the queue follow one another in one order, each once. -/
theorem destutter_queued (unfolds : Unfolds ledger store moments) {place : κ}
    (status : ledger.status? store place = some .queued) :
    ∃ final : Status, final.Last ∧
      (statuses ledger place moments).destutter' (· ≠ ·) (some .queued) <+:
        [some .queued, some .generating, some final] := by
  induction unfolds with
  | nil => exact ⟨.generated, Or.inl rfl, by simp [statuses]⟩
  | @cons store moment moments follows claims rest inductionHypothesis =>
      rcases follows place with same | ⟨_, new⟩ | ⟨generating, _⟩
      · rw [status] at same
        rw [statuses, List.map_cons, same, List.destutter'_cons_neg _ (by simp)]
        exact inductionHypothesis same
      · obtain ⟨final, last, more⟩ := rest.destutter_generating new
        rw [statuses, List.map_cons, new, List.destutter'_cons_pos _ (by simp)]
        exact ⟨final, last, (List.prefix_cons_inj _).mpr more⟩
      · rw [status] at generating
        cases generating

end Unfolds

/-! ## Histories of callers that play their parts -/

section

variable {ledger : Ledger σ κ} {conduct : Conduct σ} {calls : List Call}

/-- A call that ends, ends as its part says. -/
private def Ends (calls : List Call) (caller : Nat) (role : Role κ)
    (result : Except Failure (List Report)) : Prop :=
  ∀ call, calls[caller]? = some call → call.Ends role result

/-- Callers that play their parts, and the store they share. -/
private structure Playing (ledger : Ledger σ κ) (calls : List Call) (first : σ) (crowd : Crowd τ σ)
    (situations : List (Role κ)) : Prop where
  fits : (roles τ ledger.place).Fits (Ends calls) crowd.programs situations
  fit : Fit ledger first crowd.store situations

private theorem Playing.opening [Seconds τ] {context : Run.Context τ} {patience : Nat} {store : σ}
    (ordered : ledger.inOrder store) :
    Playing ledger calls store (Crowd.opening context patience calls store : Crowd τ σ)
      (calls.map Call.role) where
  fits := .opening fun caller call found =>
    (Run.roles_call call).mono fun role result ends other otherFound => by
      rw [found] at otherFound
      cases otherFound
      exact ends
  fit := .opening ordered calls

private theorem Playing.consequence (accounts : ledger.Accounts conduct) {first : σ}
    {crowd next : Crowd τ σ} {situations : List (Role κ)} {event : Event τ}
    (playing : Playing ledger calls first crowd situations)
    (step : Crowd.Step conduct.neverFails crowd event next) :
    ∃ role, situations[event.caller]? = some role ∧ role.Allows ledger.place event.request ∧
      Consequence ledger crowd.store next.store role event.request event.answer := by
  obtain ⟨⟨role, found, allowed, _⟩, _⟩ :=
    playing.fits.step (upheld_roles accounts first) playing.fit step
  refine ⟨role, found, allowed, ?_⟩
  cases step with
  | answer waits answered => exact playing.fit.consequence accounts found allowed answered

private theorem Playing.step (accounts : ledger.Accounts conduct) {first : σ}
    {crowd next : Crowd τ σ} {situations : List (Role κ)} {event : Event τ}
    (playing : Playing ledger calls first crowd situations)
    (step : Crowd.Step conduct.neverFails crowd event next) :
    Playing ledger calls first next ((roles τ ledger.place).follow situations event) := by
  obtain ⟨_, fits, fit⟩ := playing.fits.step (upheld_roles accounts first) playing.fit step
  exact ⟨fits, fit⟩

private theorem Playing.unfolds (accounts : ledger.Accounts conduct) {first : σ}
    {crowd last : Crowd τ σ} {situations : List (Role κ)} {moments : List (Moment τ σ)}
    (playing : Playing ledger calls first crowd situations)
    (history : Crowd.History conduct.neverFails crowd moments last) :
    Unfolds ledger crowd.store moments := by
  induction history generalizing situations with
  | refl => exact .nil _
  | step head tail inductionHypothesis =>
      obtain ⟨role, found, _, consequence⟩ := playing.consequence accounts head
      exact .cons (playing.fit.follows found consequence.effect)
        (fun place claimed => consequence.effect.claims claimed)
        (inductionHypothesis (playing.step accounts head))

private theorem Playing.history (accounts : ledger.Accounts conduct) {first : σ}
    {crowd last : Crowd τ σ} {situations : List (Role κ)} {moments : List (Moment τ σ)}
    (playing : Playing ledger calls first crowd situations)
    (history : Crowd.History conduct.neverFails crowd moments last) :
    Playing ledger calls first last ((roles τ ledger.place).followAll situations moments) := by
  obtain ⟨fits, fit⟩ := history.keeps playing.fits (upheld_roles accounts first) playing.fit
  exact ⟨fits, fit⟩

/-! ### Work -/

private theorem claimed_before (accounts : ledger.Accounts conduct) {first : σ}
    {crowd last : Crowd τ σ} {situations : List (Role κ)} {moments : List (Moment τ σ)}
    (playing : Playing ledger calls first crowd situations)
    (history : Crowd.History conduct.neverFails crowd moments last) {caller : Nat} {here : κ}
    {kept : Bool}
    (works : workOf? ((roles τ ledger.place).followAll situations moments) caller =
      some (here, kept)) :
    (∃ before, workOf? situations caller = some (here, before)) ∨
      ∃ moment ∈ moments, moment.event.caller = caller ∧
        moment.event.claimed?.map ledger.place = some here := by
  induction history generalizing situations with
  | refl => exact Or.inl ⟨kept, works⟩
  | @step crowd next last event moments head tail inductionHypothesis =>
      obtain ⟨role, found, _, consequence⟩ := playing.consequence accounts head
      rw [Discipline.followAll_cons] at works
      rcases inductionHypothesis (playing.step accounts head) works with
        ⟨before, worked⟩ | ⟨moment, member, own, claimed⟩
      · rw [workOf?_follow found] at worked
        split at worked
        next own =>
          rcases consequence.effect.claimed_of_work worked with ⟨kept, already⟩ | claimed
          · refine Or.inl ⟨kept, ?_⟩
            rw [← own, workOf?, found]
            exact already
          · exact Or.inr ⟨_, List.mem_cons_self, own, claimed⟩
        next => exact Or.inl ⟨before, worked⟩
      · exact Or.inr ⟨moment, List.mem_cons_of_mem _ member, own, claimed⟩

/-- Whoever works on a lesson has claimed it since the calls were made. -/
private theorem claimed_since_opening (accounts : ledger.Accounts conduct) {first : σ}
    {crowd last : Crowd τ σ} {moments : List (Moment τ σ)}
    (playing : Playing ledger calls first crowd (calls.map Call.role))
    (history : Crowd.History conduct.neverFails crowd moments last) {caller : Nat} {role : Role κ}
    (found : ((roles τ ledger.place).followAll (calls.map Call.role) moments)[caller]? = some role)
    {here : κ} {kept : Bool} (works : role.work? = some (here, kept)) :
    ∃ moment ∈ moments, moment.event.caller = caller ∧
      moment.event.claimed?.map ledger.place = some here := by
  have worked : workOf? ((roles τ ledger.place).followAll (calls.map Call.role) moments) caller =
      some (here, kept) := by
    rw [workOf?, found]
    exact works
  rcases claimed_before accounts playing history worked with ⟨before, started⟩ | claimed
  · exact absurd started (workOf?_opening calls caller (here, before))
  · exact claimed

/-! ### Calls that claim nothing -/

/-- How many answers a call for a lesson has had that has not claimed it. -/
private def Waited (id : String) : Role κ → Nat → Prop
  | .calling asked, answered => asked = id ∧ answered = 0
  | .looking asked, answered => asked = id ∧ answered = 1
  | .missing asked, answered => asked = id ∧ answered = 1
  | .passed asked, answered => asked = id ∧ answered = 2
  | .skipped asked _, answered => asked = id ∧ answered = 3
  | _, _ => False

private theorem waited_step (accounts : ledger.Accounts conduct) {before after : σ}
    (ordered : ledger.inOrder before) {role : Role κ} {id : String} {count : Nat}
    (waited : Waited id role count) {β : Type} {request : Request τ β}
    (allowed : role.Allows ledger.place request) {answer : Except Failure β}
    (answered : request.Answered conduct.neverFails before answer after)
    (unclaimed : request.claimed? answer = none)
    (expected : role.Expects ledger.place request answer) :
    request.Inquires id ∧ after = before ∧
      Waited id (role.After ledger.place request answer) (count + 1) := by
  cases request with
  | store operation =>
      obtain ⟨permitted, value, rfl⟩ := answered
      cases role with
      | calling asked =>
          obtain ⟨rfl, rfl⟩ := waited
          cases operation with
          | find other =>
              refine ⟨allowed, (accounts.find ordered permitted).1, ?_⟩
              cases value with
              | none => exact ⟨rfl, rfl⟩
              | some lesson => exact ⟨rfl, rfl⟩
          | _ => exact allowed.elim
      | looking asked =>
          obtain ⟨rfl, rfl⟩ := waited
          cases operation with
          | claim other =>
              cases value with
              | true => cases unclaimed
              | false => exact ⟨allowed, (accounts.refused ordered permitted).2, rfl, rfl⟩
          | _ => exact allowed.elim
      | passed asked =>
          obtain ⟨rfl, rfl⟩ := waited
          cases operation with
          | find other =>
              obtain ⟨lesson, rfl, _⟩ := expected
              exact ⟨allowed, (accounts.find ordered permitted).1, rfl, rfl⟩
          | _ => exact allowed.elim
      | missing asked => exact allowed.elim
      | skipped asked status => exact allowed.elim
      | idle => exact waited.elim
      | running place kept => exact waited.elim
  | _ =>
      cases role with
      | idle => exact waited.elim
      | running place kept => exact waited.elim
      | _ => exact allowed.elim

private theorem Playing.inquires (accounts : ledger.Accounts conduct) {first : σ}
    {crowd next : Crowd τ σ} {situations : List (Role κ)} {event : Event τ}
    (playing : Playing ledger calls first crowd situations)
    (step : Crowd.Step conduct.neverFails crowd event next) {caller : Nat}
    (own : event.caller = caller) {id : String} {role : Role κ} {count : Nat}
    (found : situations[caller]? = some role) (waited : Waited id role count)
    (unclaimed : event.claimed? = none) :
    event.request.Inquires id ∧ next.store = crowd.store ∧
      Waited id (role.After ledger.place event.request event.answer) (count + 1) := by
  obtain ⟨asker, askerFound, allowed, consequence⟩ := playing.consequence accounts step
  rw [own, found] at askerFound
  cases askerFound
  exact waited_step accounts playing.fit.inOrder waited allowed step.answered unclaimed
    consequence.expected

/-- It is known how many answers a call has had that claims nothing. -/
private theorem waited_history (accounts : ledger.Accounts conduct) {first : σ}
    {crowd last : Crowd τ σ} {situations : List (Role κ)} {moments : List (Moment τ σ)}
    (playing : Playing ledger calls first crowd situations)
    (history : Crowd.History conduct.neverFails crowd moments last) {caller : Nat} {id : String}
    {role : Role κ} {count : Nat} (found : situations[caller]? = some role)
    (waited : Waited id role count)
    (unclaimed : ∀ moment ∈ moments, moment.event.caller = caller → moment.event.claimed? = none) :
    ∃ role, ((roles τ ledger.place).followAll situations moments)[caller]? = some role ∧
      Waited id role (count + moments.countP fun moment => moment.event.caller == caller) := by
  induction history generalizing situations role count with
  | refl => exact ⟨role, found, waited⟩
  | @step crowd next last event moments head tail inductionHypothesis =>
      have later : ∀ moment ∈ moments, moment.event.caller = caller →
          moment.event.claimed? = none :=
        fun moment member => unclaimed moment (List.mem_cons_of_mem _ member)
      have moved := (roles τ ledger.place).getElem?_follow situations event caller
      by_cases own : event.caller = caller
      · obtain ⟨_, _, more⟩ := playing.inquires accounts head own found waited
          (unclaimed _ List.mem_cons_self own)
        rw [if_pos own, found, Option.map_some] at moved
        obtain ⟨behind, behindFound, counted⟩ :=
          inductionHypothesis (playing.step accounts head) moved more later
        refine ⟨behind, behindFound, ?_⟩
        simpa [own, Nat.add_comm, Nat.add_left_comm, Nat.add_assoc] using counted
      · rw [if_neg own, found] at moved
        obtain ⟨behind, behindFound, counted⟩ :=
          inductionHypothesis (playing.step accounts head) moved waited later
        refine ⟨behind, behindFound, ?_⟩
        simpa [own] using counted

/-- A caller who may ask for a source, or write something for a lesson, is at work. -/
theorem works_of_allows {place : String → κ} {role : Role κ} {β : Type}
    {request : Request τ β} (allowed : role.Allows place request) :
    (request.generates = true → ∃ here kept, role.work? = some (here, kept)) ∧
      ∀ id, request.written? = some id → ∃ kept, role.work? = some (place id, kept) := by
  cases role with
  | running here kept =>
      refine ⟨fun _ => ⟨here, kept, rfl⟩, ?_⟩
      intro id written
      cases request with
      | store operation =>
          cases operation with
          | setStatus asked status =>
              cases written
              exact ⟨kept, by rw [allowed.1]; rfl⟩
          | addContent asked source code digest =>
              cases written
              exact ⟨kept, by rw [allowed.1]; rfl⟩
          | appendTrace trace =>
              cases written
              cases (show place trace.lessonId = here from allowed)
              exact ⟨kept, rfl⟩
          | _ => cases written
      | _ => cases written
  | _ =>
      cases request with
      | store operation =>
          cases operation with
          | find asked => exact ⟨nofun, nofun⟩
          | claim asked => exact ⟨nofun, nofun⟩
          | claimNext => exact ⟨nofun, nofun⟩
          | _ => exact allowed.elim
      | _ => exact allowed.elim

/-- What becomes of a call for a lesson that claims nothing. -/
private theorem skips_of_waited {first : σ} {crowd : Crowd τ σ} {situations : List (Role κ)}
    (playing : Playing ledger calls first crowd situations) {caller : Nat} {id : String}
    {pedagogy : Option Pedagogy} (called : calls[caller]? = some (.kickoff id pedagogy))
    {role : Role κ} {count : Nat} (found : situations[caller]? = some role)
    (waited : Waited id role count) :
    ∃ program, crowd.programs[caller]? = some program ∧
      program.Skips id count (ledger.status? first (ledger.place id) = none) := by
  have inside : caller < crowd.programs.length := by
    rw [playing.fits.together]
    exact (List.getElem?_eq_some_iff.mp found).1
  refine ⟨crowd.programs[caller], List.getElem?_eq_getElem inside, ?_⟩
  have keeps := playing.fits.keeps (List.getElem?_eq_getElem inside) found
  cases program : crowd.programs[caller] with
  | done reports =>
      rw [program] at keeps
      have ends : (Call.kickoff id pedagogy).Ends role (.ok reports) := keeps _ called
      cases role with
      | skipped asked status =>
          obtain ⟨_, apart, reported⟩ := ends
          exact ⟨status, apart, Except.ok.inj reported⟩
      | missing asked => cases ends.2
      | idle => exact waited.elim
      | running place kept => exact waited.elim
      | _ => exact ends.elim
  | failed failure =>
      rw [program] at keeps
      have ends : (Call.kickoff id pedagogy).Ends role (.error failure) := keeps _ called
      cases role with
      | skipped asked status => cases ends.2.2
      | missing asked =>
          obtain ⟨rfl, failed⟩ := ends
          refine ⟨Except.error.inj failed, ?_⟩
          have absent : ledger.status? crowd.store (ledger.place asked) = none :=
            playing.fit.informed caller _ found
          exact (playing.fit.progress (ledger.place asked)).of_none absent
      | idle => exact waited.elim
      | running place kept => exact waited.elim
      | _ => exact ends.elim
  | ask request next =>
      rw [program] at keeps
      have allowed : role.Allows ledger.place request := keeps.1
      cases role with
      | calling asked => exact Nat.lt_of_le_of_lt (Nat.le_of_eq waited.2) (by decide)
      | looking asked => exact Nat.lt_of_le_of_lt (Nat.le_of_eq waited.2) (by decide)
      | passed asked => exact Nat.lt_of_le_of_lt (Nat.le_of_eq waited.2) (by decide)
      | missing asked => exact (Role.not_allows_missing allowed).elim
      | skipped asked status => exact (Role.not_allows_skipped allowed).elim
      | idle => exact waited.elim
      | running place kept => exact waited.elim

/-! ### Each lesson once -/

/-- Over a store that does what is relied on and does not fail, each lesson is generated at most
once. -/
theorem generatesOnce_of_accounts [Seconds τ] (accounts : ledger.Accounts conduct)
    {context : Run.Context τ} {patience : Nat} {store : σ} (ordered : ledger.inOrder store)
    {moments : List (Moment τ σ)} {last : Crowd τ σ}
    (history : Crowd.History conduct.neverFails (.opening context patience calls store) moments
      last) :
    ledger.GeneratesOnce calls (.opening context patience calls store) moments last := by
  have playing : Playing ledger calls store (Crowd.opening context patience calls store : Crowd τ σ)
      (calls.map Call.role) := .opening ordered
  have unfolds := playing.unfolds accounts history
  have behind := playing.history accounts history
  refine ⟨?_, ?_, unfolds.nodup_claimed, ?_, ?_, ?_, ?_⟩
  · intro place queued
    have queuedHere : ledger.status? store place = some .queued := queued
    rw [queued]
    exact unfolds.destutter_queued queuedHere
  · intro place apart moment member
    obtain ⟨before, later, rfl⟩ := List.append_of_mem member
    obtain ⟨_, reached, step, _⟩ := history.split
    have reachedPlaying := (playing.history accounts reached).step accounts step
    exact (reachedPlaying.fit.progress place).of_not_queued apart
  · rintro before moment later rfl generates
    obtain ⟨middle, reached, step, _⟩ := history.split
    obtain ⟨role, found, allowed, _⟩ := (playing.history accounts reached).consequence accounts step
    obtain ⟨here, kept, works⟩ := (works_of_allows allowed).1 generates
    obtain ⟨earlier, member, own, claimed⟩ :=
      claimed_since_opening accounts playing reached found works
    refine ⟨earlier, member, own, ?_⟩
    obtain ⟨id, claimedId, _⟩ := Option.map_eq_some_iff.mp claimed
    rw [claimedId]
    rfl
  · rintro before moment later rfl id written
    obtain ⟨middle, reached, step, _⟩ := history.split
    obtain ⟨role, found, allowed, _⟩ := (playing.history accounts reached).consequence accounts step
    obtain ⟨kept, works⟩ := (works_of_allows allowed).2 id written
    exact claimed_since_opening accounts playing reached found works
  · intro caller id pedagogy called unclaimed
    have found : (calls.map Call.role)[caller]? = some (Role.calling id : Role κ) := by
      rw [List.getElem?_map, called]
      rfl
    refine ⟨?_, ?_⟩
    · rintro before moment later rfl own
      obtain ⟨middle, reached, step, _⟩ := history.split
      obtain ⟨role, roleFound, waited⟩ :=
        waited_history accounts playing reached found (show Waited id _ 0 from ⟨rfl, rfl⟩)
          fun earlier member => unclaimed earlier (List.mem_append_left _ member)
      obtain ⟨inquires, same, _⟩ := (playing.history accounts reached).inquires accounts step own
        roleFound waited (unclaimed moment (by simp) own)
      rw [← reached.eq_behind]
      exact ⟨inquires, same⟩
    · obtain ⟨role, roleFound, waited⟩ :=
        waited_history accounts playing history found (show Waited id _ 0 from ⟨rfl, rfl⟩) unclaimed
      rw [Nat.zero_add] at waited
      exact skips_of_waited behind called roleFound waited
  · intro place
    exact (behind.fit.progress place).versions_le

end

/-- Over either store, however it has come to hold its lessons, and for any calls side by side in any
order of their requests and with any answers of the generator, each lesson is generated at most once
as long as the store does not fail. -/
theorem lessons_generated_once [Seconds τ] (context : Run.Context τ) (patience : Nat)
    (calls : List Call) :
    (∀ (store : Memory) (moments : List (Moment τ Memory)) (last : Crowd τ Memory),
      Memory.conduct.Reaches {} store →
      Crowd.History Memory.conduct.neverFails (.opening context patience calls store) moments last →
      Memory.ledger.GeneratesOnce calls (.opening context patience calls store) moments last) ∧
    ∀ (tree : FileTree) (moments : List (Moment τ FileTree)) (last : Crowd τ FileTree),
      Files.conduct.Reaches {} tree →
      Crowd.History Files.conduct.neverFails (.opening context patience calls tree) moments last →
      Files.ledger.GeneratesOnce calls (.opening context patience calls tree) moments last :=
  ⟨fun _ _ _ reaches history =>
      generatesOnce_of_accounts Memory.accounts (Memory.inOrder_of_reaches reaches) history,
    fun _ _ _ reaches history =>
      generatesOnce_of_accounts Files.accounts (Files.inOrder_of_reaches reaches) history⟩

private def onlyLesson : Lesson where
  id := "a"
  title := "Fractions"
  topic := "Adding fractions"
  createdAt := .after 0
  updatedAt := .after 0

/-- A store in memory with one lesson. -/
private def oneLesson : Memory := Memory.put {} onlyLesson

/-- Two calls for that lesson, and one to work off the queue. -/
private def threeCalls : List Call := [.kickoff "a" none, .kickoff "a" none, .processQueue none]

/-- A generator that has nothing to say. -/
private def speechless (perform : σ → {β : Type} → Operation β → Except Failure β × σ) :
    Setting Int σ where
  perform
  reading := 0
  now := .after 1
  reply := .ok ""

private def speechlessMemory : Setting Int Memory :=
  speechless fun store _ operation => store.perform (.after 1) operation

private def speechlessFiles : Setting Int FileTree :=
  speechless fun tree _ operation =>
    let (answer, after, _) := Files.perform (.after 1) 0 tree operation
    (answer, after)

/-- Of two callers that have found the lesson in memory one claims it, and is answered until all
attempts have failed; the other one and the one at the queue come late. -/
private def raceInMemory : List (Moment Int Memory) :=
  speechlessMemory.play (.opening .threeAttempts 1 threeCalls oneLesson)
    ([0, 1, 0, 1, 2, 1] ++ List.replicate 18 0)

/-- Among files that hold no lesson all callers find none. -/
private def raceInFiles : List (Moment Int FileTree) :=
  speechlessFiles.play (.opening .threeAttempts 1 threeCalls {}) [0, 1, 2]

set_option maxRecDepth 10000 in
/-- A race for a lesson in memory that ends when its generation has failed, and one for a lesson that
no file holds. -/
theorem lessons_generated_once_race :
    (raceInMemory.getLast?.map fun moment => Memory.ledger.status? moment.crowd.store "a") =
        some (some .failed) ∧ raceInFiles.length = 3 ∧
      (∃ last, Memory.ledger.GeneratesOnce threeCalls
        (.opening Run.Context.threeAttempts 1 threeCalls oneLesson) raceInMemory last) ∧
      ∃ last, Files.ledger.GeneratesOnce threeCalls
        (.opening Run.Context.threeAttempts 1 threeCalls {}) raceInFiles last := by
  refine ⟨by decide +kernel, by decide +kernel, ?_, ?_⟩
  · have permits (store : Memory) {β : Type} (operation : Operation β) :
        Memory.conduct.permits store operation (speechlessMemory.perform store operation).1
          (speechlessMemory.perform store operation).2 := ⟨.after 1, rfl, rfl⟩
    have answered : raceInMemory.all (·.event.answer.isOk) = true := by decide +kernel
    have created : Memory.conduct.permits {} (.create onlyLesson) (.ok ()) oneLesson :=
      ⟨.after 0, rfl, rfl⟩
    obtain ⟨last, history⟩ := Setting.history_play permits
      (.opening .threeAttempts 1 threeCalls oneLesson) ([0, 1, 0, 1, 2, 1] ++ List.replicate 18 0)
    exact ⟨last, (lessons_generated_once .threeAttempts 1 threeCalls).1 oneLesson raceInMemory last
      (.step .refl created) (history.neverFails (List.all_eq_true.mp answered))⟩
  · have permits (tree : FileTree) {β : Type} (operation : Operation β) :
        Files.conduct.permits tree operation (speechlessFiles.perform tree operation).1
          (speechlessFiles.perform tree operation).2 := ⟨.after 1, 0, rfl, rfl⟩
    have answered : raceInFiles.all (·.event.answer.isOk) = true := by decide +kernel
    obtain ⟨last, history⟩ := Setting.history_play permits
      (.opening .threeAttempts 1 threeCalls {}) [0, 1, 2]
    exact ⟨last, (lessons_generated_once .threeAttempts 1 threeCalls).2 {} raceInFiles last
      .refl (history.neverFails (List.all_eq_true.mp answered))⟩

end Lectern
