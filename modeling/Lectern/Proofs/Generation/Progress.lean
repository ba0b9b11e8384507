/-
Module: Lectern.Proofs.Generation.Progress
Purpose: What becomes of each lesson while callers play their parts: it is left as it was, one
  caller works on it, or its last status is written. Every answer of a store moves at most one
  lesson on by one stage.
Trusted boundary: none
Main exports: Role.Informed, Effect, consequence_of_answered, Progress, Fit,
  Fit.step, Fit.opening, upheld_roles
-/
import Lectern.Proofs.Generation.Roles
import Lectern.Proofs.Store.Ledger

namespace Lectern

open Store

variable {τ σ κ : Type} {ledger : Ledger σ κ} {conduct : Conduct σ}

/-! ## What an answer does -/

namespace Role

/-- The lesson that a caller works on, and whether it has kept content for it. -/
def work? : Role κ → Option (κ × Bool)
  | .running place kept => some (place, kept)
  | _ => none

/-- What a caller has been told is so. -/
def Informed (ledger : Ledger σ κ) (store : σ) : Role κ → Prop
  | .looking id => ledger.status? store (ledger.place id) ≠ none
  | .passed id =>
    ledger.status? store (ledger.place id) ≠ none ∧
      ledger.status? store (ledger.place id) ≠ some .queued
  | .missing id => ledger.status? store (ledger.place id) = none
  | _ => True

end Role

/-- The lesson that is claimed by an answer. -/
def Request.claimed? {β : Type} : Request τ β → Except Failure β → Option String
  | .store (.claim id), .ok won => if won then some id else none
  | .store .claimNext, .ok found => found.map (·.id)
  | _, _ => none

/-- The last statuses of a lesson. -/
def Status.Last (status : Status) : Prop := status = .generated ∨ status = .failed

/-- What an answer does to a store and to the part of the caller who asked, with the place of the
lesson that it claims. -/
inductive Effect (ledger : Ledger σ κ) (before after : σ) (role next : Role κ) : Option κ → Prop where
  /-- Nothing happens to any lesson. -/
  | quiet (stays : ledger.Stays before after) (same : next.work? = role.work?) :
      Effect ledger before after role next none
  /-- The caller claims a lesson. -/
  | claimed (place : κ) (free : role.work? = none) (works : next.work? = some (place, false))
      (queued : ledger.status? before place = some .queued)
      (moves : ledger.Moves place .generating before after) :
      Effect ledger before after role next (some place)
  /-- The caller keeps content for the lesson that it works on. -/
  | kept (place : κ) (worked : role.work? = some (place, false))
      (works : next.work? = some (place, true)) (grows : ledger.Grows place before after) :
      Effect ledger before after role next none
  /-- The caller writes the last status of the lesson that it works on. -/
  | settled (place : κ) (kept : Bool) (status : Status) (worked : role.work? = some (place, kept))
      (free : next.work? = none) (last : status.Last)
      (moves : ledger.Moves place status before after) :
      Effect ledger before after role next none

/-- What comes of an answer: it is one to be reckoned with, it has one of few effects, and the caller
is told what is so. -/
structure Consequence (ledger : Ledger σ κ) (before after : σ) (role : Role κ) {β : Type}
    (request : Request τ β) (answer : Except Failure β) : Prop where
  expected : role.Expects ledger.place request answer
  effect : Effect ledger before after role (role.After ledger.place request answer)
    ((request.claimed? answer).map ledger.place)
  informed : (role.After ledger.place request answer).Informed ledger after

section

variable {before after : σ} {role : Role κ}

private theorem stays_refl {store : σ} (ordered : ledger.inOrder store) :
    ledger.Stays store store := ⟨ordered, fun _ => rfl, fun _ => rfl⟩

private theorem consequence_find (accounts : ledger.Accounts conduct) (ordered : ledger.inOrder before)
    (informed : role.Informed ledger before) {id : String}
    (allowed : role.Allows ledger.place (.store (.find id) : Request τ (Option Lesson)))
    {found : Option Lesson} (permitted : conduct.permits before (.find id) (.ok found) after) :
    Consequence ledger before after role (.store (.find id) : Request τ (Option Lesson)) (.ok found) := by
  obtain ⟨rfl, told, named⟩ := accounts.find ordered permitted
  cases role with
  | calling asked =>
      cases (show id = asked from allowed)
      cases found with
      | none => exact ⟨named, .quiet (stays_refl ordered) rfl, told⟩
      | some lesson =>
          refine ⟨named, .quiet (stays_refl ordered) rfl, ?_⟩
          change ledger.status? after (ledger.place id) ≠ none
          rw [told]
          exact nofun
  | passed asked =>
      cases (show id = asked from allowed)
      obtain ⟨there, apart⟩ := informed
      cases found with
      | none => exact absurd told there
      | some lesson =>
          refine ⟨⟨lesson, rfl, ?_⟩, .quiet (stays_refl ordered) rfl, trivial⟩
          intro queued
          rw [told, Option.map_some, queued] at apart
          exact apart rfl
  | _ => exact allowed.elim

private theorem consequence_claim (accounts : ledger.Accounts conduct) (ordered : ledger.inOrder before)
    (informed : role.Informed ledger before) {id : String}
    (allowed : role.Allows ledger.place (.store (.claim id) : Request τ Bool))
    {won : Bool} (permitted : conduct.permits before (.claim id) (.ok won) after) :
    Consequence ledger before after role (.store (.claim id) : Request τ Bool) (.ok won) := by
  cases role with
  | looking asked =>
      cases (show id = asked from allowed)
      cases won with
      | true =>
          obtain ⟨queued, moves⟩ := accounts.claimed ordered permitted
          exact ⟨trivial, .claimed (ledger.place id) rfl rfl queued moves, trivial⟩
      | false =>
          obtain ⟨apart, rfl⟩ := accounts.refused ordered permitted
          exact ⟨trivial, .quiet (stays_refl ordered) rfl, informed, apart⟩
  | _ => exact allowed.elim

private theorem consequence_claimNext (accounts : ledger.Accounts conduct)
    (ordered : ledger.inOrder before)
    (allowed : role.Allows ledger.place (.store .claimNext : Request τ (Option Lesson)))
    {found : Option Lesson} (permitted : conduct.permits before .claimNext (.ok found) after) :
    Consequence ledger before after role (.store .claimNext : Request τ (Option Lesson)) (.ok found) := by
  cases role with
  | idle =>
      cases found with
      | none =>
          obtain rfl := accounts.noneLeft ordered permitted
          exact ⟨trivial, .quiet (stays_refl ordered) rfl, trivial⟩
      | some lesson =>
          obtain ⟨queued, moves⟩ := accounts.claimedNext ordered permitted
          exact ⟨trivial, .claimed (ledger.place lesson.id) rfl rfl queued moves, trivial⟩
  | _ => exact allowed.elim

private theorem consequence_setStatus (accounts : ledger.Accounts conduct)
    (ordered : ledger.inOrder before) {id : String} {status : Status}
    (allowed : role.Allows ledger.place (.store (.setStatus id status) : Request τ Lesson))
    {lesson : Lesson} (permitted : conduct.permits before (.setStatus id status) (.ok lesson) after) :
    Consequence ledger before after role (.store (.setStatus id status) : Request τ Lesson)
      (.ok lesson) := by
  cases role with
  | running place kept =>
      obtain ⟨rfl, last⟩ := allowed
      have moves := accounts.setStatus ordered permitted
      exact ⟨trivial, .settled (ledger.place id) kept status rfl rfl last moves, trivial⟩
  | _ => exact allowed.elim

private theorem consequence_addContent (accounts : ledger.Accounts conduct)
    (ordered : ledger.inOrder before) {id source code digest : String}
    (allowed : role.Allows ledger.place
      (.store (.addContent id source code digest) : Request τ Content))
    {content : Content}
    (permitted : conduct.permits before (.addContent id source code digest) (.ok content) after) :
    Consequence ledger before after role
      (.store (.addContent id source code digest) : Request τ Content) (.ok content) := by
  cases role with
  | running place kept =>
      obtain ⟨rfl, rfl⟩ := allowed
      have grows := accounts.addContent ordered permitted
      exact ⟨trivial, .kept (ledger.place id) rfl rfl grows, trivial⟩
  | _ => exact allowed.elim

private theorem consequence_appendTrace (accounts : ledger.Accounts conduct)
    (ordered : ledger.inOrder before) {trace : Trace}
    (allowed : role.Allows ledger.place (.store (.appendTrace trace) : Request τ Unit))
    (permitted : conduct.permits before (.appendTrace trace) (.ok ()) after) :
    Consequence ledger before after role (.store (.appendTrace trace) : Request τ Unit) (.ok ()) := by
  cases role with
  | running place kept =>
      exact ⟨trivial, .quiet (accounts.appendTrace ordered permitted) rfl, trivial⟩
  | _ => exact allowed.elim

private theorem works_of_leavesStore {place : String → κ} {β : Type} {request : Request τ β}
    (leaves : request.LeavesStore) (allowed : role.Allows place request) :
    ∃ here kept, role = .running here kept := by
  cases role with
  | running here kept => exact ⟨here, kept, rfl⟩
  | _ =>
      cases request with
      | store operation => exact leaves.elim
      | _ => exact allowed.elim

/-- A caller who leaves the store alone is at work, and goes on with it. -/
private theorem consequence_outside (ordered : ledger.inOrder before) {β : Type}
    {request : Request τ β} (leaves : request.LeavesStore)
    (allowed : role.Allows ledger.place request) (answer : Except Failure β) :
    Consequence ledger before before role request answer := by
  obtain ⟨here, kept, rfl⟩ := works_of_leavesStore leaves allowed
  cases request with
  | store operation => exact leaves.elim
  | _ => exact ⟨trivial, .quiet (stays_refl ordered) rfl, trivial⟩

/-- What comes of an answer of the store, or of anybody else, to a caller who may ask. -/
theorem consequence_of_answered (accounts : ledger.Accounts conduct) (ordered : ledger.inOrder before)
    (informed : role.Informed ledger before) {β : Type} {request : Request τ β}
    (allowed : role.Allows ledger.place request) {answer : Except Failure β}
    (answered : request.Answered conduct.neverFails before answer after) :
    Consequence ledger before after role request answer := by
  have outside (leaves : request.LeavesStore) :
      Consequence ledger before after role request answer := by
    rw [answered.eq_of_leavesStore leaves]
    exact consequence_outside ordered leaves allowed answer
  cases request with
  | store operation =>
      obtain ⟨permitted, value, rfl⟩ := answered
      cases operation with
      | find id => exact consequence_find accounts ordered informed allowed permitted
      | claim id => exact consequence_claim accounts ordered informed allowed permitted
      | claimNext => exact consequence_claimNext accounts ordered allowed permitted
      | setStatus id status => exact consequence_setStatus accounts ordered allowed permitted
      | addContent id source code digest =>
          exact consequence_addContent accounts ordered allowed permitted
      | appendTrace trace => exact consequence_appendTrace accounts ordered allowed permitted
      | create lesson => cases role <;> exact allowed.elim
      | list limit => cases role <;> exact allowed.elim
      | latestContent id => cases role <;> exact allowed.elim
      | traces id => cases role <;> exact allowed.elim
  | _ => exact outside trivial

end

namespace Effect

variable {before after : σ} {role next : Role κ} {claimed? : Option κ}

theorem inOrder (effect : Effect ledger before after role next claimed?) : ledger.inOrder after := by
  cases effect with
  | quiet stays => exact stays.inOrder
  | claimed _ _ _ _ moves => exact moves.inOrder
  | kept _ _ _ grows => exact grows.inOrder
  | settled _ _ _ _ _ _ moves => exact moves.inOrder

/-- A lesson that is claimed was in the queue, and is then in generation. -/
theorem claims (effect : Effect ledger before after role next claimed?) {place : κ}
    (claimed : claimed? = some place) :
    ledger.status? before place = some .queued ∧ ledger.status? after place = some .generating := by
  cases effect with
  | claimed here _ _ queued moves =>
      cases claimed
      exact ⟨queued, moves.here⟩
  | _ => cases claimed

/-- A lesson that is claimed is worked on then. -/
theorem works_of_claimed (effect : Effect ledger before after role next claimed?) {place : κ}
    (claimed : claimed? = some place) : next.work? = some (place, false) := by
  cases effect with
  | claimed here _ works =>
      cases claimed
      exact works
  | _ => cases claimed

/-- A lesson that was worked on still is, or its last status is written. -/
theorem works_or_settled (effect : Effect ledger before after role next claimed?) {place : κ}
    {kept : Bool} (worked : role.work? = some (place, kept)) :
    (∃ kept, next.work? = some (place, kept)) ∨
      ∃ status : Status, status.Last ∧ ledger.status? after place = some status := by
  cases effect with
  | quiet _ same => exact Or.inl ⟨kept, same.trans worked⟩
  | claimed _ free =>
      rw [free] at worked
      cases worked
  | kept here before behind =>
      rw [before] at worked
      cases worked
      exact Or.inl ⟨true, behind⟩
  | settled here _ status before _ last moves =>
      rw [before] at worked
      cases worked
      exact Or.inr ⟨status, last, moves.here⟩

/-- Whoever works on a lesson has worked on it before, or claims it. -/
theorem claimed_of_work (effect : Effect ledger before after role next claimed?) {place : κ}
    {kept : Bool} (works : next.work? = some (place, kept)) :
    (∃ kept, role.work? = some (place, kept)) ∨ claimed? = some place := by
  cases effect with
  | quiet _ same => exact Or.inl ⟨kept, same ▸ works⟩
  | claimed here _ own =>
      rw [own] at works
      cases works
      exact Or.inr rfl
  | kept here worked own =>
      rw [own] at works
      cases works
      exact Or.inl ⟨false, worked⟩
  | settled _ _ _ _ free =>
      rw [free] at works
      cases works

end Effect

/-! ## Progress -/

/-- The lesson that some caller works on. -/
def workOf? (situations : List (Role κ)) (caller : Nat) : Option (κ × Bool) :=
  situations[caller]?.bind Role.work?

/-- How far a lesson has come since the callers have started. -/
inductive Progress (ledger : Ledger σ κ) (first store : σ) (situations : List (Role κ)) (place : κ) :
    Prop where
  /-- Nobody has done anything to it. -/
  | untouched (status : ledger.status? store place = ledger.status? first place)
      (versions : ledger.versions store place = ledger.versions first place)
      (free : ∀ caller kept, workOf? situations caller ≠ some (place, kept))
  /-- A caller has claimed it, and no other one works on it. -/
  | worked (caller : Nat) (kept : Bool) (queued : ledger.status? first place = some .queued)
      (status : ledger.status? store place = some .generating)
      (versions : ledger.versions store place = ledger.versions first place + kept.toNat)
      (alone : ∀ other flag, workOf? situations other = some (place, flag) ↔
        other = caller ∧ flag = kept)
  /-- Its last status is written, and nobody works on it. -/
  | settled (last : Status) (final : last.Last) (queued : ledger.status? first place = some .queued)
      (status : ledger.status? store place = some last)
      (versions : ledger.versions store place ≤ ledger.versions first place + 1)
      (free : ∀ caller kept, workOf? situations caller ≠ some (place, kept))

/-- A store and its callers since they have started. -/
structure Fit (ledger : Ledger σ κ) (first store : σ) (situations : List (Role κ)) : Prop where
  inOrder : ledger.inOrder store
  progress : ∀ place, Progress ledger first store situations place
  informed : ∀ (caller : Nat) (role : Role κ),
    situations[caller]? = some role → role.Informed ledger store

/-- A lesson goes through its statuses in order. -/
def Status.Follows (before after : Option Status) : Prop :=
  after = before ∨ (before = some .queued ∧ after = some .generating) ∨
    (before = some .generating ∧ ∃ last : Status, last.Last ∧ after = some last)

namespace Progress

variable {first before after : σ} {situations others : List (Role κ)} {place : κ}

/-- It depends on what is told of the lesson and on who works on it, on nothing else. -/
theorem congr (progress : Progress ledger first before situations place)
    (status : ledger.status? after place = ledger.status? before place)
    (versions : ledger.versions after place = ledger.versions before place)
    (work : ∀ caller kept, workOf? others caller = some (place, kept) ↔
      workOf? situations caller = some (place, kept)) :
    Progress ledger first after others place := by
  cases progress with
  | untouched told counted free =>
      refine .untouched (status.trans told) (versions.trans counted) ?_
      intro caller kept works
      exact free caller kept ((work caller kept).mp works)
  | worked caller kept queued told counted alone =>
      refine .worked caller kept queued (status.trans told) (versions.trans counted) ?_
      intro other flag
      rw [work]
      exact alone other flag
  | settled last final queued told counted free =>
      refine .settled last final queued (status.trans told) (versions ▸ counted) ?_
      intro caller kept works
      exact free caller kept ((work caller kept).mp works)

/-- The lesson that a caller works on is in generation; it has one more version of content if the
caller has kept one. -/
theorem of_work (progress : Progress ledger first before situations place) {caller : Nat} {kept : Bool}
    (works : workOf? situations caller = some (place, kept)) :
    ledger.status? first place = some .queued ∧
      ledger.status? before place = some .generating ∧
      ledger.versions before place = ledger.versions first place + kept.toNat ∧
      ∀ other flag, workOf? situations other = some (place, flag) ↔ other = caller ∧ flag = kept := by
  cases progress with
  | untouched _ _ free => exact absurd works (free caller kept)
  | settled _ _ _ _ _ free => exact absurd works (free caller kept)
  | worked worker flag queued told counted alone =>
      obtain ⟨rfl, rfl⟩ := (alone caller kept).mp works
      exact ⟨queued, told, counted, alone⟩

/-- A lesson in the queue is as it was. -/
theorem of_queued (progress : Progress ledger first before situations place)
    (queued : ledger.status? before place = some .queued) :
    ledger.status? first place = some .queued ∧
      ledger.versions before place = ledger.versions first place ∧
      ∀ caller kept, workOf? situations caller ≠ some (place, kept) := by
  cases progress with
  | untouched told counted free => exact ⟨told ▸ queued, counted, free⟩
  | worked _ _ _ told => rw [told] at queued; cases queued
  | settled last final _ told =>
      rw [told] at queued
      cases queued
      rcases final with impossible | impossible
      · cases impossible
      · cases impossible

/-- A lesson that was not in the queue keeps its status. -/
theorem of_not_queued (progress : Progress ledger first before situations place)
    (apart : ledger.status? first place ≠ some .queued) :
    ledger.status? before place = ledger.status? first place := by
  cases progress with
  | untouched status => exact status
  | worked _ _ queued => exact absurd queued apart
  | settled _ _ queued => exact absurd queued apart

/-- Where no lesson is, none was. -/
theorem of_none (progress : Progress ledger first before situations place)
    (absent : ledger.status? before place = none) : ledger.status? first place = none := by
  cases progress with
  | untouched status => exact status.symm.trans absent
  | worked _ _ _ status =>
      rw [status] at absent
      cases absent
  | settled _ _ _ status =>
      rw [status] at absent
      cases absent

/-- A lesson gains at most one version of content. -/
theorem versions_le (progress : Progress ledger first before situations place) :
    ledger.versions before place ≤ ledger.versions first place + 1 := by
  cases progress with
  | untouched _ versions => omega
  | worked _ kept _ _ versions => cases kept <;> simp at versions <;> omega
  | settled _ _ _ _ versions => exact versions

end Progress

theorem workOf?_follow {rules : Discipline τ (Role κ)} {situations : List (Role κ)} {event : Event τ}
    {role : Role κ} (found : situations[event.caller]? = some role) (caller : Nat) :
    workOf? (rules.follow situations event) caller =
      if event.caller = caller then (rules.after role event.request event.answer).work?
      else workOf? situations caller := by
  unfold workOf?
  rw [Discipline.getElem?_follow]
  split
  next same =>
    subst same
    rw [found]
    rfl
  next => rfl

/-! ## Steps -/

namespace Fit

variable {first before after : σ} {situations : List (Role κ)} {caller : Nat} {role next : Role κ}
  {claimed? : Option κ}

/-- Behind every effect each lesson has the status it had, or the one that follows it. -/
theorem follows (fit : Fit ledger first before situations) (found : situations[caller]? = some role)
    (effect : Effect ledger before after role next claimed?) (place : κ) :
    Status.Follows (ledger.status? before place) (ledger.status? after place) := by
  have works {here : κ} {kept : Bool} (worked : role.work? = some (here, kept)) :
      workOf? situations caller = some (here, kept) := by
    rw [workOf?, found, Option.bind_some, worked]
  cases effect with
  | quiet stays => exact Or.inl (stays.status place)
  | claimed here _ _ queued moves =>
      by_cases same : place = here
      · subst same
        exact Or.inr (Or.inl ⟨queued, moves.here⟩)
      · exact Or.inl (moves.elsewhere place same)
  | kept here _ _ grows => exact Or.inl (grows.status place)
  | settled here kept status worked _ last moves =>
      by_cases same : place = here
      · subst same
        obtain ⟨_, generating, _⟩ := (fit.progress place).of_work (works worked)
        exact Or.inr (Or.inr ⟨generating, status, last, moves.here⟩)
      · exact Or.inl (moves.elsewhere place same)

/-- What a caller has been told stays so. -/
theorem informed_of_follows {role : Role κ} (informed : role.Informed ledger before)
    (follows : ∀ place, Status.Follows (ledger.status? before place) (ledger.status? after place)) :
    role.Informed ledger after := by
  cases role with
  | looking id =>
      change ledger.status? after (ledger.place id) ≠ none
      rcases follows (ledger.place id) with same | ⟨_, new⟩ | ⟨_, last, _, new⟩
      · rw [same]
        exact informed
      · rw [new]
        exact nofun
      · rw [new]
        exact nofun
  | passed id =>
      change ledger.status? after (ledger.place id) ≠ none ∧
        ledger.status? after (ledger.place id) ≠ some .queued
      rcases follows (ledger.place id) with same | ⟨queued, _⟩ | ⟨_, last, final, new⟩
      · rw [same]
        exact informed
      · exact absurd queued informed.2
      · rw [new]
        refine ⟨nofun, ?_⟩
        rcases final with rfl | rfl
        · exact nofun
        · exact nofun
  | missing id =>
      change ledger.status? after (ledger.place id) = none
      have none : ledger.status? before (ledger.place id) = none := informed
      rcases follows (ledger.place id) with same | ⟨queued, _⟩ | ⟨generating, _⟩
      · rw [same]
        exact none
      · rw [none] at queued
        cases queued
      · rw [none] at generating
        cases generating
  | _ => trivial

/-- Whoever works on a lesson behind an effect: the caller who was answered as its part then is, and
all others as before. -/
private theorem progress_of_effect (fit : Fit ledger first before situations)
    (found : situations[caller]? = some role) (effect : Effect ledger before after role next claimed?)
    {others : List (Role κ)}
    (work : ∀ other, workOf? others other =
      if caller = other then next.work? else workOf? situations other) (place : κ) :
    Progress ledger first after others place := by
  have worksBefore : workOf? situations caller = role.work? := by
    rw [workOf?, found, Option.bind_some]
  have apart {other : Nat} (different : caller ≠ other) :
      workOf? others other = workOf? situations other := by
    rw [work, if_neg different]
  have self : workOf? others caller = next.work? := by
    rw [work, if_pos rfl]
  -- Lessons that neither part is about come no further.
  have elsewhere (notBefore : ∀ kept, role.work? ≠ some (place, kept))
      (notAfter : ∀ kept, next.work? ≠ some (place, kept))
      (status : ledger.status? after place = ledger.status? before place)
      (versions : ledger.versions after place = ledger.versions before place) :
      Progress ledger first after others place := by
    refine (fit.progress place).congr status versions ?_
    intro other kept
    by_cases same : caller = other
    · subst same
      rw [self, worksBefore]
      exact ⟨fun works => absurd works (notAfter kept), fun works => absurd works (notBefore kept)⟩
    · rw [apart same]
  cases effect with
  | quiet stays same =>
      refine (fit.progress place).congr (stays.status place) (stays.versions place) ?_
      intro other kept
      by_cases here : caller = other
      · subst here
        rw [self, worksBefore, same]
      · rw [apart here]
  | claimed here free works queued moves =>
      by_cases same : place = here
      · subst same
        obtain ⟨waited, counted, nobody⟩ := (fit.progress place).of_queued queued
        refine .worked caller false waited moves.here ((moves.versions place).trans counted) ?_
        intro other flag
        by_cases own : caller = other
        · subst own
          simp [self, works, eq_comm]
        · simp [apart own, nobody, Ne.symm own]
      · refine elsewhere ?_ ?_ (moves.elsewhere place same) (moves.versions place)
        · simp [free]
        · simp [works, Ne.symm same]
  | kept here worked works grows =>
      by_cases same : place = here
      · subst same
        obtain ⟨waited, generating, counted, alone⟩ :=
          (fit.progress place).of_work (worksBefore.trans worked)
        refine .worked caller true waited ((grows.status place).trans generating) ?_ ?_
        · rw [grows.here, counted]
          rfl
        · intro other flag
          by_cases own : caller = other
          · subst own
            simp [self, works, eq_comm]
          · simp [apart own, alone, Ne.symm own]
      · refine elsewhere ?_ ?_ (grows.status place) (grows.elsewhere place same)
        · simp [worked, Ne.symm same]
        · simp [works, Ne.symm same]
  | settled here kept status worked free last moves =>
      by_cases same : place = here
      · subst same
        obtain ⟨waited, generating, counted, alone⟩ :=
          (fit.progress place).of_work (worksBefore.trans worked)
        refine .settled status last waited moves.here ?_ ?_
        · rw [moves.versions, counted]
          cases kept with
          | false => exact Nat.le_add_right _ 1
          | true => exact Nat.le_refl _
        · intro other flag
          by_cases own : caller = other
          · subst own
            simp [self, free]
          · simp [apart own, alone, Ne.symm own]
      · refine elsewhere ?_ ?_ (moves.elsewhere place same) (moves.versions place)
        · simp [worked, Ne.symm same]
        · simp [free]

theorem consequence (fit : Fit ledger first before situations) (accounts : ledger.Accounts conduct)
    (found : situations[caller]? = some role) {β : Type} {request : Request τ β}
    (allowed : role.Allows ledger.place request) {answer : Except Failure β}
    (answered : request.Answered conduct.neverFails before answer after) :
    Consequence ledger before after role request answer :=
  consequence_of_answered accounts fit.inOrder (fit.informed caller role found) allowed answered

/-- The callers go on to fit behind an answer. -/
theorem step (fit : Fit ledger first before situations) (found : situations[caller]? = some role)
    {β : Type} {request : Request τ β} {answer : Except Failure β}
    (consequence : Consequence ledger before after role request answer) :
    Fit ledger first after
      ((roles τ ledger.place).follow situations ⟨caller, request, answer⟩) where
  inOrder := consequence.effect.inOrder
  progress := fit.progress_of_effect found consequence.effect (workOf?_follow found)
  informed other otherRole otherFound := by
    rw [Discipline.getElem?_follow] at otherFound
    split at otherFound
    next same =>
      obtain rfl : caller = other := same
      rw [found] at otherFound
      cases otherFound
      exact consequence.informed
    next =>
      exact informed_of_follows (fit.informed other otherRole otherFound)
        (fit.follows found consequence.effect)

end Fit

/-- Callers that play their parts go on to fit to the store. -/
theorem upheld_roles (accounts : ledger.Accounts conduct) (first : σ) :
    (roles τ ledger.place).Upheld conduct.neverFails (Fit ledger first) := by
  intro before situations caller role β request answer after fit found allowed answered
  have consequence := fit.consequence accounts found allowed answered
  exact ⟨consequence.expected, fit.step found consequence⟩

/-- Nobody works on a lesson when all calls have just been made. -/
theorem workOf?_opening (calls : List Call) (caller : Nat) (work : κ × Bool) :
    workOf? (calls.map Call.role) caller ≠ some work := by
  unfold workOf?
  rw [List.getElem?_map]
  cases calls[caller]? with
  | none => exact nofun
  | some call => cases call <;> exact nofun

/-- When all calls have just been made, nothing has been done to any lesson. -/
theorem Fit.opening {store : σ} (ordered : ledger.inOrder store) (calls : List Call) :
    Fit ledger store store (calls.map Call.role) where
  inOrder := ordered
  progress place := .untouched rfl rfl fun caller kept => workOf?_opening calls caller (place, kept)
  informed caller role found := by
    rw [List.getElem?_map] at found
    obtain ⟨call, _, rfl⟩ := Option.map_eq_some_iff.mp found
    cases call <;> trivial

end Lectern
