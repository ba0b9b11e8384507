/-
Module: Lectern.Proofs.Program.Crowd
Purpose: Callers that generate lessons side by side over one store. Each step answers the request of
  one caller, so a history is an interleaving of the callers, one request at a time. A single program
  is carried out from its start to its end over a store that others may change in between, with all
  that the program writes into the store, in order.
Trusted boundary: none
Main exports: Call, Crowd, Crowd.Step, Crowd.History, Discipline.Upheld, Crowd.History.keeps, Write,
  Request.write?, Request.Reliable, Course, Discipline.logging, Course.keeps
-/
import Lectern.Generation.Run
import Lectern.Proofs.Program.Discipline
import Lectern.Proofs.Store.Conduct

namespace Lectern

/-- A call for lessons to be generated. -/
inductive Call where
  | kickoff (lessonId : String) (pedagogy : Option Pedagogy)
  | processNext
  | processQueue (most : Option Nat)

variable {τ σ : Type}

/-- What a call does, with the reports that it gives. A queue that is worked off without a bound
takes turns for as long as anybody looks; `patience` is the number of turns for which one does. -/
def Call.program [Seconds τ] (context : Run.Context τ) (patience : Nat) : Call → Program τ (List Report)
  | .kickoff lessonId pedagogy => do return [← Run.kickoff context lessonId pedagogy]
  | .processNext => do return (← Run.processNext context).toList
  | .processQueue most => Run.processQueue context (most.getD patience)

/-- A request of a caller and its answer. -/
structure Event (τ : Type) where
  caller : Nat
  {β : Type}
  request : Request τ β
  answer : Except Failure β

/-- The lesson that content is kept for. -/
def Request.kept? {β : Type} : Request τ β → Except Failure β → Option String
  | .store operation, answer => operation.kept? answer
  | _, _ => none

/-- The lesson that an event keeps content for. -/
def Event.kept? (event : Event τ) : Option String := event.request.kept? event.answer

/-- Requests to the store are answered as the store behaves; any answer may come to the others, and
none of them changes the store. -/
def Request.Answered {β : Type} (conduct : Store.Conduct σ) (before : σ) (request : Request τ β)
    (answer : Except Failure β) (after : σ) : Prop :=
  match request with
  | .store operation => conduct.permits before operation answer after
  | _ => after = before

/-- Who is not asked does not change. -/
theorem Request.Answered.eq_of_leavesStore {conduct : Store.Conduct σ} {before after : σ} {β : Type}
    {request : Request τ β} {answer : Except Failure β}
    (answered : request.Answered conduct before answer after) (leaves : request.LeavesStore) :
    after = before := by
  cases request with
  | store operation => exact leaves.elim
  | _ => exact answered

/-- Callers and the store they share. -/
structure Crowd (τ σ : Type) where
  store : σ
  programs : List (Program τ (List Report))

/-- An event and the crowd that it leaves. -/
structure Moment (τ σ : Type) where
  event : Event τ
  crowd : Crowd τ σ

namespace Crowd

/-- Calls that have just been made. -/
def opening [Seconds τ] (context : Run.Context τ) (patience : Nat) (calls : List Call) (store : σ) :
    Crowd τ σ where
  store
  programs := calls.map (Call.program context patience)

/-- One caller is answered and goes on. -/
inductive Step (conduct : Store.Conduct σ) :
    Crowd τ σ → Event τ → Crowd τ σ → Prop where
  | answer {crowd : Crowd τ σ} {caller : Nat} {β : Type} {request : Request τ β}
      {next : Except Failure β → Program τ (List Report)} {answer : Except Failure β} {after : σ}
      (waits : crowd.programs[caller]? = some (.ask request next))
      (answered : request.Answered conduct crowd.store answer after) :
      Step conduct crowd ⟨caller, request, answer⟩
        ⟨after, crowd.programs.set caller (next answer)⟩

/-- Steps one after the other, with all that lies between them. -/
inductive History (conduct : Store.Conduct σ) :
    Crowd τ σ → List (Moment τ σ) → Crowd τ σ → Prop where
  | refl (crowd : Crowd τ σ) : History conduct crowd [] crowd
  | step {first next last : Crowd τ σ} {event : Event τ} {moments : List (Moment τ σ)}
      (head : Step conduct first event next) (tail : History conduct next moments last) :
      History conduct first (⟨event, next⟩ :: moments) last

/-- The crowd behind some moments. -/
def behind (crowd : Crowd τ σ) (moments : List (Moment τ σ)) : Crowd τ σ :=
  (moments.getLast?.map (·.crowd)).getD crowd

@[simp]
theorem behind_cons (crowd : Crowd τ σ) (moment : Moment τ σ) (moments : List (Moment τ σ)) :
    crowd.behind (moment :: moments) = moment.crowd.behind moments := by
  cases moments with
  | nil => rfl
  | cons second moments =>
      simp [behind, List.getLast?_eq_some_getLast (List.cons_ne_nil second moments)]

theorem behind_append (crowd : Crowd τ σ) (first second : List (Moment τ σ)) :
    crowd.behind (first ++ second) = (crowd.behind first).behind second := by
  induction first generalizing crowd with
  | nil => rfl
  | cons moment first inductionHypothesis =>
      rw [List.cons_append, behind_cons, behind_cons, inductionHypothesis]

theorem Step.answered {conduct : Store.Conduct σ} {crowd next : Crowd τ σ} {event : Event τ}
    (step : Step conduct crowd event next) :
    event.request.Answered conduct crowd.store event.answer next.store := by
  cases step with
  | answer waits answered => exact answered

namespace History

variable {conduct : Store.Conduct σ} {first middle last : Crowd τ σ}

/-- A history leaves the crowd of its last moment. -/
theorem eq_behind {moments : List (Moment τ σ)} (history : History conduct first moments last) :
    last = first.behind moments := by
  induction history with
  | refl => rfl
  | step head tail inductionHypothesis => rw [inductionHypothesis, behind_cons]

/-- What is left of a history behind some of its moments is a history, and so is what came
before. -/
theorem split {before behind : List (Moment τ σ)} {moment : Moment τ σ}
    (history : History conduct first (before ++ moment :: behind) last) :
    ∃ middle, History conduct first before middle ∧
      Step conduct middle moment.event moment.crowd ∧
      History conduct moment.crowd behind last := by
  induction before generalizing first with
  | nil =>
      cases history with
      | step head tail => exact ⟨first, .refl first, head, tail⟩
  | cons earlier before inductionHypothesis =>
      cases history with
      | step head tail =>
          obtain ⟨middle, reached, step, rest⟩ := inductionHypothesis tail
          exact ⟨middle, .step head reached, step, rest⟩

theorem trans {left right : List (Moment τ σ)}
    (one : History conduct first left middle) (two : History conduct middle right last) :
    History conduct first (left ++ right) last := by
  induction one with
  | refl => exact two
  | step head tail inductionHypothesis => exact .step head (inductionHypothesis two)

/-- A history in which all is answered is one in which no call fails. -/
theorem neverFails {moments : List (Moment τ σ)} (history : History conduct first moments last)
    (answered : ∀ moment ∈ moments, moment.event.answer.isOk = true) :
    History conduct.neverFails first moments last := by
  induction history with
  | refl crowd => exact .refl crowd
  | step head tail inductionHypothesis =>
      refine .step ?_ (inductionHypothesis fun moment member =>
        answered moment (List.mem_cons_of_mem _ member))
      have fine := answered _ List.mem_cons_self
      cases head with
      | @answer caller β request next answer after waits permitted =>
          refine .answer waits ?_
          cases request with
          | store operation =>
              cases answer with
              | ok value => exact ⟨permitted, value, rfl⟩
              | error failure => cases fine
          | _ => exact permitted

end History

end Crowd

/-! ## Histories that are carried out -/

/-- What callers are answered: by the store, with one reading of the clock, one moment, one reply of
the generator and one identifier. -/
structure Setting (τ σ : Type) where
  perform : σ → {β : Type} → Store.Operation β → Except Failure β × σ
  reading : τ
  now : Timestamp
  reply : Except Failure String
  fresh : String := ""

namespace Setting

/-- The answer to a request, and the store behind it. -/
def answer (setting : Setting τ σ) (store : σ) {β : Type} : Request τ β → Except Failure β × σ
  | .store operation => setting.perform store operation
  | .clock => (.ok setting.reading, store)
  | .moment => (.ok setting.now, store)
  | .sleep _ => (.ok (), store)
  | .generate _ _ => (setting.reply, store)
  | .freshId => (.ok setting.fresh, store)

/-- Answer some callers, one after the other; whoever waits for nothing is passed over. -/
def play (setting : Setting τ σ) (crowd : Crowd τ σ) : List Nat → List (Moment τ σ)
  | [] => []
  | caller :: callers =>
    match crowd.programs[caller]? with
    | some (.ask request next) =>
      let answered := setting.answer crowd.store request
      let after : Crowd τ σ := ⟨answered.2, crowd.programs.set caller (next answered.1)⟩
      ⟨⟨caller, request, answered.1⟩, after⟩ :: setting.play after callers
    | _ => setting.play crowd callers

/-- What is carried out for some callers and then for others is carried out for all of them. -/
theorem play_append (setting : Setting τ σ) (crowd : Crowd τ σ) (first second : List Nat) :
    setting.play crowd (first ++ second) =
      setting.play crowd first ++ setting.play (crowd.behind (setting.play crowd first)) second := by
  induction first generalizing crowd with
  | nil => rfl
  | cons caller first inductionHypothesis =>
      rw [List.cons_append, play, play]
      split
      next => simp only [List.cons_append, Crowd.behind_cons, inductionHypothesis]
      next => exact inductionHypothesis crowd

/-- A caller that waits for an answer is given it and goes on. -/
theorem behind_step {setting : Setting τ σ} {store after : σ}
    {programs : List (Program τ (List Report))} {caller : Nat} {callers : List Nat} {β : Type}
    {request : Request τ β} {next : Except Failure β → Program τ (List Report)}
    {answer : Except Failure β} (inside : caller < programs.length)
    (answered : setting.answer store request = (answer, after)) :
    Crowd.behind ⟨store, programs.set caller (.ask request next)⟩
        (setting.play ⟨store, programs.set caller (.ask request next)⟩ (caller :: callers)) =
      Crowd.behind ⟨after, programs.set caller (next answer)⟩
        (setting.play ⟨after, programs.set caller (next answer)⟩ callers) := by
  rw [play, List.getElem?_set_self inside]
  simp only [Crowd.behind_cons, answered, List.set_set]

/-- What is carried out is a history of any store that may answer so. -/
theorem history_play {setting : Setting τ σ} {conduct : Store.Conduct σ}
    (permits : ∀ (store : σ) {β : Type} (operation : Store.Operation β),
      conduct.permits store operation (setting.perform store operation).1
        (setting.perform store operation).2)
    (crowd : Crowd τ σ) (callers : List Nat) :
    ∃ last, Crowd.History conduct crowd (setting.play crowd callers) last := by
  induction callers generalizing crowd with
  | nil => exact ⟨crowd, .refl crowd⟩
  | cons caller callers inductionHypothesis =>
      unfold play
      split
      next β request next waits =>
        obtain ⟨last, tail⟩ := inductionHypothesis
          ⟨(setting.answer crowd.store request).2,
            crowd.programs.set caller (next (setting.answer crowd.store request).1)⟩
        refine ⟨last, .step (.answer waits ?_) tail⟩
        cases request with
        | store operation => exact permits crowd.store operation
        | _ => rfl
      next => exact inductionHypothesis crowd

/-- What is carried out leads to the crowd behind it. -/
theorem history_behind {setting : Setting τ σ} {conduct : Store.Conduct σ}
    (permits : ∀ (store : σ) {β : Type} (operation : Store.Operation β),
      conduct.permits store operation (setting.perform store operation).1
        (setting.perform store operation).2)
    (crowd : Crowd τ σ) (callers : List Nat) :
    Crowd.History conduct crowd (setting.play crowd callers)
      (crowd.behind (setting.play crowd callers)) := by
  obtain ⟨last, history⟩ := history_play permits crowd callers
  rwa [← history.eq_behind]

/-- Over stores that go together and are answered alike, the same is asked for and answered, and the
callers are left alike. -/
theorem play_alike {ρ : Type} {one : Setting τ σ} {other : Setting τ ρ} {together : σ → ρ → Prop}
    (answers : ∀ {store : σ} {second : ρ}, together store second →
      ∀ {β : Type} (request : Request τ β),
        (one.answer store request).1 = (other.answer second request).1 ∧
          together (one.answer store request).2 (other.answer second request).2)
    {store : σ} {second : ρ} (start : together store second)
    (programs : List (Program τ (List Report))) (callers : List Nat) :
    (one.play ⟨store, programs⟩ callers).map (·.event) =
        (other.play ⟨second, programs⟩ callers).map (·.event) ∧
      (Crowd.behind ⟨store, programs⟩ (one.play ⟨store, programs⟩ callers)).programs =
        (Crowd.behind ⟨second, programs⟩ (other.play ⟨second, programs⟩ callers)).programs := by
  induction callers generalizing store second programs with
  | nil => exact ⟨rfl, rfl⟩
  | cons caller callers inductionHypothesis =>
      unfold play
      cases waiting : programs[caller]? with
      | none => exact inductionHypothesis start programs
      | some program =>
          cases program with
          | ask request next =>
              obtain ⟨same, stay⟩ := answers start request
              obtain ⟨events, left⟩ := inductionHypothesis stay
                (programs.set caller (next (other.answer second request).1))
              simp only [List.map_cons, Crowd.behind_cons, same]
              exact ⟨congrArg _ events, left⟩
          | done value => exact inductionHypothesis start programs
          | failed failure => exact inductionHypothesis start programs

end Setting

/-- Whole seconds. -/
instance : Seconds Int where
  zero := 0
  add := (· + ·)
  sub := (· - ·)
  isLess a b := a < b
  isLeft a := 0 < a
  written places value :=
    let zeros := String.ofList (List.replicate places '0')
    toString value ++ if places = 0 then "" else "." ++ zeros

/-- Three attempts in whole seconds. -/
def Run.Context.threeAttempts : Run.Context Int where
  pace := { attempts := 3, limit := 600, attemptLimit := 60, backoff := fun _ => .ok 1 }
  model := none

/-! ## Callers that keep a discipline -/

namespace Discipline

variable {S : Type}

/-- The situations of all callers behind an event: only that of its caller is another. -/
def follow (rules : Discipline τ S) (situations : List S) (event : Event τ) : List S :=
  situations.modify event.caller fun situation =>
    rules.after situation event.request event.answer

/-- The situations of all callers behind some moments. -/
def followAll (rules : Discipline τ S) (situations : List S) (moments : List (Moment τ σ)) :
    List S :=
  moments.foldl (fun situations moment => rules.follow situations moment.event) situations

/-- Each caller keeps the rules from its situation on. -/
structure Fits (rules : Discipline τ S) (posts : Nat → S → Except Failure (List Report) → Prop)
    (programs : List (Program τ (List Report))) (situations : List S) : Prop where
  together : programs.length = situations.length
  keeps : ∀ {caller : Nat} {program : Program τ (List Report)} {situation : S},
    programs[caller]? = some program → situations[caller]? = some situation →
    program.Keeps rules (posts caller) situation

/-- A store and the situations of its callers fit, and go on to fit: as long as all that is asked
for is allowed, every answer of the store is one to be reckoned with. -/
def Upheld (rules : Discipline τ S) (conduct : Store.Conduct σ) (fit : σ → List S → Prop) : Prop :=
  ∀ {before : σ} {situations : List S} {caller : Nat} {situation : S} {β : Type}
    {request : Request τ β} {answer : Except Failure β} {after : σ},
    fit before situations → situations[caller]? = some situation →
    rules.allows situation request → request.Answered conduct before answer after →
    rules.expects situation request answer ∧
      fit after (rules.follow situations ⟨caller, request, answer⟩)

variable {rules : Discipline τ S} {posts : Nat → S → Except Failure (List Report) → Prop}
  {conduct : Store.Conduct σ} {fit : σ → List S → Prop}

@[simp]
theorem length_follow (situations : List S) (event : Event τ) :
    (rules.follow situations event).length = situations.length := by
  simp [follow]

theorem getElem?_follow (situations : List S) (event : Event τ) (caller : Nat) :
    (rules.follow situations event)[caller]? =
      if event.caller = caller then
        situations[caller]?.map fun situation => rules.after situation event.request event.answer
      else situations[caller]? := by
  simp only [follow, List.getElem?_modify]
  split
  · rfl
  · cases situations[caller]? <;> rfl

@[simp]
theorem followAll_cons (situations : List S) (moment : Moment τ σ) (moments : List (Moment τ σ)) :
    rules.followAll situations (moment :: moments) =
      rules.followAll (rules.follow situations moment.event) moments := rfl

@[simp]
theorem length_followAll (situations : List S) (moments : List (Moment τ σ)) :
    (rules.followAll situations moments).length = situations.length := by
  induction moments generalizing situations with
  | nil => rfl
  | cons moment moments inductionHypothesis => simp [inductionHypothesis]

/-- Calls that keep the rules fit, each from the situation that it starts in. -/
theorem Fits.opening [Seconds τ] {context : Run.Context τ} {patience : Nat} {calls : List Call}
    {store : σ} {start : Call → S}
    (keeps : ∀ (caller : Nat) (call : Call), calls[caller]? = some call →
      (call.program context patience).Keeps rules (posts caller) (start call)) :
    rules.Fits posts (Crowd.opening context patience calls store).programs (calls.map start) := by
  constructor
  · simp [Crowd.opening]
  · intro caller program situation programFound situationFound
    obtain ⟨call, found, rfl⟩ : ∃ call, calls[caller]? = some call ∧
        call.program context patience = program := by
      simpa [Crowd.opening] using programFound
    have same : start call = situation := by simpa [found] using situationFound
    subst same
    exact keeps caller call found

/-- Whoever is answered was allowed to ask, and if the answer was one to be reckoned with, all go on to
keep the rules. -/
theorem Fits.step_of {crowd next : Crowd τ σ} {situations : List S} {event : Event τ}
    (fits : rules.Fits posts crowd.programs situations) (step : Crowd.Step conduct crowd event next)
    (reckoned : ∀ situation, situations[event.caller]? = some situation →
      rules.allows situation event.request → rules.expects situation event.request event.answer) :
    (∃ situation, situations[event.caller]? = some situation ∧
      rules.allows situation event.request) ∧
    rules.Fits posts next.programs (rules.follow situations event) := by
  cases step with
  | @answer caller β request go answer after waits answered =>
      have inside : caller < situations.length := by
        rw [← fits.together]
        exact (List.getElem?_eq_some_iff.mp waits).1
      obtain ⟨situation, found⟩ : ∃ situation, situations[caller]? = some situation :=
        ⟨situations[caller], List.getElem?_eq_getElem inside⟩
      have keeps := fits.keeps waits found
      have expected := reckoned situation found keeps.1
      refine ⟨⟨situation, found, keeps.1⟩, ?_, ?_⟩
      · simp [fits.together]
      · intro other program role programFound roleFound
        rw [getElem?_follow] at roleFound
        by_cases same : caller = other
        · subst other
          have programEq : go answer = program := by
            simpa [List.getElem?_set_self (List.getElem?_eq_some_iff.mp waits).1] using programFound
          have roleEq : rules.after situation request answer = role := by
            simpa [found] using roleFound
          subst programEq roleEq
          exact keeps.2 answer expected
        · rw [List.getElem?_set_ne same] at programFound
          rw [if_neg same] at roleFound
          exact fits.keeps programFound roleFound

/-- Whoever is answered was allowed to ask, and all go on to keep the rules. -/
theorem Fits.step {crowd next : Crowd τ σ} {situations : List S} {event : Event τ}
    (fits : rules.Fits posts crowd.programs situations) (upheld : rules.Upheld conduct fit)
    (held : fit crowd.store situations) (step : Crowd.Step conduct crowd event next) :
    (∃ situation, situations[event.caller]? = some situation ∧
      rules.allows situation event.request ∧ rules.expects situation event.request event.answer) ∧
    rules.Fits posts next.programs (rules.follow situations event) ∧
      fit next.store (rules.follow situations event) := by
  have holds {situation : S} (found : situations[event.caller]? = some situation)
      (allowed : rules.allows situation event.request) :
      rules.expects situation event.request event.answer ∧
        fit next.store (rules.follow situations event) := by
    cases step with
    | answer waits answered => exact upheld held found allowed answered
  obtain ⟨⟨situation, found, allowed⟩, nextFits⟩ :=
    fits.step_of step fun _ found allowed => (holds found allowed).1
  obtain ⟨expected, nextHeld⟩ := holds found allowed
  exact ⟨⟨situation, found, allowed, expected⟩, nextFits, nextHeld⟩

end Discipline

namespace Crowd.History

variable {S : Type} {rules : Discipline τ S}
  {posts : Nat → S → Except Failure (List Report) → Prop}
  {conduct : Store.Conduct σ} {fit : σ → List S → Prop}

/-- In every history of callers that keep the rules, they go on to keep them. -/
theorem keeps {first last : Crowd τ σ} {moments : List (Moment τ σ)} {situations : List S}
    (history : History conduct first moments last)
    (fits : rules.Fits posts first.programs situations) (upheld : rules.Upheld conduct fit)
    (held : fit first.store situations) :
    rules.Fits posts last.programs (rules.followAll situations moments) ∧
      fit last.store (rules.followAll situations moments) := by
  induction history generalizing situations with
  | refl => exact ⟨fits, held⟩
  | step head tail inductionHypothesis =>
      obtain ⟨_, nextFits, nextHeld⟩ := fits.step upheld held head
      exact inductionHypothesis nextFits nextHeld

/-- In every history of callers that keep the rules, all that is asked for is allowed, and every
answer is one that was to be reckoned with. -/
theorem allowed {first last : Crowd τ σ} {before behind : List (Moment τ σ)}
    {moment : Moment τ σ} {situations : List S}
    (history : History conduct first (before ++ moment :: behind) last)
    (fits : rules.Fits posts first.programs situations) (upheld : rules.Upheld conduct fit)
    (held : fit first.store situations) :
    ∃ situation, (rules.followAll situations before)[moment.event.caller]? = some situation ∧
      rules.allows situation moment.event.request ∧
      rules.expects situation moment.event.request moment.event.answer := by
  obtain ⟨middle, reached, step, _⟩ := history.split
  obtain ⟨middleFits, middleHeld⟩ := reached.keeps fits upheld held
  exact (middleFits.step upheld middleHeld step).1

end Crowd.History

end Lectern

namespace Lectern

variable {τ σ α : Type}

/-! ## What is written -/

/-- What a program writes into a store. -/
inductive Write where
  | trace (trace : Trace)
  | content (id : String) (content : Content)
  | status (id : String) (status : Status)
  /-- A lesson is kept or claimed. -/
  | lesson

namespace Write

/-- The trace that is written. -/
def trace? : Write → Option Trace
  | .trace kept => some kept
  | _ => none

/-- The version of content that is written. -/
def content? : Write → Option Content
  | .content _ kept => some kept
  | _ => none

/-- The status that is written. -/
def status? : Write → Option Status
  | .status _ kept => some kept
  | _ => none

end Write

namespace Request

/-- What a request wrote that has been answered. Only requests that succeed write, and reading writes
nothing. -/
def write? {β : Type} : Request τ β → Except Failure β → Option Write
  | .store (.appendTrace trace), .ok _ => some (.trace trace)
  | .store (.addContent id _ _ _), .ok content => some (.content id content)
  | .store (.setStatus id status), .ok _ => some (.status id status)
  | .store (.create _), .ok _ => some .lesson
  | .store (.claim _), .ok _ => some .lesson
  | .store .claimNext, .ok _ => some .lesson
  | _, _ => none

/-- The store and the clock answer. The generator may fail, and so may waiting. -/
def Reliable {β : Type} : Request τ β → Except Failure β → Prop
  | .generate _ _, _ => True
  | .sleep _, _ => True
  | _, answer => ∃ value, answer = .ok value

theorem write?_of_leavesStore {β : Type} {request : Request τ β} (leaves : request.LeavesStore)
    (answer : Except Failure β) : request.write? answer = none := by
  cases request with
  | store operation => exact leaves.elim
  | _ => rfl

end Request

/-! ## Programs from start to end -/

/-- A program is carried out over a store, with what it writes, the store it leaves and its result.
No call of the store fails; between its requests `meanwhile` may happen. -/
inductive Course (conduct : Store.Conduct σ) (meanwhile : σ → σ → Prop) :
    σ → Program τ α → List Write → σ → Except Failure α → Prop where
  | done (store : σ) (value : α) : Course conduct meanwhile store (.done value) [] store (.ok value)
  | failed (store : σ) (failure : Failure) :
      Course conduct meanwhile store (.failed failure) [] store (.error failure)
  | others {before after last : σ} {program : Program τ α} {writes : List Write}
      {result : Except Failure α} (happens : meanwhile before after)
      (rest : Course conduct meanwhile after program writes last result) :
      Course conduct meanwhile before program writes last result
  | ask {before after last : σ} {β : Type} {request : Request τ β}
      {next : Except Failure β → Program τ α} {answer : Except Failure β} {writes : List Write}
      {result : Except Failure α} (answered : request.Answered conduct before answer after)
      (reliable : request.Reliable answer)
      (rest : Course conduct meanwhile after (next answer) writes last result) :
      Course conduct meanwhile before (.ask request next) ((request.write? answer).toList ++ writes)
        last result

/-- Rules for a program by what it has written so far. -/
def Discipline.logging (allows : {β : Type} → Request τ β → Prop) : Discipline τ (List Write) where
  allows _ _ request := allows request
  expects _ _ request answer := request.Reliable answer
  after writes _ request answer := writes ++ (request.write? answer).toList

/-- A program that keeps such rules ends as it should behind all that it has written. A store that
goes with what was written before goes with it then, if every allowed request and all that happens
in between keep it so. -/
theorem Course.keeps {conduct : Store.Conduct σ} {meanwhile : σ → σ → Prop}
    {allows : {β : Type} → Request τ β → Prop} {post : List Write → Except Failure α → Prop}
    (fit : σ → List Write → Prop)
    (upheld : ∀ {before after : σ} {written : List Write} {β : Type} {request : Request τ β}
      {answer : Except Failure β}, fit before written → allows request →
      request.Answered conduct before answer after → request.Reliable answer →
      fit after (written ++ (request.write? answer).toList))
    (undisturbed : ∀ {before after : σ} {written : List Write},
      fit before written → meanwhile before after → fit after written)
    {first last : σ} {program : Program τ α} {writes written : List Write}
    {result : Except Failure α} (course : Course conduct meanwhile first program writes last result)
    (keeps : program.Keeps (.logging allows) post written) (held : fit first written) :
    post (written ++ writes) result ∧ fit last (written ++ writes) := by
  -- Along the course the rules start anew behind what has been written so far.
  induction course generalizing written with
  | done store value =>
      rw [List.append_nil]
      exact ⟨keeps, held⟩
  | failed store failure =>
      rw [List.append_nil]
      exact ⟨keeps, held⟩
  | others happens rest inductionHypothesis =>
      exact inductionHypothesis keeps (undisturbed held happens)
  | ask answered reliable rest inductionHypothesis =>
      rw [← List.append_assoc]
      exact inductionHypothesis (keeps.2 _ reliable) (upheld held keeps.1 answered reliable)

end Lectern
