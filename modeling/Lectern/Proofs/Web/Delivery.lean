/-
Module: Lectern.Proofs.Web.Delivery
Purpose: What becomes of a bundle: whoever follows it, through the store or through the server, gets
  the module that it means, and can mount it, until another version of the content is kept.
Trusted boundary: none
Main exports: Rehearsal.run_bind, Rehearsal.newestModule?, Delivers, bundled_module_delivered
-/
import Lectern.Proofs.Generation.SoundReply
import Lectern.Proofs.Lesson.Errands
import Lectern.Proofs.Sandbox.Loading
import Lectern.Proofs.Text.Trimming
import Lectern.Web.Api

namespace Lectern

open Store

/-! ## Programs that are rehearsed -/

namespace Rehearsal

variable {α β : Type} {rehearsal behind : Rehearsal}

/-- One program after another: the second goes on from what the first leaves. -/
theorem run_bind (rehearsal : Rehearsal) (program : Program Float α) (next : α → Program Float β) :
    rehearsal.run (program >>= next) =
      match rehearsal.run program with
      | (.ok value, behind) => behind.run (next value)
      | (.error failure, behind) => (.error failure, behind) := by
  change rehearsal.run (program.bind next) = _
  induction program generalizing rehearsal with
  | done value => rfl
  | failed failure => rfl
  | ask request go inductionHypothesis => exact inductionHypothesis _ _

theorem run_call (rehearsal : Rehearsal) (request : Request Float α) :
    rehearsal.run (.call request) = rehearsal.answer request := by
  unfold Program.call run
  cases rehearsal.answer request with
  | mk result behind =>
      cases result with
      | ok value => rfl
      | error failure => rfl

/-- A failure that is caught is a result like any other. -/
theorem run_attempt (rehearsal : Rehearsal) (program : Program Float α) :
    rehearsal.run program.attempt =
      (.ok (rehearsal.run program).1, (rehearsal.run program).2) := by
  induction program generalizing rehearsal with
  | done value => rfl
  | failed failure => rfl
  | ask request go inductionHypothesis => exact inductionHypothesis _ _

/-- Looking for a lesson leaves the store as it is. -/
theorem store_find (rehearsal : Rehearsal) (id : String) :
    (rehearsal.askStore (.find id)).2.store = rehearsal.store := by
  cases there : rehearsal.store with
  | memory store =>
      rw [askStore_memory there]
      rfl
  | files tree =>
      rw [askStore_files there]
      rfl

theorem run_find (rehearsal : Rehearsal) (id : String) :
    rehearsal.run (Catalogue.find id) =
      match rehearsal.askStore (.find id) with
      | (.ok (some lesson), behind) => (.ok lesson, behind)
      | (.ok none, behind) => (.error (.unknownLesson id), behind)
      | (.error failure, behind) => (.error failure, behind) := by
  unfold Catalogue.find Program.store
  rw [run_bind, run_call, answer]
  cases rehearsal.askStore (.find id) with
  | mk result behind =>
      cases result with
      | error failure => rfl
      | ok found => cases found <;> rfl

/-- Whoever is given a bundle was answered by the store. -/
theorem of_run_bundle {id : String} {bundle : Bundle}
    (bundled : (rehearsal.run (Catalogue.bundle id)).1 = .ok (some bundle)) :
    ∃ (lesson : Lesson) (content : Content) (behind : Rehearsal),
      (rehearsal.askStore (.find id)).1 = .ok (some lesson) ∧ behind.store = rehearsal.store ∧
      (behind.askStore (.latestContent id)).1 = .ok (some content) ∧
      bundle.moduleRef = Sandbox.moduleReference id ∧
      bundle.integrity = Digest.integrity content.moduleText := by
  have still := rehearsal.store_find id
  unfold Catalogue.bundle at bundled
  rw [run_bind, run_find] at bundled
  cases first : rehearsal.askStore (.find id) with
  | mk found behind =>
      rw [first] at bundled still
      cases found with
      | error failure => cases bundled
      | ok found =>
          cases found with
          | none => cases bundled
          | some lesson =>
              unfold Program.store at bundled
              dsimp only at bundled
              rw [run_bind, run_call, answer] at bundled
              cases second : behind.askStore (.latestContent id) with
              | mk latest after =>
                  rw [second] at bundled
                  cases latest with
                  | error failure => cases bundled
                  | ok latest =>
                      cases latest with
                      | none => cases bundled
                      | some content =>
                          cases bundled
                          exact ⟨lesson, content, behind, rfl, still, by rw [second], rfl, rfl⟩

variable {sound : String → String → String → Prop} {id : String} {content : Content}

/-- Whoever asks for the latest content of a lesson is given what the store shows. -/
theorem run_latestContent (proper : rehearsal.store.Proper sound)
    (shows : rehearsal.store.Shows id content) :
    ∃ behind, rehearsal.run (Catalogue.latestContent id) = (.ok (some content), behind) := by
  have still := rehearsal.store_find id
  obtain ⟨lesson, found⟩ := shows.find proper rfl
  unfold Catalogue.latestContent
  rw [run_bind, run_find]
  cases first : rehearsal.askStore (.find id) with
  | mk answer behind =>
      rw [first] at found still
      cases found
      have latest : (behind.askStore (.latestContent id)).1 = .ok (some content) :=
        shows.latestContent still
      unfold Program.store
      dsimp only
      rw [run_call]
      exact ⟨_, Prod.ext latest rfl⟩

/-- Whoever asks the server for the module of a lesson is given the newest one, if it is safe. -/
theorem run_showModule (proper : rehearsal.store.Proper sound)
    (shows : rehearsal.store.Shows id content) (sourceSafe : Safety.isSafe content.sourceText = true)
    (moduleSafe : Safety.isSafe content.moduleText = true) :
    ∃ behind, rehearsal.run (Web.showModule id) =
      (.ok (.only (Web.moduleResponse content.moduleText)), behind) := by
  obtain ⟨behind, given⟩ := run_latestContent proper shows
  refine ⟨behind, ?_⟩
  unfold Web.showModule
  rw [run_bind, given]
  dsimp only
  rw [sourceSafe, moduleSafe]
  rfl

/-- The newest module of a lesson, as the store answers now. -/
def newestModule? (rehearsal : Rehearsal) (id : String) : Option String :=
  match (rehearsal.askStore (.latestContent id)).1 with
  | .ok (some content) => some content.moduleText
  | _ => none

end Rehearsal

/-! ## References to modules -/

section

variable {id : String}

/-- The steps of the path that a module is found at. -/
theorem splitOn_moduleReference (plain : '/' ∉ id.toList) :
    Text.splitOn (· == '/') (Sandbox.moduleReference id).toList =
      [[], "lessons".toList, id.toList, "module".toList] := by
  have spelled : (Sandbox.moduleReference id).toList =
      [] ++ '/' :: ("lessons".toList ++ '/' :: (id.toList ++ '/' :: "module".toList)) := by
    simp [Sandbox.moduleReference]
  have whole : ∀ c ∈ id.toList, (c == '/') = false := by
    intro c held
    rw [beq_eq_false_iff_ne]
    rintro rfl
    exact plain held
  rw [spelled, Text.splitOn_append_cons (List.forall_mem_nil _) rfl,
    Text.splitOn_append_cons (by simp) rfl, Text.splitOn_append_cons whole rfl,
    Text.splitOn_of_forall (by simp)]

/-- The reference to a module names its lesson. -/
theorem Sandbox.referencedLesson?_moduleReference (named : id ≠ "") (plain : '/' ∉ id.toList) :
    referencedLesson? (moduleReference id) = some id := by
  have ends : (moduleReference id).toList.getLast? = some 'e' := by
    rw [moduleReference, String.toList_append,
      List.getLast?_append_of_ne_nil _ (by decide)]
    rfl
  unfold referencedLesson?
  dsimp only
  rw [ends, if_neg (by decide), splitOn_moduleReference plain]
  simp [named]

/-- The reference to a module is the path that the server has it at. -/
theorem Web.Endpoint.ofPath?_moduleReference (named : id ≠ "") (plain : '/' ∉ id.toList) :
    ofPath? (Sandbox.moduleReference id) = some (.module id) := by
  unfold ofPath? stepsOf
  rw [splitOn_moduleReference plain]
  simp [ofSteps?, named]

end

/-! ## Requests for modules -/

namespace Web

theorem Origins.preflight?_eq_none {request : Request} (origins : Origins)
    (asked : request.method ≠ "OPTIONS") : origins.preflight? request = none := by
  unfold preflight?
  rw [if_pos]
  simp [asked]

/-- A site is told whether it may see a response; that says nothing of what the response holds. -/
theorem Origins.tell_spec (origins : Origins) (request : Request) (response : Response) :
    (origins.tell request response).status = response.status ∧
      (origins.tell request response).body = response.body := by
  unfold tell
  split
  · exact ⟨rfl, rfl⟩
  · split
    · exact ⟨rfl, rfl⟩
    · split <;> exact ⟨rfl, rfl⟩

/-- The response to a request for the module of a lesson. -/
theorem run_handle_module {rehearsal : Rehearsal} {sound : String → String → String → Prop}
    {id : String} {content : Content} (proper : rehearsal.store.Proper sound)
    (shows : rehearsal.store.Shows id content) (sourceSafe : Safety.isSafe content.sourceText = true)
    (moduleSafe : Safety.isSafe content.moduleText = true) (api : Api Float) {request : Request}
    (asked : request.method = "GET") (leads : Endpoint.ofPath? request.path = some (.module id)) :
    (rehearsal.run (api.handle request)).1 =
      .ok (api.origins.tell request (moduleResponse content.moduleText)) := by
  obtain ⟨behind, shown⟩ := Rehearsal.run_showModule proper shows sourceSafe moduleSafe
  have reacts : api.react request = showModule id := by
    unfold Api.react
    rw [leads]
    dsimp only [Endpoint.react?]
    rw [asked]
    rfl
  have responds : rehearsal.run (api.respond request) = (.ok
      (.only (api.origins.tell request (moduleResponse content.moduleText))), behind) := by
    unfold Api.respond
    rw [api.origins.preflight?_eq_none (by rw [asked]; decide), reacts]
    dsimp only
    rw [Rehearsal.run_bind, Rehearsal.run_attempt, shown]
    rfl
  unfold Api.handle
  rw [Rehearsal.run_bind, responds]
  rfl

end Web

/-! ## What a bundle delivers -/

/-- Whoever follows a bundle to a module, while the store is as it is, comes to this text. -/
structure Delivers (store : AnyStore) (id : String) (bundle : Bundle) (moduleText : String) :
    Prop where
  /-- The store gives the text for the reference. -/
  fetched : ∀ rehearsal : Rehearsal, rehearsal.store = store →
    Sandbox.fetchLatest rehearsal.newestModule? bundle.moduleRef = .ok moduleText
  /-- It is the one that is meant. -/
  intact : Digest.integrity moduleText = bundle.integrity
  /-- The server gives the same text. -/
  served : ∀ (rehearsal : Rehearsal) (api : Web.Api Float) (request : Web.Request),
    rehearsal.store = store → request.method = "GET" →
    request.path = "/lessons/" ++ id ++ "/module" →
    ∃ response, (rehearsal.run (api.handle request)).1 = .ok response ∧
      response.status = 200 ∧ response.body = .text moduleText
  /-- What mounts check it passes. -/
  mounted : Sandbox.MountsUnrefused bundle moduleText

/-- A bundle of safe content delivers its module. -/
theorem delivers_of_shows {store : AnyStore} {sound : String → String → String → Prop}
    {id : String} {content : Content} {bundle : Bundle} (proper : store.Proper sound)
    (shows : store.Shows id content) (sourceSafe : Safety.check content.sourceText = [])
    (moduleSafe : Safety.check content.moduleText = []) (named : id ≠ "") (plain : '/' ∉ id.toList)
    (refers : bundle.moduleRef = Sandbox.moduleReference id)
    (means : bundle.integrity = Digest.integrity content.moduleText) :
    Delivers store id bundle content.moduleText where
  fetched := by
    rintro rehearsal rfl
    have newest : rehearsal.newestModule? id = some content.moduleText := by
      unfold Rehearsal.newestModule?
      rw [shows.latestContent rfl]
    unfold Sandbox.fetchLatest
    rw [refers, Sandbox.referencedLesson?_moduleReference named plain]
    dsimp only
    rw [newest]
  intact := means.symm
  served := by
    rintro rehearsal api request rfl asked path
    have leads : Web.Endpoint.ofPath? request.path = some (.module id) :=
      path ▸ Web.Endpoint.ofPath?_moduleReference named plain
    have sourceIsSafe : Safety.isSafe content.sourceText = true := by
      rw [Safety.isSafe, sourceSafe]
      rfl
    have moduleIsSafe : Safety.isSafe content.moduleText = true := by
      rw [Safety.isSafe, moduleSafe]
      rfl
    obtain ⟨status, body⟩ := api.origins.tell_spec request (Web.moduleResponse content.moduleText)
    exact ⟨_, Web.run_handle_module proper shows sourceIsSafe moduleIsSafe api asked leads,
      status, body⟩
  mounted := Sandbox.mountsUnrefused_of_safe means.symm moduleSafe

/-- Whatever has been done with lessons, a bundle that is given for one delivers a module, and it does
so until another version of the content of that lesson is kept, whatever else is done. -/
theorem bundled_module_delivered {τ : Type} [Seconds τ] (context : Run.Context τ) (patience : Nat)
    {errands : List Errand} (fits : ∀ errand ∈ errands, errand.Fits) {empty : AnyStore}
    (new : empty = .memory {} ∨ empty = .files {})
    {earlier later : List (Moment τ AnyStore)} {middle last : Crowd τ AnyStore}
    (reached : Crowd.History AnyStore.timely.orFails
      (Crowd.attending context patience errands empty) earlier middle)
    (goesOn : Crowd.History AnyStore.timely.orFails middle later last)
    (credible : ∀ moment ∈ earlier ++ later, moment.event.Credible)
    {id : String} (plain : '/' ∉ id.toList) {rehearsal : Rehearsal} {bundle : Bundle}
    (there : rehearsal.store = middle.store)
    (bundled : (rehearsal.run (Catalogue.bundle id)).1 = .ok (some bundle))
    (elsewhere : ∀ moment ∈ later, ∀ other ∈ moment.event.kept?,
      middle.store.place other ≠ middle.store.place id) :
    ∃ moduleText, Delivers last.store id bundle moduleText := by
  obtain ⟨before, behind⟩ := List.forall_mem_append.mp credible
  have opens : empty.Proper SoundTexts := by
    rcases new with rfl | rfl
    · exact ⟨List.forall_mem_nil _, List.forall_mem_nil _⟩
    · exact Store.Files.proper_empty
  have attending := (Attending.opening fits opens).history reached before
  obtain ⟨lesson, content, asked, found, same, latest, refers, means⟩ :=
    Rehearsal.of_run_bundle bundled
  obtain ⟨shown, sound, named⟩ :=
    AnyStore.shows_of_answers (there ▸ attending.proper) same found latest
  rw [there] at shown
  exact ⟨content.moduleText, delivers_of_shows (attending.history goesOn behind).proper
    (attending.shows goesOn behind elsewhere shown) sound.sourceSafe sound.moduleSafe named plain
    refers means⟩

/-- The identifier that is made up. -/
private def mintedId : String := String.ofList (List.replicate 32 'a')

/-- Stores that never fail, and a generator that has the same small module for every prompt. -/
private def workshop : Setting Int AnyStore where
  perform store _ operation := store.perform (.after 1) operation
  reading := 0
  now := .after 1
  reply := .ok "export default 1;"
  fresh := mintedId

private def threeErrands : List Errand :=
  [.create "Tides" none, .generate (.kickoff mintedId none), .list 1]

private def begun : Crowd Int AnyStore := .attending .threeAttempts 1 threeErrands (.memory {})

/-- A lesson is created, and then it is generated. -/
private def made : List (Moment Int AnyStore) :=
  workshop.play begun ([0, 0, 0] ++ List.replicate 10 1)

private def tides : Lesson where
  id := mintedId
  title := "Tides"
  topic := "Tides"
  createdAt := .after 1
  updatedAt := .after 1

/-- The lesson has been created, and something is done with what the generator replies. -/
private def answered (done : Run.Task Int → Prompt → Nat → Program Int Run.Turn) :
    Crowd Int AnyStore where
  store := .memory { lessons := [{ tides with status := .generating }] }
  programs := [.done [], Run.replied .threeAttempts tides 0 done,
    Errand.program .threeAttempts 1 (.list 1)]

/-- The module of the lesson is kept: neither the check nor the compiler has to be gone through for
it. -/
private theorem behind_made :
    begun.behind made =
      (answered (Run.kept "export default 1;" Run.smallArtifact)).behind
        (workshop.play (answered (Run.kept "export default 1;" Run.smallArtifact))
          (List.replicate 5 1)) := by
  have reached : begun.behind (workshop.play begun [0, 0, 0, 1, 1, 1, 1, 1]) =
      answered (Run.tried "export default 1;") := rfl
  have split := workshop.play_append begun [0, 0, 0, 1, 1, 1, 1, 1] (List.replicate 5 1)
  rw [reached] at split
  rw [made, ← Run.tried_small]
  refine (congrArg begun.behind split).trans ?_
  rw [Crowd.behind_append, reached]

/-- The lessons are listed after that. -/
private def listed (crowd : Crowd Int AnyStore) : List (Moment Int AnyStore) :=
  workshop.play crowd [2]

/-- Someone who looks at a store. -/
private def onlooker (store : AnyStore) : Rehearsal := { store, now := .after 2 }

private theorem onlooker_store (store : AnyStore) : (onlooker store).store = store := rfl

/-- Is a bundle given, and is something done then that keeps no content? -/
private def delivering : Crowd Int AnyStore → Bool
  | ⟨store, programs⟩ =>
    (match ((onlooker store).run (Catalogue.bundle mintedId)).1 with
      | .ok (some _) => true
      | _ => false) &&
    (listed ⟨store, programs⟩).length == 1 &&
    (listed ⟨store, programs⟩).all fun moment => moment.event.kept?.isNone

private theorem exists_of_delivering {crowd : Crowd Int AnyStore} (held : delivering crowd = true) :
    (∃ bundle, ((onlooker crowd.store).run (Catalogue.bundle mintedId)).1 = .ok (some bundle)) ∧
      (listed crowd).length = 1 ∧ ∀ moment ∈ listed crowd, moment.event.kept? = none := by
  obtain ⟨store, programs⟩ := crowd
  unfold delivering at held
  obtain ⟨both, unkept⟩ := Bool.and_eq_true_iff.mp held
  obtain ⟨answered, one⟩ := Bool.and_eq_true_iff.mp both
  refine ⟨?_, eq_of_beq one, ?_⟩
  · dsimp only
    split at answered
    next bundle there => exact ⟨bundle, there⟩
    next => cases answered
  · intro moment member
    exact Option.isNone_iff_eq_none.mp (List.all_eq_true.mp unkept moment member)

/-- The bundle of a lesson that was created and generated delivers its module while the lessons are
listed. -/
theorem bundled_module_delivered_listed :
    ∃ bundle moduleText,
      ((onlooker (begun.behind made).store).run (Catalogue.bundle mintedId)).1 = .ok (some bundle) ∧
      (listed (begun.behind made)).length = 1 ∧
      Delivers ((begun.behind made).behind (listed (begun.behind made))).store mintedId bundle
        moduleText := by
  have permits (store : AnyStore) {β : Type} (operation : Operation β) :
      AnyStore.timely.orFails.permits store operation (workshop.perform store operation).1
        (workshop.perform store operation).2 :=
    Or.inl (AnyStore.timely_perform (by decide) store operation)
  have answers (crowd : Crowd Int AnyStore) (callers : List Nat) :
      ∀ moment ∈ workshop.play crowd callers, moment.event.Credible :=
    Setting.credible_play (by decide) (by decide) crowd callers
  have credible : ∀ moment ∈ made ++ listed (begun.behind made), moment.event.Credible :=
    List.forall_mem_append.mpr ⟨answers _ _, answers _ _⟩
  have fits : ∀ errand ∈ threeErrands, errand.Fits := by
    simp [threeErrands, Errand.Fits]
  have held : delivering (begun.behind made) = true := by
    rw [behind_made]
    decide +kernel
  obtain ⟨⟨bundle, bundled⟩, one, unkept⟩ := exists_of_delivering held
  have elsewhere : ∀ moment ∈ listed (begun.behind made), ∀ other ∈ moment.event.kept?,
      (begun.behind made).store.place other ≠ (begun.behind made).store.place mintedId := by
    intro moment member other kept
    rw [unkept moment member] at kept
    cases kept
  obtain ⟨moduleText, delivers⟩ := bundled_module_delivered .threeAttempts 1 fits (Or.inl rfl)
    (Setting.history_behind permits begun _) (Setting.history_behind permits (begun.behind made) _)
    credible (by decide) (onlooker_store _) bundled elsewhere
  exact ⟨bundle, moduleText, bundled, one, delivers⟩

end Lectern
