/-
Module: Lectern.Proofs.Generation.SoundContent
Purpose: Content is kept only if its source and its module break no safety rule, the module is what
  the source compiles to and the hash is that of the source. This holds of every call, whatever is
  answered to it, and so of any number of calls side by side.
Trusted boundary: none
Main exports: Content.Sound, Run.running_call, Run.soundContent_call, gained_content_sound
-/
import Lectern.Proofs.Generation.Attempts
import Lectern.Proofs.Generation.SoundReply
import Lectern.Proofs.Store.Gains

namespace Lectern

/-! ## What may be kept -/

/-- Texts that may be kept as content: neither the source nor the module breaks a safety rule, the
module is what the source compiles to, and the digest is the hash of the source. -/
structure SoundTexts (source code digest : String) : Prop where
  sourceSafe : Safety.check source = []
  moduleSafe : Safety.check code = []
  compiled : ∃ artifact, Module.compile source = .ok artifact ∧ artifact.moduleText = code
  hashed : digest = Digest.sourceHash source

/-- A version of content whose texts may be kept. -/
def Content.Sound (content : Content) : Prop :=
  SoundTexts content.sourceText content.moduleText content.sourceHash

theorem Module.sourceHash_of_compile {source : String} {artifact : Module.Artifact}
    (compiled : Module.compile source = .ok artifact) :
    artifact.sourceHash = Digest.sourceHash source := by
  unfold Module.compile at compiled
  cases checked : Module.check source with
  | error fault => simp [checked, bind, Except.bind] at compiled
  | ok elided =>
      simp only [checked, bind, Except.bind] at compiled
      split at compiled
      · cases compiled
      · split at compiled
        · cases compiled
        · cases compiled
          rfl

/-- A source and an artifact that pass the last check before they are kept are sound. -/
theorem SoundTexts.of_compile {source : String} {artifact : Module.Artifact}
    (compiled : Module.compile source = .ok artifact) (sourceSafe : Safety.check source = [])
    (moduleSafe : Safety.check artifact.moduleText = []) :
    SoundTexts source artifact.moduleText artifact.sourceHash :=
  ⟨sourceSafe, moduleSafe, ⟨artifact, compiled, rfl⟩, Module.sourceHash_of_compile compiled⟩

/-! ## What programs ask to be kept -/

/-- A request is no request to keep content, or one whose texts are of some kind. -/
def Request.KeepsOnly {τ β : Type} (sound : String → String → String → Prop) :
    Request τ β → Prop
  | .store operation => operation.KeepsOnly sound
  | _ => True

/-- What generation asks for: it creates no lesson, and nothing but sound content is to be kept. -/
def Request.OfRun {τ β : Type} : Request τ β → Prop
  | .store (.create _) => False
  | .store (.addContent _ source code digest) => SoundTexts source code digest
  | _ => True

/-- Nothing else is asked for, whatever is answered. -/
def running (τ : Type) : Discipline τ Unit where
  allows _ _ request := request.OfRun
  expects _ _ _ _ := True
  after _ _ _ _ := ()

/-- Nothing but sound content is to be kept, whatever is answered. -/
def soundContent (τ : Type) : Discipline τ Unit where
  allows _ _ request := request.KeepsOnly SoundTexts
  expects _ _ _ _ := True
  after _ _ _ _ := ()

namespace Run

open Program

variable {τ : Type}

/-- A call that keeps no content, and what follows it. -/
private theorem running_then {α β : Type} {request : Request τ α}
    {next : α → Program τ β} {post : Unit → Except Failure β → Prop}
    (harmless : request.OfRun) (fails : ∀ failure, post () (.error failure))
    (goes : ∀ value, (next value).Keeps (running τ) post ()) :
    (Program.call request >>= next).Keeps (running τ) post () := by
  rw [keeps_bind', keeps_call]
  refine ⟨harmless, ?_⟩
  intro answer _
  cases answer with
  | ok value => exact goes value
  | error failure => exact fails failure

/-- One program after another, where nothing is known between them. -/
private theorem running_bind {α β : Type} {program : Program τ α}
    {next : α → Program τ β} {post : Unit → Except Failure β → Prop}
    (keeps : program.Keeps (running τ) (fun _ _ => True) ())
    (fails : ∀ failure, post () (.error failure))
    (goes : ∀ value, (next value).Keeps (running τ) post ()) :
    (program >>= next).Keeps (running τ) post () := by
  rw [keeps_bind']
  apply keeps.mono
  intro _ result _
  cases result with
  | ok value => exact goes value
  | error failure => exact fails failure

/-- What is kept has passed both safety checks; the compiler made it if the attempt is coherent. -/
private theorem running_persist {lessonId source : String} {artifact : Module.Artifact}
    (compiled : Module.compile source = .ok artifact) :
    (persist lessonId source artifact : Program τ Content).Keeps (running τ)
      (fun _ _ => True) () := by
  unfold persist
  split
  next sourceSafe moduleSafe =>
    rw [keeps_store]
    exact ⟨SoundTexts.of_compile compiled sourceSafe moduleSafe, fun _ _ => trivial⟩
  next => trivial
  next => trivial

/-- What leaves the store alone keeps no content. -/
private theorem running_outside {α : Type} {program : Program τ α}
    {post : Except Failure α → Prop}
    (keeps : program.Keeps (outside τ) (fun _ result => post result) ()) :
    program.Keeps (running τ) (fun _ result => post result) () := by
  have harmless {β : Type} (request : Request τ β) (leaves : request.LeavesStore) :
      request.OfRun := by
    cases request with
    | store operation => exact leaves.elim
    | _ => trivial
  have same : program.Keeps (running τ) (fun behind result => behind = () ∧ post result) () :=
    keeps.of_outside harmless fun _ _ _ => rfl
  exact same.mono fun _ _ held => held.2

private theorem running_conclude {task : Task τ} {number : Nat} {made : Attempt}
    {trace : Trace} (coherent : made.Coherent) :
    (conclude task number made trace).Keeps (running τ) (fun _ _ => True) () := by
  unfold conclude
  split
  next source dated sourceEq datedEq _ =>
    refine running_bind (running_persist (coherent source dated sourceEq datedEq))
      (fun _ => trivial) ?_
    intro content
    refine running_then trivial (fun _ => trivial) ?_
    intro _
    exact running_then trivial (fun _ => trivial) fun _ => trivial
  next => exact running_then trivial (fun _ => trivial) fun _ => trivial

private theorem running_turn [Seconds τ] {task : Task τ} {number : Nat}
    {previous : Option Attempt} :
    (turn task number previous).Keeps (running τ) (fun _ _ => True) () := by
  apply running_bind (running_outside outside_pause) (fun _ => trivial)
  intro _
  rw [keeps_bind']
  refine (running_outside outside_attempt).mono ?_
  intro _ result offers
  cases result with
  | error failure => trivial
  | ok made => exact running_conclude offers.coherent

private theorem running_crash {task : Task τ} {number : Nat} {failure : Failure} :
    (crash task number failure).Keeps (running τ) (fun _ _ => True) () := by
  refine running_then trivial (fun _ => trivial) ?_
  intro _
  refine running_then trivial (fun _ => trivial) ?_
  intro _
  exact running_then trivial (fun _ => trivial) fun _ => trivial

private theorem running_giveUp {task : Task τ} {number : Nat} {last : Option Attempt} :
    (giveUp task number last).Keeps (running τ) (fun _ _ => True) () := by
  refine running_then trivial (fun _ => trivial) ?_
  intro _
  cases last with
  | none => trivial
  | some last => trivial

private theorem running_attempts [Seconds τ] {task : Task τ} {left number : Nat}
    {previous : Option Attempt} :
    (attempts task left number previous).Keeps (running τ) (fun _ _ => True) () := by
  induction left generalizing number previous with
  | zero => exact running_giveUp
  | succ left inductionHypothesis =>
      unfold attempts
      rw [keeps_bind', keeps_attempt]
      apply running_turn.mono
      intro _ result _
      rw [then_ok]
      split
      · exact running_crash
      · trivial
      · split
        · exact running_giveUp
        · exact inductionHypothesis

private theorem running_run [Seconds τ] {context : Context τ} {lesson : Lesson}
    {pedagogy : Option Pedagogy} :
    (run context lesson pedagogy).Keeps (running τ) (fun _ _ => True) () :=
  running_then trivial (fun _ => trivial) fun _ => running_attempts

private theorem running_kickoff [Seconds τ] {context : Context τ} {lessonId : String}
    {pedagogy : Option Pedagogy} :
    (kickoff context lessonId pedagogy).Keeps (running τ) (fun _ _ => True) () := by
  refine running_then trivial (fun _ => trivial) ?_
  intro found
  cases found with
  | none => trivial
  | some lesson =>
      refine running_then trivial (fun _ => trivial) ?_
      intro won
      cases won with
      | true => exact running_run
      | false => exact running_then trivial (fun _ => trivial) fun _ => trivial

private theorem running_processNext [Seconds τ] {context : Context τ} :
    (processNext context).Keeps (running τ) (fun _ _ => True) () := by
  refine running_then trivial (fun _ => trivial) ?_
  intro claimed
  cases claimed with
  | none => trivial
  | some lesson => exact running_bind running_run (fun _ => trivial) fun _ => trivial

private theorem running_processQueue [Seconds τ] {context : Context τ} {most : Nat} :
    (processQueue context most).Keeps (running τ) (fun _ _ => True) () := by
  induction most with
  | zero => trivial
  | succ most inductionHypothesis =>
      apply running_bind running_processNext (fun _ => trivial)
      intro processed
      cases processed with
      | none => trivial
      | some report =>
          exact running_bind inductionHypothesis (fun _ => trivial) fun _ => trivial

/-- No call ever creates a lesson or asks for content to be kept that is not sound. -/
theorem running_call [Seconds τ] {context : Context τ} {patience : Nat} (call : Call) :
    (call.program context patience).Keeps (running τ) (fun _ _ => True) () := by
  cases call with
  | kickoff lessonId pedagogy =>
      exact running_bind running_kickoff (fun _ => trivial) fun _ => trivial
  | processNext =>
      exact running_bind running_processNext (fun _ => trivial) fun _ => trivial
  | processQueue most => exact running_processQueue

/-- No call ever asks for content to be kept that is not sound. -/
theorem soundContent_call [Seconds τ] {context : Context τ} {patience : Nat} (call : Call) :
    (call.program context patience).Keeps (soundContent τ) (fun _ _ => True) () := by
  refine (running_call call).allowing ?_ (fun _ _ _ _ _ => trivial) (fun _ _ _ _ => rfl)
  intro _ β request asked
  cases request with
  | store operation =>
      cases operation with
      | create lesson => exact asked.elim
      | addContent id source code digest => exact asked
      | _ => trivial
  | _ => trivial

end Run

section Histories

variable {τ σ : Type} [Seconds τ] {context : Run.Context τ} {patience : Nat} {calls : List Call}

/-- All callers keep to sound content from the start. -/
private theorem fits_soundContent {store : σ} :
    (soundContent τ).Fits (fun _ _ _ => True) (Crowd.opening context patience calls store).programs
      (calls.map fun _ => ()) :=
  .opening fun _ call _ => Run.soundContent_call call

/-- No history asks for content to be kept that is not sound, however the store behaves. -/
theorem Crowd.History.asks_sound {store : σ} {conduct : Store.Conduct σ}
    {moments : List (Moment τ σ)} {last : Crowd τ σ}
    (history : Crowd.History conduct (.opening context patience calls store) moments last) :
    ∀ moment ∈ moments, moment.event.request.KeepsOnly SoundTexts := by
  intro moment member
  obtain ⟨before, behind, rfl⟩ := List.append_of_mem member
  have upheld : (soundContent τ).Upheld conduct fun _ _ => True :=
    fun _ _ _ _ => ⟨trivial, trivial⟩
  obtain ⟨_, _, allowed, _⟩ := history.allowed fits_soundContent upheld trivial
  exact allowed

omit [Seconds τ] in
/-- What a store gains by a sound request, or by one that fails, is sound. -/
private theorem upheld_soundContent (store : AnyStore) :
    (soundContent τ).Upheld AnyStore.conduct.orFails
      (fun held _ => AnyStore.Gains Content.Sound store held) := by
  intro before situations caller situation β request answer after held _ allowed answered
  refine ⟨trivial, held.trans ?_⟩
  cases request with
  | store operation =>
      rcases answered with answers | ⟨_, same⟩
      · exact AnyStore.Answers.gains answers allowed
      · rw [same]
        exact AnyStore.Gains.refl _ _
  | _ =>
      -- Every other request leaves the store alone.
      rw [answered.eq_of_leavesStore trivial]
      exact AnyStore.Gains.refl _ _

/-- In every history of any calls side by side, whatever is generated and whatever fails, all that a
store gains is sound content, and nothing else is ever asked to be kept. -/
theorem gained_content_sound {store : AnyStore} {moments : List (Moment τ AnyStore)}
    {last : Crowd τ AnyStore}
    (history : Crowd.History AnyStore.conduct.orFails (.opening context patience calls store)
      moments last) :
    AnyStore.Gains Content.Sound store last.store ∧
      ∀ moment ∈ moments, moment.event.request.KeepsOnly SoundTexts :=
  ⟨(history.keeps fits_soundContent (upheld_soundContent store)
    (AnyStore.Gains.refl _ _)).2, history.asks_sound⟩

end Histories

/-- One lesson in the queue. -/
private def queuedLesson : Lesson where
  id := "a"
  title := "Fractions"
  topic := "Adding fractions"
  createdAt := .after 0
  updatedAt := .after 0

/-- A store in memory, and a generator that has the same small module for every prompt. -/
private def smallModule : Setting Int AnyStore where
  perform store _ operation := store.perform (.after 1) operation
  reading := 0
  now := .after 1
  reply := .ok "export default 1;"

/-- A lesson is generated while another caller finds it claimed: one version of content is kept. -/
private def oneGenerated : List (Moment Int AnyStore) :=
  smallModule.play
    (.opening .threeAttempts 1 [.kickoff "a" none, .processQueue none]
      (.memory { lessons := [queuedLesson] }))
    [0, 0, 1, 0, 0, 0, 0, 0, 0, 0]

private def contentsOf : AnyStore → List Content
  | .memory store => store.contents
  | .files _ => []

/-- The reply comes once the other caller has found the queue empty; what is carried out behind it is
told by what becomes of its source. -/
private theorem oneGenerated_eq :
    oneGenerated =
      smallModule.play
          (.opening .threeAttempts 1 [.kickoff "a" none, .processQueue none]
            (.memory { lessons := [queuedLesson] }))
          [0, 0, 1, 0, 0, 0] ++
        smallModule.play
          ⟨.memory { lessons := [{ queuedLesson with status := .generating, updatedAt := .after 1 }] },
            [Run.replied .threeAttempts queuedLesson 0
              (Run.kept "export default 1;" Run.smallArtifact), .done []]⟩
          [0, 0, 0, 0] := by
  rw [← Run.tried_small]
  exact smallModule.play_append _ [0, 0, 1, 0, 0, 0] [0, 0, 0, 0]

/-- A history that ends with one version of content, and it is sound. -/
theorem gained_content_sound_once :
    (oneGenerated.getLast?.map fun moment => (contentsOf moment.crowd.store).length) = some 1 ∧
      ∃ last, Crowd.History AnyStore.conduct.orFails
          (.opening .threeAttempts 1 [.kickoff "a" none, .processQueue none]
            (.memory { lessons := [queuedLesson] })) oneGenerated last ∧
        AnyStore.Gains Content.Sound (.memory { lessons := [queuedLesson] }) last.store ∧
        ∀ moment ∈ oneGenerated, moment.event.request.KeepsOnly SoundTexts := by
  refine ⟨?_, ?_⟩
  · rw [oneGenerated_eq]
    decide +kernel
  have permits (store : AnyStore) {β : Type} (operation : Store.Operation β) :
      AnyStore.conduct.orFails.permits store operation (smallModule.perform store operation).1
        (smallModule.perform store operation).2 :=
    Or.inl (AnyStore.permits_perform (.after 1) store operation)
  obtain ⟨last, history⟩ := Setting.history_play permits
    (.opening .threeAttempts 1 [.kickoff "a" none, .processQueue none]
      (.memory { lessons := [queuedLesson] })) [0, 0, 1, 0, 0, 0, 0, 0, 0, 0]
  exact ⟨last, history, gained_content_sound history⟩

end Lectern
