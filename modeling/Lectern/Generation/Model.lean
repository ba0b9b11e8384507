/-
Module: Lectern.Generation.Model
Purpose: Asking a model for a source. A failure that may pass is waited out and the question is put
  again, up to a number of times.
Main exports: Model.Question, Model.Answer, Model.follow, Model.converse
-/
import Lectern.Generation.Prompt
import Lectern.Lesson.Failure
import Lectern.Settings.Basic

namespace Lectern.Model

/-- A question to a model. -/
structure Question where
  model : String
  system : String
  user : String
  maxTokens : Int
  temperature : Float
  deriving Repr, Inhabited

/-- The question that puts a prompt. -/
def Question.ofPrompt (settings : ModelSettings) (prompt : Prompt) : Question where
  model := settings.model
  system := prompt.system
  user := prompt.user
  maxTokens := settings.maxTokens
  temperature := settings.temperature

/-- A question as JSON. -/
def Question.toJson (question : Question) : Json :=
  .obj [("model", .str question.model), ("system", .str question.system),
    ("messages", .arr [.obj [("role", .str "user"), ("content", .str question.user)]]),
    ("max_tokens", .int question.maxTokens), ("temperature", .float question.temperature)]

/-- What comes back for a question. -/
inductive Answer where
  /-- Blocks of an answer, not all of which are text. -/
  | blocks (texts : List (Option String))
  /-- No connection, too many questions or trouble in the model's service: it may pass. -/
  | disturbed (message : String)
  /-- The question is refused. -/
  | refused (message : String)
  deriving DecidableEq, Repr, Inhabited

/-- What follows an answer. -/
inductive Next where
  /-- The question is put again after some seconds. -/
  | again (wait : Nat)
  | finished (result : Except Failure String)

/-- The seconds that are waited after some attempts: twice as many each time, from one up to
thirty. -/
def retryWait (attempts : Nat) : Nat := min (Nat.pow 2 (attempts - 1)) 30

/-- No answer came. -/
def requestFailure (message : String) : Failure :=
  .noGeneration ("Generation request failed: " ++ message)

/-- The texts of an answer, one below the other. They must not all be blank. -/
def readBlocks (texts : List (Option String)) : Except Failure String :=
  let text := "\n".intercalate (texts.filterMap id)
  if text.toList.all Text.isBlank then
    .error (.noGeneration "Generation returned an empty response")
  else .ok text

/-- What follows the answer to an attempt. -/
def follow (settings : ModelSettings) (attempt : Nat) : Answer → Next
  | .blocks texts => .finished (readBlocks texts)
  | .refused message => .finished (.error (requestFailure message))
  | .disturbed message =>
    if settings.maxRetries ≤ attempt then .finished (.error (requestFailure message))
    else .again (retryWait attempt)

/-- The questions that were put, the waits in between and the end, if it is reached. -/
structure Conversation where
  questions : Nat
  waits : List Nat
  result : Option (Except Failure String)

/-- Put a question until it is answered for good, from an attempt on. -/
def converseFrom (settings : ModelSettings) (attempt : Nat) : List Answer → Conversation
  | [] => ⟨1, [], none⟩
  | answer :: rest =>
    match follow settings attempt answer with
    | .finished result => ⟨1, [], some result⟩
    | .again wait =>
      let later := converseFrom settings (attempt + 1) rest
      ⟨later.questions + 1, wait :: later.waits, later.result⟩

/-- Put a question until it is answered for good. -/
def converse (settings : ModelSettings) (answers : List Answer) : Conversation :=
  converseFrom settings 1 answers

end Lectern.Model
