/-
Module: Lectern.Web.Api
Purpose: The server: what it does for each request. A lesson that is created is generated once the
  response is out.
Main exports: Api, Endpoint, Api.react, Api.respond, Api.handle
-/
import Lectern.Generation.Run
import Lectern.Lesson.Catalogue
import Lectern.Settings.Server
import Lectern.Web.Origin

namespace Lectern.Web

variable {τ : Type} [Seconds τ]

/-- The version that the server reports. -/
def version : String := "0.1.0"

/-- What the server works with. -/
structure Api (τ : Type) where
  /-- Who knows this text may ask for generation. -/
  signingKey : Option String := none
  origins : Origins := []
  context : Run.Context τ

/-! ## Endpoints -/

/-- What a path leads to. -/
inductive Endpoint where
  | health
  | lessons
  | lesson (id : String)
  | generation (id : String)
  | bundle (id : String)
  | module (id : String)
  deriving DecidableEq, Repr, Inhabited

/-- What a path leads to, if it leads anywhere. -/
def Endpoint.ofSteps? : List String → Option Endpoint
  | ["", "health"] => some .health
  | ["", "lessons"] => some .lessons
  | ["", "lessons", id] => if id.isEmpty then none else some (.lesson id)
  | ["", "lessons", id, "bundle"] => if id.isEmpty then none else some (.bundle id)
  | ["", "lessons", id, "module"] => if id.isEmpty then none else some (.module id)
  | ["", "internal", "generate", id] => if id.isEmpty then none else some (.generation id)
  | _ => none

/-- The steps of a path. -/
def stepsOf (path : List Char) : List String := (Text.splitOn (· == '/') path).map String.ofList

/-- What a path leads to, with or without slashes at its end. -/
def Endpoint.ofPath? (path : String) : Option Endpoint :=
  (ofSteps? (stepsOf path.toList)).or
    (ofSteps? (stepsOf (Text.dropEndWhile (· == '/') path.toList)))

/-! ## Creating lessons -/

/-- A lesson that a request asks for. -/
structure Creation where
  topic : String
  pedagogy : Option Pedagogy
  generates : Bool
  deriving DecidableEq, Repr, Inhabited

/-- Read what lesson is asked for. -/
def Creation.read : Schema.Reader Creation := Schema.record "CreateLessonRequest" fun members =>
  Creation.mk <$>
    Schema.required ["topic"] (Schema.textWithin 1 10000) members <*>
    Schema.optional ["pedagogy"] (Schema.nullable Pedagogy.read) none members <*>
    Schema.optional ["generate"] Schema.flag true members

/-- A response to data that does not have the right shape. -/
def refusal (faults : List Json) : Response :=
  .ofJson 422 (.obj [("detail", .arr faults)])

/-- A fault as it is reported for a part of a request. -/
def partFault (part : String) (fault : Schema.Fault) : Json :=
  Schema.Fault.toJson .request ⟨.key part :: fault.path, fault.problem⟩

/-- The response to a body that is no JSON, with the place where that shows. A number that is too long
to be read is no fault of the JSON: the reading as a whole has failed. -/
def unreadBody (fault : Json.Parser.Fault) (text : List Char) : Response :=
  if fault.problem == .numberTooLong then .detail 400 "There was an error parsing the body"
  else
    refusal [.obj [("type", .str "json_invalid"),
      ("loc", .arr [.str "body", .nat (fault.index text)]), ("msg", .str "JSON decode error")]]

/-- The body of a request as data, or the response to one that cannot be read; text that is not said
to be JSON is not a record of any kind. How deep the values of a body may lie in each other depends on
the stack, which is left out. -/
def readBody (request : Request) : Except Response (Option Json) :=
  if request.body.isEmpty then .ok none
  else if !request.bodyIsJson then .ok (some (.str request.body))
  else
    let text := match request.body.toList with
      | '\uFEFF' :: rest => rest
      | text => text
    match Json.Parser.parseChars .message text with
    | .ok .null => .ok none
    | .ok value => .ok (some value)
    | .error fault => .error (unreadBody fault text)

/-- The failure to write a response that shows a number that is not finite. -/
def unwritable : Failure :=
  .outside "ValueError" "Out of range float values are not JSON compliant"

/-- The failure to write a response that shows a text that is no string. The message leaves out which
character that is and where in the response it stands. -/
def unencodable : Failure := .outside "UnicodeEncodeError" "surrogates not allowed"

/-- Refuse a body with faults. The response shows what each of them is about, which must be possible
to write; it is not kept here. -/
def refuseBody (data : Json) (faults : List Schema.Fault) : Except Failure Response :=
  if !faults.all fun fault => (fault.about data).isFinite then .error unwritable
  else if !faults.all fun fault => (fault.about data).isEncodable then .error unencodable
  else .ok (refusal (faults.map (partFault "body")))

/-- The lesson that a request asks for, or how it is refused. -/
def readCreation (request : Request) : Except (Except Failure Response) Creation :=
  match readBody request with
  | .error response => .error (.ok response)
  | .ok none => .error (.ok (refusal [partFault "body" ⟨[], .missing⟩]))
  | .ok (some data) =>
    match Creation.read data with
    | .valid creation => .ok creation
    | .invalid faults => .error (refuseBody data faults)

/-! ## Reactions -/

/-- A response, and the lesson that is generated once it is out. -/
structure Reaction where
  response : Response
  generates : Option String := none

/-- Nothing but a response. -/
def Reaction.only (response : Response) : Reaction := { response }

/-- Queue the lesson that a request asks for. -/
def create (request : Request) : Program τ Reaction :=
  match readCreation request with
  | .error refused => do
    return .only (← Program.ofExcept refused)
  | .ok creation => do
    let lesson ← Catalogue.create creation.topic creation.pedagogy
    return {
      response := .ofJson 201 (lesson.toJson .camel)
      generates := if creation.generates then some lesson.id else none }

/-- How many lessons a request asks for. -/
def readLimit (request : Request) : Schema.Checked Int :=
  match request.parameter? "limit" with
  | none => .valid Catalogue.defaultLimit
  | some text =>
    ((Schema.atMost 500 (Schema.atLeast 1 Schema.whole)) (.str text)).under (.key "limit")

/-- List the newest lessons. -/
def listLessons (request : Request) : Program τ Reaction :=
  match readLimit request with
  | .invalid faults => .done (.only (refusal (faults.map (partFault "query"))))
  | .valid limit => do
    let lessons ← Catalogue.list limit
    return .only (.ofJson 200 (.arr (lessons.map (·.toJson .camel))))

/-- Show a lesson with its latest content and its traces. -/
def showLesson (id : String) : Program τ Reaction := do
  let details ← Catalogue.details id
  return .only (.ofJson 200 (details.toJson .camel))

/-- Does a text agree with the key? Only texts in ASCII are compared. -/
def agrees (given key : String) : Except Failure Bool :=
  if (given.toList ++ key.toList).all fun c => c.toNat < 128 then .ok (given == key)
  else .error (.outside "TypeError"
    "comparing strings with non-ASCII characters is not supported")

/-- May a request ask for generation? If not, this is the response. -/
def checkKey (signingKey : Option String) (given : Option String) :
    Except Failure (Option Response) :=
  match signingKey with
  | none => .ok (some (.detail 503 "Signing key not configured"))
  | some "" => .ok (some (.detail 503 "Signing key not configured"))
  | some key =>
    match given with
    | none => .ok (some (.detail 401 "Invalid signing key"))
    | some given => (agrees given key).map fun same =>
      if same then none else some (.detail 401 "Invalid signing key")

/-- Generate a lesson for whoever knows the key. -/
def generate (api : Api τ) (request : Request) (id : String) : Program τ Reaction := do
  match ← Program.ofExcept (checkKey api.signingKey (request.header? "x-sign-key")) with
  | some response => return .only response
  | none =>
    let report ← Run.kickoff api.context id none
    return .only (.ofJson 200 report.toJson)

/-- The response where a lesson has no content yet. -/
def noContent : Response := .detail 404 "Lesson has no compiled content"

/-- Describe what is needed to show a lesson. -/
def showBundle (id : String) : Program τ Reaction := do
  match ← Catalogue.bundle id with
  | none => return .only noContent
  | some bundle => return .only (.ofJson 200 bundle.toJson)

/-- The response with a module. It must not be kept, and it is taken for nothing but a module. -/
def moduleResponse (moduleText : String) : Response where
  status := 200
  headers := [("cache-control", "no-store"), ("x-content-type-options", "nosniff"),
    ("content-type", "text/javascript; charset=utf-8")]
  body := .text moduleText

/-- Deliver the latest module of a lesson, if it and its source are safe. -/
def showModule (id : String) : Program τ Reaction := do
  match ← Catalogue.latestContent id with
  | none => return .only noContent
  | some content =>
    if Safety.isSafe content.sourceText && Safety.isSafe content.moduleText then
      return .only (moduleResponse content.moduleText)
    else return .only (.detail 409 "Stored content failed safety check")

/-- What is done for a request to an endpoint, if the endpoint knows its method. -/
def Endpoint.react? (api : Api τ) (request : Request) :
    Endpoint → Option (Program τ Reaction)
  | .health =>
    if request.method == "GET" then
      some (.done (.only (.ofJson 200
        (.obj [("status", .str "ok"), ("version", .str version)]))))
    else none
  | .lessons =>
    if request.method == "POST" then some (create request)
    else if request.method == "GET" then some (listLessons request)
    else none
  | .lesson id => if request.method == "GET" then some (showLesson id) else none
  | .generation id => if request.method == "POST" then some (generate api request id) else none
  | .bundle id => if request.method == "GET" then some (showBundle id) else none
  | .module id => if request.method == "GET" then some (showModule id) else none

/-- What is done for a request. -/
def Api.react (api : Api τ) (request : Request) : Program τ Reaction :=
  match Endpoint.ofPath? request.path with
  | none => .done (.only (.detail 404 "Not Found"))
  | some endpoint =>
    (endpoint.react? api request).getD (.done (.only (.detail 405 "Method Not Allowed")))

/-! ## Responses -/

/-- The response to a failure of the program's own. -/
def failureResponse? : Failure → Option Response
  | .unknownLesson id => some (.detail 404 (Failure.unknownLesson id).message)
  | failure => if failure.isOwn then some (.detail 500 failure.message) else none

/-- The response to a failure that nobody expects. -/
def unexpected : Response := .ofText 500 "Internal Server Error"

/-- The response to a request, and the lesson that is generated once it is out. -/
def Api.respond (api : Api τ) (request : Request) : Program τ Reaction :=
  match api.origins.preflight? request with
  | some response => .done (.only response)
  | none => do
    match ← (api.react request).attempt with
    | .ok reaction =>
      return { reaction with response := api.origins.tell request reaction.response }
    | .error failure =>
      match failureResponse? failure with
      | some response => return .only (api.origins.tell request response)
      | none => return .only unexpected

/-- Do all that follows from a request. Generation that fails is nobody's concern any more. -/
def Api.handle (api : Api τ) (request : Request) : Program τ Response := do
  let reaction ← api.respond request
  match reaction.generates with
  | none => return reaction.response
  | some id =>
    let _ ← (Run.kickoff api.context id none).attempt
    return reaction.response

end Lectern.Web
