/-
Module: Lectern.Web.Message
Purpose: Requests and the responses to them, with the phrases and classes of their status codes.
Main exports: Request, Request.ofTarget, Request.header?, Request.parameter?, Response, Body,
  Status.phrase, Status.className, Status.isSuccess
-/
import Lectern.Json.Parser
import Lectern.Text.Utf8
import Lectern.Web.Url

namespace Lectern.Web

/-- The headers of a message. -/
abbrev Headers := List (String × String)

/-- A request. -/
structure Request where
  method : String
  /-- The path with nothing escaped. -/
  path : String
  /-- The parameters behind the path. -/
  query : List (String × String) := []
  headers : Headers := []
  body : String := ""
  deriving DecidableEq, Repr, Inhabited

/-- What a response carries. -/
inductive Body where
  | json (value : Json)
  | text (content : String)
  deriving Repr, Inhabited

/-- A response. -/
structure Response where
  status : Nat
  headers : Headers := []
  body : Body
  deriving Repr, Inhabited

/-! ## Requests -/

/-- The bytes of a text in which some are escaped. -/
def unescapedBytes : List Char → List UInt8
  | '%' :: a :: b :: rest =>
    match Json.Parser.hexValue a, Json.Parser.hexValue b with
    | some high, some low => UInt8.ofNat (high * 16 + low) :: unescapedBytes rest
    | _, _ => 0x25 :: unescapedBytes (a :: b :: rest)
  | c :: rest => (String.singleton c).toUTF8.toList ++ unescapedBytes rest
  | [] => []

/-- A text without escapes. -/
def unescape (text : List Char) : String :=
  Text.Utf8.read ⟨(unescapedBytes text).toArray⟩

/-- A parameter: its name and its value, which may be left out. A plus sign stands for a blank. -/
def readParameter (text : List Char) : String × String :=
  let (name, value) := Url.splitMark '=' (text.map fun c => if c == '+' then ' ' else c)
  (unescape name, unescape (value.getD []))

/-- The parameters of a query. -/
def readQuery (query : String) : List (String × String) :=
  ((Text.splitOn (· == '&') query.toList).filter fun text => !text.isEmpty).map readParameter

namespace Request

/-- A request for a path and a query. -/
def ofTarget (method target : String) (headers : Headers) (body : String) : Request :=
  let (target, _) := Url.splitMark '#' target.toList
  let (path, query) := Url.splitMark '?' target
  let path := unescape ('/' :: (Url.settledPath path).dropWhile (· == '/'))
  { method := String.ofList (method.toList.map Char.toUpper), path
    query := readQuery (String.ofList (query.getD [])), headers, body }

/-- The value of a header, whose name is in capital or small letters. -/
def header? (request : Request) (name : String) : Option String :=
  (request.headers.find? fun (key, _) => String.ofList (key.toList.map Char.toLower) == name).map
    (·.2)

/-- The last value of a parameter. -/
def parameter? (request : Request) (name : String) : Option String :=
  (request.query.reverse.find? (·.1 == name)).map (·.2)

/-- Is the body said to be JSON? Where nothing is said it counts as JSON. -/
def bodyIsJson (request : Request) : Bool :=
  match request.header? "content-type" with
  | none => true
  | some kind =>
    let kind := (kind.toList.takeWhile (· != ';')).map Char.toLower
    match (String.ofList (Text.trim kind)).splitOn "/" with
    | ["application", format] => format == "json" || format.endsWith "+json"
    | _ => false

end Request

/-! ## Responses -/

namespace Response

/-- A response in JSON. -/
def ofJson (status : Nat) (value : Json) : Response where
  status
  headers := [("content-type", "application/json")]
  body := .json value

/-- A response in plain text. -/
def ofText (status : Nat) (content : String) : Response where
  status
  headers := [("content-type", "text/plain; charset=utf-8")]
  body := .text content

/-- A response that says what went wrong. -/
def detail (status : Nat) (message : String) : Response :=
  ofJson status (.obj [("detail", .str message)])

/-- A response with one more header. -/
def withHeader (response : Response) (name value : String) : Response where
  status := response.status
  headers := (response.headers.filter (·.1 != name)) ++ [(name, value)]
  body := response.body

end Response

/-! ## Status codes -/

namespace Status

/-- The phrases of the status codes. -/
def phrases : List (Nat × String) :=
  [(100, "Continue"), (101, "Switching Protocols"), (102, "Processing"), (103, "Early Hints"),
    (200, "OK"), (201, "Created"), (202, "Accepted"), (203, "Non-Authoritative Information"),
    (204, "No Content"), (205, "Reset Content"), (206, "Partial Content"), (207, "Multi-Status"),
    (208, "Already Reported"), (226, "IM Used"), (300, "Multiple Choices"),
    (301, "Moved Permanently"), (302, "Found"), (303, "See Other"), (304, "Not Modified"),
    (305, "Use Proxy"), (307, "Temporary Redirect"), (308, "Permanent Redirect"),
    (400, "Bad Request"), (401, "Unauthorized"), (402, "Payment Required"), (403, "Forbidden"),
    (404, "Not Found"), (405, "Method Not Allowed"), (406, "Not Acceptable"),
    (407, "Proxy Authentication Required"), (408, "Request Timeout"), (409, "Conflict"),
    (410, "Gone"), (411, "Length Required"), (412, "Precondition Failed"),
    (413, "Request Entity Too Large"), (414, "Request-URI Too Long"),
    (415, "Unsupported Media Type"), (416, "Requested Range Not Satisfiable"),
    (417, "Expectation Failed"), (418, "I'm a teapot"), (421, "Misdirected Request"),
    (422, "Unprocessable Entity"), (423, "Locked"), (424, "Failed Dependency"), (425, "Too Early"),
    (426, "Upgrade Required"), (428, "Precondition Required"), (429, "Too Many Requests"),
    (431, "Request Header Fields Too Large"), (451, "Unavailable For Legal Reasons"),
    (500, "Internal Server Error"), (501, "Not Implemented"), (502, "Bad Gateway"),
    (503, "Service Unavailable"), (504, "Gateway Timeout"), (505, "HTTP Version Not Supported"),
    (506, "Variant Also Negotiates"), (507, "Insufficient Storage"), (508, "Loop Detected"),
    (510, "Not Extended"), (511, "Network Authentication Required")]

/-- The phrase of a status code; an unknown one has none. -/
def phrase (status : Int) : String :=
  ((phrases.find? fun (code, _) => (code : Int) == status).map (·.2)).getD ""

/-- Does an answer with this status carry what was asked for? -/
def isSuccess (status : Int) : Bool := 200 ≤ status && status ≤ 299

/-- What an answer with this status is, if it is no success. -/
def className (status : Int) : String :=
  if status.fdiv 100 == 1 then "Informational response"
  else if status.fdiv 100 == 3 then "Redirect response"
  else if status.fdiv 100 == 4 then "Client error"
  else if status.fdiv 100 == 5 then "Server error"
  else "Invalid status code"

end Status

end Lectern.Web
