/-
Module: Lectern.Web.Url
Purpose: Addresses of resources: their parts, the one spelling of each part, and their text.
Main exports: Url, Url.parse, Url.render, Url.Unread
-/
import Lectern.Schema.Scalar
import Lectern.Text.Quoted

namespace Lectern.Web

/-- An address in parts, each spelled in the one way it is sent. -/
structure Url where
  scheme : String := ""
  user : String := ""
  host : String := ""
  port : Option Int := none
  path : String := ""
  query : Option String := none
  fragment : Option String := none
  deriving DecidableEq, Repr, Inhabited

namespace Url

/-- Why a text is no address. -/
inductive Unread where
  | tooLong
  | unprintable (character : Char) (place : Nat)
  | badPort (text : String)
  | badAddress (version : Nat) (host : String)
  | pathWithoutSlash
  | pathWithTwoSlashes
  | pathWithColon
  deriving DecidableEq, Repr, Inhabited

/-- What is said of a text that is no address. -/
def Unread.message : Unread → String
  | .tooLong => "URL too long"
  | .unprintable character place =>
    "Invalid non-printable ASCII character in URL, " ++ Text.Quoted.shown [character] ++
      " at position " ++ toString place ++ "."
  | .badPort text => "Invalid port: " ++ Text.Quoted.shown text.toList
  | .badAddress version host =>
    "Invalid IPv" ++ toString version ++ " address: " ++ Text.Quoted.shown host.toList
  | .pathWithoutSlash => "For absolute URLs, path must be empty or begin with '/'"
  | .pathWithTwoSlashes => "Relative URLs cannot have a path starting with '//'"
  | .pathWithColon => "Relative URLs cannot have a path starting with ':'"

/-! ## Spelling -/

/-- A hexadecimal digit in upper case. -/
def hexDigit (value : Nat) : Char :=
  if value < 10 then Char.ofNat (48 + value) else Char.ofNat (55 + value)

/-- A character by the bytes of its encoding. -/
def escape (c : Char) : List Char :=
  (String.singleton c).toUTF8.toList.flatMap fun byte =>
    ['%', hexDigit (byte.toNat / 16), hexDigit (byte.toNat % 16)]

/-- Text in which all but printable ASCII characters outside of some set are escaped. What is
escaped already stays as it is. -/
def spell (unsafeChars : List Char) (text : List Char) : String :=
  String.ofList (text.flatMap fun c =>
    if '!' ≤ c && c ≤ '~' && !unsafeChars.contains c then [c] else escape c)

/-- What is escaped in a fragment. -/
def fragmentEscapes : List Char := ['\x22', '<', '>', '\x60']

/-- What is escaped in a query. -/
def queryEscapes : List Char := ['\x22', '#', '<', '>']

/-- What is escaped in a path. -/
def pathEscapes : List Char := queryEscapes ++ ['?', '\x60', '\x7b', '\x7d']

/-- What is escaped in the name of a user. -/
def userEscapes : List Char := pathEscapes ++ ['/', ';', '=', '@', '[', '\\', ']', '^', '|']

/-- What is escaped in a host. -/
def hostEscapes : List Char := ['#', '/', ':', '<', '>', '?', '@', '[', ']', '^']

/-! ## Hosts and ports -/

/-- Runs of digits with a character of any kind between each two, so many in all. -/
def isDigitRuns : Nat → List Char → Bool
  | _, [] => false
  | 0, c :: rest => c.isDigit && rest.all Char.isDigit
  | _ + 1, [_] => false
  | between + 1, c :: d :: rest =>
    c.isDigit && (isDigitRuns (between + 1) (d :: rest) || isDigitRuns between rest)

/-- Is it one of the four numbers of an address? -/
def isOctet (digits : List Char) : Bool :=
  match Schema.digits? digits with
  | some value =>
    digits.length ≤ 3 && value ≤ 255 && (digits.length == 1 || digits.head? != some '0')
  | none => false

/-- Is it an address of four numbers? -/
def isFourNumbers (text : List Char) : Bool :=
  let numbers := Text.splitOn (· == '.') text
  numbers.length == 4 && numbers.all isOctet

/-- A hexadecimal digit of either case. -/
def isHexDigit (c : Char) : Bool :=
  c.isDigit || ('a' ≤ c && c ≤ 'f') || ('A' ≤ c && c ≤ 'F')

/-- Is it one of the groups of a long address? -/
def isGroup (text : List Char) : Bool :=
  !text.isEmpty && text.length ≤ 4 && text.all isHexDigit

/-- How many groups stand between colons; an address of four numbers at the end counts as two. -/
def groups? (text : List Char) : Option Nat :=
  if text.isEmpty then some 0
  else
    let pieces := Text.splitOn (· == ':') text
    let last := pieces.getLastD []
    if pieces.dropLast.all isGroup then
      if isGroup last then some pieces.length
      else if isFourNumbers last then some (pieces.length + 1)
      else none
    else none

/-- The texts in front of and behind the first two colons in a row. -/
def splitGap? : List Char → Option (List Char × List Char)
  | ':' :: ':' :: rest => some ([], rest)
  | c :: rest => (splitGap? rest).map fun (before, behind) => (c :: before, behind)
  | [] => none

/-- Is it an address of eight groups, of which a run of zeros may be left out? -/
def isEightGroups (text : List Char) : Bool :=
  match splitGap? text with
  | none => groups? text == some 8
  | some (before, behind) =>
    match groups? before, groups? behind with
    | some first, some second => first + second ≤ 7 && !(before.contains '.')
    | _, _ => false

/-- The one spelling of a host. -/
def readHost (text : List Char) : Except Unread String :=
  let host := String.ofList text
  if text.isEmpty then .ok ""
  else if isDigitRuns 3 text then
    if isFourNumbers text then .ok host else .error (.badAddress 4 host)
  else if text.head? == some '[' && text.getLast? == some ']' then
    let inner := (text.drop 1).dropLast
    if isEightGroups (inner.takeWhile (· != '%')) then .ok (String.ofList inner)
    else .error (.badAddress 6 host)
  else .ok (spell hostEscapes (text.map Char.toLower))

/-- The port that a scheme has of its own. -/
def ownPort? (scheme : String) : Option Int :=
  [("ftp", 21), ("http", 80), ("https", 443), ("ws", 80), ("wss", 443)].lookup scheme

/-- A port; the scheme's own one counts as none. -/
def readPort (scheme : String) (text : List Char) : Except Unread (Option Int) :=
  let (negative, digits) := Schema.splitSign (Text.trim text)
  if text.isEmpty then .ok none
  else
    match (Schema.withoutUnderscores? digits).bind Schema.digits? with
    | none => .error (.badPort (String.ofList text))
    | some value =>
      let port : Int := if negative then -(value : Int) else value
      .ok (if ownPort? scheme == some port then none else some port)

/-! ## Paths -/

/-- A path without steps that stay or go back. A step back at the root stays there. -/
def settledPath (path : List Char) : List Char :=
  let steps := Text.splitOn (· == '/') path
  if !steps.contains ['.'] && !steps.contains ['.', '.'] then path
  else
    let kept := steps.foldl (fun kept step =>
      if step == ['.'] then kept
      else if step == ['.', '.'] then
        (if kept.isEmpty || kept == [[]] then kept else kept.dropLast)
      else kept ++ [step]) []
    (['/'] : List Char).intercalate kept

/-! ## Parts -/

/-- The scheme in front of a text, if there is one, and the rest. -/
def splitScheme (text : List Char) : List Char × List Char :=
  let isSchemeChar := fun (c : Char) => c.isAlphanum || c == '+' || c == '.' || c == '-'
  let scheme := text.takeWhile isSchemeChar
  match scheme, text.drop scheme.length with
  | [], ':' :: rest => ([], rest)
  | first :: _, ':' :: rest => if first.isAlpha then (scheme, rest) else ([], text)
  | _, _ => ([], text)

/-- What names the server in front of a text, if it is named, and the rest. -/
def splitAuthority : List Char → List Char × List Char
  | '/' :: '/' :: rest =>
    let isPart := fun c => c != '/' && c != '?' && c != '#'
    (rest.takeWhile isPart, rest.dropWhile isPart)
  | text => ([], text)

/-- The text in front of a mark, and the text behind it if the mark is there. -/
def splitMark (mark : Char) (text : List Char) : List Char × Option (List Char) :=
  match text.dropWhile (· != mark) with
  | [] => (text, none)
  | _ :: behind => (text.takeWhile (· != mark), some behind)

/-- The user, the host and the port. -/
def splitServer (authority : List Char) : List Char × List Char × List Char :=
  let (user, server) :=
    match splitMark '@' authority.reverse with
    | (server, some user) => (user.reverse, server.reverse)
    | (_, none) => ([], authority)
  let plain := server.takeWhile fun c => c != ':' && c != '@'
  let bracketed := Text.dropEndWhile (· != ']') server
  let host := if server.head? == some '[' && !bracketed.isEmpty then bracketed else plain
  match server.drop host.length with
  | ':' :: port => (user, host, port)
  | port => (user, host, port)

/-- The path must suit what stands before it. -/
def checkPath (hasScheme hasServer : Bool) (path : List Char) : Except Unread Unit :=
  if hasServer && !path.isEmpty && path.head? != some '/' then .error .pathWithoutSlash
  else if !hasScheme && !hasServer && path.take 2 == ['/', '/'] then .error .pathWithTwoSlashes
  else if !hasScheme && !hasServer && path.head? == some ':' then .error .pathWithColon
  else .ok ()

/-- The longest text that is read as an address. -/
def mostCharacters : Nat := 65536

/-- An ASCII character that is not printed. -/
def isUnprintable (c : Char) : Bool := c < ' ' || c == '\x7f'

/-- The parts of an address. -/
def parse (text : String) : Except Unread Url := do
  let chars := text.toList
  if chars.length > mostCharacters then throw .tooLong
  match chars.find? isUnprintable with
  | some c => throw (.unprintable c (chars.takeWhile (· != c)).length)
  | none => pure ()
  let (scheme, rest) := splitScheme chars
  let (authority, rest) := splitAuthority rest
  let (rest, fragment) := splitMark '#' rest
  let (path, query) := splitMark '?' rest
  let (user, host, port) := splitServer authority
  let user := spell userEscapes user
  let host ← readHost host
  let port ← readPort (String.ofList scheme) port
  let hasScheme := !scheme.isEmpty
  let hasServer := !user.isEmpty || !host.isEmpty || port.isSome
  checkPath hasScheme hasServer path
  let path := if hasScheme || hasServer then settledPath path else path
  return {
    scheme := String.ofList (scheme.map Char.toLower)
    user, host, port
    path := spell pathEscapes path
    query := query.map (spell queryEscapes)
    fragment := fragment.map (spell fragmentEscapes) }

/-- Does the address name both how and where? -/
def isAbsolute (url : Url) : Bool := !url.scheme.isEmpty && !url.host.isEmpty

/-- What names the server. -/
def server (url : Url) : String :=
  (if url.user.isEmpty then "" else url.user ++ "@") ++
    (if url.host.contains ':' then "[" ++ url.host ++ "]" else url.host) ++
    (match url.port with
      | some port => ":" ++ toString port
      | none => "")

/-- The text of an address. -/
def render (url : Url) : String :=
  (if url.scheme.isEmpty then "" else url.scheme ++ ":") ++
    (if url.server.isEmpty then "" else "//" ++ url.server) ++
    url.path ++
    (match url.query with
      | some query => "?" ++ query
      | none => "") ++
    (match url.fragment with
      | some fragment => "#" ++ fragment
      | none => "")

end Url

end Lectern.Web
