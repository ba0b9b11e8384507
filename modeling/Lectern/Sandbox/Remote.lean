/-
Module: Lectern.Sandbox.Remote
Purpose: Fetching the module of a lesson from a server.
Main exports: Remote.moduleAddress, Remote.fetch
-/
import Lectern.Lesson.Failure
import Lectern.Web.Message

namespace Lectern.Sandbox.Remote

open Lectern.Web

/-- What comes of a request. -/
inductive Reply where
  | answered (status : Int) (text : String)
  /-- The server is not reached. -/
  | unreached (message : String)
  deriving DecidableEq, Repr, Inhabited

/-- The seconds that are waited for a server. -/
def usualTimeout : Float := 10.0

/-- Where a module is fetched from: the reference itself if it names a server, else the reference
below the base. -/
def moduleAddress (base reference : String) : String :=
  if reference.startsWith "http://" || reference.startsWith "https://" then reference
  else
    let isSlash := (· == '/')
    String.ofList (Text.dropEndWhile isSlash base.toList) ++ "/" ++
      String.ofList (reference.toList.dropWhile isSlash)

/-- A module that could not be fetched. -/
def fetchFailure (detail cause : String) : Failure :=
  .sandbox ("Module fetch failed: " ++ detail) none (some cause)

/-- Where a status is explained. -/
def helpPage (status : Int) : Url where
  scheme := "https"
  host := "developer.mozilla.org"
  path := "/en-US/docs/Web/HTTP/Status/" ++ toString status

/-- What is said of an answer that is no success. -/
def statusMessage (status : Int) (address : String) : String :=
  Status.className status ++ " '" ++ toString status ++ " " ++ Status.phrase status ++
    "' for url '" ++ address ++ "'\nFor more information check: " ++ (helpPage status).render

/-- The address as it is requested. Without a server it is a path from the root. -/
def requestAddress (url : Url) : String :=
  if url.isAbsolute then url.render
  else
    let path := String.ofList (url.path.toList.dropWhile (· == '/'))
    ({ path := "/" ++ path, query := url.query } : Url).render

/-- The text of a module, by what comes of the one request; and the addresses requested. -/
def fetch (base reference : String) (reply : Reply) : Except Failure String × List String :=
  match Url.parse (moduleAddress base reference) with
  | .error fault => (.error (.outside "InvalidURL" fault.message), [])
  | .ok url =>
    let address := requestAddress url
    let result := match reply with
      | .unreached message => .error (fetchFailure message "ConnectError")
      | .answered status text =>
        if !url.isAbsolute then
          .error (.outside "ValueError"
            ("unknown url type: " ++ Text.Quoted.shown address.toList))
        else if Status.isSuccess status then .ok text
        else .error (fetchFailure (statusMessage status address) "HTTPStatusError")
    (result, [address])

end Lectern.Sandbox.Remote
