/-
Module: Lectern.Web.Origin
Purpose: Which sites may use the server from their pages, and how a browser is told.
Main exports: Origins, Origins.preflight?, Origins.tell
-/
import Lectern.Web.Message

namespace Lectern.Web

/-- The sites whose pages may use the server. A star stands for all. -/
abbrev Origins := List String

namespace Origins

/-- The header that names an admitted site. -/
def admittedHeader : String := "access-control-allow-origin"

/-- The methods that pages of other sites may use. -/
def methods : List String := ["GET", "POST"]

/-- May all sites use the server? -/
def admitAll (origins : Origins) : Bool := origins.contains "*"

/-- May a site use the server? -/
def admits (origins : Origins) (site : String) : Bool := origins.admitAll || origins.contains site

/-- What is said to a browser that asks ahead, with the site it asks for and the method. -/
def preflight (origins : Origins) (site method : String) : Response :=
  let refused := (if origins.admits site then [] else ["origin"]) ++
    (if methods.contains method then [] else ["method"])
  let response :=
    if refused.isEmpty then Response.ofText 200 "OK"
    else Response.ofText 400 ("Disallowed CORS " ++ ", ".intercalate refused)
  if origins.admitAll then response.withHeader admittedHeader "*"
  else if origins.admits site then response.withHeader admittedHeader site
  else response

/-- The response to a browser that asks ahead, if that is what a request is. -/
def preflight? (origins : Origins) (request : Request) : Option Response :=
  if origins.isEmpty || request.method != "OPTIONS" then none
  else
    match request.header? "origin", request.header? "access-control-request-method" with
    | some site, some method => some (origins.preflight site method)
    | _, _ => none

/-- A response that says whether the site of the request may see it. -/
def tell (origins : Origins) (request : Request) (response : Response) : Response :=
  match request.header? "origin" with
  | none => response
  | some site =>
    if origins.admitAll then
      response.withHeader admittedHeader
        (if (request.header? "cookie").isSome then site else "*")
    else if origins.contains site then response.withHeader admittedHeader site
    else response

end Origins

end Lectern.Web
