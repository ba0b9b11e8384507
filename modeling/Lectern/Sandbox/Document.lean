/-
Module: Lectern.Sandbox.Document
Purpose: The document of a frame and the script of a shadow root: what loads the module of a lesson
  and renders it.
Main exports: FrameDocument, FrameDocument.render, bootstrapScript
-/
import Lectern.Page.Tree
import Lectern.Sandbox.Scripts
import Lectern.Text.Quoted

namespace Lectern.Sandbox

/-- A text as a literal of a script. -/
def scriptLiteral (text : String) : String := Text.Quoted.script text.toList

/-! ## Frames -/

/-- What the document of a frame may load: scripts of its own, styles and data, and nothing from the
network. -/
def framePolicy : String :=
  "; ".intercalate [
    "default-src 'none'",
    "script-src 'self' 'unsafe-inline' blob:",
    "style-src 'unsafe-inline'",
    "img-src data: blob:",
    "font-src data:",
    "connect-src 'none'",
    "form-action 'none'",
    "base-uri 'none'"]

/-- What goes into the document of a frame. -/
structure FrameDocument where
  runtimeScriptUrl : String
  domScriptUrl : String
  styleText : String
  moduleHandle : String
  mountVersion : Int
  deriving DecidableEq, Repr, Inhabited

namespace FrameDocument

/-- The head: the policy, the styles, the libraries and the guard. -/
def head (document : FrameDocument) : String := joinLines [
  "<!doctype html>",
  "<html lang=\"en\">",
  "<head>",
  "<meta charset=\"utf-8\">",
  "<meta http-equiv=\"Content-Security-Policy\" content=\"" ++ framePolicy ++ "\">",
  "<style data-lf-preset=\"" ++ presetVersion ++ "\">" ++ Markup.withoutEndTags presetStyle ++
    "</style>",
  "<style data-lf-bundle>" ++ Markup.withoutEndTags document.styleText ++ "</style>",
  "<script src=\"" ++ document.runtimeScriptUrl ++ "\"></script>",
  "<script src=\"" ++ document.domScriptUrl ++ "\"></script>",
  "<script>",
  guardScript,
  "</script>",
  "</head>"]

/-- How a script in the frame tells the page around it of an error. -/
def reportScript (document : FrameDocument) : String := joinLines [
  "function reportError(message) \x7b",
  "  window.parent.postMessage(",
  "    \x7b type: \"lessonforge:error\", mountVersion: " ++ toString document.mountVersion ++
    ", message: message \x7d,",
  "    \"*\"",
  "  );",
  "\x7d"]

/-- The body: where the lesson goes, and the script that puts it there. -/
def body (document : FrameDocument) : String :=
  joinLines [
    "<body>",
    "<div id=\"lf-host\"></div>",
    "<div id=\"lf-portal-root\"></div>",
    "<script type=\"module\">"] ++
  document.reportScript ++ errorBoundaryScript ++ "\n" ++
  joinLines (
    ("window.addEventListener(\"error\", function (event) \x7b " ++
      "reportError(String(event.message)); \x7d);")
    :: renderLines (scriptLiteral document.moduleHandle) "document.getElementById(\"lf-host\")") ++
  joinLines ["</script>", "</body>", "</html>"]

/-- The document as text. -/
def render (document : FrameDocument) : String := document.head ++ document.body

end FrameDocument

/-! ## Shadow roots -/

/-- The script that renders the module behind a handle into the shadow root of its mount. It finds
both by the version of the mount. -/
def bootstrapScript (moduleHandle : String) (mountVersion : Int) : String :=
  let version := toString mountVersion
  joinLines [
    "const mount = document.querySelector(" ++
      scriptLiteral ("[data-lf-mount=\"" ++ version ++ "\"]") ++ ");",
    "const shadow = mount && mount.shadowRoot;",
    "function reportError(message) \x7b",
    "  mount && mount.dispatchEvent(",
    "    new CustomEvent(\"lessonforge:error\", \x7b",
    "      detail: \x7b mountVersion: " ++ version ++ ", message: message \x7d,",
    "      bubbles: true,",
    "      composed: true",
    "    \x7d)",
    "  );",
    "\x7d"] ++
  errorBoundaryScript ++ "\n" ++
  joinLines (renderLines (scriptLiteral moduleHandle)
    ("shadow.querySelector(" ++ scriptLiteral ("[data-lf-version=\"" ++ version ++ "\"]") ++ ")"))

end Lectern.Sandbox
