/-
Module: Lectern.Generation.Prompt
Purpose: What a model is asked: the rules it must keep, and either a topic and its audience or a
  rejected source and its errors.
Main exports: Prompt, Prompt.initial, Prompt.fix, Prompt.asText
-/
import Lectern.Lesson.Pedagogy
import Lectern.Module.Host
import Lectern.Safety.Check

namespace Lectern

/-- A prompt: the rules and the request. -/
structure Prompt where
  system : String
  user : String
  kind : String := "initial"
  deriving DecidableEq, Repr, Inhabited

namespace Prompt

/-- The prompt as one text, as it is kept in traces. -/
def asText (prompt : Prompt) : String :=
  "[system]\n" ++ prompt.system ++ "\n\n[user]\n" ++ prompt.user

/-- Read a prompt. -/
def read : Schema.Reader Prompt := Schema.record "Prompt" fun members =>
  Prompt.mk <$>
    Schema.required ["system"] Schema.text members <*>
    Schema.required ["user"] Schema.text members <*>
    Schema.optional ["kind"] Schema.text "initial" members

/-- A prompt as JSON. -/
def toJson (prompt : Prompt) : Json :=
  .obj [("system", .str prompt.system), ("user", .str prompt.user), ("kind", .str prompt.kind)]

/-- Lines of text, each with its end. -/
def lines (texts : List String) : String := String.join (texts.map (· ++ "\n"))

/-- The rules that every source must keep. -/
def rules : String := lines [
  "You are an expert React developer and educator. You write one complete,",
  "self-contained interactive lesson component per request.",
  "",
  "Output rules:",
  "- Output ONLY raw TSX source. No markdown fences, no commentary.",
  "- Export the component with \x60export default\x60.",
  "- Import nothing except from 'react'. React, ReactDOM and the hooks",
  "  " ++ ", ".intercalate Module.bannerHooks ++ " are available as globals.",
  "- Never call fetch, eval, Function, XMLHttpRequest, WebSocket, EventSource or",
  "  navigator.sendBeacon.",
  "- Never write absolute http(s) URLs. Draw diagrams with inline SVG; the SVG",
  "  namespace URI is allowed.",
  "- Do not use enums, namespaces or decorators.",
  "- Keep the source under " ++ toString (Safety.maxSourceBytes / 1024) ++ " KiB."]

/-- The wishes that go with accessibility preferences. -/
def accessibilityWishes (value : Accessibility) : List String :=
  (if value.highContrast then ["- Use high-contrast colors."] else []) ++
    (if value.captionsPreferred then ["- Provide text captions for every visual."] else [])

/-- The prompt for a first attempt. -/
def initial (topic : String) (pedagogy : Pedagogy) : Prompt where
  system := rules
  user := lines ([
    "Create an interactive lesson component about:",
    "",
    topic,
    "",
    "Audience:",
    "- Grade band: " ++ pedagogy.gradeBand.name,
    "- Reading level: " ++ pedagogy.readingLevel.name,
    "- Tone: " ++ pedagogy.tone.name,
    "- Cognitive load: " ++ pedagogy.cognitiveLoad.name,
    "",
    "Accessibility:",
    "- Minimum font size: " ++ toString pedagogy.accessibility.minFontSizePx ++ "px"] ++
    accessibilityWishes pedagogy.accessibility ++ [
    "",
    "Include explanations, at least one diagram and a short quiz with instant feedback."])
  kind := "initial"

/-- How much of a rejected source is quoted. -/
def maxEchoedSource : Nat := 60000

/-- A rejected source as it is quoted. -/
def echoed (source : String) : String :=
  if source.length > maxEchoedSource then
    String.ofList (source.toList.take maxEchoedSource) ++ "\n/* ...truncated... */"
  else source

/-- The prompt for an attempt that mends a rejected source. -/
def fix (topic source : String) (errors : List String) : Prompt where
  system := rules
  user := lines ([
    "The component you wrote for \x22" ++ topic ++ "\x22 was rejected.",
    "",
    "Errors:"] ++
    errors.map ("- " ++ ·) ++ [
    "",
    "Previous source:",
    "",
    echoed source,
    "",
    "Return the corrected component in full, following every output rule."])
  kind := "fix"

end Prompt

end Lectern
