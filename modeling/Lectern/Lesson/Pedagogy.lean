/-
Module: Lectern.Lesson.Pedagogy
Purpose: For whom a lesson is made: grade band, reading level, tone, cognitive load and
  accessibility preferences.
Main exports: Accessibility, Pedagogy, Pedagogy.read, Pedagogy.toJson, Accessibility.styleText
-/
import Lectern.Schema.Scalar

namespace Lectern

open Schema

/-! ## Accessibility -/

/-- Accessibility preferences. -/
structure Accessibility where
  minFontSizePx : Nat := 16
  highContrast : Bool := true
  captionsPreferred : Bool := false
  deriving DecidableEq, Repr, Inhabited

/-- How keys are spelled: with capitals inside, or with underscores. -/
inductive Spelling where
  | camel
  | snake
  deriving DecidableEq, Repr, Inhabited

/-- The spelling of a key, given both. -/
def Spelling.pick (spelling : Spelling) (camel snake : String) : String :=
  match spelling with
  | .camel => camel
  | .snake => snake

namespace Accessibility

/-- Both spellings of each key. -/
def keys : List (List String) :=
  [["minFontSizePx", "min_font_size_px"], ["highContrast", "high_contrast"],
    ["captionsPreferred", "captions_preferred"]]

/-- Read accessibility preferences. -/
def read : Reader Accessibility := stringKeys <| record "Accessibility" fun members =>
  (fun size contrast captions _ => ⟨size.toNat, contrast, captions⟩) <$>
    optional ["minFontSizePx", "min_font_size_px"] (atLeast 12 (atMost 24 whole)) 16 members <*>
    optional ["highContrast", "high_contrast"] flag true members <*>
    optional ["captionsPreferred", "captions_preferred"] flag false members <*>
    closed keys members

/-- Accessibility preferences as JSON. -/
def toJson (spelling : Spelling) (value : Accessibility) : Json :=
  .obj [(spelling.pick "minFontSizePx" "min_font_size_px", .nat value.minFontSizePx),
    (spelling.pick "highContrast" "high_contrast", .bool value.highContrast),
    (spelling.pick "captionsPreferred" "captions_preferred", .bool value.captionsPreferred)]

/-- The style rules that preferences ask for. -/
def styleText (value : Accessibility) : String :=
  let size :=
    "#lf-host \x7b font-size: " ++ toString value.minFontSizePx ++ "px; \x7d\n"
  if value.highContrast then
    size ++ "#lf-host \x7b --lf-muted: currentColor; --lf-border: currentColor; \x7d\n"
  else size

end Accessibility

/-! ## Pedagogy -/

/-- The grades a lesson is for. -/
inductive GradeBand where
  | upToSecond
  | thirdToFifth
  | sixthToEighth
  | ninthToTwelfth
  deriving DecidableEq, Repr, Inhabited

/-- The name of a grade band. -/
def GradeBand.name : GradeBand → String
  | .upToSecond => "K-2"
  | .thirdToFifth => "3-5"
  | .sixthToEighth => "6-8"
  | .ninthToTwelfth => "9-12"

/-- How well the audience reads. -/
inductive ReadingLevel where
  | emergent
  | basic
  | intermediate
  | advanced
  deriving DecidableEq, Repr, Inhabited

/-- The name of a reading level. -/
def ReadingLevel.name : ReadingLevel → String
  | .emergent => "emergent"
  | .basic => "basic"
  | .intermediate => "intermediate"
  | .advanced => "advanced"

/-- How a lesson speaks to its audience. -/
inductive Tone where
  | friendly
  | neutral
  | formal
  deriving DecidableEq, Repr, Inhabited

/-- The name of a tone. -/
def Tone.name : Tone → String
  | .friendly => "friendly"
  | .neutral => "neutral"
  | .formal => "formal"

/-- How much a lesson asks of its audience at once. -/
inductive CognitiveLoad where
  | low
  | medium
  | high
  deriving DecidableEq, Repr, Inhabited

/-- The name of a cognitive load. -/
def CognitiveLoad.name : CognitiveLoad → String
  | .low => "low"
  | .medium => "medium"
  | .high => "high"

/-- For whom a lesson is made. -/
structure Pedagogy where
  gradeBand : GradeBand := .thirdToFifth
  readingLevel : ReadingLevel := .basic
  tone : Tone := .friendly
  cognitiveLoad : CognitiveLoad := .low
  accessibility : Accessibility := {}
  deriving DecidableEq, Repr, Inhabited

namespace Pedagogy

/-- Both spellings of each key. -/
def keys : List (List String) :=
  [["gradeBand", "grade_band"], ["readingLevel", "reading_level"],
    ["languageTone", "language_tone"], ["cognitiveLoad", "cognitive_load"], ["accessibility"]]

/-- Read a pedagogy. -/
def read : Reader Pedagogy := stringKeys <| record "PedagogyConfig" fun members =>
  (fun band level tone load accessibility _ => ⟨band, level, tone, load, accessibility⟩) <$>
    optional ["gradeBand", "grade_band"]
      (among GradeBand.name [.upToSecond, .thirdToFifth, .sixthToEighth, .ninthToTwelfth])
      .thirdToFifth members <*>
    optional ["readingLevel", "reading_level"]
      (among ReadingLevel.name [.emergent, .basic, .intermediate, .advanced]) .basic members <*>
    optional ["languageTone", "language_tone"]
      (among Tone.name [.friendly, .neutral, .formal]) .friendly members <*>
    optional ["cognitiveLoad", "cognitive_load"]
      (among CognitiveLoad.name [.low, .medium, .high]) .low members <*>
    optional ["accessibility"] Accessibility.read {} members <*>
    closed keys members

/-- A pedagogy as JSON. -/
def toJson (spelling : Spelling) (value : Pedagogy) : Json :=
  .obj [(spelling.pick "gradeBand" "grade_band", .str value.gradeBand.name),
    (spelling.pick "readingLevel" "reading_level", .str value.readingLevel.name),
    (spelling.pick "languageTone" "language_tone", .str value.tone.name),
    (spelling.pick "cognitiveLoad" "cognitive_load", .str value.cognitiveLoad.name),
    ("accessibility", value.accessibility.toJson spelling)]

end Pedagogy

end Lectern
