/-
Module: Lectern.Proofs.Sandbox.FrameText
Purpose: What goes into the document of a frame stays where it is put. No style and no handle ends
  the element or the literal that it stands in, and a literal gives back what it was made from. The
  addresses of the libraries are put between quotes as they are: nothing else in the document depends
  on them, but one that holds a quote or a reference is read as another one.
Trusted boundary: none
Main exports: Text.Quoted.behindQuote, FrameDocument.Contained, FrameDocument.assembled,
  FrameDocument.render_parts, FrameDocument.render_contained, readValue, ReadsAsItself,
  FrameDocument.sources_read_iff
-/
import Lectern.Proofs.Json.ReadBack
import Lectern.Proofs.Page.EndTags
import Lectern.Sandbox.Document
import Lectern.Settings.Basic
import Lectern.Text.References

namespace Lectern

namespace Text.Quoted

/-! ## Literals inside of a page -/

/-- The text behind the first quote that no backslash stands in front of. -/
def behindQuote : List Char → Option (List Char)
  | '\\' :: _ :: rest => behindQuote rest
  | '\x22' :: rest => some rest
  | _ :: rest => behindQuote rest
  | [] => none

/-- A text that a literal goes on behind. -/
def Inside (text : List Char) : Prop := ∀ rest, behindQuote (text ++ rest) = behindQuote rest

/-- A visible character, or a blank, that is no bracket of a tag. -/
def isSafe (c : Char) : Bool := ' ' ≤ c && c ≤ '~' && c != '<' && c != '>'

theorem Inside.append {text other : List Char} (inside : Inside text) (also : Inside other) :
    Inside (text ++ other) := by
  intro rest
  rw [List.append_assoc, inside, also]

theorem inside_escaped (c : Char) : Inside ['\\', c] := fun _ => rfl

theorem inside_single {c : Char} (quote : c ≠ '\x22') (backslash : c ≠ '\\') : Inside [c] := by
  intro rest
  rw [List.singleton_append, behindQuote]
  · intro _ _ same
    exact absurd same backslash
  · intro same
    exact absurd same quote

private theorem hexDigit_safe : ∀ value < 16,
    isSafe (hexDigit value) = true ∧ hexDigit value ≠ '\x22' ∧ hexDigit value ≠ '\\' := by
  decide

private theorem unit_stays (value : Nat) :
    Inside (unit value) ∧ ∀ c ∈ unit value, isSafe c = true := by
  have digit (value : Nat) := hexDigit_safe (value % 16) (Nat.mod_lt _ (by decide))
  constructor
  · have single (value : Nat) : Inside [hexDigit (value % 16)] :=
      inside_single (digit value).2.1 (digit value).2.2
    exact (inside_escaped 'u').append ((single _).append ((single _).append
      ((single _).append (single _))))
  · simp only [unit, List.forall_mem_cons, List.not_mem_nil, false_implies, implies_true, and_true]
    exact ⟨by decide, by decide, (digit _).1, (digit _).1, (digit _).1, (digit _).1⟩

private theorem escape_stays (c : Char) :
    Inside (escape c) ∧ ∀ part ∈ escape c, isSafe part = true := by
  unfold escape
  dsimp only
  split
  · exact unit_stays _
  · constructor
    · exact (unit_stays _).1.append (unit_stays _).1
    · exact List.forall_mem_append.mpr ⟨(unit_stays _).2, (unit_stays _).2⟩

private theorem scriptChar_stays (c : Char) :
    Inside (scriptChar c) ∧ ∀ part ∈ scriptChar c, isSafe part = true := by
  unfold scriptChar
  split
  next => exact unit_stays _
  next plain =>
    unfold asciiChar
    split
    next text escaped =>
      unfold shortEscape at escaped
      split at escaped
      all_goals
        cases escaped
        try exact ⟨inside_escaped _, List.all_eq_true.mp rfl⟩
    next unescaped =>
      split
      next visible =>
        constructor
        · apply inside_single
          · rintro rfl
            cases unescaped
          · rintro rfl
            cases unescaped
        · simp_all [isSafe]
      next => exact escape_stays c

/-- A literal goes on until its last quote, whatever it is made from and whatever follows it, and
none of its characters ends a line or is a bracket of a tag. -/
theorem script_stays (text : List Char) :
    Inside (text.flatMap scriptChar) ∧ ∀ c ∈ text.flatMap scriptChar, isSafe c = true := by
  induction text with
  | nil => exact ⟨fun _ => rfl, by simp⟩
  | cons c text inductionHypothesis =>
      rw [List.flatMap_cons]
      constructor
      · exact (scriptChar_stays c).1.append inductionHypothesis.1
      · exact List.forall_mem_append.mpr ⟨(scriptChar_stays c).2, inductionHypothesis.2⟩

end Text.Quoted

namespace Sandbox

open Markup (endTags withoutEndTags)

/-! ## Lines -/

theorem joinLines_append (lines others : List String) :
    joinLines (lines ++ others) = joinLines lines ++ joinLines others := by
  simp [joinLines, String.join_append]

theorem joinLines_cons (line : String) (lines : List String) :
    joinLines (line :: lines) = line ++ "\n" ++ joinLines lines := by
  simp [joinLines, String.join_cons]

/-- The end tags of a text are those of its first line and of the others. -/
private theorem endTags_lines {line : String} {lines names others : List String}
    (here : endTags line.toList = names) (below : endTags (joinLines lines).toList = others) :
    endTags (joinLines (line :: lines)).toList = names ++ others := by
  have parted : (joinLines (line :: lines)).toList =
      line.toList ++ '\n' :: (joinLines lines).toList := by
    simp [joinLines_cons]
  rw [parted, Markup.endTags_cut (by decide), here, below]

private theorem endTags_noLines : endTags (joinLines []).toList = [] := by
  simp [joinLines, endTags]

/-- Lines end with a cut. -/
private theorem endTags_joinLines (lines : List String) (rest : List Char) :
    endTags ((joinLines lines).toList ++ rest) =
      endTags (joinLines lines).toList ++ endTags rest := by
  induction lines with
  | nil => simp [joinLines, endTags]
  | cons line lines inductionHypothesis =>
      have parted : (joinLines (line :: lines)).toList ++ rest =
          line.toList ++ '\n' :: ((joinLines lines).toList ++ rest) := by
        simp [joinLines_cons]
      rw [parted, Markup.endTags_cut (by decide), inductionHypothesis, endTags_lines rfl rfl,
        List.append_assoc]

private theorem tagless_cons {line : String} {lines names : List String}
    (tagless : endTags line.toList = []) (below : endTags (joinLines lines).toList = names) :
    endTags (joinLines (line :: lines)).toList = names :=
  endTags_lines tagless below

private theorem tagged_cons {line name : String} {lines names : List String}
    (tagged : endTags line.toList = [name]) (below : endTags (joinLines lines).toList = names) :
    endTags (joinLines (line :: lines)).toList = name :: names :=
  endTags_lines tagged below

/-- A line that is written out is looked at letter by letter. -/
private theorem endTags_literal {letters : List Char} {names : List String}
    (held : endTags letters = names) : endTags (String.ofList letters).toList = names := by
  rwa [String.toList_ofList]

/-- Text in which no tag opens has no end tags. -/
theorem endTags_of_not_mem {text : List Char} (closed : '<' ∉ text) : endTags text = [] := by
  have skipped := Markup.endTags_append_of_not_mem closed []
  rwa [List.append_nil] at skipped

private theorem not_mem_literal {letters : List Char} (free : '<' ∉ letters) :
    '<' ∉ (String.ofList letters).toList := by
  rwa [String.toList_ofList]

private theorem not_mem_append {text other : String} (free : '<' ∉ text.toList)
    (also : '<' ∉ other.toList) : '<' ∉ (text ++ other).toList := by
  rw [String.toList_append, List.mem_append, not_or]
  exact ⟨free, also⟩

theorem endTags_guardScript : endTags guardScript.toList = [] := by
  unfold guardScript
  repeat
    first
    | with_reducible refine tagless_cons (endTags_literal (by decide)) ?_
    | with_reducible refine tagless_cons (endTags_of_not_mem (not_mem_append
        (not_mem_literal (by decide)) (not_mem_literal (by decide)))) ?_
  exact endTags_noLines

theorem endTags_errorBoundaryScript : endTags errorBoundaryScript.toList = [] := by
  unfold errorBoundaryScript
  repeat refine tagless_cons (endTags_literal (by decide)) ?_
  exact endTags_noLines

theorem not_mem_toString (value : Int) : '<' ∉ (toString value).toList := by
  have digits (value : Nat) : '<' ∉ Nat.toDigits 10 value := by
    intro member
    have digit := Nat.isDigit_of_mem_toDigits (by decide) (by decide) member
    cases digit
  rw [Json.Parser.toList_int]
  split
  · exact digits _
  · simp [digits]

/-- A literal between its quotes. -/
theorem toList_scriptLiteral (text : String) : (scriptLiteral text).toList =
    '\x22' :: (text.toList.flatMap Text.Quoted.scriptChar ++ ['\x22']) :=
  String.toList_ofList

theorem not_mem_scriptLiteral (text : String) : '<' ∉ (scriptLiteral text).toList := by
  have safe := (Text.Quoted.script_stays text.toList).2
  rw [toList_scriptLiteral]
  simp only [List.mem_cons, List.mem_append, List.not_mem_nil, or_false, not_or]
  exact ⟨by decide, fun held => absurd (safe _ held) (by decide), by decide⟩

namespace FrameDocument

/-- The element that loads a script from an address. -/
def sourceElement (url : String) : String := "<script src=\"" ++ url ++ "\"></script>"

private theorem head_parts : ∃ opening closing : String, ∀ document : FrameDocument,
    document.head = opening ++ "<style data-lf-bundle>" ++ withoutEndTags document.styleText ++
      "</style>\n" ++ sourceElement document.runtimeScriptUrl ++ "\n" ++
      sourceElement document.domScriptUrl ++ "\n" ++ closing := by
  have ends : "</style>\n" = "</style>" ++ "\n" := rfl
  have parts (before after : List String) (style runtime dom : String) :
      joinLines (before ++ ("<style data-lf-bundle>" ++ style ++ "</style>") ::
        ("<script src=\"" ++ runtime ++ "\"></script>") ::
        ("<script src=\"" ++ dom ++ "\"></script>") :: after) =
      joinLines before ++ "<style data-lf-bundle>" ++ style ++ "</style>\n" ++
        sourceElement runtime ++ "\n" ++ sourceElement dom ++ "\n" ++ joinLines after := by
    rw [joinLines_append, joinLines_cons, joinLines_cons, joinLines_cons, ends]
    unfold sourceElement
    simp only [String.append_assoc]
  exact ⟨_, _, fun document => parts [_, _, _, _, _, _] [_, _, _, _] _ _ _⟩

private theorem body_parts : ∃ opening between closing : String, ∀ document : FrameDocument,
    document.body = opening ++ "mountVersion: " ++ toString document.mountVersion ++ "," ++
      between ++ "import(" ++ scriptLiteral document.moduleHandle ++ ");" ++ closing := by
  have version : "    \x7b type: \"lessonforge:error\", mountVersion: " =
      "    \x7b type: \"lessonforge:error\", " ++ "mountVersion: " := rfl
  have message : ", message: message \x7d," = "," ++ " message: message \x7d," := rfl
  have load : "  const \x7b default: Component \x7d = await import(" =
      "  const \x7b default: Component \x7d = await " ++ "import(" := rfl
  have parts (opening between closing : String) (before after before' after' : List String)
      (number literal : String) :
      opening ++ joinLines (before ++ ("    \x7b type: \"lessonforge:error\", mountVersion: " ++
        number ++ ", message: message \x7d,") :: after) ++ between ++ "\n" ++
        joinLines (before' ++ ("  const \x7b default: Component \x7d = await import(" ++ literal ++
          ");") :: after') ++ closing =
      (opening ++ joinLines before ++ "    \x7b type: \"lessonforge:error\", ") ++
        "mountVersion: " ++ number ++ "," ++
        (" message: message \x7d," ++ "\n" ++ joinLines after ++ between ++ "\n" ++
          joinLines before' ++ "  const \x7b default: Component \x7d = await ") ++
        "import(" ++ literal ++ ");" ++ ("\n" ++ joinLines after' ++ closing) := by
    rw [joinLines_append, joinLines_append, joinLines_cons, joinLines_cons, version, message, load]
    simp only [String.append_assoc]
  exact ⟨_, _, _, fun document => by
    unfold body reportScript renderLines
    exact parts _ _ _ [_, _] [_, _, _] [_, _] [_, _, _, _, _, _] _ _⟩

/-- The text of a style does not reach behind the end tag of its element. -/
private theorem endTags_style {opening tag : String} (tagged : opening = tag ++ ">")
    (text : String) : endTags (opening ++ withoutEndTags text ++ "</style>").toList =
      endTags tag.toList ++ ["style"] := by
  have parted : (opening ++ withoutEndTags text ++ "</style>").toList =
      tag.toList ++ '>' :: ((withoutEndTags text).toList ++ '<' :: "/style>".toList) := by
    simp [tagged]
  rw [parted, Markup.endTags_cut (by decide),
    Markup.endTags_append_bracket (Markup.unended_withoutEndTags text)]
  simp [endTags, Markup.isNameChar]

private theorem endTags_sourceElement (url : String) :
    endTags (sourceElement url).toList = endTags url.toList ++ ["script"] := by
  have parted : (sourceElement url).toList =
      "<script src=".toList ++ '\x22' :: (url.toList ++ '\x22' :: "></script>".toList) := by
    simp [sourceElement]
  rw [parted, Markup.endTags_cut (by decide), Markup.endTags_cut (by decide)]
  simp [endTags, Markup.isNameChar]

private theorem not_mem_framePolicy : '<' ∉ framePolicy.toList := by
  have joined {parts : List String} (free : ∀ part ∈ parts, '<' ∉ part.toList) :
      '<' ∉ ("; ".intercalate parts).toList := by
    induction parts with
    | nil => simp
    | cons part parts inductionHypothesis =>
        obtain ⟨first, free⟩ := List.forall_mem_cons.mp free
        cases parts with
        | nil => simpa using first
        | cons next parts =>
            rw [String.intercalate_cons_cons]
            exact not_mem_append (not_mem_append first (by simp)) (inductionHypothesis free)
  unfold framePolicy
  apply joined
  repeat refine List.forall_mem_cons.mpr ⟨not_mem_literal (by decide), ?_⟩
  exact nofun

private theorem endTags_policy :
    endTags ("<meta http-equiv=\"Content-Security-Policy\" content=\"" ++ framePolicy ++
      "\">").toList = [] := by
  have opening : "<meta http-equiv=\"Content-Security-Policy\" content=\"" =
    "<meta http-equiv" ++ "=" ++ "\"Content-Security-Policy\" content=\"" := rfl
  have parted : ("<meta http-equiv=\"Content-Security-Policy\" content=\"" ++ framePolicy ++
      "\">").toList = "<meta http-equiv".toList ++
        '=' :: ("\"Content-Security-Policy\" content=\"" ++ framePolicy ++ "\">").toList := by
    rw [opening]
    simp only [String.toList_append, List.append_assoc]
    rfl
  have free : '<' ∉ ("\"Content-Security-Policy\" content=\"" ++ framePolicy ++ "\">").toList :=
    not_mem_append (not_mem_append (not_mem_literal (by decide)) not_mem_framePolicy)
      (not_mem_literal (by decide))
  have tagless : endTags "<meta http-equiv".toList = [] := endTags_literal (by decide)
  rw [parted, Markup.endTags_cut (by decide), endTags_of_not_mem free, tagless]
  rfl

theorem endTags_head (document : FrameDocument) : endTags document.head.toList =
    "style" :: "style" :: (endTags document.runtimeScriptUrl.toList ++ ["script"] ++
      (endTags document.domScriptUrl.toList ++ ["script"] ++ ["script", "head"])) := by
  unfold head
  repeat with_reducible refine tagless_cons (endTags_literal (by decide)) ?_
  refine tagless_cons endTags_policy ?_
  refine tagged_cons (@endTags_style _ "<style data-lf-preset=\"2\"" rfl presetStyle) ?_
  refine tagged_cons (@endTags_style _ "<style data-lf-bundle" rfl document.styleText) ?_
  refine endTags_lines (endTags_sourceElement document.runtimeScriptUrl) ?_
  refine endTags_lines (endTags_sourceElement document.domScriptUrl) ?_
  refine tagless_cons (endTags_literal (by decide)) ?_
  refine tagless_cons endTags_guardScript ?_
  refine tagged_cons (endTags_literal (by decide)) ?_
  exact tagged_cons (endTags_literal (by decide)) endTags_noLines

private theorem endTags_reportScript (document : FrameDocument) :
    endTags document.reportScript.toList = [] := by
  have version : '<' ∉ ("    \x7b type: \"lessonforge:error\", mountVersion: " ++
      toString document.mountVersion ++ ", message: message \x7d,").toList :=
    not_mem_append (not_mem_append (not_mem_literal (by decide)) (not_mem_toString _))
      (not_mem_literal (by decide))
  unfold reportScript
  repeat with_reducible refine tagless_cons (endTags_literal (by decide)) ?_
  refine tagless_cons (endTags_of_not_mem version) ?_
  repeat with_reducible refine tagless_cons (endTags_literal (by decide)) ?_
  exact endTags_noLines

/-- The lines that load a module have no end tags, whatever stands in the literals of its handle and
of its place. -/
private theorem endTags_renderLines {handle target : String} (free : '<' ∉ handle.toList)
    (also : '<' ∉ target.toList) : endTags (joinLines (renderLines handle target)).toList = [] := by
  have load : '<' ∉ ("  const \x7b default: Component \x7d = await import(" ++ handle ++
      ");").toList :=
    not_mem_append (not_mem_append (not_mem_literal (by decide)) free)
      (not_mem_literal (by decide))
  have root : '<' ∉ ("  ReactDOM.createRoot(" ++ target ++ ").render(").toList :=
    not_mem_append (not_mem_append (not_mem_literal (by decide)) also)
      (not_mem_literal (by decide))
  unfold renderLines
  refine tagless_cons (endTags_literal (by decide)) ?_
  refine tagless_cons (endTags_of_not_mem load) (tagless_cons (endTags_of_not_mem root) ?_)
  repeat refine tagless_cons (endTags_literal (by decide)) ?_
  exact endTags_noLines

theorem endTags_body (document : FrameDocument) :
    endTags document.body.toList = ["div", "div", "script", "body", "html"] := by
  have places : endTags (joinLines ["<body>", "<div id=\"lf-host\"></div>",
      "<div id=\"lf-portal-root\"></div>", "<script type=\"module\">"]).toList =
        ["div", "div"] := by
    refine tagless_cons (endTags_literal (by decide)) ?_
    refine tagged_cons (endTags_literal (by decide)) ?_
    refine tagged_cons (endTags_literal (by decide)) ?_
    exact tagless_cons (endTags_literal (by decide)) endTags_noLines
  have boundary (rest : List Char) :
      endTags (errorBoundaryScript.toList ++ ("\n".toList ++ rest)) = endTags rest := by
    have lineEnd : "\n".toList = ['\n'] := by simp
    rw [lineEnd, List.singleton_append, Markup.endTags_cut (by decide),
      endTags_errorBoundaryScript, List.nil_append]
  have listen : '<' ∉ ("window.addEventListener(\"error\", function (event) \x7b " ++
      "reportError(String(event.message)); \x7d);").toList :=
    not_mem_append (not_mem_literal (by decide)) (not_mem_literal (by decide))
  have loading := tagless_cons (endTags_of_not_mem listen) (endTags_renderLines
    (not_mem_scriptLiteral document.moduleHandle)
    (not_mem_literal (by decide) : '<' ∉ "document.getElementById(\"lf-host\")".toList))
  have last : endTags (joinLines ["</script>", "</body>", "</html>"]).toList =
      ["script", "body", "html"] := by
    refine tagged_cons (endTags_literal (by decide)) ?_
    refine tagged_cons (endTags_literal (by decide)) ?_
    exact tagged_cons (endTags_literal (by decide)) endTags_noLines
  have report := endTags_reportScript document
  unfold reportScript at report
  unfold body reportScript
  rw [String.toList_append, String.toList_append, String.toList_append, String.toList_append,
    String.toList_append, List.append_assoc, List.append_assoc, List.append_assoc,
    List.append_assoc, endTags_joinLines, places, endTags_joinLines, report, boundary,
    endTags_joinLines, loading, last]
  rfl

/-- The end tags of a document are those of its elements. -/
theorem endTags_render (document : FrameDocument) : endTags document.render.toList =
    ["style", "style"] ++ endTags document.runtimeScriptUrl.toList ++ ["script"] ++
      endTags document.domScriptUrl.toList ++ ["script", "script", "head", "div", "div", "script",
        "body", "html"] := by
  have ended : ∃ lines, document.head = joinLines lines := ⟨_, rfl⟩
  obtain ⟨lines, ended⟩ := ended
  have head := endTags_head document
  rw [render, String.toList_append, ended, endTags_joinLines, ← ended, head, endTags_body]
  simp only [List.append_assoc, List.cons_append, List.nil_append]

/-! ## What is put in -/

/-- What is put into a document stays where it is put. -/
structure Contained (document : FrameDocument) : Prop where
  /-- Behind the styles and the handle there are no end tags but those of the document. -/
  endTags : Markup.endTags document.render.toList =
    ["style", "style"] ++ Markup.endTags document.runtimeScriptUrl.toList ++ ["script"] ++
      Markup.endTags document.domScriptUrl.toList ++ ["script", "script", "head", "div", "div",
        "script", "body", "html"]
  style : ¬ ['<', '/'] <:+: (withoutEndTags document.styleText).toList
  /-- The literal of the handle ends with its own quote, whatever stands behind it. No character in
  it ends a line or is a bracket of a tag. -/
  literal : ∃ inside,
    (scriptLiteral document.moduleHandle).toList = '\x22' :: (inside ++ ['\x22']) ∧
    (∀ rest, Text.Quoted.behindQuote (inside ++ '\x22' :: rest) = some rest) ∧
    ∀ c ∈ inside, ' ' ≤ c ∧ c ≤ '~' ∧ c ≠ '<' ∧ c ≠ '>'
  decoded : Json.parse (scriptLiteral document.moduleHandle) = .ok (.str document.moduleHandle)

theorem contains (document : FrameDocument) : document.Contained := by
  obtain ⟨stays, safe⟩ := Text.Quoted.script_stays document.moduleHandle.toList
  refine ⟨endTags_render document, Markup.unended_withoutEndTags _, ⟨_, toList_scriptLiteral _,
    fun rest => ?_, fun c member => ?_⟩, ?_⟩
  · rw [stays]
    rfl
  · have visible := safe c member
    simpa [Text.Quoted.isSafe, and_assoc] using visible
  · rw [scriptLiteral, Json.parse_script, String.ofList_toList]

/-- Four texts, and between them what is put into a document: the style, the addresses, the version
of the mount and the literal of the handle. -/
def assembled (opening middle between closing : String) (document : FrameDocument) : String :=
  opening ++ "<style data-lf-bundle>" ++ withoutEndTags document.styleText ++ "</style>\n" ++
    sourceElement document.runtimeScriptUrl ++ "\n" ++ sourceElement document.domScriptUrl ++
    "\n" ++ middle ++ "mountVersion: " ++ toString document.mountVersion ++ "," ++ between ++ "import(" ++
    scriptLiteral document.moduleHandle ++ ");" ++ closing

/-- All documents are made of the same four texts. -/
theorem render_parts : ∃ opening middle between closing : String, ∀ document : FrameDocument,
    document.render = assembled opening middle between closing document := by
  obtain ⟨opening, before, head⟩ := head_parts
  obtain ⟨behind, between, closing, body⟩ := body_parts
  refine ⟨opening, before ++ behind, between, closing, fun document => ?_⟩
  rw [render, head, body]
  unfold assembled
  simp only [String.append_assoc]

/-- A document is made of four texts that are always the same and of what is put between them.
Whatever that is, the end tags of the document are its own, and the literal is read as the
handle. -/
theorem render_contained : ∃ opening middle between closing : String, ∀ document : FrameDocument,
    document.render = assembled opening middle between closing document ∧ document.Contained := by
  obtain ⟨opening, middle, between, closing, parts⟩ := render_parts
  exact ⟨opening, middle, between, closing, fun document => ⟨parts document, document.contains⟩⟩

end FrameDocument

end Sandbox

end Lectern

namespace Lectern.Sandbox

open Text (References.decode)

/-! ## Values of attributes -/

/-- The value of an attribute behind its first quote, and the text from the next quote on. The
references in a value stand for other characters. -/
def readValue (text : List Char) : List Char × List Char :=
  (References.decode (text.takeWhile (· != '\x22')), text.dropWhile (· != '\x22'))

/-- A text between quotes is read as itself, whatever stands behind it. -/
def ReadsAsItself (value : String) : Prop :=
  ∀ rest, readValue (value.toList ++ '\x22' :: rest) = (value.toList, '\x22' :: rest)

private theorem readValue_of_not_mem {text : List Char} (free : '\x22' ∉ text) (rest : List Char) :
    readValue (text ++ '\x22' :: rest) = (References.decode text, '\x22' :: rest) := by
  have kept : ∀ c ∈ text, (c != '\x22') = true := by
    intro c member
    simpa using ne_of_mem_of_not_mem member free
  simp [readValue, List.takeWhile_append_of_pos kept, List.dropWhile_append_of_pos kept]

/-- What is read up to the quote behind a text holds no quote. -/
private theorem not_mem_of_readValue {text : List Char}
    (reads : (readValue (text ++ ['\x22'])).2 = ['\x22']) : '\x22' ∉ text := by
  have parted := List.takeWhile_append_dropWhile (p := (· != '\x22')) (l := text ++ ['\x22'])
  change (text ++ ['\x22']).dropWhile (· != '\x22') = ['\x22'] at reads
  rw [reads] at parted
  have taken := List.append_cancel_right parted
  intro quoted
  rw [← taken] at quoted
  have kept := List.all_eq_true.mp List.all_takeWhile _ quoted
  cases kept

/-- A text is read as itself exactly if no quote ends it and no reference in it stands for something
else. -/
theorem readsAsItself_iff {value : String} : ReadsAsItself value ↔
    '\x22' ∉ value.toList ∧ References.decode value.toList = value.toList := by
  constructor
  · intro reads
    have free := not_mem_of_readValue (congrArg Prod.snd (reads []))
    have decoded := congrArg Prod.fst (reads [])
    rw [readValue_of_not_mem free] at decoded
    exact ⟨free, decoded⟩
  · intro plain rest
    rw [readValue_of_not_mem plain.1, plain.2]

namespace FrameDocument

/-- The document of a frame with some settings. -/
def ofSettings (settings : SandboxSettings) (styleText moduleHandle : String) (mountVersion : Int) :
    FrameDocument :=
  ⟨settings.runtimeScriptUrl, settings.domScriptUrl, styleText, moduleHandle, mountVersion⟩

/-- What stands around the two addresses does not depend on them. The document loads its libraries
from the addresses of the settings exactly as far as these are read as themselves. -/
theorem sources_read_iff (styleText moduleHandle : String) (mountVersion : Int) :
    ∃ front back : String, ∀ settings : SandboxSettings,
      (ofSettings settings styleText moduleHandle mountVersion).render =
        front ++ sourceElement settings.runtimeScriptUrl ++ "\n" ++
          sourceElement settings.domScriptUrl ++ back ∧
      ∀ url ∈ [settings.runtimeScriptUrl, settings.domScriptUrl],
        ReadsAsItself url ↔ '\x22' ∉ url.toList ∧ References.decode url.toList = url.toList := by
  obtain ⟨opening, middle, between, closing, parts⟩ := render_parts
  refine ⟨opening ++ "<style data-lf-bundle>" ++ Markup.withoutEndTags styleText ++ "</style>\n",
    "\n" ++ middle ++ "mountVersion: " ++ toString mountVersion ++ "," ++ between ++ "import(" ++
      scriptLiteral moduleHandle ++ ");" ++ closing, ?_⟩
  intro settings
  refine ⟨?_, fun url _ => readsAsItself_iff⟩
  rw [parts]
  unfold assembled ofSettings
  simp only [String.append_assoc]

/-- One address ends its value early, and another one is read as a different address, though any
text may be set for both. -/
theorem source_misread :
    let runtime := "/vendor/react.js\x22 onerror=\x22alert(1)"
    let dom := "/vendor/react-dom.js?a=1&#38;b=2"
    ∃ settings : SandboxSettings,
      SandboxSettings.read
          (.obj [("runtime_script_url", .str runtime), ("dom_script_url", .str dom)]) =
        .valid settings ∧
      settings.runtimeScriptUrl = runtime ∧ settings.domScriptUrl = dom ∧
      (∀ rest, (readValue (runtime.toList ++ '\x22' :: rest)).1 = "/vendor/react.js".toList) ∧
      ∀ rest, (readValue (dom.toList ++ '\x22' :: rest)).1 =
        "/vendor/react-dom.js?a=1&b=2".toList := by
  intro runtime dom
  have front : runtime.toList =
      "/vendor/react.js".toList ++ '\x22' :: " onerror=\x22alert(1)".toList := by
    decide
  have plain : '\x22' ∉ "/vendor/react.js".toList ∧ '\x22' ∉ dom.toList := by decide
  have decoded : References.decode "/vendor/react.js".toList = "/vendor/react.js".toList ∧
      References.decode dom.toList = "/vendor/react-dom.js?a=1&b=2".toList := by
    decide
  refine ⟨{ runtimeScriptUrl := runtime, domScriptUrl := dom }, rfl, rfl, rfl, fun rest => ?_,
    fun rest => ?_⟩
  · rw [front, List.append_assoc, List.cons_append, readValue_of_not_mem plain.1]
    exact decoded.1
  · rw [readValue_of_not_mem plain.2]
    exact decoded.2

end FrameDocument

end Lectern.Sandbox
