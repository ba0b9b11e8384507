/-
Module: Lectern.Console.Display
Purpose: What is printed at a time, a line, a panel or a table with style tags, and how findings,
  reports and lessons are shown with it to whoever runs a command.
Main exports: Console.Block, Console.Block.render, Console.success, Console.failure, Console.info,
  Console.issueTable, Console.reportBlock, Console.lessonList, Console.detailBlocks
-/
import Lectern.Console.Markup
import Lectern.Lesson.Record

namespace Lectern.Console

/-! ## Blocks -/

/-- What is printed at a time. -/
inductive Block where
  | line (text : String)
  | panel (title body : String)
  | table (title : String) (headers : List String) (rows : List (List String))
  deriving DecidableEq, Repr, Inhabited

namespace Block

/-- The lines of a text. -/
def linesOf (text : String) : List String := text.splitOn "\n"

/-- Cells side by side: line by line, each line across all cells. -/
def besides (cells : List (List String)) : List String :=
  let height := (cells.map List.length).foldl max 0
  (List.range height).map fun place =>
    "  ".intercalate (cells.map fun cell => cell.getD place "")

/-- The lines of a row. -/
def rowLines (cells : List String) : Except Markup.Fault (List String) := do
  return besides (← cells.mapM fun cell => (Markup.plain cell).map linesOf)

/-- The lines of a block. -/
def lines : Block → Except Markup.Fault (List String)
  | .line text => do return linesOf (← Markup.plain text)
  | .panel title body => do return linesOf (← Markup.plain title) ++ linesOf (← Markup.plain body)
  | .table title headers rows => do
    let head ← rowLines headers
    let body ← rows.mapM rowLines
    return linesOf (← Markup.plain title) ++ head ++ body.flatten

/-- A block as it is printed. -/
def render (block : Block) : Except Markup.Fault String :=
  block.lines.map fun lines => String.join (lines.map (· ++ "\n"))

end Block

/-! ## Messages -/

/-- A message that all went well. -/
def success (message : String) : Block := .line ("[bold green]✓[/] " ++ message)

/-- A message that something failed. -/
def failure (message : String) : Block := .line ("[bold red]✗[/] " ++ message)

/-- A message to beware. -/
def warning (message : String) : Block := .line ("[bold yellow]⚠[/] " ++ message)

/-- A message to know. -/
def info (message : String) : Block := .line ("[bold blue]ℹ[/] " ++ message)

/-- One of several messages. -/
def bullet (message : String) : Block := .line ("  • " ++ message)

/-! ## Findings -/

/-- The row of a finding. -/
def issueRow (issue : Safety.Issue) : List String :=
  [issue.rule.name, (issue.line.map toString).getD "-", issue.message, issue.snippet.getD ""]

/-- A table of findings. -/
def issueTable (issues : List Safety.Issue) : Block :=
  .table "Safety issues" ["Rule", "Line", "Message", "Snippet"] (issues.map issueRow)

/-! ## Reports -/

/-- A line with a label. -/
def labelled (label value : String) : String := "[bold]" ++ label ++ ":[/] " ++ value

/-- A value that may be missing. -/
def orNone (value : Option String) : String := value.getD "None"

/-- A report of a run. -/
def reportBlock (report : Report) : Block :=
  let body := "\n".intercalate [labelled "Lesson" report.lessonId,
    labelled "Status" report.status.name, labelled "Attempts" (toString report.attemptCount)]
  if report.skipped then
    warning ("Skipped lesson " ++ report.lessonId ++ ": " ++ orNone report.reason)
  else if report.success then
    .panel "[bold green]✓ Success[/]" ("[bold green]Lesson generated![/]\n\n" ++ body ++ "\n" ++
      labelled "Version" (orNone (report.version.map toString)))
  else
    let reason := match report.reason with
      | some reason => if reason.isEmpty then "" else "\n" ++ labelled "Last error" reason
      | none => ""
    .panel "[bold red]✗ Failed[/]" ("[bold red]Generation failed![/]\n\n" ++ body ++ reason)

/-! ## Lessons -/

/-- The colour in which a status is shown. -/
def statusColour : Status → String
  | .queued => "dim"
  | .generating => "yellow"
  | .generated => "green"
  | .failed => "red"

/-- The row of a lesson. -/
def lessonRow (lesson : Lesson) : List String :=
  [lesson.id, lesson.title, "[" ++ statusColour lesson.status ++ "]" ++ lesson.status.name ++ "[/]",
    lesson.createdAt.minuteLabel]

/-- A table of lessons, or a hint where there are none. -/
def lessonList (lessons : List Lesson) : Block :=
  if lessons.isEmpty then
    info "No lessons yet. Create one with [cyan]lessonforge generate <topic>[/]"
  else .table "Lessons" ["ID", "Title", "Status", "Created"] (lessons.map lessonRow)

/-- A word for what holds and one for what does not. -/
def verdict (data : List (String × Json)) (key word : String) : String :=
  if ((Json.lookup key data).map Json.holds).getD false then "[green]" ++ word ++ "[/]"
  else "[red]fail[/]"

/-- The row of an attempt. Of its error only the beginning is shown. -/
def traceRow (trace : Trace) : List String :=
  let model := trace.model.getD ""
  [toString trace.attemptNumber, if model.isEmpty then "-" else model,
    verdict trace.validation "passed" "pass", verdict trace.compilation "success" "ok",
    String.ofList ((trace.error.getD "").toList.take 80)]

/-- A lesson with its attempts. -/
def detailBlocks (details : Details) : List Block :=
  let lesson := details.lesson
  let version := (details.content.map fun content => toString content.version).getD "-"
  let body := "\n".intercalate [labelled "ID" lesson.id, labelled "Topic" lesson.topic,
    labelled "Status" lesson.status.name, labelled "Content version" version]
  .panel ("[bold]" ++ lesson.title ++ "[/]") body ::
    (if details.traces.isEmpty then []
    else [.table "Attempts" ["#", "Model", "Validation", "Compilation", "Error"]
      (details.traces.map traceRow)])

end Lectern.Console
