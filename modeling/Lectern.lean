import Lectern.Json.Access
import Lectern.Page.Tree
import Lectern.Sandbox.Reference
import Lectern.Sandbox.Rehearsal
import Lectern.Sandbox.Remote
import Lectern.Json.Parser
import Lectern.Json.Printer
import Lectern.Module.Compile
import Lectern.Number.Binary
import Lectern.Repair.Propose
import Lectern.Safety.Check
import Lectern.Schema.Time
import Lectern.Lesson.Record
import Lectern.Lesson.Topic
import Lectern.Generation.Evaluation
import Lectern.Generation.Prompt
import Lectern.Generation.Rehearsal
import Lectern.Generation.Run
import Lectern.Lesson.Catalogue
import Lectern.Lesson.Failure
import Lectern.Settings.Basic
import Lectern.Settings.File
import Lectern.Logging
import Lectern.Settings.Server
import Lectern.Generation.Model
import Lectern.Web.Api
import Lectern.Console.Desk
import Lectern.Module.Analysis
import Lectern.Generation.Shape
import Lectern.Main
import Lectern.Proofs.Generation.SoundContent
import Lectern.Proofs.Generation.OnceGenerated
import Lectern.Proofs.Sandbox.Bootstrap
import Lectern.Proofs.Module.Erasure
import Lectern.Proofs.Module.DefaultExport
import Lectern.Proofs.Module.Bindings
import Lectern.Proofs.Store.Book
import Lectern.Proofs.Generation.Endings
import Lectern.Proofs.Generation.Settled
import Lectern.Proofs.Generation.Outages
import Lectern.Proofs.Web.Delivery
import Lectern.Proofs.Safety.FirstPlaces
import Lectern.Proofs.Repair.Idempotence
import Lectern.Proofs.Store.Agreement
import Lectern.Proofs.Module.Neighbours
import Lectern.Proofs.Module.Banner
import Lectern.Proofs.Module.TypeSyntax
import Lectern.Proofs.Console.Compilation
import Lectern.Proofs.Generation.Reports
import Lectern.Proofs.Generation.Deadline
import Lectern.Proofs.Generation.WorkedOff
import Lectern.Proofs.Store.Chronicle
import Lectern.Proofs.Module.MarkupText
import Lectern.Proofs.Module.Elision
import Lectern.Proofs.Module.FaultPlaces
import Lectern.Proofs.Safety.Edits
import Lectern.Proofs.Repair.CleanRepairs
import Lectern.Proofs.Module.CallForms
import Lectern.Proofs.Module.ElementCalls
import Lectern.Proofs.Module.ParseFaults
import Lectern.Proofs.Generation.Verdicts
import Lectern.Proofs.Repair.Rebinding
import Lectern.Proofs.Sandbox.FrameText
import Lectern.Proofs.Sandbox.Diagnostics
import Lectern.Proofs.Store.Queue
import Lectern.Proofs.Web.Responses
import Lectern.Proofs.Web.SigningKey
import Lectern.Proofs.Web.Creation
import Lectern.Proofs.Generation.TraceAccounts
import Lectern.Proofs.Generation.FlaggedLines
import Lectern.Proofs.Generation.Backoff
import Lectern.Proofs.Generation.Ceiling
import Lectern.Proofs.Store.Interruptions
import Lectern.Proofs.Repair.ExportedComponent
