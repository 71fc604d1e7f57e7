import JsxTidy.Import.Verbatim
import JsxTidy.Parser.Program
import JsxTidy.Printer.Program
import JsxTidy.Scope.Resolve
import JsxTidy.Transform

/-!
# The pipeline

A source text is read, its names are resolved, the program is tidied and written again. A text that
is no program is refused as a whole.
-/

namespace JsxTidy

open Syntax

/-- What the last run of a pipeline has come to. The stages inside a run are left out: a pipeline is
not seen while it runs, and a run that reaches a stage goes on to the next one or fails. -/
inductive PipelineState where
  /-- It has not run yet. -/
  | idle
  | generated
  | failed
deriving DecidableEq, Repr

namespace PipelineState

/-- Whether a run is over. -/
def isTerminal : PipelineState → Bool
  | idle => false
  | generated | failed => true

/-- The name of a state. -/
def name : PipelineState → String
  | idle => "Idle"
  | generated => "Generated"
  | failed => "Failed"

end PipelineState

/-- A tidied text and what was changed. -/
structure Tidied where
  code : String
  diagnostics : Diagnostics
deriving DecidableEq, Repr

/-- The text of a program whose imports without specifiers keep the text they were read from. -/
def printVerbatim (source : String) (parsed : Parsed) : String :=
  let (marked, imports) := VerbatimImport.capture source.toList parsed.program
  String.ofList (VerbatimImport.restore imports (print marked parsed.comments).toList)

/-- Tidies a source text. -/
def tidy (o : TidyOptions) (source : String) : Except Diagnostic Tidied := do
  let parsed ← parse source
  let (program, changes) := parsed.program.tidy (ScopeTree.build parsed.program) o
  return ⟨printVerbatim source { parsed with program }, .ofChanges changes⟩

/-- A pipeline that runs again and again with the same options. -/
structure Pipeline where
  options : TidyOptions
  state : PipelineState

namespace Pipeline

/-- A pipeline that has not run yet. -/
def new (options : TidyOptions) : Pipeline :=
  ⟨options, .idle⟩

/-- Runs on a source text. -/
def run (p : Pipeline) (source : String) : Except Diagnostic Tidied × Pipeline :=
  match tidy p.options source with
  | .ok tidied => (.ok tidied, { p with state := .generated })
  | .error problem => (.error problem, { p with state := .failed })

end Pipeline

/-- The name of a spread policy in a description of options. -/
def SpreadPolicy.title : SpreadPolicy → String
  | barrier => "Barrier"
  | unrestricted => "Unrestricted"

/-- Options in words. The normalizer cannot be shown. -/
def TidyOptions.describe (o : TidyOptions) : String :=
  "CleanupOptions \x7b spread_policy: " ++ o.spreadPolicy.title ++ ", .. \x7d"

/-- A pipeline in words. -/
def Pipeline.describe (p : Pipeline) : String :=
  "Pipeline \x7b options: " ++ p.options.describe ++ ", state: " ++ p.state.name ++ " \x7d"

end JsxTidy
