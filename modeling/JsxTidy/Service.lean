import JsxTidy.Pipeline
import JsxTidy.Prompt
import JsxTidy.Provider.Registry
import JsxTidy.Request

/-!
# The service

A request's code is tidied, and the tidied code is given to a provider. Whatever the provider does,
the tidied code is not lost.
-/

namespace JsxTidy

/-- The code of a request at each stage. -/
structure Artifacts where
  original : String
  deterministic : String
  aiOutput : String
deriving DecidableEq, Repr

/-- The answer to a request. -/
structure Response where
  provider : ProviderId
  diagnostics : Diagnostics
  summary : List String
  artifacts : Artifacts
  /-- The usage of all providers, this request included. -/
  usage : Usage
  fallbackUsed : Bool

/-- The answer to a request that failed. -/
structure Refusal where
  status : Nat
  error : String
  /-- The tidied code, if the request got that far. -/
  tidied? : Option Tidied
deriving DecidableEq, Repr

namespace Refusal

/-- The answer to a request that failed before its code was tidied. -/
def ofFailure (failure : Failure) : Refusal :=
  ⟨failure.status, failure.message, none⟩

/-- The answer to a request that failed after its code was tidied. -/
def withTidied (failure : Failure) (tidied : Tidied) : Refusal :=
  { ofFailure failure with tidied? := some tidied }

end Refusal

/-- What is said about a request without code. -/
def codeRequired : String :=
  "Code is required for refactoring."

/-- A service. -/
structure Service (World : Type) where
  registry : Registry World
  options : TidyOptions
  defaultProvider : ProviderId

namespace Service

variable {World : Type}

/-- The tidied code of a request, if it has code and the code is a program. -/
def tidied (s : Service World) (request : TidyRequest) : Except Failure Tidied :=
  if Text.allBlank request.code.toList then .error (.invalidInput codeRequired)
  else
    match tidy s.options request.code with
    | .ok tidied => .ok tidied
    | .error problem => .error (.parse (.ofDiagnostic request.code problem))

/-- What a provider is asked about the tidied code of a request. -/
def modelRequest (s : Service World) (request : TidyRequest) (tidied : Tidied) : ModelRequest :=
  { provider := request.provider.getD s.defaultProvider
    systemPrompt
    userPrompt := userPrompt request.fileName tidied.code
    code := tidied.code }

/-- Handles a request. -/
def handle (s : Service World) (request : TidyRequest) (usage : Usage) :
    StateM World (Except Refusal Response × Usage) := do
  match s.tidied request with
  | .error failure => return (.error (.ofFailure failure), usage)
  | .ok tidied =>
    let asked := s.modelRequest request tidied
    match ← s.registry.run asked usage with
    | (.error failure, usage) => return (.error (.withTidied failure tidied), usage)
    | (.ok run, usage) =>
      return (.ok
        { provider := asked.provider
          diagnostics := tidied.diagnostics
          summary := run.summary
          artifacts := ⟨request.code, tidied.code, run.cleanedCode⟩
          usage
          fallbackUsed := run.fallbackUsed }, usage)

/-- Handles the text of a request. -/
def handleText (s : Service World) (body : String) (usage : Usage) :
    StateM World (Except Refusal Response × Usage) :=
  match TidyRequest.ofText body with
  | .ok request => s.handle request usage
  | .error failure => return (.error (.ofFailure failure), usage)

end Service

end JsxTidy
