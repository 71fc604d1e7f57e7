import JsxTidy.Failure
import JsxTidy.Provider.Reply
import JsxTidy.Provider.Usage

/-!
# The registry of providers

A backend answers requests for a provider. It may act on the world, whose state it is given. The
registry knows the backend of each provider that is available, and counts completed requests.
-/

namespace JsxTidy

/-- What a provider is asked. -/
structure ModelRequest where
  provider : ProviderId
  systemPrompt : String
  userPrompt : String
  /-- The tidied code, which stands in for code that is missing in a reply. -/
  code : String
deriving DecidableEq, Repr

/-- What a provider has made of a request. -/
structure ModelRun where
  cleanedCode : String
  summary : List String
  /-- The price of the request, if it is known. -/
  tokens : Option Nat
  fallbackUsed : Bool
deriving DecidableEq, Repr

namespace ModelRun

/-- The run that gave an output. -/
def ofOutput (output : ModelOutput) (tokens : Option Nat) : ModelRun :=
  ⟨output.cleanedCode, output.summary, tokens, output.fallbackUsed⟩

end ModelRun

/-- A way to answer requests, by acting on a world. -/
structure Backend (World : Type) where
  complete : ModelRequest → StateM World (Except Failure ModelRun)

namespace Backend

variable {World : Type}

/-- What is said about tidied code that no model has seen. -/
def deterministicSummary : String :=
  "Returned deterministic output only (no LLM used)."

/-- Answers with the tidied code. -/
def deterministic : Backend World :=
  ⟨fun request => return .ok ⟨request.code, [deterministicSummary], none, false⟩⟩

end Backend

/-- The backends of the available providers. -/
structure Registry (World : Type) where
  backend? : ProviderId → Option (Backend World)

namespace Registry

variable {World : Type}

/-- No provider is available. -/
def empty : Registry World :=
  ⟨fun _ => none⟩

/-- Makes a backend the one of a provider. -/
def register (r : Registry World) (id : ProviderId) (backend : Backend World) : Registry World :=
  ⟨fun other => if other = id then some backend else r.backend? other⟩

/-- Only tidied code itself is available. -/
def standard : Registry World :=
  empty.register .deterministic .deterministic

/-- Whether a provider is available. -/
def isRegistered (r : Registry World) (id : ProviderId) : Bool :=
  (r.backend? id).isSome

/-- The available providers, in their order. -/
def registered (r : Registry World) : List ProviderId :=
  ProviderId.all.filter r.isRegistered

/-- Has a request answered by its provider. Completed requests are counted. -/
def run (r : Registry World) (request : ModelRequest) (usage : Usage) :
    StateM World (Except Failure ModelRun × Usage) := do
  match r.backend? request.provider with
  | none =>
    let reason := request.provider.credentialKey ++ " is not configured."
    return (.error (.unavailable request.provider reason), usage)
  | some backend =>
    match ← backend.complete request with
    | .ok result => return (.ok result, usage.record request.provider)
    | .error failure => return (.error failure, usage)

end Registry

end JsxTidy
