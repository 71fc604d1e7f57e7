import JsxTidy.Complaint
import JsxTidy.Provider.Id
import JsxTidy.Text.Offset

/-!
# Failures

Everything that can go wrong from a request to its answer. A failure has a code, a status for the
answer, and a message for people.
-/

namespace JsxTidy

/-- A place in a source text: a byte offset and the place as people name it. -/
structure SourcePlace where
  offset : UInt32
  place : Text.LineColumn
deriving DecidableEq, Repr

/-- A text that is no program, and where that shows if it is known. -/
structure ParseFailure where
  message : String
  place? : Option SourcePlace
deriving DecidableEq, Repr

namespace ParseFailure

/-- A failure without a place. -/
def new (message : String) : ParseFailure :=
  ⟨message, none⟩

/-- The failure with the place that a byte offset into a source text names. The offset is kept as
a word, and so are the line and the column, unless one of them is too large. -/
def atOffset? (e : ParseFailure) (source : String) (offset : Nat) : Option ParseFailure := do
  let place ← Text.LineColumn.ofOffset? source.toList offset
  return { e with place? := some ⟨offset.toUInt32, place⟩ }

/-- The failure that a complaint about a source text is. Its place is known in a text of up to
`2 ^ 32 - 2` bytes; in a larger one that is a single line it may be too large to be told. -/
def ofDiagnostic (source : String) (d : Diagnostic) : ParseFailure :=
  let failure := new d.complaint.message
  (failure.atOffset? source d.offset).getD failure

/-- The failure in words. -/
def describe (e : ParseFailure) : String :=
  match e.place? with
  | some at' =>
    "Parse error at " ++ toString at'.place.line ++ ":" ++ toString at'.place.column ++ ": "
      ++ e.message
  | none => "Parse error: " ++ e.message

end ParseFailure

/-- What can go wrong. -/
inductive Failure where
  /-- The request cannot be used. -/
  | invalidInput (message : String)
  | parse (problem : ParseFailure)
  /-- A provider has not been set up. -/
  | unavailable (provider : ProviderId) (reason : String)
  /-- A provider refuses more requests. -/
  | quotaExceeded (provider : ProviderId) (message : String)
  /-- A provider gave no usable answer. -/
  | requestFailed (provider : ProviderId) (message : String)
  | configuration (message : String)
deriving DecidableEq, Repr

namespace Failure

/-- The code of a failure. -/
def code : Failure → String
  | invalidInput _ => "CLEAN-ERR-INPUT"
  | parse _ => "CLEAN-ERR-PARSE"
  | unavailable .. => "CLEAN-ERR-PROVIDER-UNAVAILABLE"
  | quotaExceeded .. => "CLEAN-ERR-PROVIDER-QUOTA"
  | requestFailed .. => "CLEAN-ERR-PROVIDER-REQUEST"
  | configuration _ => "CLEAN-ERR-CONFIG"

/-- The status of the answer to a request that fails. -/
def status : Failure → Nat
  | invalidInput _ | parse _ => 400
  | quotaExceeded .. => 429
  | unavailable .. | requestFailed .. | configuration _ => 500

/-- Whether the request itself is at fault, so that sending it again is of no use. -/
def isInputError : Failure → Bool
  | invalidInput _ | parse _ => true
  | _ => false

/-- A failure in words. -/
def message : Failure → String
  | invalidInput text => text
  | parse problem => problem.describe
  | unavailable _ reason => reason
  | quotaExceeded provider text => provider.name ++ " quota exceeded: " ++ text
  | requestFailed provider text => provider.name ++ " request failed: " ++ text
  | configuration text => "Configuration error: " ++ text

end Failure

/-- The provider with an identifier. -/
def ProviderId.parse (text : String) : Except Failure ProviderId :=
  match ofName? text with
  | some id => .ok id
  | none => .error (.invalidInput ("Unsupported provider: " ++ text))

end JsxTidy
