import JsxTidy.Json.Parse
import JsxTidy.Text.Find

/-!
# Replies of models

A model is asked for a JSON object with code and a summary, but it may write anything around it or
something else altogether. What is usable is taken from its reply.
-/

namespace JsxTidy

/-- What is taken from a reply. -/
structure ModelOutput where
  cleanedCode : String
  summary : List String
  /-- Whether the reply held no code in the form that was asked for. -/
  fallbackUsed : Bool
deriving DecidableEq, Repr

namespace ModelOutput

/-- The part of a text from its first opening brace to its last closing brace. -/
def payloadText? (text : List Char) : Option (List Char) := do
  let (_, rest) ← Text.splitFirst? ['\x7b'] text
  let (inner, _) ← Text.splitLast? ['\x7d'] rest
  return inner ++ ['\x7d']

/-- The object in a reply. -/
def payload? (text : List Char) : Option Json := do
  match Json.parse (← payloadText? text) with
  | .ok (.object fields) => some (.object fields)
  | _ => none

/-- An entry of a summary as text. -/
def summaryEntry : Json → String
  | .string s => s
  | other => other.render

/-- The summary in an object. -/
def summaryOf (payload : Json) : List String :=
  match payload.field? "summary" with
  | some (.array items) => items.map summaryEntry
  | _ => []

/-- What is said about a reply without an object. -/
def unparseableSummary : String :=
  "Model response could not be parsed. Returning raw output."

/-- What is taken from a reply about some code. A reply without an object is taken as the code
itself, and the given code stands in for code that is missing in an object. -/
def ofReply (reply inputCode : String) : ModelOutput :=
  match payload? reply.toList with
  | none => ⟨reply, [unparseableSummary], true⟩
  | some payload =>
    match payload.field? "cleanedCode" with
    | some (.string code) => ⟨code, summaryOf payload, false⟩
    | _ => ⟨inputCode, summaryOf payload, true⟩

end ModelOutput

end JsxTidy
