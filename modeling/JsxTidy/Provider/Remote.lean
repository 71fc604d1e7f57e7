import JsxTidy.Decimal.Float
import JsxTidy.Http.Client
import JsxTidy.Json.Decode
import JsxTidy.Provider.Registry
import JsxTidy.Text.Blank

/-!
# Remote providers

Two kinds of providers are asked over HTTP: those that hold a chat, and a refactoring server of
one's own. Both say by their status, or by words in the body of an error, when they refuse more
requests.
-/

namespace JsxTidy

open Http (Answer SendFailure Transport)
open Json (Reader)

namespace Backend

variable {World : Type}

/-- Whether an answer that is no success says that more requests are refused. -/
def isQuotaSignal (status : Nat) (body : String) : Bool :=
  status == 429 || Text.contains "insufficient_quota".toList body.toList
    || Text.contains "rate_limit".toList body.toList

/-- The failure that an answer without success is. A body that did not come counts as empty. -/
def failureOf (id : ProviderId) (answer : Answer) : Failure :=
  let body := answer.body.getD ""
  if isQuotaSignal answer.status body then .quotaExceeded id body
  else .requestFailed id (toString answer.status ++ " " ++ body)

/-- Takes a run from the answer to a request, if the request was granted. -/
def ofAnswer (id : ProviderId) (read : Option String → Except String ModelRun) :
    Except SendFailure Answer → Except Failure ModelRun
  | .error failure => .error (.requestFailed id failure.message)
  | .ok answer =>
    if answer.isSuccess then
      match read answer.body with
      | .ok run => .ok run
      | .error message => .error (.requestFailed id message)
    else .error (failureOf id answer)

/-- What is said about a body that is not what was asked for. -/
def undecodable : String :=
  "error decoding response body"

end Backend

/-- How to reach a provider that holds a chat. -/
structure ChatAccess where
  endpoint : String
  apiKey : String
  model : String
  /-- A value of 32 bits. -/
  temperature : Decimal.FloatValue
deriving DecidableEq, Repr

/-- A floating-point value as JSON, which knows no infinite ones. -/
def Json.ofFloat (value : Decimal.FloatValue) : Json :=
  match value.convert Decimal.binary64 with
  | .finite isNegative size => .number (.float isNegative size)
  | .infinite _ => .null

namespace ChatAccess

/-- A message of a chat. -/
def message (role content : String) : Json :=
  .object [("content", .string content), ("role", .string role)]

/-- What a chat is sent for a request. -/
def body (a : ChatAccess) (request : ModelRequest) : Json :=
  .object
    [ ("messages", .array [message "system" request.systemPrompt, message "user" request.userPrompt]),
      ("model", .string a.model),
      ("temperature", .ofFloat a.temperature) ]

/-- The header that shows a key. -/
def authorization (a : ChatAccess) : String :=
  "Bearer " ++ a.apiKey

/-- The text of the first message in a chat's answer. -/
def content? (payload : Json) : Option String := do
  let choice ← (← payload.field? "choices").item? 0
  (← (← choice.field? "message").field? "content").string?

/-- The price of a chat's answer. -/
def tokens? (payload : Json) : Option Nat := do
  (← (← payload.field? "usage").field? "total_tokens").nat?

/-- The run in the body of a chat's answer. -/
def readRun (inputCode : String) (body : Option String) : Except String ModelRun :=
  match body.map fun text => Json.parse text.toList with
  | some (.ok payload) =>
    match content? payload with
    | some reply => .ok (.ofOutput (.ofReply reply inputCode) (tokens? payload))
    | none => .error "malformed completion response: missing choices[0].message.content"
  | _ => .error ("malformed completion response: " ++ Backend.undecodable)

end ChatAccess

/-- What a refactoring server answers. -/
structure RefactorReply where
  refactored : Option String
  summary : List String
  error : Option String
deriving DecidableEq, Repr

namespace RefactorReply

/-- An answer that is being read. A field that has been read is `some`. -/
structure Partial where
  refactored : Option (Option String)
  summary : Option (List String)
  error : Option (Option String)

/-- The fields of an answer. -/
def fields : List (Reader.Field Partial) :=
  [ ⟨"refactored", fun p => p.refactored.isSome, false,
      fun p => do return { p with refactored := some (← Reader.optional Reader.string) }⟩,
    ⟨"summary", fun p => p.summary.isSome, true,
      fun p => do return { p with summary := some (← Reader.list Reader.string) }⟩,
    ⟨"error", fun p => p.error.isSome, false,
      fun p => do return { p with error := some (← Reader.optional Reader.string) }⟩ ]

/-- The answer that has been read. -/
def Partial.complete (p : Partial) : RefactorReply :=
  ⟨p.refactored.getD none, p.summary.getD [], p.error.getD none⟩

/-- Reads an answer. -/
def reader : Reader RefactorReply :=
  Reader.record "struct RefactorReply" fields ⟨none, none, none⟩ fun p => .ok p.complete

/-- The code in front of what a model has added behind it. -/
def stripTrailer (text : String) : String :=
  let front := match Text.splitFirst? ['#', '#', '#'] text.toList with
    | some (front, _) => front
    | none => text.toList
  String.ofList (Text.trim front)

/-- The run that an answer is. -/
def run (reply : RefactorReply) (inputCode : String) : Except String ModelRun :=
  match reply.error, reply.refactored with
  | some message, _ => .error message
  | none, some code => .ok ⟨stripTrailer code, reply.summary, none, false⟩
  | none, none => .ok ⟨inputCode, reply.summary, none, true⟩

/-- The run in the body of an answer. -/
def readRun (inputCode : String) (body : Option String) : Except String ModelRun :=
  match body.map fun text => reader.run text.toList with
  | some (.ok reply) => reply.run inputCode
  | _ => .error ("malformed refactor response: " ++ Backend.undecodable)

end RefactorReply

namespace Backend

variable {World : Type}

/-- Asks a provider that holds a chat. -/
def chat (transport : Transport World) (id : ProviderId) (access : ChatAccess) : Backend World :=
  ⟨fun request => do
    let answer ← Http.Client.send transport access.endpoint (some access.authorization)
      (access.body request).render
    return ofAnswer id (ChatAccess.readRun request.code) answer⟩

/-- Asks a refactoring server. -/
def custom (transport : Transport World) (endpoint : String) : Backend World :=
  ⟨fun request => do
    let body := Json.object [("code", .string request.code)]
    let answer ← Http.Client.send transport endpoint none body.render
    return ofAnswer .customFinetuned (RefactorReply.readRun request.code) answer⟩

end Backend

end JsxTidy
