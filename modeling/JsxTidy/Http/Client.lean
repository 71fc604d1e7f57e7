import JsxTidy.Http.Credentials
import JsxTidy.Http.Reference

/-!
# A client for HTTP

A client sends a text to an address and hands back the last answer: answers that point to another
address are followed. What a request does to the world, and how it is answered, is up to a
transport.
-/

namespace JsxTidy.Http

/-- What a request asks for. -/
inductive Method where
  | get
  | post
deriving DecidableEq, Repr

namespace Method

/-- The name of a method. -/
def name : Method → String
  | get => "GET"
  | post => "POST"

end Method

/-- A request. -/
structure Request where
  method : Method
  url : Url
  authorization : Option String
  contentType : Option String
  userAgent : String
  body : String
deriving DecidableEq, Repr

namespace Request

/-- The first line of a request. -/
def line (r : Request) : String :=
  r.method.name ++ " " ++ r.url.target ++ " HTTP/1.1"

end Request

/-- An answer as a server sends it. -/
structure Reply where
  status : Nat
  body : String
  /-- Whether the connection ends before the body does. -/
  isTruncated : Bool
  /-- Where the server points to. -/
  location : Option String
deriving DecidableEq, Repr

/-- Sends a request. There is no answer if nobody listens or the connection ends too early. -/
abbrev Transport (World : Type) := Request → StateM World (Option Reply)

/-- An answer as a client gets it. -/
structure Answer where
  status : Nat
  /-- The body, if all of it came. -/
  body : Option String
deriving DecidableEq, Repr

namespace Answer

/-- Whether a request was granted. -/
def isSuccess (a : Answer) : Bool :=
  200 ≤ a.status && a.status < 300

end Answer

/-- Why there is no answer. -/
inductive SendFailure where
  /-- The address cannot be read, or a header cannot be sent. -/
  | unusable
  /-- The address has a scheme that is not spoken. -/
  | unknownScheme (url : String)
  /-- There is no answer from an address. -/
  | noAnswer (url : String)
  /-- From an address on, one answer after the other points elsewhere. -/
  | endlessRedirects (url : String)
deriving DecidableEq, Repr

namespace SendFailure

/-- A failure in words. -/
def message : SendFailure → String
  | unusable => "builder error"
  | unknownScheme url => "builder error for url (" ++ url ++ ")"
  | noAnswer url => "error sending request for url (" ++ url ++ ")"
  | endlessRedirects url => "error following redirect for url (" ++ url ++ ")"

end SendFailure

namespace Client

/-- The name under which the client is known to servers. -/
def userAgent : String :=
  "cleanup-native/0.1.0"

/-- The number of answers in a row that may point elsewhere. -/
def redirectLimit : Nat :=
  10

/-- Whether a scheme is spoken. -/
def speaks (scheme : String) : Bool :=
  scheme == "http" || scheme == "https"

/-- Whether a text can be sent as a header. -/
def isHeaderValue (text : String) : Bool :=
  text.toList.all fun c => c == '\t' || (decide (' ' ≤ c) && c != '\x7f')

/-- Whether an answer with a status has no body. -/
def isBodiless (status : Nat) : Bool :=
  status == 101 || status == 204 || status == 304

/-- Whether an answer with a status only says that another one will come. -/
def isInterim (status : Nat) : Bool :=
  100 ≤ status && status < 200 && status != 101

/-- What comes of an answer. -/
def answerOf (reply : Reply) : Answer :=
  if isBodiless reply.status then ⟨reply.status, some ""⟩
  else ⟨reply.status, if reply.isTruncated then none else some reply.body⟩

/-- The request that follows an answer with a status that points elsewhere. Most such answers ask
for a plain reading of the other address. -/
def redirected? (request : Request) (status : Nat) : Option Request :=
  if status == 301 || status == 302 || status == 303 then
    some { request with method := .get, contentType := none, body := "" }
  else if status == 307 || status == 308 then some request
  else none

/-- The request that follows an answer, if the answer points elsewhere. -/
def following? (request : Request) (reply : Reply) : Option Request := do
  let next ← redirected? request reply.status
  let url ← request.url.resolve? (← reply.location)
  return { next with url }

variable {World : Type}

/-- Sends a request and follows at most `limit` answers that point elsewhere. -/
def follow (transport : Transport World) (first : String) :
    Nat → Request → StateM World (Except SendFailure Answer)
  | limit, request => do
    match ← transport request with
    | none => return .error (.noAnswer first)
    | some reply =>
      if isInterim reply.status then return .error (.noAnswer first)
      else
        match following? request reply with
        | none => return .ok (answerOf reply)
        | some next =>
          match limit with
          | 0 => return .error (.endlessRedirects first)
          | limit + 1 =>
            if speaks next.url.scheme then follow transport first limit next
            else return .error (.unknownScheme next.url.text)

/-- The request that sends JSON to an address, if the address and the header can be used. A
header that is given counts before one for a name and password in the address. -/
def post (endpoint : String) (authorization : Option String) (body : String) :
    Except SendFailure Request :=
  match Url.ofText? endpoint with
  | none => .error .unusable
  | some given =>
    let url := given.withoutCredentials
    let authorization := authorization <|> given.authorization?
    if !url.hasHost then .error (.unknownScheme given.text)
    else if !(authorization.all isHeaderValue) then .error .unusable
    else if !speaks url.scheme then .error (.unknownScheme url.text)
    else
      .ok
        { method := .post, url, authorization, contentType := some "application/json", userAgent
          body }

/-- Sends JSON to an address. -/
def send (transport : Transport World) (endpoint : String) (authorization : Option String)
    (body : String) : StateM World (Except SendFailure Answer) :=
  match post endpoint authorization body with
  | .error failure => return .error failure
  | .ok request => follow transport request.url.text redirectLimit request

end Client

end JsxTidy.Http
