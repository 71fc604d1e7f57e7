import JsxTidy.Diagnostics
import JsxTidy.Failure
import JsxTidy.Json.Decode

/-!
# Requests

A request asks for some code to be tidied and improved. It is sent as JSON, and what it leaves out
has a default.
-/

namespace JsxTidy

open Json (Reader)

/-- A request to improve some code. -/
structure TidyRequest where
  code : String
  fileName : Option String
  provider : Option ProviderId
deriving DecidableEq, Repr

namespace ProviderId

/-- Reads a provider. -/
def reader : Reader ProviderId :=
  Reader.variant (all.map fun id => (id.name, id))

end ProviderId

namespace TidyRequest

/-- A request with nothing but code. -/
def ofCode (code : String) : TidyRequest :=
  ⟨code, none, none⟩

/-- A request that is being read. A field that has been read is `some`. -/
structure Partial where
  code : Option String
  fileName : Option (Option String)
  provider : Option (Option ProviderId)

/-- The fields of a request. -/
def fields : List (Reader.Field Partial) :=
  [ ⟨"code", fun p => p.code.isSome, true,
      fun p => do return { p with code := some (← Reader.string) }⟩,
    ⟨"fileName", fun p => p.fileName.isSome, true,
      fun p => do return { p with fileName := some (← Reader.optional Reader.string) }⟩,
    ⟨"provider", fun p => p.provider.isSome, true,
      fun p => do return { p with provider := some (← Reader.optional ProviderId.reader) }⟩ ]

/-- The request that has been read. Code that was left out is empty. -/
def Partial.complete (p : Partial) : TidyRequest :=
  ⟨p.code.getD "", p.fileName.getD none, p.provider.getD none⟩

/-- Reads a request. -/
def reader : Reader TidyRequest :=
  Reader.record "struct CleanRequest" fields ⟨none, none, none⟩ fun p => .ok p.complete

/-- The request in a text. -/
def ofText (body : String) : Except Failure TidyRequest :=
  match reader.run body.toList with
  | .ok request => .ok request
  | .error problem =>
    .error (.invalidInput ("Invalid request body: " ++ problem.describe body.toList))

/-- A request as JSON. What is not given is left out. -/
def toJson (r : TidyRequest) : Json :=
  .object ([("code", .string r.code)]
    ++ (r.fileName.map fun name => ("fileName", Json.string name)).toList
    ++ (r.provider.map fun id => ("provider", Json.string id.name)).toList)

/-- A request as text. -/
def toText (r : TidyRequest) : String :=
  r.toJson.render

end TidyRequest

namespace Diagnostics

/-- Counters that are being read. -/
structure Partial where
  removedImports : Option UInt32
  sortedTags : Option UInt32
  normalizedClasses : Option UInt32

/-- The fields of the counters. -/
def fields : List (Reader.Field Partial) :=
  [ ⟨"removedImports", fun p => p.removedImports.isSome, false,
      fun p => do return { p with removedImports := some (← Reader.word32) }⟩,
    ⟨"sortedJsxProps", fun p => p.sortedTags.isSome, false,
      fun p => do return { p with sortedTags := some (← Reader.word32) }⟩,
    ⟨"normalizedTailwindClasses", fun p => p.normalizedClasses.isSome, false,
      fun p => do return { p with normalizedClasses := some (← Reader.word32) }⟩ ]

/-- A value that has to be there. -/
def required {α : Type} (name : String) : Option α → Except Json.Fault α
  | some a => .ok a
  | none => .error (.missingField name)

/-- The counters that have been read, if none is missing. -/
def Partial.complete (p : Partial) : Except Json.Fault Diagnostics := do
  return ⟨← required "removedImports" p.removedImports,
    ← required "sortedJsxProps" p.sortedTags,
    ← required "normalizedTailwindClasses" p.normalizedClasses⟩

/-- Reads counters. -/
def reader : Reader Diagnostics :=
  Reader.record "struct CleanupDiagnostics" fields ⟨none, none, none⟩ Partial.complete

/-- The counters in a text, or what is wrong with it in words. -/
def ofText (text : String) : Except String Diagnostics :=
  match reader.run text.toList with
  | .ok d => .ok d
  | .error problem => .error (problem.describe text.toList)

end Diagnostics

end JsxTidy
