import JsxTidy.Failure
import JsxTidy.Settings.Basic
import JsxTidy.Settings.Environment

/-!
# Loading settings

The settings of an environment: all layers merged over what is built in, and turned into what they
are for. Fields are looked at in the order of their names, and the first problem counts.
-/

namespace JsxTidy

namespace Setting

/-- Turns a value into what it is for. -/
abbrev Decoder (α : Type) := Setting → Except SettingProblem α

/-- Stops at a value. -/
def fail {α : Type} (v : Setting) (fault : SettingFault) : Except SettingProblem α :=
  .error ⟨fault, [], v.origin⟩

/-- Complains that a value is not what is expected. -/
def mismatch {α : Type} (expected : String) : Decoder α := fun v =>
  v.fail (.invalidType v.describe expected)

/-- A string, or a single character. -/
def string : Decoder String
  | .scalar _ (.string s) => .ok s
  | .scalar _ (.char c) => .ok (String.singleton c)
  | v => v.mismatch "a string"

/-- A value that may be missing. -/
def optional {α : Type} (decoder : Decoder α) : Decoder (Option α)
  | .scalar _ .absent => .ok none
  | v => (decoder v).map some

/-- A whole number without a sign that fits 64 bits. -/
def word64 : Decoder Nat
  | .scalar _ (.unsigned n) => .ok n
  | .scalar origin (.signed n) =>
    if 0 ≤ n then .ok n.toNat
    else
      let v : Setting := .scalar origin (.signed n)
      v.fail (.invalidValue v.describe "u64")
  | v => v.mismatch "u64"

/-- A number as a value of 32 bits. -/
def float32 : Decoder Decimal.FloatValue
  | .scalar _ (.unsigned n) => .ok (.ofRatio Decimal.binary32 false ⟨n, 1⟩)
  | .scalar _ (.signed n) => .ok (.ofRatio Decimal.binary32 (n < 0) ⟨n.natAbs, 1⟩)
  | .scalar _ (.float x) => .ok (x.convert Decimal.binary32)
  | v => v.mismatch "f32"

/-- One of some variants: its name, or a table with its name and nothing behind it. -/
def variant {α : Type} (title : String) (variants : List (String × α)) : Decoder α := fun v =>
  let named (name : String) : Except SettingProblem α :=
    match variants.lookup name with
    | some a => .ok a
    | none => v.fail (.unknownVariant name (variants.map Prod.fst))
  match v with
  | .scalar _ (.string s) => named s
  | .table _ [] => v.mismatch "enum"
  | .table _ ((name, inner) :: _) => do
    let a ← named name
    match inner with
    | .scalar _ .absent => return a
    | _ =>
      match (inner.mismatch "unit" : Except SettingProblem α) with
      | .ok a => return a
      | .error problem => .error (problem.inside name)
  | _ => v.mismatch title

/-- A field of a record that is put together step by step. -/
structure Field (σ : Type) where
  name : String
  isSet : σ → Bool
  read : σ → Decoder σ

/-- Reads a field, and says where a problem is. -/
def readField {σ : Type} (field : Field σ) (step : String) (s : σ) (v : Setting) :
    Except SettingProblem σ :=
  match field.read s v with
  | .ok s => .ok s
  | .error problem => .error (problem.inside step)

/-- Reads the fields of a record from those of a table. Other fields do not count. -/
def namedFields {σ : Type} (fields : List (Field σ)) :
    List (String × Setting) → σ → Except SettingProblem σ
  | [], s => .ok s
  | (name, v) :: rest, s => do
    match fields.find? fun field => field.name == name with
    | some field => namedFields fields rest (← readField field name s v)
    | none => namedFields fields rest s

/-- Reads the fields of a record from the items of a list, as far as there are some, and counts
those that have been read. -/
def placedFields {σ : Type} : List (Field σ) → List Setting → Nat → σ → Except SettingProblem (σ × Nat)
  | field :: fields, v :: items, index, s => do
    placedFields fields items (index + 1) (← readField field (toString index) s v)
  | _, _, index, s => .ok (s, index)

/-- Reads a record: a table with all its fields, or a list of them in order. -/
def record {σ : Type} (title : String) (fields : List (Field σ)) (start : σ) : Decoder σ := fun v =>
  match v with
  | .table _ named => do
    let s ← namedFields fields named start
    match fields.find? fun field => !field.isSet s with
    | some field => v.fail (.missingField field.name)
    | none => return s
  | .list _ items => do
    let (s, count) ← placedFields fields items 0 start
    if count < fields.length then
      v.fail (.invalidLength count (title ++ " with " ++ toString fields.length ++ " elements"))
    else return s
  | _ => v.mismatch title

end Setting

namespace ChatSettings

/-- Settings that are being read. A field that has been read is `some`. -/
structure Partial where
  apiKey : Option (Option String)
  endpoint : Option String
  model : Option String
  temperature : Option Decimal.FloatValue
  timeoutSecs : Option Nat

/-- The fields. A key may be missing. -/
def fields : List (Setting.Field Partial) :=
  [ ⟨"api_key", fun _ => true,
      fun p v => do return { p with apiKey := some (← Setting.optional Setting.string v) }⟩,
    ⟨"endpoint", fun p => p.endpoint.isSome,
      fun p v => do return { p with endpoint := some (← Setting.string v) }⟩,
    ⟨"model", fun p => p.model.isSome,
      fun p v => do return { p with model := some (← Setting.string v) }⟩,
    ⟨"temperature", fun p => p.temperature.isSome,
      fun p v => do return { p with temperature := some (← Setting.float32 v) }⟩,
    ⟨"timeout_secs", fun p => p.timeoutSecs.isSome,
      fun p v => do return { p with timeoutSecs := some (← Setting.word64 v) }⟩ ]

/-- The settings that have been read, over those that are built in. -/
def Partial.complete (p : Partial) (start : ChatSettings) : ChatSettings :=
  { apiKey := p.apiKey.getD start.apiKey
    endpoint := p.endpoint.getD start.endpoint
    model := p.model.getD start.model
    temperature := p.temperature.getD start.temperature
    timeoutSecs := p.timeoutSecs.getD start.timeoutSecs }

/-- Reads settings. -/
def decode (start : ChatSettings) : Setting.Decoder ChatSettings := fun v => do
  let p ← Setting.record "struct ChatProviderConfig" fields ⟨none, none, none, none, none⟩ v
  return p.complete start

/-- Settings as values. -/
def toSetting (s : ChatSettings) : Setting :=
  .table .builtIn
    [ ("api_key", .scalar .builtIn (match s.apiKey with
        | some key => .string key
        | none => .absent)),
      ("endpoint", .scalar .builtIn (.string s.endpoint)),
      ("model", .scalar .builtIn (.string s.model)),
      ("temperature", .scalar .builtIn (.float (s.temperature.convert Decimal.binary64))),
      ("timeout_secs", .scalar .builtIn (.unsigned s.timeoutSecs)) ]

end ChatSettings

namespace CustomSettings

/-- Settings that are being read. A field that has been read is `some`. -/
structure Partial where
  endpoint : Option String
  timeoutSecs : Option Nat

/-- The fields. -/
def fields : List (Setting.Field Partial) :=
  [ ⟨"endpoint", fun p => p.endpoint.isSome,
      fun p v => do return { p with endpoint := some (← Setting.string v) }⟩,
    ⟨"timeout_secs", fun p => p.timeoutSecs.isSome,
      fun p v => do return { p with timeoutSecs := some (← Setting.word64 v) }⟩ ]

/-- Reads settings. -/
def decode (start : CustomSettings) : Setting.Decoder CustomSettings := fun v => do
  let p ← Setting.record "struct CustomModelConfig" fields ⟨none, none⟩ v
  return ⟨p.endpoint.getD start.endpoint, p.timeoutSecs.getD start.timeoutSecs⟩

/-- Settings as values. -/
def toSetting (s : CustomSettings) : Setting :=
  .table .builtIn
    [ ("endpoint", .scalar .builtIn (.string s.endpoint)),
      ("timeout_secs", .scalar .builtIn (.unsigned s.timeoutSecs)) ]

end CustomSettings

namespace Settings

/-- The fields. -/
def fields : List (Setting.Field Settings) :=
  [ ⟨"default_provider", fun _ => true, fun s v => do
      let variants := ProviderId.all.map fun id => (id.name, id)
      return { s with defaultProvider := ← Setting.variant "enum ProviderId" variants v }⟩,
    ⟨"spread_policy", fun _ => true, fun s v => do
      let variants := [SpreadPolicy.barrier, SpreadPolicy.unrestricted].map fun p => (p.name, p)
      return { s with spreadPolicy := ← Setting.variant "enum SpreadPolicy" variants v }⟩,
    ⟨"openai", fun _ => true,
      fun s v => do return { s with openai := ← ChatSettings.decode s.openai v }⟩,
    ⟨"groq", fun _ => true,
      fun s v => do return { s with groq := ← ChatSettings.decode s.groq v }⟩,
    ⟨"custom", fun _ => true,
      fun s v => do return { s with custom := ← CustomSettings.decode s.custom v }⟩ ]

/-- Settings as values. -/
def toSetting (s : Settings) : Setting :=
  .table .builtIn
    [ ("custom", s.custom.toSetting),
      ("default_provider", .scalar .builtIn (.string s.defaultProvider.name)),
      ("groq", s.groq.toSetting),
      ("openai", s.openai.toSetting),
      ("spread_policy", .scalar .builtIn (.string s.spreadPolicy.name)) ]

/-- All layers of an environment, merged over what is built in. -/
def merged (environment : List Variable) : Setting :=
  (Setting.layers environment).foldl Setting.merge builtIn.toSetting

/-- The settings of an environment. -/
def load (environment : List Variable) : Except Failure Settings :=
  match Setting.record "struct CleanupConfig" fields builtIn (merged environment) with
  | .ok settings => .ok settings
  | .error problem => .error (.configuration problem.describe)

end Settings

end JsxTidy
