import JsxTidy.Json.Parse

/-!
# Reading JSON: records

Readers for values of a known shape. A record is written as an object, or as an array of its
fields in order.
-/

namespace JsxTidy.Json.Reader

/-- What a value without other ones in it counts as. -/
def found : Json → Found
  | .null => .null
  | .bool b => .bool b
  | .number n => .number n
  | .string s => .string s
  | .array _ => .sequence
  | .object _ => .map

/-- Reads a value that holds no other ones, and makes something of it. -/
def scalarOf {α : Type} (expected : String) (accept : Json → Except Fault α) : Reader α := do
  match ← peekItem? with
  | none => failNext .endOfValue
  | some c =>
    match ← scalar? with
    | some v =>
      match accept v with
      | .ok a => return a
      | .error fault => failHere fault
    | none =>
      if c = '[' then failHere (.invalidType .sequence expected)
      else if c = '\x7b' then failHere (.invalidType .map expected)
      else failNext .expectedValue

/-- Complains that a value is not what is expected. -/
def mismatch {α : Type} (expected : String) : Reader α :=
  scalarOf expected fun v => .error (.invalidType (found v) expected)

/-- Reads a string. -/
def string : Reader String :=
  scalarOf "a string" fun
    | .string s => .ok s
    | v => .error (.invalidType (found v) "a string")

/-- Reads a number that fits 32 bits. -/
def word32 : Reader UInt32 :=
  scalarOf "u32" fun
    | .number (.whole n) =>
      if 0 ≤ n ∧ n < Int.pow 2 32 then .ok n.toNat.toUInt32
      else .error (.invalidValue (.number (.whole n)) "u32")
    | v => .error (.invalidType (found v) "u32")

/-- Reads a value that may be `null` instead. -/
def optional {α : Type} (reader : Reader α) : Reader (Option α) := do
  match ← peekItem? with
  | some 'n' =>
    advance
    wordRest ['u', 'l', 'l']
    return none
  | _ => return some (← reader)

/-- Reads a list. -/
def list {α : Type} (item : Reader α) : Reader (List α) := do
  match ← peekItem? with
  | none => failNext .endOfValue
  | some '[' =>
    advance
    items item
  | some _ => mismatch "a sequence"

/-- Reads the name of a variant. -/
def variantName {α : Type} (variants : List (String × α)) : Reader α :=
  scalarOf "variant identifier" fun
    | .string s =>
      match variants.lookup s with
      | some a => .ok a
      | none => .error (.unknownVariant s (variants.map Prod.fst))
    | v => .error (.invalidType (found v) "variant identifier")

/-- Reads one of some variants: its name, or an object with its name and nothing behind it. -/
def variant {α : Type} (variants : List (String × α)) : Reader α := do
  match ← peekItem? with
  | none => failNext .endOfValue
  | some '"' => variantName variants
  | some '\x7b' =>
    advance
    let a ← variantName variants
    colon
    scalarOf "unit" fun
      | .null => .ok ()
      | v => .error (.invalidType (found v) "unit")
    match ← peekItem? with
    | some '\x7d' =>
      advance
      return a
    | some _ => failHere .expectedValue
    | none => failHere .endOfObject
  | some _ => failNext .expectedValue

/-- A field of a record that is read step by step. -/
structure Field (σ : Type) where
  name : String
  /-- Whether the field has been read already. -/
  isSet : σ → Bool
  /-- Whether an array may end before the field. -/
  mayLack : Bool
  read : σ → Reader σ

/-- Reads the fields of a record up to the end of an object. -/
def namedFieldsFrom {σ : Type} (fields : List (Field σ)) :
    Nat → Bool → σ → Reader (Except Fault σ)
  | 0, _, s => return .ok s
  | fuel + 1, isFirst, s => do
    if ← objectGoesOn isFirst then
      let name ← stringRest
      match fields.find? fun field => field.name == name with
      | some field =>
        if field.isSet s then return .error (.duplicateField name)
        else
          colon
          namedFieldsFrom fields fuel false (← field.read s)
      | none =>
        colon
        skipAny
        namedFieldsFrom fields fuel false s
    else return .ok s

/-- Reads the fields of a record up to the end of an array. -/
def placedFieldsFrom {σ : Type} (expected : String) (count : Nat) :
    List (Field σ) → σ → Reader (Except Fault σ)
  | [], s => return .ok s
  | field :: rest, s => do
    if ← listGoesOn (count == 0) then
      placedFieldsFrom expected (count + 1) rest (← field.read s)
    else if field.mayLack then placedFieldsFrom expected (count + 1) rest s
    else return .error (.invalidLength count expected)

/-- Reads a record from what it is before any field, and completes it. -/
def record {σ α : Type} (title : String) (fields : List (Field σ)) (start : σ)
    (complete : σ → Except Fault α) : Reader α := do
  match ← peekItem? with
  | none => failNext .endOfValue
  | some '[' =>
    advance
    let whole := title ++ " with " ++ toString fields.length ++ " elements"
    let read ← placedFieldsFrom whole 0 fields start
    closing listEnd (read >>= complete)
  | some '\x7b' =>
    advance
    let read ← namedFieldsFrom fields (← stepsLeft) true start
    closing objectEnd (read >>= complete)
  | some _ => mismatch title

end JsxTidy.Json.Reader
