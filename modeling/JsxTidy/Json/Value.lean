import JsxTidy.Decimal.Shortest

/-!
# JSON values

A number is whole as long as it fits the 64 bits of a machine word, with or without a sign, and a
binary floating-point number otherwise. The fields of an object are sorted by their names, and no
name stands twice.
-/

namespace JsxTidy

namespace Json

/-- A number. -/
inductive Number where
  | whole (n : Int)
  /-- A floating-point number: its sign and its size. The size of zero has no digits. -/
  | float (isNegative : Bool) (size : Decimal.Binary)
deriving DecidableEq, Repr

end Json

/-- A value. -/
inductive Json where
  | null
  | bool (b : Bool)
  | number (n : Json.Number)
  | string (s : String)
  | array (items : List Json)
  | object (fields : List (String × Json))

namespace Json

/-- Puts a field in its place among fields sorted by name. A field of the same name is replaced. -/
def insertField (name : String) (value : Json) : List (String × Json) → List (String × Json)
  | [] => [(name, value)]
  | (other, v) :: rest =>
    if name < other then (name, value) :: (other, v) :: rest
    else if name = other then (name, value) :: rest
    else (other, v) :: insertField name value rest

/-- The object with some fields. Of fields with the same name the last one counts. -/
def ofFields (fields : List (String × Json)) : Json :=
  object (fields.foldl (fun sorted field => insertField field.1 field.2 sorted) [])

/-- The value of a field. -/
def field? (name : String) : Json → Option Json
  | object fields => fields.lookup name
  | _ => none

/-- The item of an array at a place. -/
def item? (index : Nat) : Json → Option Json
  | array items => items[index]?
  | _ => none

/-- The text of a string. -/
def string? : Json → Option String
  | string s => some s
  | _ => none

/-- The value of a whole number that is not negative. -/
def nat? : Json → Option Nat
  | number (.whole n) => n.toNat?
  | _ => none

end Json

end JsxTidy
