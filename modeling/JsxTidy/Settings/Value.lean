import JsxTidy.Decimal.Float
import JsxTidy.Json.Problem

/-!
# Values of settings

Settings are gathered from layers before anybody knows what they are for, so a value keeps what its
text looked like and which layer it came from. Tables of two layers are merged field by field; any
other value replaces the one before.
-/

namespace JsxTidy

/-- The layers that values come from. -/
inductive SettingOrigin where
  | builtIn
  /-- Variables of the environment with a prefix. -/
  | prefixed
  /-- Variables of the environment without a prefix. -/
  | plain
deriving DecidableEq, Repr

/-- A value that holds no other ones. -/
inductive SettingScalar where
  | absent
  | bool (b : Bool)
  | unsigned (n : Nat)
  | signed (n : Int)
  | float (x : Decimal.FloatValue)
  | string (s : String)
  | char (c : Char)
deriving DecidableEq, Repr

/-- A value and where it comes from. The fields of a table are sorted by their names. -/
inductive Setting where
  | scalar (origin : SettingOrigin) (value : SettingScalar)
  | list (origin : SettingOrigin) (items : List Setting)
  | table (origin : SettingOrigin) (fields : List (String × Setting))

namespace Setting

/-- Where a value comes from. -/
def origin : Setting → SettingOrigin
  | scalar origin _ => origin
  | list origin _ => origin
  | table origin _ => origin

/-- Puts a field in its place among fields sorted by name. A field of the same name is replaced. -/
def putField (name : String) (value : Setting) :
    List (String × Setting) → List (String × Setting)
  | [] => [(name, value)]
  | (other, v) :: rest =>
    if name < other then (name, value) :: (other, v) :: rest
    else if name = other then (name, value) :: rest
    else (other, v) :: putField name value rest

/-- The table with some fields. Of fields with the same name the last one counts. -/
def ofFields (origin : SettingOrigin) (fields : List (String × Setting)) : Setting :=
  table origin (fields.foldl (fun sorted field => putField field.1 field.2 sorted) [])

/-- A value inside tables, named by the steps of a path. -/
def nest (origin : SettingOrigin) (value : Setting) : List String → Setting
  | [] => value
  | step :: path => table origin [(step, nest origin value path)]

mutual

/-- A value with that of a later layer. -/
def merge (old : Setting) : Setting → Setting
  | scalar origin value => scalar origin value
  | list origin items => list origin items
  | table origin fields =>
    match old with
    | table _ oldFields => table origin (mergeFields oldFields fields)
    | _ => table origin fields

/-- Fields with those of a later layer. -/
def mergeFields (old : List (String × Setting)) :
    List (String × Setting) → List (String × Setting)
  | [] => old
  | (name, value) :: rest =>
    match old.lookup name with
    | some before => mergeFields (putField name (before.merge value) old) rest
    | none => mergeFields (putField name value old) rest

end

end Setting

/-- What can be wrong with a value. -/
inductive SettingFault where
  | invalidType (found expected : String)
  | invalidValue (found expected : String)
  | invalidLength (length : Nat) (expected : String)
  | unknownVariant (name : String) (known : List String)
  | missingField (name : String)
deriving DecidableEq, Repr

/-- A fault, the steps that lead to the value, and where the value comes from. -/
structure SettingProblem where
  fault : SettingFault
  path : List String
  origin : SettingOrigin
deriving DecidableEq, Repr

namespace SettingOrigin

/-- A layer in words. -/
def describe : SettingOrigin → String
  | builtIn => "built-in settings"
  | prefixed => "\x60CODE_CLEANUP_\x60 environment variable(s)"
  | plain => "environment variable(s)"

end SettingOrigin

namespace SettingFault

/-- A fault in words. -/
def message : SettingFault → String
  | invalidType found expected => "invalid type: found " ++ found ++ ", expected " ++ expected
  | invalidValue found expected => "invalid value " ++ found ++ ", expected " ++ expected
  | invalidLength length expected =>
    "invalid length " ++ toString length ++ ", expected " ++ expected
  | unknownVariant name known =>
    "unknown variant: found " ++ Json.ticked name ++ ", expected " ++ Json.ticked (Json.oneOf known)
  | missingField name => "missing field " ++ Json.ticked name

end SettingFault

namespace SettingProblem

/-- The same problem, seen from one step further out. -/
def inside (p : SettingProblem) (step : String) : SettingProblem :=
  { p with path := step :: p.path }

/-- A problem in words. -/
def describe (p : SettingProblem) : String :=
  let key := ".".intercalate (p.path.map String.toUpper)
  p.fault.message
    ++ (if p.path.isEmpty then "" else " for key " ++ String.ofList (Text.quoted '"' key.toList))
    ++ " in " ++ p.origin.describe

end SettingProblem

namespace Setting

/-- What a value is, in words. -/
def describe : Setting → String
  | scalar _ value =>
    match value with
    | .absent => "unit"
    | .bool b => if b then "bool true" else "bool false"
    | .unsigned n => "unsigned int " ++ Json.ticked (toString n)
    | .signed n => "signed int " ++ Json.ticked (toString n)
    | .float x => "float " ++ Json.ticked (String.ofList (x.text Decimal.binary64))
    | .string s => "string " ++ String.ofList (Text.quoted '"' s.toList)
    | .char c => "string " ++ String.ofList (Text.quoted '"' [c])
  | list .. => "sequence"
  | table .. => "map"

end Setting

end JsxTidy
