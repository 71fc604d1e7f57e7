import JsxTidy.Settings.Literal

/-!
# Settings from the environment

A variable of the environment names a setting by its name: behind a prefix, with two underlines
between the steps of a path, or by one of a few names that are known on their own. The case of
letters does not count. A later layer wins over an earlier one.
-/

namespace JsxTidy

/-- A variable of the environment. -/
structure Variable where
  name : String
  value : String
deriving DecidableEq, Repr

namespace Variable

/-- What the names of most settings begin with. -/
def marker : List Char :=
  "CODE_CLEANUP_".toList

/-- The text behind a beginning whose letters may be large or small. -/
def after? : List Char → List Char → Option (List Char)
  | [], text => some text
  | _ :: _, [] => none
  | p :: pattern, c :: text => if p.toLower = c.toLower then after? pattern text else none

/-- A text with a point for every two underlines. -/
def withPoints : List Char → List Char
  | '_' :: '_' :: rest => '.' :: withPoints rest
  | c :: rest => c :: withPoints rest
  | [] => []

/-- The parts of a text between points. -/
def steps : List Char → List (List Char)
  | [] => [[]]
  | c :: rest =>
    if c = '.' then [] :: steps rest
    else
      match steps rest with
      | first :: others => (c :: first) :: others
      | [] => [[c]]

/-- The path that a name names. There is none if one of its steps is empty. -/
def path? (name : List Char) : Option (List String) :=
  let path := steps (Text.trim name)
  if path.any List.isEmpty then none
  else some (path.map fun step => (String.ofList step).toLower)

/-- The path that a variable with the prefix names. -/
def prefixedPath? (v : Variable) : Option (List String) := do
  path? (withPoints (← after? marker (Text.trim v.name.toList)))

/-- The value of a variable. -/
def setting (origin : SettingOrigin) (v : Variable) : Setting :=
  .ofText origin (Text.trim v.value.toList)

/-- Whether a variable has a name, whose letters may be large or small. -/
def isNamed (name : String) (v : Variable) : Bool :=
  after? name.toList (Text.trim v.name.toList) == some []

end Variable

/-- The settings that variables give, by a path for each that names one. -/
def Setting.ofVariables (origin : SettingOrigin) (path? : Variable → Option (List String))
    (environment : List Variable) : Setting :=
  (environment.filterMap fun v =>
    (path? v).map fun path => Setting.nest origin (v.setting origin) path).foldl
      Setting.merge (.table origin [])

/-- The names that are known on their own, and what they name. -/
def Setting.knownNames : List (String × List String) :=
  [ ("OPENAI_API_KEY", ["openai", "api_key"]),
    ("GROQ_API_KEY", ["groq", "api_key"]),
    ("CUSTOM_MODEL_URL", ["custom", "endpoint"]) ]

/-- The layers of an environment, earlier ones first. -/
def Setting.layers (environment : List Variable) : List Setting :=
  .ofVariables .prefixed Variable.prefixedPath? environment
    :: Setting.knownNames.map fun (name, path) =>
      .ofVariables .plain (fun v => if v.isNamed name then some path else none) environment

end JsxTidy
