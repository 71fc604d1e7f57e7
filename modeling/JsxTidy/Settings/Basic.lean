import JsxTidy.Attribute.Order
import JsxTidy.Decimal.Float
import JsxTidy.Provider.Id

/-!
# Settings

What can be set: the provider that is asked by default, how attributes are sorted, and how each
remote provider is reached.
-/

namespace JsxTidy

/-- How a provider that holds a chat is reached. -/
structure ChatSettings where
  apiKey : Option String
  endpoint : String
  model : String
  /-- A value of 32 bits. -/
  temperature : Decimal.FloatValue
  timeoutSecs : Nat
deriving DecidableEq, Repr

/-- How a refactoring server of one's own is reached. -/
structure CustomSettings where
  endpoint : String
  timeoutSecs : Nat
deriving DecidableEq, Repr

/-- All settings. -/
structure Settings where
  defaultProvider : ProviderId
  spreadPolicy : SpreadPolicy
  openai : ChatSettings
  groq : ChatSettings
  custom : CustomSettings
deriving DecidableEq, Repr

namespace ChatSettings

/-- Whether there is a key. An empty one counts as none. -/
def isConfigured (s : ChatSettings) : Bool :=
  match s.apiKey with
  | some key => !key.isEmpty
  | none => false

/-- Some tenths, as a value of 32 bits. -/
def tenths (n : Nat) : Decimal.FloatValue :=
  .ofRatio Decimal.binary32 false ⟨n, 10⟩

end ChatSettings

namespace Settings

/-- The settings where nothing else is set. -/
def builtIn : Settings :=
  { defaultProvider := .openai
    spreadPolicy := .barrier
    openai :=
      { apiKey := none
        endpoint := "https://api.openai.com/v1/chat/completions"
        model := "gpt-4o-mini"
        temperature := ChatSettings.tenths 1
        timeoutSecs := 60 }
    groq :=
      { apiKey := none
        endpoint := "https://api.groq.com/openai/v1/chat/completions"
        model := "llama3-70b-8192"
        temperature := ChatSettings.tenths 2
        timeoutSecs := 60 }
    custom := ⟨"http://localhost:8000/refactor", 180⟩ }

end Settings

/-- The name of a spread policy. -/
def SpreadPolicy.name : SpreadPolicy → String
  | barrier => "barrier"
  | unrestricted => "unrestricted"

end JsxTidy
