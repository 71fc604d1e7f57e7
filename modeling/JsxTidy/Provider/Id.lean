/-!
# Providers

A provider is a service that improves code. Providers are known by their identifiers.
-/

namespace JsxTidy

/-- The providers. -/
inductive ProviderId where
  | openai
  | groq
  | customFinetuned
  /-- No model: the tidied code is the answer. -/
  | deterministic
deriving DecidableEq, Repr

namespace ProviderId

/-- All providers, in their order. -/
def all : List ProviderId :=
  [openai, groq, customFinetuned, deterministic]

/-- The identifier of a provider. -/
def name : ProviderId → String
  | openai => "openai"
  | groq => "groq"
  | customFinetuned => "custom-finetuned"
  | deterministic => "deterministic"

/-- The setting without which a provider is not available. -/
def credentialKey : ProviderId → String
  | openai => "OPENAI_API_KEY"
  | groq => "GROQ_API_KEY"
  | customFinetuned => "CUSTOM_MODEL_URL"
  | deterministic => "deterministic backend"

/-- The provider with an identifier. -/
def ofName? (text : String) : Option ProviderId :=
  all.find? fun id => id.name == text

end ProviderId

end JsxTidy
