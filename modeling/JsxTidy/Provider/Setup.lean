import JsxTidy.Provider.Remote
import JsxTidy.Service
import JsxTidy.Settings.Load

/-!
# Setting up a service

The registry and the service for some settings. A provider that holds a chat is available if there
is a key for it; the refactoring server and tidied code itself are always available.
-/

namespace JsxTidy

open Http (Transport)

variable {World : Type}

/-- How to reach a provider that holds a chat, if there is a key for it. -/
def ChatSettings.access? (s : ChatSettings) : Option ChatAccess :=
  match s.apiKey with
  | some key => if key.isEmpty then none else some ⟨s.endpoint, key, s.model, s.temperature⟩
  | none => none

namespace Registry

/-- Makes a provider that holds a chat available, if there is a key for it. -/
def registerChat (transport : Transport World) (id : ProviderId) (s : ChatSettings)
    (r : Registry World) : Registry World :=
  match s.access? with
  | some access => r.register id (.chat transport id access)
  | none => r

/-- The registry for some settings. -/
def ofSettings (transport : Transport World) (s : Settings) : Registry World :=
  ((standard.registerChat transport .openai s.openai).registerChat transport .groq s.groq).register
    .customFinetuned (.custom transport s.custom.endpoint)

end Registry

/-- The service for some settings. -/
def Service.ofSettings (transport : Transport World) (s : Settings) : Service World :=
  ⟨.ofSettings transport s, ⟨s.spreadPolicy, .keep⟩, s.defaultProvider⟩

end JsxTidy
