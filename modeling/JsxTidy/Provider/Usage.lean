import JsxTidy.Provider.Id

/-!
# Usage

How often each provider has completed a request. The counters are plain numbers: one of 64 bits
begins again at zero only after `2 ^ 64` completed requests, which are never reached.
-/

namespace JsxTidy

/-- The number of completed requests of each provider. -/
structure Usage where
  count : ProviderId → Nat

namespace Usage

/-- No request has been completed. -/
def zero : Usage :=
  ⟨fun _ => 0⟩

/-- One more request of a provider has been completed. -/
def record (u : Usage) (id : ProviderId) : Usage :=
  ⟨fun other => if other = id then u.count other + 1 else u.count other⟩

/-- The numbers of all providers, in their order. -/
def snapshot (u : Usage) : List (ProviderId × Nat) :=
  ProviderId.all.map fun id => (id, u.count id)

end Usage

end JsxTidy
