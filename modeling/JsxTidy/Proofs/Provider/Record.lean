import JsxTidy.Provider.Registry

/-!
# Records of calls

A backend acts on a world of which nothing is known. A recorded backend does the same and also
writes down each call under a label, so that it can be said which backends were called. Recording
changes nothing else: `Registry.Records.run` gives the replies and counters of the registry itself.
-/

namespace JsxTidy

variable {World Label : Type}

/-- A call of a backend: the label of the backend, what it was asked, and what it replied. -/
structure Call (Label : Type) where
  backend : Label
  request : ModelRequest
  reply : Except Failure ModelRun

/-- A world with the calls that were made in it, the first one first. -/
structure Recorded (Label World : Type) where
  world : World
  calls : List (Call Label)

/-- The backend that does the same and records its calls under a label. -/
def Backend.recorded (backend : Backend World) (label : Label) :
    Backend (Recorded Label World) :=
  ⟨fun request w =>
    let (reply, world) := backend.complete request w.world
    (reply, ⟨world, w.calls ++ [⟨label, request, reply⟩]⟩)⟩

namespace Registry

/-- A registry of which each backend records its calls under a label for its provider. -/
def recorded (r : Registry World) (label : ProviderId → Label) :
    Registry (Recorded Label World) :=
  ⟨fun id => (r.backend? id).map fun backend => backend.recorded (label id)⟩

/-! ## What a run does -/

/-- Why a provider is not available. -/
def notConfigured (id : ProviderId) : Failure :=
  .unavailable id (id.credentialKey ++ " is not configured.")

section Run

variable {r : Registry World} {request : ModelRequest} {usage : Usage} {w : World}
  {backend : Backend World}

/-- Without a backend for its provider a request fails, and nothing happens. -/
theorem run_of_none (h : r.backend? request.provider = none) :
    r.run request usage w = ((.error (notConfigured request.provider), usage), w) := by
  simp only [run, h]
  rfl

/-- A request gets the reply of its backend as it is, and counts if it was completed. -/
theorem run_of_some (h : r.backend? request.provider = some backend) :
    r.run request usage w =
      (((backend.complete request w).1,
        if (backend.complete request w).1.isOk then usage.record request.provider else usage),
        (backend.complete request w).2) := by
  simp only [run, h, bind, StateT.bind]
  cases hcomplete : backend.complete request w with
  | mk reply world =>
      cases reply <;> rfl

/-- A request that fails is not counted. -/
theorem usage_run_of_error {failure : Failure}
    (h : (r.run request usage w).1.1 = .error failure) : (r.run request usage w).1.2 = usage := by
  cases hbackend : r.backend? request.provider with
  | none => rw [run_of_none hbackend]
  | some backend =>
      rw [run_of_some hbackend] at h ⊢
      simp only at h
      rw [h]
      rfl

/-- A request that is completed counts for its provider. -/
theorem usage_run_of_ok {result : ModelRun} (h : (r.run request usage w).1.1 = .ok result) :
    (r.run request usage w).1.2 = usage.record request.provider := by
  cases hbackend : r.backend? request.provider with
  | none =>
      rw [run_of_none hbackend] at h
      cases h
  | some backend =>
      rw [run_of_some hbackend] at h ⊢
      simp only at h
      rw [h]
      rfl

/-- Whether a registry does what another one does and also records its calls under labels. -/
def Records (recorded : Registry (Recorded Label World)) (label : ProviderId → Label)
    (r : Registry World) : Prop :=
  ∀ id, recorded.backend? id = (r.backend? id).map fun backend => backend.recorded (label id)

/-- Recording a run changes neither its reply nor the counters nor the world, and the only call is
the one of the backend of its provider. -/
theorem Records.run {recorded : Registry (Recorded Label World)} {label : ProviderId → Label}
    (h : recorded.Records label r) (calls : List (Call Label)) :
    recorded.run request usage ⟨w, calls⟩ =
      ((r.run request usage w).1, ⟨(r.run request usage w).2, calls ++
        if (r.backend? request.provider).isSome then
          [⟨label request.provider, request, (r.run request usage w).1.1⟩] else []⟩) := by
  have hbackend := h request.provider
  cases hr : r.backend? request.provider with
  | none =>
      rw [hr, Option.map_none] at hbackend
      rw [run_of_none hbackend, run_of_none hr]
      simp
  | some backend =>
      rw [hr, Option.map_some] at hbackend
      rw [run_of_some hbackend, run_of_some hr]
      rfl

end Run

end Registry

namespace Usage

/-- One more completed request counts for its own provider only. -/
theorem count_record (u : Usage) (id other : ProviderId) :
    (u.record id).count other = u.count other + if id = other then 1 else 0 := by
  by_cases h : other = id
  · simp [record, h]
  · have hne : ¬ id = other := fun heq => h heq.symm
    simp [record, h, hne]

end Usage

end JsxTidy
