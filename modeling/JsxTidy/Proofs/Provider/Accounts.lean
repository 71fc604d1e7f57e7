import JsxTidy.Proofs.Provider.Record
import Mathlib.Data.List.Induction

/-!
# A registry over time

Backends are registered and requests are run in any order. `registry_accounts` says what holds after
any such steps: which providers are available, which backend answers the next request, and what has
been counted. A backend is told from the others by the step that registered it: in a run whose
backends record their calls, only the most recent one for the provider is called.
-/

namespace JsxTidy

variable {World : Type}

/-- Something that is done with a registry. -/
inductive RegistryStep (World : Type) where
  | register (id : ProviderId) (backend : Backend World)
  | run (request : ModelRequest)

namespace RegistryStep

/-- The backend that a step registers for a provider, if it registers one. -/
def backendFor? (id : ProviderId) : RegistryStep World → Option (Backend World)
  | register other backend => if other = id then some backend else none
  | run _ => none

/-- The step with a backend that records its calls under a number. -/
def recorded (number : Nat) : RegistryStep World → RegistryStep (Recorded (Option Nat) World)
  | register id backend => register id (backend.recorded (some number))
  | run request => run request

/-- Some steps with backends that record their calls under the numbers of their steps. -/
def numbered (steps : List (RegistryStep World)) :
    List (RegistryStep (Recorded (Option Nat) World)) :=
  steps.mapIdx recorded

/-- The most recent of some steps that registers a backend for a provider, by its number, and the
backend. -/
def latest? (steps : List (RegistryStep World)) (id : ProviderId) : Option (Nat × Backend World) :=
  steps.zipIdx.reverse.findSome? fun (step, number) => (step.backendFor? id).map (number, ·)

/-- The backend of a provider after some steps, and the number of the step that registered it, if
it was not there from the start. -/
def current? (initial : Registry World) (steps : List (RegistryStep World)) (id : ProviderId) :
    Option (Option Nat × Backend World) :=
  match latest? steps id with
  | some (number, backend) => some (some number, backend)
  | none => (initial.backend? id).map (none, ·)

end RegistryStep

/-- A request and the reply to it. -/
structure Exchange where
  request : ModelRequest
  reply : Except Failure ModelRun

/-- Whether a request to a provider was completed. -/
def Exchange.completes (e : Exchange) (id : ProviderId) : Bool :=
  e.request.provider == id && e.reply.isOk

/-- A registry, its counters, its world, and the exchanges so far, the first one first. -/
structure RegistryState (World : Type) where
  registry : Registry World
  usage : Usage
  world : World
  exchanges : List Exchange

namespace RegistryState

/-- Before the first step. -/
def start (initial : Registry World) (w : World) : RegistryState World :=
  ⟨initial, .zero, w, []⟩

/-- The state after a step. -/
def step (s : RegistryState World) : RegistryStep World → RegistryState World
  | .register id backend => { s with registry := s.registry.register id backend }
  | .run request =>
    let ((reply, usage), world) := s.registry.run request s.usage s.world
    ⟨s.registry, usage, world, s.exchanges ++ [⟨request, reply⟩]⟩

/-- The state after a run with some reply, which has come to a world. -/
def answered (s : RegistryState World) (request : ModelRequest) (reply : Except Failure ModelRun)
    (world : World) : RegistryState World :=
  ⟨s.registry, if reply.isOk then s.usage.record request.provider else s.usage, world,
    s.exchanges ++ [⟨request, reply⟩]⟩

/-- The state after some steps. -/
def after (initial : Registry World) (w : World) (steps : List (RegistryStep World)) :
    RegistryState World :=
  steps.foldl step (start initial w)

end RegistryState

open RegistryStep RegistryState

variable {initial : Registry World} {steps : List (RegistryStep World)} {w : World}
  {id : ProviderId} {backend : Backend World} {s : RegistryState World} {request : ModelRequest}

/-! ## One step more -/

theorem after_concat (step : RegistryStep World) :
    after initial w (steps ++ [step]) = (after initial w steps).step step :=
  List.foldl_append ..

theorem numbered_concat (step : RegistryStep World) :
    numbered (steps ++ [step]) = numbered steps ++ [step.recorded steps.length] :=
  List.mapIdx_concat

theorem latest?_concat (step : RegistryStep World) : latest? (steps ++ [step]) id =
    match step.backendFor? id with
    | some backend => some (steps.length, backend)
    | none => latest? steps id := by
  rw [latest?, List.zipIdx_append, List.reverse_append]
  cases h : step.backendFor? id <;> simp [latest?, h]

theorem current?_concat (step : RegistryStep World) : current? initial (steps ++ [step]) id =
    match step.backendFor? id with
    | some backend => some (some steps.length, backend)
    | none => current? initial steps id := by
  rw [current?, latest?_concat]
  cases step.backendFor? id <;> rfl

theorem step_run : s.step (.run request) =
    ⟨s.registry, (s.registry.run request s.usage s.world).1.2,
      (s.registry.run request s.usage s.world).2,
      s.exchanges ++ [⟨request, (s.registry.run request s.usage s.world).1.1⟩]⟩ := rfl

/-! ## What a whole history keeps -/

/-- The backend of a provider is the most recent one that was registered for it. -/
theorem backend?_after (initial : Registry World) (w : World) (steps : List (RegistryStep World))
    (id : ProviderId) :
    (after initial w steps).registry.backend? id = (current? initial steps id).map Prod.snd := by
  induction steps using List.reverseRecOn with
  | nil => simp [after, start, current?, latest?, Function.comp_def]
  | append_singleton steps step ih =>
      rw [after_concat, current?_concat]
      cases step with
      | run request => exact ih
      | register other backend =>
          by_cases h : id = other
          · subst h
            simp [RegistryState.step, Registry.register, backendFor?]
          · have hne : ¬ other = id := fun heq => h heq.symm
            simpa [RegistryState.step, Registry.register, backendFor?, h, hne] using ih

/-- A provider is available when it was so from the start or some step has registered a backend
for it. -/
theorem isSome_current?_iff : (current? initial steps id).isSome ↔
    initial.isRegistered id ∨ ∃ step ∈ steps, (step.backendFor? id).isSome := by
  induction steps using List.reverseRecOn with
  | nil => simp [current?, latest?, Registry.isRegistered]
  | append_singleton steps step ih =>
      rw [current?_concat]
      cases h : step.backendFor? id with
      | some backend => simp [h, or_and_right, exists_or]
      | none => simp [h, ih, or_and_right, exists_or]

/-- The count of a provider is the number of its completed requests. -/
theorem count_after (initial : Registry World) (w : World) (steps : List (RegistryStep World))
    (id : ProviderId) :
    (after initial w steps).usage.count id =
      (after initial w steps).exchanges.countP fun e => e.completes id := by
  induction steps using List.reverseRecOn with
  | nil => rfl
  | append_singleton steps step ih =>
      rw [after_concat]
      cases step with
      | register other backend => exact ih
      | run request =>
          rw [step_run, List.countP_append, ← ih, List.countP_singleton]
          generalize after initial w steps = s
          cases hreply : (s.registry.run request s.usage s.world).1.1 with
          | error failure =>
              rw [Registry.usage_run_of_error hreply]
              simp [Exchange.completes, Except.isOk, Except.toBool]
          | ok result =>
              rw [Registry.usage_run_of_ok hreply, Usage.count_record]
              by_cases h : request.provider = id <;>
                simp [Exchange.completes, Except.isOk, Except.toBool, h]

/-- The label under which the backend of a provider records its calls. -/
def RegistryStep.label (initial : Registry World) (steps : List (RegistryStep World))
    (id : ProviderId) : Option Nat :=
  (current? initial steps id).bind Prod.fst

/-- The same steps with backends that record their calls come to the same counters, exchanges and
world, and to a registry that records what the backends of the other one do. -/
theorem after_recorded (initial : Registry World) (w : World) (steps : List (RegistryStep World)) :
    let s := after initial w steps
    let recorded := after (initial.recorded fun _ => (none : Option Nat)) ⟨w, []⟩ (numbered steps)
    recorded.registry.Records (RegistryStep.label initial steps) s.registry ∧
      recorded.usage = s.usage ∧ recorded.exchanges = s.exchanges ∧
        recorded.world.world = s.world := by
  induction steps using List.reverseRecOn with
  | nil =>
      refine ⟨fun id => ?_, rfl, rfl, rfl⟩
      cases h : initial.backend? id <;>
        simp [after, start, numbered, Registry.recorded, RegistryStep.label, current?, latest?, h]
  | append_singleton steps step ih =>
      rw [numbered_concat, after_concat, after_concat]
      generalize after initial w steps = s at ih ⊢
      generalize after (initial.recorded fun _ => none) ⟨w, []⟩ (numbered steps) = r at ih ⊢
      obtain ⟨hrecords, husage, hexchanges, hworld⟩ := ih
      cases step with
      | register other backend =>
          refine ⟨fun id => ?_, husage, hexchanges, hworld⟩
          have hid := hrecords id
          by_cases h : id = other
          · subst h
            simp [RegistryState.step, RegistryStep.recorded, Registry.register, RegistryStep.label,
              current?_concat, backendFor?]
          · have hne : ¬ other = id := fun heq => h heq.symm
            simpa [RegistryState.step, RegistryStep.recorded, Registry.register, RegistryStep.label,
              current?_concat, backendFor?, h, hne] using hid
      | run request =>
          -- A run registers nothing, so that each backend keeps its label.
          have hlabel : RegistryStep.label initial (steps ++ [.run request]) =
              RegistryStep.label initial steps := by
            funext id
            rw [RegistryStep.label, current?_concat]
            rfl
          obtain ⟨registry, usage, ⟨world, calls⟩, exchanges⟩ := r
          subst husage hexchanges hworld
          rw [hlabel]
          simpa only [RegistryStep.recorded, step_run, hrecords.run, and_true] using hrecords

/-- The providers that are available after some steps, in their order. -/
theorem registered_after (initial : Registry World) (w : World)
    (steps : List (RegistryStep World)) :
    (after initial w steps).registry.registered = ProviderId.all.filter fun id =>
      initial.isRegistered id || steps.any fun step => (step.backendFor? id).isSome := by
  refine List.filter_congr fun id _ => ?_
  rw [Bool.eq_iff_iff, Bool.or_eq_true, List.any_eq_true, ← isSome_current?_iff,
    Registry.isRegistered, backend?_after, Option.isSome_map]

/-- What a registry comes to by any steps. The providers that are available are those that were so
from the start, which are none or the one without a model, and those that a step has registered a
backend for, in the order of the providers. The count of a provider is the number of its completed
requests. The next run gets the reply of the most recent backend of its provider as it is, or is
told that there is none. It calls that backend and no other one, it counts if it was completed, and
it changes nothing else. -/
theorem registry_accounts (initial : Registry World) (w : World)
    (steps : List (RegistryStep World)) :
    let s := after initial w steps
    let r := after (initial.recorded fun _ => (none : Option Nat)) ⟨w, []⟩ (numbered steps)
    ((Registry.empty : Registry World).registered = [] ∧
      (Registry.standard : Registry World).registered = [.deterministic]) ∧
    s.registry.registered = ProviderId.all.filter (fun id =>
      initial.isRegistered id || steps.any fun step => (step.backendFor? id).isSome) ∧
    (∀ id, s.usage.count id = s.exchanges.countP fun e => e.completes id) ∧
    (r.usage = s.usage ∧ r.exchanges = s.exchanges ∧ r.world.world = s.world) ∧
    ∀ request, match current? initial steps request.provider with
      | none =>
        s.step (.run request) =
          s.answered request (.error (Registry.notConfigured request.provider)) s.world ∧
        (r.step (.run request)).world.calls = r.world.calls
      | some (number, backend) =>
        let (reply, world) := backend.complete request s.world
        s.step (.run request) = s.answered request reply world ∧
        (r.step (.run request)).world.calls = r.world.calls ++ [⟨number, request, reply⟩] := by
  obtain ⟨hrecords, husage, hexchanges, hworld⟩ := after_recorded initial w steps
  refine ⟨⟨rfl, rfl⟩, registered_after initial w steps, count_after initial w steps,
    ⟨husage, hexchanges, hworld⟩, fun request => ?_⟩
  have hbackend := backend?_after initial w steps request.provider
  have hlabel : RegistryStep.label initial steps request.provider =
      (current? initial steps request.provider).bind Prod.fst := rfl
  -- From here on only what the two runs have in common counts.
  generalize after initial w steps = s at hrecords husage hexchanges hworld hbackend ⊢
  generalize after (initial.recorded fun _ => none) ⟨w, []⟩ (numbered steps) = r
    at hrecords husage hexchanges hworld ⊢
  obtain ⟨registry, usage, ⟨world, calls⟩, exchanges⟩ := r
  subst husage hexchanges hworld
  simp only [step_run, hrecords.run]
  cases hcurrent : current? initial steps request.provider with
  | none =>
      rw [hcurrent, Option.map_none] at hbackend
      rw [Registry.run_of_none hbackend, hbackend]
      exact ⟨rfl, List.append_nil _⟩
  | some found =>
      obtain ⟨number, backend⟩ := found
      rw [hcurrent, Option.map_some] at hbackend
      rw [Registry.run_of_some hbackend, hbackend, hlabel, hcurrent]
      exact ⟨rfl, rfl⟩

/-- A provider whose first backend fails is counted under its second one only. -/
example :
    let failing : Backend Unit := ⟨fun _ => return .error (.requestFailed .groq "502")⟩
    let request : ModelRequest := ⟨.groq, "", "", "a"⟩
    (after .standard () [.register .groq failing, .run request, .register .groq .deterministic,
      .run request]).usage.snapshot =
        [(.openai, 0), (.groq, 1), (.customFinetuned, 0), (.deterministic, 0)] := by
  rfl

end JsxTidy
