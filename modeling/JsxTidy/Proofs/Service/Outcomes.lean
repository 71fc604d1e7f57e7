import JsxTidy.Proofs.Provider.Record
import JsxTidy.Service

/-!
# What becomes of requests

A service handles one request after the other, and its counters and its world go on from each to
the next. `handled_requests` says of every request in such a history what is answered, which backend
is called and with what code, and what has been counted by then. The calls are those of the same
service with backends that record them, and recording changes nothing else.
-/

namespace JsxTidy

variable {World : Type}

/-- A request that has been handled, the calls that were made for it, and the counters before and
behind it. -/
structure Turn where
  request : TidyRequest
  outcome : Except Refusal Response
  calls : List (Call ProviderId)
  before : Usage
  after : Usage

/-- Whether a request was answered by a provider. -/
def Turn.succeeds (t : Turn) (id : ProviderId) : Bool :=
  match t.outcome with
  | .ok response => response.provider == id
  | .error _ => false

namespace Service

/-- The service whose backends record their calls under the names of their providers. -/
def recorded (s : Service World) : Service (Recorded ProviderId World) :=
  ⟨s.registry.recorded id, s.options, s.defaultProvider⟩

/-- Handles a request, with the calls that are made for it and the world behind it. -/
def turn (s : Service World) (request : TidyRequest) (usage : Usage) (w : World) : Turn × World :=
  let ((outcome, after), ⟨world, calls⟩) := s.recorded.handle request usage ⟨w, []⟩
  (⟨request, outcome, calls, usage, after⟩, world)

/-- Handles some requests one after the other. -/
def turns (s : Service World) : List TidyRequest → Usage → World → List Turn
  | [], _, _ => []
  | request :: requests, usage, w =>
    let (turn, world) := s.turn request usage w
    turn :: s.turns requests turn.after world

/-- What the service answers to some requests that it handles one after the other. -/
def outcomes (s : Service World) : List TidyRequest → Usage → World → List (Except Refusal Response)
  | [], _, _ => []
  | request :: requests, usage, w =>
    let ((outcome, after), world) := s.handle request usage w
    outcome :: s.outcomes requests after world

/-- The provider that a request is for. -/
def providerOf (s : Service World) (request : TidyRequest) : ProviderId :=
  request.provider.getD s.defaultProvider

/-- The answer to a request with tidied code when its provider has replied. -/
def answer (s : Service World) (request : TidyRequest) (tidied : Tidied) (after : Usage) :
    Except Failure ModelRun → Except Refusal Response
  | .error failure => .error ⟨failure.status, failure.message, some tidied⟩
  | .ok run => .ok
    { provider := s.providerOf request
      diagnostics := tidied.diagnostics
      summary := run.summary
      artifacts := ⟨request.code, tidied.code, run.cleanedCode⟩
      usage := after
      fallbackUsed := run.fallbackUsed }

/-- What is to happen in a turn of a service. -/
structure Keeps (s : Service World) (t : Turn) : Prop where
  /-- Blank code goes no further. -/
  blank : Text.allBlank t.request.code.toList →
    t.calls = [] ∧ t.outcome = .error ⟨400, codeRequired, none⟩
  /-- Code that is no program goes no further. -/
  rejected : ∀ problem, ¬ Text.allBlank t.request.code.toList →
    tidy s.options t.request.code = .error problem →
      t.calls = [] ∧ t.outcome =
        .error ⟨400, (ParseFailure.ofDiagnostic t.request.code problem).describe, none⟩
  /-- Without a backend the request fails and keeps the tidied code. -/
  unavailable : ∀ tidied, ¬ Text.allBlank t.request.code.toList →
    tidy s.options t.request.code = .ok tidied →
      s.registry.backend? (s.providerOf t.request) = none →
        t.calls = [] ∧ t.outcome = s.answer t.request tidied t.after
          (.error (Registry.notConfigured (s.providerOf t.request)))
  /-- The backend of the provider is called once, with the tidied code, and its reply decides. -/
  called : ∀ tidied backend, ¬ Text.allBlank t.request.code.toList →
    tidy s.options t.request.code = .ok tidied →
      s.registry.backend? (s.providerOf t.request) = some backend →
        ∃ call, t.calls = [call] ∧ call.backend = s.providerOf t.request ∧
          call.request = s.modelRequest t.request tidied ∧ call.request.code = tidied.code ∧
          t.outcome = s.answer t.request tidied t.after call.reply
  /-- A request that fails is not counted. -/
  failed : ∀ refusal, t.outcome = .error refusal → t.after = t.before

/-! ## One request -/

section Handle

variable {s : Service World} {request : TidyRequest} {usage : Usage} {w : World}
  {tidied : Tidied}

theorem tidied_of_blank (h : Text.allBlank request.code.toList) :
    s.tidied request = .error (.invalidInput codeRequired) :=
  if_pos h

theorem tidied_of_not_blank (h : ¬ Text.allBlank request.code.toList) :
    s.tidied request = match tidy s.options request.code with
      | .ok tidied => .ok tidied
      | .error problem => .error (.parse (.ofDiagnostic request.code problem)) :=
  if_neg h

/-- A request without tidied code is refused, and nothing happens. -/
theorem handle_of_error {failure : Failure} (h : s.tidied request = .error failure) :
    s.handle request usage w = ((.error (.ofFailure failure), usage), w) := by
  simp only [handle, h]
  rfl

/-- A request with tidied code is answered from the reply of its provider. -/
theorem handle_of_ok (h : s.tidied request = .ok tidied) :
    s.handle request usage w =
      ((s.answer request tidied (s.registry.run (s.modelRequest request tidied) usage w).1.2
          (s.registry.run (s.modelRequest request tidied) usage w).1.1,
        (s.registry.run (s.modelRequest request tidied) usage w).1.2),
        (s.registry.run (s.modelRequest request tidied) usage w).2) := by
  simp only [handle, h, bind, StateT.bind]
  generalize s.registry.run (s.modelRequest request tidied) usage w = run
  obtain ⟨⟨reply, after⟩, world⟩ := run
  cases reply <;> rfl

/-- The calls that are made for a request. -/
def callsFor (s : Service World) (request : TidyRequest) (usage : Usage) (w : World) :
    List (Call ProviderId) :=
  match s.tidied request with
  | .error _ => []
  | .ok tidied =>
    let asked := s.modelRequest request tidied
    if (s.registry.backend? asked.provider).isSome then
      [⟨asked.provider, asked, (s.registry.run asked usage w).1.1⟩] else []

/-- Recording the calls changes neither the outcome nor the counters nor the world. -/
theorem handle_recorded (calls : List (Call ProviderId)) :
    s.recorded.handle request usage ⟨w, calls⟩ =
      ((s.handle request usage w).1,
        ⟨(s.handle request usage w).2, calls ++ s.callsFor request usage w⟩) := by
  have hsame : s.recorded.tidied request = s.tidied request := rfl
  rw [callsFor]
  cases h : s.tidied request with
  | error failure =>
      rw [handle_of_error (hsame.trans h), handle_of_error h]
      simp
  | ok tidied =>
      have hrecords : s.recorded.registry.Records id s.registry := fun _ => rfl
      have hasked : s.recorded.modelRequest request tidied = s.modelRequest request tidied := rfl
      rw [handle_of_ok (hsame.trans h), handle_of_ok h, hasked, hrecords.run]
      rfl

/-- A turn is what the service does with a request, with the calls for it. -/
theorem turn_eq (s : Service World) (request : TidyRequest) (usage : Usage) (w : World) :
    s.turn request usage w =
      (⟨request, (s.handle request usage w).1.1, s.callsFor request usage w, usage,
        (s.handle request usage w).1.2⟩, (s.handle request usage w).2) := by
  rw [turn, handle_recorded]
  rfl

/-! ## One turn -/

/-- A turn of a service is as it is to be. -/
theorem keeps_turn (s : Service World) (request : TidyRequest) (usage : Usage) (w : World) :
    s.Keeps (s.turn request usage w).1 := by
  rw [turn_eq]
  constructor
  case blank =>
    intro hblank
    have htidied := s.tidied_of_blank hblank
    rw [handle_of_error htidied, callsFor, htidied]
    exact ⟨rfl, rfl⟩
  case rejected =>
    intro problem hblank hproblem
    have htidied := s.tidied_of_not_blank hblank
    rw [hproblem] at htidied
    rw [handle_of_error htidied, callsFor, htidied]
    exact ⟨rfl, rfl⟩
  case unavailable =>
    intro tidied hblank hok hnone
    have htidied := s.tidied_of_not_blank hblank
    rw [hok] at htidied
    have hbackend : s.registry.backend? (s.modelRequest request tidied).provider = none := hnone
    rw [handle_of_ok htidied, callsFor, htidied, Registry.run_of_none hbackend]
    simp only [hbackend]
    exact ⟨rfl, rfl⟩
  case called =>
    intro tidied backend hblank hok hsome
    have htidied := s.tidied_of_not_blank hblank
    rw [hok] at htidied
    have hbackend : s.registry.backend? (s.modelRequest request tidied).provider = some backend :=
      hsome
    rw [handle_of_ok htidied, callsFor, htidied]
    simp only [hbackend]
    exact ⟨_, rfl, rfl, rfl, rfl, rfl⟩
  case failed =>
    intro refusal hrefusal
    -- What is not tidied is not run, and a run that fails is not counted.
    cases htidied : s.tidied request with
    | error failure => rw [handle_of_error htidied]
    | ok tidied =>
        rw [handle_of_ok htidied] at hrefusal ⊢
        cases hreply : (s.registry.run (s.modelRequest request tidied) usage w).1.1 with
        | error failure => exact Registry.usage_run_of_error hreply
        | ok run =>
            rw [hreply] at hrefusal
            cases hrefusal

/-- A turn counts one more request for the provider that answered it, and tells so. -/
theorem count_turn (s : Service World) (request : TidyRequest) (usage : Usage) (w : World) :
    let t := (s.turn request usage w).1
    (∀ id, t.after.count id = t.before.count id + if t.succeeds id then 1 else 0) ∧
      ∀ response, t.outcome = .ok response → response.usage = t.after := by
  rw [turn_eq]
  cases htidied : s.tidied request with
  | error failure =>
      rw [handle_of_error htidied]
      exact ⟨fun _ => rfl, nofun⟩
  | ok tidied =>
      rw [handle_of_ok htidied]
      cases hreply : (s.registry.run (s.modelRequest request tidied) usage w).1.1 with
      | error failure =>
          rw [Registry.usage_run_of_error hreply]
          exact ⟨fun _ => rfl, nofun⟩
      | ok run =>
          rw [Registry.usage_run_of_ok hreply]
          refine ⟨fun id => ?_, ?_⟩
          · simp only [Usage.count_record, Turn.succeeds, answer, beq_iff_eq]
            rfl
          · rintro response ⟨⟩
            rfl

end Handle

/-! ## Any number of requests -/

variable {s : Service World} {requests : List TidyRequest} {usage : Usage} {w : World}
  {earlier later : List Turn} {t : Turn}

theorem turns_cons (request : TidyRequest) : s.turns (request :: requests) usage w =
    (s.turn request usage w).1 ::
      s.turns requests (s.turn request usage w).1.after (s.turn request usage w).2 := rfl

/-- Recording the calls does not change what is answered to any of some requests. -/
theorem map_turns (s : Service World) (requests : List TidyRequest) (usage : Usage) (w : World) :
    (s.turns requests usage w).map Turn.request = requests ∧
      (s.turns requests usage w).map Turn.outcome = s.outcomes requests usage w := by
  induction requests generalizing usage w with
  | nil => exact ⟨rfl, rfl⟩
  | cons request requests ih =>
      obtain ⟨hrequests, houtcomes⟩ :=
        ih (s.handle request usage w).1.2 (s.handle request usage w).2
      rw [turns_cons, turn_eq, List.map_cons, List.map_cons]
      exact ⟨congrArg (request :: ·) hrequests, congrArg (_ :: ·) houtcomes⟩

/-- Every turn in a history is a turn of the service, in which the counters have grown by the turns
before it. -/
theorem exists_turn (h : s.turns requests usage w = earlier ++ t :: later) :
    (∃ request world, t = (s.turn request t.before world).1) ∧
      ∀ id, t.before.count id = usage.count id + earlier.countP fun e => e.succeeds id := by
  induction requests generalizing usage w earlier with
  | nil => simp [turns] at h
  | cons request requests ih =>
      have hbegins : (s.turn request usage w).1.before = usage := by rw [turn_eq]
      obtain ⟨hcount, -⟩ := s.count_turn request usage w
      rw [turns_cons] at h
      cases earlier with
      | nil =>
          have hturn := (List.cons.inj h).1
          rw [hturn] at hbegins
          exact ⟨⟨request, w, by rw [hbegins, hturn]⟩, fun id => by rw [hbegins]; rfl⟩
      | cons first earlier =>
          obtain ⟨hfirst, hrest⟩ := List.cons.inj h
          obtain ⟨hturn, hbefore⟩ := ih hrest
          refine ⟨hturn, fun id => ?_⟩
          rw [hbefore, hcount, hbegins, hfirst, List.countP_cons]
          omega

/-- What becomes of any requests that a new service handles one after the other. Blank code and
code that is no program reach no backend and are refused as bad requests without tidied code. Other
code reaches the backend of its provider only, and only in its tidied form. If that fails, or if
there is no backend, the answer has the status of the failure and the tidied code. A request that
fails leaves the counters as they are, and one that succeeds tells for every provider how many
requests it has answered so far, this one included. -/
theorem handled_requests (s : Service World) (requests : List TidyRequest) (w : World) :
    (s.turns requests .zero w).map Turn.request = requests ∧
    (s.turns requests .zero w).map Turn.outcome = s.outcomes requests .zero w ∧
    ∀ earlier t later, s.turns requests .zero w = earlier ++ t :: later →
      s.Keeps t ∧ ∀ response, t.outcome = .ok response →
        ∀ id, response.usage.count id = (earlier ++ [t]).countP fun e => e.succeeds id := by
  obtain ⟨hrequests, houtcomes⟩ := s.map_turns requests .zero w
  refine ⟨hrequests, houtcomes, fun earlier t later h => ?_⟩
  obtain ⟨⟨request, world, hturn⟩, hbefore⟩ := exists_turn h
  have hkeeps := s.keeps_turn request t.before world
  obtain ⟨hcount, husage⟩ := s.count_turn request t.before world
  rw [← hturn] at hkeeps hcount husage
  refine ⟨hkeeps, fun response hresponse id => ?_⟩
  rw [husage response hresponse, hcount, hbefore, List.countP_append, List.countP_singleton]
  exact congrArg (· + _) (Nat.zero_add _)

end Service

end JsxTidy
