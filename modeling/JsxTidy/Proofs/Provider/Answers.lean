import JsxTidy.Proofs.Provider.Record
import JsxTidy.Proofs.Provider.RefactorReplies

/-!
# Answers of remote providers

What becomes of the answer to a request depends on its status and its body alone: a run, a refusal
of more requests, or another failure of the provider that was asked. `Backend.Classified` says
which of these for an answer, given the bodies that grant a run. The main result,
`Backend.remote_classified`, says that both kinds of remote providers classify every answer, and
that a registry counts exactly the runs.
-/

namespace JsxTidy

open Http (Answer SendFailure Transport)

/-! ## Bodies of chats -/

namespace ChatAccess

/-- Whether a value has a text as the content of the message of its first choice. -/
def HasContent (payload : Json) (content : String) : Prop :=
  ∃ fields choices choice message, payload = .object fields ∧
    fields.lookup "choices" = some (.array choices) ∧ choices[0]? = some (.object choice) ∧
    choice.lookup "message" = some (.object message) ∧
    message.lookup "content" = some (.string content)

/-- What is made of the body of an answer: what is taken from the content of the message, and
without that it is said to be malformed. -/
inductive Reads (inputCode : String) : Option String → Except String ModelRun → Prop where
  | content {text content : String} {payload : Json} : Json.parse text.toList = .ok payload →
      HasContent payload content →
      Reads inputCode (some text) (.ok (.ofOutput (.ofReply content inputCode) (tokens? payload)))
  | noContent {text : String} {payload : Json} : Json.parse text.toList = .ok payload →
      (∀ content, ¬ HasContent payload content) → Reads inputCode (some text)
        (.error "malformed completion response: missing choices[0].message.content")
  | noJson {text : String} : (∀ payload, Json.parse text.toList ≠ .ok payload) →
      Reads inputCode (some text)
        (.error "malformed completion response: error decoding response body")
  | noBody : Reads inputCode none
      (.error "malformed completion response: error decoding response body")

variable {payload v : Json} {name content inputCode : String} {body : Option String}
  {result : Except String ModelRun}

theorem field?_eq_some_iff : payload.field? name = some v ↔
    ∃ fields, payload = .object fields ∧ fields.lookup name = some v := by
  cases payload <;> simp [Json.field?]

theorem item?_eq_some_iff : payload.item? 0 = some v ↔
    ∃ items, payload = .array items ∧ items[0]? = some v := by
  cases payload <;> simp [Json.item?]

theorem string?_eq_some_iff : payload.string? = some content ↔ payload = .string content := by
  cases payload <;> simp [Json.string?]

/-- The content is the text of the message of the first choice. -/
theorem content?_eq_some_iff : content? payload = some content ↔ HasContent payload content := by
  simp only [content?, bind, Option.bind_eq_some_iff, field?_eq_some_iff, item?_eq_some_iff,
    string?_eq_some_iff]
  constructor
  · rintro ⟨_, ⟨fields, rfl, hchoices⟩, _, ⟨choices, rfl, hchoice⟩, _, ⟨choice, rfl, hmessage⟩, _,
      ⟨message, rfl, hcontent⟩, rfl⟩
    exact ⟨fields, choices, choice, message, rfl, hchoices, hchoice, hmessage, hcontent⟩
  · rintro ⟨fields, choices, choice, message, rfl, hchoices, hchoice, hmessage, hcontent⟩
    exact ⟨_, ⟨fields, rfl, hchoices⟩, _, ⟨choices, rfl, hchoice⟩, _, ⟨choice, rfl, hmessage⟩, _,
      ⟨message, rfl, hcontent⟩, rfl⟩

/-- An answer is read by its content, and malformed without one. -/
theorem readRun_of_parse {text : String} (h : Json.parse text.toList = .ok payload) :
    readRun inputCode (some text) = match content? payload with
      | some content => .ok (.ofOutput (.ofReply content inputCode) (tokens? payload))
      | none => .error "malformed completion response: missing choices[0].message.content" := by
  have hparse : (some text).map (fun text => Json.parse text.toList) = some (.ok payload) :=
    congrArg some h
  cases hcontent : content? payload with
  | some reply => simp only [readRun, hparse, hcontent]
  | none => simp only [readRun, hparse, hcontent]

/-- An answer that is no JSON is malformed. -/
theorem readRun_of_no_json {text : String} (h : ∀ payload, Json.parse text.toList ≠ .ok payload) :
    readRun inputCode (some text) =
      .error "malformed completion response: error decoding response body" := by
  rw [readRun, Option.map_some]
  cases hparse : Json.parse text.toList with
  | ok payload => exact absurd hparse (h payload)
  | error problem => rfl

/-- So each answer is read in one of these ways. -/
theorem reads_readRun (inputCode : String) (body : Option String) :
    Reads inputCode body (readRun inputCode body) := by
  cases body with
  | none => exact .noBody
  | some text =>
      by_cases hjson : ∃ payload, Json.parse text.toList = .ok payload
      · obtain ⟨payload, hpayload⟩ := hjson
        rw [readRun_of_parse hpayload]
        cases hcontent : content? payload with
        | some content => exact .content hpayload (content?_eq_some_iff.1 hcontent)
        | none =>
            refine .noContent hpayload fun content h => ?_
            rw [content?_eq_some_iff.2 h] at hcontent
            cases hcontent
      · rw [readRun_of_no_json (not_exists.1 hjson)]
        exact .noJson (not_exists.1 hjson)

/-- A body is read as what it gives, and there is one such thing only. -/
theorem readRun_eq_iff : readRun inputCode body = result ↔ Reads inputCode body result := by
  constructor
  · rintro rfl
    exact reads_readRun inputCode body
  · intro h
    cases h with
    | content hpayload hcontent =>
        rw [readRun_of_parse hpayload, content?_eq_some_iff.2 hcontent]
    | noContent hpayload hnone =>
        have hcontent : content? _ = none :=
          Option.eq_none_iff_forall_ne_some.2 fun content h =>
            hnone content (content?_eq_some_iff.1 h)
        rw [readRun_of_parse hpayload, hcontent]
    | noJson hnone => exact readRun_of_no_json hnone
    | noBody => rfl

end ChatAccess

namespace Backend

variable {World : Type}

/-! ## Answers -/

/-- Whether an answer says that a request was granted. -/
def IsGranted (answer : Answer) : Prop :=
  200 ≤ answer.status ∧ answer.status < 300

/-- Whether an answer says by its status or in its body that more requests are refused. A body that
did not come counts as empty. -/
def IsQuotaRefusal (answer : Answer) : Prop :=
  answer.status = 429 ∨ "insufficient_quota".toList <:+: (answer.body.getD "").toList ∨
    "rate_limit".toList <:+: (answer.body.getD "").toList

/-- Whether a reply is the one for an answer to a request of a provider, given what is made of the
body of an answer to a granted request. -/
structure Classified (id : ProviderId) (reads : Option String → Except String ModelRun → Prop)
    (answer : Answer) (reply : Except Failure ModelRun) : Prop where
  /-- There is a run if the request was granted and the body gives the run, and only then. -/
  completed (run : ModelRun) : reply = .ok run ↔ IsGranted answer ∧ reads answer.body (.ok run)
  /-- A granted request fails for the reason that its body gives. -/
  unusable (reason : String) : IsGranted answer →
    (reply = .error (.requestFailed id reason) ↔ reads answer.body (.error reason))
  /-- Only a request that is not granted is refused for its quota, with the body as the reason. -/
  refused (reason : String) : reply = .error (.quotaExceeded id reason) ↔
    ¬ IsGranted answer ∧ IsQuotaRefusal answer ∧ reason = answer.body.getD ""
  /-- Any other request that is not granted has failed, with its status and body as the reason. -/
  failed : ¬ IsGranted answer → ¬ IsQuotaRefusal answer → reply =
    .error (.requestFailed id (toString answer.status ++ " " ++ answer.body.getD ""))
  /-- Every failure is one of the provider. -/
  own (failure : Failure) : reply = .error failure →
    ∃ reason, failure = .quotaExceeded id reason ∨ failure = .requestFailed id reason

/-- An answer is a success exactly when it is granted. -/
theorem isSuccess_iff {answer : Answer} : answer.isSuccess ↔ IsGranted answer := by
  simp [Answer.isSuccess, IsGranted]

/-- It signals that a quota is used up exactly when it is refused for that. -/
theorem isQuotaSignal_iff {answer : Answer} :
    isQuotaSignal answer.status (answer.body.getD "") ↔ IsQuotaRefusal answer := by
  simp [isQuotaSignal, IsQuotaRefusal, Text.contains_iff, or_assoc]

/-- An answer without success is a refusal of more requests or another failure. -/
theorem failureOf_cases (id : ProviderId) (answer : Answer) :
    (IsQuotaRefusal answer ∧ failureOf id answer = .quotaExceeded id (answer.body.getD "")) ∨
      (¬ IsQuotaRefusal answer ∧ failureOf id answer =
        .requestFailed id (toString answer.status ++ " " ++ answer.body.getD "")) := by
  rw [failureOf]
  by_cases hquota : isQuotaSignal answer.status (answer.body.getD "")
  · exact .inl ⟨isQuotaSignal_iff.1 hquota, if_pos hquota⟩
  · exact .inr ⟨fun h => hquota (isQuotaSignal_iff.2 h), if_neg hquota⟩

section

variable {id : ProviderId} {reads : Option String → Except String ModelRun → Prop}
  {answer : Answer}

/-- A run is what an answer that was granted says. -/
theorem classified_run {run : ModelRun} (hgranted : IsGranted answer)
    (hreads : ∀ result, reads answer.body result ↔ .ok run = result) :
    Classified id reads answer (.ok run) where
  completed run' := by simp [hgranted, hreads]
  unusable _ _ := by simp [hreads]
  refused _ := ⟨nofun, fun h => absurd hgranted h.1⟩
  failed hrefused := absurd hgranted hrefused
  own _ := nofun

/-- An answer that was granted but cannot be read is a failed request. -/
theorem classified_unusable {reason : String} (hgranted : IsGranted answer)
    (hreads : ∀ result, reads answer.body result ↔ .error reason = result) :
    Classified id reads answer (.error (.requestFailed id reason)) where
  completed run := by simp [hreads]
  unusable _ _ := by simp [hreads]
  refused _ := ⟨nofun, fun h => absurd hgranted h.1⟩
  failed hrefused := absurd hgranted hrefused
  own _ h := ⟨reason, .inr (Except.error.inj h).symm⟩

/-- One that was not granted fails by its status and body. -/
theorem classified_refusal (hrefused : ¬ IsGranted answer) :
    Classified id reads answer (.error (failureOf id answer)) := by
  rcases failureOf_cases id answer with ⟨hquota, heq⟩ | ⟨hquota, heq⟩
  · rw [heq]
    exact
      { completed := fun run => ⟨nofun, fun h => absurd h.1 hrefused⟩
        unusable := fun _ hgranted => absurd hgranted hrefused
        refused := fun reason => by simp [hrefused, hquota, eq_comm]
        failed := fun _ hnone => absurd hquota hnone
        own := fun _ h => ⟨_, .inl (Except.error.inj h).symm⟩ }
  · rw [heq]
    exact
      { completed := fun run => ⟨nofun, fun h => absurd h.1 hrefused⟩
        unusable := fun _ hgranted => absurd hgranted hrefused
        refused := fun reason => ⟨nofun, fun h => absurd h.2.1 hquota⟩
        failed := fun _ _ => rfl
        own := fun _ h => ⟨_, .inr (Except.error.inj h).symm⟩ }

/-- A provider that reads bodies as what they give classifies every answer. -/
theorem classified_ofAnswer {read : Option String → Except String ModelRun}
    (hread : ∀ body result, read body = result ↔ reads body result) (answer : Answer) :
    Classified id reads answer (ofAnswer id read (.ok answer)) := by
  rw [ofAnswer]
  by_cases hgranted : IsGranted answer
  · rw [if_pos (isSuccess_iff.2 hgranted)]
    cases hbody : read answer.body with
    | ok run => exact classified_run hgranted fun result => by rw [← hread, hbody]
    | error reason => exact classified_unusable hgranted fun result => by rw [← hread, hbody]
  · rw [if_neg (mt isSuccess_iff.1 hgranted)]
    exact classified_refusal hgranted

end

/-! ## Providers -/

/-- Whether a reply is the one for what came of sending a request: it classifies the answer, and
without one the provider has failed. -/
def Accounts (id : ProviderId) (reads : Option String → Except String ModelRun → Prop) :
    Except SendFailure Answer → Except Failure ModelRun → Prop
  | .ok answer, reply => Classified id reads answer reply
  | .error failure, reply => reply = .error (.requestFailed id failure.message)

/-- Whatever comes back from sending a request is classified, be it no answer at all. -/
theorem accounts_ofAnswer {id : ProviderId}
    {reads : Option String → Except String ModelRun → Prop}
    {read : Option String → Except String ModelRun}
    (hread : ∀ body result, read body = result ↔ reads body result)
    (sent : Except SendFailure Answer) : Accounts id reads sent (ofAnswer id read sent) := by
  cases sent with
  | ok answer => exact classified_ofAnswer hread answer
  | error failure => rfl

/-- Both kinds of remote providers account for whatever comes of sending their request: runs are
given by the content of a chat and by the reply of a refactoring server, and every failure is one
of the provider. A registry hands such a reply on and counts one more completed request of the
provider if it is a run, and nothing otherwise. -/
theorem remote_classified {World : Type} (transport : Transport World) (request : ModelRequest)
    (w : World) :
    (∀ id access, Accounts id (ChatAccess.Reads request.code)
      (Http.Client.send transport access.endpoint (some access.authorization)
        (access.body request).render w).1
      ((chat transport id access).complete request w).1) ∧
    (∀ endpoint, Accounts .customFinetuned (RefactorReply.Reads request.code)
      (Http.Client.send transport endpoint none
        (Json.object [("code", .string request.code)]).render w).1
      ((custom transport endpoint).complete request w).1) ∧
    ∀ (r : Registry World) backend usage, r.backend? request.provider = some backend →
      (r.run request usage w).1.1 = (backend.complete request w).1 ∧
      ∀ id, (r.run request usage w).1.2.count id = usage.count id +
        if id = request.provider ∧ (backend.complete request w).1.isOk then 1 else 0 := by
  refine ⟨fun id access => ?_, fun endpoint => ?_, fun r backend usage hbackend => ?_⟩
  · exact accounts_ofAnswer (fun _ _ => ChatAccess.readRun_eq_iff) _
  · exact accounts_ofAnswer (fun _ _ => RefactorReply.readRun_eq_iff) _
  · rw [Registry.run_of_some hbackend]
    refine ⟨rfl, fun id => ?_⟩
    cases (backend.complete request w).1 with
    | ok run =>
        simp only [Except.isOk, Except.toBool, if_true, and_true]
        rw [Usage.count_record]
        simp only [eq_comm]
    | error failure => simp [Except.isOk, Except.toBool]

/-- What a refactoring server replies in front of a trailer is the code of a run that counts. -/
theorem server_reply_counted :
    let transport : Transport Unit := fun _ =>
      return some ⟨200, "\x7b\"refactored\":\" a ### b\"\x7d", false, none⟩
    let server : Backend Unit := custom transport "http://localhost:8000/refactor"
    let r : Registry Unit := Registry.empty.register .customFinetuned server
    let request : ModelRequest := ⟨.customFinetuned, "", "", "c"⟩
    (r.run request .zero ()).1.1 = .ok ⟨"a", [], none, false⟩ ∧
      (r.run request .zero ()).1.2.count .customFinetuned = 1 := by
  intro transport server r request
  obtain ⟨-, -, hregistry⟩ := remote_classified transport request ()
  obtain ⟨hrun, hcount⟩ := hregistry r server .zero rfl
  have hreply : (server.complete request ()).1 = .ok ⟨"a", [], none, false⟩ := by decide +kernel
  refine ⟨hrun.trans hreply, (hcount _).trans ?_⟩
  rw [hreply]
  rfl

end Backend

end JsxTidy
