import JsxTidy.Proofs.Json.Slots
import JsxTidy.Proofs.Json.Values
import JsxTidy.Proofs.Text.Find
import JsxTidy.Provider.Remote

/-!
# Replies of refactoring servers

A server replies with an object of code, a summary and an error, or with a list of the three, and
what its reply says of the code ends at the first trailer. The main result,
`RefactorReply.readRun_eq_iff`, says which bodies give a run, and which one, and what is said of the
other ones.
-/

namespace JsxTidy

open Json

namespace RefactorReply

/-! ## Decoding -/

/-- A list of strings. -/
def StringsText (t : List Char) (strings : List String) : Prop :=
  ∃ texts, ArrayText t texts ∧ List.Forall₂ StringText texts strings

/-- The fields of a reply and their slots. -/
def slots : Slots Partial (Option String) (List String) (Option String) where
  slots :=
    { toFun := fun p => (p.refactored, p.summary, p.error)
      invFun := fun s => ⟨s.1, s.2.1, s.2.2⟩
      left_inv := fun _ => rfl
      right_inv := fun _ => rfl }
  first := ⟨"refactored", false, Reader.optional Reader.string, NullOr StringText,
    fun _ => Reader.understands_optional_string⟩
  second := ⟨"summary", true, Reader.list Reader.string, StringsText,
    fun _ => Reader.understands_list fun _ => Reader.understands_string⟩
  third := ⟨"error", false, Reader.optional Reader.string, NullOr StringText,
    fun _ => Reader.understands_optional_string⟩
  first_ne_second := by decide
  first_ne_third := by decide
  second_ne_third := by decide

/-- An object that gives a reply: each of its fields stands there at most once, and what is missing
is `null` or empty. -/
def ReplyObject (t : List Char) (reply : RefactorReply) : Prop :=
  ∃ (members : List (String × List Char)) (p : Partial), ObjectText StringText t members ∧
    (∀ member ∈ members, ValueText member.2) ∧
    Given (NullOr StringText) "refactored" members p.refactored ∧
    Given StringsText "summary" members p.summary ∧
    Given (NullOr StringText) "error" members p.error ∧ p.complete = reply

/-- A list that gives a reply: code, a summary and an error. -/
def ReplyList (t : List Char) (reply : RefactorReply) : Prop :=
  ∃ code summary error, ArrayText t [code, summary, error] ∧
    NullOr StringText code reply.refactored ∧ StringsText summary reply.summary ∧
    NullOr StringText error reply.error

/-- A text that gives a reply, with blanks around it. -/
def ReplyText (text : String) (reply : RefactorReply) : Prop :=
  Reader.Surrounded (fun t reply => ReplyObject t reply ∨ ReplyList t reply) text.toList reply

/-- A list gives the fields of a reply in their order. -/
theorem listOf_iff {t : List Char} {reply : RefactorReply} :
    (∃ p : Partial, p.complete = reply ∧ slots.ListOf t p) ↔ ReplyList t reply := by
  simp only [Slots.listOf_iff_of_required (r := slots) rfl]
  constructor
  · rintro ⟨p, rfl, code, summary, error, a, b, c, ht, hcode, hsummary, herror, hp⟩
    obtain rfl : p = ⟨some a, some b, some c⟩ := (Equiv.eq_symm_apply _).2 hp
    exact ⟨code, summary, error, ht, hcode, hsummary, herror⟩
  · rintro ⟨code, summary, error, ht, hcode, hsummary, herror⟩
    exact ⟨⟨some reply.refactored, some reply.summary, some reply.error⟩, rfl, code, summary, error,
      _, _, _, ht, hcode, hsummary, herror, rfl⟩

/-- A reply is read from an object or a list of its fields. -/
theorem understands_reader (bound : Nat) : Reader.Understands bound reader fun t reply =>
    ReplyObject t reply ∨ ReplyList t reply := by
  have hread : reader = Reader.record "struct RefactorReply" slots.fields slots.start
      fun p => .ok p.complete := rfl
  rw [hread]
  refine (slots.understands_record bound).congr fun t reply => ?_
  simp only [Except.ok.injEq, and_or_left, exists_or, listOf_iff]
  refine or_congr_left ⟨?_, ?_⟩
  · rintro ⟨members, p, ht, hvalues, hcode, hsummary, herror, hp⟩
    exact ⟨p, hp, members, ht, hvalues, hcode, hsummary, herror⟩
  · rintro ⟨p, hp, members, ht, hvalues, hcode, hsummary, herror⟩
    exact ⟨members, p, ht, hvalues, hcode, hsummary, herror, hp⟩

/-- A body that came and gives a reply. -/
def IsBodyOf (body : Option String) (reply : RefactorReply) : Prop :=
  ∃ text, body = some text ∧ ReplyText text reply

/-- A reply is read from an object or a list that gives it. -/
theorem run_reader_eq_ok_iff {text : String} {reply : RefactorReply} :
    reader.run text.toList = .ok reply ↔ ReplyText text reply :=
  Reader.Understands.run_eq_ok_iff understands_reader

/-! ## Code in front of a trailer -/

/-- The part of a text in front of its first trailer, or all of it if it has none. -/
def IsFront (text front : List Char) : Prop :=
  (¬ ['#', '#', '#'] <:+: text ∧ front = text) ∨
    (∃ after, text = front ++ (['#', '#', '#'] ++ after)) ∧
      ∀ before after, text = before ++ (['#', '#', '#'] ++ after) → front.length ≤ before.length

/-- A text has one front. -/
theorem IsFront.unique {text front front' : List Char} (h : IsFront text front)
    (h' : IsFront text front') : front = front' := by
  have hwithin (before after : List Char) :
      ['#', '#', '#'] <:+: before ++ (['#', '#', '#'] ++ after) :=
    ⟨before, after, List.append_assoc _ _ _⟩
  rcases h with ⟨hnone, rfl⟩ | ⟨⟨after, rfl⟩, hfirst⟩
  · rcases h' with ⟨-, rfl⟩ | ⟨⟨after, rfl⟩, -⟩
    · rfl
    · exact absurd (hwithin front' after) hnone
  · rcases h' with ⟨hnone, -⟩ | ⟨⟨after', heq⟩, hfirst'⟩
    · exact absurd (hwithin front after) hnone
    · have hlength : front.length = front'.length :=
        Nat.le_antisymm (hfirst front' after' heq) (hfirst' front after rfl)
      exact List.append_inj_left heq hlength

/-- The trailer is cut off behind the front of the code. -/
theorem exists_isFront (code : String) :
    ∃ front, IsFront code.toList front ∧ stripTrailer code = String.ofList (Text.trim front) := by
  rw [stripTrailer]
  cases hsplit : Text.splitFirst? ['#', '#', '#'] code.toList with
  | none =>
      refine ⟨code.toList, .inl ⟨fun hwithin => ?_, rfl⟩, rfl⟩
      have hcontains := Text.contains_iff.2 hwithin
      rw [Text.contains, hsplit] at hcontains
      cases hcontains
  | some parts =>
      obtain ⟨front, rest⟩ := parts
      obtain ⟨htext, after, rfl⟩ := Text.splitFirst?_spec hsplit
      exact ⟨front, .inr ⟨⟨after, htext⟩, fun _ _ => Text.length_le_of_splitFirst? hsplit⟩, rfl⟩

/-! ## Runs -/

/-- Whether a run is what a reply without an error says about some code: the code in front of the
trailer, or the given code as a fallback if the reply has none. -/
structure IsRunOf (reply : RefactorReply) (inputCode : String) (run : ModelRun) : Prop where
  given (code : String) : reply.refactored = some code → run.fallbackUsed = false ∧
    ∃ front, IsFront code.toList front ∧ run.cleanedCode = String.ofList (Text.trim front)
  missing : reply.refactored = none → run.fallbackUsed = true ∧ run.cleanedCode = inputCode
  summary : run.summary = reply.summary
  tokens : run.tokens = none

/-- A reply without an error gives a run. -/
theorem run_eq_ok_iff {reply : RefactorReply} {inputCode : String} {run : ModelRun} :
    reply.run inputCode = .ok run ↔ reply.error = none ∧ IsRunOf reply inputCode run := by
  obtain ⟨refactored, summary, error⟩ := reply
  obtain ⟨cleanedCode, entries, tokens, fallbackUsed⟩ := run
  cases error with
  | some message => simp [RefactorReply.run]
  | none =>
      cases refactored with
      | none =>
          simp only [RefactorReply.run, Except.ok.injEq, ModelRun.mk.injEq, true_and]
          constructor
          · rintro ⟨rfl, rfl, rfl, rfl⟩
            exact ⟨nofun, fun _ => ⟨rfl, rfl⟩, rfl, rfl⟩
          · intro h
            obtain ⟨hfallback, hcode⟩ := h.missing rfl
            exact ⟨hcode.symm, h.summary.symm, h.tokens.symm, hfallback.symm⟩
      | some code =>
          obtain ⟨front, hfront, hstrip⟩ := exists_isFront code
          simp only [RefactorReply.run, hstrip, Except.ok.injEq, ModelRun.mk.injEq, true_and]
          constructor
          · rintro ⟨rfl, rfl, rfl, rfl⟩
            refine ⟨fun _ hcode => ?_, nofun, rfl, rfl⟩
            obtain rfl := Option.some.inj hcode
            exact ⟨rfl, front, hfront, rfl⟩
          · intro h
            -- A text has one front only, so the run has the one that is stripped.
            obtain ⟨hfallback, front', hfront', hcode⟩ := h.given code rfl
            obtain rfl := hfront.unique hfront'
            exact ⟨hcode.symm, h.summary.symm, h.tokens.symm, hfallback.symm⟩

/-- One with an error gives that error. -/
theorem error_of_run {reply : RefactorReply} {inputCode message : String}
    (h : reply.run inputCode = .error message) : reply.error = some message := by
  rw [RefactorReply.run] at h
  split at h
  · rename_i herror
    cases h
    exact herror
  · cases h
  · cases h

/-- What is made of the body of an answer: the run of a reply without an error, or else the error,
and anything that is no reply is said to be malformed. -/
inductive Reads (inputCode : String) : Option String → Except String ModelRun → Prop where
  | run {body : Option String} {reply : RefactorReply} {run : ModelRun} : IsBodyOf body reply →
      reply.error = none → IsRunOf reply inputCode run → Reads inputCode body (.ok run)
  | error {body : Option String} {reply : RefactorReply} {message : String} :
      IsBodyOf body reply → reply.error = some message → Reads inputCode body (.error message)
  | malformed {body : Option String} : (∀ reply, ¬ IsBodyOf body reply) →
      Reads inputCode body (.error "malformed refactor response: error decoding response body")

variable {body : Option String} {inputCode : String} {reply : RefactorReply}
  {result : Except String ModelRun}

/-- The body of a reply is read as what the reply says. -/
theorem readRun_of_isBodyOf (h : IsBodyOf body reply) :
    readRun inputCode body = reply.run inputCode := by
  obtain ⟨text, rfl, ht⟩ := h
  rw [readRun, Option.map_some, run_reader_eq_ok_iff.2 ht]

/-- Any other body is malformed. -/
theorem readRun_of_no_reply (h : ∀ reply, ¬ IsBodyOf body reply) : readRun inputCode body =
    .error "malformed refactor response: error decoding response body" := by
  rw [readRun]
  split
  · rename_i reply hread
    obtain ⟨text, rfl, ht⟩ := Option.map_eq_some_iff.1 hread
    exact absurd ⟨text, rfl, run_reader_eq_ok_iff.1 ht⟩ (h reply)
  · rfl

theorem reads_readRun (inputCode : String) (body : Option String) :
    Reads inputCode body (readRun inputCode body) := by
  by_cases hbody : ∃ reply, IsBodyOf body reply
  · obtain ⟨reply, hreply⟩ := hbody
    rw [readRun_of_isBodyOf hreply]
    cases hresult : reply.run inputCode with
    | ok run =>
        obtain ⟨herror, hrun⟩ := run_eq_ok_iff.1 hresult
        exact .run hreply herror hrun
    | error message => exact .error hreply (error_of_run hresult)
  · rw [readRun_of_no_reply (not_exists.1 hbody)]
    exact .malformed (not_exists.1 hbody)

/-- A body is read as what it gives, and there is one such thing only. -/
theorem readRun_eq_iff : readRun inputCode body = result ↔ Reads inputCode body result := by
  constructor
  · rintro rfl
    exact reads_readRun inputCode body
  · intro h
    cases h with
    | run hreply herror hrun =>
        rw [readRun_of_isBodyOf hreply]
        exact run_eq_ok_iff.2 ⟨herror, hrun⟩
    | error hreply herror => rw [readRun_of_isBodyOf hreply, RefactorReply.run, herror]
    | malformed hnone => exact readRun_of_no_reply hnone

end RefactorReply

end JsxTidy
