import JsxTidy.Proofs.Json.Values
import JsxTidy.Proofs.Text.Find
import JsxTidy.Provider.Reply

/-!
# Objects in replies

A reply may have any text around the object that was asked for, as long as no opening brace stands
in front of it and no closing brace behind. The main result, `ModelOutput.ofReply_recovers`, says
what is taken from such a reply and from any other one.
-/

namespace JsxTidy

open Json

namespace ModelOutput

/-- Whether a reply holds an object with some fields: a text from an opening brace to a closing
one that is parsed as the object, behind a text without opening braces and in front of a text
without closing ones. -/
def Holds (reply : List Char) (fields : List (String × Json)) : Prop :=
  ∃ before text after, reply = before ++ (text ++ after) ∧ '\x7b' ∉ before ∧ '\x7d' ∉ after ∧
    text.head? = some '\x7b' ∧ text.getLast? = some '\x7d' ∧ parse text = .ok (.object fields)

/-- Whether an entry of a summary is that of an item: the text of a string, and any other value as
JSON. -/
def IsEntry (item : Json) (entry : String) : Prop :=
  item = .string entry ∨ (∀ s, item ≠ .string s) ∧ entry = item.render

/-- Whether an output is what the fields of an object say about some code. -/
structure IsTaken (fields : List (String × Json)) (inputCode : String) (out : ModelOutput) :
    Prop where
  given (code : String) : fields.lookup "cleanedCode" = some (.string code) →
    out.cleanedCode = code ∧ out.fallbackUsed = false
  missing : (∀ code, fields.lookup "cleanedCode" ≠ some (.string code)) →
    out.cleanedCode = inputCode ∧ out.fallbackUsed = true
  summarized (items : List Json) : fields.lookup "summary" = some (.array items) →
    List.Forall₂ IsEntry items out.summary
  unsummarized : (∀ items, fields.lookup "summary" ≠ some (.array items)) → out.summary = []

variable {text t : List Char} {fields : List (String × Json)} {reply inputCode : String}

/-! ## Finding the object -/

theorem payloadText?_eq_some_iff : payloadText? text = some t ↔
    ∃ before after, text = before ++ (t ++ after) ∧ '\x7b' ∉ before ∧ '\x7d' ∉ after ∧
      t.head? = some '\x7b' ∧ t.getLast? = some '\x7d' := by
  constructor
  · intro h
    simp only [payloadText?, bind, Option.bind_eq_some_iff, pure, Option.some.injEq] at h
    obtain ⟨⟨before, rest⟩, hfirst, ⟨inner, behind⟩, hlast, rfl⟩ := h
    obtain ⟨rfl, hbefore, hopen⟩ := Text.splitFirst?_singleton_eq_some_iff.1 hfirst
    obtain ⟨rfl, after, rfl, hafter⟩ := Text.splitLast?_singleton_eq_some_iff.1 hlast
    refine ⟨before, after, by simp, hbefore, hafter, ?_, by simp⟩
    cases inner with
    | nil => simp at hopen
    | cons x inner => exact hopen
  · rintro ⟨before, after, rfl, hbefore, hafter, hopen, hclose⟩
    obtain ⟨inner, rfl⟩ := List.getLast?_eq_some_iff.1 hclose
    have hfirst : Text.splitFirst? ['\x7b'] (before ++ (inner ++ ['\x7d'] ++ after)) =
        some (before, inner ++ ['\x7d'] ++ after) := by
      refine Text.splitFirst?_singleton_eq_some_iff.2 ⟨rfl, hbefore, ?_⟩
      rw [List.head?_append_of_ne_nil _ (by simp), hopen]
    have hlast : Text.splitLast? ['\x7d'] (inner ++ ['\x7d'] ++ after) =
        some (inner, '\x7d' :: after) :=
      Text.splitLast?_singleton_eq_some_iff.2 ⟨by simp, after, rfl, hafter⟩
    simp only [payloadText?, hfirst, bind, Option.bind_some, hlast, pure]

theorem payload?_eq_some_iff {v : Json} :
    payload? text = some v ↔ ∃ fields, v = .object fields ∧ Holds text fields := by
  simp only [payload?, bind, Option.bind_eq_some_iff, payloadText?_eq_some_iff]
  constructor
  · rintro ⟨t, ⟨before, after, htext, hbefore, hafter, hopen, hclose⟩, h⟩
    split at h
    · rename_i fields hparse
      cases h
      exact ⟨fields, rfl, before, t, after, htext, hbefore, hafter, hopen, hclose, hparse⟩
    · cases h
  · rintro ⟨fields, rfl, before, t, after, htext, hbefore, hafter, hopen, hclose, hparse⟩
    exact ⟨t, ⟨before, after, htext, hbefore, hafter, hopen, hclose⟩, by rw [hparse]⟩

/-! ## Taking what it says -/

theorem isEntry_summaryEntry (item : Json) : IsEntry item (summaryEntry item) := by
  cases item with
  | string s => exact .inl rfl
  | _ => exact .inr ⟨fun s h => (nomatch h), rfl⟩

theorem isTaken_ofReply (inputCode : String) (h : Holds reply.toList fields) :
    IsTaken fields inputCode (ofReply reply inputCode) := by
  have hpayload : payload? reply.toList = some (.object fields) :=
    payload?_eq_some_iff.2 ⟨fields, rfl, h⟩
  have hsummary : (ofReply reply inputCode).summary = summaryOf (.object fields) := by
    rw [ofReply, hpayload]
    dsimp only
    split <;> rfl
  constructor
  · intro code hcode
    rw [ofReply, hpayload]
    simp [field?, hcode]
  · intro hcode
    rw [ofReply, hpayload]
    dsimp only
    split
    · rename_i code hsome
      exact absurd hsome (hcode code)
    · exact ⟨rfl, rfl⟩
  · intro items hitems
    have hentries : summaryOf (.object fields) = items.map summaryEntry := by
      simp [summaryOf, field?, hitems]
    rw [hsummary, hentries, List.forall₂_map_right_iff, List.forall₂_same]
    exact fun item _ => isEntry_summaryEntry item
  · intro hitems
    rw [hsummary, summaryOf]
    split
    · rename_i items hsome
      exact absurd hsome (hitems items)
    · rfl

theorem ofReply_of_not_holds (h : ∀ fields, ¬ Holds reply.toList fields) :
    ofReply reply inputCode = ⟨reply, [unparseableSummary], true⟩ := by
  have hpayload : payload? reply.toList = none := by
    rw [Option.eq_none_iff_forall_ne_some]
    intro v hv
    obtain ⟨fields, -, hfields⟩ := payload?_eq_some_iff.1 hv
    exact h fields hfields
  rw [ofReply, hpayload]

/-! ## The object that is asked for -/

/-- The object that a model is asked for. -/
def answer (code : String) (summary : List String) : Json :=
  .object [("cleanedCode", .string code), ("summary", .array (summary.map .string))]

/-- The fields that are read from the object that a model is asked for. -/
theorem parse_answer (code : String) (summary : List String) :
    ∃ fields, parse (answer code summary).text = .ok (.object fields) ∧
      fields.lookup "cleanedCode" = some (.string code) ∧
      fields.lookup "summary" = some (.array (summary.map .string)) := by
  -- The object takes one of the levels of nesting, and leaves the others to its values.
  have hcode : Reader.ReadsAs (Reader.value 126) (text (.string code)) (.string code) :=
    Reader.readsAs_string (stringText_text code)
  have hsummary : Reader.ReadsAs (Reader.value 126) (text (.array (summary.map .string)))
      (.array (summary.map .string)) := by
    refine Reader.readsAs_array (arrayText_text _) ?_
    simp only [List.map_map, List.forall₂_map_left_iff, List.forall₂_map_right_iff,
      List.forall₂_same]
    exact fun entry _ => Reader.readsAs_string (stringText_text entry)
  have hobject : Reader.ReadsAs (Reader.value depthLimit) (answer code summary).text
      (ofFields [("cleanedCode", .string code), ("summary", .array (summary.map .string))]) :=
    Reader.readsAs_object (objectText_text _) (.cons ⟨rfl, hcode⟩ (.cons ⟨rfl, hsummary⟩ .nil))
  refine ⟨_, parse_of_readsAs hobject, ?_, ?_⟩
  · exact field?_ofFields
  · exact field?_ofFields

/-- A reply with that object in it holds an object with its code and its summary. -/
theorem exists_holds_answer {before after : String} (code : String) (summary : List String)
    (hbefore : '\x7b' ∉ before.toList) (hafter : '\x7d' ∉ after.toList) :
    ∃ fields, Holds (before ++ (answer code summary).render ++ after).toList fields ∧
      fields.lookup "cleanedCode" = some (.string code) ∧
      fields.lookup "summary" = some (.array (summary.map .string)) := by
  obtain ⟨fields, hparse, hcode, hsummary⟩ := parse_answer code summary
  obtain ⟨inner, htext, -⟩ := objectText_text
    [("cleanedCode", .string code), ("summary", .array (summary.map .string))]
  refine ⟨fields, ⟨before.toList, _, after.toList, ?_, hbefore, hafter, ?_, ?_, hparse⟩, hcode,
    hsummary⟩
  · simp [render]
  · rw [answer, htext]
    rfl
  · rw [answer, htext, ← List.cons_append, List.getLast?_concat]

theorem eq_of_isEntry {summary entries : List String}
    (h : List.Forall₂ IsEntry (summary.map .string) entries) : entries = summary := by
  induction summary generalizing entries with
  | nil =>
      cases h
      rfl
  | cons s summary ih =>
      cases h with
      | cons hentry hrest =>
          rw [ih hrest]
          rcases hentry with hentry | ⟨hentry, -⟩
          · cases hentry
            rfl
          · exact absurd rfl (hentry s)

/-- What is taken from a reply: the code and the summary of the object that it holds, whatever
stands around that, and the reply itself when it holds none. In particular the object that is
asked for is taken as it was meant. -/
theorem ofReply_recovers :
    (∀ reply inputCode fields, Holds reply.toList fields →
      IsTaken fields inputCode (ofReply reply inputCode)) ∧
    (∀ reply inputCode, (∀ fields, ¬ Holds reply.toList fields) →
      ofReply reply inputCode = ⟨reply, [unparseableSummary], true⟩) ∧
    ∀ before after code summary inputCode, '\x7b' ∉ before.toList → '\x7d' ∉ after.toList →
      ofReply (before ++ (answer code summary).render ++ after) inputCode =
        ⟨code, summary, false⟩ := by
  refine ⟨fun _ inputCode _ h => isTaken_ofReply inputCode h,
    fun _ _ h => ofReply_of_not_holds h, ?_⟩
  intro before after code summary inputCode hbefore hafter
  obtain ⟨fields, hholds, hcode, hsummary⟩ := exists_holds_answer code summary hbefore hafter
  have htaken := isTaken_ofReply inputCode hholds
  obtain ⟨hgiven, hfallback⟩ := htaken.given code hcode
  have hentries := eq_of_isEntry (htaken.summarized _ hsummary)
  generalize ofReply (before ++ (answer code summary).render ++ after) inputCode = out at *
  obtain ⟨cleanedCode, entries, fallbackUsed⟩ := out
  cases hgiven
  cases hentries
  cases hfallback
  rfl

end ModelOutput

end JsxTidy
