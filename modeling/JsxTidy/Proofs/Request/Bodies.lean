import JsxTidy.Proofs.Json.Slots
import JsxTidy.Proofs.Json.Written
import JsxTidy.Request

/-!
# Bodies of requests

A request is read from an object with its code, its file name and its provider, each of them at
most once, whatever else the object has. Two more forms are read: a list of these in order, and a
provider that is written as an object. The main result, `TidyRequest.ofText_accepts`, says that
nothing else is. What is written for a request is an object that gives the request again.
-/

namespace JsxTidy

open Json

/-- The identifier of a provider as a string. -/
def ProviderName (t : List Char) (id : ProviderId) : Prop :=
  StringText t id.name

/-- An object with the identifier of a provider and `null`. -/
def ProviderObject (t : List Char) (id : ProviderId) : Prop :=
  ObjectText StringText t [(id.name, ['n', 'u', 'l', 'l'])]

/-- A provider, in either form. -/
def ProviderText (t : List Char) (id : ProviderId) : Prop :=
  ProviderName t id ∨ ProviderObject t id

namespace ProviderId

variable {bound : Nat} {name : String} {id : ProviderId}

theorem lookup_name_iff : (all.map fun id => (id.name, id)).lookup name = some id ↔
    name = id.name := by
  constructor
  · intro h
    obtain ⟨front, back, heq, -⟩ := List.lookup_eq_some_iff.1 h
    have hmem : (name, id) ∈ all.map fun id => (id.name, id) := by rw [heq]; simp
    obtain ⟨_, -, hpair⟩ := List.mem_map.1 hmem
    cases hpair
    rfl
  · rintro rfl
    cases id <;> decide

/-- A provider is its identifier, or an object around it. -/
theorem understands_reader : Reader.Understands bound reader ProviderText := by
  refine Reader.understands_variant.congr fun t id => ?_
  simp [VariantName, VariantObject, lookup_name_iff, ProviderText, ProviderName, ProviderObject]

end ProviderId

namespace TidyRequest

theorem head?_ne_of_providerText {t : List Char} {id : ProviderId} (h : ProviderText t id) :
    t.head? ≠ some 'n' := by
  rcases h with h | ⟨inner, rfl, -⟩
  · exact StringText.head?_ne h
  · simp

theorem understands_provider (bound : Nat) :
    Reader.Understands bound (Reader.optional ProviderId.reader) (NullOr ProviderText) :=
  Reader.understands_optional ProviderId.understands_reader fun _ _ => head?_ne_of_providerText

/-- The fields of a request and their slots. -/
def slots : Slots Partial String (Option String) (Option ProviderId) where
  slots :=
    { toFun := fun p => (p.code, p.fileName, p.provider)
      invFun := fun s => ⟨s.1, s.2.1, s.2.2⟩
      left_inv := fun _ => rfl
      right_inv := fun _ => rfl }
  first := ⟨"code", true, Reader.string, StringText, fun _ => Reader.understands_string⟩
  second := ⟨"fileName", true, Reader.optional Reader.string, NullOr StringText,
    fun _ => Reader.understands_optional_string⟩
  third := ⟨"provider", true, Reader.optional ProviderId.reader, NullOr ProviderText,
    understands_provider⟩
  first_ne_second := by decide
  first_ne_third := by decide
  second_ne_third := by decide

theorem mayLack_of_mem_slots {field : Reader.Field Partial} (h : field ∈ slots.fields) :
    field.mayLack := by
  simp only [Slots.fields, List.mem_cons, List.not_mem_nil, or_false] at h
  rcases h with rfl | rfl | rfl <;> rfl

/-! ## Requests -/

/-- An object that gives a request, with a provider that may be written in some way. -/
def ObjectBody (providerText : List Char → ProviderId → Prop) (t : List Char) (r : TidyRequest) :
    Prop :=
  ∃ (members : List (String × List Char)) (p : Partial), ObjectText StringText t members ∧
    (∀ member ∈ members, ValueText member.2) ∧ Given StringText "code" members p.code ∧
    Given (NullOr StringText) "fileName" members p.fileName ∧
    Given (NullOr providerText) "provider" members p.provider ∧ p.complete = r

/-- A list of code, a file name and a provider, of which the last ones may be missing. -/
def ListBody (t : List Char) (r : TidyRequest) : Prop :=
  ∃ (items : List (List Char)) (p : Partial), ArrayText t items ∧ items.length ≤ 3 ∧
    Option.Rel StringText items[0]? p.code ∧
    Option.Rel (NullOr StringText) items[1]? p.fileName ∧
    Option.Rel (NullOr ProviderText) items[2]? p.provider ∧ p.complete = r

theorem understands_reader (bound : Nat) : Reader.Understands bound reader fun t r =>
    ObjectBody ProviderText t r ∨ ListBody t r := by
  have hread : reader = Reader.record "struct CleanRequest" slots.fields slots.start
      fun p => .ok p.complete := rfl
  rw [hread]
  refine (slots.understands_record bound).congr fun t r => ?_
  simp only [Except.ok.injEq]
  constructor
  · rintro (⟨members, p, ht, hvalues, hcode, hfileName, hprovider, hr⟩ |
      ⟨items, p, ht, hlength, hcode, hfileName, hprovider, hr⟩)
    · exact ⟨p, hr, .inl ⟨members, ht, hvalues, hcode, hfileName, hprovider⟩⟩
    · exact ⟨p, hr, .inr ⟨items, ht, hlength,
        fun field hfield => mayLack_of_mem_slots (List.mem_of_mem_drop hfield), hcode, hfileName,
        hprovider⟩⟩
  · rintro ⟨p, hr, ⟨members, ht, hvalues, hcode, hfileName, hprovider⟩ |
      ⟨items, ht, hlength, -, hcode, hfileName, hprovider⟩⟩
    · exact .inl ⟨members, p, ht, hvalues, hcode, hfileName, hprovider, hr⟩
    · exact .inr ⟨items, p, ht, hlength, hcode, hfileName, hprovider, hr⟩

theorem given_or_iff {β : Type} {language language' : List Char → β → Prop} {name : String}
    {members : List (String × List Char)} {b? : Option (Option β)} :
    Given (NullOr fun t b => language t b ∨ language' t b) name members b? ↔
      Given (NullOr language) name members b? ∨ Given (NullOr language') name members b? := by
  rcases b? with _ | _ | b
  · simp [Given]
  · simp [Given, NullOr]
  · simp only [Given, NullOr, and_or_left, exists_or]

/-- An object is a request with the provider in one of the two forms. -/
theorem objectBody_providerText_iff {t : List Char} {r : TidyRequest} :
    ObjectBody ProviderText t r ↔ ObjectBody ProviderName t r ∨ ObjectBody ProviderObject t r := by
  have hgiven : ∀ members (p : Partial), Given (NullOr ProviderText) "provider" members p.provider ↔
      Given (NullOr ProviderName) "provider" members p.provider ∨
        Given (NullOr ProviderObject) "provider" members p.provider :=
    fun _ _ => given_or_iff
  simp only [ObjectBody, hgiven, or_and_right, and_or_left, exists_or]

/-- A body is read as a request when it is an object that gives the request, possibly with its
provider in braces, or a list that does, with blanks around it. For any other body there is a
message. -/
theorem ofText_accepts (body : String) :
    (∀ r, ofText body = .ok r ↔ Reader.Surrounded (fun t r => ObjectBody ProviderName t r ∨
      ObjectBody ProviderObject t r ∨ ListBody t r) body.toList r) ∧
    ((∀ r, ofText body ≠ .ok r) → ∃ message,
      ofText body = .error (.invalidInput ("Invalid request body: " ++ message))) := by
  constructor
  · intro r
    have hread : ofText body = .ok r ↔ reader.run body.toList = .ok r := by
      rw [ofText]
      split <;> simp_all
    rw [hread, Reader.Understands.run_eq_ok_iff understands_reader]
    simp only [Reader.Surrounded, objectBody_providerText_iff, or_assoc]
  · intro hnone
    rw [ofText] at hnone ⊢
    split
    · rename_i r hr
      simp only [hr] at hnone
      exact absurd rfl (hnone r)
    · exact ⟨_, rfl⟩

/-- A list of code is read as a request, although it is no object. -/
theorem listed_code_accepted : ofText "[\"x\"]" = .ok ⟨"x", none, none⟩ ∧
    ¬ ∃ r, Reader.Surrounded (ObjectBody ProviderName) "[\"x\"]".toList r := by
  constructor
  · decide +kernel
  · have hbody : "[\"x\"]".toList = ['[', '"', 'x', '"', ']'] := by decide +kernel
    rintro ⟨r, front, t, back, htext, hfront, -, members, p, ⟨inner, rfl, -⟩, -⟩
    rw [hbody] at htext
    cases front with
    | nil => cases htext
    | cons x front =>
        obtain ⟨rfl, -⟩ := List.cons.inj htext
        exact absurd (hfront '[' List.mem_cons_self) (by decide)

end TidyRequest

/-! ## Requests that are written and read -/

namespace TidyRequest

/-- What the fields that are written for a request give. -/
theorem given_toJson (code : String) (fileName : Option String) (provider : Option ProviderId)
    {members : List (String × List Char)}
    (hmembers : members = ([("code", Json.string code)]
      ++ (fileName.map fun name => ("fileName", Json.string name)).toList
      ++ (provider.map fun id => ("provider", Json.string id.name)).toList).map
        fun field => (field.1, text field.2)) :
    Given StringText "code" members (some code) ∧
      Given (NullOr StringText) "fileName" members (fileName.map some) ∧
      Given (NullOr ProviderName) "provider" members (provider.map some) := by
  subst hmembers
  have hcode := stringText_text code
  rcases fileName with _ | name
  · rcases provider with _ | id
    · simp [given_cons_self, given_cons_of_ne, given_nil, hcode]
    · have hid : ProviderName (text (.string id.name)) id := stringText_text id.name
      simp [given_cons_self, given_cons_of_ne, given_nil, hcode, NullOr, hid]
  · have hname := stringText_text name
    rcases provider with _ | id
    · simp [given_cons_self, given_cons_of_ne, given_nil, hcode, NullOr, hname]
    · have hid : ProviderName (text (.string id.name)) id := stringText_text id.name
      simp [given_cons_self, given_cons_of_ne, hcode, NullOr, hname, hid]

/-- The object that is written for a request gives the request. -/
theorem objectBody_toJson (r : TidyRequest) : ObjectBody ProviderName r.toJson.text r := by
  obtain ⟨code, fileName, provider⟩ := r
  obtain ⟨hcode, hfileName, hprovider⟩ := given_toJson code fileName provider rfl
  refine ⟨_, ⟨some code, fileName.map some, provider.map some⟩, objectText_text _, ?_, hcode,
    hfileName, hprovider, ?_⟩
  · have hvalue : ∀ s, ValueText (text (.string s)) :=
      fun s => .string (stringText_text s).rawString
    cases fileName <;> cases provider <;> simp [hvalue]
  · cases fileName <;> cases provider <;> rfl

/-- A request that is written is read back, and a request that was read is written as a body that
is read as the same request. -/
theorem ofText_toText : (∀ r, ofText (toText r) = .ok r) ∧
    ∀ body, ((ofText body).bind fun r => ofText (toText r)) = ofText body := by
  have hread : ∀ r, ofText (toText r) = .ok r := by
    intro r
    have hbody : (toText r).toList = r.toJson.text := String.toList_ofList
    have hrun : reader.run (toText r).toList = .ok r := by
      rw [Reader.Understands.run_eq_ok_iff understands_reader, hbody]
      refine ⟨[], r.toJson.text, [], by simp, isBlankText_nil, isBlankText_nil, .inl ?_⟩
      exact objectBody_providerText_iff.2 (.inl (objectBody_toJson r))
    rw [ofText, hrun]
  refine ⟨hread, fun body => ?_⟩
  cases hbody : ofText body with
  | error failure => rfl
  | ok r =>
      rw [Except.bind]
      exact hread r

end TidyRequest

end JsxTidy
