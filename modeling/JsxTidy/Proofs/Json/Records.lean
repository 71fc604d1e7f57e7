import JsxTidy.Proofs.Json.Shapes

/-!
# Reading records

A record is an object with its fields by name, or a list of its fields in order. The main result,
`understands_record`, says that a record is understood when its fields are.
-/

namespace JsxTidy.Json

/-! ## What fields make of a record -/

section

variable {σ : Type} (fields : List (Reader.Field σ))
  (meaning : Reader.Field σ → σ → List Char → σ → Prop)

/-- What a field of an object makes of a record. A field is set once, and what is not a field of
the record may be anything. -/
inductive MemberStep (s : σ) : String × List Char → σ → Prop where
  | field {s' : σ} {name : String} {t : List Char} {field : Reader.Field σ} :
      (fields.find? fun field => field.name == name) = some field → field.isSet s = false →
      meaning field s t s' → MemberStep s (name, t) s'
  | other {name : String} {t : List Char} :
      (fields.find? fun field => field.name == name) = none → ValueText t →
      MemberStep s (name, t) s

/-- What the fields of an object make of a record. -/
inductive MemberRun : σ → List (String × List Char) → σ → Prop where
  | done {s : σ} : MemberRun s [] s
  | member {s s' s'' : σ} {member : String × List Char} {members : List (String × List Char)} :
      MemberStep fields meaning s member s' → MemberRun s' members s'' →
      MemberRun s (member :: members) s''

/-- What the items of a list make of a record, as its fields in order. -/
inductive ItemRun : List (Reader.Field σ) → σ → List (List Char) → σ → Prop where
  | done {fields : List (Reader.Field σ)} {s : σ} : (∀ field ∈ fields, field.mayLack) →
      ItemRun fields s [] s
  | item {fields : List (Reader.Field σ)} {s s' s'' : σ} {field : Reader.Field σ} {t : List Char}
      {items : List (List Char)} : meaning field s t s' → ItemRun fields s' items s'' →
      ItemRun (field :: fields) s (t :: items) s''

/-- A record: an object, or a list of its fields. -/
def RecordText {α : Type} (start : σ) (complete : σ → Except Fault α) (t : List Char) (a : α) :
    Prop :=
  ∃ s, complete s = .ok a ∧
    ((∃ members, ObjectText StringText t members ∧ MemberRun fields meaning start members s) ∨
      ∃ items, ArrayText t items ∧ ItemRun meaning fields start items s)

end

/-! ## Fields that are given -/

/-- What the fields of an object give for a name, if anything: the name stands there once, or it
does not stand there. -/
def Given {β : Type} (language : List Char → β → Prop) (name : String)
    (members : List (String × List Char)) : Option β → Prop
  | none => name ∉ members.map Prod.fst
  | some b => ∃ front t back, members = front ++ (name, t) :: back ∧
      name ∉ (front ++ back).map Prod.fst ∧ language t b

/-- What is known of a name behind some fields, from what was known before: nothing is given
twice. -/
def Known {β : Type} (language : List Char → β → Prop) (name : String) (before : Option β)
    (members : List (String × List Char)) (after : Option β) : Prop :=
  match before with
  | none => Given language name members after
  | some _ => name ∉ members.map Prod.fst ∧ after = before

section

variable {β : Type} {language : List Char → β → Prop} {name : String} {t : List Char}
  {members : List (String × List Char)} {member : String × List Char} {before after : Option β}

/-- Without members, nothing is given. -/
theorem given_nil : Given language name [] after ↔ after = none := by
  cases after <;> simp [Given]

/-- Members of other names make no difference. -/
theorem given_cons_of_ne (hname : name ≠ member.1) :
    Given language name (member :: members) after ↔ Given language name members after := by
  cases after with
  | none => simp [Given, hname]
  | some b =>
      constructor
      · rintro ⟨front, t, back, heq, hmem, ht⟩
        cases front with
        | nil =>
            cases heq
            exact absurd rfl hname
        | cons _ front =>
            cases heq
            exact ⟨front, t, back, rfl, fun h => hmem (List.mem_cons_of_mem _ h), ht⟩
      · rintro ⟨front, t, back, rfl, hmem, ht⟩
        exact ⟨member :: front, t, back, rfl, by simpa [hname] using hmem, ht⟩

/-- A member of the name gives its value if no other one follows. -/
theorem given_cons_self : Given language name ((name, t) :: members) after ↔
    name ∉ members.map Prod.fst ∧ ∃ b, after = some b ∧ language t b := by
  cases after with
  | none => simp [Given]
  | some b =>
      constructor
      · rintro ⟨front, t', back, heq, hmem, ht⟩
        cases front with
        | nil =>
            cases heq
            exact ⟨hmem, b, rfl, ht⟩
        | cons _ front =>
            cases heq
            simp at hmem
      · rintro ⟨hmem, _, hb, ht⟩
        cases hb
        exact ⟨[], t, members, rfl, hmem, ht⟩

/-- Without members, what was known stays known. -/
theorem known_nil : Known language name before [] after ↔ after = before := by
  cases before <;> simp [Known, given_nil]

/-- Members of other names add nothing to it. -/
theorem known_cons_of_ne (hname : name ≠ member.1) :
    Known language name before (member :: members) after ↔
      Known language name before members after := by
  cases before with
  | none => exact given_cons_of_ne hname
  | some _ => simp [Known, hname]

/-- A member of the name adds its value if nothing was known before. -/
theorem known_cons_self : Known language name before ((name, t) :: members) after ↔
    before = none ∧ ∃ b, language t b ∧ Known language name (some b) members after := by
  cases before with
  | none =>
      simp only [Known, given_cons_self, true_and]
      exact ⟨fun ⟨hmem, b, hb, ht⟩ => ⟨b, ht, hmem, hb⟩, fun ⟨b, ht, hmem, hb⟩ => ⟨hmem, b, hb, ht⟩⟩
  | some _ => simp [Known]

end

section

variable {σ : Type} {fields : List (Reader.Field σ)}
  {meaning : Reader.Field σ → σ → List Char → σ → Prop} {field : Reader.Field σ} {s s' : σ}
  {member : String × List Char} {members : List (String × List Char)} {t : List Char}
  {items : List (List Char)}

/-- No member changes nothing. -/
theorem memberRun_nil_iff : MemberRun fields meaning s [] s' ↔ s = s' := by
  constructor
  · intro h
    cases h
    rfl
  · rintro rfl
    exact .done

/-- Members are taken one by one. -/
theorem memberRun_cons_iff : MemberRun fields meaning s (member :: members) s' ↔
    ∃ s₁, MemberStep fields meaning s member s₁ ∧ MemberRun fields meaning s₁ members s' := by
  constructor
  · intro h
    cases h with
    | member hstep hrun => exact ⟨_, hstep, hrun⟩
  · rintro ⟨s₁, hstep, hrun⟩
    exact .member hstep hrun

/-- Fields without items must be ones that may be missing. -/
theorem itemRun_nil_iff : ItemRun meaning fields s [] s' ↔
    (∀ field ∈ fields, field.mayLack) ∧ s = s' := by
  constructor
  · intro h
    cases h with
    | done hlack => exact ⟨hlack, rfl⟩
  · rintro ⟨hlack, rfl⟩
    exact .done hlack

/-- There are no more items than fields. -/
theorem not_itemRun_nil : ¬ ItemRun meaning [] s (t :: items) s' :=
  fun h => nomatch h

/-- Items are taken one by one, each for the field in its place. -/
theorem itemRun_cons_iff : ItemRun meaning (field :: fields) s (t :: items) s' ↔
    ∃ s₁, meaning field s t s₁ ∧ ItemRun meaning fields s₁ items s' := by
  constructor
  · intro h
    cases h with
    | item hmeaning hrun => exact ⟨_, hmeaning, hrun⟩
  · rintro ⟨s₁, hmeaning, hrun⟩
    exact .item hmeaning hrun

end

namespace Reader

variable {α σ : Type} {bound fuel count : Nat} {c : Cursor} {a : α} {s s' : σ} {isFirst : Bool}
  {t mid gap rest : List Char} {expected : String} {members : List (String × List Char)}
  {items : List (List Char)} {fields : List (Field σ)}
  {meaning : Field σ → σ → List Char → σ → Prop}

/-! ## Objects -/

/-- Reading the fields of an object goes on with one more of them, or the object ends. -/
theorem namedFieldsFrom_cases
    (hfields : ∀ field ∈ fields, ∀ s, Understands bound (field.read s) (meaning field s))
    (hc : c.rest.length < bound)
    (h : (namedFieldsFrom fields (fuel + 1) isFirst s).Finds c (.ok s') rest) :
    (s' = s ∧ (∃ gap, IsBlankText gap ∧ c.rest = gap ++ rest) ∧ rest.head? = some '\x7d') ∨
      ∃ lead t member s₁ next, IsLead isFirst lead ∧ FieldText StringText t member ∧
        MemberStep fields meaning s member s₁ ∧ c.rest = lead ++ (t ++ next.rest) ∧
        (namedFieldsFrom fields fuel false s₁).Finds next (.ok s') rest := by
  obtain ⟨goesOn, next, hgo, h⟩ := exists_of_finds_bind h
  cases goesOn with
  | false =>
      obtain ⟨hblank, hclose⟩ := finds_objectGoesOn_false.1 hgo
      obtain ⟨hs, rfl⟩ := finds_pure.1 h
      cases hs
      exact .inl ⟨rfl, hblank, hclose⟩
  | true =>
      obtain ⟨lead, hlead, htext⟩ := finds_objectGoesOn_true.1 hgo
      obtain ⟨name, next', hstring, h⟩ := exists_of_finds_bind h
      obtain ⟨nameText, hname, hnext⟩ := finds_stringRest.1 hstring
      rw [hnext] at htext
      split at h
      · -- A field of the record, which is not set yet.
        rename_i field hfind
        split at h
        · exact absurd (finds_pure.1 h).1 (by simp)
        · rename_i hset
          obtain ⟨_, value, hcolon, h⟩ := exists_of_finds_bind h
          obtain ⟨s₁, after, hread, h⟩ := exists_of_finds_bind h
          obtain ⟨gap, hgap, hvalue⟩ := finds_colon.1 hcolon
          rw [hvalue] at htext
          have hlength := congrArg List.length htext
          simp only [List.length_append, List.length_cons] at hlength
          obtain ⟨front, t, hfront, ht, hafter⟩ :=
            (hfields field (List.mem_of_find?_eq_some hfind) s).sound (by omega) hread
          refine .inr ⟨lead, _, (name, t), s₁, after, hlead,
            ⟨_, gap, front, rfl, hname, hgap, hfront⟩, .field hfind (by simpa using hset) ht, ?_, h⟩
          rw [htext, hafter]
          simp
      · -- The value of any other field is stepped over.
        rename_i hfind
        obtain ⟨_, value, hcolon, h⟩ := exists_of_finds_bind h
        obtain ⟨_, after, hskip, h⟩ := exists_of_finds_bind h
        obtain ⟨gap, hgap, hvalue⟩ := finds_colon.1 hcolon
        obtain ⟨front, t, hfront, ht, hafter⟩ :=
          (understands_skipAny _).sound (Nat.lt_succ_self _) hskip
        refine .inr ⟨lead, _, (name, t), s, after, hlead,
          ⟨_, gap, front, rfl, hname, hgap, hfront⟩, .other hfind ht, ?_, h⟩
        rw [htext, hvalue, hafter]
        simp

/-- One more field of an object. -/
theorem finds_namedFieldsFrom_of_member {lead : List Char} {member : String × List Char} {s₁ : σ}
    (hfields : ∀ field ∈ fields, ∀ s, Understands bound (field.read s) (meaning field s))
    (hc : c.rest.length < bound) (hlead : IsLead isFirst lead)
    (ht : FieldText StringText t member) (hmember : MemberStep fields meaning s member s₁)
    (hmid : IsValueEnd mid) (htext : c.rest = lead ++ (t ++ mid))
    (h : ∀ next : Cursor, next.rest = mid →
      (namedFieldsFrom fields fuel false s₁).Finds next (.ok s') rest) :
    (namedFieldsFrom fields (fuel + 1) isFirst s).Finds c (.ok s') rest := by
  obtain ⟨name, value⟩ := member
  obtain ⟨nameText, gap, front, rfl, hname, hgap, hfront⟩ := ht
  obtain ⟨nameText, rfl⟩ := hname.rawString.exists_cons
  simp only [List.append_assoc, List.cons_append] at htext
  have hlength := congrArg List.length htext
  simp only [List.length_append, List.length_cons] at hlength
  refine (finds_objectGoesOn_true.2 ⟨lead, hlead, htext⟩).bind fun next hnext => ?_
  refine (finds_stringRest.2 ⟨nameText, hname, hnext⟩).bind fun next hnext => ?_
  have hcolon : ∀ {β : Type} {f : Unit → Reader β} {b : β}, (∀ next : Cursor,
      next.rest = front ++ (value ++ mid) → (f ()).Finds next b rest) →
      (colon >>= f).Finds next b rest :=
    fun hf => (finds_colon.2 ⟨gap, hgap, hnext⟩).bind hf
  cases hmember with
  | field hfind hset ht =>
      simp only [hfind, hset]
      refine hcolon fun next hnext => ?_
      refine Finds.bind ?_ h
      refine (hfields _ (List.mem_of_find?_eq_some hfind) s).complete ?_ hfront ht hmid hnext
      rw [hnext]
      simp only [List.length_append]
      omega
  | other hfind ht =>
      simp only [hfind]
      refine hcolon fun next hnext => ?_
      have hskip : skipAny.Finds next () mid :=
        (understands_skipAny _).complete (Nat.lt_succ_self _) hfront ht hmid hnext
      exact hskip.bind h

/-- What is read between braces is a list of members, each of which has been taken. -/
theorem namedFieldsFrom_sound
    (hfields : ∀ field ∈ fields, ∀ s, Understands bound (field.read s) (meaning field s))
    (hc : c.rest.length < bound) (hfuel : c.rest.length < fuel)
    (h : (namedFieldsFrom fields fuel isFirst s).Finds c (.ok s') rest) :
    ∃ t members, ItemsText (FieldText StringText) isFirst t members ∧
      MemberRun fields meaning s members s' ∧ c.rest = t ++ rest ∧ rest.head? = some '\x7d' := by
  induction fuel generalizing c isFirst s with
  | zero => cases hfuel
  | succ fuel ih =>
      rcases namedFieldsFrom_cases hfields hc h with ⟨rfl, ⟨gap, hgap, htext⟩, hclose⟩ |
        ⟨lead, t, member, s₁, next, hlead, ht, hmember, htext, h⟩
      · exact ⟨gap, [], .done hgap, .done, htext, hclose⟩
      · have hpos := ht.length_pos
        have hlength := congrArg List.length htext
        simp only [List.length_append] at hlength
        obtain ⟨more, members, hmore, hrun, hnext, hclose⟩ := ih (by omega) (by omega) h
        exact ⟨_, _, .item hlead ht hmore, .member hmember hrun, by simp [htext, hnext], hclose⟩

/-- Each such list is read, if its members can be taken. -/
theorem finds_namedFieldsFrom
    (hfields : ∀ field ∈ fields, ∀ s, Understands bound (field.read s) (meaning field s))
    (hc : c.rest.length < bound) (hfuel : c.rest.length < fuel)
    (ht : ItemsText (FieldText StringText) isFirst t members)
    (hrun : MemberRun fields meaning s members s') (htext : c.rest = t ++ '\x7d' :: rest) :
    (namedFieldsFrom fields fuel isFirst s).Finds c (.ok s') ('\x7d' :: rest) := by
  induction hrun generalizing c isFirst t fuel with
  | done =>
      obtain ⟨fuel, rfl⟩ := Nat.exists_eq_add_one_of_ne_zero (Nat.ne_zero_of_lt hfuel)
      cases ht with
      | done hgap =>
          exact (finds_objectGoesOn_false.2 ⟨⟨_, hgap, htext⟩, rfl⟩).bind fun next hnext =>
            finds_pure.2 ⟨rfl, hnext⟩
  | member hmember hrun ih =>
      obtain ⟨fuel, rfl⟩ := Nat.exists_eq_add_one_of_ne_zero (Nat.ne_zero_of_lt hfuel)
      cases ht with
      | item hlead ht hmore =>
          simp only [List.append_assoc] at htext
          have hmid := hmore.isValueEnd (.inr rfl) rest
          have hpos := ht.length_pos
          have hlength := congrArg List.length htext
          simp only [List.length_append] at hlength
          refine finds_namedFieldsFrom_of_member hfields hc hlead ht hmember hmid htext ?_
          intro next hnext
          rw [← List.length_append, ← hnext] at hlength
          exact ih (by omega) (by omega) hmore hnext

/-! ## Lists -/

/-- Nothing is left of a list that has come to its end. -/
theorem eq_nil_of_head?_closing (h : ItemsText Eq false t items)
    (hclose : (t ++ ']' :: rest).head? = some ']') : items = [] ∧ t = [] := by
  rcases itemsText_false_iff.1 h with ⟨rfl, hgap⟩ | ⟨-, gap, more, rfl, hgap, -⟩
  · refine ⟨rfl, ?_⟩
    cases t with
    | nil => rfl
    | cons x t =>
        cases hclose
        exact absurd (hgap ']' List.mem_cons_self) (by decide)
  · cases gap with
    | nil => simp at hclose
    | cons x gap =>
        cases hclose
        exact absurd (hgap ']' List.mem_cons_self) (by decide)

/-- What is read between brackets is a list of items, each of which has been taken. -/
theorem placedFieldsFrom_sound
    (hfields : ∀ field ∈ fields, ∀ s, Understands bound (field.read s) (meaning field s))
    (hc : c.rest.length < bound) (hgap : IsBlankText gap)
    (h : (placedFieldsFrom expected count fields s).Finds c (.ok s') (gap ++ ']' :: rest)) :
    ∃ t items, ItemsText Eq (count == 0) t items ∧ ItemRun meaning fields s items s' ∧
      c.rest = t ++ ']' :: rest := by
  induction fields generalizing c count s with
  | nil =>
      obtain ⟨hs, htext⟩ := finds_pure.1 h
      cases hs
      exact ⟨gap, [], .done hgap, .done (by simp), htext⟩
  | cons field fields ih =>
      obtain ⟨hfield, hothers⟩ := List.forall_mem_cons.1 hfields
      obtain ⟨goesOn, next, hgo, h⟩ := exists_of_finds_bind h
      cases goesOn with
      | true =>
          obtain ⟨⟨lead, hlead, htext⟩, -⟩ := finds_listGoesOn_true.1 hgo
          obtain ⟨s₁, after, hread, h⟩ := exists_of_finds_bind h
          have hlength := congrArg List.length htext
          simp only [List.length_append] at hlength
          obtain ⟨front, item, hfront, hitem, hnext⟩ := (hfield s).sound (by omega) hread
          have hafter := congrArg List.length hnext
          simp only [List.length_append] at hafter
          obtain ⟨t, items, hitems, hrun, hrest⟩ := ih hothers (by omega) h
          refine ⟨_, _, .item (hlead.append hfront) rfl hitems, .item hitem hrun, ?_⟩
          rw [htext, hnext, hrest]
          simp
      | false =>
          obtain ⟨⟨front, hfront, htext⟩, hclose⟩ := finds_listGoesOn_false.1 hgo
          simp only [Bool.false_eq_true, if_false] at h
          -- The list has ended here, so there is nothing in it for the fields that are left.
          split at h
          · rename_i hlack
            have hlength := congrArg List.length htext
            simp only [List.length_append] at hlength
            obtain ⟨t, items, hitems, hrun, hrest⟩ := ih hothers (by omega) h
            obtain ⟨rfl, rfl⟩ := eq_nil_of_head?_closing hitems (hrest ▸ hclose)
            cases hrun with
            | done hall =>
                exact ⟨front, [], .done hfront, .done (List.forall_mem_cons.2 ⟨hlack, hall⟩),
                  by rw [htext, hrest]; rfl⟩
          · exact absurd (finds_pure.1 h).1 (by simp)

/-- A list may end where all fields that are left may lack. -/
theorem finds_placedFieldsFrom_nil (hlack : ∀ field ∈ fields, field.mayLack)
    (hgap : IsBlankText gap) (htext : c.rest = gap ++ ']' :: rest) :
    ∃ gap, IsBlankText gap ∧
      (placedFieldsFrom expected count fields s).Finds c (.ok s) (gap ++ ']' :: rest) := by
  induction fields generalizing c count gap with
  | nil => exact ⟨gap, hgap, finds_pure.2 ⟨rfl, htext⟩⟩
  | cons field fields ih =>
      obtain ⟨hfield, hothers⟩ := List.forall_mem_cons.1 hlack
      -- Looking for the first of them steps over the blanks, so for the others there are none.
      have hgo : (listGoesOn (count == 0)).Finds c false (']' :: rest) :=
        finds_listGoesOn_false.2 ⟨⟨gap, hgap, htext⟩, rfl⟩
      obtain ⟨offset, hgo⟩ := hgo
      have hrest : ∃ gap, IsBlankText gap ∧ (placedFieldsFrom expected (count + 1) fields s).Finds
          ⟨offset, ']' :: rest⟩ (.ok s) (gap ++ ']' :: rest) := ih hothers isBlankText_nil rfl
      obtain ⟨gap, hgap, hrest⟩ := hrest
      exact ⟨gap, hgap, finds_bind.2 ⟨_, _, hgo, by simpa [hfield] using hrest⟩⟩

/-- Each such list is read, if its items can be taken. -/
theorem finds_placedFieldsFrom
    (hfields : ∀ field ∈ fields, ∀ s, Understands bound (field.read s) (meaning field s))
    (hc : c.rest.length < bound) (ht : ItemsText Eq (count == 0) t items)
    (hrun : ItemRun meaning fields s items s') (htext : c.rest = t ++ ']' :: rest) :
    ∃ gap, IsBlankText gap ∧
      (placedFieldsFrom expected count fields s).Finds c (.ok s') (gap ++ ']' :: rest) := by
  induction hrun generalizing c count t with
  | done hlack =>
      cases ht with
      | done hgap => exact finds_placedFieldsFrom_nil hlack hgap htext
  | item hmeaning hrun ih =>
      obtain ⟨hfield, hothers⟩ := List.forall_mem_cons.1 hfields
      cases ht with
      | @item _ lead item more _ _ hlead heq hmore =>
          subst heq
          obtain ⟨x, text, rfl, hx, hclose⟩ := ((hfield _).value hmeaning).exists_cons
          have hmid := hmore.isValueEnd (.inl rfl) rest
          simp only [List.append_assoc] at htext
          have hlength := congrArg List.length htext
          simp only [List.length_append, List.length_cons] at hlength
          have hgo : (listGoesOn (count == 0)).Finds c true (x :: text ++ (more ++ ']' :: rest)) :=
            finds_listGoesOn_true.2 ⟨⟨lead, hlead, htext⟩, x, rfl, hx, hclose⟩
          obtain ⟨offset, hgo⟩ := hgo
          obtain ⟨offset', hread⟩ := (hfield _).complete (c := ⟨offset, _⟩)
            (by simp; omega) isBlankText_nil hmeaning hmid rfl
          have hmore : ItemsText Eq (count + 1 == 0) more _ := hmore
          obtain ⟨gap, hgap, hrest⟩ := ih hothers (c := ⟨offset', _⟩) (by simp; omega) hmore rfl
          exact ⟨gap, hgap, finds_bind.2 ⟨_, _, hgo, finds_bind.2 ⟨_, _, hread, hrest⟩⟩⟩

/-! ## Records -/

/-- A value of the wrong shape is a fault. -/
theorem not_finds_mismatch : ¬ (mismatch expected : Reader α).Finds c a rest := by
  intro h
  obtain ⟨v, -, ha⟩ := finds_scalarOf.1 h
  cases ha

/-- Members that are taken have values. -/
theorem valueText_of_memberRun
    (hfields : ∀ field ∈ fields, ∀ s, Understands bound (field.read s) (meaning field s))
    (hrun : MemberRun fields meaning s members s') : ∀ member ∈ members, ValueText member.2 := by
  induction hrun with
  | done => exact fun _ hmember => nomatch hmember
  | member hmember _ ih =>
      refine List.forall_mem_cons.2 ⟨?_, ih⟩
      cases hmember with
      | field hfind _ ht => exact (hfields _ (List.mem_of_find?_eq_some hfind) _).value ht
      | other _ ht => exact ht

/-- Items that are taken are values. -/
theorem valueText_of_itemRun
    (hfields : ∀ field ∈ fields, ∀ s, Understands bound (field.read s) (meaning field s))
    (hrun : ItemRun meaning fields s items s') : ∀ item ∈ items, ValueText item := by
  induction hrun with
  | done => exact fun _ hitem => nomatch hitem
  | item hmeaning _ ih =>
      obtain ⟨hfield, hothers⟩ := List.forall_mem_cons.1 hfields
      exact List.forall_mem_cons.2 ⟨(hfield _).value hmeaning, ih hothers⟩

/-- A record behind a bracket: its fields in order, and the bracket behind them. -/
theorem finds_placedFields_closing {start : σ} {complete : σ → Except Fault α}
    (hfields : ∀ field ∈ fields, ∀ s, Understands bound (field.read s) (meaning field s))
    (hc : c.rest.length < bound) :
    (placedFieldsFrom expected 0 fields start >>= fun read =>
      closing listEnd (read >>= complete)).Finds c a rest ↔
      ∃ s t items, complete s = .ok a ∧ ItemsText Eq true t items ∧
        ItemRun meaning fields start items s ∧ c.rest = t ++ ']' :: rest := by
  constructor
  · intro h
    obtain ⟨read, next, hread, h⟩ := exists_of_finds_bind h
    obtain ⟨hwhole, hend⟩ := finds_closing.1 h
    obtain ⟨behind, hbehind, hnext⟩ := listEnd_eq_iff.1 hend
    rw [hnext] at hread
    cases read with
    | error fault => cases hwhole
    | ok s =>
        obtain ⟨t, items, hitems, hrun, htext⟩ := placedFieldsFrom_sound hfields hc hbehind hread
        exact ⟨s, t, items, hwhole, hitems, hrun, htext⟩
  · rintro ⟨s, t, items, hwhole, hitems, hrun, htext⟩
    have hitems : ItemsText Eq (0 == 0) t items := hitems
    obtain ⟨behind, hbehind, hread⟩ := finds_placedFieldsFrom hfields hc hitems hrun htext
    refine hread.bind fun next hnext => finds_closing.2 ⟨hwhole, listEnd_eq_iff.2 ?_⟩
    exact ⟨behind, hbehind, hnext⟩

/-- A record behind a brace: its fields by name, and the brace behind them. -/
theorem finds_namedFields_closing {start : σ} {complete : σ → Except Fault α}
    (hfields : ∀ field ∈ fields, ∀ s, Understands bound (field.read s) (meaning field s))
    (hc : c.rest.length < bound) :
    (namedFieldsFrom fields (c.rest.length + 1) true start >>= fun read =>
      closing objectEnd (read >>= complete)).Finds c a rest ↔
      ∃ s t members, complete s = .ok a ∧ ItemsText (FieldText StringText) true t members ∧
        MemberRun fields meaning start members s ∧ c.rest = t ++ '\x7d' :: rest := by
  constructor
  · intro h
    obtain ⟨read, next, hread, h⟩ := exists_of_finds_bind h
    obtain ⟨hwhole, hend⟩ := finds_closing.1 h
    obtain ⟨behind, hbehind, hnext⟩ := objectEnd_eq_iff.1 hend
    cases read with
    | error fault => cases hwhole
    | ok s =>
        obtain ⟨t, members, hmembers, hrun, htext, hclose⟩ :=
          namedFieldsFrom_sound hfields hc (Nat.lt_succ_self _) hread
        -- The fields end right in front of the brace, so nothing stands between.
        have hbehind' : behind = [] := by
          rw [hnext] at hclose
          cases behind with
          | nil => rfl
          | cons x behind =>
              cases hclose
              exact absurd (hbehind '\x7d' List.mem_cons_self) (by decide)
        exact ⟨s, t, members, hwhole, hmembers, hrun, by rw [htext, hnext, hbehind']; rfl⟩
  · rintro ⟨s, t, members, hwhole, hmembers, hrun, htext⟩
    have hread := finds_namedFieldsFrom hfields hc (Nat.lt_succ_self _) hmembers hrun htext
    refine hread.bind fun next hnext => finds_closing.2 ⟨hwhole, objectEnd_eq_iff.2 ?_⟩
    exact ⟨[], isBlankText_nil, hnext⟩

/-- A record is understood when each of its fields is. -/
theorem understands_record {title : String} {start : σ} {complete : σ → Except Fault α}
    (hfields : ∀ field ∈ fields, ∀ s, Understands bound (field.read s) (meaning field s)) :
    Understands bound (record title fields start complete)
      (RecordText fields meaning start complete) := by
  constructor
  · rintro t a ⟨s, -, ⟨members, ht, hrun⟩ | ⟨items, ht, hrun⟩⟩
    · exact ht.valueText (valueText_of_memberRun hfields hrun)
    · exact .array ht (valueText_of_itemRun hfields hrun)
  · intro c a rest hc h
    rw [record, finds_peekItem_bind] at h
    split at h
    · exact absurd h finds_failNext
    · rename_i hopen
      obtain ⟨gap, text, hgap, htext, rfl⟩ := exists_of_head?_dropWhile rfl hopen
      have hbound := Nat.lt_trans (length_next_dropWhile_lt hgap rfl htext) hc
      obtain ⟨s, t, items, hwhole, hitems, hrun, hrest⟩ :=
        (finds_placedFields_closing hfields hbound).1 (finds_advance_bind.1 h)
      refine ⟨gap, _, hgap, ⟨s, hwhole, .inr ⟨items, ⟨t, rfl, hitems⟩, hrun⟩⟩, ?_⟩
      rw [htext, hrest]
      simp
    · rename_i hopen
      obtain ⟨gap, text, hgap, htext, rfl⟩ := exists_of_head?_dropWhile rfl hopen
      have hbound := Nat.lt_trans (length_next_dropWhile_lt hgap rfl htext) hc
      rw [finds_advance_bind, finds_stepsLeft_bind] at h
      obtain ⟨s, t, members, hwhole, hmembers, hrun, hrest⟩ :=
        (finds_namedFields_closing hfields hbound).1 h
      refine ⟨gap, _, hgap, ⟨s, hwhole, .inl ⟨members, ⟨t, rfl, hmembers⟩, hrun⟩⟩, ?_⟩
      rw [htext, hrest]
      simp
    · exact absurd h not_finds_mismatch
  · rintro c a gap _ rest hc hgap ⟨s, hwhole, ⟨members, ⟨t, rfl, ht⟩, hrun⟩ |
      ⟨items, ⟨t, rfl, ht⟩, hrun⟩⟩ - htext
    · simp only [List.append_assoc, List.cons_append, List.nil_append] at htext
      have hnext := rest_next_dropWhile hgap rfl htext
      have hbound := Nat.lt_trans (length_next_dropWhile_lt hgap rfl htext) hc
      rw [record, finds_peekItem_bind_of hgap rfl htext]
      refine finds_advance_bind.2 (finds_stepsLeft_bind.2 ?_)
      exact (finds_namedFields_closing hfields hbound).2 ⟨s, t, members, hwhole, ht, hrun, hnext⟩
    · simp only [List.append_assoc, List.cons_append, List.nil_append] at htext
      have hnext := rest_next_dropWhile hgap rfl htext
      have hbound := Nat.lt_trans (length_next_dropWhile_lt hgap rfl htext) hc
      rw [record, finds_peekItem_bind_of hgap rfl htext]
      refine finds_advance_bind.2 ?_
      exact (finds_placedFields_closing hfields hbound).2 ⟨s, t, items, hwhole, ht, hrun, hnext⟩

end Reader

end JsxTidy.Json
