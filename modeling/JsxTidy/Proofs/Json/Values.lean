import JsxTidy.Proofs.Json.Records
import JsxTidy.Proofs.Json.Written

/-!
# Values that are read

A text is read as a value when a reader finds the value wherever the text stands. Strings are read
as what they say, and arrays and objects as what their items and fields are read as. The main
results are `readsAs_string`, `readsAs_array` and `readsAs_object`. A list of what a reader
understands is understood as well, by `understands_list`.
-/

namespace JsxTidy.Json

/-! ## Fields of objects -/

section

variable {name other : String} {v : Json} {fields : List (String × Json)}

theorem lookup_cons (field : String × Json) : (field :: fields).lookup name =
    if name = field.1 then some field.2 else fields.lookup name := by
  rw [List.lookup_cons]
  split
  · rename_i h
    rw [if_pos (by simpa using h)]
  · rename_i h
    rw [if_neg (by simpa using h)]

/-- A field that is put in its place is found, and the other ones still are. -/
theorem lookup_insertField : (insertField other v fields).lookup name =
    if name = other then some v else fields.lookup name := by
  induction fields with
  | nil => rw [insertField, lookup_cons]
  | cons field fields ih =>
      obtain ⟨first, w⟩ := field
      rw [insertField]
      by_cases hbefore : other < first
      · rw [if_pos hbefore, lookup_cons]
      by_cases hsame : other = first
      · subst hsame
        rw [if_neg hbefore, if_pos rfl, lookup_cons, lookup_cons]
        split_ifs <;> rfl
      · rw [if_neg hbefore, if_neg hsame, lookup_cons, lookup_cons, ih]
        split_ifs with hname hother
        · exact absurd (hother.symm.trans hname) hsame
        · rfl
        · rfl
        · rfl

/-- Of fields with the same name the last one counts. -/
theorem field?_ofFields : (ofFields fields).field? name = fields.reverse.lookup name := by
  rw [ofFields, field?, ← List.foldr_reverse]
  induction fields.reverse with
  | nil => rfl
  | cons field fields ih => rw [List.foldr_cons, lookup_insertField, ih, lookup_cons]

end

namespace Reader

variable {α : Type} {r : Reader α} {a : α} {c : Cursor} {t rest : List Char} {isFirst : Bool}
  {fuel : Nat}

/-- Whether a reader finds something wherever a text stands where a value may end. -/
structure ReadsAs (r : Reader α) (t : List Char) (a : α) : Prop where
  value : ValueText t
  finds {c : Cursor} {gap rest : List Char} : IsBlankText gap → IsValueEnd rest →
    c.rest = gap ++ (t ++ rest) → r.Finds c a rest

/-! ## Lists -/

theorem valueText_of_readsAs {texts : List (List Char)} {items : List α}
    (h : List.Forall₂ (ReadsAs r) texts items) : ∀ text ∈ texts, ValueText text := by
  induction h with
  | nil => exact fun _ htext => nomatch htext
  | cons hitem _ ih => exact List.forall_mem_cons.2 ⟨hitem.value, ih⟩

theorem finds_itemsFrom {texts : List (List Char)} {found items : List α}
    (ht : ItemsText Eq found.isEmpty t texts) (hitems : List.Forall₂ (ReadsAs r) texts items)
    (hfuel : c.rest.length < fuel) (htext : c.rest = t ++ ']' :: rest) :
    (itemsFrom r fuel found).Finds c (found.reverse ++ items) (']' :: rest) := by
  induction hitems generalizing c found t fuel with
  | nil =>
      obtain ⟨fuel, rfl⟩ := Nat.exists_eq_add_one_of_ne_zero (Nat.ne_zero_of_lt hfuel)
      cases ht with
      | done hgap =>
          exact (finds_listGoesOn_false.2 ⟨⟨_, hgap, htext⟩, rfl⟩).bind fun next hnext =>
            finds_pure.2 ⟨(List.append_nil _).symm, hnext⟩
  | @cons text item texts items hitem _ ih =>
      obtain ⟨fuel, rfl⟩ := Nat.exists_eq_add_one_of_ne_zero (Nat.ne_zero_of_lt hfuel)
      cases ht with
      | @item _ lead _ more _ _ hlead heq hmore =>
          subst heq
          obtain ⟨x, t, rfl, hx, hclose⟩ := hitem.value.exists_cons
          have hmid := hmore.isValueEnd (.inl rfl) rest
          simp only [List.append_assoc] at htext
          have hlength := congrArg List.length htext
          simp only [List.length_append, List.length_cons] at hlength
          refine (finds_listGoesOn_true.2 ⟨⟨lead, hlead, htext⟩, x, rfl, hx, hclose⟩).bind ?_
          intro next hnext
          refine (hitem.finds isBlankText_nil hmid hnext).bind fun next hnext => ?_
          have hrest : (itemsFrom r fuel (item :: found)).Finds next
              ((item :: found).reverse ++ items) (']' :: rest) :=
            ih hmore (by rw [hnext]; simp; omega) hnext
          simpa using hrest

/-- The items of a list are read as what they are. -/
theorem finds_items {texts : List (List Char)} {items : List α} (ht : ItemsText Eq true t texts)
    (hitems : List.Forall₂ (ReadsAs r) texts items) (htext : c.rest = t ++ ']' :: rest) :
    (Reader.items r).Finds c items rest := by
  have hfound : (itemsFrom r (c.rest.length + 1) []).Finds c items (']' :: rest) :=
    finds_itemsFrom ht hitems (Nat.lt_succ_self _) htext
  refine finds_stepsLeft_bind.2 (hfound.bind fun next hnext => ?_)
  refine finds_closing.2 ⟨rfl, listEnd_eq_iff.2 ?_⟩
  exact ⟨[], isBlankText_nil, hnext⟩

section

variable {language : List Char → α → Prop}

theorem readsAs_of_understands (hr : ∀ bound, Understands bound r language) (h : language t a) :
    ReadsAs r t a :=
  ⟨(hr 0).value h, fun hgap hrest htext =>
    (hr _).complete (Nat.lt_succ_self _) hgap h hrest htext⟩

theorem itemsFrom_sound {found items : List α} (hr : ∀ bound, Understands bound r language)
    (hfuel : c.rest.length < fuel) (h : (itemsFrom r fuel found).Finds c items rest) :
    ∃ t texts more, items = found.reverse ++ more ∧ ItemsText Eq found.isEmpty t texts ∧
      List.Forall₂ language texts more ∧ c.rest = t ++ rest ∧ rest.head? = some ']' := by
  induction fuel generalizing c found with
  | zero => cases hfuel
  | succ fuel ih =>
      obtain ⟨goesOn, next, hgo, h⟩ := exists_of_finds_bind h
      cases goesOn with
      | false =>
          obtain ⟨⟨gap, hgap, htext⟩, hclose⟩ := finds_listGoesOn_false.1 hgo
          obtain ⟨rfl, rfl⟩ := finds_pure.1 h
          exact ⟨gap, [], [], (List.append_nil _).symm, .done hgap, .nil, htext, hclose⟩
      | true =>
          obtain ⟨⟨lead, hlead, htext⟩, -⟩ := finds_listGoesOn_true.1 hgo
          obtain ⟨item, after, hitem, h⟩ := exists_of_finds_bind h
          obtain ⟨front, text, hfront, ht, hnext⟩ := (hr _).sound (Nat.lt_succ_self _) hitem
          obtain ⟨x, text, rfl, -⟩ := ((hr 0).value ht).exists_cons
          have hlength := congrArg List.length htext
          rw [hnext] at hlength
          simp only [List.length_append, List.length_cons] at hlength
          obtain ⟨t, texts, more, rfl, hitems, hmore, hafter, hclose⟩ := ih (by omega) h
          refine ⟨_, _, item :: more, by simp, .item (hlead.append hfront) rfl hitems,
            .cons ht hmore, ?_, hclose⟩
          simp only [htext, hnext, hafter, List.append_assoc, List.cons_append]

/-- A list of what a reader understands. -/
theorem understands_list {bound : Nat} (hr : ∀ bound, Understands bound r language) :
    Understands bound (list r) fun t items =>
      ∃ texts, ArrayText t texts ∧ List.Forall₂ language texts items := by
  have hreads {texts : List (List Char)} {items : List α} (h : List.Forall₂ language texts items) :
      List.Forall₂ (ReadsAs r) texts items :=
    h.imp fun _ _ => readsAs_of_understands hr
  constructor
  · rintro t items ⟨texts, ht, hitems⟩
    exact .array ht (valueText_of_readsAs (hreads hitems))
  · intro c items rest _ h
    rw [list, finds_peekItem_bind] at h
    split at h
    · exact absurd h finds_failNext
    · rename_i hopen
      obtain ⟨gap, text, hgap, htext, hlast⟩ := exists_of_head?_dropWhile rfl hopen
      obtain ⟨found, next, hfound, h⟩ :=
        exists_of_finds_bind (finds_stepsLeft_bind.1 (finds_advance_bind.1 h))
      obtain ⟨hall, hend⟩ := finds_closing.1 h
      cases hall
      obtain ⟨inner, texts, more, rfl, hinner, hitems, hnext, hclose⟩ :=
        itemsFrom_sound hr (Nat.lt_succ_self _) hfound
      obtain ⟨behind, hbehind, hlist⟩ := listEnd_eq_iff.1 hend
      rw [hlist] at hnext hclose
      obtain ⟨-, rfl⟩ := eq_nil_of_head?_closing (.done hbehind) hclose
      refine ⟨gap, _, hgap, ⟨texts, ⟨inner, rfl, hinner⟩, hitems⟩, ?_⟩
      rw [htext, ← hlast, hnext]
      simp
    · exact absurd h not_finds_mismatch
  · rintro c items gap _ rest _ hgap ⟨texts, ⟨inner, rfl, hinner⟩, hitems⟩ - htext
    simp only [List.cons_append, List.append_assoc, List.nil_append] at htext
    have hnext := rest_next_dropWhile hgap rfl htext
    refine (finds_peekItem_bind_of hgap rfl htext).2 (finds_advance_bind.2 ?_)
    exact finds_items hinner (hreads hitems) hnext

end

/-! ## Objects -/

theorem finds_fieldsFrom {r : Reader Json} {members : List (String × List Char)}
    {found fields : List (String × Json)}
    (ht : ItemsText (FieldText StringText) found.isEmpty t members)
    (hfields : List.Forall₂ (fun member field => member.1 = field.1 ∧ ReadsAs r member.2 field.2)
      members fields)
    (hfuel : c.rest.length < fuel) (htext : c.rest = t ++ '\x7d' :: rest) :
    (fieldsFrom r fuel found).Finds c (found.reverse ++ fields) ('\x7d' :: rest) := by
  induction hfields generalizing c found t fuel with
  | nil =>
      obtain ⟨fuel, rfl⟩ := Nat.exists_eq_add_one_of_ne_zero (Nat.ne_zero_of_lt hfuel)
      cases ht with
      | done hgap =>
          exact (finds_objectGoesOn_false.2 ⟨⟨_, hgap, htext⟩, rfl⟩).bind fun next hnext =>
            finds_pure.2 ⟨(List.append_nil _).symm, hnext⟩
  | @cons member field members fields hfield _ ih =>
      obtain ⟨fuel, rfl⟩ := Nat.exists_eq_add_one_of_ne_zero (Nat.ne_zero_of_lt hfuel)
      obtain ⟨name, value⟩ := field
      obtain ⟨hname, hvalue⟩ := hfield
      cases ht with
      | @item _ lead _ more _ _ hlead hmember hmore =>
          obtain ⟨nameText, gap, front, rfl, hstring, hgap, hfront⟩ := hmember
          obtain ⟨nameText, rfl⟩ := hstring.rawString.exists_cons
          rw [hname] at hstring
          have hmid := hmore.isValueEnd (.inr rfl) rest
          simp only [List.append_assoc, List.cons_append] at htext
          have hlength := congrArg List.length htext
          simp only [List.length_append, List.length_cons] at hlength
          refine (finds_objectGoesOn_true.2 ⟨lead, hlead, htext⟩).bind fun next hnext => ?_
          refine (finds_stringRest.2 ⟨nameText, hstring, hnext⟩).bind fun next hnext => ?_
          have hcolon : colon.Finds next () (front ++ (member.2 ++ (more ++ '\x7d' :: rest))) :=
            finds_colon.2 ⟨gap, hgap, hnext⟩
          refine hcolon.bind fun next hnext => ?_
          refine (hvalue.finds hfront hmid hnext).bind fun next hnext => ?_
          have hrest : (fieldsFrom r fuel ((name, value) :: found)).Finds next
              (((name, value) :: found).reverse ++ fields) ('\x7d' :: rest) :=
            ih hmore (by rw [hnext]; simp; omega) hnext
          simpa using hrest

/-! ## Values -/

theorem finds_valueAround_of_scalar {inner? : Option (Reader Json)} {v : Json}
    (h : scalar?.Finds (c.dropWhile isBlank) (some v) rest) :
    (valueAround inner?).Finds c v rest := by
  refine finds_peekItem_bind.2 ?_
  split
  · rename_i hnone
    rw [scalar?, finds_peek_bind, Cursor.rest_dropWhile, hnone] at h
    exact absurd (finds_pure.1 h).1 (by simp)
  · exact h.bind fun next hnext => finds_pure.2 ⟨rfl, hnext⟩

/-- No value without other ones begins like a list or an object. -/
theorem finds_scalar?_none {x : Char} {text : List Char} (hx : x = '[' ∨ x = '\x7b')
    (htext : c.rest = x :: text) : scalar?.Finds c none (x :: text) := by
  rw [scalar?, finds_peek_bind, htext]
  rcases hx with rfl | rfl
  · exact finds_pure.2 ⟨rfl, htext⟩
  · exact finds_pure.2 ⟨rfl, htext⟩

theorem readsAs_string {depth : Nat} {s : String} (ht : StringText t s) :
    ReadsAs (value depth) t (.string s) := by
  refine ⟨.string ht.rawString, fun {c gap rest} hgap _ htext => ?_⟩
  have hfound : scalar?.Finds (c.dropWhile isBlank) (some (.string s)) rest := by
    refine finds_scalar?_string.2 ⟨t, ht, ?_⟩
    obtain ⟨text, rfl⟩ := ht.rawString.exists_cons
    rw [Cursor.rest_dropWhile, htext, List.cons_append]
    exact dropWhile_isBlank hgap (by simp [isBlank])
  cases depth with
  | zero => exact finds_valueAround_of_scalar hfound
  | succ depth => exact finds_valueAround_of_scalar hfound

theorem readsAs_array {depth : Nat} {texts : List (List Char)} {items : List Json}
    (ht : ArrayText t texts) (hitems : List.Forall₂ (ReadsAs (value depth)) texts items) :
    ReadsAs (value (depth + 1)) t (.array items) := by
  refine ⟨.array ht (valueText_of_readsAs hitems), fun {c gap rest} hgap _ htext => ?_⟩
  obtain ⟨inner, rfl, hinner⟩ := ht
  simp only [List.append_assoc, List.cons_append, List.nil_append] at htext
  have hbracket : (c.dropWhile isBlank).rest = '[' :: (inner ++ ']' :: rest) := by
    rw [Cursor.rest_dropWhile, htext, dropWhile_isBlank hgap (by simp [isBlank])]
  refine (finds_peekItem_bind_of hgap rfl htext).2 ?_
  refine (finds_scalar?_none (.inl rfl) hbracket).bind fun next hnext => ?_
  have hlist : (Reader.items (value depth)).Finds next.next items rest :=
    finds_items hinner hitems (by rw [Cursor.rest_next, hnext, List.tail_cons])
  exact finds_advance_bind.2 (hlist.bind fun next hnext => finds_pure.2 ⟨rfl, hnext⟩)

theorem valueText_of_forall₂ {r : Reader Json} {members : List (String × List Char)}
    {fields : List (String × Json)} (h : List.Forall₂ (fun member field =>
      member.1 = field.1 ∧ ReadsAs r member.2 field.2) members fields) :
    ∀ member ∈ members, ValueText member.2 := by
  induction h with
  | nil => exact fun _ hmember => nomatch hmember
  | cons hmember _ ih => exact List.forall_mem_cons.2 ⟨hmember.2.value, ih⟩

theorem readsAs_object {depth : Nat} {members : List (String × List Char)}
    {fields : List (String × Json)} (ht : ObjectText StringText t members)
    (hfields : List.Forall₂ (fun member field =>
      member.1 = field.1 ∧ ReadsAs (value depth) member.2 field.2) members fields) :
    ReadsAs (value (depth + 1)) t (ofFields fields) := by
  refine ⟨ht.valueText (valueText_of_forall₂ hfields), fun {c gap rest} hgap _ htext => ?_⟩
  obtain ⟨inner, rfl, hinner⟩ := ht
  simp only [List.append_assoc, List.cons_append, List.nil_append] at htext
  have hbrace : (c.dropWhile isBlank).rest = '\x7b' :: (inner ++ '\x7d' :: rest) := by
    rw [Cursor.rest_dropWhile, htext, dropWhile_isBlank hgap (by simp [isBlank])]
  refine (finds_peekItem_bind_of hgap rfl htext).2 ?_
  refine (finds_scalar?_none (.inr rfl) hbrace).bind fun next hnext => ?_
  have hfound : (fieldsFrom (value depth) (next.next.rest.length + 1) []).Finds next.next fields
      ('\x7d' :: rest) :=
    finds_fieldsFrom hinner hfields (Nat.lt_succ_self _)
      (by rw [Cursor.rest_next, hnext, List.tail_cons])
  refine finds_advance_bind.2 (finds_stepsLeft_bind.2 (hfound.bind fun next hnext => ?_))
  exact finds_closing.2 ⟨rfl, objectEnd_eq_iff.2 ⟨[], isBlankText_nil, hnext⟩⟩

end Reader

/-- A text is parsed when it is read. -/
theorem parse_of_readsAs {t : List Char} {v : Json}
    (h : Reader.ReadsAs (Reader.value depthLimit) t v) : parse t = .ok v := by
  have hend : IsValueEnd [] := fun x hx => nomatch hx
  refine Reader.run_eq_ok_iff.2 ⟨[], h.finds isBlankText_nil hend ?_, isBlankText_nil⟩
  simp

end JsxTidy.Json
