import JsxTidy.Json.Decode
import JsxTidy.Proofs.Json.Skipped

/-!
# Reading strings, variants, and what may be null

A reader of a known shape understands the language of that shape. Strings and names of variants
are values without other ones in them, and a variant may also be written as an object. The main
results are `understands_string`, `understands_optional` and `understands_variant`.
-/

namespace JsxTidy.Json

/-- What may be `null` instead. -/
def NullOr {α : Type} (language : List Char → α → Prop) (t : List Char) : Option α → Prop
  | none => t = ['n', 'u', 'l', 'l']
  | some a => language t a

/-- The name of a variant. -/
def VariantName {α : Type} (variants : List (String × α)) (t : List Char) (a : α) : Prop :=
  ∃ name, variants.lookup name = some a ∧ StringText t name

/-- An object with the name of a variant and `null`. -/
def VariantObject {α : Type} (variants : List (String × α)) (t : List Char) (a : α) : Prop :=
  ∃ name, variants.lookup name = some a ∧ ObjectText StringText t [(name, ['n', 'u', 'l', 'l'])]

/-- The fields of an object, whatever their names say. -/
theorem ItemsText.exists_rawFields {isFirst : Bool} {t : List Char}
    {members : List (String × List Char)} (h : ItemsText (FieldText StringText) isFirst t members) :
    ∃ fields, ItemsText (FieldText fun t name => name = t ∧ RawString t) isFirst t fields ∧
      fields.map Prod.snd = members.map Prod.snd := by
  induction h with
  | done hgap => exact ⟨[], .done hgap, rfl⟩
  | @item _ _ _ _ member _ hlead hfield _ ih =>
      obtain ⟨fields, hfields, heq⟩ := ih
      obtain ⟨nameText, gap, front, rfl, hname, hgap, hfront⟩ := hfield
      exact ⟨(nameText, member.2) :: fields,
        .item hlead ⟨nameText, gap, front, rfl, ⟨rfl, hname.rawString⟩, hgap, hfront⟩ hfields,
        by simp [heq]⟩

/-- An object with values in its fields is a value. -/
theorem ObjectText.valueText {t : List Char} {members : List (String × List Char)}
    (h : ObjectText StringText t members) (hvalues : ∀ member ∈ members, ValueText member.2) :
    ValueText t := by
  obtain ⟨inner, rfl, hitems⟩ := h
  obtain ⟨fields, hfields, heq⟩ := hitems.exists_rawFields
  refine .object ⟨inner, rfl, hfields⟩ fun field hfield => ?_
  have hmem : field.2 ∈ members.map Prod.snd := heq ▸ List.mem_map_of_mem hfield
  obtain ⟨member, hmember, hsnd⟩ := List.mem_map.1 hmem
  exact hsnd ▸ hvalues member hmember

/-- No string begins like `null`. -/
theorem StringText.head?_ne {t : List Char} {s : String} (h : StringText t s) :
    t.head? ≠ some 'n' := by
  obtain ⟨text, rfl⟩ := h.rawString.exists_cons
  simp

namespace Reader

variable {α : Type} {bound : Nat} {c : Cursor} {a : α} {t gap rest : List Char} {name : String}

/-! ## Values that hold no other ones -/

/-- What a value that holds no other ones may be, and the text of a string and of `null`. -/
theorem scalar?_sound {v : Json} (h : scalar?.Finds c (some v) rest) :
    v = .null ∧ c.rest = ['n', 'u', 'l', 'l'] ++ rest ∨ (∃ b, v = .bool b) ∨
      (∃ n, v = .number n) ∨
        ∃ name t, v = .string name ∧ StringText t name ∧ c.rest = t ++ rest := by
  rw [scalar?, finds_peek_bind] at h
  cases htext : c.rest with
  | nil =>
      rw [htext] at h
      exact absurd (finds_pure.1 h).1 (by simp)
  | cons x text =>
      have hnext : c.next.rest = text := by rw [Cursor.rest_next, htext, List.tail_cons]
      simp only [htext, List.head?_cons] at h
      split_ifs at h with hn ht hf hminus hdigit hquote
      · obtain ⟨_, next, hword, h⟩ := exists_of_finds_bind (finds_advance_bind.1 h)
        obtain ⟨hv, rfl⟩ := finds_pure.1 h
        rw [finds_wordRest, hnext] at hword
        exact .inl ⟨(Option.some.inj hv).symm, by rw [hn, hword]; rfl⟩
      · obtain ⟨_, next, -, h⟩ := exists_of_finds_bind (finds_advance_bind.1 h)
        exact .inr (.inl ⟨true, (Option.some.inj (finds_pure.1 h).1).symm⟩)
      · obtain ⟨_, next, -, h⟩ := exists_of_finds_bind (finds_advance_bind.1 h)
        exact .inr (.inl ⟨false, (Option.some.inj (finds_pure.1 h).1).symm⟩)
      · obtain ⟨n, next, -, h⟩ := exists_of_finds_bind (finds_advance_bind.1 h)
        exact .inr (.inr (.inl ⟨n, (Option.some.inj (finds_pure.1 h).1).symm⟩))
      · obtain ⟨n, next, -, h⟩ := exists_of_finds_bind h
        exact .inr (.inr (.inl ⟨n, (Option.some.inj (finds_pure.1 h).1).symm⟩))
      · obtain ⟨name, next, hname, h⟩ := exists_of_finds_bind (finds_advance_bind.1 h)
        obtain ⟨hv, rfl⟩ := finds_pure.1 h
        obtain ⟨t, ht, hrest⟩ := finds_stringRest.1 hname
        exact .inr (.inr (.inr ⟨name, _, (Option.some.inj hv).symm, ht, by
          rw [hquote, ← hnext, hrest, List.cons_append]⟩))
      · exact absurd (finds_pure.1 h).1 (by simp)

theorem finds_scalar?_string :
    scalar?.Finds c (some (.string name)) rest ↔ ∃ t, StringText t name ∧ c.rest = t ++ rest := by
  constructor
  · intro h
    rcases scalar?_sound h with ⟨hv, -⟩ | ⟨b, hv⟩ | ⟨n, hv⟩ | ⟨_, t, hv, ht, htext⟩
    · cases hv
    · cases hv
    · cases hv
    · cases hv
      exact ⟨t, ht, htext⟩
  · rintro ⟨t, ht, htext⟩
    obtain ⟨t, rfl⟩ := ht.rawString.exists_cons
    rw [scalar?, finds_peek_bind, htext]
    have hnext : c.next.rest = t ++ rest := by
      rw [Cursor.rest_next, htext, List.cons_append, List.tail_cons]
    refine finds_advance_bind.2 ((finds_stringRest.2 ⟨t, ht, hnext⟩).bind fun next hnext => ?_)
    exact finds_pure.2 ⟨rfl, hnext⟩

theorem finds_scalar?_null :
    scalar?.Finds c (some .null) rest ↔ c.rest = ['n', 'u', 'l', 'l'] ++ rest := by
  constructor
  · intro h
    rcases scalar?_sound h with ⟨-, htext⟩ | ⟨b, hv⟩ | ⟨n, hv⟩ | ⟨_, t, hv, -, -⟩
    · exact htext
    · cases hv
    · cases hv
    · cases hv
  · intro htext
    rw [scalar?, finds_peek_bind, htext]
    have hword : (wordRest ['u', 'l', 'l']).Finds c.next () rest := by
      rw [finds_wordRest, Cursor.rest_next, htext]
      rfl
    exact finds_advance_bind.2 (hword.bind fun next hnext => finds_pure.2 ⟨rfl, hnext⟩)

theorem finds_scalarOf {expected : String} {accept : Json → Except Fault α} :
    (scalarOf expected accept).Finds c a rest ↔
      ∃ v, scalar?.Finds (c.dropWhile isBlank) (some v) rest ∧ accept v = .ok a := by
  rw [scalarOf, finds_peekItem_bind]
  constructor
  · intro h
    split at h
    · exact absurd h finds_failNext
    · obtain ⟨v?, next, hv, h⟩ := exists_of_finds_bind h
      split at h
      · split at h
        · rename_i haccept
          obtain ⟨rfl, rfl⟩ := finds_pure.1 h
          exact ⟨_, hv, haccept⟩
        · exact absurd h finds_failHere
      · split_ifs at h
        · exact absurd h finds_failHere
        · exact absurd h finds_failHere
        · exact absurd h finds_failNext
  · rintro ⟨v, hv, haccept⟩
    split
    · rename_i hnone
      rw [scalar?, finds_peek_bind, Cursor.rest_dropWhile, hnone] at hv
      exact absurd (finds_pure.1 hv).1 (by simp)
    · refine hv.bind fun next hnext => ?_
      simp only [haccept]
      exact finds_pure.2 ⟨rfl, hnext⟩

/-- A reader that accepts nothing but strings understands the texts of those that it accepts. -/
theorem understands_scalarOf {expected : String} {accept : Json → Except Fault α}
    {language : List Char → α → Prop} (haccept : ∀ v a, accept v = .ok a → ∃ s, v = .string s)
    (hlanguage : ∀ t a, language t a ↔ ∃ s, StringText t s ∧ accept (.string s) = .ok a) :
    Understands bound (scalarOf expected accept) language := by
  constructor
  · intro t a h
    obtain ⟨s, ht, -⟩ := (hlanguage t a).1 h
    exact .string ht.rawString
  · intro c a rest _ h
    obtain ⟨v, hv, ha⟩ := finds_scalarOf.1 h
    obtain ⟨s, rfl⟩ := haccept v a ha
    obtain ⟨t, ht, hdrop⟩ := finds_scalar?_string.1 hv
    obtain ⟨gap, hgap, htext⟩ := exists_blanks c.rest
    rw [Cursor.rest_dropWhile] at hdrop
    exact ⟨gap, t, hgap, (hlanguage t a).2 ⟨s, ht, ha⟩, by rw [htext, hdrop]⟩
  · intro c a gap t rest _ hgap h _ htext
    obtain ⟨s, ht, ha⟩ := (hlanguage t a).1 h
    refine finds_scalarOf.2 ⟨_, finds_scalar?_string.2 ⟨t, ht, ?_⟩, ha⟩
    obtain ⟨t, rfl⟩ := ht.rawString.exists_cons
    rw [Cursor.rest_dropWhile, htext]
    exact dropWhile_isBlank hgap (by simp [isBlank])

theorem understands_string : Understands bound string StringText := by
  refine understands_scalarOf (fun v a h => ?_) fun t a => ?_
  · cases v <;> simp at h ⊢
  · simp

theorem understands_variantName {variants : List (String × α)} :
    Understands bound (variantName variants) (VariantName variants) := by
  refine understands_scalarOf (fun v a h => ?_) fun t a => ?_
  · cases v <;> simp at h ⊢
  · constructor
    · rintro ⟨name, hname, ht⟩
      exact ⟨name, ht, by simp [hname]⟩
    · rintro ⟨name, ht, hname⟩
      dsimp only at hname
      split at hname
      · cases hname
        exact ⟨name, by assumption, ht⟩
      · cases hname

/-- A reader of anything that does not begin like `null` may be used where that stands instead. -/
theorem understands_optional {r : Reader α} {language : List Char → α → Prop}
    (hr : Understands bound r language) (hstart : ∀ t a, language t a → t.head? ≠ some 'n') :
    Understands bound (optional r) (NullOr language) := by
  constructor
  · rintro t (_ | a) h
    · exact .word (by simp [words, show t = _ from h])
    · exact hr.value h
  · intro c a? rest hc h
    rw [optional, finds_peekItem_bind] at h
    split at h
    · rename_i hn
      obtain ⟨gap, text, hgap, htext, hlast⟩ := exists_of_head?_dropWhile rfl hn
      obtain ⟨_, next, hword, h⟩ := exists_of_finds_bind (finds_advance_bind.1 h)
      obtain ⟨rfl, rfl⟩ := finds_pure.1 h
      rw [finds_wordRest, hlast] at hword
      exact ⟨gap, _, hgap, rfl, by rw [htext, hword]; rfl⟩
    · obtain ⟨a, next, ha, h⟩ := exists_of_finds_bind h
      obtain ⟨rfl, rfl⟩ := finds_pure.1 h
      exact hr.sound_of_dropWhile hc ha
  · rintro c (_ | a) gap t rest hc hgap h hrest htext
    · subst h
      have hnext := rest_next_dropWhile hgap rfl htext
      rw [optional, finds_peekItem_bind_of hgap rfl htext]
      have hword : (wordRest ['u', 'l', 'l']).Finds _ () rest := finds_wordRest.2 hnext
      refine finds_advance_bind.2 (hword.bind fun next hnext => ?_)
      exact finds_pure.2 ⟨rfl, hnext⟩
    · have ha := hr.complete_dropWhile hc hgap h hrest htext
      obtain ⟨x, text, rfl, hx, -⟩ := (hr.value h).exists_cons
      have hn : x ≠ 'n' := fun hn => hstart _ _ h (by rw [hn]; rfl)
      rw [optional, finds_peekItem_bind_of hgap hx htext]
      split
      · simp_all
      · exact ha.bind fun next hnext => finds_pure.2 ⟨rfl, hnext⟩

theorem understands_optional_string : Understands bound (optional string) (NullOr StringText) :=
  understands_optional understands_string fun _ _ h => h.head?_ne

/-- A reader that accepts nothing but `null`. -/
theorem finds_scalarOf_null {expected : String} {accept : Json → Except Fault Unit}
    (haccept : ∀ v, accept v = .ok () ↔ v = .null) : (scalarOf expected accept).Finds c () rest ↔
      ∃ gap, IsBlankText gap ∧ c.rest = gap ++ (['n', 'u', 'l', 'l'] ++ rest) := by
  simp only [finds_scalarOf, haccept, exists_eq_right, finds_scalar?_null, Cursor.rest_dropWhile]
  exact dropWhile_isBlank_eq_cons_iff rfl

/-- Behind an opening brace, a variant is an object. -/
theorem variant_sound_of_brace {variants : List (String × α)}
    (hopen : (c.rest.dropWhile isBlank).head? = some '\x7b')
    (h : (variant variants).Finds c a rest) :
    ∃ gap t, IsBlankText gap ∧ VariantObject variants t a ∧ c.rest = gap ++ (t ++ rest) := by
  rw [variant, finds_peekItem_bind, hopen] at h
  obtain ⟨gap, text, hgap, htext, hlast⟩ := exists_of_head?_dropWhile rfl hopen
  obtain ⟨b, next, hb, h⟩ := exists_of_finds_bind (finds_advance_bind.1 h)
  obtain ⟨_, next', hcolon, h⟩ := exists_of_finds_bind h
  obtain ⟨_, last, hnull, h⟩ := exists_of_finds_bind h
  obtain ⟨lead, t, hlead, ⟨name, hname, ht⟩, hnext⟩ :=
    understands_variantName.sound (Nat.lt_succ_self _) hb
  obtain ⟨front, hfront, hnext'⟩ := finds_colon.1 hcolon
  obtain ⟨back, hback, hlast'⟩ := (finds_scalarOf_null fun v => by cases v <;> simp).1 hnull
  rw [finds_peekItem_bind] at h
  split at h
  · rename_i hclose
    obtain ⟨behind, end', hbehind, hrest, hend⟩ := exists_of_head?_dropWhile rfl hclose
    rw [finds_advance_bind, finds_pure, hend] at h
    obtain ⟨rfl, rfl⟩ := h
    have hfield : FieldText StringText (t ++ (front ++ ':' :: (back ++ ['n', 'u', 'l', 'l'])))
        (name, ['n', 'u', 'l', 'l']) := ⟨t, front, back, rfl, ht, hfront, hback⟩
    refine ⟨gap, _, hgap, ⟨name, hname, _, rfl, .item hlead hfield (.done hbehind)⟩, ?_⟩
    rw [htext, ← hlast, hnext, hnext', hlast', hrest]
    simp
  · exact absurd h finds_failHere
  · exact absurd h finds_failHere

/-- A variant is read from an object. -/
theorem finds_variant_of_object {variants : List (String × α)} (hgap : IsBlankText gap)
    (ht : VariantObject variants t a) (htext : c.rest = gap ++ (t ++ rest)) :
    (variant variants).Finds c a rest := by
  obtain ⟨name, hname, inner, rfl, hitems⟩ := ht
  cases hitems with
  | @item _ lead _ _ _ _ hlead hfield hmore =>
      obtain ⟨t, front, back, rfl, ht, hfront, hback⟩ := hfield
      cases hmore with
      | done hbehind =>
          rename_i behind
          simp only [List.append_assoc, List.cons_append] at htext
          have hnext := rest_next_dropWhile hgap rfl htext
          have hend : IsValueEnd (front ++ ':' :: (back ++ 'n' :: 'u' :: 'l' :: 'l' ::
              (behind ++ '\x7d' :: rest))) :=
            hfront.isValueEnd (isValueEnd_cons_iff.2 (by simp))
          rw [variant, finds_peekItem_bind_of hgap rfl htext]
          have hvariant := understands_variantName.complete (Nat.lt_succ_self _) hlead
            ⟨name, hname, ht⟩ hend hnext
          refine finds_advance_bind.2 (hvariant.bind fun next hnext => ?_)
          have hcolon := (finds_colon (u := ())).2 ⟨front, hfront, hnext⟩
          refine hcolon.bind fun next hnext => ?_
          refine Finds.bind ((finds_scalarOf_null fun v => by cases v <;> simp).2
            ⟨back, hback, hnext⟩) fun next hnext => ?_
          refine (finds_peekItem_bind_of hbehind rfl hnext).2 (finds_advance_bind.2 ?_)
          exact finds_pure.2 ⟨rfl, rest_next_dropWhile hbehind rfl hnext⟩

/-- A variant is its name, or an object around it. -/
theorem understands_variant {variants : List (String × α)} :
    Understands bound (variant variants) fun t a =>
      VariantName variants t a ∨ VariantObject variants t a := by
  constructor
  · rintro t a (⟨name, -, ht⟩ | ⟨name, -, ht⟩)
    · exact .string ht.rawString
    · exact ht.valueText (by simpa using .word (by simp [words]))
  · intro c a rest hc h
    have hvariant := h
    rw [variant, finds_peekItem_bind] at h
    split at h
    · exact absurd h finds_failNext
    · obtain ⟨gap, t, hgap, ht, htext⟩ := understands_variantName.sound_of_dropWhile hc h
      exact ⟨gap, t, hgap, .inl ht, htext⟩
    · rename_i hopen
      obtain ⟨gap, t, hgap, ht, htext⟩ := variant_sound_of_brace hopen hvariant
      exact ⟨gap, t, hgap, .inr ht, htext⟩
    · exact absurd h finds_failNext
  · rintro c a gap t rest hc hgap (ht | ht) hrest htext
    · have hfinds := understands_variantName.complete_dropWhile hc hgap ht hrest htext
      obtain ⟨name, -, ht⟩ := ht
      obtain ⟨text, rfl⟩ := ht.rawString.exists_cons
      rwa [variant, finds_peekItem_bind_of hgap rfl htext]
    · exact finds_variant_of_object hgap ht htext

end Reader

end JsxTidy.Json
