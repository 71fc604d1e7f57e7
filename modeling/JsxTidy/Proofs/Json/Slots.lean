import JsxTidy.Proofs.Json.Records
import Mathlib.Logic.Equiv.Defs

/-!
# Records of three fields

A record that is being read has a slot for each of its fields, which is filled when the field is
read. What such a record says is then what is given for each field on its own: in an object under
its name, and in a list at its place. The main result is `Slots.understands_record`.
-/

namespace JsxTidy.Json

/-- A field with a slot of its own, and what it may be. -/
structure Slot (α : Type) where
  name : String
  /-- Whether a list may end before the field. -/
  mayLack : Bool
  read : Reader α
  language : List Char → α → Prop
  understands (bound : Nat) : Reader.Understands bound read language

/-- Three fields of a record, and where their slots are. -/
structure Slots (σ α β γ : Type) where
  slots : σ ≃ Option α × Option β × Option γ
  first : Slot α
  second : Slot β
  third : Slot γ
  first_ne_second : first.name ≠ second.name
  first_ne_third : first.name ≠ third.name
  second_ne_third : second.name ≠ third.name

namespace Slots

variable {σ α β γ : Type} (r : Slots σ α β γ)

/-- The fields as they are read. -/
def fields : List (Reader.Field σ) :=
  [ ⟨r.first.name, fun s => (r.slots s).1.isSome, r.first.mayLack,
      fun s => do return r.slots.symm (some (← r.first.read), (r.slots s).2)⟩,
    ⟨r.second.name, fun s => (r.slots s).2.1.isSome, r.second.mayLack,
      fun s => do return r.slots.symm ((r.slots s).1, some (← r.second.read), (r.slots s).2.2)⟩,
    ⟨r.third.name, fun s => (r.slots s).2.2.isSome, r.third.mayLack,
      fun s => do return r.slots.symm ((r.slots s).1, (r.slots s).2.1, some (← r.third.read))⟩ ]

/-- The record before any field is read. -/
def start : σ :=
  r.slots.symm (none, none, none)

/-- What the text of a field makes of a record: it fills the slot of the field. -/
def meaning (field : Reader.Field σ) (s : σ) (t : List Char) (s' : σ) : Prop :=
  if field.name = r.first.name then
    ∃ a, r.first.language t a ∧ r.slots.symm (some a, (r.slots s).2) = s'
  else if field.name = r.second.name then
    ∃ b, r.second.language t b ∧ r.slots.symm ((r.slots s).1, some b, (r.slots s).2.2) = s'
  else ∃ c, r.third.language t c ∧ r.slots.symm ((r.slots s).1, (r.slots s).2.1, some c) = s'

/-- An object that gives each field at most once, whatever else it has. -/
def ObjectOf (t : List Char) (s : σ) : Prop :=
  ∃ members, ObjectText StringText t members ∧ (∀ member ∈ members, ValueText member.2) ∧
    Given r.first.language r.first.name members (r.slots s).1 ∧
    Given r.second.language r.second.name members (r.slots s).2.1 ∧
    Given r.third.language r.third.name members (r.slots s).2.2

/-- A list that gives the fields in order, up to one from which on all may lack. -/
def ListOf (t : List Char) (s : σ) : Prop :=
  ∃ items, ArrayText t items ∧ items.length ≤ 3 ∧
    (∀ field ∈ r.fields.drop items.length, field.mayLack) ∧
    Option.Rel r.first.language items[0]? (r.slots s).1 ∧
    Option.Rel r.second.language items[1]? (r.slots s).2.1 ∧
    Option.Rel r.third.language items[2]? (r.slots s).2.2

variable {r} {s s' : σ} {member : String × List Char} {members : List (String × List Char)}

theorem meaning_first {field : Reader.Field σ} {t : List Char} (h : field.name = r.first.name) :
    r.meaning field s t s' ↔
      ∃ a, r.first.language t a ∧ r.slots.symm (some a, (r.slots s).2) = s' := by
  rw [meaning, if_pos h]

theorem meaning_second {field : Reader.Field σ} {t : List Char} (h : field.name = r.second.name) :
    r.meaning field s t s' ↔
      ∃ b, r.second.language t b ∧ r.slots.symm ((r.slots s).1, some b, (r.slots s).2.2) = s' := by
  rw [meaning, if_neg (h ▸ r.first_ne_second.symm), if_pos h]

theorem meaning_third {field : Reader.Field σ} {t : List Char} (h : field.name = r.third.name) :
    r.meaning field s t s' ↔
      ∃ c, r.third.language t c ∧ r.slots.symm ((r.slots s).1, (r.slots s).2.1, some c) = s' := by
  rw [meaning, if_neg (h ▸ r.first_ne_third.symm), if_neg (h ▸ r.second_ne_third.symm)]

theorem understands_fields (bound : Nat) : ∀ field ∈ r.fields, ∀ s,
    Reader.Understands bound (field.read s) (r.meaning field s) := by
  intro field hfield s
  simp only [fields, List.mem_cons, List.not_mem_nil, or_false] at hfield
  rcases hfield with rfl | rfl | rfl
  · exact ((r.first.understands bound).map _).congr fun _ _ => meaning_first rfl
  · exact ((r.second.understands bound).map _).congr fun _ _ => meaning_second rfl
  · exact ((r.third.understands bound).map _).congr fun _ _ => meaning_third rfl

/-! ## Objects -/

/-- A field is read if its slot is empty, and what is not a field is ignored. -/
theorem memberStep_iff : MemberStep r.fields r.meaning s member s' ↔
    if member.1 = r.first.name then (r.slots s).1 = none ∧
      ∃ a, r.first.language member.2 a ∧ r.slots.symm (some a, (r.slots s).2) = s'
    else if member.1 = r.second.name then (r.slots s).2.1 = none ∧
      ∃ b, r.second.language member.2 b ∧
        r.slots.symm ((r.slots s).1, some b, (r.slots s).2.2) = s'
    else if member.1 = r.third.name then (r.slots s).2.2 = none ∧
      ∃ c, r.third.language member.2 c ∧
        r.slots.symm ((r.slots s).1, (r.slots s).2.1, some c) = s'
    else ValueText member.2 ∧ s = s' := by
  obtain ⟨name, t⟩ := member
  have hsecond := r.first_ne_second
  have hthird := r.first_ne_third
  have hlast := r.second_ne_third
  constructor
  · intro h
    cases h with
    | field hfind hset ht =>
        -- The first field with the name is found, and its name is that of one slot.
        have hname := List.find?_some hfind
        have hmem := List.mem_of_find?_eq_some hfind
        simp only [fields, List.mem_cons, List.not_mem_nil, or_false] at hmem
        rcases hmem with rfl | rfl | rfl
        · obtain rfl : r.first.name = name := by simpa using hname
          rw [if_pos rfl]
          exact ⟨by simpa using hset, (meaning_first rfl).1 ht⟩
        · obtain rfl : r.second.name = name := by simpa using hname
          rw [if_neg hsecond.symm, if_pos rfl]
          exact ⟨by simpa using hset, (meaning_second rfl).1 ht⟩
        · obtain rfl : r.third.name = name := by simpa using hname
          rw [if_neg hthird.symm, if_neg hlast.symm, if_pos rfl]
          exact ⟨by simpa using hset, (meaning_third rfl).1 ht⟩
    | other hfind ht =>
        have hother : r.first.name ≠ name ∧ r.second.name ≠ name ∧ r.third.name ≠ name := by
          simpa [fields] using hfind
        rw [if_neg hother.1.symm, if_neg hother.2.1.symm, if_neg hother.2.2.symm]
        exact ⟨ht, rfl⟩
  · intro h
    split_ifs at h with hname hname' hname''
    · obtain rfl : name = r.first.name := hname
      exact .field (by simp [fields]; rfl) (by simp [h.1]) ((meaning_first rfl).2 h.2)
    · obtain rfl : name = r.second.name := hname'
      exact .field (by simp [fields, hsecond]; rfl) (by simp [h.1]) ((meaning_second rfl).2 h.2)
    · obtain rfl : name = r.third.name := hname''
      exact .field (by simp [fields, hthird, hlast]; rfl) (by simp [h.1])
        ((meaning_third rfl).2 h.2)
    · obtain ⟨ht, rfl⟩ := h
      have hother : r.first.name ≠ name ∧ r.second.name ≠ name ∧ r.third.name ≠ name :=
        ⟨Ne.symm hname, Ne.symm hname', Ne.symm hname''⟩
      exact .other (by simpa [fields] using hother) ht

/-- What the fields of an object make of a record is what they give for its three names. -/
theorem memberRun_iff : MemberRun r.fields r.meaning s members s' ↔
    Known r.first.language r.first.name (r.slots s).1 members (r.slots s').1 ∧
      Known r.second.language r.second.name (r.slots s).2.1 members (r.slots s').2.1 ∧
      Known r.third.language r.third.name (r.slots s).2.2 members (r.slots s').2.2 ∧
      ∀ member ∈ members, ValueText member.2 := by
  -- Every field fills a slot, so the record in front of it is not fixed.
  induction members generalizing s with
  | nil =>
      rw [memberRun_nil_iff, known_nil, known_nil, known_nil, eq_comm, ← r.slots.apply_eq_iff_eq,
        Prod.ext_iff, Prod.ext_iff]
      simp
  | cons member members ih =>
      obtain ⟨name, t⟩ := member
      have hsecond := r.first_ne_second
      have hthird := r.first_ne_third
      have hlast := r.second_ne_third
      simp only [memberRun_cons_iff, memberStep_iff, ih, List.forall_mem_cons]
      split_ifs with hname hname' hname''
      · obtain rfl : name = r.first.name := hname
        rw [known_cons_self, known_cons_of_ne hsecond.symm, known_cons_of_ne hthird.symm]
        constructor
        · rintro ⟨_, ⟨hempty, a, ht, rfl⟩, hgiven, hgiven', hgiven'', hvalues⟩
          rw [r.slots.apply_symm_apply] at hgiven hgiven' hgiven''
          have hvalue := (r.first.understands 0).value ht
          exact ⟨⟨hempty, a, ht, hgiven⟩, hgiven', hgiven'', hvalue, hvalues⟩
        · rintro ⟨⟨hempty, a, ht, hgiven⟩, hgiven', hgiven'', -, hvalues⟩
          refine ⟨_, ⟨hempty, a, ht, rfl⟩, ?_⟩
          rw [r.slots.apply_symm_apply]
          exact ⟨hgiven, hgiven', hgiven'', hvalues⟩
      · obtain rfl : name = r.second.name := hname'
        rw [known_cons_of_ne hsecond, known_cons_self, known_cons_of_ne hlast.symm]
        constructor
        · rintro ⟨_, ⟨hempty, b, ht, rfl⟩, hgiven, hgiven', hgiven'', hvalues⟩
          rw [r.slots.apply_symm_apply] at hgiven hgiven' hgiven''
          have hvalue := (r.second.understands 0).value ht
          exact ⟨hgiven, ⟨hempty, b, ht, hgiven'⟩, hgiven'', hvalue, hvalues⟩
        · rintro ⟨hgiven, ⟨hempty, b, ht, hgiven'⟩, hgiven'', -, hvalues⟩
          refine ⟨_, ⟨hempty, b, ht, rfl⟩, ?_⟩
          rw [r.slots.apply_symm_apply]
          exact ⟨hgiven, hgiven', hgiven'', hvalues⟩
      · obtain rfl : name = r.third.name := hname''
        rw [known_cons_of_ne hthird, known_cons_of_ne hlast, known_cons_self]
        constructor
        · rintro ⟨_, ⟨hempty, c, ht, rfl⟩, hgiven, hgiven', hgiven'', hvalues⟩
          rw [r.slots.apply_symm_apply] at hgiven hgiven' hgiven''
          have hvalue := (r.third.understands 0).value ht
          exact ⟨hgiven, hgiven', ⟨hempty, c, ht, hgiven''⟩, hvalue, hvalues⟩
        · rintro ⟨hgiven, hgiven', ⟨hempty, c, ht, hgiven''⟩, -, hvalues⟩
          refine ⟨_, ⟨hempty, c, ht, rfl⟩, ?_⟩
          rw [r.slots.apply_symm_apply]
          exact ⟨hgiven, hgiven', hgiven'', hvalues⟩
      · rw [known_cons_of_ne (Ne.symm hname), known_cons_of_ne (Ne.symm hname'),
          known_cons_of_ne (Ne.symm hname'')]
        constructor
        · rintro ⟨_, ⟨hvalue, rfl⟩, hgiven, hgiven', hgiven'', hvalues⟩
          exact ⟨hgiven, hgiven', hgiven'', hvalue, hvalues⟩
        · rintro ⟨hgiven, hgiven', hgiven'', hvalue, hvalues⟩
          exact ⟨_, ⟨hvalue, rfl⟩, hgiven, hgiven', hgiven'', hvalues⟩

/-! ## Lists -/

/-- What the items of a list make of a record is what they give in order. -/
theorem itemRun_iff {items : List (List Char)} : ItemRun r.meaning r.fields r.start items s ↔
    items.length ≤ 3 ∧ (∀ field ∈ r.fields.drop items.length, field.mayLack) ∧
      Option.Rel r.first.language items[0]? (r.slots s).1 ∧
      Option.Rel r.second.language items[1]? (r.slots s).2.1 ∧
      Option.Rel r.third.language items[2]? (r.slots s).2.2 := by
  obtain ⟨⟨a?, b?, c?⟩, rfl⟩ := r.slots.symm.surjective s
  have hslots (s s' : Option α × Option β × Option γ) :
      r.slots.symm s = r.slots.symm s' ↔ s.1 = s'.1 ∧ s.2.1 = s'.2.1 ∧ s.2.2 = s'.2.2 := by
    rw [r.slots.symm.apply_eq_iff_eq, Prod.ext_iff, Prod.ext_iff]
  -- Every item fills the next slot, and the slots that are left stay empty.
  rcases items with _ | ⟨one, _ | ⟨two, _ | ⟨three, _ | ⟨four, items⟩⟩⟩⟩
  · rw [itemRun_nil_iff, start, hslots]
    cases a? <;> cases b? <;> cases c? <;> simp
  · simp only [fields, start, itemRun_cons_iff, itemRun_nil_iff, meaning_first]
    cases a? <;> cases b? <;> cases c? <;> simp [hslots]
    exact and_comm
  · simp only [fields, start, itemRun_cons_iff, itemRun_nil_iff, meaning_first, meaning_second]
    cases a? <;> cases b? <;> cases c? <;> simp [hslots]
    exact ⟨fun ⟨hone, htwo, hlack⟩ => ⟨hlack, hone, htwo⟩,
      fun ⟨hlack, hone, htwo⟩ => ⟨hone, htwo, hlack⟩⟩
  · simp only [fields, start, itemRun_cons_iff, itemRun_nil_iff, meaning_first, meaning_second,
      meaning_third]
    cases a? <;> cases b? <;> cases c? <;> simp [hslots]
  · simp only [fields, itemRun_cons_iff, not_itemRun_nil]
    simp

/-- If the last field may not lack, a list gives all three. -/
theorem listOf_iff_of_required {t : List Char} (h : r.third.mayLack = false) :
    r.ListOf t s ↔ ∃ one two three a b c, ArrayText t [one, two, three] ∧
      r.first.language one a ∧ r.second.language two b ∧ r.third.language three c ∧
      r.slots s = (some a, some b, some c) := by
  constructor
  · rintro ⟨items, ht, hlength, hlack, hfirst, hsecond, hthird⟩
    rcases items with _ | ⟨one, _ | ⟨two, _ | ⟨three, _ | ⟨four, items⟩⟩⟩⟩
    · simp [fields, h] at hlack
    · simp [fields, h] at hlack
    · simp [fields, h] at hlack
    · rcases hs : r.slots s with ⟨a?, b?, c?⟩
      rw [hs] at hfirst hsecond hthird
      cases hfirst with
      | some hone =>
          cases hsecond with
          | some htwo =>
              cases hthird with
              | some hthree => exact ⟨one, two, three, _, _, _, ht, hone, htwo, hthree, rfl⟩
    · exact absurd hlength (by simp)
  · rintro ⟨one, two, three, a, b, c, ht, hone, htwo, hthree, hs⟩
    refine ⟨_, ht, Nat.le_refl 3, by simp [fields], ?_, ?_, ?_⟩
    · rw [hs]
      exact .some hone
    · rw [hs]
      exact .some htwo
    · rw [hs]
      exact .some hthree

/-! ## Records -/

/-- A record of three fields is read from an object or a list that gives them. -/
theorem understands_record {ρ : Type} {title : String} {complete : σ → Except Fault ρ}
    (bound : Nat) : Reader.Understands bound (Reader.record title r.fields r.start complete)
      fun t a => ∃ s, complete s = .ok a ∧ (r.ObjectOf t s ∨ r.ListOf t s) := by
  refine (Reader.understands_record (understands_fields bound)).congr fun t a => ?_
  have hempty : r.slots r.start = (none, none, none) := r.slots.apply_symm_apply _
  simp only [RecordText, memberRun_iff, itemRun_iff, hempty, Known, ObjectOf, ListOf]
  constructor
  · rintro ⟨s, hs, ⟨members, ht, hvalues, hfirst, hsecond, hthird⟩ | hlist⟩
    · exact ⟨s, hs, .inl ⟨members, ht, hfirst, hsecond, hthird, hvalues⟩⟩
    · exact ⟨s, hs, .inr hlist⟩
  · rintro ⟨s, hs, ⟨members, ht, hfirst, hsecond, hthird, hvalues⟩ | hlist⟩
    · exact ⟨s, hs, .inl ⟨members, ht, hvalues, hfirst, hsecond, hthird⟩⟩
    · exact ⟨s, hs, .inr hlist⟩

end Slots

end JsxTidy.Json
