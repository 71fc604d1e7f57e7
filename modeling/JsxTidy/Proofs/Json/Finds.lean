import JsxTidy.Proofs.Json.Grammar
import Mathlib.Data.List.TakeWhile

/-!
# What readers find

`Finds` says what a reader finds at a place and which text it leaves there. A problem is no find,
and offsets do not matter. A reader `Understands` a language of values when it finds every text of
the language, with blanks before it, and nothing else.
-/

namespace JsxTidy

open Json

/-- Behind a run of characters stands what is left without it. -/
@[simp] theorem Cursor.rest_dropWhile (keep : Char → Bool) (cursor : Cursor) :
    (cursor.dropWhile keep).rest = cursor.rest.dropWhile keep := by
  obtain ⟨offset, text⟩ := cursor
  rw [Cursor.dropWhile]
  induction text generalizing offset with
  | nil => rfl
  | cons c text ih =>
      rw [Cursor.dropWhileFrom, List.dropWhile_cons]
      split
      · exact ih _
      · rfl

/-- Behind one character stands the rest. -/
@[simp] theorem Cursor.rest_next (cursor : Cursor) : cursor.next.rest = cursor.rest.tail := by
  obtain ⟨offset, text⟩ := cursor
  cases text <;> rfl

namespace Json

namespace Reader

variable {α β : Type} {r : Reader α} {f : α → Reader β} {c : Cursor} {a a' : α} {b : β} {x : Char}
  {text gap rest : List Char}

/-- Whether a reader finds something at a place and leaves a given text. -/
def Finds (r : Reader α) (c : Cursor) (a : α) (rest : List Char) : Prop :=
  ∃ offset, r c = .ok (a, ⟨offset, rest⟩)

/-! ## Steps -/

/-- Two readers find something when the second one does behind the first one. -/
theorem finds_bind :
    (r >>= f).Finds c b rest ↔ ∃ a next, r c = .ok (a, next) ∧ (f a).Finds next b rest := by
  have hrun : (r >>= f) c = r c >>= fun found => f found.1 found.2 := rfl
  rw [Finds, hrun]
  cases r c with
  | error problem => simp [bind, Except.bind]
  | ok found =>
      obtain ⟨a, next⟩ := found
      simp [bind, Except.bind, Finds]

/-- The place between them is one at which the first reader stops. -/
theorem exists_of_finds_bind (h : (r >>= f).Finds c b rest) :
    ∃ a next, r.Finds c a next.rest ∧ (f a).Finds next b rest := by
  obtain ⟨a, next, hr, hf⟩ := finds_bind.1 h
  exact ⟨a, next, ⟨next.offset, hr⟩, hf⟩

/-- Two steps, the second one wherever the first one leaves its text. -/
theorem Finds.bind {mid : List Char} (hr : r.Finds c a mid)
    (hf : ∀ next : Cursor, next.rest = mid → (f a).Finds next b rest) :
    (r >>= f).Finds c b rest := by
  obtain ⟨offset, hr⟩ := hr
  exact finds_bind.2 ⟨a, _, hr, hf _ rfl⟩

/-- What reads nothing leaves the text as it is. -/
@[simp] theorem finds_pure : (pure a : Reader α).Finds c a' rest ↔ a = a' ∧ c.rest = rest := by
  obtain ⟨offset, text⟩ := c
  constructor
  · rintro ⟨_, h⟩
    cases h
    exact ⟨rfl, rfl⟩
  · rintro ⟨rfl, rfl⟩
    exact ⟨offset, rfl⟩

/-- Making something else of what is found. -/
theorem finds_map {g : α → β} : (r >>= fun a => pure (g a)).Finds c b rest ↔
    ∃ a, r.Finds c a rest ∧ g a = b := by
  constructor
  · intro h
    obtain ⟨a, next, hr, hpure⟩ := exists_of_finds_bind h
    obtain ⟨hb, rfl⟩ := finds_pure.1 hpure
    exact ⟨a, hr, hb⟩
  · rintro ⟨a, hr, hb⟩
    exact hr.bind fun next hnext => finds_pure.2 ⟨hb, hnext⟩

/-- A fault at the next character finds nothing. -/
@[simp] theorem finds_failNext {fault : Fault} : ¬ (failNext fault : Reader α).Finds c a rest :=
  fun ⟨_, h⟩ => nomatch h

/-- Nor does one at the current character. -/
@[simp] theorem finds_failHere {fault : Fault} : ¬ (failHere fault : Reader α).Finds c a rest :=
  fun ⟨_, h⟩ => nomatch h

/-- One character is passed. -/
@[simp] theorem finds_advance {u : Unit} : advance.Finds c u rest ↔ c.next.rest = rest := by
  constructor
  · rintro ⟨_, h⟩
    have hnext : c.next = ⟨_, rest⟩ := congrArg Prod.snd (Except.ok.inj h)
    rw [hnext]
  · rintro rfl
    exact ⟨c.next.offset, rfl⟩

/-- A look at the next character passes nothing. -/
theorem finds_peek_bind {f : Option Char → Reader β} :
    (peek? >>= f).Finds c b rest ↔ (f c.rest.head?).Finds c b rest := Iff.rfl

/-- A look at the next item passes the blanks in front of it. -/
theorem finds_peekItem_bind {f : Option Char → Reader β} :
    (peekItem? >>= f).Finds c b rest ↔
      (f (c.rest.dropWhile isBlank).head?).Finds (c.dropWhile isBlank) b rest := by
  rw [← Cursor.rest_dropWhile]
  exact Iff.rfl

/-- What follows is read behind one character. -/
theorem finds_advance_bind {f : Unit → Reader β} :
    (advance >>= f).Finds c b rest ↔ (f ()).Finds c.next b rest := Iff.rfl

/-- The number of steps is one more than that of the characters left. -/
theorem finds_stepsLeft_bind {f : Nat → Reader β} :
    (stepsLeft >>= f).Finds c b rest ↔ (f (c.rest.length + 1)).Finds c b rest := Iff.rfl

/-- A look at the cursor passes nothing. -/
theorem finds_get_bind {f : Cursor → Reader β} :
    (get >>= f).Finds c b rest ↔ (f c).Finds c b rest := Iff.rfl

/-! ## Blanks and marks -/

/-- Blanks in front of a text that begins with none are all that is dropped. -/
theorem dropWhile_isBlank (h : IsBlankText gap) (htext : ∀ x ∈ text.head?, isBlank x = false) :
    (gap ++ text).dropWhile isBlank = text := by
  rw [List.dropWhile_append_of_pos h]
  cases text with
  | nil => rfl
  | cons x text => rw [List.dropWhile_cons_of_neg (by simpa using htext x rfl)]

/-- What is dropped is blank. -/
theorem isBlankText_takeWhile (text : List Char) : IsBlankText (text.takeWhile isBlank) :=
  fun _ hx => List.mem_takeWhile_imp hx

/-- A character comes first behind the blanks exactly when nothing but blanks stands in front of
it. -/
theorem dropWhile_isBlank_eq_cons_iff (hx : isBlank x = false) :
    text.dropWhile isBlank = x :: rest ↔ ∃ gap, IsBlankText gap ∧ text = gap ++ x :: rest := by
  constructor
  · intro h
    refine ⟨text.takeWhile isBlank, isBlankText_takeWhile text, ?_⟩
    rw [← h, List.takeWhile_append_dropWhile]
  · rintro ⟨gap, hgap, rfl⟩
    exact dropWhile_isBlank hgap (by simpa using hx)

/-- Blanks and what stands behind them. -/
theorem exists_blanks (text : List Char) :
    ∃ gap, IsBlankText gap ∧ text = gap ++ text.dropWhile isBlank :=
  ⟨_, isBlankText_takeWhile text, List.takeWhile_append_dropWhile.symm⟩

/-- What comes first behind the blanks is no blank. -/
theorem not_isBlank_of_head? (h : (text.dropWhile isBlank).head? = some x) :
    isBlank x = false := by
  have hhead := List.head?_dropWhile_not isBlank text
  rw [h] at hhead
  simpa using hhead

/-- Without blanks, a text is not longer. -/
theorem length_dropWhile_le (c : Cursor) :
    (c.dropWhile isBlank).rest.length ≤ c.rest.length := by
  rw [Cursor.rest_dropWhile]
  exact List.length_dropWhile_le isBlank c.rest

/-- A character that is next behind blanks. -/
theorem exists_of_head?_dropWhile (hx : isBlank x = false)
    (h : (c.rest.dropWhile isBlank).head? = some x) :
    ∃ gap text, IsBlankText gap ∧ c.rest = gap ++ x :: text ∧
      (c.dropWhile isBlank).next.rest = text := by
  obtain ⟨text, htext⟩ := List.head?_eq_some_iff.1 h
  obtain ⟨gap, hgap, hc⟩ := (dropWhile_isBlank_eq_cons_iff hx).1 htext
  exact ⟨gap, text, hgap, hc, by rw [Cursor.rest_next, Cursor.rest_dropWhile, htext]; rfl⟩

/-- Nothing is left behind the blanks of a blank text alone. -/
theorem dropWhile_isBlank_eq_nil_iff : text.dropWhile isBlank = [] ↔ IsBlankText text := by
  rw [List.dropWhile_eq_nil_iff, IsBlankText]

/-- Looking at a character that is next behind blanks. -/
theorem finds_peekItem_bind_of {f : Option Char → Reader β} (hgap : IsBlankText gap)
    (hx : isBlank x = false) (hc : c.rest = gap ++ x :: text) :
    (peekItem? >>= f).Finds c b rest ↔ (f (some x)).Finds (c.dropWhile isBlank) b rest := by
  rw [finds_peekItem_bind, hc, dropWhile_isBlank hgap (by simpa using hx), List.head?_cons]

/-- Behind blanks and one more character stands the rest of the text. -/
theorem rest_next_dropWhile (hgap : IsBlankText gap) (hx : isBlank x = false)
    (hc : c.rest = gap ++ x :: text) : (c.dropWhile isBlank).next.rest = text := by
  rw [Cursor.rest_next, Cursor.rest_dropWhile, hc, dropWhile_isBlank hgap (by simpa using hx),
    List.tail_cons]

/-- That rest is shorter, so that a reader of lists comes to an end. -/
theorem length_next_dropWhile_lt (hgap : IsBlankText gap) (hx : isBlank x = false)
    (hc : c.rest = gap ++ x :: text) :
    (c.dropWhile isBlank).next.rest.length < c.rest.length := by
  rw [rest_next_dropWhile hgap hx hc, hc]
  simp only [List.length_append, List.length_cons]
  omega

/-- The rest of a word is passed if it stands there. -/
theorem finds_wordRest {word : List Char} {u : Unit} :
    (wordRest word).Finds c u rest ↔ c.rest = word ++ rest := by
  induction word generalizing c with
  | nil => simp [wordRest]
  | cons expected word ih =>
      rw [wordRest, finds_peek_bind]
      cases htext : c.rest with
      | nil => simp
      | cons x text =>
          simp only [List.head?_cons]
          split
          · rename_i hx
            rw [finds_advance_bind, ih, Cursor.rest_next, htext, hx]
            simp
          · rename_i hx
            simp [hx]

/-- A colon may stand behind blanks. -/
theorem finds_colon {u : Unit} :
    colon.Finds c u rest ↔ ∃ gap, IsBlankText gap ∧ c.rest = gap ++ ':' :: rest := by
  rw [← dropWhile_isBlank_eq_cons_iff rfl, colon, finds_peekItem_bind]
  cases htext : c.rest.dropWhile isBlank with
  | nil => simp
  | cons x text =>
      simp only [List.head?_cons]
      split
      · simp_all
      · simp_all
      · simp_all

/-- Where an item may stand in a list: it does not begin like the end of one. -/
def IsItemStart (rest : List Char) : Prop :=
  ∃ x ∈ rest.head?, isBlank x = false ∧ x ≠ ']'

/-- A list goes on with an item behind its lead, or ends in front of its bracket. -/
theorem listGoesOn_sound {isFirst goesOn : Bool} (h : (listGoesOn isFirst).Finds c goesOn rest) :
    if goesOn then (∃ lead, IsLead isFirst lead ∧ c.rest = lead ++ rest) ∧ IsItemStart rest
    else (∃ gap, IsBlankText gap ∧ c.rest = gap ++ rest) ∧ rest.head? = some ']' := by
  obtain ⟨gap, hgap, htext⟩ := exists_blanks c.rest
  rw [listGoesOn, finds_peekItem_bind] at h
  split at h
  · exact absurd h finds_failNext
  · rename_i hclose
    rw [finds_pure, Cursor.rest_dropWhile] at h
    obtain ⟨rfl, rfl⟩ := h
    exact ⟨⟨gap, hgap, htext⟩, hclose⟩
  · rename_i x hclose hx
    split at h
    · rename_i hfirst
      rw [finds_pure, Cursor.rest_dropWhile] at h
      obtain ⟨rfl, rfl⟩ := h
      subst hfirst
      exact ⟨⟨gap, hgap, htext⟩, x, hx, not_isBlank_of_head? hx, hclose⟩
    · rename_i hfirst
      split at h
      · subst x
        obtain ⟨front, text, hfront, htext, hlast⟩ := exists_of_head?_dropWhile rfl hx
        obtain ⟨back, hback, hrest⟩ := exists_blanks text
        rw [finds_advance_bind, finds_peekItem_bind, hlast] at h
        split at h
        · exact absurd h finds_failNext
        · rename_i y hclose hy
          rw [finds_pure, Cursor.rest_dropWhile, hlast] at h
          obtain ⟨rfl, rfl⟩ := h
          have hlead : IsLead isFirst (front ++ ',' :: back) := by
            rw [IsLead, if_neg hfirst]
            exact ⟨front, back, rfl, hfront, hback⟩
          refine ⟨⟨_, hlead, ?_⟩, y, hy, not_isBlank_of_head? hy, hclose⟩
          rw [htext, List.append_assoc, List.cons_append, ← hrest]
        · exact absurd h finds_failNext
      · exact absurd h finds_failNext

/-- A list goes on where an item may stand. -/
theorem finds_listGoesOn_true {isFirst : Bool} : (listGoesOn isFirst).Finds c true rest ↔
    (∃ lead, IsLead isFirst lead ∧ c.rest = lead ++ rest) ∧ IsItemStart rest := by
  refine ⟨listGoesOn_sound, ?_⟩
  rintro ⟨⟨lead, hlead, htext⟩, x, hx, hblank, hclose⟩
  obtain ⟨text, rfl⟩ := List.head?_eq_some_iff.1 hx
  cases isFirst with
  | true =>
      rw [listGoesOn, finds_peekItem_bind_of hlead hblank htext]
      split
      · simp_all
      · simp_all
      · refine finds_pure.2 ⟨rfl, ?_⟩
        rw [Cursor.rest_dropWhile, htext, dropWhile_isBlank hlead (by simpa using hblank)]
  | false =>
      obtain ⟨gap, front, rfl, hgap, hfront⟩ := hlead
      rw [List.append_assoc, List.cons_append] at htext
      have hnext := rest_next_dropWhile hgap rfl htext
      rw [listGoesOn, finds_peekItem_bind_of hgap rfl htext]
      refine finds_advance_bind.2 ((finds_peekItem_bind_of hfront hblank hnext).2 ?_)
      split
      · simp_all
      · refine finds_pure.2 ⟨rfl, ?_⟩
        rw [Cursor.rest_dropWhile, hnext, dropWhile_isBlank hfront (by simpa using hblank)]
      · simp_all

/-- It ends exactly where the bracket is the next character behind blanks. -/
theorem finds_listGoesOn_false {isFirst : Bool} : (listGoesOn isFirst).Finds c false rest ↔
    (∃ gap, IsBlankText gap ∧ c.rest = gap ++ rest) ∧ rest.head? = some ']' := by
  refine ⟨listGoesOn_sound, ?_⟩
  rintro ⟨⟨gap, hgap, htext⟩, hclose⟩
  obtain ⟨text, rfl⟩ := List.head?_eq_some_iff.1 hclose
  rw [listGoesOn, finds_peekItem_bind_of hgap rfl htext]
  refine finds_pure.2 ⟨rfl, ?_⟩
  rw [Cursor.rest_dropWhile, htext, dropWhile_isBlank hgap (by simp [isBlank])]

/-- An object goes on with a key behind its lead, or ends in front of its brace. -/
theorem objectGoesOn_sound {isFirst goesOn : Bool}
    (h : (objectGoesOn isFirst).Finds c goesOn rest) :
    if goesOn then ∃ lead, IsLead isFirst lead ∧ c.rest = lead ++ '"' :: rest
    else (∃ gap, IsBlankText gap ∧ c.rest = gap ++ rest) ∧ rest.head? = some '\x7d' := by
  obtain ⟨gap, hgap, htext⟩ := exists_blanks c.rest
  rw [objectGoesOn, finds_peekItem_bind] at h
  split at h
  · exact absurd h finds_failNext
  · rename_i hclose
    rw [finds_pure, Cursor.rest_dropWhile] at h
    obtain ⟨rfl, rfl⟩ := h
    exact ⟨⟨gap, hgap, htext⟩, hclose⟩
  · rename_i x _ hx
    split at h
    · rename_i hfirst
      split at h
      · subst x hfirst
        obtain ⟨front, text, hfront, htext, hlast⟩ := exists_of_head?_dropWhile rfl hx
        rw [finds_advance_bind, finds_pure, hlast] at h
        obtain ⟨rfl, rfl⟩ := h
        exact ⟨front, hfront, htext⟩
      · exact absurd h finds_failNext
    · rename_i hfirst
      split at h
      · subst x
        obtain ⟨front, text, hfront, htext, hlast⟩ := exists_of_head?_dropWhile rfl hx
        rw [finds_advance_bind, finds_peekItem_bind] at h
        -- Behind a comma there has to be a name.
        split at h
        · rename_i hquote
          obtain ⟨back, last, hback, hrest, hnext⟩ := exists_of_head?_dropWhile rfl hquote
          rw [finds_advance_bind, finds_pure, hnext] at h
          obtain ⟨rfl, rfl⟩ := h
          have hlead : IsLead isFirst (front ++ ',' :: back) := by
            rw [IsLead, if_neg hfirst]
            exact ⟨front, back, rfl, hfront, hback⟩
          refine ⟨_, hlead, ?_⟩
          rw [htext, ← hlast, hrest, List.append_assoc, List.cons_append]
        · exact absurd h finds_failNext
        · exact absurd h finds_failNext
        · exact absurd h finds_failNext
      · exact absurd h finds_failNext

/-- An object goes on with the quote of a name. -/
theorem finds_objectGoesOn_true {isFirst : Bool} : (objectGoesOn isFirst).Finds c true rest ↔
    ∃ lead, IsLead isFirst lead ∧ c.rest = lead ++ '"' :: rest := by
  refine ⟨objectGoesOn_sound, ?_⟩
  rintro ⟨lead, hlead, htext⟩
  cases isFirst with
  | true =>
      rw [objectGoesOn, finds_peekItem_bind_of hlead rfl htext]
      exact finds_advance_bind.2 (finds_pure.2 ⟨rfl, rest_next_dropWhile hlead rfl htext⟩)
  | false =>
      obtain ⟨gap, front, rfl, hgap, hfront⟩ := hlead
      rw [List.append_assoc, List.cons_append] at htext
      have hnext := rest_next_dropWhile hgap rfl htext
      rw [objectGoesOn, finds_peekItem_bind_of hgap rfl htext]
      refine finds_advance_bind.2 ((finds_peekItem_bind_of hfront rfl hnext).2 ?_)
      exact finds_advance_bind.2 (finds_pure.2 ⟨rfl, rest_next_dropWhile hfront rfl hnext⟩)

/-- It ends exactly where the brace is the next character behind blanks. -/
theorem finds_objectGoesOn_false {isFirst : Bool} : (objectGoesOn isFirst).Finds c false rest ↔
    (∃ gap, IsBlankText gap ∧ c.rest = gap ++ rest) ∧ rest.head? = some '\x7d' := by
  refine ⟨objectGoesOn_sound, ?_⟩
  rintro ⟨⟨gap, hgap, htext⟩, hclose⟩
  obtain ⟨text, rfl⟩ := List.head?_eq_some_iff.1 hclose
  rw [objectGoesOn, finds_peekItem_bind_of hgap rfl htext]
  refine finds_pure.2 ⟨rfl, ?_⟩
  rw [Cursor.rest_dropWhile, htext, dropWhile_isBlank hgap (by simp [isBlank])]

/-- The end of a list or an object is read behind blanks, provided that nothing is wrong with the
whole. -/
theorem finds_closing {ending : Cursor → Cursor × Option Fault} {whole : Except Fault α} :
    (closing ending whole).Finds c a rest ↔
      whole = .ok a ∧ ∃ offset, ending c = (⟨offset, rest⟩, none) := by
  rw [Finds, closing]
  rcases ending c with ⟨after, _ | fault⟩
  · cases whole <;> simp [failHere]
  · cases whole <;> simp [failHere, failNext]

/-- A list that has all its items has its bracket behind blanks. -/
theorem listEnd_eq_iff : (∃ offset, listEnd c = (⟨offset, rest⟩, none)) ↔
    ∃ gap, IsBlankText gap ∧ c.rest = gap ++ ']' :: rest := by
  rw [← dropWhile_isBlank_eq_cons_iff rfl, ← Cursor.rest_dropWhile, listEnd]
  obtain ⟨offset, text⟩ := c.dropWhile isBlank
  cases text with
  | nil => simp [Cursor.char?]
  | cons x text =>
      simp only [Cursor.char?, List.head?_cons]
      split
      · simp_all
      · simp_all [Cursor.next]
      · simp_all
      · simp_all

/-- So does an object its brace. -/
theorem objectEnd_eq_iff : (∃ offset, objectEnd c = (⟨offset, rest⟩, none)) ↔
    ∃ gap, IsBlankText gap ∧ c.rest = gap ++ '\x7d' :: rest := by
  rw [← dropWhile_isBlank_eq_cons_iff rfl, ← Cursor.rest_dropWhile, objectEnd]
  obtain ⟨offset, text⟩ := c.dropWhile isBlank
  cases text with
  | nil => simp [Cursor.char?]
  | cons x text =>
      simp only [Cursor.char?, List.head?_cons]
      split
      · simp_all
      · simp_all [Cursor.next]
      · simp_all
      · simp_all

/-- A text may end where only blanks are left. -/
theorem textEnd_eq_ok_iff : (∃ found, textEnd c = .ok found) ↔ IsBlankText c.rest := by
  have hfinds : (∃ rest, textEnd.Finds c () rest) ↔ IsBlankText c.rest := by
    simp only [← dropWhile_isBlank_eq_nil_iff, textEnd, finds_peekItem_bind]
    cases htext : c.rest.dropWhile isBlank with
    | nil => simp
    | cons x text => simp
  rw [← hfinds]
  constructor
  · rintro ⟨⟨u, offset, rest⟩, h⟩
    exact ⟨rest, offset, h⟩
  · rintro ⟨rest, offset, h⟩
    exact ⟨_, h⟩

/-- A whole text is read when only blanks are left behind what is found. -/
theorem run_eq_ok_iff : r.run text = .ok a ↔
    ∃ rest, r.Finds ⟨0, text⟩ a rest ∧ IsBlankText rest := by
  rw [run]
  cases hr : r ⟨0, text⟩ with
  | error problem => simp [Finds, hr, bind, Except.bind]
  | ok found =>
      obtain ⟨a', offset, rest⟩ := found
      simp only [Finds, hr, bind, Except.bind]
      have hend := textEnd_eq_ok_iff (c := ⟨offset, rest⟩)
      cases htext : textEnd ⟨offset, rest⟩ with
      | error problem => simp_all
      | ok last => simp_all [pure, Except.pure]

/-! ## Languages -/

/-- Whether a reader understands a language of values, in texts shorter than a bound: it finds
texts of the language, with blanks before them, and all of these where a value may end. -/
structure Understands (bound : Nat) (r : Reader α) (language : List Char → α → Prop) : Prop where
  value {t : List Char} {a : α} : language t a → ValueText t
  sound {c : Cursor} {a : α} {rest : List Char} : c.rest.length < bound → r.Finds c a rest →
    ∃ gap t, IsBlankText gap ∧ language t a ∧ c.rest = gap ++ (t ++ rest)
  complete {c : Cursor} {a : α} {gap t rest : List Char} : c.rest.length < bound →
    IsBlankText gap → language t a → IsValueEnd rest → c.rest = gap ++ (t ++ rest) →
    r.Finds c a rest

section

variable {language language' : List Char → α → Prop} {bound : Nat}

/-- Blanks that were stepped over before belong to the ones in front of what is found. -/
theorem Understands.sound_of_dropWhile (h : Understands bound r language)
    (hc : c.rest.length < bound) (hr : r.Finds (c.dropWhile isBlank) a rest) :
    ∃ gap t, IsBlankText gap ∧ language t a ∧ c.rest = gap ++ (t ++ rest) := by
  obtain ⟨gap, t, hgap, ht, hdrop⟩ := h.sound (Nat.lt_of_le_of_lt (length_dropWhile_le c) hc) hr
  obtain ⟨front, hfront, htext⟩ := exists_blanks c.rest
  rw [Cursor.rest_dropWhile] at hdrop
  exact ⟨front ++ gap, t, hfront.append hgap, ht, by rw [htext, hdrop, List.append_assoc]⟩

/-- A text of the language is still found when the blanks in front of it are stepped over. -/
theorem Understands.complete_dropWhile {t : List Char} (h : Understands bound r language)
    (hc : c.rest.length < bound) (hgap : IsBlankText gap) (ha : language t a)
    (hrest : IsValueEnd rest) (htext : c.rest = gap ++ (t ++ rest)) :
    r.Finds (c.dropWhile isBlank) a rest := by
  have hbound := Nat.lt_of_le_of_lt (length_dropWhile_le c) hc
  refine h.complete hbound isBlankText_nil ha hrest ?_
  obtain ⟨x, text, rfl, hx, -⟩ := (h.value ha).exists_cons
  rw [Cursor.rest_dropWhile, htext, List.cons_append, List.nil_append]
  exact dropWhile_isBlank hgap (by simpa using hx)

/-- Making something else of what is read. -/
theorem Understands.map (h : Understands bound r language) (g : α → β) :
    Understands bound (r >>= fun a => pure (g a)) fun t b => ∃ a, language t a ∧ g a = b := by
  refine ⟨fun ⟨a, ha, _⟩ => h.value ha, fun hc hr => ?_, fun hc hgap ha hrest htext => ?_⟩
  · obtain ⟨a, ha, hb⟩ := finds_map.1 hr
    obtain ⟨gap, t, hgap, ht, htext⟩ := h.sound hc ha
    exact ⟨gap, t, hgap, ⟨a, ht, hb⟩, htext⟩
  · obtain ⟨a, ha, hb⟩ := ha
    exact finds_map.2 ⟨a, h.complete hc hgap ha hrest htext, hb⟩

/-- A reader understands every language with the same words. -/
theorem Understands.congr (h : Understands bound r language)
    (hiff : ∀ t a, language' t a ↔ language t a) : Understands bound r language' := by
  have heq : language' = language := funext fun t => funext fun a => propext (hiff t a)
  exact heq ▸ h

end

/-- A text with blanks around it. -/
def Surrounded (language : List Char → α → Prop) (text : List Char) (a : α) : Prop :=
  ∃ front t back, text = front ++ (t ++ back) ∧ IsBlankText front ∧ IsBlankText back ∧ language t a

/-- A whole text is read when it is one of the language, with blanks around it. -/
theorem Understands.run_eq_ok_iff {language : List Char → α → Prop}
    (h : ∀ bound, Understands bound r language) :
    r.run text = .ok a ↔ Surrounded language text a := by
  rw [Reader.run_eq_ok_iff]
  constructor
  · rintro ⟨back, hfinds, hback⟩
    obtain ⟨front, t, hfront, ht, htext⟩ := (h _).sound (Nat.lt_succ_self _) hfinds
    exact ⟨front, t, back, htext, hfront, hback, ht⟩
  · rintro ⟨front, t, back, htext, hfront, hback, ht⟩
    refine ⟨back, (h _).complete (Nat.lt_succ_self _) hfront ht ?_ htext, hback⟩
    intro x hx
    exact .inl (hback x (List.mem_of_head? hx))

end Reader

end Json

end JsxTidy
