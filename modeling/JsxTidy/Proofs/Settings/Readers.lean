import JsxTidy.Proofs.Settings.Grammar
import JsxTidy.Proofs.Text.Find

/-!
# Reading strings and keys

A reader understands a language if it reads the texts of the language and nothing else. Each reader
is described by the texts that it goes over, beginning with single characters and spaces. The main
results, `understands_string` and `understands_key`, are about strings in quotes and keys.
-/

namespace JsxTidy.SettingLiteral

variable {α β : Type} {reader : Reader α} {next : α → Reader β} {language : List Char → α → Prop}
  {text t rest front back : List Char} {a : α} {b : β} {c : Char}

/-! ## Steps of a reader -/

/-- Two readers succeed when the second one does behind the first one. -/
theorem bind_eq_some_iff : (reader >>= next) text = some (b, rest) ↔
    ∃ a mid, reader text = some (a, mid) ∧ next a mid = some (b, rest) := by
  constructor
  · intro h
    obtain ⟨⟨a, mid⟩, ha, hb⟩ := Option.bind_eq_some_iff.1 h
    exact ⟨a, mid, ha, hb⟩
  · intro ⟨a, mid, ha, hb⟩
    exact Option.bind_eq_some_iff.2 ⟨(a, mid), ha, hb⟩

/-- What a reader has read goes on to the next one. -/
theorem bind_of_eq_some {mid : List Char} (h : reader text = some (a, mid)) :
    (reader >>= next) text = next a mid := by
  show (reader text).bind _ = _
  rw [h]
  rfl

@[simp] theorem pure_eq_some_iff {a' : α} :
    (pure a : Reader α) text = some (a', rest) ↔ a = a' ∧ text = rest := by
  show some (a, text) = some (a', rest) ↔ _
  simp

@[simp] theorem eat_eq_some_iff {u : Unit} : eat c text = some (u, rest) ↔ text = c :: rest := by
  cases text with
  | nil => simp [eat]
  | cons first text =>
      by_cases h : first = c <;> simp [eat, h]

@[simp] theorem any_eq_some_iff : any text = some (c, rest) ↔ text = c :: rest := by
  cases text <;> simp [any]

/-- A character that may be missing is passed exactly if it is there. -/
theorem eats_eq_some_iff {isThere : Bool} : eats c text = some (isThere, rest) ↔
    if isThere then text = c :: rest else text = rest ∧ text.head? ≠ some c := by
  cases text with
  | nil => cases isThere <;> simp [eats]
  | cons first text =>
      by_cases h : first = c <;> cases isThere <;> simp [eats, h]

/-- So is a word. -/
theorem eatsWord_eq_some_iff {word : List Char} {isThere : Bool} :
    eatsWord word text = some (isThere, rest) ↔
      if isThere then text = word ++ rest else text = rest ∧ ¬ word <+: text := by
  unfold eatsWord
  cases hafter : Text.after? word text with
  | none =>
      have hnot : ¬ word <+: text := by
        rw [← Text.beginsWith_iff, Text.beginsWith, hafter]
        decide
      have hne : text ≠ word ++ rest := fun h => hnot ⟨rest, h.symm⟩
      cases isThere <;> simp [hnot, hne]
  | some behind =>
      cases Text.after?_eq_some_iff.1 hafter
      cases isThere <;> simp

/-! ## Spaces -/

/-- Spaces around what is read do not count. -/
theorem spaced_eq_some_iff : spaced reader text = some (a, rest) ↔
    ∃ mid, reader (text.dropWhile isSpace) = some (a, mid) ∧ mid.dropWhile isSpace = rest := by
  have hskip : ∀ {text : List Char}, skipSpaces text = some ((), text.dropWhile isSpace) := rfl
  unfold spaced
  rw [bind_of_eq_some hskip, bind_eq_some_iff]
  constructor
  · rintro ⟨a', mid, ha, hrest⟩
    rw [bind_of_eq_some hskip, pure_eq_some_iff] at hrest
    obtain ⟨rfl, hrest⟩ := hrest
    exact ⟨mid, ha, hrest⟩
  · rintro ⟨mid, ha, hrest⟩
    refine ⟨a, mid, ha, ?_⟩
    rw [bind_of_eq_some hskip, pure_eq_some_iff]
    exact ⟨rfl, hrest⟩

/-- Spaces around spaces do not count either. -/
theorem spaced_spaced (reader : Reader α) : spaced (spaced reader) = spaced reader := by
  have hdrop : ∀ t : List Char, (t.dropWhile isSpace).dropWhile isSpace = t.dropWhile isSpace :=
    fun t => (takeWhile_append_of_stops (t := []) nofun (stops_dropWhile isSpace t)).2
  funext text
  refine Option.ext fun ⟨a, rest⟩ => ?_
  simp only [spaced_eq_some_iff, hdrop]
  constructor
  · rintro ⟨_, ⟨mid, ha, rfl⟩, rfl⟩
    exact ⟨mid, ha, (hdrop mid).symm⟩
  · rintro ⟨mid, ha, rfl⟩
    exact ⟨_, ⟨mid, ha, rfl⟩, hdrop mid⟩

/-- What is inside spaces is read between them. -/
theorem spaced_of_eq_some (hfront : IsSpaceText front) (ht : Stops isSpace (t ++ (back ++ rest)))
    (hread : reader (t ++ (back ++ rest)) = some (a, back ++ rest)) (hback : IsSpaceText back)
    (hrest : Stops isSpace rest) :
    spaced reader (front ++ (t ++ (back ++ rest))) = some (a, rest) := by
  refine spaced_eq_some_iff.2 ⟨back ++ rest, ?_, (takeWhile_append_of_stops hback hrest).2⟩
  rw [(takeWhile_append_of_stops hfront ht).2, hread]

/-- What is read inside spaces has spaces around it. -/
theorem exists_of_spaced (h : spaced reader text = some (a, rest)) : ∃ front mid back,
    text = front ++ mid ∧ IsSpaceText front ∧ Stops isSpace mid ∧
      reader mid = some (a, back ++ rest) ∧ IsSpaceText back ∧ Stops isSpace rest := by
  obtain ⟨mid, hread, rfl⟩ := spaced_eq_some_iff.1 h
  refine ⟨_, _, _, List.takeWhile_append_dropWhile.symm, isSpaceText_takeWhile text,
    stops_dropWhile _ _, ?_, isSpaceText_takeWhile mid, stops_dropWhile _ _⟩
  rw [hread, List.takeWhile_append_dropWhile]

/-! ## Strings in quotes -/

/-- What a reader makes of a text: it reads texts of a language, up to a number of characters,
where characters of a kind stop, and it reads nothing else. -/
structure Understands (bound : Nat) (keep : Char → Bool) (reader : Reader α)
    (language : List Char → α → Prop) : Prop where
  sound : ∀ {text rest a}, reader text = some (a, rest) → ∃ t, text = t ++ rest ∧ language t a
  complete : ∀ {t rest a}, t.length < bound → language t a → Stops keep rest →
    reader (t ++ rest) = some (a, rest)

/-- A code point is read from its digits. -/
theorem understands_codePoint (bound count : Nat) :
    Understands bound (fun _ => false) (codePoint count) (CodePointText count) where
  sound := by
    intro text rest c h
    unfold codePoint at h
    dsimp only at h
    split at h
    · cases h
    · rename_i hlength
      obtain ⟨values, hvalues, h⟩ := Option.bind_eq_some_iff.1 h
      split at h
      · rename_i hvalid
        cases h
        have hcount := List.length_take_le count text
        exact ⟨text.take count, (List.take_append_drop count text).symm, by omega, values, hvalues,
          hvalid, rfl⟩
      · cases h
  complete := by
    rintro t rest c - ⟨rfl, values, hvalues, hvalid, rfl⟩ -
    unfold codePoint
    simp [hvalues, hvalid]

/-- An escape is read from its letter and what follows. -/
theorem understands_escape (bound : Nat) :
    Understands bound (fun _ => false) escape EscapeText where
  sound := by
    intro text rest c h
    obtain ⟨letter, mid, hletter, hread⟩ := bind_eq_some_iff.1 h
    cases any_eq_some_iff.1 hletter
    -- Two letters go on with digits, an unknown one is refused, and all others are in the table.
    split at hread
    case h_8 =>
      obtain ⟨t, rfl, hcode⟩ := (understands_codePoint 0 4).sound hread
      exact ⟨_, rfl, .small hcode⟩
    case h_9 =>
      obtain ⟨t, rfl, hcode⟩ := (understands_codePoint 0 8).sound hread
      exact ⟨_, rfl, .large hcode⟩
    case h_10 => cases hread
    all_goals
      cases hread
      exact ⟨_, rfl, .short (by decide)⟩
  complete := by
    intro t rest c hbound hescape hrest
    unfold escape
    cases hescape with
    | short hshort =>
        rw [List.singleton_append, bind_of_eq_some (any_eq_some_iff.2 rfl)]
        simp only [shortEscapes, List.mem_cons, List.not_mem_nil, Prod.mk.injEq, or_false] at hshort
        rcases hshort with ⟨rfl, rfl⟩ | ⟨rfl, rfl⟩ | ⟨rfl, rfl⟩ | ⟨rfl, rfl⟩ | ⟨rfl, rfl⟩ |
          ⟨rfl, rfl⟩ | ⟨rfl, rfl⟩ <;> rfl
    | small hcode =>
        rw [List.cons_append, bind_of_eq_some (any_eq_some_iff.2 rfl)]
        exact (understands_codePoint bound 4).complete (Nat.lt_of_succ_lt hbound) hcode hrest
    | large hcode =>
        rw [List.cons_append, bind_of_eq_some (any_eq_some_iff.2 rfl)]
        exact (understands_codePoint bound 8).complete (Nat.lt_of_succ_lt hbound) hcode hrest

/-- Characters are read up to the closing quote. -/
theorem charsFrom_sound {fuel : Nat} {found s : List Char}
    (h : charsFrom fuel found text = some (s, rest)) :
    ∃ t said, text = t ++ '"' :: rest ∧ QuotedText t said ∧ s = found.reverse ++ said := by
  -- What was found before is kept in reverse, so the induction is over any of it.
  induction fuel generalizing found text with
  | zero => cases h
  | succ fuel ih =>
      obtain ⟨c, mid, hc, hread⟩ := bind_eq_some_iff.1 h
      cases any_eq_some_iff.1 hc
      split at hread
      · rename_i hquote
        obtain ⟨rfl, rfl⟩ := pure_eq_some_iff.1 hread
        exact ⟨[], [], by rw [hquote]; rfl, .done, (List.append_nil _).symm⟩
      · rename_i hquote
        split at hread
        · rename_i hbackslash
          obtain ⟨e, mid', he, hmore⟩ := bind_eq_some_iff.1 hread
          obtain ⟨escapeText, rfl, hescape⟩ := (understands_escape 0).sound he
          obtain ⟨t, said, rfl, ht, rfl⟩ := ih hmore
          exact ⟨'\\' :: (escapeText ++ t), e :: said, by simp [hbackslash], .escape hescape ht,
            by simp⟩
        · rename_i hbackslash
          obtain ⟨t, said, rfl, ht, rfl⟩ := ih hread
          exact ⟨c :: t, c :: said, rfl, .char hquote hbackslash ht, by simp⟩

/-- All characters up to the closing quote are read. -/
theorem charsFrom_complete {said : List Char} (h : QuotedText t said) {fuel : Nat}
    (hfuel : t.length < fuel) (found : List Char) :
    charsFrom fuel found (t ++ '"' :: rest) = some (found.reverse ++ said, rest) := by
  induction h generalizing fuel found with
  | done =>
      obtain ⟨fuel, rfl⟩ := Nat.exists_eq_succ_of_ne_zero (Nat.ne_of_gt hfuel)
      unfold charsFrom
      rw [List.nil_append, bind_of_eq_some (any_eq_some_iff.2 rfl), if_pos rfl, List.append_nil]
      rfl
  | @char t said c hquote hbackslash ht ih =>
      obtain ⟨fuel, rfl⟩ := Nat.exists_eq_succ_of_ne_zero (Nat.ne_zero_of_lt hfuel)
      unfold charsFrom
      rw [List.cons_append, bind_of_eq_some (any_eq_some_iff.2 rfl), if_neg hquote,
        if_neg hbackslash, ih (Nat.lt_of_succ_lt_succ hfuel)]
      simp
  | @escape e t said c hescape ht ih =>
      obtain ⟨fuel, rfl⟩ := Nat.exists_eq_succ_of_ne_zero (Nat.ne_zero_of_lt hfuel)
      simp only [List.length_cons, List.length_append, Nat.succ_eq_add_one] at hfuel
      -- An escape takes one unit of fuel for all its characters, so enough is left for the others.
      have hread : escape (e ++ (t ++ '"' :: rest)) = some (c, t ++ '"' :: rest) :=
        (understands_escape (e.length + 1)).complete (Nat.lt_succ_self _) hescape fun _ _ => rfl
      unfold charsFrom
      rw [List.cons_append, bind_of_eq_some (any_eq_some_iff.2 rfl), if_neg (by decide), if_pos rfl,
        List.append_assoc, bind_of_eq_some hread, ih (by omega)]
      simp

/-- A string is read from its quotes. -/
theorem understands_string (bound : Nat) :
    Understands bound (fun _ => false) string StringText where
  sound := by
    intro text rest s h
    obtain ⟨_, mid, hquote, hread⟩ := bind_eq_some_iff.1 h
    cases eat_eq_some_iff.1 hquote
    obtain ⟨_, _, hget, hbody⟩ := bind_eq_some_iff.1 hread
    cases hget
    obtain ⟨chars, _, hchars, hend⟩ := bind_eq_some_iff.1 hbody
    obtain ⟨rfl, rfl⟩ := pure_eq_some_iff.1 hend
    obtain ⟨body, said, rfl, hbody, rfl⟩ := charsFrom_sound hchars
    exact ⟨'"' :: (body ++ ['"']), by simp, body, _, rfl, hbody, rfl⟩
  complete := by
    rintro t rest s - ⟨body, said, rfl, hbody, rfl⟩ -
    have hread : charsFrom ((body ++ '"' :: rest).length + 1) [] (body ++ '"' :: rest) =
        some (said, rest) :=
      charsFrom_complete hbody (by rw [List.length_append, List.length_cons]; omega) []
    have hget : (get : Reader (List Char)) (body ++ '"' :: rest) =
      some (body ++ '"' :: rest, body ++ '"' :: rest) := rfl
    unfold string
    rw [List.cons_append, bind_of_eq_some (eat_eq_some_iff.2 rfl : eat '"' _ = some ((), _)),
      List.append_assoc,
      List.singleton_append, bind_of_eq_some hget, bind_of_eq_some hread]
    rfl

/-! ## Keys -/

/-- A key may be a string. -/
theorem key_of_quote (h : text.head? = some '"') : key text = string text := by
  cases text with
  | nil => cases h
  | cons c text =>
      cases h
      rfl

/-- Otherwise it has the characters of a key, one at least. -/
theorem key_of_no_quote (h : text.head? ≠ some '"') : key text =
    if text.takeWhile isKeyChar = [] then none
    else some (String.ofList (text.takeWhile isKeyChar), text.dropWhile isKeyChar) := by
  have hpeek : peek? text = some (text.head?, text) := rfl
  have htake : takeWhile isKeyChar text =
    some (text.takeWhile isKeyChar, text.dropWhile isKeyChar) := rfl
  unfold key
  rw [bind_of_eq_some hpeek]
  generalize text.head? = first at h
  split
  · exact absurd rfl h
  · rw [bind_of_eq_some htake]
    cases text.takeWhile isKeyChar <;> rfl

/-- So each key is read, and nothing else. -/
theorem understands_key (bound : Nat) : Understands bound isKeyChar key KeyText where
  sound := by
    intro text rest name h
    by_cases hquote : text.head? = some '"'
    · rw [key_of_quote hquote] at h
      obtain ⟨t, rfl, ht⟩ := (understands_string 0).sound h
      exact ⟨t, rfl, .inl ht⟩
    · rw [key_of_no_quote hquote] at h
      split at h
      · cases h
      · rename_i hne
        cases h
        exact ⟨_, List.takeWhile_append_dropWhile.symm, .inr ⟨hne,
          fun c hc => List.mem_takeWhile_imp hc, rfl⟩⟩
  complete := by
    intro t rest name hbound h hrest
    rcases h with h | ⟨hne, hchars, rfl⟩
    · have hquote : (t ++ rest).head? = some '"' := by
        rw [List.head?_append, h.head?, Option.some_or]
      rw [key_of_quote hquote]
      exact (understands_string bound).complete hbound h fun _ _ => rfl
    · obtain ⟨hkey, hbehind⟩ := takeWhile_append_of_stops hchars hrest
      have hquote : (t ++ rest).head? ≠ some '"' := by
        obtain ⟨c, t, rfl⟩ := List.exists_cons_of_ne_nil hne
        intro hc
        cases hc
        exact absurd (hchars '"' List.mem_cons_self) (by decide)
      rw [key_of_no_quote hquote, hkey, hbehind, if_neg hne]

end JsxTidy.SettingLiteral
