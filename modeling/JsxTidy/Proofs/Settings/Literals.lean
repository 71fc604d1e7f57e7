import JsxTidy.Proofs.Settings.Readers

/-!
# Reading values

The main result, `SettingLiteral.value_eq_some_iff`, is that the texts that are read as values are
those of the grammar. The proof goes from inside out: items in brackets, fields, values given the
values in them, and at last values of any depth.
-/

namespace JsxTidy

namespace SettingLiteral

variable {text t rest : List Char} {bound : Nat} {origin : SettingOrigin} {v : Setting}

section

variable {α : Type} {reader : Reader α} {language : List Char → α → Prop} {ending : Char}
  {keep : Char → Bool} {inner : Reader Setting} {value : List Char → Setting → Prop}

/-! ## Items in brackets -/

/-- Items are read up to the bracket behind them. -/
theorem itemsFrom_sound (h : Understands bound keep reader language) {fuel : Nat}
    {found all : List α} (hread : itemsFrom reader ending fuel found text = some (all, rest)) :
    ∃ t as, text = t ++ rest ∧ ItemsText language ending t as ∧ all = found.reverse ++ as := by
  induction fuel generalizing found text with
  | zero => cases hread
  | succ fuel ih =>
      obtain ⟨isDone, mid, hdone, hitem⟩ := bind_eq_some_iff.1 hread
      rw [eats_eq_some_iff] at hdone
      cases isDone with
      | true =>
          obtain ⟨rfl, rfl⟩ := pure_eq_some_iff.1 hitem
          exact ⟨[ending], [], hdone, .done, (List.append_nil _).symm⟩
      | false =>
          obtain ⟨rfl, hhead⟩ := hdone
          obtain ⟨one, mid', hone, hnext⟩ := bind_eq_some_iff.1 hitem
          obtain ⟨t, rfl, ht⟩ := h.sound hone
          obtain ⟨isComma, mid, hcomma, hmore⟩ := bind_eq_some_iff.1 hnext
          rw [eats_eq_some_iff] at hcomma
          cases isComma with
          | true =>
              cases hcomma
              obtain ⟨t', as, rfl, has, rfl⟩ := ih hmore
              exact ⟨t ++ ',' :: t', one :: as, by simp, .more ht has, by simp⟩
          | false =>
              obtain ⟨rfl, -⟩ := hcomma
              obtain ⟨_, _, hending, hend⟩ := bind_eq_some_iff.1 hmore
              cases eat_eq_some_iff.1 hending
              obtain ⟨rfl, rfl⟩ := pure_eq_some_iff.1 hend
              have hne : t ≠ [] := by
                rintro rfl
                exact hhead rfl
              exact ⟨t ++ [ending], [one], by simp, .last hne ht, by simp⟩

/-- Items that do not begin with the bracket are read if it and the comma stop them. -/
theorem itemsFrom_complete (h : Understands bound keep reader language)
    (hcomma : keep ',' = false) (hending : keep ending = false) (hne : ending ≠ ',')
    (hhead : ∀ {t a}, language t a → t.head? ≠ some ending) {as : List α}
    (hitems : ItemsText language ending t as) (hbound : t.length ≤ bound) {fuel : Nat}
    (hfuel : t.length < fuel) (found : List α) :
    itemsFrom reader ending fuel found (t ++ rest) = some (found.reverse ++ as, rest) := by
  -- The bound is for the reader and stays, the fuel is for the items and goes down with them.
  induction hitems generalizing fuel found with
  | done =>
      obtain ⟨fuel, rfl⟩ := Nat.exists_eq_succ_of_ne_zero (Nat.ne_zero_of_lt hfuel)
      have hdone : eats ending ([ending] ++ rest) = some (true, rest) :=
        eats_eq_some_iff.2 rfl
      unfold itemsFrom
      rw [bind_of_eq_some hdone, List.append_nil]
      rfl
  | @last t a hnil ha =>
      obtain ⟨fuel, rfl⟩ := Nat.exists_eq_succ_of_ne_zero (Nat.ne_zero_of_lt hfuel)
      rw [List.length_append, List.length_singleton] at hbound
      have hdone : eats ending (t ++ ending :: rest) = some (false, t ++ ending :: rest) :=
        eats_eq_some_iff.2 ⟨rfl, by rw [List.head?_append_of_ne_nil _ hnil]; exact hhead ha⟩
      have hone : reader (t ++ ending :: rest) = some (a, ending :: rest) :=
        h.complete (by omega) ha (stops_cons.2 hending)
      have hmore : eats ',' (ending :: rest) = some (false, ending :: rest) :=
        eats_eq_some_iff.2 ⟨rfl, by simpa using hne⟩
      have hend : eat ending (ending :: rest) = some ((), rest) := eat_eq_some_iff.2 rfl
      unfold itemsFrom
      rw [List.append_assoc, List.singleton_append, bind_of_eq_some hdone]
      simp only [Bool.false_eq_true, if_false]
      rw [bind_of_eq_some hone, bind_of_eq_some hmore]
      simp only [Bool.false_eq_true, if_false]
      rw [bind_of_eq_some hend, List.reverse_cons]
      rfl
  | @more t behind a as ha has ih =>
      obtain ⟨fuel, rfl⟩ := Nat.exists_eq_succ_of_ne_zero (Nat.ne_zero_of_lt hfuel)
      rw [List.length_append, List.length_cons] at hbound hfuel
      have hdone : eats ending (t ++ ',' :: (behind ++ rest)) =
          some (false, t ++ ',' :: (behind ++ rest)) := by
        refine eats_eq_some_iff.2 ⟨rfl, ?_⟩
        cases t with
        | nil => simpa using hne.symm
        | cons c t => exact hhead (t := c :: t) ha
      have hone : reader (t ++ ',' :: (behind ++ rest)) = some (a, ',' :: (behind ++ rest)) :=
        h.complete (by omega) ha (stops_cons.2 hcomma)
      have hmore : eats ',' (',' :: (behind ++ rest)) = some (true, behind ++ rest) :=
        eats_eq_some_iff.2 rfl
      have hbehind : itemsFrom reader ending fuel (a :: found) (behind ++ rest) =
          some ((a :: found).reverse ++ as, rest) :=
        ih (by omega) (by omega) _
      unfold itemsFrom
      rw [List.append_assoc, List.cons_append, bind_of_eq_some hdone]
      simp only [Bool.false_eq_true, if_false]
      rw [bind_of_eq_some hone, bind_of_eq_some hmore]
      simp only [if_true]
      rw [hbehind, List.reverse_cons, List.append_assoc]
      rfl

/-- Items are read between brackets. -/
theorem understands_items (h : Understands bound keep reader language)
    (hcomma : keep ',' = false) (hending : keep ending = false) (hne : ending ≠ ',')
    (hhead : ∀ {t a}, language t a → t.head? ≠ some ending) (opening : Char) :
    Understands (bound + 1) (fun _ => false) (items reader opening ending) fun t as =>
      ∃ inner, t = opening :: inner ∧ ItemsText language ending inner as where
  sound := by
    intro text rest as hread
    obtain ⟨_, mid, hopening, hinner⟩ := bind_eq_some_iff.1 hread
    cases eat_eq_some_iff.1 hopening
    obtain ⟨_, _, hget, hitems⟩ := bind_eq_some_iff.1 hinner
    cases hget
    obtain ⟨t, as, rfl, has, rfl⟩ := itemsFrom_sound h hitems
    exact ⟨opening :: t, rfl, t, rfl, has⟩
  complete := by
    rintro t rest as hbound ⟨inner, rfl, hitems⟩ -
    have hget : (get : Reader (List Char)) (inner ++ rest) = some (inner ++ rest, inner ++ rest) :=
      rfl
    have hread : itemsFrom reader ending ((inner ++ rest).length + 1) [] (inner ++ rest) =
        some (as, rest) :=
      itemsFrom_complete h hcomma hending hne hhead hitems
        (Nat.le_of_lt_succ (Nat.lt_of_succ_lt hbound)) (by rw [List.length_append]; omega) []
    unfold items
    rw [List.cons_append, bind_of_eq_some (eat_eq_some_iff.2 rfl : eat opening _ = some ((), _)),
      bind_of_eq_some hget, hread]

/-- A field is a key and a value with spaces around them. -/
theorem understands_field {value : List Char → Setting → Prop} {inner : Reader Setting}
    (h : Understands bound goesOn inner value) (hinner : spaced inner = inner) :
    Understands bound goesOn (do
      let name ← spaced key
      eat '='
      return (name, ← spaced inner)) (FieldText value) where
  sound := by
    rintro text rest ⟨name, v⟩ hread
    obtain ⟨_, _, hkey, hbehind⟩ := bind_eq_some_iff.1 hread
    obtain ⟨_, _, hequals, hvalue⟩ := bind_eq_some_iff.1 hbehind
    cases eat_eq_some_iff.1 hequals
    rw [hinner] at hvalue
    obtain ⟨_, _, hvalue, hend⟩ := bind_eq_some_iff.1 hvalue
    cases hend
    obtain ⟨valueText, rfl, hvalueText⟩ := h.sound hvalue
    obtain ⟨front, mid, back, rfl, hfront, -, hkey, hback, -⟩ := exists_of_spaced hkey
    obtain ⟨keyText, rfl, hkeyText⟩ := (understands_key 0).sound hkey
    exact ⟨_, by simp, .mk hfront hkeyText hback hvalueText⟩
  complete := by
    rintro t rest ⟨name, v⟩ hbound hfield hrest
    cases hfield with
    | @mk front keyText back valueText _ _ hfront hkeyText hback hvalueText =>
        simp only [List.length_append, List.length_cons] at hbound
        have hequals : ∀ {keep : Char → Bool}, keep '=' = false →
            Stops keep ('=' :: (valueText ++ rest)) := fun hkeep => stops_cons.2 hkeep
        have hname : spaced key (front ++ (keyText ++ (back ++ '=' :: (valueText ++ rest)))) =
            some (name, '=' :: (valueText ++ rest)) := by
          refine spaced_of_eq_some hfront ?_ ?_ hback (hequals rfl)
          · obtain ⟨c, _, rfl, hspace, -⟩ := hkeyText.exists_cons
            exact stops_cons.2 hspace
          · exact (understands_key bound).complete (by omega) hkeyText
              (hback.stops (by decide) (hequals rfl))
        have hvalue : spaced inner (valueText ++ rest) = some (v, rest) := by
          rw [hinner]
          exact h.complete (by omega) hvalueText hrest
        have hassoc : front ++ (keyText ++ (back ++ '=' :: valueText)) ++ rest =
            front ++ (keyText ++ (back ++ '=' :: (valueText ++ rest))) := by simp
        rw [hassoc, bind_of_eq_some hname,
          bind_of_eq_some (eat_eq_some_iff.2 rfl : eat '=' _ = some ((), _)),
          bind_of_eq_some hvalue]
        rfl

/-- What a reader of values makes of lists. -/
theorem understands_list (h : Understands bound goesOn inner value)
    (hhead : ∀ {t v c}, value t v → t.head? = some c → goesOn c) :
    Understands (bound + 1) (fun _ => false) (items inner '[' ']') fun t vs =>
      ∃ rest, t = '[' :: rest ∧ ItemsText value ']' rest vs :=
  understands_items h rfl rfl (by decide) (fun hv hc => by cases hhead hv hc) '['

/-- What a reader of values makes of tables. -/
theorem understands_table (h : Understands bound goesOn inner value)
    (hinner : spaced inner = inner) :
    Understands (bound + 1) (fun _ => false) (items (do
        let name ← spaced key
        eat '='
        return (name, ← spaced inner)) '\x7b' '\x7d') fun t fields =>
      ∃ rest, t = '\x7b' :: rest ∧ ItemsText (FieldText value) '\x7d' rest fields :=
  understands_items (understands_field h hinner) rfl rfl (by decide) FieldText.head?_ne '\x7b'

/-! ## Values with values in them -/

theorem valueAround_word (b : Bool) :
    valueAround origin inner ((if b then "true".toList else "false".toList) ++ rest) =
      some (.scalar origin (.bool b), rest) := by
  cases b <;> rfl

theorem valueAround_brace (h : text.head? = some '\x7b') :
    valueAround origin inner text = (do
      let field : Reader (String × Setting) := do
        let name ← spaced key
        eat '='
        return (name, ← spaced inner)
      return .ofFields origin (← items field '\x7b' '\x7d') : Reader Setting) text := by
  cases text with
  | nil => cases h
  | cons c text =>
      cases h
      rfl

theorem valueAround_bracket (h : text.head? = some '[') :
    valueAround origin inner text =
      (do return .list origin (← items inner '[' ']') : Reader Setting) text := by
  cases text with
  | nil => cases h
  | cons c text =>
      cases h
      rfl

theorem valueAround_quote (h : text.head? = some '"') :
    valueAround origin inner text =
      (do return .scalar origin (.string (← string)) : Reader Setting) text := by
  cases text with
  | nil => cases h
  | cons c text =>
      cases h
      rfl

theorem valueAround_apostrophe (h : text.head? = some '\'') :
    valueAround origin inner text = (do
      eat '\''
      let c ← any
      eat '\''
      return .scalar origin (.char c) : Reader Setting) text := by
  cases text with
  | nil => cases h
  | cons c text =>
      cases h
      rfl

theorem valueAround_other (hwords : ∀ word ∈ words, ¬ word <+: text)
    (hhead : ∀ c ∈ text.head?, c ≠ '\x7b' ∧ c ≠ '[' ∧ c ≠ '"' ∧ c ≠ '\'') :
    valueAround origin inner text =
      some (.scalar origin (plain (Text.trim (text.takeWhile isPlain))),
        text.dropWhile isPlain) := by
  have hword : ∀ word ∈ words, eatsWord word text = some (false, text) :=
    fun word hw => eatsWord_eq_some_iff.2 ⟨rfl, hwords word hw⟩
  have hpeek : peek? text = some (text.head?, text) := rfl
  unfold valueAround
  rw [bind_of_eq_some (hword _ List.mem_cons_self)]
  simp only [Bool.false_eq_true, if_false]
  rw [bind_of_eq_some (hword _ (List.mem_cons_of_mem _ List.mem_cons_self))]
  simp only [Bool.false_eq_true, if_false]
  rw [bind_of_eq_some hpeek]
  generalize text.head? = first at hhead
  split
  · exact absurd rfl (hhead _ rfl).1
  · exact absurd rfl (hhead _ rfl).2.1
  · exact absurd rfl (hhead _ rfl).2.2.1
  · exact absurd rfl (hhead _ rfl).2.2.2
  · rfl

/-- A value that is read is one that ends with itself, or a plain text up to where it stops. -/
theorem valueAround_sound (h : Understands bound goesOn inner value)
    (hinner : spaced inner = inner) (hhead : ∀ {t v c}, value t v → t.head? = some c → goesOn c)
    (hread : valueAround origin inner text = some (v, rest)) :
    (∃ t, text = t ++ rest ∧ LiteralText origin value t v) ∨
      ∃ t, text = t ++ rest ∧ Stops isPlain rest ∧ (Stops isSpace text → PlainText t) ∧
        v = .scalar origin (plain (Text.trim t)) := by
  -- The cases are those of the reader, in its order.
  by_cases htrue : "true".toList <+: text
  · obtain ⟨behind, rfl⟩ := htrue
    cases (valueAround_word true).symm.trans hread
    exact .inl ⟨_, rfl, .yes⟩
  by_cases hfalse : "false".toList <+: text
  · obtain ⟨behind, rfl⟩ := hfalse
    cases (valueAround_word false).symm.trans hread
    exact .inl ⟨_, rfl, .no⟩
  by_cases hbrace : text.head? = some '\x7b'
  · rw [valueAround_brace hbrace] at hread
    obtain ⟨fields, _, hitems, hend⟩ := bind_eq_some_iff.1 hread
    obtain ⟨rfl, rfl⟩ := pure_eq_some_iff.1 hend
    obtain ⟨_, rfl, t, rfl, hfields⟩ := (understands_table h hinner).sound hitems
    exact .inl ⟨_, rfl, .table hfields⟩
  by_cases hbracket : text.head? = some '['
  · rw [valueAround_bracket hbracket] at hread
    obtain ⟨vs, _, hitems, hend⟩ := bind_eq_some_iff.1 hread
    obtain ⟨rfl, rfl⟩ := pure_eq_some_iff.1 hend
    obtain ⟨_, rfl, t, rfl, hvs⟩ := (understands_list h hhead).sound hitems
    exact .inl ⟨_, rfl, .list hvs⟩
  by_cases hquote : text.head? = some '"'
  · rw [valueAround_quote hquote] at hread
    obtain ⟨s, _, hstring, hend⟩ := bind_eq_some_iff.1 hread
    obtain ⟨rfl, rfl⟩ := pure_eq_some_iff.1 hend
    obtain ⟨t, rfl, hs⟩ := (understands_string 0).sound hstring
    exact .inl ⟨t, rfl, .string hs⟩
  by_cases hapostrophe : text.head? = some '\''
  · rw [valueAround_apostrophe hapostrophe] at hread
    obtain ⟨_, _, hopening, hchar⟩ := bind_eq_some_iff.1 hread
    cases eat_eq_some_iff.1 hopening
    obtain ⟨c, _, hany, hclosing⟩ := bind_eq_some_iff.1 hchar
    cases any_eq_some_iff.1 hany
    obtain ⟨_, _, hclosing, hend⟩ := bind_eq_some_iff.1 hclosing
    cases eat_eq_some_iff.1 hclosing
    obtain ⟨rfl, rfl⟩ := pure_eq_some_iff.1 hend
    exact .inl ⟨['\'', c, '\''], rfl, .char c⟩
  have hwords : ∀ word ∈ words, ¬ word <+: text := by
    simpa [words] using And.intro htrue hfalse
  have hother : ∀ c ∈ text.head?, c ≠ '\x7b' ∧ c ≠ '[' ∧ c ≠ '"' ∧ c ≠ '\'' := by
    intro c hc
    refine ⟨?_, ?_, ?_, ?_⟩ <;> rintro rfl <;> contradiction
  rw [valueAround_other hwords hother] at hread
  cases hread
  have htake : text.takeWhile isPlain <+: text := List.takeWhile_prefix _
  refine .inr ⟨_, List.takeWhile_append_dropWhile.symm, stops_dropWhile _ _, fun hspace => ?_, rfl⟩
  refine ⟨fun c hc => List.mem_takeWhile_imp hc, fun c hc => ?_, fun word hw hbegins =>
    hwords word hw (hbegins.trans htake)⟩
  have hfirst : text.head? = some c := by
    rw [← List.takeWhile_append_dropWhile (p := isPlain) (l := text), List.head?_append, hc,
      Option.some_or]
  exact ⟨hspace c hfirst, (hother c hfirst).2.2⟩

theorem valueAround_complete (h : Understands bound goesOn inner value)
    (hinner : spaced inner = inner) (hhead : ∀ {t v c}, value t v → t.head? = some c → goesOn c)
    (ht : LiteralText origin value t v) (hbound : t.length < bound + 1) (rest : List Char) :
    valueAround origin inner (t ++ rest) = some (v, rest) := by
  cases ht with
  | yes => exact valueAround_word true
  | no => exact valueAround_word false
  | @string t s hs =>
      have hquote : (t ++ rest).head? = some '"' := by
        rw [List.head?_append, hs.head?, Option.some_or]
      rw [valueAround_quote hquote,
        bind_of_eq_some ((understands_string _).complete hbound hs fun _ _ => rfl)]
      rfl
  | char c => rfl
  | @list t vs hvs =>
      rw [valueAround_bracket rfl,
        bind_of_eq_some ((understands_list h hhead).complete hbound ⟨t, rfl, hvs⟩ fun _ _ => rfl)]
      rfl
  | @table t fields hfields =>
      rw [valueAround_brace rfl, bind_of_eq_some
        ((understands_table h hinner).complete hbound ⟨t, rfl, hfields⟩ fun _ _ => rfl)]
      rfl

theorem valueAround_plain (ht : PlainText t) (hrest : Stops goesOn rest) :
    valueAround origin inner (t ++ rest) =
      some (.scalar origin (plain (Text.trim t)), rest) := by
  have hstop : Stops isPlain rest := hrest.mono fun _ => goesOn_of_isPlain
  obtain ⟨htake, hdrop⟩ := takeWhile_append_of_stops ht.plain hstop
  have hplain : words.all (·.all isPlain) := by decide
  have hwords : ∀ word ∈ words, ¬ word <+: t ++ rest := by
    rintro word hw ⟨more, hmore⟩
    refine ht.noWord word hw ?_
    rw [← htake, ← hmore, List.takeWhile_append_of_pos
      (List.all_eq_true.1 (List.all_eq_true.1 hplain word hw))]
    exact List.prefix_append _ _
  have hother : ∀ c ∈ (t ++ rest).head?, c ≠ '\x7b' ∧ c ≠ '[' ∧ c ≠ '"' ∧ c ≠ '\'' := by
    intro c hc
    cases t with
    | nil =>
        have hstop := hrest c hc
        refine ⟨?_, ?_, ?_, ?_⟩ <;> rintro rfl <;> cases hstop
    | cons x t =>
        cases hc
        have hinside := ht.plain c List.mem_cons_self
        refine ⟨?_, ?_, (ht.start c rfl).2⟩ <;> rintro rfl <;> cases hinside
  rw [valueAround_other hwords hother, htake, hdrop]

end

/-! ## Values of any depth -/

/-- Spaces around a value do not count. -/
theorem spaced_value (origin : SettingOrigin) (depth : Nat) :
    spaced (value origin depth) = value origin depth := by
  cases depth with
  | zero => rfl
  | succ depth => exact spaced_spaced _

/-- Values are read in which fewer lists and tables are nested than their texts have characters. -/
theorem understands_value (origin : SettingOrigin) (depth : Nat) :
    Understands depth goesOn (value origin depth) (ValueText origin) := by
  -- A value inside a list or a table is shorter by a bracket at least, so the depth suffices.
  induction depth with
  | zero => exact ⟨nofun, nofun⟩
  | succ depth ih =>
      have hhead : ∀ {t : List Char} {v : Setting} {c : Char}, ValueText origin t v →
          t.head? = some c → goesOn c := ValueText.goesOn_head
      refine ⟨fun {text rest v} hread => ?_, fun {t rest v} hbound hv hrest => ?_⟩
      · obtain ⟨front, mid, back, rfl, hfront, hmid, hread, hback, -⟩ := exists_of_spaced hread
        rcases valueAround_sound ih (spaced_value origin depth) hhead hread with
          ⟨t, rfl, ht⟩ | ⟨t, rfl, hstop, ht, rfl⟩
        · exact ⟨front ++ (t ++ back), by simp, .literal hfront ht hback⟩
        · -- The spaces behind a plain text are its own.
          cases back with
          | nil => exact ⟨front ++ t, by simp, .plain hfront (ht hmid)⟩
          | cons c back =>
              have hspace := isPlain_of_isSpace (hback c List.mem_cons_self)
              rw [stops_cons.1 hstop] at hspace
              cases hspace
      · have hend : Stops isSpace rest := hrest.mono fun _ => goesOn_of_isSpace
        cases hv with
        | @literal front t back _ hfront ht hback =>
            simp only [List.length_append] at hbound
            have hread := valueAround_complete ih (spaced_value origin depth) hhead ht
              (by omega) (back ++ rest)
            obtain ⟨c, t, rfl, hc, -⟩ := ht.exists_cons
            rw [List.append_assoc, List.append_assoc]
            exact spaced_of_eq_some hfront (stops_cons.2 hc) hread hback hend
        | @plain front t hfront ht =>
            have hread : valueAround origin (value origin depth) (t ++ ([] ++ rest)) =
                some (.scalar origin (plain (Text.trim t)), [] ++ rest) :=
              valueAround_plain ht hrest
            have hstart : Stops isSpace (t ++ ([] ++ rest)) := by
              cases t with
              | nil => exact hend
              | cons c t => exact stops_cons.2 (ht.start c rfl).1
            rw [List.append_assoc]
            exact spaced_of_eq_some hfront hstart hread nofun hend

/-- The texts that are read as values as a whole are those of the grammar. -/
theorem value_eq_some_iff :
    value origin (text.length + 1) text = some (v, []) ↔ ValueText origin text v := by
  have h := understands_value origin (text.length + 1)
  constructor
  · intro hread
    obtain ⟨t, rfl, ht⟩ := h.sound hread
    rwa [List.append_nil]
  · intro hv
    have hread := h.complete (Nat.lt_succ_self _) hv (stops_nil _)
    rwa [List.append_nil] at hread

end SettingLiteral

/-- A text that is a value means that. -/
theorem Setting.ofText_of_valueText {origin : SettingOrigin} {text : List Char} {v : Setting}
    (h : SettingLiteral.ValueText origin text v) : ofText origin text = v := by
  unfold ofText
  rw [SettingLiteral.value_eq_some_iff.2 h]

/-- A text that is no value means itself. -/
theorem Setting.ofText_of_no_valueText {origin : SettingOrigin} {text : List Char}
    (h : ∀ v, ¬ SettingLiteral.ValueText origin text v) :
    ofText origin text = .scalar origin (.string (String.ofList text)) := by
  unfold ofText
  split
  · rename_i v hread
    exact absurd (SettingLiteral.value_eq_some_iff.1 hread) (h v)
  · rfl

end JsxTidy
