import JsxTidy.Proofs.Settings.Table
import JsxTidy.Settings.Load

/-!
# Reading records

A record is read from a table by the names of its fields or from a list by their places. Either way
each field is read from its own value: `Reads` says so for some fields with their values, and the
two main results, `namedFields_eq_ok_iff` and `placedFields_eq_ok_iff`, say that tables and lists
are read like that.
-/

namespace JsxTidy

namespace Setting

theorem bind_eq_ok_iff {ε α β : Type} {x : Except ε α} {next : α → Except ε β} {b : β} :
    (x >>= next) = .ok b ↔ ∃ a, x = .ok a ∧ next a = .ok b := by
  cases x with
  | error e => simp [bind, Except.bind]
  | ok a => simp [bind, Except.bind]

theorem map_eq_ok_iff {ε α β : Type} {x : Except ε α} {f : α → β} {b : β} :
    f <$> x = .ok b ↔ ∃ a, x = .ok a ∧ f a = b := by
  cases x with
  | error e => simp [Functor.map, Except.map]
  | ok a => simp [Functor.map, Except.map]

/-- What stands under a name in a table, or at a place in a list. -/
def part? (name : String) (index : Nat) : Setting → Option Setting
  | table _ fields => fields.lookup name
  | list _ items => items[index]?
  | scalar .. => none

variable {σ : Type} {title : String} {fields : List (Field σ)} {s s' : σ} {v : Setting}
  {named : List (String × Setting)} {items : List Setting}

theorem readField_eq_ok_iff {field : Field σ} {step : String} :
    readField field step s v = .ok s' ↔ field.read s v = .ok s' := by
  unfold readField
  cases field.read s v <;> simp

/-- Whether reading some fields, each from its value, turns one record into another. -/
def Reads : List (Field σ × Setting) → σ → σ → Prop
  | [], s, s' => s = s'
  | (field, v) :: rest, s, s' => ∃ next, field.read s v = .ok next ∧ Reads rest next s'

/-! ## Tables -/

/-- Of fields in order those with some names, in order too, are what is under these names. -/
theorem InOrder.filter_eq (h : InOrder named) {names : List String}
    (hnames : names.Pairwise (· < ·)) :
    named.filter (fun field => names.contains field.1) =
      names.filterMap fun name => (named.lookup name).map fun v => (name, v) := by
  have hnodup : ∀ {l : List (String × Setting)}, InOrder l → l.Nodup := by
    intro l hl
    refine List.Pairwise.imp ?_ hl
    rintro a _ hlt rfl
    exact String.lt_irrefl _ hlt
  have hleft := List.Pairwise.filter (fun field : String × Setting => names.contains field.1) h
  have hright : InOrder
      (names.filterMap fun name => (named.lookup name).map fun v => (name, v)) := by
    refine List.Pairwise.filterMap _ ?_ hnames
    intro a b hlt x hx y hy
    obtain ⟨v, -, rfl⟩ := Option.map_eq_some_iff.1 hx
    obtain ⟨w, -, rfl⟩ := Option.map_eq_some_iff.1 hy
    exact hlt
  refine List.Perm.eq_of_pairwise (fun a b _ _ hab hba => absurd hba (String.lt_asymm hab))
    hleft hright ?_
  rw [List.perm_ext_iff_of_nodup (hnodup hleft) (hnodup hright)]
  rintro ⟨name, v⟩
  simp only [List.mem_filter, List.contains_iff_mem, List.mem_filterMap,
    Option.map_eq_some_iff, Prod.mk.injEq]
  constructor
  · rintro ⟨hmem, hname⟩
    exact ⟨name, hname, v, h.lookup_of_mem hmem, rfl, rfl⟩
  · rintro ⟨_, hname, _, hlookup, rfl, rfl⟩
    obtain ⟨before, behind, rfl, -⟩ := List.lookup_eq_some_iff.1 hlookup
    exact ⟨by simp, hname⟩

/-- Only the fields of the record count. -/
theorem namedFields_filter (names : List String)
    (hnames : ∀ name, names.contains name = false → fields.find? (·.name == name) = none) :
    namedFields fields named s =
      namedFields fields (named.filter fun field => names.contains field.1) s := by
  induction named generalizing s with
  | nil => rfl
  | cons field rest ih =>
      obtain ⟨name, v⟩ := field
      cases hname : names.contains name with
      | false => simp only [namedFields, List.filter_cons, hname, hnames name hname, ih]; rfl
      | true =>
          simp only [namedFields, List.filter_cons, hname, if_true]
          split <;> simp only [ih]

/-- A table with all the fields of a record is read field by field, in the order of their names. -/
theorem namedFields_eq_ok_iff (h : InOrder named) {pairs : List (Field σ × Setting)}
    (hsorted : (pairs.map fun pair => pair.1.name).Pairwise (· < ·))
    (hfields : ∀ field ∈ fields, field.name ∈ pairs.map fun pair => pair.1.name)
    (hpairs : ∀ pair ∈ pairs, fields.find? (·.name == pair.1.name) = some pair.1 ∧
      named.lookup pair.1.name = some pair.2) :
    namedFields fields named s = .ok s' ↔ Reads pairs s s' := by
  have hunknown : ∀ name, (pairs.map fun pair => pair.1.name).contains name = false →
      fields.find? (·.name == name) = none := by
    intro name hname
    refine List.find?_eq_none.2 fun field hfield heq => ?_
    have hmem := hfields field hfield
    rw [beq_iff_eq.1 heq] at hmem
    simp [hmem] at hname
  rw [namedFields_filter _ hunknown, h.filter_eq hsorted, List.filterMap_map]
  clear hsorted hfields hunknown
  induction pairs generalizing s with
  | nil => simp [namedFields, Reads]
  | cons pair rest ih =>
      obtain ⟨hfind, hlookup⟩ := hpairs pair List.mem_cons_self
      have hrest := fun s => @ih s fun pair hpair => hpairs pair (List.mem_cons_of_mem _ hpair)
      simp only [Function.comp_def] at hrest ⊢
      simp only [List.filterMap_cons, hlookup, Option.map_some, namedFields, hfind,
        bind_eq_ok_iff, readField_eq_ok_iff, hrest, Reads]

/-! ## Lists -/

/-- A list with all the fields of a record is read field by field. -/
theorem placedFields_eq_ok_iff {index count : Nat} (h : fields.length ≤ items.length) :
    placedFields fields items index s = .ok (s', count) ↔
      count = index + fields.length ∧ Reads (fields.zip items) s s' := by
  induction fields generalizing items index s with
  | nil =>
      simp only [placedFields, Except.ok.injEq, Prod.mk.injEq, List.length_nil, Nat.add_zero,
        List.zip_nil_left, Reads]
      exact ⟨fun ⟨hs, hcount⟩ => ⟨hcount.symm, hs⟩, fun ⟨hcount, hs⟩ => ⟨hs, hcount.symm⟩⟩
  | cons field fields ih =>
      cases items with
      | nil => cases h
      | cons v items =>
          have hrest := fun s index => @ih s items index (Nat.le_of_succ_le_succ h)
          simp only [placedFields, bind_eq_ok_iff, readField_eq_ok_iff, hrest, List.length_cons,
            List.zip_cons_cons, Reads]
          constructor
          · rintro ⟨next, hread, rfl, hreads⟩
            exact ⟨by omega, next, hread, hreads⟩
          · rintro ⟨rfl, next, hread, hreads⟩
            exact ⟨next, hread, by omega, hreads⟩

/-- No more fields of a list are read than it has items. -/
theorem count_of_placedFields {index count : Nat}
    (h : placedFields fields items index s = .ok (s', count)) : count ≤ index + items.length := by
  induction fields generalizing items index s with
  | nil =>
      simp only [placedFields, Except.ok.injEq, Prod.mk.injEq] at h
      omega
  | cons field fields ih =>
      cases items with
      | nil =>
          simp only [placedFields, Except.ok.injEq, Prod.mk.injEq] at h
          omega
      | cons v items =>
          simp only [placedFields, bind_eq_ok_iff] at h
          obtain ⟨next, -, hrest⟩ := h
          have hcount := ih hrest
          simp only [List.length_cons]
          omega

/-! ## Tables and lists -/

/-- Each field is found by its name. -/
theorem find?_name_eq_some (h : (fields.map Field.name).Pairwise (· < ·)) {field : Field σ}
    (hfield : field ∈ fields) : fields.find? (·.name == field.name) = some field := by
  induction fields with
  | nil => cases hfield
  | cons first rest ih =>
      obtain ⟨hfirst, hrest⟩ := List.pairwise_cons.1 h
      rcases List.mem_cons.1 hfield with rfl | hbehind
      · simp
      · have hlt := hfirst field.name (List.mem_map_of_mem hbehind)
        have hne : ¬ first.name = field.name := fun heq =>
          String.lt_irrefl field.name (heq ▸ hlt)
        simpa [hne] using ih hrest hbehind

/-- A record is read from a table by the names of its fields, and each field has to be set then. -/
theorem record_table_eq_ok_iff {origin : SettingOrigin} :
    record title fields s (table origin named) = .ok s' ↔
      namedFields fields named s = .ok s' ∧ ∀ field ∈ fields, field.isSet s' := by
  simp only [record, bind_eq_ok_iff]
  constructor
  · rintro ⟨last, hlast, hset⟩
    split at hset
    · cases hset
    · rename_i hfind
      cases hset
      exact ⟨hlast, fun field hfield => by simpa using List.find?_eq_none.1 hfind field hfield⟩
  · rintro ⟨hlast, hset⟩
    have hfind : (fields.find? fun field => !field.isSet s') = none :=
      List.find?_eq_none.2 fun field hfield => by simp [hset field hfield]
    exact ⟨s', hlast, by rw [hfind]; rfl⟩

/-- A record whose fields are sorted by their names is read field by field from a value that holds
all of them. From a table each field has to be set then. -/
theorem record_eq_ok_iff (hv : v.Ordered) (hfields : fields ≠ [])
    (hsorted : (fields.map Field.name).Pairwise (· < ·)) {parts : List Setting}
    (hparts : fields.mapIdx (fun index field => v.part? field.name index) = parts.map some) :
    record title fields s v = .ok s' ↔
      Reads (fields.zip parts) s s' ∧ (v.isTable → ∀ field ∈ fields, field.isSet s') := by
  have hlength : fields.length = parts.length := by
    simpa using congrArg List.length hparts
  have hpart : ∀ index field part, fields[index]? = some field → parts[index]? = some part →
      v.part? field.name index = some part := by
    intro index field part hfield hpart
    simpa [hfield, hpart] using congrArg (·[index]?) hparts
  cases v with
  | scalar =>
      -- A scalar holds no field, and there is at least one.
      cases fields with
      | nil => exact absurd rfl hfields
      | cons field fields =>
          cases parts with
          | nil => cases hlength
          | cons part parts => cases hpart 0 field part rfl rfl
  | table origin named =>
      -- A table is ordered by names as the fields are, and so its fields are read in their order.
      have hnames : ((fields.zip parts).map fun pair => pair.1.name) = fields.map Field.name := by
        have hcompose : (fun pair : Field σ × Setting => pair.1.name) = Field.name ∘ Prod.fst := rfl
        rw [hcompose, ← List.map_map, List.map_fst_zip (Nat.le_of_eq hlength)]
      have hpairs : ∀ pair ∈ fields.zip parts, fields.find? (·.name == pair.1.name) = some pair.1 ∧
          named.lookup pair.1.name = some pair.2 := by
        intro pair hpair
        obtain ⟨index, hindex⟩ := List.mem_iff_getElem?.1 hpair
        obtain ⟨hfield, hvalue⟩ := List.getElem?_zip_eq_some.1 hindex
        exact ⟨find?_name_eq_some hsorted (List.mem_of_getElem? hfield),
          hpart index _ _ hfield hvalue⟩
      have hreads := @namedFields_eq_ok_iff _ _ s s' _ hv _ (hnames ▸ hsorted)
        (fun field hfield => hnames ▸ List.mem_map_of_mem hfield) hpairs
      rw [record_table_eq_ok_iff, hreads]
      exact and_congr_right fun _ => ⟨fun hset _ => hset, fun hset => hset rfl⟩
  | list origin items =>
      -- A list holds the fields by their places, and more items may follow.
      obtain ⟨rest, rfl⟩ : parts <+: items := by
        rw [List.prefix_iff_getElem?]
        intro index hindex
        have hfield : fields[index]? = some fields[index] := List.getElem?_eq_getElem _
        exact hpart index _ _ hfield (List.getElem?_eq_getElem hindex)
      have hzip : fields.zip (parts ++ rest) = fields.zip parts := by
        simpa using @List.zip_append _ _ fields [] parts rest hlength
      have hle : fields.length ≤ (parts ++ rest).length := by simp [hlength]
      simp only [record, bind_eq_ok_iff, Prod.exists, placedFields_eq_ok_iff hle, hzip, isTable]
      constructor
      · rintro ⟨last, count, ⟨rfl, hlast⟩, hcount⟩
        rw [if_neg (by omega)] at hcount
        cases hcount
        exact ⟨hlast, fun htable => absurd htable Bool.false_ne_true⟩
      · rintro ⟨hlast, -⟩
        exact ⟨s', _, ⟨rfl, hlast⟩, if_neg (by omega)⟩

/-- A list that is read as a record holds all the fields. -/
theorem isSome_part?_of_record {origin : SettingOrigin}
    (h : record title fields s (list origin items) = .ok s') {index : Nat}
    (hindex : index < fields.length) (name : String) :
    ((list origin items).part? name index).isSome := by
  simp only [record, bind_eq_ok_iff, Prod.exists] at h
  obtain ⟨last, count, hplaced, hcount⟩ := h
  have hle := count_of_placedFields hplaced
  split at hcount
  · cases hcount
  · simp only [part?, isSome_getElem?]
    omega

end Setting

end JsxTidy
