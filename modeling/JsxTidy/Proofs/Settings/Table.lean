import JsxTidy.Settings.Environment

/-!
# Tables of settings

The fields of a table are sorted by their names and each name stands there once. Every operation on
tables keeps that, and so a table is known by what it has under each name: `field?_merge` says what
two tables have when they are merged. What a variable of the environment gives is a `Tree`
(`tree_nest`), and so is what several of them give (`Tree.merge`).
-/

namespace JsxTidy

namespace Setting

/-- Whether fields are sorted by their names and no name stands there twice. -/
def InOrder (fields : List (String × Setting)) : Prop :=
  fields.Pairwise fun a b => a.1 < b.1

/-- Whether the fields of a value are in order, if it is a table. -/
def Ordered : Setting → Prop
  | table _ fields => InOrder fields
  | scalar .. | list .. => True

/-- Whether a value is a table. -/
def isTable : Setting → Bool
  | table .. => true
  | scalar .. | list .. => false

/-- What a table has under a name. -/
def field? (name : String) : Setting → Option Setting
  | table _ fields => fields.lookup name
  | scalar .. | list .. => none

/-- Whether a value says that there is none. -/
def isAbsent : Setting → Bool
  | scalar _ .absent => true
  | scalar .. | list .. | table .. => false

/-- A value that a text can mean. -/
structure Given (v : Setting) : Prop where
  present : v.isAbsent = false
  ordered : v.Ordered
  filled : ∀ name w, v.field? name = some w → w.isAbsent = false

/-- A table of values that texts can mean. -/
structure Tree (v : Setting) : Prop where
  isTable : v.isTable
  ordered : v.Ordered
  given : ∀ name w, v.field? name = some w → w.Given

/-- What is under a name when a later layer is merged over an earlier one. -/
def mergeAt : Option Setting → Option Setting → Option Setting
  | old?, none => old?
  | none, some new => some new
  | some old, some new => some (old.merge new)

variable {name other : String} {value v old new : Setting} {origin : SettingOrigin}
  {fields oldFields newFields : List (String × Setting)}

/-! ## One field -/

/-- The first field comes before all others of its name. -/
theorem lookup_cons_ite (name first : String) (v : Setting) (rest : List (String × Setting)) :
    ((first, v) :: rest).lookup name = if name = first then some v else rest.lookup name := by
  by_cases h : name = first
  · subst h
    simp
  · simp [List.lookup_cons, beq_eq_false_iff_ne.2 h, h]

/-- A field that is put into a table is found there, and changes no other one. -/
theorem lookup_putField (name other : String) (value : Setting)
    (fields : List (String × Setting)) :
    (putField name value fields).lookup other =
      if other = name then some value else fields.lookup other := by
  induction fields using putField.induct name with
  | case1 => rw [putField, lookup_cons_ite]
  | case2 first v rest hlt => rw [putField, if_pos hlt, lookup_cons_ite]
  | case3 v rest hlt =>
      rw [putField, if_neg hlt, if_pos rfl, lookup_cons_ite, lookup_cons_ite]
      split <;> rfl
  | case4 first v rest hlt hne ih =>
      rw [putField, if_neg hlt, if_neg hne, lookup_cons_ite, lookup_cons_ite, ih]
      by_cases h : other = name
      · have hfirst : ¬ other = first := fun heq => hne (h.symm.trans heq)
        rw [if_neg hfirst, if_pos h, if_pos h]
      · rw [if_neg h, if_neg h]

/-- Nothing else comes into the table. -/
theorem mem_putField {field : String × Setting} (h : field ∈ putField name value fields) :
    field = (name, value) ∨ field ∈ fields := by
  induction fields using putField.induct name with
  | case1 => exact .inl (by simpa [putField] using h)
  | case2 first v rest hlt => simpa [putField, hlt] using h
  | case3 v rest hlt =>
      rw [putField, if_neg hlt, if_pos rfl] at h
      exact (List.mem_cons.1 h).imp_right (List.mem_cons_of_mem _)
  | case4 first v rest hlt hne ih =>
      rw [putField, if_neg hlt, if_neg hne] at h
      rcases List.mem_cons.1 h with rfl | h
      · exact .inr List.mem_cons_self
      · exact (ih h).imp_right (List.mem_cons_of_mem _)

/-- The fields stay in order. -/
theorem InOrder.putField (h : InOrder fields) : InOrder (putField name value fields) := by
  induction fields using putField.induct name with
  | case1 => simp [Setting.putField, InOrder]
  | case2 first v rest hlt =>
      rw [Setting.putField, if_pos hlt]
      refine List.pairwise_cons.2 ⟨fun field hfield => ?_, h⟩
      rcases List.mem_cons.1 hfield with rfl | hfield
      · exact hlt
      · exact String.lt_trans hlt ((List.pairwise_cons.1 h).1 field hfield)
  | case3 v rest hlt =>
      rw [Setting.putField, if_neg hlt, if_pos rfl]
      exact List.pairwise_cons.2 (List.pairwise_cons.1 h)
  | case4 first v rest hlt hne ih =>
      rw [Setting.putField, if_neg hlt, if_neg hne]
      obtain ⟨hfirst, hrest⟩ := List.pairwise_cons.1 h
      have hbefore : first < name := Decidable.byContradiction fun hnot =>
        hne (String.le_antisymm (String.not_lt.1 hnot) (String.not_lt.1 hlt))
      refine List.pairwise_cons.2 ⟨fun field hfield => ?_, ih hrest⟩
      rcases mem_putField hfield with rfl | hfield
      · exact hbefore
      · exact hfirst field hfield

/-- A table has under a name what stands there. -/
theorem InOrder.lookup_of_mem (h : InOrder fields) (hmem : (name, value) ∈ fields) :
    fields.lookup name = some value := by
  induction fields with
  | nil => cases hmem
  | cons field rest ih =>
      obtain ⟨first, v⟩ := field
      obtain ⟨hfirst, hrest⟩ := List.pairwise_cons.1 h
      rw [lookup_cons_ite]
      rcases List.mem_cons.1 hmem with heq | hbehind
      · cases heq
        rw [if_pos rfl]
      · have hne : ¬ name = first := fun heq =>
          String.lt_irrefl first (heq ▸ hfirst _ hbehind)
        rw [if_neg hne]
        exact ih hrest hbehind

/-! ## Merging -/

/-- So they do when several are put into a table. -/
theorem InOrder.mergeFields (h : InOrder oldFields) :
    InOrder (mergeFields oldFields newFields) := by
  induction newFields generalizing oldFields with
  | nil => exact h
  | cons field rest ih =>
      rw [Setting.mergeFields]
      split <;> exact ih h.putField

/-- In a merged table, a field has what both tables say about it. -/
theorem lookup_mergeFields (h : InOrder newFields) :
    (mergeFields oldFields newFields).lookup name =
      mergeAt (oldFields.lookup name) (newFields.lookup name) := by
  induction newFields generalizing oldFields with
  | nil => cases hold : oldFields.lookup name <;> simp [Setting.mergeFields, mergeAt, hold]
  | cons field rest ih =>
      obtain ⟨first, v⟩ := field
      obtain ⟨hfirst, hrest⟩ := List.pairwise_cons.1 h
      have hnone : rest.lookup first = none := by
        rw [List.lookup_eq_none_iff]
        intro field hfield
        rw [bne_iff_ne]
        intro heq
        exact String.lt_irrefl _ (heq ▸ hfirst field hfield)
      rw [Setting.mergeFields, lookup_cons_ite]
      by_cases hname : name = first
      · subst hname
        split <;> rename_i hold <;>
          simp [ih hrest, lookup_putField, hnone, hold, mergeAt]
      · split <;> simp [ih hrest, lookup_putField, hname]

/-- The newer setting says whether the merged one is a table. -/
@[simp] theorem isTable_merge (old new : Setting) : (old.merge new).isTable = new.isTable := by
  cases new with
  | scalar | list => rfl
  | table origin fields => cases old <;> rfl

/-- It says as well whether the merged one is missing. -/
@[simp] theorem isAbsent_merge (old new : Setting) :
    (old.merge new).isAbsent = new.isAbsent := by
  cases new with
  | scalar | list => rfl
  | table origin fields => cases old <;> rfl

/-- A value replaces an earlier one unless both are tables. -/
theorem merge_of_not_both (h : (old.isTable && new.isTable) = false) : old.merge new = new := by
  cases new with
  | scalar | list => rfl
  | table origin fields =>
      cases old with
      | scalar | list => rfl
      | table => simp [isTable] at h

/-- Tables in order merge to one in order, at every depth. -/
theorem Ordered.merge (hold : old.Ordered) (hnew : new.Ordered) : (old.merge new).Ordered := by
  cases new with
  | scalar | list => trivial
  | table origin fields =>
      cases old with
      | scalar | list => exact hnew
      | table => exact InOrder.mergeFields hold

/-- Two tables that are merged have under a name what both have there. -/
theorem field?_merge (hold : old.isTable) (hnew : new.isTable) (h : new.Ordered) :
    (old.merge new).field? name = mergeAt (old.field? name) (new.field? name) := by
  cases old with
  | scalar | list => cases hold
  | table =>
      cases new with
      | scalar | list => cases hnew
      | table => exact lookup_mergeFields h

/-- What holds of both values under a name holds of the merged one if merging keeps it. -/
theorem of_mergeAt {P : Setting → Prop} {old? new? : Option Setting}
    (hmerge : ∀ old new, P old → P new → P (old.merge new)) (hold : ∀ w, old? = some w → P w)
    (hnew : ∀ w, new? = some w → P w) : ∀ w, mergeAt old? new? = some w → P w := by
  intro w hw
  cases new? with
  | none => exact hold w (by cases old? <;> exact hw)
  | some new =>
      cases old? with
      | none => exact hnew w hw
      | some old =>
          cases hw
          exact hmerge old new (hold old rfl) (hnew new rfl)

/-- What two texts can mean merges to something that a text can mean. -/
theorem Given.merge (hold : old.Given) (hnew : new.Given) : (old.merge new).Given where
  present := by rw [isAbsent_merge, hnew.present]
  ordered := hold.ordered.merge hnew.ordered
  filled := by
    cases hboth : old.isTable && new.isTable with
    | false =>
        rw [merge_of_not_both hboth]
        exact hnew.filled
    | true =>
        obtain ⟨holdTable, hnewTable⟩ := Bool.and_eq_true_iff.1 hboth
        intro name
        rw [field?_merge holdTable hnewTable hnew.ordered]
        exact of_mergeAt (P := fun w => w.isAbsent = false)
          (fun old new _ hnew => by rw [isAbsent_merge, hnew]) (hold.filled name)
          (hnew.filled name)

/-- Two tables of such values merge to one. -/
theorem Tree.merge (hold : old.Tree) (hnew : new.Tree) : (old.merge new).Tree where
  isTable := by rw [isTable_merge, hnew.isTable]
  ordered := hold.ordered.merge hnew.ordered
  given := by
    intro name
    rw [field?_merge hold.isTable hnew.isTable hnew.ordered]
    exact of_mergeAt (fun _ _ => Given.merge) (hold.given name) (hnew.given name)

/-- The table without fields. -/
theorem tree_empty (origin : SettingOrigin) : (table origin []).Tree where
  isTable := rfl
  ordered := List.Pairwise.nil
  given := by
    intro name w h
    cases h

/-- A table with one field has no other one. -/
theorem field?_table_singleton (origin : SettingOrigin) (step name : String) (v : Setting) :
    (table origin [(step, v)]).field? name = if name = step then some v else none :=
  lookup_cons_ite name step v []

/-- A value behind a path is a table unless the path is empty. -/
theorem Given.nest (h : v.Given) (origin : SettingOrigin) (path : List String) :
    (nest origin v path).Given := by
  induction path with
  | nil => exact h
  | cons step path ih =>
      refine ⟨rfl, List.pairwise_singleton _ _, fun name w hw => ?_⟩
      rw [Setting.nest, field?_table_singleton] at hw
      split at hw
      · cases hw
        exact ih.present
      · cases hw

/-- A setting at the end of a path lies in a tree of tables. -/
theorem tree_nest (h : v.Given) (origin : SettingOrigin) {path : List String} (hpath : path ≠ []) :
    (nest origin v path).Tree := by
  cases path with
  | nil => exact absurd rfl hpath
  | cons step path =>
      refine ⟨rfl, List.pairwise_singleton _ _, fun name w hw => ?_⟩
      rw [Setting.nest, field?_table_singleton] at hw
      split at hw
      · cases hw
        exact h.nest origin path
      · cases hw

end Setting

/-! ## Values that are written as text -/

namespace SettingLiteral

/-- Whether what a reader returns is as it is to be. -/
def Returns {α : Type} (reader : Reader α) (P : α → Prop) : Prop :=
  ∀ text a rest, reader text = some (a, rest) → P a

variable {α β : Type} {P : α → Prop} {Q : β → Prop}

/-- Nothing has to be said about what a reader returns. -/
theorem Returns.any (reader : Reader α) : Returns reader fun _ => True :=
  fun _ _ _ _ => trivial

/-- What reads nothing returns what it is given. -/
theorem Returns.pure {a : α} (h : P a) : Returns (pure a : Reader α) P := by
  rintro text a' rest ⟨⟩
  exact h

/-- The second of two readers depends on what the first one returns. -/
theorem Returns.bind {reader : Reader α} {next : α → Reader β} (h : Returns reader P)
    (hnext : ∀ a, P a → Returns (next a) Q) : Returns (reader >>= next) Q := by
  intro text b rest hread
  obtain ⟨⟨a, behind⟩, ha, hb⟩ := Option.bind_eq_some_iff.1 hread
  exact hnext a (h text a behind ha) behind b rest hb

/-- Blanks make no difference. -/
theorem Returns.spaced {reader : Reader α} (h : Returns reader P) : Returns (spaced reader) P :=
  .bind (.any _) fun _ _ => .bind h fun _ ha => .bind (.any _) fun _ _ => .pure ha

/-- All items are alike if each of them is. -/
theorem returns_itemsFrom {item : Reader α} (h : Returns item P) (ending : Char) (fuel : Nat)
    {found : List α} (hfound : ∀ a ∈ found, P a) :
    Returns (itemsFrom item ending fuel found) fun items => ∀ a ∈ items, P a := by
  induction fuel generalizing found with
  | zero =>
      intro text items rest hread
      cases hread
  | succ fuel ih =>
      have hmore : ∀ one, P one → ∀ a ∈ one :: found, P a := by
        intro one hone a ha
        rcases List.mem_cons.1 ha with rfl | ha
        · exact hone
        · exact hfound a ha
      unfold itemsFrom
      refine .bind (.any _) fun isEnding _ => ?_
      split
      · exact .pure fun a ha => hfound a (List.mem_reverse.1 ha)
      refine .bind h fun one hone => .bind (.any _) fun isComma _ => ?_
      split
      · exact ih (hmore one hone)
      · exact .bind (.any _) fun _ _ => .pure fun a ha => hmore one hone a (List.mem_reverse.1 ha)

/-- The same in brackets. -/
theorem returns_items {item : Reader α} (h : Returns item P) (opening ending : Char) :
    Returns (items item opening ending) fun items => ∀ a ∈ items, P a :=
  .bind (.any _) fun _ _ => .bind (.any _) fun _ _ => returns_itemsFrom h ending _ nofun

/-- A plain text is never missing. -/
theorem isAbsent_plain (origin : SettingOrigin) (text : List Char) :
    (Setting.scalar origin (plain text)).isAbsent = false := by
  unfold plain
  split <;> rfl

open Setting in
/-- A table that is made of fields has them in order, and nothing else. -/
theorem given_ofFields {fields : List (String × Setting)}
    (h : ∀ field ∈ fields, field.2.isAbsent = false) (origin : SettingOrigin) :
    (ofFields origin fields).Given := by
  have hsorted : InOrder (fields.foldl (fun sorted field => putField field.1 field.2 sorted) []) :=
    List.foldlRecOn fields _ List.Pairwise.nil fun _ hsorted _ _ => hsorted.putField
  refine ⟨rfl, hsorted, ?_⟩
  refine List.foldlRecOn (motive := fun sorted : List (String × Setting) =>
    ∀ name w, sorted.lookup name = some w → w.isAbsent = false) fields _ nofun ?_
  intro sorted hfilled field hfield name w hw
  rw [lookup_putField] at hw
  split at hw
  · cases hw
    exact h field hfield
  · exact hfilled name w hw

/-- A value with values inside is given if they are. -/
theorem returns_valueAround (origin : SettingOrigin) {inner : Reader Setting}
    (h : Returns inner Setting.Given) : Returns (valueAround origin inner) Setting.Given := by
  have hscalar : ∀ value, (Setting.scalar origin value).isAbsent = false →
      (Setting.scalar origin value).Given := fun value hvalue => ⟨hvalue, trivial, nofun⟩
  unfold valueAround
  refine .bind (.any _) fun isTrue _ => ?_
  split
  · exact .pure (hscalar _ rfl)
  refine .bind (.any _) fun isFalse _ => ?_
  split
  · exact .pure (hscalar _ rfl)
  refine .bind (.any _) fun first _ => ?_
  split
  · have hfield : Returns (do
          let name ← spaced key
          eat '='
          return (name, ← spaced inner)) fun field : String × Setting =>
        field.2.isAbsent = false :=
      .bind (.any _) fun _ _ => .bind (.any _) fun _ _ => .bind h.spaced fun _ hv =>
        .pure hv.present
    exact .bind (returns_items hfield _ _) fun fields hfields =>
      .pure (given_ofFields hfields origin)
  · exact .bind (.any _) fun items _ => .pure ⟨rfl, trivial, nofun⟩
  · exact .bind (.any _) fun text _ => .pure (hscalar _ rfl)
  · exact .bind (.any _) fun _ _ => .bind (.any _) fun c _ => .bind (.any _) fun _ _ =>
      .pure (hscalar _ rfl)
  · exact .bind (.any _) fun text _ => .pure (hscalar _ (isAbsent_plain origin _))

/-- So is each value, to any depth. -/
theorem returns_value (origin : SettingOrigin) (depth : Nat) :
    Returns (value origin depth) Setting.Given := by
  induction depth with
  | zero =>
      intro text v rest hread
      cases hread
  | succ depth ih => exact (returns_valueAround origin ih).spaced

end SettingLiteral

/-- What a text means is a value that a text can mean. -/
theorem Setting.given_ofText (origin : SettingOrigin) (text : List Char) :
    (Setting.ofText origin text).Given := by
  unfold Setting.ofText
  split
  · exact SettingLiteral.returns_value origin _ _ _ _ ‹_›
  · exact ⟨rfl, trivial, nofun⟩

end JsxTidy
