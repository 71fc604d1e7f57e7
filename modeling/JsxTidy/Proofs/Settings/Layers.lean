import JsxTidy.Proofs.Settings.Key

/-!
# What variables give to settings

A variable of the environment speaks in one layer and gives values to the keys below its path.
Within a layer the last value counts. One thing disturbs this: a section is merged field by field
only as long as all variables say tables for it, so a variable that says something else for a whole
section undoes what comes before it, and is undone by what comes behind it. The main result,
`SettingLayer.alike_merged`, says that a layer as a whole holds for each key the last value that is
not undone.
-/

namespace JsxTidy

/-- A layer of settings: the variables that speak in it, each about the place at its path. -/
structure SettingLayer where
  origin : SettingOrigin
  path? : Variable → Option (List String)

namespace SettingLayer

/-- The variables with the prefix. -/
def ofPrefix : SettingLayer :=
  ⟨.prefixed, Variable.prefixedPath?⟩

/-- The variable with a known name for a section. -/
def ofKnownName (part : SettingSection) : SettingLayer :=
  ⟨.plain, fun v => if v.isNamed part.knownName then some [part.name, part.knownField] else none⟩

/-- All layers over the built-in settings, the lowest first. -/
def all : List SettingLayer :=
  ofPrefix :: SettingSection.all.map ofKnownName

/-- What a variable says in a layer: its value behind its path. -/
def tree? (l : SettingLayer) (v : Variable) : Option Setting :=
  (l.path? v).map fun path => Setting.nest l.origin (v.setting l.origin) path

/-- What the variables of an environment say in a layer, in their order. -/
def trees (l : SettingLayer) (environment : List Variable) : List Setting :=
  environment.filterMap l.tree?

/-- What a layer says as a whole. -/
def merged (l : SettingLayer) (environment : List Variable) : Setting :=
  (l.trees environment).foldl Setting.merge (.table l.origin [])

end SettingLayer

/-- Whether two tables disagree about a section: both say something for it, but not both a table. -/
def SettingSection.clashes (part : SettingSection) (a b : Setting) : Bool :=
  match a.field? part.name, b.field? part.name with
  | some v, some w => !(v.isTable && w.isTable)
  | _, _ => false

namespace SettingKey

/-- Whether a later table undoes what an earlier one gives to a key. -/
def isUndone (key : SettingKey) (earlier later : Setting) : Bool :=
  match key.section? with
  | some part => part.clashes earlier later
  | none => false

/-- The last value that some tables give to a key and that is not undone by a later one. -/
def given? (key : SettingKey) : List Setting → Option Setting
  | [] => none
  | tree :: later =>
    (key.given? later).or (if later.any (key.isUndone tree) then none else key.held? tree)

/-- The value that counts for a key: of all layers that give one, beginning with the built-in
settings, that of the highest. -/
def source? (key : SettingKey) (environment : List Variable) : Option Setting :=
  SettingLayer.all.foldl (fun lower? l => (key.given? (l.trees environment)).or lower?)
    (key.held? Settings.builtIn.toSetting)

end SettingKey

namespace Setting

/-- Whether two values are the same, or at least both tables. -/
def Alike (a? b? : Option Setting) : Prop :=
  a? = b? ∨ a?.any isTable ∧ b?.any isTable

variable {v w x tree other : Setting} {old? : Option Setting} {key : SettingKey}
  {part : SettingSection} {later : List Setting}

/-! ## Merging under a name -/

@[simp] theorem mergeAt_none (old? : Option Setting) : mergeAt old? none = old? := by
  cases old? <;> rfl

@[simp] theorem none_mergeAt (new? : Option Setting) : mergeAt none new? = new? := by
  cases new? <;> rfl

/-- What comes later decides whether there is a table. -/
theorem exists_mergeAt (old? : Option Setting) (w : Setting) :
    ∃ v, mergeAt old? (some w) = some v ∧ v.isTable = w.isTable := by
  cases old? with
  | none => exact ⟨w, rfl, rfl⟩
  | some v => exact ⟨_, rfl, isTable_merge v w⟩

/-- A value that is no table replaces what is there. -/
theorem mergeAt_of_not_table (h : w.isTable = false) : mergeAt old? (some w) = some w := by
  cases old? with
  | none => rfl
  | some v => exact congrArg some (merge_of_not_both (by rw [h, Bool.and_false]))

/-- What is under a name is like the later value, or the earlier one if there is no later one. -/
theorem alike_mergeAt (old? new? : Option Setting) :
    Alike (mergeAt old? new?) (new?.or old?) := by
  cases new? with
  | none => exact .inl (by simp)
  | some w =>
      cases hw : w.isTable with
      | true =>
          obtain ⟨v, hv, htable⟩ := exists_mergeAt old? w
          exact .inr ⟨by rw [hv, Option.any_some, htable, hw], hw⟩
      | false => exact .inl (mergeAt_of_not_table hw)

namespace Alike

variable {a? b? c? : Option Setting}

theorem refl (a? : Option Setting) : Alike a? a? :=
  .inl rfl

theorem trans (h : Alike a? b?) (h' : Alike b? c?) : Alike a? c? := by
  rcases h with rfl | ⟨ha, hb⟩
  · exact h'
  · rcases h' with rfl | ⟨-, hc⟩
    · exact .inr ⟨ha, hb⟩
    · exact .inr ⟨ha, hc⟩

/-- What comes first takes the place of both alike. -/
theorem or_left (h : Alike a? b?) (first? : Option Setting) :
    Alike (first?.or a?) (first?.or b?) := by
  cases first? with
  | none => exact h
  | some v => exact .refl _

end Alike

/-! ## Sections of two tables -/

/-- Under a name, a merged tree has what both say about it. -/
theorem field?_merge_of_tree (hx : x.isTable) (htree : tree.Tree) (name : String) :
    (x.merge tree).field? name = mergeAt (x.field? name) (tree.field? name) :=
  field?_merge hx htree.isTable htree.ordered

/-- A section clashes like the table that says something for it last. -/
theorem clashes_merge (hx : x.isTable) (htree : tree.Tree) (other : Setting) :
    part.clashes (x.merge tree) other =
      if (tree.field? part.name).isSome then part.clashes tree other
      else part.clashes x other := by
  unfold SettingSection.clashes
  rw [field?_merge_of_tree hx htree]
  cases hnew : tree.field? part.name with
  | none => simp
  | some w =>
      obtain ⟨v, hv, htable⟩ := exists_mergeAt (x.field? part.name) w
      rw [hv]
      cases other.field? part.name <;> simp [htable]

/-- Two tables with tables for a section clash with the same ones. -/
theorem clashes_eq_clashes (hx : x.field? part.name = some v) (hv : v.isTable)
    (htree : tree.field? part.name = some w) (hw : w.isTable) (other : Setting) :
    part.clashes x other = part.clashes tree other := by
  unfold SettingSection.clashes
  rw [hx, htree]
  cases other.field? part.name <;> simp [hv, hw]

/-! ## One more table -/

/-- After one more table a key holds what the table gives it, or else what it held before, unless
that is undone. -/
theorem alike_merge (key : SettingKey) (hx : x.isTable) (htree : tree.Tree)
    (later : List Setting) :
    Alike (if later.any (key.isUndone (x.merge tree)) then none else key.held? (x.merge tree))
      ((if later.any (key.isUndone tree) then none else key.held? tree).or
        (if (tree :: later).any (key.isUndone x) then none else key.held? x)) := by
  cases hkey : key.section? with
  | none =>
      -- Nothing undoes a key that is in no section.
      have hundone : ∀ t, key.isUndone t = fun _ => false := fun t => by
        funext t'
        simp [SettingKey.isUndone, hkey]
      have hany : ∀ ts : List Setting, (ts.any fun _ => false) = false := by simp
      simp only [hundone, hany, SettingKey.held?, hkey, Bool.false_eq_true,
        if_false, field?_merge_of_tree hx htree]
      exact alike_mergeAt _ _
  | some part =>
      have hundone : ∀ t, key.isUndone t = part.clashes t := fun t => by
        funext t'
        simp [SettingKey.isUndone, hkey]
      simp only [hundone, SettingKey.held?, hkey, List.any_cons,
        field?_merge_of_tree hx htree]
      cases hw : tree.field? part.name with
      | none =>
          -- The table does not say the section, which stays what it was.
          have hsilent : ∀ t, part.clashes tree t = false := by simp [SettingSection.clashes, hw]
          have hagree : part.clashes x tree = false := by simp [SettingSection.clashes, hw]
          have hmerge : part.clashes (x.merge tree) = part.clashes x := by
            funext t
            simp [clashes_merge hx htree, hw]
          refine .inl ?_
          simp [hsilent, hagree, hmerge]
      | some w =>
          have hmerge : part.clashes (x.merge tree) = part.clashes tree := by
            funext t
            simp [clashes_merge hx htree, hw]
          rw [hmerge]
          cases hv : x.field? part.name with
          | none =>
              -- The section is said for the first time, so that nothing was held before.
              simp only [none_mergeAt, Option.bind_some, Option.bind_none, ite_self]
              rw [Option.or_none]
              exact .refl _
          | some v =>
              cases hboth : v.isTable && w.isTable with
              | false =>
                  -- One of the two is no table, and this table undoes what was held before.
                  have hclash : part.clashes x tree = true := by
                    simp only [SettingSection.clashes, hv, hw, hboth, Bool.not_false]
                  simp only [mergeAt, merge_of_not_both hboth, Option.bind_some, hclash,
                    Bool.true_or, if_true]
                  rw [Option.or_none]
                  exact .refl _
              | true =>
                  -- Two tables are merged key by key, and later tables undo both or neither.
                  obtain ⟨hvTable, hwTable⟩ := Bool.and_eq_true_iff.1 hboth
                  have hclash : part.clashes x tree = false := by
                    simp only [SettingSection.clashes, hv, hw, hboth, Bool.not_true]
                  have hsame : part.clashes x = part.clashes tree :=
                    funext (clashes_eq_clashes hv hvTable hw hwTable)
                  simp only [mergeAt, Option.bind_some, hclash, Bool.false_or, hsame]
                  split
                  · exact .refl _
                  · have hmerged : (v.merge w).isTable = true := by rw [isTable_merge, hwTable]
                    rw [SettingKey.part?_of_isTable hkey hmerged,
                      SettingKey.part?_of_isTable hkey hvTable,
                      SettingKey.part?_of_isTable hkey hwTable,
                      field?_merge hvTable hwTable (htree.given _ _ hw).ordered]
                    exact alike_mergeAt _ _

/-! ## Any number of tables -/

/-- After some more tables a key holds what they give it, or else what it held before, unless that
is undone. -/
theorem alike_foldl (key : SettingKey) {trees : List Setting} (htrees : ∀ t ∈ trees, t.Tree)
    (hx : x.isTable) :
    Alike (key.held? (trees.foldl merge x))
      ((key.given? trees).or (if trees.any (key.isUndone x) then none else key.held? x)) := by
  induction trees generalizing x with
  | nil => exact .inl (by simp [SettingKey.given?])
  | cons tree later ih =>
      obtain ⟨htree, hlater⟩ := List.forall_mem_cons.1 htrees
      have hrest := ih hlater (by rw [isTable_merge, htree.isTable] : (x.merge tree).isTable)
      rw [List.foldl_cons, SettingKey.given?, Option.or_assoc]
      exact hrest.trans ((alike_merge key hx htree later).or_left _)

end Setting

/-! ## Layers as a whole -/

open Setting

namespace Variable

/-- A text has one step at least. -/
theorem steps_ne_nil (text : List Char) : steps text ≠ [] := by
  cases text with
  | nil => exact List.cons_ne_nil _ _
  | cons c rest =>
      unfold steps
      split
      · exact List.cons_ne_nil _ _
      · split <;> exact List.cons_ne_nil _ _

/-- So has a path. -/
theorem path?_ne_nil {text : List Char} {path : List String} (h : path? text = some path) :
    path ≠ [] := by
  unfold path? at h
  simp only at h
  split at h
  · cases h
  · cases h
    simpa using steps_ne_nil _

end Variable

namespace SettingLayer

variable {l : SettingLayer} {environment : List Variable} {part : SettingSection} {name : String}
  {w : Setting}

/-- No variable speaks about the settings as a whole. -/
theorem path_ne_nil (hl : l ∈ all) {x : Variable} {path : List String} (h : l.path? x = some path) :
    path ≠ [] := by
  rcases List.mem_cons.1 hl with rfl | hl
  · obtain ⟨text, -, hpath⟩ := Option.bind_eq_some_iff.1 h
    exact Variable.path?_ne_nil hpath
  · obtain ⟨part, -, rfl⟩ := List.mem_map.1 hl
    simp only [ofKnownName, Option.ite_none_right_eq_some, Option.some.injEq] at h
    rw [← h.2]
    exact List.cons_ne_nil _ _

/-- Each variable of a layer gives a tree. -/
theorem tree_of_mem (environment : List Variable) (hl : l ∈ all) :
    ∀ t ∈ l.trees environment, t.Tree := by
  intro t ht
  obtain ⟨x, -, hx⟩ := List.mem_filterMap.1 ht
  obtain ⟨path, hpath, rfl⟩ := Option.map_eq_some_iff.1 hx
  exact tree_nest (given_ofText _ _) _ (path_ne_nil hl hpath)

/-- So does the layer as a whole. -/
theorem tree_merged (hl : l ∈ all) : (l.merged environment).Tree :=
  List.foldlRecOn _ _ (tree_empty _) fun _ hx t ht => hx.merge (tree_of_mem _ hl t ht)

/-- A layer as a whole holds for each key what its variables give. -/
theorem alike_merged (environment : List Variable) (hl : l ∈ all) (key : SettingKey) :
    Alike (key.held? (l.merged environment)) (key.given? (l.trees environment)) := by
  have hempty : ∀ name, (table l.origin []).field? name = none := fun _ => rfl
  have hheld : key.held? (table l.origin []) = none := by
    unfold SettingKey.held?
    split <;> simp [hempty]
  have hall := alike_foldl key (tree_of_mem environment hl)
    (rfl : (table l.origin []).isTable)
  rwa [hheld, ite_self, Option.or_none] at hall

/-- What the layer of a known name says for its section. -/
theorem merged_ofKnownName (part : SettingSection) (environment : List Variable) :
    (ofKnownName part).merged environment = table .plain [] ∨
      ∃ v, (ofKnownName part).merged environment =
        nest .plain v [part.name, part.knownField] := by
  refine List.foldlRecOn (motive := fun t => t = table .plain [] ∨
    ∃ v, t = nest .plain v [part.name, part.knownField]) _ _ (.inl rfl) ?_
  intro t ht tree htree
  obtain ⟨x, -, hx⟩ := List.mem_filterMap.1 htree
  obtain ⟨path, hpath, rfl⟩ := Option.map_eq_some_iff.1 hx
  simp only [ofKnownName, Option.ite_none_right_eq_some, Option.some.injEq] at hpath
  rw [← hpath.2]
  rcases ht with rfl | ⟨v, rfl⟩
  · exact .inr ⟨_, rfl⟩
  · refine .inr ⟨v.merge (x.setting .plain), ?_⟩
    simp [nest, merge, mergeFields, putField, ofKnownName]

/-- The layer of a known name has no other section than that of the name. -/
theorem ofKnownName_field?_of_ne (h : name ≠ part.name) :
    ((ofKnownName part).merged environment).field? name = none := by
  rcases merged_ofKnownName part environment with heq | ⟨v, heq⟩ <;> rw [heq]
  · rfl
  · rw [nest, field?_table_singleton, if_neg h]

/-- In that section it has no other field than the known one. -/
theorem ofKnownName_field? (h : ((ofKnownName part).merged environment).field? part.name = some w) :
    ∃ v, w = table .plain [(part.knownField, v)] := by
  rcases merged_ofKnownName part environment with heq | ⟨v, heq⟩ <;> rw [heq] at h
  · cases h
  · rw [nest, field?_table_singleton, if_pos rfl] at h
    exact ⟨v, (Option.some.inj h).symm⟩

theorem ofPrefix_mem_all : ofPrefix ∈ all :=
  List.mem_cons_self

theorem ofKnownName_mem_all (part : SettingSection) : ofKnownName part ∈ all :=
  List.mem_cons_of_mem _ (List.mem_map_of_mem part.mem_all)

end SettingLayer

end JsxTidy
