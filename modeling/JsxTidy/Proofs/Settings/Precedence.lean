import Mathlib.Data.List.Basic
import JsxTidy.Proofs.Settings.Sources
import JsxTidy.Provider.Setup

/-!
# Layers over layers

Settings come from layers: what is built in, the variables with the prefix over that, and the known
names over both. The main result, `load_layers`, says so for every environment that can be loaded:
which value counts for each key, what one more variable changes, and which providers are available
then. A variable that says something else for a whole section than a table is the one thing that
reaches beyond its own keys, and `disturbed_section` shows that.
-/

namespace JsxTidy

open Setting SettingLayer

/-! ## Variables -/

/-- What a variable gives to a key in a layer. -/
def SettingKey.gift? (key : SettingKey) (l : SettingLayer) (v : Variable) : Option Setting :=
  (l.tree? v).bind key.held?

namespace Variable

/-- The places that a variable is about. -/
def paths (v : Variable) : List (List String) :=
  SettingLayer.all.filterMap fun l => l.path? v

/-- Whether a variable is about nothing else than a key. -/
def NamesOnly (v : Variable) (key : SettingKey) : Prop :=
  ∀ path ∈ v.paths, path = key.path

/-- Whether a variable is about no key and no section. -/
def NamesNothing (v : Variable) : Prop :=
  ∀ path ∈ v.paths, path ∉ SettingKey.all.map SettingKey.path ∧
    path ∉ SettingSection.all.map fun part => [part.name]

instance (v : Variable) (key : SettingKey) : Decidable (v.NamesOnly key) :=
  inferInstanceAs (Decidable (∀ path ∈ v.paths, path = key.path))

instance (v : Variable) : Decidable v.NamesNothing :=
  inferInstanceAs (Decidable (∀ path ∈ v.paths, path ∉ SettingKey.all.map SettingKey.path ∧
    path ∉ SettingSection.all.map fun part => [part.name]))

/-- Whether two variables clash: in some layer they say something for the same section, but not both
a table. -/
def clashes (u v : Variable) : Bool :=
  SettingLayer.all.any fun l => (l.tree? u).any fun a => (l.tree? v).any fun b =>
    SettingSection.all.any fun part => part.clashes a b

end Variable

/-- The value that a key gets from the highest layer that gives it one, where of several variables
in a layer the last one counts. -/
def SettingKey.highest? (key : SettingKey) (environment : List Variable) : Option Setting :=
  SettingLayer.all.foldl
    (fun lower? l => (environment.filterMap (key.gift? l)).getLast?.or lower?)
    (key.held? Settings.builtIn.toSetting)

/-- Whether a provider is available under some settings. -/
def Settings.isAvailable (s : Settings) : ProviderId → Bool
  | .openai => s.openai.isConfigured
  | .groq => s.groq.isConfigured
  | .customFinetuned | .deterministic => true

variable {key other : SettingKey} {part : SettingSection} {before behind : List Setting}
  {tree w : Setting} {v : Variable} {earlier later environment : List Variable} {s s' : Settings}
  {path : List String} {origin : SettingOrigin} {l : SettingLayer}

/-! ## Taking a table out -/

/-- A table that undoes nothing before it, and gives a key at most a table that does not count, can
be taken out. -/
theorem SettingKey.given?_append_cons (hundone : ∀ t ∈ before, key.isUndone t tree = false)
    (hheld : ∀ w, key.held? tree = some w →
      w.isTable ∧ (key.given? (before ++ tree :: behind)).any isTable = false) :
    key.given? (before ++ tree :: behind) = key.given? (before ++ behind) := by
  induction before with
  | nil =>
      simp only [List.nil_append, given?] at hheld ⊢
      cases hgiven : key.given? behind with
      | some w => rfl
      | none =>
          rw [hgiven] at hheld
          simp only [Option.none_or] at hheld ⊢
          split at hheld <;> rename_i hlater
          · rw [if_pos hlater]
          · rw [if_neg hlater]
            cases htree : key.held? tree with
            | none => rfl
            | some w =>
                obtain ⟨htable, hnone⟩ := hheld w htree
                rw [htree, Option.any_some, htable] at hnone
                cases hnone
  | cons t before ih =>
      obtain ⟨ht, hbefore⟩ := List.forall_mem_cons.1 hundone
      have hrest : key.given? (before ++ tree :: behind) = key.given? (before ++ behind) := by
        refine ih hbefore fun w hw => ⟨(hheld w hw).1, ?_⟩
        have hnone := (hheld w hw).2
        rw [List.cons_append, given?] at hnone
        cases hgiven : key.given? (before ++ tree :: behind) with
        | none => rfl
        | some w => rwa [hgiven] at hnone
      simp only [List.cons_append, given?, hrest, List.any_append, List.any_cons, ht,
        Bool.false_or]

/-- A value that is no table comes from the last tables, whatever is before them, if there is no
such value before them. -/
theorem Setting.foldl_mergeAt_eq {a? : Option Setting} (ha : ∀ u, a? = some u → u.isTable)
    {values : List (Option Setting)} (hw : values.foldl mergeAt a? = some w)
    (htable : w.isTable = false) (b? : Option Setting) : values.foldl mergeAt b? = some w := by
  induction values generalizing a? b? with
  | nil =>
      rw [ha w hw] at htable
      cases htable
  | cons value? values ih =>
      rw [List.foldl_cons] at hw ⊢
      cases value? with
      | none =>
          rw [mergeAt_none] at hw ⊢
          exact ih ha hw b?
      | some u =>
          cases hu : u.isTable with
          | false =>
              rw [mergeAt_of_not_table hu] at hw ⊢
              exact hw
          | true =>
              refine ih (fun m hm => ?_) hw _
              obtain ⟨m', hm', htable'⟩ := exists_mergeAt a? u
              cases hm.symm.trans hm'
              rw [htable', hu]

/-- What is said as a whole for a section stays when a table that clashes with nothing before it is
put back. -/
theorem Setting.field?_foldl_append_cons {x : Setting} (hx : x.isTable)
    (hnone : x.field? part.name = none)
    (hbefore : ∀ t ∈ before, t.Tree) (htree : tree.Tree) (hbehind : ∀ t ∈ behind, t.Tree)
    (hcalm : ∀ t ∈ before, part.clashes t tree = false)
    (hw : ((before ++ behind).foldl merge x).field? part.name = some w)
    (htable : w.isTable = false) :
    ((before ++ tree :: behind).foldl merge x).field? part.name = some w := by
  have hwithout : ∀ t ∈ before ++ behind, t.Tree := by
    simpa [or_imp, forall_and] using And.intro hbefore hbehind
  have hwith : ∀ t ∈ before ++ tree :: behind, t.Tree := by
    simpa [or_imp, forall_and] using And.intro hbefore ⟨htree, hbehind⟩
  rw [field?_foldl hx hwithout, hnone, List.map_append, List.foldl_append] at hw
  rw [field?_foldl hx hwith, hnone, List.map_append, List.foldl_append, List.map_cons,
    List.foldl_cons]
  cases hu : tree.field? part.name with
  | none => rwa [mergeAt_none]
  | some u =>
      refine foldl_mergeAt_eq ?_ hw htable _
      -- Next to a table, what does not clash is a table as well.
      have hboth : ∀ t ∈ before, ∀ v, t.field? part.name = some v → v.isTable := by
        intro t ht v hv
        have hclash := hcalm t ht
        simp only [SettingSection.clashes, hv, hu, Bool.not_eq_false', Bool.and_eq_true] at hclash
        exact hclash.1
      refine List.foldlRecOn (motive := fun a? : Option Setting => ∀ v, a? = some v → v.isTable) _ _
        (fun v hv => by cases hv) fun a? ha value? hvalue => ?_
      obtain ⟨t, ht, rfl⟩ := List.mem_map.1 hvalue
      exact of_mergeAt (P := fun v => v.isTable = true)
        (fun old new _ hnew => by rw [isTable_merge, hnew]) ha (hboth t ht)

/-! ## Paths -/

theorem Setting.field?_nest {value : Setting} {name : String}
    (h : (nest origin value path).field? name = some w) (hpath : path ≠ []) :
    ∃ rest, path = name :: rest ∧ w = nest origin value rest := by
  cases path with
  | nil => exact absurd rfl hpath
  | cons step rest =>
      rw [nest, field?_table_singleton] at h
      split at h
      · rename_i hname
        cases h
        exact ⟨rest, by rw [hname], rfl⟩
      · cases h

theorem Setting.isTable_nest {value : Setting} (hpath : path ≠ []) :
    (nest origin value path).isTable := by
  cases path with
  | nil => exact absurd rfl hpath
  | cons step rest => rfl

/-- What a value behind a path gives to a key is behind the rest of the path, unless the value is
one for a whole section. -/
theorem SettingKey.held?_nest {value : Setting} (hpath : path ≠ [])
    (hsection : path ∉ SettingSection.all.map fun part => [part.name])
    (h : key.held? (nest origin value path) = some w) :
    ∃ rest, path = key.path ++ rest ∧ w = nest origin value rest := by
  unfold SettingKey.held? at h
  unfold SettingKey.path
  cases hkey : key.section? with
  | none =>
      rw [hkey] at h
      exact Setting.field?_nest h hpath
  | some part =>
      rw [hkey] at h
      obtain ⟨u, hu, hw⟩ := Option.bind_eq_some_iff.1 h
      obtain ⟨rest, rfl, rfl⟩ := Setting.field?_nest hu hpath
      have hrest : rest ≠ [] := fun hnil =>
        hsection (List.mem_map.2 ⟨part, part.mem_all, by rw [hnil]⟩)
      rw [SettingKey.part?_of_isTable hkey (isTable_nest hrest)] at hw
      obtain ⟨rest', rfl, rfl⟩ := Setting.field?_nest hw hrest
      exact ⟨rest', rfl, rfl⟩

/-- No key has its place inside that of another one. -/
theorem SettingKey.eq_of_path_eq {rest : List String} (h : other.path = key.path ++ rest) :
    other = key := by
  have hpaths : ∀ a ∈ SettingKey.all, ∀ b ∈ SettingKey.all, a.path.isPrefixOf b.path → b = a := by
    decide
  exact hpaths key key.mem_all other other.mem_all
    (List.isPrefixOf_iff_prefix.2 ⟨rest, h.symm⟩)

/-- The place of a key is not that of a section. -/
theorem SettingKey.path_not_section (key : SettingKey) :
    key.path ∉ SettingSection.all.map fun part => [part.name] := by
  have hpath : ∀ a ∈ SettingKey.all,
      a.path ∉ SettingSection.all.map fun part => [part.name] := by
    decide
  exact hpath key key.mem_all

/-! ## Gifts -/

theorem SettingLayer.trees_append_cons (l : SettingLayer) (earlier : List Variable) (v : Variable)
    (later : List Variable) :
    l.trees (earlier ++ v :: later) =
      l.trees earlier ++ ((l.tree? v).toList ++ l.trees later) := by
  unfold SettingLayer.trees
  rw [List.filterMap_append, List.filterMap_cons]
  cases l.tree? v <;> rfl

theorem Variable.clashes_eq_false {u v : Variable} {a b : Setting} (h : u.clashes v = false)
    (hl : l ∈ SettingLayer.all) (ha : l.tree? u = some a) (hb : l.tree? v = some b)
    (part : SettingSection) : part.clashes a b = false := by
  simp only [Variable.clashes, List.any_eq_false, Option.any_eq_false, Bool.not_eq_true] at h
  exact h l hl a ha b hb part part.mem_all

/-- Of two variables that do not clash, none undoes what the other one gives. -/
theorem SettingKey.isUndone_eq_false {u v : Variable} {a b : Setting} (h : u.clashes v = false)
    (hl : l ∈ SettingLayer.all) (ha : l.tree? u = some a) (hb : l.tree? v = some b)
    (key : SettingKey) : key.isUndone a b = false := by
  unfold SettingKey.isUndone
  split
  · exact Variable.clashes_eq_false h hl ha hb _
  · rfl

/-- Where a key gets nothing, nothing counts. -/
theorem SettingKey.given?_eq_none {trees : List Setting} (h : ∀ t ∈ trees, key.held? t = none) :
    key.given? trees = none := by
  induction trees with
  | nil => rfl
  | cons tree later ih =>
      obtain ⟨htree, hlater⟩ := List.forall_mem_cons.1 h
      rw [given?, ih hlater, htree, ite_self, Option.or_none]

/-- Where no variables clash, the last gift counts. -/
theorem SettingKey.given?_of_calm (hl : l ∈ SettingLayer.all)
    (hcalm : environment.Pairwise fun u v => u.clashes v = false) :
    key.given? (l.trees environment) = (environment.filterMap (key.gift? l)).getLast? := by
  induction environment with
  | nil => rfl
  | cons v environment ih =>
      obtain ⟨hv, hrest⟩ := List.pairwise_cons.1 hcalm
      unfold SettingLayer.trees at ih ⊢
      rw [List.filterMap_cons, List.filterMap_cons]
      cases htree : l.tree? v with
      | none =>
          have hgift : key.gift? l v = none := by rw [gift?, htree, Option.bind_none]
          rw [hgift]
          exact ih hrest
      | some tree =>
          have hgift : key.gift? l v = key.held? tree := by rw [gift?, htree, Option.bind_some]
          have hundone : (environment.filterMap l.tree?).any (key.isUndone tree) = false := by
            rw [List.any_eq_false]
            intro t ht
            obtain ⟨u, hu, hut⟩ := List.mem_filterMap.1 ht
            rw [Bool.not_eq_true]
            exact isUndone_eq_false (hv u hu) hl htree hut key
          simp only [given?, ih hrest, hundone, hgift, Bool.false_eq_true, if_false]
          cases key.held? tree with
          | none => rw [Option.or_none]
          | some w =>
            rw [List.getLast?_cons]
            cases (environment.filterMap (key.gift? l)).getLast? <;> rfl

/-- Where no variables clash, the value that counts is the last gift of the highest layer. -/
theorem SettingKey.source?_of_calm (hcalm : environment.Pairwise fun u v => u.clashes v = false) :
    key.source? environment = key.highest? environment := by
  unfold source? highest?
  refine List.foldl_ext _ _ _ fun lower? l hl => ?_
  rw [given?_of_calm hl hcalm]

/-- A variable that gives a key at most a table, and undoes nothing, leaves the value of the key in
a layer, unless that is a table. -/
theorem SettingKey.given?_trees_append_cons (hl : l ∈ SettingLayer.all)
    (hcalm : ∀ u ∈ earlier, u.clashes v = false)
    (hgift : ∀ w, key.gift? l v = some w → w.isTable) :
    key.given? (l.trees (earlier ++ v :: later)) = key.given? (l.trees (earlier ++ later)) ∨
      (key.given? (l.trees (earlier ++ v :: later))).any isTable := by
  rw [SettingLayer.trees_append_cons]
  have hwithout : l.trees (earlier ++ later) = l.trees earlier ++ l.trees later :=
    List.filterMap_append
  rw [hwithout]
  cases htree : l.tree? v with
  | none => exact .inl rfl
  | some tree =>
      cases htable : (key.given? (l.trees earlier ++ (tree :: l.trees later))).any isTable with
      | true => exact .inr htable
      | false =>
          refine .inl (given?_append_cons (fun t ht => ?_) fun w hw => ⟨hgift w ?_, htable⟩)
          · obtain ⟨u, hu, hut⟩ := List.mem_filterMap.1 ht
            exact isUndone_eq_false (hcalm u hu) hl hut htree key
          · rwa [gift?, htree, Option.bind_some]

/-- Of two stacks of layers where each layer is the same or says a table in the first, a value that
is no table at the top of the first is at the top of the second as well. -/
theorem Setting.foldl_or_eq {α : Type} {f g : α → Option Setting} {layers : List α}
    (h : ∀ l ∈ layers, f l = g l ∨ (f l).any isTable) {a? b? : Option Setting}
    (hsame : a? = b? ∨ a?.any isTable)
    (hfold : layers.foldl (fun lower? l => (f l).or lower?) a? = some w)
    (hw : w.isTable = false) : layers.foldl (fun lower? l => (g l).or lower?) b? = some w := by
  induction layers generalizing a? b? with
  | nil =>
      rw [List.foldl_nil] at hfold ⊢
      rcases hsame with rfl | htable
      · exact hfold
      · rw [hfold, Option.any_some, hw] at htable
        cases htable
  | cons l layers ih =>
      obtain ⟨hl, hlayers⟩ := List.forall_mem_cons.1 h
      rw [List.foldl_cons] at hfold ⊢
      refine ih hlayers ?_ hfold
      cases hf : f l with
      | none =>
          rw [hf] at hl
          rcases hl with hl | htable
          · rwa [← hl, Option.none_or]
          · cases htable
      | some u =>
          rw [hf] at hl
          rcases hl with hl | htable
          · exact .inl (by rw [← hl, Option.some_or, Option.some_or])
          · exact .inr htable

/-- A variable that gives a key at most a table, and undoes nothing, leaves the value of the key. -/
theorem SettingKey.source?_append_cons (hcalm : ∀ u ∈ earlier, u.clashes v = false)
    (hgift : ∀ l ∈ SettingLayer.all, ∀ w, key.gift? l v = some w → w.isTable)
    (hsource : key.source? (earlier ++ v :: later) = some w) (hw : w.isTable = false) :
    key.source? (earlier ++ later) = some w :=
  Setting.foldl_or_eq (fun l hl => given?_trees_append_cons hl hcalm (hgift l hl)) (.inl rfl)
    hsource hw

/-! ## What a variable is about -/

theorem Variable.exists_path_of_gift (hl : l ∈ SettingLayer.all) (h : key.gift? l v = some w) :
    ∃ path ∈ v.paths, path ≠ [] ∧
      key.held? (nest l.origin (v.setting l.origin) path) = some w := by
  obtain ⟨tree, htree, hw⟩ := Option.bind_eq_some_iff.1 h
  obtain ⟨path, hpath, rfl⟩ := Option.map_eq_some_iff.1 htree
  exact ⟨path, List.mem_filterMap.2 ⟨l, hl, hpath⟩, path_ne_nil hl hpath, hw⟩

namespace Variable

/-- A variable that is about one key gives nothing to the other ones. -/
theorem NamesOnly.gift?_eq_none (h : v.NamesOnly key) (hother : other ≠ key)
    (hl : l ∈ SettingLayer.all) : other.gift? l v = none := by
  cases hgift : other.gift? l v with
  | none => rfl
  | some w =>
      obtain ⟨path, hpath, hne, hheld⟩ := exists_path_of_gift hl hgift
      cases h path hpath
      obtain ⟨rest, hrest, -⟩ := SettingKey.held?_nest hne key.path_not_section hheld
      exact absurd (SettingKey.eq_of_path_eq hrest).symm hother

/-- A variable that is about no key gives a key at most a table, of what is inside it. -/
theorem NamesNothing.isTable_gift (h : v.NamesNothing) (hl : l ∈ SettingLayer.all)
    (hgift : key.gift? l v = some w) : w.isTable := by
  obtain ⟨path, hpath, hne, hheld⟩ := exists_path_of_gift hl hgift
  obtain ⟨hkey, hsection⟩ := h path hpath
  obtain ⟨rest, rfl, rfl⟩ := SettingKey.held?_nest hne hsection hheld
  refine isTable_nest fun hnil => hkey ?_
  rw [hnil, List.append_nil]
  exact List.mem_map_of_mem key.mem_all

/-- A variable that is about no key has no known name. -/
theorem NamesNothing.known (h : v.NamesNothing) (part : SettingSection) :
    (ofKnownName part).tree? v = none := by
  unfold SettingLayer.tree?
  rw [Option.map_eq_none_iff, Option.eq_none_iff_forall_not_mem]
  intro path hpath
  obtain ⟨hkey, -⟩ := h path (List.mem_filterMap.2 ⟨_, ofKnownName_mem_all part, hpath⟩)
  simp only [ofKnownName, Option.mem_def, Option.ite_none_right_eq_some, Option.some.injEq] at hpath
  refine hkey ?_
  rw [← hpath.2]
  cases part <;> decide

end Variable

namespace Settings

/-- What is said as a whole for a section is also said if a variable that clashes with nothing
before it is there. -/
theorem WholeSection.append_cons (h : WholeSection (earlier ++ later) part w)
    (hcalm : ∀ u ∈ earlier, u.clashes v = false) :
    WholeSection (earlier ++ v :: later) part w := by
  obtain ⟨hw, htable⟩ := h
  refine ⟨?_, htable⟩
  rw [SettingLayer.merged, trees, List.filterMap_append] at hw
  rw [SettingLayer.merged, trees_append_cons]
  cases htree : ofPrefix.tree? v with
  | none => exact hw
  | some tree =>
      have hmem := tree_of_mem (earlier ++ v :: later) ofPrefix_mem_all
      simp only [trees_append_cons, htree, Option.toList_some, List.singleton_append,
        List.forall_mem_append, List.forall_mem_cons] at hmem
      obtain ⟨hbefore, hmem, hbehind⟩ := hmem
      refine field?_foldl_append_cons rfl rfl hbefore hmem hbehind (fun t ht => ?_) hw htable
      obtain ⟨u, hu, hut⟩ := List.mem_filterMap.1 ht
      exact Variable.clashes_eq_false (hcalm u hu) ofPrefix_mem_all hut htree part

/-- What no variable gives a value stays as it is built in. -/
theorem get_eq_builtIn (h : load environment = .ok s)
    (hgift : ∀ l ∈ SettingLayer.all, ∀ v ∈ environment, key.gift? l v = none) :
    s.get key = builtIn.get key := by
  have hlayers : ∀ l ∈ SettingLayer.all, key.given? (l.trees environment) = none := by
    intro l hl
    refine SettingKey.given?_eq_none fun t ht => ?_
    obtain ⟨u, hu, hut⟩ := List.mem_filterMap.1 ht
    have hnone := hgift l hl u hu
    rwa [SettingKey.gift?, hut, Option.bind_some] at hnone
  have hsource : key.source? environment = key.held? builtIn.toSetting := by
    refine List.foldlRecOn (motive := (· = key.held? builtIn.toSetting)) _ _ rfl ?_
    intro lower? hlower l hl
    rw [hlayers l hl, hlower, Option.none_or]
  obtain ⟨a, ha, -, hread⟩ := (load_eq_ok_iff.1 h).1 key
  obtain ⟨b, hb, hbuiltIn⟩ := read_builtIn key
  cases (ha.symm.trans hsource).trans hb
  exact Except.ok.inj (hread.symm.trans hbuiltIn)

/-- A variable that is about one key alone changes nothing else. -/
theorem get_eq_of_namesOnly (h : load (earlier ++ v :: later) = .ok s)
    (hcalm : ∀ u ∈ earlier, u.clashes v = false) (hkey : v.NamesOnly key)
    (h' : load (earlier ++ later) = .ok s') (hother : other ≠ key) :
    s.get other = s'.get other := by
  obtain ⟨a, ha, htable, hread⟩ := (load_eq_ok_iff.1 h).1 other
  obtain ⟨b, hb, -, hread'⟩ := (load_eq_ok_iff.1 h').1 other
  have hsame := SettingKey.source?_append_cons hcalm
    (fun l hl w hw => nomatch (hkey.gift?_eq_none hother hl).symm.trans hw) ha htable
  cases hb.symm.trans hsame
  exact Except.ok.inj (hread.symm.trans hread')

/-- A variable that is about no key and no section changes nothing. -/
theorem load_eq_of_namesNothing (h : load (earlier ++ v :: later) = .ok s)
    (hcalm : ∀ u ∈ earlier, u.clashes v = false) (hnothing : v.NamesNothing) :
    load (earlier ++ later) = .ok s := by
  obtain ⟨hkeys, hwhole⟩ := load_eq_ok_iff.1 h
  refine load_eq_ok_iff.2 ⟨fun key => ?_, fun part w hw => ?_⟩
  · obtain ⟨a, ha, htable, hread⟩ := hkeys key
    exact ⟨a, SettingKey.source?_append_cons hcalm
      (fun l hl w hw => hnothing.isTable_gift hl hw) ha htable, htable, hread⟩
  · obtain ⟨hknown, hreads⟩ := hwhole part w (hw.append_cons hcalm)
    refine ⟨?_, hreads⟩
    rw [SettingLayer.merged, trees_append_cons, hnothing.known] at hknown
    rwa [SettingLayer.merged, trees, List.filterMap_append]

end Settings

/-! ## Available providers -/

namespace Registry

variable {World : Type} (transport : Http.Transport World)

theorem isRegistered_register (r : Registry World) (id next : ProviderId)
    (backend : Backend World) :
    (r.register id backend).isRegistered next = (decide (next = id) || r.isRegistered next) := by
  unfold isRegistered register
  by_cases h : next = id <;> simp [h]

theorem isRegistered_registerChat (r : Registry World) (id next : ProviderId) (c : ChatSettings) :
    (r.registerChat transport id c).isRegistered next =
      (decide (next = id) && c.isConfigured || r.isRegistered next) := by
  unfold registerChat ChatSettings.access? ChatSettings.isConfigured
  cases c.apiKey with
  | none => simp
  | some key =>
      cases hkey : key.isEmpty with
      | true => simp [hkey]
      | false => simp [hkey, isRegistered_register]

/-- With some settings, the providers are registered that are available then. -/
theorem registered_ofSettings (s : Settings) :
    (ofSettings transport s).registered = ProviderId.all.filter s.isAvailable := by
  refine List.filter_congr fun id _ => ?_
  unfold ofSettings standard
  simp only [isRegistered_register, isRegistered_registerChat]
  cases id <;> simp [Settings.isAvailable, isRegistered, empty]

end Registry

/-! ## Layers over layers -/

/-- When an environment can be loaded, every setting is what is read from the value that counts for
its key, which is the last one of the highest layer if no variables clash, and the built-in value
where there is none. A variable that clashes with none before it changes no setting but the one it
is about, and none at all if it is about none. The providers that hold a chat are available if there
is a key for them then, and the other ones always. -/
theorem load_layers (h : Settings.load environment = .ok s) :
    (∀ key : SettingKey, ∃ value, key.source? environment = some value ∧
      key.read value = .ok (s.get key)) ∧
    ((environment.Pairwise fun u v => u.clashes v = false) →
      ∀ key : SettingKey, key.source? environment = key.highest? environment) ∧
    (∀ key : SettingKey, (∀ l ∈ SettingLayer.all, ∀ v ∈ environment, key.gift? l v = none) →
      s.get key = Settings.builtIn.get key) ∧
    (∀ earlier v later, environment = earlier ++ v :: later →
      (∀ u ∈ earlier, u.clashes v = false) →
      (∀ key s', v.NamesOnly key → Settings.load (earlier ++ later) = .ok s' →
        ∀ other ≠ key, s.get other = s'.get other) ∧
      (v.NamesNothing → Settings.load (earlier ++ later) = .ok s)) ∧
    ∀ (World : Type) (transport : Http.Transport World),
      (Registry.ofSettings transport s).registered = ProviderId.all.filter s.isAvailable := by
  refine ⟨fun key => ?_, fun hcalm key => SettingKey.source?_of_calm hcalm,
    fun key hgift => Settings.get_eq_builtIn h hgift, ?_,
    fun World transport => Registry.registered_ofSettings transport s⟩
  · obtain ⟨value, hvalue, -, hread⟩ := (Settings.load_eq_ok_iff.1 h).1 key
    exact ⟨value, hvalue, hread⟩
  · rintro earlier v later rfl hcalm
    exact ⟨fun key s' hkey h' other hother => Settings.get_eq_of_namesOnly h hcalm hkey h' hother,
      Settings.load_eq_of_namesNothing h hcalm⟩

theorem Settings.load_eq_of_toOption (h : (load environment).toOption = some s) :
    load environment = .ok s := by
  cases hload : load environment with
  | error =>
      rw [hload] at h
      cases h
  | ok s' =>
      rw [hload] at h
      exact congrArg Except.ok (Option.some.inj h)

/-- A known name wins over a name with the prefix, one key is left out of a section, and one
variable names nothing. -/
theorem mixed_layers :
    let s : Settings := { Settings.builtIn with
      openai := { Settings.builtIn.openai with apiKey := some "k" }
      groq := { Settings.builtIn.groq with model := "m" } }
    let nameless : Variable := ⟨"CODE_CLEANUP_OPENAI__FOO", "1"⟩
    let earlier : List Variable :=
      [⟨"OPENAI_API_KEY", "k"⟩, ⟨"CODE_CLEANUP_OPENAI__API_KEY", "a"⟩]
    let later : List Variable := [⟨"CODE_CLEANUP_GROQ__MODEL", "m"⟩]
    Settings.load (earlier ++ nameless :: later) = .ok s ∧
      Settings.load (earlier ++ later) = .ok s ∧
      (Registry.ofSettings (fun _ => return none : Http.Transport Unit) s).registered =
        [.openai, .customFinetuned, .deterministic] := by
  intro s nameless earlier later
  have h : Settings.load (earlier ++ nameless :: later) = .ok s :=
    Settings.load_eq_of_toOption (by decide +kernel)
  obtain ⟨-, -, -, hone, hproviders⟩ := load_layers h
  obtain ⟨-, hnothing⟩ := hone earlier nameless later rfl (by decide +kernel)
  exact ⟨h, hnothing (by decide +kernel), hproviders Unit _⟩

/-- A variable that names nothing in a section undoes what is said for the section as a whole. -/
theorem disturbed_section :
    let whole : Variable := ⟨"CODE_CLEANUP_OPENAI", "[k,e,m,0.5,60]"⟩
    let nameless : Variable := ⟨"CODE_CLEANUP_OPENAI__FOO", "1"⟩
    nameless.NamesNothing ∧ Settings.load [whole, nameless] = .ok Settings.builtIn ∧
      Settings.load [whole] = .ok { Settings.builtIn with
        openai := ⟨some "k", "e", "m", .ofRatio Decimal.binary32 false ⟨5, 10⟩, 60⟩ } :=
  ⟨by decide +kernel, Settings.load_eq_of_toOption (by decide +kernel),
    Settings.load_eq_of_toOption (by decide +kernel)⟩

end JsxTidy
