import JsxTidy.Proofs.Settings.Layers

/-!
# Where settings come from

All layers are merged over what is built in, and settings are read from the result. The main
result, `Settings.load_eq_ok_iff`, says the same without merging: for each key the value of the
highest layer that gives one is read. Only sections that are said as a whole have to be looked at
besides, since they are read from one list.
-/

namespace JsxTidy

open Setting SettingLayer

variable {environment : List Variable} {v w : Setting} {key : SettingKey}
  {part : SettingSection} {name : String} {s : Settings}

namespace Setting.Alike

variable {a? b? c? d? : Option Setting}

theorem or (h : Alike a? b?) (h' : Alike c? d?) : Alike (a?.or c?) (b?.or d?) := by
  rcases h with rfl | ⟨ha, hb⟩
  · exact h'.or_left _
  · cases a? with
    | none => cases ha
    | some a =>
        cases b? with
        | none => cases hb
        | some b => exact .inr ⟨ha, hb⟩

/-- What is no table is alike to itself alone. -/
theorem eq_of_not_table (h : Alike (some v) b?) (hv : v.isTable = false) : b? = some v := by
  rcases h with rfl | ⟨htable, -⟩
  · rfl
  · rw [Option.any_some, hv] at htable
    cases htable

theorem symm (h : Alike a? b?) : Alike b? a? := by
  rcases h with rfl | ⟨ha, hb⟩
  · exact .refl _
  · exact .inr ⟨hb, ha⟩

theorem none_left (h : Alike none b?) : b? = none := by
  rcases h with rfl | ⟨htable, -⟩
  · rfl
  · cases htable

end Setting.Alike

theorem Setting.isSome_mergeAt {old? new? : Option Setting} (h : old?.isSome) :
    (mergeAt old? new?).isSome := by
  cases new? with
  | none => rwa [mergeAt_none]
  | some w =>
      obtain ⟨v, hv, -⟩ := exists_mergeAt old? w
      rw [hv]
      rfl

/-! ## All layers -/

/-- What is under a name when some tables are merged. -/
theorem Setting.field?_foldl {x : Setting} (hx : x.isTable) {trees : List Setting}
    (htrees : ∀ t ∈ trees, t.Tree) (name : String) :
    (trees.foldl merge x).field? name =
      (trees.map (field? name)).foldl mergeAt (x.field? name) := by
  induction trees generalizing x with
  | nil => rfl
  | cons tree rest ih =>
      obtain ⟨htree, hrest⟩ := List.forall_mem_cons.1 htrees
      have hmerged : (x.merge tree).isTable := by rw [isTable_merge, htree.isTable]
      rw [List.foldl_cons, ih hmerged hrest, field?_merge_of_tree hx htree]
      rfl

namespace Settings

/-- The layers are merged over what is built in, one after the other. -/
theorem merged_eq (environment : List Variable) : merged environment =
    (SettingLayer.all.map (·.merged environment)).foldl merge builtIn.toSetting := rfl

theorem trees_merged (environment : List Variable) :
    ∀ t ∈ SettingLayer.all.map (·.merged environment), t.Tree := by
  intro t ht
  obtain ⟨l, hl, rfl⟩ := List.mem_map.1 ht
  exact tree_merged hl

theorem ordered_toSetting_builtIn : builtIn.toSetting.Ordered := by
  have hnames : ["custom", "default_provider", "groq", "openai", "spread_policy"].Pairwise
      (· < ·) := by decide
  exact List.pairwise_map.1 hnames

/-- The merged table is in order. -/
theorem ordered_merged (environment : List Variable) : (merged environment).Ordered :=
  List.foldlRecOn _ _ ordered_toSetting_builtIn fun _ hx _ ht =>
    hx.merge (trees_merged environment _ ht).ordered

theorem isTable_merged (environment : List Variable) : (merged environment).isTable :=
  List.foldlRecOn (motive := fun x : Setting => x.isTable = true) _ _ rfl fun x _ t ht => by
    rw [isTable_merge, (trees_merged environment t ht).isTable]

/-- What there is for a section: the built-in table, the variables with the prefix and the known
name of the section. -/
theorem field?_merged_section (environment : List Variable) (part : SettingSection) :
    (merged environment).field? part.name =
      mergeAt (mergeAt (builtIn.toSetting.field? part.name)
          ((ofPrefix.merged environment).field? part.name))
        (((ofKnownName part).merged environment).field? part.name) := by
  rw [merged_eq, field?_foldl rfl (trees_merged environment)]
  have hother : ∀ other : SettingSection, other ≠ part →
      ((ofKnownName other).merged environment).field? part.name = none := by
    intro other hne
    exact ofKnownName_field?_of_ne (by revert hne; cases other <;> cases part <;> decide)
  cases part <;>
    simp [SettingLayer.all, SettingSection.all, hother]

/-- What there is for a choice: the built-in one and the variables with the prefix. -/
theorem field?_merged_choice (environment : List Variable) (hkey : key.section? = none) :
    (merged environment).field? key.name =
      mergeAt (builtIn.toSetting.field? key.name)
        ((ofPrefix.merged environment).field? key.name) := by
  rw [merged_eq, field?_foldl rfl (trees_merged environment)]
  have hnone : ∀ part : SettingSection,
      ((ofKnownName part).merged environment).field? key.name = none := by
    intro part
    refine ofKnownName_field?_of_ne ?_
    cases key <;> cases hkey <;> cases part <;> decide
  simp [SettingLayer.all, SettingSection.all, hnone]

/-- The built-in table of a section holds all of its keys. -/
theorem builtIn_section (part : SettingSection) : ∃ b : Setting,
    builtIn.toSetting.field? part.name = some b ∧ b.isTable ∧ b.Ordered ∧
      ∀ key : SettingKey, key.section? = some part → (key.part? b).isSome := by
  have hchat : ["api_key", "endpoint", "model", "temperature", "timeout_secs"].Pairwise
      (· < ·) := by decide
  have hcustom : ["endpoint", "timeout_secs"].Pairwise (· < ·) := by decide
  cases part with
  | openai =>
      refine ⟨_, rfl, rfl, List.pairwise_map.1 hchat, fun key hkey => ?_⟩
      cases key <;> cases hkey
      rename_i key
      cases key <;> rfl
  | groq =>
      refine ⟨_, rfl, rfl, List.pairwise_map.1 hchat, fun key hkey => ?_⟩
      cases key <;> cases hkey
      rename_i key
      cases key <;> rfl
  | custom =>
      refine ⟨_, rfl, rfl, List.pairwise_map.1 hcustom, fun key hkey => ?_⟩
      cases key <;> cases hkey
      rename_i key
      cases key <;> rfl

/-! ## Sources -/

/-- The layer of a known name gives nothing to the keys of other sections. -/
theorem given?_ofKnownName_of_ne (h : key.section? ≠ some part) :
    key.given? ((ofKnownName part).trees environment) = none := by
  have halike := alike_merged environment (ofKnownName_mem_all part) key
  have hheld : key.held? ((ofKnownName part).merged environment) = none := by
    unfold SettingKey.held?
    split
    · refine ofKnownName_field?_of_ne ?_
      rename_i hkey
      cases key <;> cases hkey <;> cases part <;> decide
    · rename_i other hkey
      have hne : other.name ≠ part.name := by
        rw [hkey] at h
        revert h
        cases other <;> cases part <;> decide
      rw [ofKnownName_field?_of_ne hne]
      rfl
  rw [hheld] at halike
  exact halike.none_left

/-- A key of a section is looked up by its known name, then by the prefix, then in what is built
in. -/
theorem source?_section (hkey : key.section? = some part) : key.source? environment =
    (key.given? ((ofKnownName part).trees environment)).or
      ((key.given? (ofPrefix.trees environment)).or (key.held? builtIn.toSetting)) := by
  have hother : ∀ other : SettingSection, other ≠ part →
      key.given? ((ofKnownName other).trees environment) = none := fun other hne =>
    given?_ofKnownName_of_ne (by rw [hkey]; exact fun heq => hne (Option.some.inj heq).symm)
  cases part <;> simp [SettingKey.source?, SettingLayer.all, SettingSection.all, hother]

/-- A key outside all sections has no known name. -/
theorem source?_choice (hkey : key.section? = none) : key.source? environment =
    (key.given? (ofPrefix.trees environment)).or (key.held? builtIn.toSetting) := by
  have hother : ∀ other : SettingSection,
      key.given? ((ofKnownName other).trees environment) = none := fun other =>
    given?_ofKnownName_of_ne (by rw [hkey]; exact nofun)
  simp [SettingKey.source?, SettingLayer.all, SettingSection.all, hother]

/-! ## Sections -/

/-- Over a table what comes next is a table, with the parts of both, if it is one itself. -/
theorem exists_mergeAt_table {m : Setting} (hm : m.isTable) (hordered : m.Ordered)
    (part : SettingSection) {next? : Option Setting}
    (hnext : ∀ u, next? = some u → u.isTable ∧ u.Ordered) :
    ∃ u, mergeAt (some m) next? = some u ∧ u.isTable ∧ u.Ordered ∧
      ∀ key : SettingKey, key.section? = some part →
        key.part? u = mergeAt (key.part? m) (next?.bind key.part?) := by
  cases next? with
  | none => exact ⟨m, rfl, hm, hordered, fun key _ => (mergeAt_none _).symm⟩
  | some u =>
      obtain ⟨hu, huOrdered⟩ := hnext u rfl
      have hmerged : (m.merge u).isTable := by rw [isTable_merge, hu]
      refine ⟨m.merge u, rfl, hmerged, hordered.merge huOrdered, fun key hkey => ?_⟩
      rw [SettingKey.part?_of_isTable hkey hmerged, field?_merge hm hu huOrdered,
        Option.bind_some, SettingKey.part?_of_isTable hkey hm, SettingKey.part?_of_isTable hkey hu]

/-- Unless the variables with the prefix say something else for a section than a table, the section
is a table that holds what counts for each key. -/
theorem section_of_table (hlower : ∀ u, (ofPrefix.merged environment).field? part.name = some u →
      u.isTable) :
    ∃ u, (merged environment).field? part.name = some u ∧ u.Ordered ∧
      ∀ key : SettingKey, key.section? = some part →
        ∃ v, key.part? u = some v ∧ Alike (some v) (key.source? environment) := by
  obtain ⟨b, hb, hbTable, hbOrdered, hbParts⟩ := builtIn_section part
  obtain ⟨m, hm, hmTable, hmOrdered, hmParts⟩ := exists_mergeAt_table hbTable hbOrdered part
    fun u hu => ⟨hlower u hu, ((tree_merged ofPrefix_mem_all).given _ u hu).ordered⟩
  have hknown : ∀ u, ((ofKnownName part).merged environment).field? part.name = some u →
      u.isTable ∧ u.Ordered := by
    intro u hu
    obtain ⟨v, rfl⟩ := ofKnownName_field? hu
    exact ⟨rfl, List.pairwise_singleton _ _⟩
  obtain ⟨u, hu, -, huOrdered, huParts⟩ := exists_mergeAt_table hmTable hmOrdered part hknown
  refine ⟨u, by rw [field?_merged_section, hb, hm, hu], huOrdered, fun key hkey => ?_⟩
  have hheld : ∀ t : Setting, key.held? t = (t.field? part.name).bind key.part? := fun t => by
    simp [SettingKey.held?, hkey]
  have hlayers := (alike_merged environment (ofKnownName_mem_all part) key).or
    ((alike_merged environment ofPrefix_mem_all key).or
      (.refl (key.held? builtIn.toSetting)))
  rw [← source?_section hkey, hheld, hheld, hheld, hb, Option.bind_some] at hlayers
  have hparts := (alike_mergeAt _ _).trans (((alike_mergeAt _ _).or_left _).trans hlayers)
  have hsome : (key.part? u).isSome := by
    rw [huParts key hkey, hmParts key hkey]
    exact isSome_mergeAt (isSome_mergeAt (hbParts key hkey))
  rw [← hmParts key hkey, ← huParts key hkey] at hparts
  obtain ⟨v, hv⟩ := Option.isSome_iff_exists.1 hsome
  exact ⟨v, hv, hv ▸ hparts⟩

/-- If the variables with the prefix say something else for a section than a table, the section is
that, unless the known name of the section says more. -/
theorem section_of_whole (hw : (ofPrefix.merged environment).field? part.name = some w)
    (htable : w.isTable = false) : (merged environment).field? part.name =
      some ((((ofKnownName part).merged environment).field? part.name).getD w) := by
  rw [field?_merged_section, hw, mergeAt_of_not_table htable]
  cases ((ofKnownName part).merged environment).field? part.name with
  | none => rfl
  | some u => exact congrArg some (merge_of_not_both (by rw [htable, Bool.false_and]))

/-- A choice is a value that counts for it and that is given. -/
theorem choice_alike (environment : List Variable) (hkey : key.section? = none) :
    ∃ v, (merged environment).field? key.name = some v ∧ v.Given ∧
      Alike (some v) (key.source? environment) := by
  obtain ⟨b, hb, hbGiven⟩ : ∃ b : Setting, builtIn.toSetting.field? key.name = some b ∧
      b.isTable = false ∧ b.Given := by
    cases key with
    | defaultProvider | spreadPolicy => exact ⟨_, rfl, rfl, rfl, trivial, nofun⟩
    | openai | groq | custom => cases hkey
  have hheld : ∀ t : Setting, key.held? t = t.field? key.name := fun t => by
    simp [SettingKey.held?, hkey]
  have hlayers := (alike_merged environment ofPrefix_mem_all key).or
    (.refl (key.held? builtIn.toSetting))
  rw [← source?_choice hkey, hheld, hheld] at hlayers
  have hmerged := (alike_mergeAt _ _).trans hlayers
  rw [← field?_merged_choice environment hkey] at hmerged
  cases hw : (ofPrefix.merged environment).field? key.name with
  | none =>
      refine ⟨b, ?_, hbGiven.2, ?_⟩
      · rw [field?_merged_choice environment hkey, hb, hw, mergeAt_none]
      · rwa [field?_merged_choice environment hkey, hb, hw, mergeAt_none] at hmerged
  | some w =>
      have hmerge : mergeAt (some b) (some w) = some w :=
        congrArg some (merge_of_not_both (by rw [hbGiven.1, Bool.false_and]))
      refine ⟨w, ?_, (tree_merged ofPrefix_mem_all).given _ w hw, ?_⟩
      · rw [field?_merged_choice environment hkey, hb, hw, hmerge]
      · rwa [field?_merged_choice environment hkey, hb, hw, hmerge] at hmerged

/-- Settings are loaded choice by choice and section by section. -/
theorem load_eq_ok_iff_parts : load environment = .ok s ↔
    (∀ key : SettingKey, key.section? = none →
      ∃ v, (merged environment).field? key.name = some v ∧ key.read v = .ok (s.get key)) ∧
    ∀ part : SettingSection,
      ∃ v, (merged environment).field? part.name = some v ∧ s.ReadsSection part v := by
  have hload : load environment = .ok s ↔
      record "struct CleanupConfig" fields builtIn (merged environment) = .ok s := by
    unfold load
    split <;> rename_i h <;> simp [h]
  rw [hload, record_eq_ok_iff (ordered_merged environment) (isTable_merged environment)]
  · intro key hkey
    obtain ⟨v, hv, -⟩ := choice_alike environment hkey
    rw [hv]
    rfl
  · intro part
    rw [field?_merged_section]
    obtain ⟨b, hb, -⟩ := builtIn_section part
    exact isSome_mergeAt (isSome_mergeAt (by rw [hb]; rfl))

/-- What the variables with the prefix say for a section as a whole, if it is no table. -/
def WholeSection (environment : List Variable) (part : SettingSection) (w : Setting) : Prop :=
  (ofPrefix.merged environment).field? part.name = some w ∧ w.isTable = false

/-- A section that is said as a whole is read from that, and its known name may say nothing. -/
theorem readsSection_iff_of_whole (hw : WholeSection environment part w) :
    (∃ v, (merged environment).field? part.name = some v ∧ s.ReadsSection part v) ↔
      ((ofKnownName part).merged environment).field? part.name = none ∧ s.ReadsSection part w := by
  rw [section_of_whole hw.1 hw.2]
  cases hknown : ((ofKnownName part).merged environment).field? part.name with
  | none => simp
  | some u =>
      obtain ⟨v, rfl⟩ := ofKnownName_field? hknown
      simp only [Option.getD_some, Option.some.injEq, exists_eq_left', reduceCtorEq, false_and,
        iff_false]
      exact not_readsSection_singleton

/-- A section that is read from what is said as a whole gives each of its keys what counts for
it. -/
theorem exists_part_of_whole (hw : WholeSection environment part w)
    (hknown : ((ofKnownName part).merged environment).field? part.name = none)
    (hreads : s.ReadsSection part w) (hkey : key.section? = some part) :
    ∃ v, key.part? w = some v ∧ Alike (some v) (key.source? environment) := by
  obtain ⟨v, hv⟩ : ∃ v, key.part? w = some v := by
    obtain ⟨-, htable⟩ := hw
    cases w with
    | scalar => exact absurd hreads not_readsSection_scalar
    | list => exact Option.isSome_iff_exists.1 (hreads.isSome_part? hkey)
    | table => cases htable
  have hlower := alike_merged environment ofPrefix_mem_all key
  have hsilent := alike_merged environment (ofKnownName_mem_all part) key
  simp only [SettingKey.held?, hkey, hw.1, hknown, Option.bind_some, Option.bind_none, hv]
    at hlower hsilent
  refine ⟨v, hv, ?_⟩
  rw [source?_section hkey, hsilent.none_left, Option.none_or]
  exact hlower.or (.refl (key.held? builtIn.toSetting))

/-- A section gives each of its keys what counts for it, if it can be read where it is said as a
whole. -/
theorem section_alike (hwhole : ∀ w, WholeSection environment part w →
      ((ofKnownName part).merged environment).field? part.name = none ∧ s.ReadsSection part w) :
    ∃ u, (merged environment).field? part.name = some u ∧ u.Ordered ∧
      ∀ key : SettingKey, key.section? = some part →
        ∃ v, key.part? u = some v ∧ Alike (some v) (key.source? environment) := by
  by_cases hw : ∃ w, WholeSection environment part w
  · obtain ⟨w, hw⟩ := hw
    obtain ⟨hknown, hreads⟩ := hwhole w hw
    refine ⟨w, ?_, ((tree_merged ofPrefix_mem_all).given _ w hw.1).ordered, fun key hkey =>
      exists_part_of_whole hw hknown hreads hkey⟩
    rw [section_of_whole hw.1 hw.2, hknown, Option.getD_none]
  · refine section_of_table fun u hu => ?_
    cases htable : u.isTable with
    | true => rfl
    | false => exact absurd ⟨u, hu, htable⟩ hw

/-- Loading succeeds with some settings when for each key the value that counts is read as what they
have, and each section that is said as a whole is read from that. -/
theorem load_eq_ok_iff : load environment = .ok s ↔
    (∀ key : SettingKey, ∃ v, key.source? environment = some v ∧ v.isTable = false ∧
      key.read v = .ok (s.get key)) ∧
    ∀ part w, WholeSection environment part w →
      ((ofKnownName part).merged environment).field? part.name = none ∧
        s.ReadsSection part w := by
  rw [load_eq_ok_iff_parts]
  constructor
  · rintro ⟨hchoices, hsections⟩
    have hwhole : ∀ part w, WholeSection environment part w →
        ((ofKnownName part).merged environment).field? part.name = none ∧
          s.ReadsSection part w := fun part w hw =>
      (readsSection_iff_of_whole hw).1 (hsections part)
    refine ⟨fun key => ?_, hwhole⟩
    cases hkey : key.section? with
    | none =>
        obtain ⟨v, hv, hread⟩ := hchoices key hkey
        obtain ⟨w, hw, hgiven, halike⟩ := choice_alike environment hkey
        cases hv.symm.trans hw
        have htable := isTable_of_read hgiven hread
        exact ⟨v, halike.eq_of_not_table htable, htable, hread⟩
    | some part =>
        -- A key of a section is read with the section. What is alike is the same if it is no table.
        obtain ⟨u, hu, hordered, hparts⟩ := section_alike (hwhole part)
        obtain ⟨u', hu', hreads⟩ := hsections part
        cases hu.symm.trans hu'
        have hsome : ∀ key : SettingKey, key.section? = some part → (key.part? u).isSome :=
          fun key hkey => by
            obtain ⟨v, hv, -⟩ := hparts key hkey
            rw [hv]
            rfl
        obtain ⟨v, hv, hread⟩ := (readsSection_iff hordered hsome).1 hreads key hkey
        obtain ⟨v', hv', halike⟩ := hparts key hkey
        cases hv.symm.trans hv'
        have htable := isTable_of_read_part hkey hread
        exact ⟨v, halike.eq_of_not_table htable, htable, hread⟩
  · rintro ⟨hkeys, hwhole⟩
    refine ⟨fun key hkey => ?_, fun part => ?_⟩
    · obtain ⟨v, hv, hgiven, halike⟩ := choice_alike environment hkey
      obtain ⟨w, hsource, htable, hread⟩ := hkeys key
      rw [hsource] at halike
      cases halike.symm.eq_of_not_table htable
      exact ⟨v, hv, hread⟩
    · obtain ⟨u, hu, hordered, hparts⟩ := section_alike (hwhole part)
      have hread : ∀ key : SettingKey, key.section? = some part →
          ∃ v, key.part? u = some v ∧ key.read v = .ok (s.get key) := fun key hkey => by
        obtain ⟨v, hv, halike⟩ := hparts key hkey
        obtain ⟨w, hsource, htable, hread⟩ := hkeys key
        rw [hsource] at halike
        cases halike.symm.eq_of_not_table htable
        exact ⟨v, hv, hread⟩
      refine ⟨u, hu, (readsSection_iff hordered fun key hkey => ?_).2 hread⟩
      obtain ⟨v, hv, -⟩ := hread key hkey
      rw [hv]
      rfl

/-- Where what is built in counts, it is what is set. -/
theorem reads_builtIn_iff
    (hsource : key.source? environment = key.held? builtIn.toSetting) :
    (∃ v, key.source? environment = some v ∧ v.isTable = false ∧ key.read v = .ok (s.get key)) ↔
      s.get key = builtIn.get key := by
  obtain ⟨b, hb, hread⟩ := read_builtIn key
  have htable : b.isTable = false := by
    cases hkey : key.section? with
    | some part => exact isTable_of_read_part hkey hread
    | none =>
        cases key with
        | defaultProvider | spreadPolicy =>
            cases hb
            rfl
        | openai | groq | custom => cases hkey
  rw [hsource, hb]
  constructor
  · rintro ⟨v, hv, -, hs⟩
    cases hv
    exact Except.ok.inj (hs.symm.trans hread)
  · intro hs
    exact ⟨b, rfl, htable, hs ▸ hread⟩

end Settings

end JsxTidy
