import JsxTidy.Proofs.Settings.Precedence
import JsxTidy.Proofs.Settings.Texts

/-!
# Keys and addresses from the environment

Each section has a field that a known name of the environment is for: the keys of the providers that
hold a chat, and the address of the refactoring server. The main result, `Settings.load_known`, says
which settings there are if nothing else than these names is set.
-/

namespace JsxTidy

open Setting SettingLayer SettingLiteral

/-- The key that the known name of a section is for. -/
def SettingSection.knownKey : SettingSection → SettingKey
  | openai => .openai .apiKey
  | groq => .groq .apiKey
  | custom => .custom .endpoint

/-- The variables that give values to known names. -/
def knownVariables (values : SettingSection → Option String) : List Variable :=
  SettingSection.all.filterMap fun part => (values part).map (Variable.mk part.knownName)

/-- The settings with some texts for the known names, and what is built in otherwise. -/
def Settings.ofKnown (texts : SettingSection → Option String) : Settings :=
  { builtIn with
    openai := { builtIn.openai with apiKey := texts .openai }
    groq := { builtIn.groq with apiKey := texts .groq }
    custom := { builtIn.custom with endpoint := (texts .custom).getD builtIn.custom.endpoint } }

variable {value : String} {v : Setting} {part : SettingSection}
  {values : SettingSection → Option String} {environment : List Variable}

/-! ## Variables with known names -/

/-- A known name is no path behind the prefix. -/
theorem Variable.prefixedPath?_known (part : SettingSection) (value : String) :
    prefixedPath? ⟨part.knownName, value⟩ = none := by
  -- The path is that of the name, so any value will do.
  have hpath : ∀ part ∈ SettingSection.all, prefixedPath? ⟨part.knownName, ""⟩ = none := by
    decide +kernel
  exact hpath part part.mem_all

/-- A known name speaks in its own layer only. -/
theorem SettingLayer.path?_known (part other : SettingSection) (value : String) :
    (ofKnownName part).path? ⟨other.knownName, value⟩ =
      if part = other then some part.knownKey.path else none := by
  have hnamed : ∀ part ∈ SettingSection.all, ∀ other ∈ SettingSection.all,
      Variable.isNamed part.knownName ⟨other.knownName, ""⟩ = decide (part = other) := by
    decide +kernel
  have hpath : part.knownKey.path = [part.name, part.knownField] := by cases part <;> rfl
  show (if Variable.isNamed part.knownName ⟨other.knownName, ""⟩ then _ else none) = _
  rw [hnamed part part.mem_all other other.mem_all, hpath]
  simp

theorem exists_of_mem_known (h : environment.Perm (knownVariables values)) {v : Variable}
    (hv : v ∈ environment) : ∃ part value, v = ⟨SettingSection.knownName part, value⟩ := by
  obtain ⟨part, -, hv⟩ := List.mem_filterMap.1 (h.mem_iff.1 hv)
  obtain ⟨value, -, rfl⟩ := Option.map_eq_some_iff.1 hv
  exact ⟨part, value, rfl⟩

theorem ofPrefix_trees_known (h : environment.Perm (knownVariables values)) :
    ofPrefix.trees environment = [] := by
  refine List.filterMap_eq_nil_iff.2 fun v hv => ?_
  obtain ⟨part, value, rfl⟩ := exists_of_mem_known h hv
  unfold SettingLayer.tree?
  rw [show ofPrefix.path? = Variable.prefixedPath? from rfl, Variable.prefixedPath?_known]
  rfl

theorem ofKnownName_trees_known (h : environment.Perm (knownVariables values))
    (part : SettingSection) : (ofKnownName part).trees environment =
      ((values part).map fun value => nest .plain
        (Variable.setting .plain ⟨part.knownName, value⟩) part.knownKey.path).toList := by
  have hperm := h.filterMap (ofKnownName part).tree?
  have htree : ∀ other value, (ofKnownName part).tree? ⟨SettingSection.knownName other, value⟩ =
      if part = other then some (nest .plain (Variable.setting .plain ⟨other.knownName, value⟩)
        part.knownKey.path) else none := by
    intro other value
    unfold SettingLayer.tree?
    rw [path?_known]
    split <;> rfl
  have hknown : (knownVariables values).filterMap (ofKnownName part).tree? =
      ((values part).map fun value => nest .plain
        (Variable.setting .plain ⟨part.knownName, value⟩) part.knownKey.path).toList := by
    have hgift : ∀ other, ((values other).map (Variable.mk other.knownName)).bind
        (ofKnownName part).tree? = if part = other then (values part).map fun value => nest .plain
          (Variable.setting .plain ⟨part.knownName, value⟩) part.knownKey.path else none := by
      intro other
      by_cases hpart : part = other
      · cases hpart
        cases values part <;> simp [htree]
      · cases values other <;> simp [htree, hpart]
    unfold knownVariables
    rw [List.filterMap_filterMap, List.filterMap_congr fun other _ => hgift other]
    cases part <;> simp [SettingSection.all] <;> cases values _ <;> rfl
  rw [hknown] at hperm
  cases hvalue : values part with
  | none =>
      rw [hvalue] at hperm
      exact hperm.eq_nil
  | some value =>
      rw [hvalue] at hperm
      exact List.perm_singleton.1 hperm

/-! ## What counts for each key -/

namespace Settings

theorem get_ofKnown_knownKey (texts : SettingSection → Option String) (part : SettingSection) :
    (ofKnown texts).get part.knownKey = (ofKnown fun _ => texts part).get part.knownKey := by
  cases part <;> rfl

theorem get_ofKnown_other (texts : SettingSection → Option String) {key : SettingKey}
    (hkey : ∀ part : SettingSection, key ≠ part.knownKey) :
    (ofKnown texts).get key = builtIn.get key := by
  rcases key with _ | _ | key | key | key
  · rfl
  · rfl
  · cases key with
    | apiKey => exact absurd rfl (hkey .openai)
    | endpoint | model | temperature | timeoutSecs => rfl
  · cases key with
    | apiKey => exact absurd rfl (hkey .groq)
    | endpoint | model | temperature | timeoutSecs => rfl
  · cases key with
    | endpoint => exact absurd rfl (hkey .custom)
    | timeoutSecs => rfl

theorem get_ofKnown_none (part : SettingSection) :
    (ofKnown fun _ => none).get part.knownKey = builtIn.get part.knownKey := by
  cases part <;> rfl

end Settings

namespace SettingSection

theorem knownKey_section (part : SettingSection) : part.knownKey.section? = some part := by
  cases part <;> rfl

/-- What is read for a known name is a text. -/
theorem read_knownKey_eq_ok_iff (hv : v.isAbsent = false) {a : part.knownKey.Value} :
    part.knownKey.read v = .ok a ↔
      ∃ t, string v = .ok t ∧ a = (Settings.ofKnown fun _ => some t).get part.knownKey := by
  have hoptional : ∀ key? : Option String, optional string v = .ok key? ↔
      ∃ t, string v = .ok t ∧ key? = some t := by
    intro key?
    have hmap : optional string v = some <$> string v := by
      unfold Setting.optional
      split
      · cases hv
      · rfl
    rw [hmap, map_eq_ok_iff]
    simp only [eq_comm]
  cases part with
  | openai => exact hoptional a
  | groq => exact hoptional a
  | custom =>
      exact ⟨fun ha => ⟨a, ha, rfl⟩, fun ⟨t, ht, ha⟩ => ha ▸ ht⟩

end SettingSection

section

variable (h : environment.Perm (knownVariables values))

include h

theorem given?_ofPrefix_known (key : SettingKey) :
    key.given? (ofPrefix.trees environment) = none := by
  rw [ofPrefix_trees_known h]
  rfl

/-- For the known name of a section its value counts, or what is built in. -/
theorem source?_knownKey (part : SettingSection) : part.knownKey.source? environment =
    ((values part).map fun value => Variable.setting .plain ⟨part.knownName, value⟩).or
      (part.knownKey.held? Settings.builtIn.toSetting) := by
  rw [Settings.source?_section part.knownKey_section, given?_ofPrefix_known h,
    ofKnownName_trees_known h, Option.none_or]
  cases values part with
  | none => rfl
  | some value => cases part <;> rfl

/-- For all other keys counts what is built in. -/
theorem source?_other {key : SettingKey} (hkey : ∀ part : SettingSection, key ≠ part.knownKey) :
    key.source? environment = key.held? Settings.builtIn.toSetting := by
  cases hsection : key.section? with
  | none => rw [Settings.source?_choice hsection, given?_ofPrefix_known h, Option.none_or]
  | some part =>
      have hgiven : key.given? ((ofKnownName part).trees environment) = none := by
        refine SettingKey.given?_eq_none fun tree htree => ?_
        rw [ofKnownName_trees_known h] at htree
        obtain ⟨value, -, rfl⟩ := Option.map_eq_some_iff.1 (Option.mem_toList.1 htree)
        rw [Option.eq_none_iff_forall_not_mem]
        intro w hw
        obtain ⟨rest, hrest, -⟩ := SettingKey.held?_nest (by cases part <;> exact nofun)
          part.knownKey.path_not_section hw
        exact hkey part (SettingKey.eq_of_path_eq hrest).symm
      rw [Settings.source?_section hsection, hgiven, given?_ofPrefix_known h, Option.none_or,
        Option.none_or]

theorem not_wholeSection_known {w : Setting} : ¬ Settings.WholeSection environment part w := by
  rintro ⟨hw, -⟩
  rw [SettingLayer.merged, ofPrefix_trees_known h] at hw
  cases hw

/-- What is read for a known name is what its value says, or what is built in. -/
theorem reads_knownKey_iff {s : Settings} (part : SettingSection) :
    (∃ v, part.knownKey.source? environment = some v ∧ v.isTable = false ∧
        part.knownKey.read v = .ok (s.get part.knownKey)) ↔
      ∃ text?, Option.Rel SaysText (values part) text? ∧
        s.get part.knownKey = (Settings.ofKnown fun _ => text?).get part.knownKey := by
  have hsource := source?_knownKey h part
  cases hvalue : values part with
  | none =>
      rw [hvalue] at hsource
      rw [Settings.reads_builtIn_iff hsource, ← Settings.get_ofKnown_none]
      constructor
      · intro hs
        exact ⟨none, .none, hs⟩
      · rintro ⟨_, hrel, hs⟩
        cases hrel
        exact hs
  | some value =>
      rw [hvalue, Option.map_some, Option.some_or] at hsource
      have hgiven := given_ofText .plain (Text.trim value.toList)
      have hmeant : ∀ t, string (Variable.setting .plain ⟨part.knownName, value⟩) = .ok t ↔
          SaysText value t := fun t => Variable.string_setting_eq_ok_iff
      change (Variable.setting .plain ⟨part.knownName, value⟩).Given at hgiven
      generalize Variable.setting .plain ⟨part.knownName, value⟩ = v at hsource hgiven hmeant
      rw [hsource]
      constructor
      · rintro ⟨_, ⟨⟩, -, hv⟩
        obtain ⟨t, ht, hget⟩ := (SettingSection.read_knownKey_eq_ok_iff hgiven.present).1 hv
        exact ⟨some t, .some ((hmeant t).1 ht), hget⟩
      · rintro ⟨_, hrel, hget⟩
        cases hrel with
        | @some _ t ht =>
            have hv := (SettingSection.read_knownKey_eq_ok_iff hgiven.present).2
              ⟨t, (hmeant t).2 ht, hget⟩
            exact ⟨v, rfl, Settings.isTable_of_read_part part.knownKey_section hv, hv⟩

/-- Settings are loaded if each value of a known name says a text, and then they hold these. -/
theorem load_known_eq_ok_iff {s : Settings} : Settings.load environment = .ok s ↔
    ∃ texts, (∀ part, Option.Rel SaysText (values part) (texts part)) ∧
      s = Settings.ofKnown texts := by
  rw [Settings.load_eq_ok_iff, and_iff_left fun part w hw => absurd hw (not_wholeSection_known h)]
  constructor
  · intro hkeys
    -- The settings are those with the texts that were read, since they agree in every key.
    choose texts hrel hget using fun part => (reads_knownKey_iff h part).1 (hkeys _)
    refine ⟨texts, hrel, Settings.eq_of_get fun key => ?_⟩
    by_cases hkey : ∃ part : SettingSection, key = part.knownKey
    · obtain ⟨part, rfl⟩ := hkey
      rw [hget, Settings.get_ofKnown_knownKey texts]
    · rw [not_exists] at hkey
      rw [(Settings.reads_builtIn_iff (source?_other h hkey)).1 (hkeys key),
        Settings.get_ofKnown_other texts hkey]
  · rintro ⟨texts, hrel, rfl⟩ key
    by_cases hkey : ∃ part : SettingSection, key = part.knownKey
    · obtain ⟨part, rfl⟩ := hkey
      exact (reads_knownKey_iff h part).2
        ⟨texts part, hrel part, Settings.get_ofKnown_knownKey texts part⟩
    · rw [not_exists] at hkey
      exact (Settings.reads_builtIn_iff (source?_other h hkey)).2
        (Settings.get_ofKnown_other texts hkey)

end

/-! ## What is taken over -/

theorem exists_of_rel_some {text? : Option String} (h : Option.Rel SaysText (some value) text?) :
    ∃ text, text? = some text ∧ SaysText value text := by
  cases h with
  | some ht => exact ⟨_, rfl, ht⟩

theorem eq_of_get_knownKey {text text' : String}
    (h : (Settings.ofKnown fun _ => some text).get part.knownKey =
      (Settings.ofKnown fun _ => some text').get part.knownKey) : text = text' := by
  cases part with
  | openai | groq => exact Option.some.inj h
  | custom => exact h

/-- If nothing else than known names is set, each to any value, there are settings if each value
says a text, and these are the built-in settings with the texts in place. The values themselves are
in place if all of them are taken over as they are. A value that says no text is a problem of the
configuration. -/
theorem Settings.load_known (h : environment.Perm (knownVariables values)) :
    (∀ s, load environment = .ok s ↔
      ∃ texts, (∀ part, Option.Rel SaysText (values part) (texts part)) ∧ s = ofKnown texts) ∧
    (load environment = .ok (ofKnown values) ↔
      ∀ part value, values part = some value → IsVerbatim value) ∧
    ∀ part value, values part = some value → (∀ text, ¬ SaysText value text) →
      ∃ message, load environment = .error (.configuration message) := by
  have hload : ∀ s, load environment = .ok s ↔
      ∃ texts, (∀ part, Option.Rel SaysText (values part) (texts part)) ∧ s = ofKnown texts :=
    fun s => load_known_eq_ok_iff h
  refine ⟨hload, ?_, ?_⟩
  · rw [hload]
    constructor
    · rintro ⟨texts, hrel, heq⟩ part value hvalue
      -- The text that the value says is the value itself, since both are in the same place.
      obtain ⟨text, htext, hmeant⟩ := exists_of_rel_some (hvalue ▸ hrel part)
      have hget : (ofKnown values).get part.knownKey = (ofKnown texts).get part.knownKey := by
        rw [heq]
      rw [get_ofKnown_knownKey values, get_ofKnown_knownKey texts, hvalue, htext] at hget
      cases eq_of_get_knownKey hget
      exact saysText_self_iff.1 hmeant
    · intro hverbatim
      refine ⟨values, fun part => ?_, rfl⟩
      cases hvalue : values part with
      | none => exact .none
      | some value => exact .some (saysText_self_iff.2 (hverbatim part value hvalue))
  · intro part value hvalue hmeant
    cases hresult : load environment with
    | ok s =>
        obtain ⟨texts, hrel, -⟩ := (hload s).1 hresult
        obtain ⟨text, -, ht⟩ := exists_of_rel_some (hvalue ▸ hrel part)
        exact absurd ht (hmeant text)
    | error failure =>
        unfold load at hresult
        split at hresult
        · cases hresult
        · cases hresult
          exact ⟨_, rfl⟩

/-- A key and an address without anything special are taken over. -/
theorem harmless_values_taken_over :
    let values : SettingSection → Option String := fun
      | .openai => some "sk-test"
      | .groq => none
      | .custom => some "http://models.internal/refactor"
    let environment : List Variable :=
      [⟨"CUSTOM_MODEL_URL", "http://models.internal/refactor"⟩, ⟨"OPENAI_API_KEY", "sk-test"⟩]
    environment.Perm (knownVariables values) ∧
      Settings.load environment = .ok (Settings.ofKnown values) := by
  intro values environment
  have hperm : environment.Perm (knownVariables values) := by decide +kernel
  obtain ⟨-, hverbatim, -⟩ := Settings.load_known hperm
  refine ⟨hperm, hverbatim.2 fun part value hvalue => ?_⟩
  cases part with
  | openai =>
      cases hvalue
      decide +kernel
  | groq => cases hvalue
  | custom =>
      cases hvalue
      decide +kernel

/-- A key of digits only is taken for a number, and there are no settings then. -/
theorem digits_refused :
    [⟨"OPENAI_API_KEY", "12345"⟩] =
        knownVariables (fun part => if part = .openai then some "12345" else none) ∧
      ∀ s, Settings.load [⟨"OPENAI_API_KEY", "12345"⟩] ≠ .ok s := by
  have hnone : (Settings.load [⟨"OPENAI_API_KEY", "12345"⟩]).toOption = none := by decide +kernel
  refine ⟨by decide +kernel, fun s hload => ?_⟩
  rw [hload] at hnone
  cases hnone

end JsxTidy
