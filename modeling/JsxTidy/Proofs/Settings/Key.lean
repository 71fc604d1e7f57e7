import JsxTidy.Proofs.Settings.Record

/-!
# What can be set

Each key is one of the things that can be set. It has a place in a table of settings, a way to read
what stands there, and a value in the settings that are read. `Settings.record_eq_ok_iff` says that
settings are read section by section, and `Settings.readsSection_iff` that in a section the value of
every key is read from its own place.
-/

namespace JsxTidy

/-- What can be set for a provider that holds a chat. -/
inductive ChatKey where
  | apiKey | endpoint | model | temperature | timeoutSecs
deriving DecidableEq

/-- What can be set for a refactoring server. -/
inductive CustomKey where
  | endpoint | timeoutSecs
deriving DecidableEq

/-- The sections of settings. -/
inductive SettingSection where
  | openai | groq | custom
deriving DecidableEq

/-- What can be set. -/
inductive SettingKey where
  | defaultProvider
  | spreadPolicy
  | openai (key : ChatKey)
  | groq (key : ChatKey)
  | custom (key : CustomKey)
deriving DecidableEq

namespace ChatKey

/-- The name of a field. -/
def name : ChatKey → String
  | apiKey => "api_key"
  | endpoint => "endpoint"
  | model => "model"
  | temperature => "temperature"
  | timeoutSecs => "timeout_secs"

/-- The place of a field in a list. -/
def index : ChatKey → Nat
  | apiKey => 0
  | endpoint => 1
  | model => 2
  | temperature => 3
  | timeoutSecs => 4

/-- What a field holds when it has been read. -/
abbrev Value : ChatKey → Type
  | apiKey => Option String
  | endpoint | model => String
  | temperature => Decimal.FloatValue
  | timeoutSecs => Nat

/-- How a field is read. -/
def read : (key : ChatKey) → Setting.Decoder key.Value
  | apiKey => Setting.optional Setting.string
  | endpoint | model => Setting.string
  | temperature => Setting.float32
  | timeoutSecs => Setting.word64

/-- What a value holds for a field. -/
def part? (key : ChatKey) (v : Setting) : Option Setting :=
  v.part? key.name key.index

end ChatKey

/-- What a field holds in settings. -/
def ChatSettings.get (s : ChatSettings) : (key : ChatKey) → key.Value
  | .apiKey => s.apiKey
  | .endpoint => s.endpoint
  | .model => s.model
  | .temperature => s.temperature
  | .timeoutSecs => s.timeoutSecs

namespace CustomKey

/-- The name of a field. -/
def name : CustomKey → String
  | endpoint => "endpoint"
  | timeoutSecs => "timeout_secs"

/-- The place of a field in a list. -/
def index : CustomKey → Nat
  | endpoint => 0
  | timeoutSecs => 1

/-- What a field holds when it has been read. -/
abbrev Value : CustomKey → Type
  | endpoint => String
  | timeoutSecs => Nat

/-- How a field is read. -/
def read : (key : CustomKey) → Setting.Decoder key.Value
  | endpoint => Setting.string
  | timeoutSecs => Setting.word64

/-- What a value holds for a field. -/
def part? (key : CustomKey) (v : Setting) : Option Setting :=
  v.part? key.name key.index

end CustomKey

/-- What a field holds in settings. -/
def CustomSettings.get (s : CustomSettings) : (key : CustomKey) → key.Value
  | .endpoint => s.endpoint
  | .timeoutSecs => s.timeoutSecs

/-! ## Sections -/

section Sections

open Setting

variable {v : Setting}

/-- How a chat is reached is read field by field from a value that holds all of them. -/
theorem ChatSettings.decode_eq_ok_iff (hv : v.Ordered)
    (hparts : ∀ key : ChatKey, (key.part? v).isSome) {start s : ChatSettings} :
    decode start v = .ok s ↔
      ∀ key : ChatKey, ∃ w, key.part? v = some w ∧ key.read w = .ok (s.get key) := by
  have hkeys : ∀ {P : ChatKey → Prop}, (∀ key, P key) ↔
      P .apiKey ∧ P .endpoint ∧ P .model ∧ P .temperature ∧ P .timeoutSecs :=
    ⟨fun h => ⟨h _, h _, h _, h _, h _⟩,
      fun ⟨h₁, h₂, h₃, h₄, h₅⟩ key => by cases key <;> assumption⟩
  obtain ⟨⟨a, ha⟩, ⟨b, hb⟩, ⟨c, hc⟩, ⟨d, hd⟩, ⟨e, he⟩⟩ :=
    hkeys.1 fun key => Option.isSome_iff_exists.1 (hparts key)
  have hrecord := fun p => @record_eq_ok_iff _ "struct ChatProviderConfig" fields
    ⟨none, none, none, none, none⟩ p v hv (by simp [fields]) (by decide) [a, b, c, d, e] (by
      simp only [List.map_cons, List.map_nil, ← ha, ← hb, ← hc, ← hd, ← he]
      rfl)
  simp only [decode, bind_eq_ok_iff, hrecord, hkeys, ha, hb, hc, hd, he, Option.some.injEq,
    exists_eq_left']
  simp only [fields, List.zip_cons_cons, List.zip_nil_left, Reads, bind_pure_comp, map_eq_ok_iff,
    List.forall_mem_cons]
  constructor
  · rintro ⟨_, ⟨⟨_, ⟨_, ha, rfl⟩, _, ⟨_, hb, rfl⟩, _, ⟨_, hc, rfl⟩, _, ⟨_, hd, rfl⟩, _,
      ⟨_, he, rfl⟩, rfl⟩, -⟩, hs⟩
    cases hs
    exact ⟨ha, hb, hc, hd, he⟩
  · rintro ⟨ha, hb, hc, hd, he⟩
    refine ⟨_, ⟨⟨_, ⟨_, ha, rfl⟩, _, ⟨_, hb, rfl⟩, _, ⟨_, hc, rfl⟩, _, ⟨_, hd, rfl⟩, _,
      ⟨_, he, rfl⟩, rfl⟩, ?_⟩, rfl⟩
    simp

/-- How a refactoring server is reached is read field by field from a value that holds both. -/
theorem CustomSettings.decode_eq_ok_iff (hv : v.Ordered)
    (hparts : ∀ key : CustomKey, (key.part? v).isSome) {start s : CustomSettings} :
    decode start v = .ok s ↔
      ∀ key : CustomKey, ∃ w, key.part? v = some w ∧ key.read w = .ok (s.get key) := by
  have hkeys : ∀ {P : CustomKey → Prop}, (∀ key, P key) ↔ P .endpoint ∧ P .timeoutSecs :=
    ⟨fun h => ⟨h _, h _⟩, fun ⟨h₁, h₂⟩ key => by cases key <;> assumption⟩
  obtain ⟨⟨a, ha⟩, ⟨b, hb⟩⟩ := hkeys.1 fun key => Option.isSome_iff_exists.1 (hparts key)
  have hrecord := fun p => @record_eq_ok_iff _ "struct CustomModelConfig" fields
    ⟨none, none⟩ p v hv (by simp [fields]) (by decide) [a, b] (by
      simp only [List.map_cons, List.map_nil, ← ha, ← hb]
      rfl)
  simp only [decode, bind_eq_ok_iff, hrecord, hkeys, ha, hb, Option.some.injEq, exists_eq_left']
  simp only [fields, List.zip_cons_cons, List.zip_nil_left, Reads, bind_pure_comp, map_eq_ok_iff,
    List.forall_mem_cons]
  constructor
  · rintro ⟨_, ⟨⟨_, ⟨_, ha, rfl⟩, _, ⟨_, hb, rfl⟩, rfl⟩, -⟩, hs⟩
    cases hs
    exact ⟨ha, hb⟩
  · rintro ⟨ha, hb⟩
    refine ⟨_, ⟨⟨_, ⟨_, ha, rfl⟩, _, ⟨_, hb, rfl⟩, rfl⟩, ?_⟩, rfl⟩
    simp

/-- A table with a key only says too little about a chat. -/
theorem ChatSettings.decode_key_ne_ok {origin : SettingOrigin} {start s : ChatSettings} :
    decode start (.table origin [("api_key", v)]) ≠ .ok s := by
  intro h
  obtain ⟨p, hp, -⟩ := bind_eq_ok_iff.1 h
  obtain ⟨hread, hset⟩ := record_table_eq_ok_iff.1 hp
  obtain ⟨_, hfield, hrest⟩ := bind_eq_ok_iff.1 hread
  obtain ⟨key, -, rfl⟩ := map_eq_ok_iff.1 (readField_eq_ok_iff.1 hfield)
  cases hrest
  cases hset fields[1] (by simp [fields])

/-- A table with an address only says too little about a refactoring server. -/
theorem CustomSettings.decode_endpoint_ne_ok {origin : SettingOrigin} {start s : CustomSettings} :
    decode start (.table origin [("endpoint", v)]) ≠ .ok s := by
  intro h
  obtain ⟨p, hp, -⟩ := bind_eq_ok_iff.1 h
  obtain ⟨hread, hset⟩ := record_table_eq_ok_iff.1 hp
  obtain ⟨_, hfield, hrest⟩ := bind_eq_ok_iff.1 hread
  obtain ⟨endpoint, -, rfl⟩ := map_eq_ok_iff.1 (readField_eq_ok_iff.1 hfield)
  cases hrest
  cases hset fields[1] (by simp [fields])

end Sections

namespace SettingSection

/-- All sections. -/
def all : List SettingSection :=
  [openai, groq, custom]

/-- The name of a section. -/
def name : SettingSection → String
  | openai => "openai"
  | groq => "groq"
  | custom => "custom"

/-- A name in the environment that is known on its own. -/
def knownName : SettingSection → String
  | openai => "OPENAI_API_KEY"
  | groq => "GROQ_API_KEY"
  | custom => "CUSTOM_MODEL_URL"

/-- The field of a section that this name is for. -/
def knownField : SettingSection → String
  | openai | groq => "api_key"
  | custom => "endpoint"

theorem mem_all (part : SettingSection) : part ∈ all := by
  cases part <;> decide

end SettingSection

namespace SettingKey

/-- All keys. -/
def all : List SettingKey :=
  [ defaultProvider, spreadPolicy,
    openai .apiKey, openai .endpoint, openai .model, openai .temperature, openai .timeoutSecs,
    groq .apiKey, groq .endpoint, groq .model, groq .temperature, groq .timeoutSecs,
    custom .endpoint, custom .timeoutSecs ]

theorem mem_all (key : SettingKey) : key ∈ all := by
  rcases key with _ | _ | key | key | key
  all_goals first | decide | cases key <;> decide

/-- The section that a key belongs to, if it belongs to one. -/
def section? : SettingKey → Option SettingSection
  | defaultProvider | spreadPolicy => none
  | openai _ => some .openai
  | groq _ => some .groq
  | custom _ => some .custom

/-- The name of a key in its section. -/
def name : SettingKey → String
  | defaultProvider => "default_provider"
  | spreadPolicy => "spread_policy"
  | openai key | groq key => key.name
  | custom key => key.name

/-- The path to the place of a key in a table of settings. -/
def path (key : SettingKey) : List String :=
  match key.section? with
  | none => [key.name]
  | some part => [part.name, key.name]

/-- What a section holds for a key. -/
def part? : SettingKey → Setting → Option Setting
  | defaultProvider, _ | spreadPolicy, _ => none
  | openai key, v | groq key, v => key.part? v
  | custom key, v => key.part? v

theorem part?_of_isTable {key : SettingKey} {part : SettingSection}
    (hkey : key.section? = some part) {v : Setting} (hv : v.isTable) : key.part? v = v.field? key.name := by
  cases v with
  | scalar | list => cases hv
  | table => cases key <;> first | rfl | cases hkey

/-- What a table of settings holds for a key. -/
def held? (key : SettingKey) (v : Setting) : Option Setting :=
  match key.section? with
  | none => v.field? key.name
  | some part => (v.field? part.name).bind key.part?

/-- What is set for a key. -/
abbrev Value : SettingKey → Type
  | defaultProvider => ProviderId
  | spreadPolicy => SpreadPolicy
  | openai key | groq key => key.Value
  | custom key => key.Value

/-- How what is held for a key is read. -/
def read : (key : SettingKey) → Setting.Decoder key.Value
  | defaultProvider =>
    Setting.variant "enum ProviderId" (ProviderId.all.map fun id => (id.name, id))
  | spreadPolicy =>
    Setting.variant "enum SpreadPolicy"
      ([SpreadPolicy.barrier, SpreadPolicy.unrestricted].map fun policy => (policy.name, policy))
  | openai key | groq key => key.read
  | custom key => key.read

end SettingKey

namespace Settings

/-- What is set for a key in settings. -/
def get (s : Settings) : (key : SettingKey) → key.Value
  | .defaultProvider => s.defaultProvider
  | .spreadPolicy => s.spreadPolicy
  | .openai key => s.openai.get key
  | .groq key => s.groq.get key
  | .custom key => s.custom.get key

/-- Whether a section of settings is what a value is read as. -/
def ReadsSection (s : Settings) : SettingSection → Setting → Prop
  | .openai, v => ChatSettings.decode builtIn.openai v = .ok s.openai
  | .groq, v => ChatSettings.decode builtIn.groq v = .ok s.groq
  | .custom, v => CustomSettings.decode builtIn.custom v = .ok s.custom

open Setting

variable {s : Settings} {part : SettingSection} {v : Setting} {origin : SettingOrigin}

/-- A section is read key by key from a value that holds all of its keys. -/
theorem readsSection_iff (hv : v.Ordered)
    (hparts : ∀ key : SettingKey, key.section? = some part → (key.part? v).isSome) :
    s.ReadsSection part v ↔ ∀ key : SettingKey, key.section? = some part →
      ∃ w, key.part? v = some w ∧ key.read w = .ok (s.get key) := by
  cases part with
  | openai =>
      rw [ReadsSection, ChatSettings.decode_eq_ok_iff hv fun key => hparts (.openai key) rfl]
      refine ⟨fun h key hkey => ?_, fun h key => h (.openai key) rfl⟩
      cases key <;> cases hkey
      exact h _
  | groq =>
      rw [ReadsSection, ChatSettings.decode_eq_ok_iff hv fun key => hparts (.groq key) rfl]
      refine ⟨fun h key hkey => ?_, fun h key => h (.groq key) rfl⟩
      cases key <;> cases hkey
      exact h _
  | custom =>
      rw [ReadsSection, CustomSettings.decode_eq_ok_iff hv fun key => hparts (.custom key) rfl]
      refine ⟨fun h key hkey => ?_, fun h key => h (.custom key) rfl⟩
      cases key <;> cases hkey
      exact h _

/-- A list that is read as a section holds all of its keys. -/
theorem ReadsSection.isSome_part? {items : List Setting}
    (h : s.ReadsSection part (.list origin items)) {key : SettingKey}
    (hkey : key.section? = some part) : (key.part? (.list origin items)).isSome := by
  have hchat : ∀ (key : ChatKey) {start c : ChatSettings},
      ChatSettings.decode start (.list origin items) = .ok c →
        (key.part? (.list origin items)).isSome := by
    intro key start c hdecode
    obtain ⟨p, hp, -⟩ := bind_eq_ok_iff.1 hdecode
    exact isSome_part?_of_record hp (by cases key <;> decide) _
  have hcustom : ∀ (key : CustomKey) {start c : CustomSettings},
      CustomSettings.decode start (.list origin items) = .ok c →
        (key.part? (.list origin items)).isSome := by
    intro key start c hdecode
    obtain ⟨p, hp, -⟩ := bind_eq_ok_iff.1 hdecode
    exact isSome_part?_of_record hp (by cases key <;> decide) _
  cases part <;> cases key <;> cases hkey
  · exact hchat _ h
  · exact hchat _ h
  · exact hcustom _ h

/-- A value without parts is not read as a section. -/
theorem not_readsSection_scalar {value : SettingScalar} :
    ¬ s.ReadsSection part (.scalar origin value) := by
  cases part <;> exact nofun

/-- A table with one field only is not read as a section. -/
theorem not_readsSection_singleton :
    ¬ s.ReadsSection part (.table origin [(part.knownField, v)]) := by
  cases part with
  | openai => exact ChatSettings.decode_key_ne_ok
  | groq => exact ChatSettings.decode_key_ne_ok
  | custom => exact CustomSettings.decode_endpoint_ne_ok

/-- Settings are read from a table with something for each choice and for each section. -/
theorem record_eq_ok_iff (hv : v.Ordered) (htable : v.isTable)
    (hchoices : ∀ key : SettingKey, key.section? = none → (v.field? key.name).isSome)
    (hsections : ∀ part : SettingSection, (v.field? part.name).isSome) :
    record "struct CleanupConfig" fields builtIn v = .ok s ↔
      (∀ key : SettingKey, key.section? = none →
        ∃ w, v.field? key.name = some w ∧ key.read w = .ok (s.get key)) ∧
      ∀ part : SettingSection, ∃ w, v.field? part.name = some w ∧ s.ReadsSection part w := by
  obtain ⟨provider, hprovider⟩ := Option.isSome_iff_exists.1 (hchoices .defaultProvider rfl)
  obtain ⟨policy, hpolicy⟩ := Option.isSome_iff_exists.1 (hchoices .spreadPolicy rfl)
  obtain ⟨openai, hopenai⟩ := Option.isSome_iff_exists.1 (hsections .openai)
  obtain ⟨groq, hgroq⟩ := Option.isSome_iff_exists.1 (hsections .groq)
  obtain ⟨custom, hcustom⟩ := Option.isSome_iff_exists.1 (hsections .custom)
  have hkeys : ∀ {P : SettingKey → Prop}, (∀ key : SettingKey, key.section? = none → P key) ↔
      P .defaultProvider ∧ P .spreadPolicy :=
    ⟨fun h => ⟨h _ rfl, h _ rfl⟩, fun ⟨h₁, h₂⟩ key hkey => by
      cases key <;> first | assumption | cases hkey⟩
  have hparts : ∀ {P : SettingSection → Prop}, (∀ part, P part) ↔ P .openai ∧ P .groq ∧ P .custom :=
    ⟨fun h => ⟨h _, h _, h _⟩, fun ⟨h₁, h₂, h₃⟩ part => by cases part <;> assumption⟩
  simp only [hkeys, hparts, hprovider, hpolicy, hopenai, hgroq, hcustom, Option.some.injEq,
    exists_eq_left']
  cases v with
  | scalar | list => cases htable
  | table origin named =>
      have hsorted : ["custom", "default_provider", "groq", "openai", "spread_policy"].Pairwise
          (· < ·) := by decide
      have hfields : ∀ field ∈ fields, field.name ∈
          ["custom", "default_provider", "groq", "openai", "spread_policy"] := by decide
      -- The fields in the order of their names, which is the one of the table.
      have hreads := @namedFields_eq_ok_iff _ fields builtIn s named hv
        [(fields[4], custom), (fields[0], provider), (fields[3], groq), (fields[2], openai),
          (fields[1], policy)] hsorted hfields (by
            simp only [List.forall_mem_cons]
            exact ⟨⟨rfl, hcustom⟩, ⟨rfl, hprovider⟩, ⟨rfl, hgroq⟩, ⟨rfl, hopenai⟩, ⟨rfl, hpolicy⟩,
              nofun⟩)
      have hset : ∀ field ∈ fields, field.isSet s := by simp [fields]
      rw [record_table_eq_ok_iff, hreads, and_iff_left hset]
      simp only [fields, List.getElem_cons_zero, List.getElem_cons_succ, Reads, bind_pure_comp,
        map_eq_ok_iff]
      constructor
      · rintro ⟨_, ⟨c, hc, rfl⟩, _, ⟨d, hd, rfl⟩, _, ⟨g, hg, rfl⟩, _, ⟨o, ho, rfl⟩, _, ⟨p, hp, rfl⟩,
          rfl⟩
        exact ⟨⟨hd, hp⟩, ho, hg, hc⟩
      · rintro ⟨⟨hd, hp⟩, ho, hg, hc⟩
        exact ⟨_, ⟨_, hc, rfl⟩, _, ⟨_, hd, rfl⟩, _, ⟨_, hg, rfl⟩, _, ⟨_, ho, rfl⟩, _, ⟨_, hp, rfl⟩,
          rfl⟩

/-! ## What is not read -/

/-- A table whose fields have values names no variant. -/
theorem not_variant_of_table {α : Type} {title : String} {variants : List (String × α)}
    (hv : v.Given) (htable : v.isTable) (a : α) : variant title variants v ≠ .ok a := by
  intro hread
  cases v with
  | scalar | list => cases htable
  | table origin fields =>
      cases fields with
      | nil => cases hread
      | cons field rest =>
          obtain ⟨name, inner⟩ := field
          have hinner : inner.isAbsent = false :=
            hv.filled name inner (by simp [field?])
          obtain ⟨b, -, hb⟩ := bind_eq_ok_iff.1 hread
          split at hb
          · cases hinner
          · simp [mismatch, fail] at hb

/-- What is read for a key in a section is no table. -/
theorem isTable_of_read_part {key : SettingKey} (hkey : key.section? = some part) {a : key.Value}
    (h : key.read v = .ok a) : v.isTable = false := by
  cases v with
  | scalar | list => rfl
  | table origin fields =>
      rcases key with _ | _ | key | key | key
      · cases hkey
      · cases hkey
      all_goals cases key <;> cases h

/-- What is read for a key is no table, unless the table has a field without a value. -/
theorem isTable_of_read (hv : v.Given) {key : SettingKey} {a : key.Value}
    (h : key.read v = .ok a) : v.isTable = false := by
  cases hkey : key.section? with
  | some part => exact isTable_of_read_part hkey h
  | none =>
      rw [← Bool.not_eq_true]
      intro htable
      cases key with
      | defaultProvider | spreadPolicy => exact not_variant_of_table hv htable _ h
      | openai | groq | custom => cases hkey

/-- The built-in settings are what is read from their own table. -/
theorem read_builtIn (key : SettingKey) :
    ∃ v, key.held? builtIn.toSetting = some v ∧ key.read v = .ok (builtIn.get key) := by
  have htemperature : ∀ s ∈ [builtIn.openai, builtIn.groq],
      (s.temperature.convert Decimal.binary64).convert Decimal.binary32 = s.temperature := by
    decide +kernel
  rcases key with _ | _ | key | key | key
  · exact ⟨_, rfl, rfl⟩
  · exact ⟨_, rfl, rfl⟩
  · cases key with
    | temperature => exact ⟨_, rfl, congrArg Except.ok (htemperature _ (by simp))⟩
    | apiKey | endpoint | model | timeoutSecs => exact ⟨_, rfl, rfl⟩
  · cases key with
    | temperature => exact ⟨_, rfl, congrArg Except.ok (htemperature _ (by simp))⟩
    | apiKey | endpoint | model | timeoutSecs => exact ⟨_, rfl, rfl⟩
  · cases key <;> exact ⟨_, rfl, rfl⟩

/-- What is set is what is set for each key. -/
theorem eq_of_get {s' : Settings} (h : ∀ key, s.get key = s'.get key) : s = s' := by
  have hchat : ∀ {c c' : ChatSettings}, (∀ key, c.get key = c'.get key) → c = c' := by
    rintro ⟨a, b, c, d, e⟩ ⟨a', b', c', d', e'⟩ h
    obtain rfl : a = a' := h .apiKey
    obtain rfl : b = b' := h .endpoint
    obtain rfl : c = c' := h .model
    obtain rfl : d = d' := h .temperature
    obtain rfl : e = e' := h .timeoutSecs
    rfl
  have hcustom : ∀ {c c' : CustomSettings}, (∀ key, c.get key = c'.get key) → c = c' := by
    rintro ⟨a, b⟩ ⟨a', b'⟩ h
    obtain rfl : a = a' := h .endpoint
    obtain rfl : b = b' := h .timeoutSecs
    rfl
  obtain ⟨provider, policy, openai, groq, custom⟩ := s
  obtain ⟨provider', policy', openai', groq', custom'⟩ := s'
  obtain rfl : provider = provider' := h .defaultProvider
  obtain rfl : policy = policy' := h .spreadPolicy
  obtain rfl : openai = openai' := hchat fun key => h (.openai key)
  obtain rfl : groq = groq' := hchat fun key => h (.groq key)
  obtain rfl : custom = custom' := hcustom fun key => h (.custom key)
  rfl

end Settings

end JsxTidy
