import JsxTidy.Attribute.Order
import Mathlib.Data.List.Perm.Basic
import Mathlib.Data.String.Basic

/-!
# The canonical order of attributes

The canonical order is a permutation of the places, `canonicalOrder_perm`, and it only moves names:
the slots in the new order are the old ones with other names, `exists_rename`. Names that have been
put in order are in order, so ordering twice is ordering once: `canonicalOrder_rename`.
-/

namespace JsxTidy

variable {policy : SpreadPolicy} {slots : List AttributeSlot} {names : List String}
  {segment index : Nat} {places : List Nat} {key : AttributeKey}

/-! ## Keys -/

namespace AttributeKey

theorem le_iff {a b : AttributeKey} :
    a.le b ↔ a.segment < b.segment ∨ (a.segment = b.segment ∧ a.name ≤ b.name) := by
  simp [le]

theorem trans_le (a b c : AttributeKey) (hab : a.le b) (hbc : b.le c) : a.le c := by
  rw [le_iff] at hab hbc ⊢
  rcases hab with hab | ⟨hab, hname⟩ <;> rcases hbc with hbc | ⟨hbc, hname'⟩
  · exact .inl (by omega)
  · exact .inl (by omega)
  · exact .inl (by omega)
  · exact .inr ⟨by omega, hname.trans hname'⟩

theorem total_le (a b : AttributeKey) : a.le b || b.le a := by
  rw [Bool.or_eq_true, le_iff, le_iff]
  rcases Nat.lt_trichotomy a.segment b.segment with hlt | heq | hlt
  · exact .inl (.inl hlt)
  · rcases le_total a.name b.name with hname | hname
    · exact .inl (.inr ⟨heq, hname⟩)
    · exact .inr (.inr ⟨heq.symm, hname⟩)
  · exact .inr (.inl hlt)

/-- The keys of some slots stand in the order of their segments. -/
theorem segment_le (h : key ∈ ofSlots policy segment index slots) : segment ≤ key.segment := by
  induction slots generalizing segment index with
  | nil => cases h
  | cons slot slots ih =>
      cases slot with
      | named name =>
          rcases List.mem_cons.1 h with rfl | h
          · exact Nat.le_refl _
          · exact ih h
      | fixed => exact ih h
      | spread =>
          refine Nat.le_trans ?_ (ih h)
          split <;> omega

theorem pairwise_segment :
    (ofSlots policy segment index slots).Pairwise fun a b => a.segment ≤ b.segment := by
  induction slots generalizing segment index with
  | nil => exact .nil
  | cons slot slots ih =>
      cases slot with
      | named name => exact .cons (fun _ h => segment_le h) ih
      | fixed => exact ih
      | spread => exact ih

end AttributeKey

/-! ## Places -/

namespace AttributeSlot

/-- The places of the named ones among some slots, the first of which has a given place. -/
def namedPlaces (index : Nat) : List AttributeSlot → List Nat
  | [] => []
  | named _ :: rest => index :: namedPlaces (index + 1) rest
  | _ :: rest => namedPlaces (index + 1) rest

/-- The places of the others. -/
def otherPlaces (index : Nat) : List AttributeSlot → List Nat
  | [] => []
  | named _ :: rest => otherPlaces (index + 1) rest
  | _ :: rest => index :: otherPlaces (index + 1) rest

theorem map_index_ofSlots (policy : SpreadPolicy) (segment index : Nat)
    (slots : List AttributeSlot) :
    (AttributeKey.ofSlots policy segment index slots).map AttributeKey.index =
      namedPlaces index slots := by
  induction slots generalizing segment index with
  | nil => rfl
  | cons slot slots ih =>
      cases slot with
      | named name => exact congrArg (index :: ·) (ih _ _)
      | fixed => exact ih _ _
      | spread => exact ih _ _

/-- Filling in as many places as there are named slots uses all of them. -/
theorem fill_perm (h : places.length = (namedPlaces index slots).length) :
    (fill index slots places).Perm (places ++ otherPlaces index slots) := by
  induction slots generalizing index places with
  | nil =>
      have hnil : places = [] := List.eq_nil_of_length_eq_zero h
      subst hnil
      exact .refl _
  | cons slot slots ih =>
      cases slot with
      | named name =>
          cases places with
          | nil => cases h
          | cons place places => exact (ih (Nat.succ.inj h)).cons place
      | fixed => exact ((ih h).cons index).trans List.perm_middle.symm
      | spread => exact ((ih h).cons index).trans List.perm_middle.symm

/-- The places of the named slots, filled in as they are, are all places in a row. -/
theorem fill_namedPlaces :
    fill index slots (namedPlaces index slots) = List.range' index slots.length := by
  induction slots generalizing index with
  | nil => rfl
  | cons slot slots ih => cases slot <;> exact congrArg (index :: ·) ih

theorem range_eq_fill : List.range slots.length = fill 0 slots (namedPlaces 0 slots) := by
  rw [fill_namedPlaces, List.range_eq_range']

/-- Filling in the places of the named slots in another order permutes all places. -/
theorem fill_perm_range (h : places.Perm (namedPlaces 0 slots)) :
    (fill 0 slots places).Perm (List.range slots.length) := by
  rw [range_eq_fill]
  exact (fill_perm h.length_eq).trans ((h.append_right _).trans (fill_perm rfl).symm)

/-- The sorted keys of some slots. -/
def sortedKeys (policy : SpreadPolicy) (slots : List AttributeSlot) : List AttributeKey :=
  (AttributeKey.ofSlots policy 0 0 slots).mergeSort AttributeKey.le

theorem canonicalOrder_eq : canonicalOrder policy slots =
    fill 0 slots ((sortedKeys policy slots).map AttributeKey.index) := rfl

theorem sortedKeys_perm (policy : SpreadPolicy) (slots : List AttributeSlot) :
    ((sortedKeys policy slots).map AttributeKey.index).Perm (namedPlaces 0 slots) := by
  rw [← map_index_ofSlots policy 0]
  exact (List.mergeSort_perm _ _).map _

/-- The canonical order is a permutation of the places. -/
theorem canonicalOrder_perm : (canonicalOrder policy slots).Perm (List.range slots.length) :=
  fill_perm_range (sortedKeys_perm policy slots)

@[simp] theorem length_canonicalOrder : (canonicalOrder policy slots).length = slots.length := by
  simpa using canonicalOrder_perm.length_eq

/-! ## Other names in the same slots -/

/-- Some slots with other names. -/
def rename : List AttributeSlot → List String → List AttributeSlot
  | named _ :: rest, name :: names => named name :: rename rest names
  | slot :: rest, names => slot :: rename rest names
  | [], _ => []

theorem length_rename : (rename slots names).length = slots.length := by
  induction slots generalizing names with
  | nil => rfl
  | cons slot slots ih =>
      cases slot with
      | named name => cases names <;> exact congrArg (· + 1) ih
      | fixed => exact congrArg (· + 1) ih
      | spread => exact congrArg (· + 1) ih

/-- The keys of slots with other names have these names. -/
theorem ofSlots_rename (h : names.length = (namedPlaces index slots).length) :
    AttributeKey.ofSlots policy segment index (rename slots names) =
      List.zipWith (fun key name => ⟨key.segment, Text.lowercase name, key.index⟩)
        (AttributeKey.ofSlots policy segment index slots) names := by
  induction slots generalizing segment index names with
  | nil => rfl
  | cons slot slots ih =>
      cases slot with
      | named name =>
          cases names with
          | nil => cases h
          | cons name names => exact congrArg (_ :: ·) (ih (Nat.succ.inj h))
      | fixed => exact ih h
      | spread => exact ih h

/-! ## Slots in their canonical order -/

/-- The name of the slot at a place. -/
def nameAt (slots : List AttributeSlot) (place : Nat) : String :=
  match slots[place]? with
  | some (named name) => name
  | _ => ""

/-- What stands behind the first one of some slots stands behind it among all. -/
theorem getElem?_behind {all : List AttributeSlot} {slot : AttributeSlot}
    (hall : ∀ i, all[index + i]? = (slot :: slots)[i]?) (i : Nat) :
    all[index + 1 + i]? = slots[i]? := by
  have hnext := hall (i + 1)
  rwa [Nat.add_comm i 1, ← Nat.add_assoc, Nat.add_comm 1 i, List.getElem?_cons_succ] at hnext

/-- A key comes from a named slot at its place. -/
theorem getElem?_of_mem_ofSlots (h : key ∈ AttributeKey.ofSlots policy segment index slots)
    {all : List AttributeSlot} (hall : ∀ i, all[index + i]? = slots[i]?) :
    all[key.index]? = some (named (nameAt all key.index)) ∧
      Text.lowercase (nameAt all key.index) = key.name := by
  induction slots generalizing segment index with
  | nil => cases h
  | cons slot slots ih =>
      have hrest := getElem?_behind hall
      cases slot with
      | named name =>
          rcases List.mem_cons.1 h with rfl | h
          · have hhere : all[index]? = some (named name) := hall 0
            simp [nameAt, hhere]
          · exact ih h hrest
      | fixed => exact ih h hrest
      | spread => exact ih h hrest

/-- Taking the slots from filled places gives the named ones other names. -/
theorem map_fill {all : List AttributeSlot} (hall : ∀ i, all[index + i]? = slots[i]?)
    (hlength : places.length = (namedPlaces index slots).length)
    (hplaces : ∀ place ∈ places, all[place]? = some (named (nameAt all place))) :
    (fill index slots places).map (all[·]?) =
      (rename slots (places.map (nameAt all))).map some := by
  induction slots generalizing index places with
  | nil => rfl
  | cons slot slots ih =>
      have hhere : all[index]? = some slot := hall 0
      have hrest := getElem?_behind hall
      cases slot with
      | named name =>
          cases places with
          | nil => cases hlength
          | cons place places =>
              have htail := ih hrest (Nat.succ.inj hlength)
                fun other hother => hplaces other (List.mem_cons_of_mem _ hother)
              rw [fill, List.map_cons, htail, hplaces place List.mem_cons_self]
              rfl
      | fixed =>
          rw [fill, List.map_cons, ih hrest hlength hplaces, hhere]
          · rfl
          · simp
      | spread =>
          rw [fill, List.map_cons, ih hrest hlength hplaces, hhere]
          · rfl
          · simp

/-- The slots in their canonical order are the old ones with other names, which are sorted. -/
theorem exists_rename (policy : SpreadPolicy) (slots : List AttributeSlot) :
    ∃ names : List String,
      (canonicalOrder policy slots).map (slots[·]?) = (rename slots names).map some ∧
      names.map Text.lowercase = (sortedKeys policy slots).map AttributeKey.name := by
  have hkey : ∀ key ∈ sortedKeys policy slots,
      slots[key.index]? = some (named (nameAt slots key.index)) ∧
        Text.lowercase (nameAt slots key.index) = key.name := by
    intro key hkey
    exact getElem?_of_mem_ofSlots ((List.mergeSort_perm _ _).mem_iff.1 hkey) (by simp)
  refine ⟨((sortedKeys policy slots).map AttributeKey.index).map (nameAt slots), ?_, ?_⟩
  · refine map_fill (by simp) (sortedKeys_perm policy slots).length_eq fun place hplace => ?_
    obtain ⟨key, hmem, rfl⟩ := List.mem_map.1 hplace
    exact (hkey key hmem).1
  · rw [List.map_map, List.map_map]
    exact List.map_congr_left fun key hmem => (hkey key hmem).2

/-- Sorting keeps the sequence of segments. -/
theorem map_segment_sortedKeys : (sortedKeys policy slots).map AttributeKey.segment =
    (AttributeKey.ofSlots policy 0 0 slots).map AttributeKey.segment := by
  have hsorted := List.pairwise_mergeSort AttributeKey.trans_le AttributeKey.total_le
    (AttributeKey.ofSlots policy 0 0 slots)
  have hsegments : ((sortedKeys policy slots).map AttributeKey.segment).Pairwise (· ≤ ·) := by
    refine List.pairwise_map.2 (hsorted.imp fun hab => ?_)
    rcases AttributeKey.le_iff.1 hab with hlt | ⟨heq, -⟩
    · exact Nat.le_of_lt hlt
    · exact Nat.le_of_eq heq
  exact List.Perm.eq_of_pairwise (fun a b _ _ => Nat.le_antisymm) hsegments
    (List.pairwise_map.2 AttributeKey.pairwise_segment) ((List.mergeSort_perm _ _).map _)

/-- Slots whose names have been put in order are in their canonical order. -/
theorem canonicalOrder_rename
    (h : names.map Text.lowercase = (sortedKeys policy slots).map AttributeKey.name) :
    canonicalOrder policy (rename slots names) = List.range slots.length := by
  have hlength : names.length = (namedPlaces 0 slots).length := by
    rw [← (sortedKeys_perm policy slots).length_eq, List.length_map,
      ← List.length_map Text.lowercase, h, List.length_map]
  -- What the keys are compared by is what it is for the sorted keys.
  have hcompared : (AttributeKey.ofSlots policy 0 0 (rename slots names)).map
      (fun key => (key.segment, key.name)) =
        (sortedKeys policy slots).map fun key => (key.segment, key.name) := by
    rw [ofSlots_rename hlength, List.map_zipWith, ← List.zip_map', map_segment_sortedKeys, ← h,
      List.zip_eq_zipWith, List.zipWith_map]
  have hcompare : ∀ keys : List AttributeKey, keys.Pairwise (fun a b => a.le b) ↔
      (keys.map fun key => (key.segment, key.name)).Pairwise
        fun a b => a.1 < b.1 ∨ (a.1 = b.1 ∧ a.2 ≤ b.2) := by
    intro keys
    rw [List.pairwise_map]
    exact ⟨fun h => h.imp AttributeKey.le_iff.1, fun h => h.imp AttributeKey.le_iff.2⟩
  have hsorted : (AttributeKey.ofSlots policy 0 0 (rename slots names)).Pairwise
      fun a b => a.le b := by
    rw [hcompare, hcompared, ← hcompare]
    exact List.pairwise_mergeSort AttributeKey.trans_le AttributeKey.total_le _
  rw [canonicalOrder_eq, sortedKeys, List.mergeSort_of_pairwise hsorted, map_index_ofSlots,
    fill_namedPlaces, length_rename, List.range_eq_range']

end AttributeSlot

end JsxTidy
