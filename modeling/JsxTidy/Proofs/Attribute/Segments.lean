import JsxTidy.Proofs.Attribute.Order

/-!
# Slots that keep their order

Between spreads that are barriers, sorting leaves every named slot in its segment, and it does not
exchange slots with the same name. So the spreads together with the slots of one name stand in the
canonical order as they stood before: `filter_canonicalOrder_name`. The slots without names keep
their places in any case, which is `filter_canonicalOrder_other`.
-/

namespace JsxTidy.AttributeSlot

variable {policy : SpreadPolicy} {slots all : List AttributeSlot} {name : String}
  {index place other : Nat} {places : List Nat} {key : AttributeKey}

/-! ## Segments -/

/-- The number of spreads before a place. -/
def spreadsBefore (slots : List AttributeSlot) (place : Nat) : Nat :=
  (slots.take place).countP (· == spread)

theorem spreadsBefore_succ (slots : List AttributeSlot) (place : Nat) :
    spreadsBefore slots (place + 1) =
      spreadsBefore slots place + if slots[place]? = some spread then 1 else 0 := by
  rw [spreadsBefore, List.take_add_one, List.countP_append, spreadsBefore]
  cases slots[place]? with
  | none => rfl
  | some slot => cases slot <;> rfl

theorem spreadsBefore_mono (slots : List AttributeSlot) (h : place ≤ other) :
    spreadsBefore slots place ≤ spreadsBefore slots other :=
  (List.take_prefix_take_left h).sublist.countP_le

/-- A spread stands between the places before it and those behind it. -/
theorem spreadsBefore_lt (hspread : slots[place]? = some spread) (h : place < other) :
    spreadsBefore slots place < spreadsBefore slots other := by
  have hsucc := spreadsBefore_succ slots place
  rw [if_pos hspread] at hsucc
  have hmono := spreadsBefore_mono slots (Nat.succ_le_of_lt h)
  rw [Nat.succ_eq_add_one] at hmono
  omega

/-- The segment of a key is the number of barriers before its place. -/
theorem segment_of_mem_ofSlots {segment : Nat}
    (h : key ∈ AttributeKey.ofSlots .barrier segment index slots)
    (hall : ∀ i, all[index + i]? = slots[i]?) (hsegment : spreadsBefore all index = segment) :
    key.segment = spreadsBefore all key.index := by
  induction slots generalizing segment index with
  | nil => cases h
  | cons slot slots ih =>
      have hhere : all[index]? = some slot := hall 0
      have hrest := getElem?_behind hall
      have hsucc := spreadsBefore_succ all index
      rw [hhere, hsegment] at hsucc
      cases slot with
      | named name =>
          rcases List.mem_cons.1 h with rfl | h
          · exact hsegment.symm
          · exact ih h hrest hsucc
      | fixed => exact ih h hrest hsucc
      | spread => exact ih h hrest hsucc

/-! ## Sorted places -/

/-- The places of the named slots in the order of their names. -/
def sortedPlaces (policy : SpreadPolicy) (slots : List AttributeSlot) : List Nat :=
  (sortedKeys policy slots).map AttributeKey.index

theorem mem_sortedKeys :
    key ∈ sortedKeys policy slots ↔ key ∈ AttributeKey.ofSlots policy 0 0 slots :=
  (List.mergeSort_perm _ _).mem_iff

/-- What a named slot at a place is sorted by. -/
def sortingName (slots : List AttributeSlot) (place : Nat) : String :=
  Text.lowercase (nameAt slots place)

theorem getElem?_of_mem_sortedPlaces (h : place ∈ sortedPlaces policy slots) :
    slots[place]? = some (named (nameAt slots place)) := by
  obtain ⟨key, hkey, rfl⟩ := List.mem_map.1 h
  exact (getElem?_of_mem_ofSlots (mem_sortedKeys.1 hkey) (by simp)).1

theorem sortingName_of_mem_ofSlots (h : key ∈ AttributeKey.ofSlots policy 0 0 slots) :
    sortingName slots key.index = key.name :=
  (getElem?_of_mem_ofSlots h (by simp)).2

/-- Sorting between barriers leaves every place in its segment. -/
theorem map_spreadsBefore_sortedPlaces (slots : List AttributeSlot) :
    (sortedPlaces .barrier slots).map (spreadsBefore slots) =
      (namedPlaces 0 slots).map (spreadsBefore slots) := by
  have hsegment : ∀ keys : List AttributeKey,
      (∀ key ∈ keys, key ∈ AttributeKey.ofSlots .barrier 0 0 slots) →
        (keys.map AttributeKey.index).map (spreadsBefore slots) =
          keys.map AttributeKey.segment := by
    intro keys hkeys
    rw [List.map_map]
    refine List.map_congr_left fun key hkey => ?_
    exact (segment_of_mem_ofSlots (hkeys key hkey) (by simp) rfl).symm
  rw [sortedPlaces, ← map_index_ofSlots .barrier 0, hsegment _ fun _ hkey => hkey,
    hsegment _ fun _ hkey => mem_sortedKeys.1 hkey, map_segment_sortedKeys]

/-- Sorting does not exchange places whose names are the same in lowercase. -/
theorem filter_sortedPlaces (policy : SpreadPolicy) (slots : List AttributeSlot) (name : String) :
    (sortedPlaces policy slots).filter (fun place => sortingName slots place = name) =
      (namedPlaces 0 slots).filter fun place => sortingName slots place = name := by
  have hname : ∀ keys : List AttributeKey,
      (∀ key ∈ keys, key ∈ AttributeKey.ofSlots policy 0 0 slots) →
        (keys.map AttributeKey.index).filter (fun place => sortingName slots place = name) =
          (keys.filter fun key => key.name = name).map AttributeKey.index := by
    intro keys hkeys
    rw [List.filter_map]
    refine congrArg _ (List.filter_congr fun key hkey => ?_)
    rw [Function.comp_apply, sortingName_of_mem_ofSlots (hkeys key hkey)]
  rw [sortedPlaces, ← map_index_ofSlots policy 0, hname _ fun _ hkey => hkey,
    hname _ fun _ hkey => mem_sortedKeys.1 hkey]
  -- Keys of one name stand in the order of their segments already, so sorting keeps them so.
  have hsorted :
      ((AttributeKey.ofSlots policy 0 0 slots).filter fun key => key.name = name).Pairwise
        fun a b => a.le b := by
    refine (AttributeKey.pairwise_segment.filter _).imp_of_mem fun {a b} ha hb hsegment => ?_
    have hnameA : a.name = name := of_decide_eq_true (List.mem_filter.1 ha).2
    have hnameB : b.name = name := of_decide_eq_true (List.mem_filter.1 hb).2
    rw [AttributeKey.le_iff, hnameA, hnameB]
    rcases Nat.lt_or_eq_of_le hsegment with hlt | heq
    · exact .inl hlt
    · exact .inr ⟨heq, le_refl name⟩
  have hsublist := (List.sublist_mergeSort AttributeKey.trans_le AttributeKey.total_le hsorted
    List.filter_sublist).filter fun key => decide (key.name = name)
  simp only [List.filter_filter, Bool.and_self] at hsublist
  have hlength := ((List.mergeSort_perm (AttributeKey.ofSlots policy 0 0 slots)
    AttributeKey.le).filter fun key => decide (key.name = name)).length_eq
  exact congrArg _ (hsublist.eq_of_length hlength.symm).symm

/-! ## The canonical order of some slots -/

/-- Whether a slot without a name stands at a place. -/
def isOtherAt (slots : List AttributeSlot) (place : Nat) : Bool :=
  slots[place]?.any fun slot => !slot.isNamed

/-- Whether a slot is a spread or has some name in lowercase. -/
def isSpreadOrNamed (name : String) : AttributeSlot → Bool
  | named other => Text.lowercase other == name
  | fixed => false
  | spread => true

/-- Whether such a slot stands at a place. -/
def isSpreadOrNamedAt (name : String) (slots : List AttributeSlot) (place : Nat) : Bool :=
  slots[place]?.any (isSpreadOrNamed name)

theorem isSpreadOrNamedAt_iff (h : slots[place]? = some (named (nameAt slots place))) :
    isSpreadOrNamedAt name slots place ↔ sortingName slots place = name := by
  rw [isSpreadOrNamedAt, h, Option.any_some, isSpreadOrNamed, beq_iff_eq, sortingName]

theorem not_isOtherAt (h : slots[place]? = some (named name)) : ¬ isOtherAt slots place := by
  simp [isOtherAt, h, isNamed]

theorem getElem?_of_mem_namedPlaces (h : place ∈ namedPlaces 0 slots) :
    slots[place]? = some (named (nameAt slots place)) := by
  rw [← (sortedKeys_perm .barrier slots).mem_iff] at h
  exact getElem?_of_mem_sortedPlaces h

/-- Slots without names keep their places, whatever places are filled in for the others. -/
theorem filter_fill_other (hall : ∀ i, all[index + i]? = slots[i]?)
    (hlength : places.length = (namedPlaces index slots).length)
    (hnamed : ∀ place ∈ places, ¬ isOtherAt all place) :
    (fill index slots places).filter (isOtherAt all) = otherPlaces index slots := by
  induction slots generalizing index places with
  | nil => rfl
  | cons slot slots ih =>
      have hhere : all[index]? = some slot := hall 0
      have hrest := getElem?_behind hall
      cases slot with
      | named name =>
          cases places with
          | nil => cases hlength
          | cons place places =>
              rw [fill, List.filter_cons_of_neg (hnamed place List.mem_cons_self),
                ih hrest (Nat.succ.inj hlength) fun other hother =>
                  hnamed other (List.mem_cons_of_mem _ hother)]
              rfl
      | fixed =>
          have hother : isOtherAt all index := by simp [isOtherAt, hhere, isNamed]
          exact (List.filter_cons_of_pos hother).trans (congrArg _ (ih hrest hlength hnamed))
      | spread =>
          have hother : isOtherAt all index := by simp [isOtherAt, hhere, isNamed]
          exact (List.filter_cons_of_pos hother).trans (congrArg _ (ih hrest hlength hnamed))

/-- The canonical order leaves the slots without names in their places. -/
theorem filter_canonicalOrder_other (policy : SpreadPolicy) (slots : List AttributeSlot) :
    (canonicalOrder policy slots).filter (isOtherAt slots) =
      (List.range slots.length).filter (isOtherAt slots) := by
  rw [range_eq_fill, canonicalOrder_eq,
    filter_fill_other (by simp) (sortedKeys_perm policy slots).length_eq fun place hplace =>
      not_isOtherAt (getElem?_of_mem_sortedPlaces hplace),
    filter_fill_other (by simp) rfl fun place hplace =>
      not_isOtherAt (getElem?_of_mem_namedPlaces hplace)]

theorem le_of_mem_places (h : place ∈ namedPlaces index slots ++ otherPlaces index slots) :
    index ≤ place := by
  rw [← (fill_perm rfl).mem_iff, fill_namedPlaces, List.mem_range'_1] at h
  exact h.1

theorem pairwise_namedPlaces : (namedPlaces index slots).Pairwise (· < ·) := by
  induction slots generalizing index with
  | nil => exact .nil
  | cons slot slots ih =>
      cases slot with
      | named name => exact .cons (fun _ h => le_of_mem_places (List.mem_append_left _ h)) ih
      | fixed => exact ih
      | spread => exact ih

/-- A slot with a name, or a spread, comes from the filled places or stays behind the first one. -/
theorem mem_filter_fill (hall : ∀ i, all[index + i]? = slots[i]?)
    (hlength : places.length = (namedPlaces index slots).length)
    (hnamed : ∀ place ∈ places, all[place]? = some (named (nameAt all place)))
    (h : place ∈ (fill index slots places).filter (isSpreadOrNamedAt name all)) :
    place ∈ places.filter (fun place => sortingName all place = name) ∨
      (index ≤ place ∧ all[place]? = some spread) := by
  obtain ⟨hfill, hkeep⟩ := List.mem_filter.1 h
  rcases List.mem_append.1 ((fill_perm hlength).mem_iff.1 hfill) with hplace | hplace
  · have hname := (isSpreadOrNamedAt_iff (hnamed place hplace)).1 hkeep
    exact .inl (List.mem_filter.2 ⟨hplace, decide_eq_true hname⟩)
  · refine .inr ⟨le_of_mem_places (List.mem_append_right _ hplace), ?_⟩
    rw [← filter_fill_other hall hlength fun other hother => not_isOtherAt (hnamed other hother)]
      at hplace
    have hother := (List.mem_filter.1 hplace).2
    cases hslot : all[place]? with
    | none => simp [isOtherAt, hslot] at hother
    | some slot => cases slot <;> simp_all [isOtherAt, isSpreadOrNamedAt, isSpreadOrNamed, isNamed]

/-- Places filled in for named slots of the same segments, among which those with one name keep
their order, keep it together with the spreads. -/
theorem pairwise_fill (hall : ∀ i, all[index + i]? = slots[i]?)
    (hsegments : places.map (spreadsBefore all) = (namedPlaces index slots).map (spreadsBefore all))
    (hnamed : ∀ place ∈ places, all[place]? = some (named (nameAt all place)))
    (hordered : (places.filter fun place => sortingName all place = name).Pairwise (· < ·)) :
    ((fill index slots places).filter (isSpreadOrNamedAt name all)).Pairwise (· < ·) := by
  induction slots generalizing index places with
  | nil => exact .nil
  | cons slot slots ih =>
      have hhere : all[index]? = some slot := hall 0
      have hrest := getElem?_behind hall
      cases slot with
      | named first =>
          cases places with
          | nil => cases hsegments
          | cons place places =>
              obtain ⟨hsegment, hsegments⟩ := List.cons.inj hsegments
              have hlength := congrArg List.length hsegments
              rw [List.length_map, List.length_map] at hlength
              have hplaces := fun other hother => hnamed other (List.mem_cons_of_mem place hother)
              have htail := ih hrest hsegments hplaces
                (hordered.sublist ((List.sublist_cons_self place places).filter _))
              rw [fill, List.filter_cons]
              split
              · rename_i hkeep
                refine .cons (fun other hother => ?_) htail
                have hname := (isSpreadOrNamedAt_iff (hnamed place List.mem_cons_self)).1 hkeep
                rcases mem_filter_fill hrest hlength hplaces hother with hother | ⟨hle, hspread⟩
                · rw [List.filter_cons_of_pos (by simpa using hname)] at hordered
                  exact List.rel_of_pairwise_cons hordered hother
                · -- The place is in the segment of the first one, which ends before the spread.
                  by_contra hback
                  have hne : other ≠ place := by
                    rintro rfl
                    rw [hnamed other List.mem_cons_self] at hspread
                    cases hspread
                  have hlt := spreadsBefore_lt hspread (by omega : other < place)
                  have hmono := spreadsBefore_mono all (Nat.le_of_succ_le hle)
                  omega
              · exact htail
      | fixed =>
          have hdrop : ¬ isSpreadOrNamedAt name all index := by
            simp [isSpreadOrNamedAt, hhere, isSpreadOrNamed]
          rw [fill, List.filter_cons_of_neg hdrop]
          · exact ih hrest hsegments hnamed hordered
          · simp
      | spread =>
          have hkeep : isSpreadOrNamedAt name all index := by
            simp [isSpreadOrNamedAt, hhere, isSpreadOrNamed]
          have hlength := congrArg List.length hsegments
          rw [List.length_map, List.length_map] at hlength
          rw [fill, List.filter_cons_of_pos hkeep]
          · refine .cons (fun other hother => ?_) (ih hrest hsegments hnamed hordered)
            rcases mem_filter_fill hrest hlength hnamed hother with hother | ⟨hle, -⟩
            · -- Its segment is that of a place behind the spread.
              have hsegment :=
                List.mem_map_of_mem (f := spreadsBefore all) (List.mem_filter.1 hother).1
              rw [hsegments] at hsegment
              obtain ⟨place, hplace, hsame⟩ := List.mem_map.1 hsegment
              have hbehind : index + 1 ≤ place :=
                le_of_mem_places (List.mem_append_left (otherPlaces (index + 1) slots) hplace)
              have hlt := spreadsBefore_lt hhere hbehind
              by_contra hback
              have hmono := spreadsBefore_mono all (by omega : other ≤ index)
              omega
            · exact hle
          · simp

/-- Between barriers, the spreads and the slots with one name in lowercase keep their order. -/
theorem filter_canonicalOrder_name (slots : List AttributeSlot) (name : String) :
    (canonicalOrder .barrier slots).filter (isSpreadOrNamedAt name slots) =
      (List.range slots.length).filter (isSpreadOrNamedAt name slots) := by
  refine List.Perm.eq_of_pairwise (fun a b _ _ hab hba => absurd hab (Nat.lt_asymm hba)) ?_
    (List.pairwise_lt_range.filter _) (canonicalOrder_perm.filter _)
  have hordered : ((sortedPlaces .barrier slots).filter fun place =>
      sortingName slots place = name).Pairwise (· < ·) := by
    rw [filter_sortedPlaces]
    exact pairwise_namedPlaces.filter _
  exact pairwise_fill (by simp) (map_spreadsBefore_sortedPlaces slots)
    (fun place hplace => getElem?_of_mem_sortedPlaces hplace) hordered

end JsxTidy.AttributeSlot
