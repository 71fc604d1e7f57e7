import JsxTidy.Proofs.Attribute.Segments

/-!
# What the canonical order is

An order of attributes is canonical when it is a permutation of the places, leaves slots without
names where they are, takes no name across a barrier, and sorts the names between two barriers
without exchanging equal ones (`IsCanonical`). There is one such order: `isCanonical_iff`. It is
unique because these demands say of any two named slots which one comes first (`Precedes`).
-/

namespace JsxTidy.AttributeSlot

variable {policy : SpreadPolicy} {slots all : List AttributeSlot} {name name' : String}
  {index place other source source' rank : Nat} {places order order' : List Nat}
  {key key' : AttributeKey}

/-- Whether no barrier stands between two places. -/
def SameSegment (policy : SpreadPolicy) (slots : List AttributeSlot) (place other : Nat) : Prop :=
  policy = .barrier → ∀ barrier : Nat, slots[barrier]? = some spread →
    (place < barrier ↔ other < barrier)

/-- Whether an order of some slots is the stable order of their names in lowercase between the
barriers, and does nothing else. At each place it has the place from which its slot comes. -/
structure IsCanonical (policy : SpreadPolicy) (slots : List AttributeSlot) (order : List Nat) :
    Prop where
  /-- No slot is lost or doubled. -/
  perm : order.Perm (List.range slots.length)
  /-- Slots without names stay in their places. -/
  others : ∀ place : Nat, isOtherAt slots place → order[place]? = some place
  /-- No slot crosses a barrier. -/
  segment : ∀ place source : Nat, order[place]? = some source →
    SameSegment policy slots place source
  /-- Names between two barriers do not decrease. -/
  sorted : ∀ (place other source source' : Nat) (name name' : String), place < other →
    SameSegment policy slots place other →
    order[place]? = some source → slots[source]? = some (named name) →
    order[other]? = some source' → slots[source']? = some (named name') →
    Text.lowercase name ≤ Text.lowercase name'
  /-- Equal names are not exchanged. -/
  stable : ∀ (place other source source' : Nat) (name name' : String), place < other →
    order[place]? = some source → slots[source]? = some (named name) →
    order[other]? = some source' → slots[source']? = some (named name') →
    Text.lowercase name = Text.lowercase name' → source < source'

/-! ## Segments -/

theorem SameSegment.refl (policy : SpreadPolicy) (slots : List AttributeSlot) (place : Nat) :
    SameSegment policy slots place place :=
  fun _ _ _ => Iff.rfl

theorem SameSegment.symm (h : SameSegment policy slots place other) :
    SameSegment policy slots other place :=
  fun hbarrier barrier hspread => (h hbarrier barrier hspread).symm

theorem SameSegment.trans (h : SameSegment policy slots place other)
    (h' : SameSegment policy slots other source) : SameSegment policy slots place source :=
  fun hbarrier barrier hspread => (h hbarrier barrier hspread).trans (h' hbarrier barrier hspread)

/-- Where the number of spreads grows, there is a spread. -/
theorem exists_spread (h : spreadsBefore slots place < spreadsBefore slots other) :
    ∃ barrier : Nat, place ≤ barrier ∧ barrier < other ∧ slots[barrier]? = some spread := by
  induction other with
  | zero => exact absurd h (Nat.not_lt_zero _)
  | succ other ih =>
      by_cases hspread : slots[other]? = some spread
      · refine ⟨other, ?_, Nat.lt_succ_self other, hspread⟩
        by_contra hback
        have hmono := spreadsBefore_mono slots (by omega : other + 1 ≤ place)
        omega
      · rw [spreadsBefore_succ, if_neg hspread] at h
        obtain ⟨barrier, hle, hlt, hbarrier⟩ := ih h
        exact ⟨barrier, hle, by omega, hbarrier⟩

/-- Names with the same number of spreads before them are in one segment, and no others are. -/
theorem sameSegment_barrier_iff (hplace : slots[place]? = some (named name))
    (hother : slots[other]? = some (named name')) :
    SameSegment .barrier slots place other ↔
      spreadsBefore slots place = spreadsBefore slots other := by
  have hne : ∀ {place barrier : Nat} {name : String}, slots[place]? = some (named name) →
      slots[barrier]? = some spread → place ≠ barrier := by
    rintro place _ name hplace hspread rfl
    rw [hplace] at hspread
    cases hspread
  constructor
  · intro h
    rcases Nat.lt_trichotomy (spreadsBefore slots place) (spreadsBefore slots other) with
      hlt | heq | hlt
    · obtain ⟨barrier, hle, hlt, hspread⟩ := exists_spread hlt
      have hsame := h rfl barrier hspread
      have hbarrier := hne hplace hspread
      omega
    · exact heq
    · obtain ⟨barrier, hle, hlt, hspread⟩ := exists_spread hlt
      have hsame := h rfl barrier hspread
      have hbarrier := hne hother hspread
      omega
  · intro h _ barrier hspread
    have hbefore : ∀ {place other : Nat} {name : String}, slots[other]? = some (named name) →
        spreadsBefore slots place = spreadsBefore slots other → place < barrier →
          other < barrier := by
      intro place other name hother h hlt
      by_contra hback
      have hbarrier := hne hother hspread
      have hmono := spreadsBefore_mono slots (Nat.le_of_lt hlt)
      have hgrow := spreadsBefore_lt hspread (by omega : barrier < other)
      omega
    exact ⟨hbefore hother h, hbefore hplace h.symm⟩

/-- All slots are in one segment if spreads are no barriers. -/
theorem segment_unrestricted {segment : Nat}
    (h : key ∈ AttributeKey.ofSlots .unrestricted segment index slots) : key.segment = segment := by
  induction slots generalizing index with
  | nil => cases h
  | cons slot slots ih =>
      cases slot with
      | named name =>
          rcases List.mem_cons.1 h with rfl | h
          · rfl
          · exact ih h
      | fixed => exact ih h
      | spread => exact ih h

/-- Keys of names in one segment say so. -/
theorem segment_eq_of_sameSegment (hkey : key ∈ sortedKeys policy slots)
    (hkey' : key' ∈ sortedKeys policy slots)
    (h : SameSegment policy slots key.index key'.index) : key.segment = key'.segment := by
  rw [mem_sortedKeys] at hkey hkey'
  cases policy with
  | barrier =>
      have hall : ∀ i : Nat, slots[0 + i]? = slots[i]? := by simp
      rw [segment_of_mem_ofSlots hkey hall rfl, segment_of_mem_ofSlots hkey' hall rfl]
      exact (sameSegment_barrier_iff (getElem?_of_mem_ofSlots hkey (by simp)).1
        (getElem?_of_mem_ofSlots hkey' (by simp)).1).1 h
  | unrestricted => rw [segment_unrestricted hkey, segment_unrestricted hkey']

/-! ## The canonical order is canonical -/

/-- At a filled place there is the place itself if its slot has no name, and otherwise what was
filled in for it. -/
theorem getElem?_fill (hlength : places.length = (namedPlaces index slots).length)
    (h : (fill index slots places)[place]? = some source) :
    (isOtherAt slots place ∧ source = index + place) ∨
      ∃ rank : Nat, (namedPlaces index slots)[rank]? = some (index + place) ∧
        places[rank]? = some source := by
  induction slots generalizing index places place with
  | nil => cases h
  | cons slot slots ih =>
      -- A slot without a name uses up none of the places.
      have hothers : ∀ {places : List Nat}, slot.isNamed = false →
          places.length = (namedPlaces (index + 1) slots).length →
          (index :: fill (index + 1) slots places)[place]? = some source →
          (isOtherAt (slot :: slots) place ∧ source = index + place) ∨
            ∃ rank : Nat, (namedPlaces (index + 1) slots)[rank]? = some (index + place) ∧
              places[rank]? = some source := by
        intro places hslot hlength h
        cases place with
        | zero =>
            cases h
            exact .inl ⟨by simp [isOtherAt, hslot], rfl⟩
        | succ place =>
            rcases ih hlength h with ⟨hother, hsource⟩ | ⟨rank, hrank, hplace⟩
            · exact .inl ⟨hother, by omega⟩
            · exact .inr ⟨rank, by rw [hrank]; congr 1; omega, hplace⟩
      cases slot with
      | named name =>
          cases places with
          | nil => cases hlength
          | cons first places =>
              cases place with
              | zero => exact .inr ⟨0, rfl, h⟩
              | succ place =>
                  rcases ih (Nat.succ.inj hlength) h with ⟨hother, hsource⟩ | ⟨rank, hrank, hplace⟩
                  · exact .inl ⟨hother, by omega⟩
                  · refine .inr ⟨rank + 1, ?_, hplace⟩
                    show (namedPlaces (index + 1) slots)[rank]? = _
                    rw [hrank]
                    congr 1
                    omega
      | fixed | spread => exact hothers rfl hlength h

/-- A named slot comes to its place by its rank among the sorted ones. -/
theorem exists_rank (h : (canonicalOrder policy slots)[place]? = some source)
    (hname : slots[source]? = some (named name)) :
    ∃ rank : Nat, (namedPlaces 0 slots)[rank]? = some place ∧
      (sortedPlaces policy slots)[rank]? = some source := by
  rw [canonicalOrder_eq] at h
  rcases getElem?_fill (sortedKeys_perm policy slots).length_eq h with ⟨hother, hsource⟩ | hrank
  · rw [hsource, Nat.zero_add] at hname
    exact absurd hother (not_isOtherAt hname)
  · rwa [Nat.zero_add] at hrank

/-- Of two named slots the first one has the lower rank. -/
theorem rank_lt {rank' : Nat} (hrank : (namedPlaces 0 slots)[rank]? = some place)
    (hrank' : (namedPlaces 0 slots)[rank']? = some other) (h : place < other) : rank < rank' := by
  by_contra hback
  obtain ⟨hbound, rfl⟩ := List.getElem?_eq_some_iff.1 hrank
  obtain ⟨hbound', rfl⟩ := List.getElem?_eq_some_iff.1 hrank'
  have hordered : (namedPlaces 0 slots).Pairwise (· < ·) := pairwise_namedPlaces
  rcases Nat.lt_or_eq_of_le (Nat.le_of_not_lt hback) with hlt | rfl
  · have hless := List.pairwise_iff_getElem.1 hordered rank' rank hbound' hbound hlt
    omega
  · omega

theorem sortingName_eq (h : slots[source]? = some (named name)) :
    sortingName slots source = Text.lowercase name := by
  rw [sortingName, nameAt, h]

/-- Sorted names of one segment do not decrease. -/
theorem sortingName_le {rank' : Nat} (hrank : (sortedPlaces policy slots)[rank]? = some source)
    (hrank' : (sortedPlaces policy slots)[rank']? = some source') (hlt : rank < rank')
    (hsegment : SameSegment policy slots source source') :
    sortingName slots source ≤ sortingName slots source' := by
  rw [sortedPlaces, List.getElem?_map, Option.map_eq_some_iff] at hrank hrank'
  obtain ⟨key, hkey, rfl⟩ := hrank
  obtain ⟨key', hkey', rfl⟩ := hrank'
  have hmem := List.mem_of_getElem? hkey
  have hmem' := List.mem_of_getElem? hkey'
  have hsame := segment_eq_of_sameSegment hmem hmem' hsegment
  obtain ⟨hbound, rfl⟩ := List.getElem?_eq_some_iff.1 hkey
  obtain ⟨hbound', rfl⟩ := List.getElem?_eq_some_iff.1 hkey'
  have hsorted := List.pairwise_iff_getElem.1 (List.pairwise_mergeSort AttributeKey.trans_le
    AttributeKey.total_le (AttributeKey.ofSlots policy 0 0 slots)) rank rank' hbound hbound' hlt
  rw [sortingName_of_mem_ofSlots (mem_sortedKeys.1 hmem),
    sortingName_of_mem_ofSlots (mem_sortedKeys.1 hmem')]
  rcases AttributeKey.le_iff.1 hsorted with hless | ⟨-, hname⟩
  · exact absurd hless (Nat.not_lt_of_le (Nat.le_of_eq hsame.symm))
  · exact hname

/-- Sorted places with equal names are in order. -/
theorem source_lt {rank' : Nat} (hrank : (sortedPlaces policy slots)[rank]? = some source)
    (hrank' : (sortedPlaces policy slots)[rank']? = some source') (hlt : rank < rank')
    (hname : sortingName slots source = sortingName slots source') : source < source' := by
  have hordered : ((sortedPlaces policy slots).filter fun place =>
      sortingName slots place = sortingName slots source').Pairwise (· < ·) := by
    rw [filter_sortedPlaces]
    exact pairwise_namedPlaces.filter _
  rw [List.pairwise_filter] at hordered
  obtain ⟨hbound, rfl⟩ := List.getElem?_eq_some_iff.1 hrank
  obtain ⟨hbound', rfl⟩ := List.getElem?_eq_some_iff.1 hrank'
  exact List.pairwise_iff_getElem.1 hordered rank rank' hbound hbound' hlt
    (decide_eq_true hname) (decide_eq_true rfl)

theorem isCanonical_canonicalOrder (policy : SpreadPolicy) (slots : List AttributeSlot) :
    IsCanonical policy slots (canonicalOrder policy slots) := by
  have hsegment : ∀ place source : Nat, (canonicalOrder policy slots)[place]? = some source →
      SameSegment policy slots place source := by
    intro place source h hbarrier
    subst hbarrier
    rcases getElem?_fill (sortedKeys_perm .barrier slots).length_eq h with
      ⟨-, hsource⟩ | ⟨rank, hplace, hsource⟩
    · rw [hsource, Nat.zero_add]
      exact SameSegment.refl .barrier slots place rfl
    · -- As many spreads stand before the attribute of a rank as before the place it goes to.
      have hspreads := congrArg (·[rank]?) (map_spreadsBefore_sortedPlaces slots)
      simp only [List.getElem?_map, sortedPlaces, hsource, hplace, Option.map_some, Nat.zero_add]
        at hspreads
      rw [Nat.zero_add] at hplace
      exact (sameSegment_barrier_iff (getElem?_of_mem_namedPlaces (List.mem_of_getElem? hplace))
        (getElem?_of_mem_sortedPlaces (List.mem_of_getElem? hsource))).2
          (Option.some.inj hspreads).symm rfl
  refine ⟨canonicalOrder_perm, fun place hother => ?_, hsegment, ?_, ?_⟩
  · have hplace : place < (canonicalOrder policy slots).length := by
      rw [length_canonicalOrder]
      by_contra hback
      rw [isOtherAt, List.getElem?_eq_none (by omega)] at hother
      cases hother
    obtain ⟨source, hsource⟩ : ∃ source, (canonicalOrder policy slots)[place]? = some source :=
      ⟨_, List.getElem?_eq_getElem hplace⟩
    rw [hsource]
    rcases getElem?_fill (sortedKeys_perm policy slots).length_eq hsource with
      ⟨-, heq⟩ | ⟨rank, hrank, -⟩
    · rw [heq, Nat.zero_add]
    · rw [Nat.zero_add] at hrank
      exact absurd hother
        (not_isOtherAt (getElem?_of_mem_namedPlaces (List.mem_of_getElem? hrank)))
  · intro place other source source' name name' hlt hsame hsource hname hsource' hname'
    obtain ⟨rank, hplace, hrank⟩ := exists_rank hsource hname
    obtain ⟨rank', hother, hrank'⟩ := exists_rank hsource' hname'
    rw [← sortingName_eq hname, ← sortingName_eq hname']
    exact sortingName_le hrank hrank' (rank_lt hplace hother hlt)
      (((hsegment place source hsource).symm.trans hsame).trans (hsegment other source' hsource'))
  · intro place other source source' name name' hlt hsource hname hsource' hname' heq
    obtain ⟨rank, hplace, hrank⟩ := exists_rank hsource hname
    obtain ⟨rank', hother, hrank'⟩ := exists_rank hsource' hname'
    rw [← sortingName_eq hname, ← sortingName_eq hname'] at heq
    exact source_lt hrank hrank' (rank_lt hplace hother hlt) heq

/-! ## There is no other one -/

/-- Whether a canonical order has one named slot before another. -/
def Precedes (policy : SpreadPolicy) (slots : List AttributeSlot) (source source' : Nat) : Prop :=
  (¬ SameSegment policy slots source source' ∧ source < source') ∨
  (SameSegment policy slots source source' ∧
    (sortingName slots source < sortingName slots source' ∨
      (sortingName slots source = sortingName slots source' ∧ source < source')))

theorem Precedes.asymm (h : Precedes policy slots source source') :
    ¬ Precedes policy slots source' source := by
  rintro (⟨hother', hlt'⟩ | ⟨hsame', hname'⟩) <;> rcases h with ⟨hother, hlt⟩ | ⟨hsame, hname⟩
  · omega
  · exact hother' hsame.symm
  · exact hother hsame'.symm
  · rcases hname with hless | ⟨heq, hlt⟩ <;> rcases hname' with hless' | ⟨heq', hlt'⟩
    · exact lt_asymm hless hless'
    · exact hless.ne heq'.symm
    · exact hless'.ne heq.symm
    · omega

/-- What the demands on a canonical order come to for two named slots. -/
theorem IsCanonical.precedes (h : IsCanonical policy slots order) (hlt : place < other)
    (hsource : order[place]? = some source) (hname : slots[source]? = some (named name))
    (hsource' : order[other]? = some source') (hname' : slots[source']? = some (named name')) :
    Precedes policy slots source source' := by
  have hsegment := h.segment place source hsource
  have hsegment' := h.segment other source' hsource'
  by_cases hsame : SameSegment policy slots place other
  · refine .inr ⟨(hsegment.symm.trans hsame).trans hsegment', ?_⟩
    rw [sortingName_eq hname, sortingName_eq hname']
    have hle :=
      h.sorted place other source source' name name' hlt hsame hsource hname hsource' hname'
    rcases hle.lt_or_eq with hless | heq
    · exact .inl hless
    · exact .inr ⟨heq, h.stable place other source source' name name' hlt hsource hname hsource'
        hname' heq⟩
  · -- The barrier between the two places is one between the two slots.
    have hapart : ¬ SameSegment policy slots source source' := fun hsources =>
      hsame ((hsegment.trans hsources).trans hsegment'.symm)
    refine .inl ⟨hapart, ?_⟩
    unfold SameSegment at hsame
    push Not at hsame
    obtain ⟨hbarrier, barrier, hspread, hbetween⟩ := hsame
    have hleft := hsegment hbarrier barrier hspread
    have hright := hsegment' hbarrier barrier hspread
    omega

/-- A canonical order takes named slots to places of named slots. -/
theorem IsCanonical.isOtherAt_iff (h : IsCanonical policy slots order)
    (hsource : order[place]? = some source) : isOtherAt slots source ↔ isOtherAt slots place := by
  have hnodup : order.Nodup := h.perm.nodup_iff.2 List.nodup_range
  constructor
  · intro hother
    have hhere := h.others source hother
    have hbound := (List.getElem?_eq_some_iff.1 hsource).1
    have hplace := (List.getElem?_inj hbound hnodup).1 (hsource.trans hhere.symm)
    rwa [hplace]
  · intro hother
    rw [h.others place hother] at hsource
    cases hsource
    exact hother

/-- An order that leaves slots without names in their places has its named ones filled in. -/
theorem fill_filter (hall : ∀ i, all[index + i]? = slots[i]?)
    (hlength : order.length = slots.length)
    (hothers : ∀ place : Nat, isOtherAt slots place → order[place]? = some (index + place))
    (hnamed : ∀ place source : Nat, order[place]? = some source →
      (isOtherAt all source ↔ isOtherAt slots place)) :
    fill index slots (order.filter fun source => !isOtherAt all source) = order := by
  induction slots generalizing index order with
  | nil =>
      rw [List.eq_nil_of_length_eq_zero hlength]
      rfl
  | cons slot slots ih =>
      cases order with
      | nil => cases hlength
      | cons source order =>
          have hfirst := hnamed 0 source rfl
          have hrest := ih (getElem?_behind hall) (Nat.succ.inj hlength)
            (fun place hplace => by
              have hnext := hothers (place + 1) hplace
              rw [List.getElem?_cons_succ] at hnext
              rw [hnext]
              congr 1
              omega)
            (fun place source hsource => hnamed (place + 1) source hsource)
          cases slot with
          | named name =>
              have hkeep : isOtherAt all source = false := by
                rw [← Bool.not_eq_true, hfirst]
                exact not_isOtherAt rfl
              rw [List.filter_cons_of_pos (by simp [hkeep]), fill, hrest]
          | fixed | spread =>
              have hdrop : isOtherAt all source := hfirst.2 rfl
              cases hothers 0 rfl
              rw [List.filter_cons_of_neg (by simpa using hdrop), fill, hrest]
              · rfl
              · simp

/-- The named slots of a canonical order, one before the other. -/
theorem IsCanonical.pairwise_precedes (h : IsCanonical policy slots order) :
    (order.filter fun source => !isOtherAt slots source).Pairwise (Precedes policy slots) := by
  have hname : ∀ source ∈ order, !isOtherAt slots source →
      slots[source]? = some (named (nameAt slots source)) := by
    intro source hmem hsource
    have hbound := List.mem_range.1 (h.perm.mem_iff.1 hmem)
    rw [isOtherAt, List.getElem?_eq_getElem hbound] at hsource
    rw [nameAt, List.getElem?_eq_getElem hbound]
    cases hslot : slots[source] with
    | named name => rfl
    | fixed => simp [hslot, isNamed] at hsource
    | spread => simp [hslot, isNamed] at hsource
  rw [List.pairwise_filter, List.pairwise_iff_getElem]
  intro place other hplace hother hlt hsource hsource'
  exact h.precedes hlt (List.getElem?_eq_getElem hplace)
    (hname _ (List.getElem_mem hplace) hsource) (List.getElem?_eq_getElem hother)
    (hname _ (List.getElem_mem hother) hsource')

/-- There are no two canonical orders. -/
theorem IsCanonical.unique (h : IsCanonical policy slots order)
    (h' : IsCanonical policy slots order') : order = order' := by
  have hfill : ∀ {order : List Nat}, IsCanonical policy slots order →
      fill 0 slots (order.filter fun source => !isOtherAt slots source) = order := by
    intro order h
    refine fill_filter (by simp) (by simpa using h.perm.length_eq) (fun place hplace => ?_)
      fun place source => h.isOtherAt_iff
    rw [h.others place hplace, Nat.zero_add]
  have hsame := List.Perm.eq_of_pairwise (fun _ _ _ _ hab hba => absurd hba hab.asymm)
    h.pairwise_precedes h'.pairwise_precedes ((h.perm.trans h'.perm.symm).filter _)
  rw [← hfill h, hsame, hfill h']

/-- The canonical order is the stable order of names between barriers, and the only one. -/
theorem isCanonical_iff (policy : SpreadPolicy) (slots : List AttributeSlot) (order : List Nat) :
    IsCanonical policy slots order ↔ order = canonicalOrder policy slots := by
  constructor
  · intro h
    exact h.unique (isCanonical_canonicalOrder policy slots)
  · rintro rfl
    exact isCanonical_canonicalOrder policy slots

end JsxTidy.AttributeSlot
