import JsxTidy.Attribute.Permute
import Mathlib.Data.Finset.Card
import Mathlib.Data.Finset.Range
import Mathlib.Logic.Function.Iterate

/-!
# What swaps in place arrive at

Whatever the order says, the items are only moved around: `permute_perm` and `permute_map`. When it
is a permutation of the places, every place gets the item that the order names for it. This is
`getElem?_permute`. The invariant behind it, `Settling`, says that an item which no settled place
has taken waits where the order leads from its own place.
-/

namespace JsxTidy

variable {α β : Type} {items current : Array α} {order : Array Nat} {settled place : Nat}

/-! ## Moving items around -/

theorem settlePlace_perm : (settlePlace order items place).Perm items := by
  rw [settlePlace, Array.swapIfInBounds_def]
  split
  · split
    · exact Array.swap_perm _ _
    · exact .refl _
  · exact .refl _

theorem map_settlePlace (f : α → β) :
    settlePlace order (items.map f) place = (settlePlace order items place).map f := by
  simp only [settlePlace, Array.swapIfInBounds_def, Array.size_map]
  split
  · split
    · refine Array.ext_getElem? fun k => ?_
      simp only [Array.getElem?_swap, Array.getElem?_map, Array.getElem_map]
      split
      · rfl
      · split <;> rfl
    · rfl
  · rfl

/-- Permuting moves items around. -/
theorem permute_perm (items : Array α) (order : Array Nat) : (permute items order).Perm items := by
  rw [permute]
  induction List.range order.size generalizing items with
  | nil => exact .refl _
  | cons place places ih => exact (ih _).trans settlePlace_perm

/-- Items may be changed before or after they are permuted. -/
theorem permute_map (f : α → β) (items : Array α) (order : Array Nat) :
    permute (items.map f) order = (permute items order).map f := by
  rw [permute, permute]
  induction List.range order.size generalizing items with
  | nil => rfl
  | cons place places ih => rw [List.foldl_cons, List.foldl_cons, map_settlePlace, ih]

/-! ## Following an order -/

/-- The place from which an order takes the item for a place. -/
def sourceOf (order : Array Nat) (place : Nat) : Nat :=
  order.getD place place

theorem getElem?_eq_sourceOf (hplace : place < order.size) :
    order[place]? = some (sourceOf order place) := by
  rw [sourceOf, Array.getD_eq_getD_getElem?, Array.getElem?_eq_getElem hplace, Option.getD_some]

/-- Whether no settled place has taken its item from a place. -/
def IsWaiting (order : Array Nat) (settled place : Nat) : Prop :=
  ∀ other < settled, sourceOf order other ≠ place

/-- Whether an order leads from a place over settled ones to one that is not settled. -/
def LeadsTo (order : Array Nat) (settled place last : Nat) : Prop :=
  ∃ steps, (sourceOf order)^[steps] place = last ∧
    (∀ t < steps, (sourceOf order)^[t] place < settled) ∧ settled ≤ last

section Follow

variable {last : Nat}

/-- An order that leads from one place to a second one within a number of steps is followed. -/
theorem followOrder_of_iterate {steps fuel : Nat} (hsteps : steps ≤ fuel)
    (hlast : (sourceOf order)^[steps] place = last)
    (hinside : ∀ t < steps, (sourceOf order)^[t] place < settled) (hend : settled ≤ last) :
    followOrder order settled fuel place = last := by
  induction fuel generalizing place steps with
  | zero =>
      have hzero : steps = 0 := by omega
      subst hzero
      exact hlast
  | succ fuel ih =>
      rw [followOrder]
      cases steps with
      | zero =>
          have hplace : place = last := hlast
          rw [if_neg (by omega), hplace]
      | succ steps =>
          have hfirst : place < settled := hinside 0 (by omega)
          rw [if_pos hfirst]
          refine ih (by omega : steps ≤ fuel) hlast fun t ht => ?_
          exact hinside (t + 1) (by omega)

/-- Places that wait are not met again on the way from a place over settled ones. -/
theorem IsWaiting.ne_iterate (h : IsWaiting order settled place) {other steps : Nat}
    (hinside : ∀ t < steps, (sourceOf order)^[t] other < settled) (hsteps : 0 < steps) :
    (sourceOf order)^[steps] other ≠ place := by
  obtain ⟨t, rfl⟩ := Nat.exists_eq_succ_of_ne_zero (by omega : steps ≠ 0)
  rw [Function.iterate_succ_apply']
  exact h _ (hinside t (by omega))

variable (hinj : Function.Injective (sourceOf order))
include hinj

/-- The way from a place that waits never meets a place twice, so it is short. -/
theorem IsWaiting.steps_le (h : IsWaiting order settled place) {steps : Nat}
    (hinside : ∀ t < steps, (sourceOf order)^[t] place < settled) : steps ≤ settled := by
  have hdistinct : Set.InjOn (fun t => (sourceOf order)^[t] place) (Finset.range steps) := by
    have hlt : ∀ s t, s < t → t < steps →
        (sourceOf order)^[s] place ≠ (sourceOf order)^[t] place := by
      intro s t hst ht heq
      have hback : (sourceOf order)^[s] place =
          (sourceOf order)^[s] ((sourceOf order)^[t - s] place) := by
        rw [← Function.iterate_add_apply, heq]
        congr 1
        omega
      exact h.ne_iterate (fun r hr => hinside r (by omega)) (by omega : 0 < t - s)
        (hinj.iterate s hback).symm
    intro s hs t ht heq
    rw [Finset.coe_range, Set.mem_Iio] at hs ht
    rcases Nat.lt_trichotomy s t with hst | rfl | hst
    · exact absurd heq (hlt s t hst ht)
    · rfl
    · exact absurd heq.symm (hlt t s hst hs)
  have hcard := Finset.card_le_card_of_injOn (s := Finset.range steps) (t := Finset.range settled) _
    (fun t ht => Finset.mem_coe.2 (Finset.mem_range.2 (hinside t (Finset.mem_range.1 ht))))
    hdistinct
  simpa using hcard

/-- Following the order comes to where it leads. -/
theorem IsWaiting.followOrder_eq (h : IsWaiting order settled place)
    (hlead : LeadsTo order settled place last) (hsettled : settled ≤ order.size) :
    followOrder order settled order.size place = last := by
  obtain ⟨steps, hlast, hinside, hend⟩ := hlead
  exact followOrder_of_iterate ((h.steps_le hinj hinside).trans hsettled) hlast hinside hend

/-- An order leads from two places that wait to two places. -/
theorem IsWaiting.eq_of_leadsTo {other : Nat} (h : IsWaiting order settled place)
    (h' : IsWaiting order settled other) (hlead : LeadsTo order settled place last)
    (hlead' : LeadsTo order settled other last) : place = other := by
  obtain ⟨steps, hlast, hinside, -⟩ := hlead
  obtain ⟨steps', hlast', hinside', -⟩ := hlead'
  have hshort : ∀ {a b m n}, IsWaiting order settled a → m ≤ n →
      (∀ t < n, (sourceOf order)^[t] b < settled) →
      (sourceOf order)^[m] a = (sourceOf order)^[n] b → a = b := by
    intro a b m n ha hmn hinside heq
    have hback : (sourceOf order)^[m] a = (sourceOf order)^[m] ((sourceOf order)^[n - m] b) := by
      rw [← Function.iterate_add_apply, heq]
      congr 1
      omega
    have hsame := hinj.iterate m hback
    rcases Nat.eq_zero_or_pos (n - m) with hzero | hpos
    · simpa [hzero] using hsame
    · exact absurd hsame.symm (ha.ne_iterate (fun t ht => hinside t (by omega)) hpos)
  rcases Nat.le_total steps steps' with hle | hle
  · exact hshort h hle hinside' (hlast.trans hlast'.symm)
  · exact (hshort h' hle hinside (hlast'.trans hlast.symm)).symm

omit hinj in
/-- One more settled place does not matter to a way that ends elsewhere. -/
theorem LeadsTo.grow (h : LeadsTo order settled place last) (hne : last ≠ settled) :
    LeadsTo order (settled + 1) place last := by
  obtain ⟨steps, hlast, hinside, hend⟩ := h
  exact ⟨steps, hlast, fun t ht => Nat.lt_succ_of_lt (hinside t ht), by omega⟩

omit hinj in
/-- A way that ends at the place to settle goes on from there. -/
theorem LeadsTo.goOn (h : LeadsTo order settled place settled)
    (h' : LeadsTo order settled (sourceOf order settled) last) (hne : last ≠ settled) :
    LeadsTo order (settled + 1) place last := by
  obtain ⟨steps, hmiddle, hinside, -⟩ := h
  obtain ⟨steps', hlast, hinside', hend⟩ := h'
  have hbehind : ∀ t, (sourceOf order)^[t + (steps + 1)] place =
      (sourceOf order)^[t] (sourceOf order settled) := by
    intro t
    rw [Function.iterate_add_apply, Function.iterate_succ_apply', hmiddle]
  refine ⟨steps' + (steps + 1), by rw [hbehind, hlast], fun t ht => ?_, by omega⟩
  rcases Nat.lt_trichotomy t steps with hlt | rfl | hlt
  · exact Nat.lt_succ_of_lt (hinside t hlt)
  · rw [hmiddle]
    exact Nat.lt_succ_self _
  · have hsplit : t = (t - (steps + 1)) + (steps + 1) := by omega
    rw [hsplit, hbehind]
    exact Nat.lt_succ_of_lt (hinside' _ (by omega))

end Follow

/-! ## Settling all places -/

/-- The first places have the items that the order names for them, and any item that none of them
has taken stands where the order leads from its own place. -/
structure Settling (order : Array Nat) (items current : Array α) (settled : Nat) : Prop where
  size : current.size = items.size
  taken : ∀ place < settled, current[place]? = items[sourceOf order place]?
  waiting : ∀ place < items.size, IsWaiting order settled place →
    ∃ last < items.size, LeadsTo order settled place last ∧ current[last]? = items[place]?

theorem Settling.initial (order : Array Nat) (items : Array α) : Settling order items items 0 where
  size := rfl
  taken := by
    intro place h
    cases h
  waiting := by
    intro place h _
    exact ⟨place, h, ⟨0, rfl, by simp, by simp⟩, rfl⟩

/-- The item that the order names for the next place stands where following the order comes to, and
the next place is settled by a swap with it. -/
theorem Settling.exists_last (h : Settling order items current settled)
    (hinj : Function.Injective (sourceOf order))
    (hrange : ∀ place < items.size, sourceOf order place < items.size)
    (hsize : order.size = items.size) (hsettled : settled < items.size) :
    ∃ last, ∃ (hplace : settled < current.size) (hlast : last < current.size),
      LeadsTo order settled (sourceOf order settled) last ∧
      current[last]? = items[sourceOf order settled]? ∧
      settlePlace order current settled = current.swap settled last hplace hlast := by
  have hsource : IsWaiting order settled (sourceOf order settled) := by
    intro other hother heq
    have hsame := hinj heq
    omega
  obtain ⟨last, hlast, hlead, hitem⟩ := h.waiting _ (hrange settled hsettled) hsource
  have hfollow := hsource.followOrder_eq hinj hlead (by omega)
  have hplace : settled < current.size := by rw [h.size]; exact hsettled
  have hlast' : last < current.size := by rw [h.size]; exact hlast
  refine ⟨last, hplace, hlast', hlead, hitem, ?_⟩
  rw [settlePlace]
  show current.swapIfInBounds settled (followOrder order settled order.size
    (sourceOf order settled)) = _
  rw [hfollow, Array.swapIfInBounds_def, dif_pos hplace, dif_pos hlast']

/-- Settling one more place. -/
theorem Settling.step (h : Settling order items current settled)
    (hinj : Function.Injective (sourceOf order))
    (hrange : ∀ place < items.size, sourceOf order place < items.size)
    (hsize : order.size = items.size) (hsettled : settled < items.size) :
    Settling order items (settlePlace order current settled) (settled + 1) := by
  have hsource : IsWaiting order settled (sourceOf order settled) := by
    intro other hother heq
    have hsame := hinj heq
    omega
  obtain ⟨last, hcurrent, hcurrent', hlead, hitem, hswap⟩ :=
    h.exists_last hinj hrange hsize hsettled
  have hlast : last < items.size := by rw [← h.size]; exact hcurrent'
  have hend : settled ≤ last := hlead.choose_spec.2.2
  rw [hswap]
  refine ⟨by rw [Array.size_swap, h.size], ?_, ?_⟩
  · intro place hplace
    rw [Array.getElem?_swap]
    rcases Nat.lt_succ_iff_lt_or_eq.1 hplace with hlt | rfl
    · rw [if_neg (by omega), if_neg (by omega)]
      exact h.taken place hlt
    · rw [← hitem, Array.getElem?_eq_getElem hcurrent']
      split
      · rename_i heq
        subst heq
        rfl
      · simp
  · intro place hplace hwaiting
    have hbefore : IsWaiting order settled place := fun other hother =>
      hwaiting other (Nat.lt_succ_of_lt hother)
    obtain ⟨end', hend', hlead', hitem'⟩ := h.waiting place hplace hbefore
    have hne : end' ≠ last := by
      rintro rfl
      exact hwaiting settled (Nat.lt_succ_self _)
        (hsource.eq_of_leadsTo hinj hbefore hlead hlead')
    -- An item that waited at the place that is settled now waits at the last place of the chain.
    by_cases hhere : end' = settled
    · subst hhere
      refine ⟨last, hlast, hlead'.goOn hlead (Ne.symm hne), ?_⟩
      rw [Array.getElem?_swap, if_pos rfl, ← hitem', Array.getElem?_eq_getElem hcurrent]
    · refine ⟨end', hend', hlead'.grow hhere, ?_⟩
      rw [Array.getElem?_swap, if_neg (Ne.symm hne), if_neg (Ne.symm hhere)]
      exact hitem'

section Order

variable {n : Nat} (horder : order.toList.Perm (List.range n))
include horder

theorem size_of_perm : order.size = n := by
  simpa using horder.length_eq

theorem getElem?_order (hplace : place < n) :
    order.toList[place]? = some (sourceOf order place) := by
  have hsize := size_of_perm horder
  rw [Array.getElem?_toList, getElem?_eq_sourceOf (by omega)]

theorem sourceOf_lt (hplace : place < n) : sourceOf order place < n :=
  List.mem_range.1 (horder.mem_iff.1 (List.mem_of_getElem? (getElem?_order horder hplace)))

theorem sourceOf_of_le (hplace : n ≤ place) : sourceOf order place = place := by
  have hsize := size_of_perm horder
  rw [sourceOf, Array.getD_eq_getD_getElem?, Array.getElem?_eq_none (by omega), Option.getD_none]

theorem sourceOf_injective : Function.Injective (sourceOf order) := by
  have hnodup : order.toList.Nodup := horder.nodup_iff.2 List.nodup_range
  have hlength : order.toList.length = n := by simpa using size_of_perm horder
  intro place other heq
  rcases Nat.lt_or_ge place n with hplace | hplace <;>
    rcases Nat.lt_or_ge other n with hother | hother
  · refine (List.getElem?_inj (by omega) hnodup).1 ?_
    rw [getElem?_order horder hplace, getElem?_order horder hother, heq]
  · have hlt := sourceOf_lt horder hplace
    rw [heq, sourceOf_of_le horder hother] at hlt
    omega
  · have hlt := sourceOf_lt horder hother
    rw [← heq, sourceOf_of_le horder hplace] at hlt
    omega
  · rwa [sourceOf_of_le horder hplace, sourceOf_of_le horder hother] at heq

end Order

/-- Every place gets the item that a permutation of the places names for it. -/
theorem getElem?_permute (horder : order.toList.Perm (List.range items.size))
    (hplace : place < items.size) :
    (permute items order)[place]? = items[sourceOf order place]? := by
  have hsize := size_of_perm horder
  have hsettling : ∀ settled ≤ items.size, Settling order items
      ((List.range settled).foldl (settlePlace order) items) settled := by
    intro settled hsettled
    induction settled with
    | zero => exact .initial order items
    | succ settled ih =>
        rw [List.range_succ, List.foldl_append]
        exact (ih (by omega)).step (sourceOf_injective horder)
          (fun place hplace => sourceOf_lt horder hplace) hsize hsettled
  rw [permute, hsize]
  exact (hsettling items.size (Nat.le_refl _)).taken place hplace

/-- A permutation of the places names the items in their new order. -/
theorem toList_permute (items : List α) (order : List Nat)
    (horder : order.Perm (List.range items.length)) :
    (permute items.toArray order.toArray).toList.map some = order.map (items[·]?) := by
  have hlength : order.length = items.length := by simpa using horder.length_eq
  have hperm : order.toArray.toList.Perm (List.range items.toArray.size) := horder
  have hsize : (permute items.toArray order.toArray).size = items.length :=
    (permute_perm _ _).size_eq
  refine List.ext_getElem? fun place => ?_
  rw [List.getElem?_map, List.getElem?_map, Array.getElem?_toList]
  rcases Nat.lt_or_ge place items.length with hplace | hplace
  · have hsource : order[place]? = some (sourceOf order.toArray place) :=
      getElem?_order hperm hplace
    have hlt : sourceOf order.toArray place < items.length := sourceOf_lt hperm hplace
    rw [getElem?_permute hperm hplace, hsource, List.getElem?_toArray, Option.map_some,
      List.getElem?_eq_getElem hlt, Option.map_some]
  · rw [Array.getElem?_eq_none (by omega), List.getElem?_eq_none (by omega), Option.map_none,
      Option.map_none]

end JsxTidy
