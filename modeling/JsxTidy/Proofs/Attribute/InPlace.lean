import JsxTidy.Proofs.Attribute.Permute

/-!
# Swaps in place, access by access

A run of swaps reads the order and the items at places that have to exist, and it may go round in
circles in the search for an item. `Follows` and `Arranges` say what such a run does when neither
happens: a derivation is a run that ends, with every access within bounds. For a permutation of the
places there is exactly one run, it ends with what `permute` gives, and every place has the item
that the order names for it: `arranges_iff_of_perm`.
-/

namespace JsxTidy

variable {α : Type} {items current result other : Array α} {order : Array Nat}
  {settled place last : Nat}

/-! ## Runs -/

/-- The search for an item leads from one place to another: as long as a place is settled, the order
is read there. -/
inductive Follows (order : Array Nat) (settled : Nat) : Nat → Nat → Prop where
  | arrive {place : Nat} (hend : settled ≤ place) : Follows order settled place place
  | read {place next last : Nat} (hinside : place < settled) (hnext : order[place]? = some next)
      (h : Follows order settled next last) : Follows order settled place last

/-- Swaps from a place on bring some items into the order of others. -/
inductive Arranges {α : Type} (order : Array Nat) : Nat → Array α → Array α → Prop where
  | done {place : Nat} {items : Array α} (hend : order.size ≤ place) :
      Arranges order place items items
  | swap {place first last : Nat} {items result : Array α} (hfirst : order[place]? = some first)
      (hfollows : Follows order place first last)
      (hplace : place < items.size) (hlast : last < items.size)
      (h : Arranges order (place + 1) (items.swap place last hplace hlast) result) :
      Arranges order place items result

/-- The search comes to one place. -/
theorem Follows.unique {last' : Nat} (h : Follows order settled place last)
    (h' : Follows order settled place last') : last = last' := by
  induction h with
  | arrive hend =>
      cases h' with
      | arrive => rfl
      | read hinside => omega
  | read hinside hnext _ ih =>
      cases h' with
      | arrive hend => omega
      | read _ hnext' h' =>
          rw [hnext] at hnext'
          cases hnext'
          exact ih h'

/-- A run has one result. -/
theorem Arranges.unique (h : Arranges order place items result)
    (h' : Arranges order place items other) : result = other := by
  induction h with
  | done hend =>
      cases h' with
      | done => rfl
      | swap hfirst =>
          rw [Array.getElem?_eq_none hend] at hfirst
          cases hfirst
  | swap hfirst hfollows hplace hlast _ ih =>
      cases h' with
      | done hend =>
          rw [Array.getElem?_eq_none hend] at hfirst
          cases hfirst
      | swap hfirst' hfollows' hplace' hlast' h' =>
          rw [hfirst] at hfirst'
          cases hfirst'
          obtain rfl := hfollows.unique hfollows'
          exact ih h'

/-! ## Permutations of the places -/

/-- Where an order leads from a place, the search comes to: all settled places are places of the
order. -/
theorem LeadsTo.follows (h : LeadsTo order settled place last) (hsize : settled ≤ order.size) :
    Follows order settled place last := by
  obtain ⟨steps, hlast, hinside, hend⟩ := h
  induction steps generalizing place with
  | zero =>
      have hplace : place = last := hlast
      rw [hplace]
      exact .arrive hend
  | succ steps ih =>
      have hfirst : place < settled := hinside 0 (by omega)
      have hrest := ih hlast fun t ht => hinside (t + 1) (by omega)
      exact .read hfirst (getElem?_eq_sourceOf (by omega)) hrest

/-- From settled places on, a run settles all the others. -/
theorem Settling.arranges (h : Settling order items current settled)
    (hinj : Function.Injective (sourceOf order))
    (hrange : ∀ place < items.size, sourceOf order place < items.size)
    (hsize : order.size = items.size) (count : Nat) (hcount : settled + count = items.size) :
    Arranges order settled current
      ((List.range' settled count).foldl (settlePlace order) current) := by
  induction count generalizing settled current with
  | zero => exact .done (by omega)
  | succ count ih =>
      have hsettled : settled < items.size := by omega
      obtain ⟨last, hplace, hlast, hlead, -, hswap⟩ := h.exists_last hinj hrange hsize hsettled
      have hnext := ih (h.step hinj hrange hsize hsettled) (by omega)
      rw [hswap] at hnext
      rw [List.range'_succ, List.foldl_cons, hswap]
      exact .swap (getElem?_eq_sourceOf (by omega)) (hlead.follows (by omega)) hplace hlast hnext

/-- Swaps in place by a permutation of the places end without an access out of bounds, in no other
way than `permute` gives. Every place then has the item that the order names for it, and no item is
lost or doubled. -/
theorem arranges_iff_of_perm (items : Array α) (order : Array Nat)
    (horder : order.toList.Perm (List.range items.size)) :
    (∀ result, Arranges order 0 items result ↔ result = permute items order) ∧
    (∀ place : Nat, (permute items order)[place]? = order[place]?.bind (items[·]?)) ∧
    (permute items order).Perm items := by
  have hsize := size_of_perm horder
  have hrun : Arranges order 0 items (permute items order) := by
    rw [permute, hsize, List.range_eq_range']
    exact (Settling.initial order items).arranges (sourceOf_injective horder)
      (fun place => sourceOf_lt horder) hsize items.size (Nat.zero_add _)
  refine ⟨fun result => ⟨fun h => h.unique hrun, ?_⟩, fun place => ?_, permute_perm items order⟩
  · rintro rfl
    exact hrun
  · rcases Nat.lt_or_ge place items.size with hplace | hplace
    · have hsource := getElem?_order horder hplace
      rw [Array.getElem?_toList] at hsource
      rw [getElem?_permute horder hplace, hsource]
      rfl
    · have hlength := (permute_perm items order).size_eq
      rw [Array.getElem?_eq_none (by omega), Array.getElem?_eq_none (by omega)]
      rfl

/-- Five items in two cycles. -/
theorem two_cycles_arranged :
    (#[3, 4, 0, 2, 1] : Array Nat).toList.Perm (List.range #['a', 'b', 'c', 'd', 'e'].size) ∧
    (∀ result, Arranges #[3, 4, 0, 2, 1] 0 #['a', 'b', 'c', 'd', 'e'] result ↔
      result = #['d', 'e', 'a', 'c', 'b']) := by
  have horder : (#[3, 4, 0, 2, 1] : Array Nat).toList.Perm
      (List.range #['a', 'b', 'c', 'd', 'e'].size) := by decide
  have hresult : permute #['a', 'b', 'c', 'd', 'e'] #[3, 4, 0, 2, 1] =
      #['d', 'e', 'a', 'c', 'b'] := by decide
  refine ⟨horder, fun result => ?_⟩
  rw [← hresult]
  exact (arranges_iff_of_perm _ _ horder).1 result

end JsxTidy
