/-!
# Permuting in place

An order says, for each place, where its new item comes from. The items are brought into that
order by swaps alone. When the first places have been settled, the item that a settled place held
has moved to the place from which the settled one took its own, so following the order leads to
where any item is now.
-/

namespace JsxTidy

/-- The place behind all settled ones to which the order leads from a place, in at most `steps`
steps. -/
def followOrder (order : Array Nat) (settled : Nat) : Nat → Nat → Nat
  | 0, place => place
  | steps + 1, place =>
    if place < settled then followOrder order settled steps (order.getD place place) else place

/-- Settles a place by a swap. -/
def settlePlace {α : Type} (order : Array Nat) (items : Array α) (place : Nat) : Array α :=
  items.swapIfInBounds place (followOrder order place order.size (order.getD place place))

/-- Some items in the given order, which is a permutation of their places. -/
def permute {α : Type} (items : Array α) (order : Array Nat) : Array α :=
  (List.range order.size).foldl (settlePlace order) items

end JsxTidy
