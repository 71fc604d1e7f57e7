import JsxTidy.Text.Lowercase

/-!
# The order of attributes

Named attributes are sorted by their names in lowercase, and equal names keep their order. All
other attributes keep their places. A spread may be a barrier that no named attribute crosses.
-/

namespace JsxTidy

/-- What a spread means for the order of the attributes around it. -/
inductive SpreadPolicy where
  /-- The attributes before and behind a spread are sorted on their own. -/
  | barrier
  /-- Attributes are sorted across spreads. -/
  | unrestricted
deriving DecidableEq, Repr

/-- What an attribute is to the sorting of attributes. -/
inductive AttributeSlot where
  | named (name : String)
  /-- An attribute with a namespace, which keeps its place. -/
  | fixed
  | spread
deriving DecidableEq, Repr

/-- What a named attribute is sorted by, and its place. -/
structure AttributeKey where
  /-- The number of barriers before the attribute. -/
  segment : Nat
  /-- The name in lowercase. -/
  name : String
  index : Nat
deriving DecidableEq, Repr

namespace AttributeKey

/-- Whether one attribute may stand before another one. -/
def le (a b : AttributeKey) : Bool :=
  decide (a.segment < b.segment) || (a.segment == b.segment && decide (a.name ≤ b.name))

/-- The keys of the named slots among some slots, the first of which has a given place. -/
def ofSlots (policy : SpreadPolicy) (segment index : Nat) :
    List AttributeSlot → List AttributeKey
  | [] => []
  | .named name :: rest =>
    ⟨segment, Text.lowercase name, index⟩ :: ofSlots policy segment (index + 1) rest
  | .fixed :: rest => ofSlots policy segment (index + 1) rest
  | .spread :: rest =>
    ofSlots policy (if policy = .barrier then segment + 1 else segment) (index + 1) rest

end AttributeKey

namespace AttributeSlot

/-- Whether an attribute has a name to be sorted by. -/
def isNamed : AttributeSlot → Bool
  | named _ => true
  | _ => false

/-- The places of some slots, the first of which has a given place, with the places of the named
ones taken from a list. -/
def fill (index : Nat) : List AttributeSlot → List Nat → List Nat
  | [], _ => []
  | named _ :: rest, place :: places => place :: fill (index + 1) rest places
  | _ :: rest, places => index :: fill (index + 1) rest places

/-- The order of some attributes: at each place, the place from which its attribute comes. -/
def canonicalOrder (policy : SpreadPolicy) (slots : List AttributeSlot) : List Nat :=
  let keys := (AttributeKey.ofSlots policy 0 0 slots).mergeSort AttributeKey.le
  fill 0 slots (keys.map AttributeKey.index)

end AttributeSlot

/-- Whether an order leaves everything in its place. -/
def isIdentity (order : List Nat) : Bool :=
  order == List.range order.length

end JsxTidy
