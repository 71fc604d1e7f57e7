import JsxTidy.Proofs.Attribute.Segments
import JsxTidy.Proofs.Attribute.Sorting

/-!
# The properties that an element receives

The properties of an element are written from left to right: an attribute with a name writes its
own key, a spread writes all its keys, and a later write wins. Sorting between spreads does not
change them, which is `barrier_keeps_props`. The reason is that the attributes which write one key
keep their order: a spread and an attribute with a namespace stay in their places, no named
attribute crosses a spread, and equal names are not exchanged.
-/

namespace JsxTidy

open Syntax

/-- A key that an attribute with a name writes. No name holds a colon, so a name in a namespace is
none without one. -/
inductive PropKey where
  | plain (name : String)
  | spaced (space name : String)
deriving DecidableEq

/-- The key of an attribute, if it has a name. -/
def PropKey.ofNode? : Node → Option PropKey
  | .mk .markupAttribute _ (.mk (.word name) _ _ :: _) => some (plain name)
  | .mk .markupAttribute _
      (.mk .namespacedName _ [.mk (.word space) _ _, .mk (.word name) _ _] :: _) =>
    some (spaced space name)
  | _ => none

theorem PropKey.slot_of_plain {node : Node} {name : String}
    (h : PropKey.ofNode? node = some (plain name)) : AttributeSlot.ofNode node = .named name := by
  unfold PropKey.ofNode? at h
  split at h <;> cases h
  rfl

theorem PropKey.slot_of_spaced {node : Node} {space name : String}
    (h : PropKey.ofNode? node = some (spaced space name)) : AttributeSlot.ofNode node = .fixed := by
  unfold PropKey.ofNode? at h
  split at h <;> cases h
  rfl

/-- The properties of an element: the values under the keys that it has. -/
abbrev Props (Value : Type) := PropKey → Option Value

/-- What the attributes of an element evaluate to: those with names to values, spreads to
properties. -/
structure Evaluation (Value : Type) where
  value : Node → Value
  spread : Node → Props Value

variable {Value : Type} {e : Evaluation Value} {policy : SpreadPolicy} {key : PropKey}
  {node : Node} {nodes others : List Node}

namespace Evaluation

/-- What an attribute writes under a key, if it writes it. -/
def write? (e : Evaluation Value) (node : Node) (key : PropKey) : Option Value :=
  match AttributeSlot.ofNode node with
  | .spread => e.spread node key
  | .named _ | .fixed => if PropKey.ofNode? node = some key then some (e.value node) else none

/-- Properties after an attribute has been written over them. -/
def write (e : Evaluation Value) (props : Props Value) (node : Node) : Props Value :=
  fun key => (e.write? node key).or (props key)

/-- The properties that some attributes come to, from left to right. -/
def props (e : Evaluation Value) (nodes : List Node) : Props Value :=
  nodes.foldl e.write fun _ => none

/-! ## Writers of a key -/

/-- Whether an attribute writes a key. -/
def writes (e : Evaluation Value) (key : PropKey) (node : Node) : Bool :=
  (e.write? node key).isSome

/-- Attributes that do not write a key do not matter to it. -/
theorem foldl_filter_writes {start start' : Props Value} (h : start key = start' key) :
    (nodes.filter (e.writes key)).foldl e.write start key = nodes.foldl e.write start' key := by
  induction nodes generalizing start start' with
  | nil => exact h
  | cons node nodes ih =>
      rw [List.filter_cons]
      split
      · refine ih ?_
        rw [write, write, h]
      · rename_i hnone
        rw [writes, Bool.not_eq_true, Option.isSome_eq_false_iff, Option.isNone_iff_eq_none]
          at hnone
        refine ih ?_
        rw [write, hnone, h, Option.none_or]

/-- The properties depend on the order of the attributes that write one key only. -/
theorem props_congr
    (h : ∀ key, nodes.filter (e.writes key) = others.filter (e.writes key)) :
    e.props nodes = e.props others := by
  funext key
  rw [props, props, ← foldl_filter_writes rfl, h, foldl_filter_writes rfl]

/-- What writes a key is a spread, or the key is its own. -/
theorem spread_or_key_of_writes (h : e.writes key node) :
    AttributeSlot.ofNode node = .spread ∨ PropKey.ofNode? node = some key := by
  unfold writes write? at h
  split at h
  · exact .inl ‹_›
  all_goals
    split at h
    · exact .inr ‹_›
    · cases h

/-- A key without a namespace is written by spreads and attributes with that name. -/
theorem isSpreadOrNamed_of_writes {name : String} (h : e.writes (.plain name) node) :
    (AttributeSlot.ofNode node).isSpreadOrNamed (Text.lowercase name) := by
  rcases spread_or_key_of_writes h with hslot | hkey
  · rw [hslot]
    rfl
  · rw [PropKey.slot_of_plain hkey]
    exact beq_self_eq_true _

/-- A key with a namespace is written by attributes that sorting leaves in their places. -/
theorem not_isNamed_of_writes {space name : String} (h : e.writes (.spaced space name) node) :
    !(AttributeSlot.ofNode node).isNamed := by
  rcases spread_or_key_of_writes h with hslot | hkey
  · rw [hslot]
    rfl
  · rw [PropKey.slot_of_spaced hkey]
    rfl

end Evaluation

/-! ## Sorting between spreads -/

/-- Attributes whose slots keep their order in the canonical order keep it when they are sorted. -/
theorem filter_sortedAttributes (q : AttributeSlot → Bool)
    (h : (attributeOrder policy nodes).filter
        (fun place => (nodes.map AttributeSlot.ofNode)[place]?.any q) =
      (List.range nodes.length).filter
        fun place => (nodes.map AttributeSlot.ofNode)[place]?.any q) :
    (sortedAttributes policy nodes).filter (fun node => q (AttributeSlot.ofNode node)) =
      nodes.filter fun node => q (AttributeSlot.ofNode node) := by
  have hplaces : ∀ places : List Nat, (places.map (nodes[·]?)).filter
      (Option.any fun node => q (AttributeSlot.ofNode node)) =
        (places.filter fun place => (nodes.map AttributeSlot.ofNode)[place]?.any q).map
          (nodes[·]?) := by
    intro places
    rw [List.filter_map]
    refine congrArg _ (List.filter_congr fun place _ => ?_)
    rw [Function.comp_apply, List.getElem?_map, Option.any_map]
  have hsome : ∀ nodes : List Node, (nodes.filter fun node => q (AttributeSlot.ofNode node)).map
      some = (nodes.map some).filter (Option.any fun node => q (AttributeSlot.ofNode node)) := by
    intro nodes
    rw [List.filter_map]
    rfl
  refine List.map_injective_iff.2 (Option.some_injective Node) ?_
  rw [hsome, hsome, map_some_sortedAttributes, hplaces, h, ← hplaces,
    map_getElem?_range]

/-- The attributes that write one key keep their order when they are sorted between spreads. -/
theorem filter_writes_sortedAttributes (e : Evaluation Value) (key : PropKey) (nodes : List Node) :
    (sortedAttributes .barrier nodes).filter (e.writes key) = nodes.filter (e.writes key) := by
  -- The writers of a key are among some slots that keep their order, which ones depends on the key.
  obtain ⟨q, hwrites, horder⟩ : ∃ q : AttributeSlot → Bool,
      (∀ node, e.writes key node → q (AttributeSlot.ofNode node)) ∧
        (attributeOrder .barrier nodes).filter
            (fun place => (nodes.map AttributeSlot.ofNode)[place]?.any q) =
          (List.range nodes.length).filter
            fun place => (nodes.map AttributeSlot.ofNode)[place]?.any q := by
    rw [← List.length_map AttributeSlot.ofNode]
    cases key with
    | plain name =>
        exact ⟨_, fun _ h => Evaluation.isSpreadOrNamed_of_writes h,
          AttributeSlot.filter_canonicalOrder_name _ _⟩
    | spaced space name =>
        exact ⟨_, fun _ h => Evaluation.not_isNamed_of_writes h,
          AttributeSlot.filter_canonicalOrder_other _ _⟩
  have hkept : ∀ nodes : List Node, nodes.filter (e.writes key) =
      (nodes.filter fun node => q (AttributeSlot.ofNode node)).filter (e.writes key) := by
    intro nodes
    rw [List.filter_filter]
    refine List.filter_congr fun node _ => ?_
    cases hnode : e.writes key node with
    | false => rfl
    | true => rw [hwrites node hnode, Bool.and_self]
  rw [hkept, filter_sortedAttributes q horder, ← hkept]

/-- Sorting the attributes of a tag between its spreads keeps the properties of its element. -/
theorem barrier_keeps_props (e : Evaluation Value) (tag : Node) :
    e.props (Rewriting.sorting .barrier tag).1.attributes = e.props tag.attributes := by
  rcases Rewriting.tag_or_sorting_eq .barrier tag with ⟨_, _, _, _, nodes, rfl⟩ | heq
  · rw [Rewriting.sorting_tag]
    exact Evaluation.props_congr fun key => filter_writes_sortedAttributes e key nodes
  · rw [heq]

end JsxTidy
