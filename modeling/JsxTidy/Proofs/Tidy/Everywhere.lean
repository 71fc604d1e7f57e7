import JsxTidy.Transform
import JsxTidy.Proofs.Syntax.WellFormed
import Mathlib.Algebra.BigOperators.Group.List.Basic

/-!
# Rewriting everywhere

A rewriting is carried through a tree from the innermost pieces outwards. When the second of two
rewritings may be done in the parts of a piece before or after the first one is done to the piece
itself (`Slides`), carrying both through a tree together is carrying one through and then the other
one: this is `everywhere_andThen`.
-/

namespace JsxTidy

open Syntax

/-! ## Adding up changes -/

namespace Changes

variable {a b : Changes}

instance : Zero Changes := ⟨none⟩

@[ext] theorem ext (hremoved : a.removedImports = b.removedImports)
    (hsorted : a.sortedTags = b.sortedTags)
    (hnormalized : a.normalizedClasses = b.normalizedClasses) : a = b := by
  obtain ⟨_, _, _⟩ := a
  obtain ⟨_, _, _⟩ := b
  exact mk.injEq .. ▸ ⟨hremoved, hsorted, hnormalized⟩

@[simp] theorem removedImports_add :
    (a + b).removedImports = a.removedImports + b.removedImports := rfl

@[simp] theorem sortedTags_add : (a + b).sortedTags = a.sortedTags + b.sortedTags := rfl

@[simp] theorem normalizedClasses_add :
    (a + b).normalizedClasses = a.normalizedClasses + b.normalizedClasses := rfl

@[simp] theorem removedImports_zero : (0 : Changes).removedImports = 0 := rfl

@[simp] theorem sortedTags_zero : (0 : Changes).sortedTags = 0 := rfl

@[simp] theorem normalizedClasses_zero : (0 : Changes).normalizedClasses = 0 := rfl

/-- Changes add up in any order. -/
instance : AddCommMonoid Changes where
  add_assoc a b c := by ext <;> simp [Nat.add_assoc]
  zero_add a := by ext <;> simp
  add_zero a := by ext <;> simp
  add_comm a b := by ext <;> simp [Nat.add_comm]
  nsmul := nsmulRec

end Changes

/-- Whether pieces of a kind are rewritten by tidying. -/
def Syntax.Kind.isTidied : Kind → Bool
  | .openingTag | .markupAttribute => true
  | _ => false

namespace Rewriting

variable {r first second : Rewriting} {kind : Kind} {span : Span} {parts : List Node} {node : Node}

/-! ## What a rewriting leaves alone -/

/-- What becomes of a piece of syntax, without the account of changes. -/
def result (r : Rewriting) (node : Node) : Node :=
  (r.everywhere node).1

/-- How much changes in a piece of syntax. -/
def changes (r : Rewriting) (node : Node) : Changes :=
  (r.everywhere node).2

/-- In some nodes, each is rewritten, and the changes are added up. -/
theorem everywhereIn_eq (r : Rewriting) (nodes : List Node) :
    r.everywhereIn nodes = (nodes.map r.result, (nodes.map r.changes).sum) := by
  induction nodes with
  | nil => rfl
  | cons node rest ih =>
      rw [everywhereIn, ih]
      rfl

/-- The parts of a node are rewritten before the node itself. -/
theorem everywhere_mk (r : Rewriting) (kind : Kind) (span : Span) (parts : List Node) :
    r.everywhere (.mk kind span parts) =
      ((r (.mk kind span (parts.map r.result))).1,
        (parts.map r.changes).sum + (r (.mk kind span (parts.map r.result))).2) := by
  rw [everywhere, everywhereIn_eq]

/-- So the node that is rewritten has rewritten parts. -/
theorem result_mk : r.result (.mk kind span parts) =
    (r (.mk kind span (parts.map r.result))).1 := by
  rw [result, everywhere_mk]

/-- The changes of the parts are added to those of the node. -/
theorem changes_mk : r.changes (.mk kind span parts) =
    (parts.map r.changes).sum + (r (.mk kind span (parts.map r.result))).2 := by
  rw [changes, everywhere_mk]

/-- A rewriting that leaves alone all pieces in a tree leaves the tree alone. -/
theorem idle_of_every {fits : Kind → List Node → Bool}
    (h : ∀ kind span parts, fits kind parts → r (.mk kind span parts) = (.mk kind span parts, 0))
    (node : Node) (hnode : node.every fits) : r.result node = node ∧ r.changes node = 0 := by
  induction node with
  | mk kind span parts ih =>
      obtain ⟨hfits, hparts⟩ := Node.every_mk.1 hnode
      have hsame : ∀ part ∈ parts, r.result part = part ∧ r.changes part = 0 :=
        fun part hpart => ih part hpart (hparts part hpart)
      have hresult : parts.map r.result = parts := by
        rw [List.map_congr_left fun part hpart => (hsame part hpart).1, List.map_id']
      have hchanges : (parts.map r.changes).sum = 0 := by
        rw [List.map_congr_left fun part hpart => (hsame part hpart).2]
        simp
      rw [result_mk, changes_mk, hresult, hchanges, h kind span parts hfits]
      exact ⟨rfl, rfl⟩

/-- A rewriting of tags and attributes. It keeps the kind of every piece, and pieces of all other
kinds as they are. -/
structure OnMarkup (r : Rewriting) : Prop where
  kind : ∀ node, (r node).1.kind = node.kind
  other : ∀ {kind span parts}, ¬ Kind.isTidied kind →
    r (.mk kind span parts) = (.mk kind span parts, 0)

section OnMarkup

variable (h : r.OnMarkup)
include h

/-- A rewriting of markup keeps the kind of each node. -/
theorem OnMarkup.result_kind (node : Node) : (r.result node).kind = node.kind := by
  obtain ⟨kind, span, parts⟩ := node
  rw [result_mk, h.kind]
  rfl

/-- A node that is no markup changes in its parts alone. -/
theorem OnMarkup.result_other (hkind : ¬ kind.isTidied) :
    r.result (.mk kind span parts) = .mk kind span (parts.map r.result) := by
  rw [result_mk, h.other hkind]

/-- What becomes a piece of another kind was one, with the parts that became its parts. -/
theorem OnMarkup.of_result_eq (hresult : r.result node = .mk kind span parts)
    (hkind : ¬ kind.isTidied) :
    ∃ before, node = .mk kind span before ∧ before.map r.result = parts := by
  obtain ⟨kind', span', before⟩ := node
  have hsame := h.result_kind (.mk kind' span' before)
  rw [hresult] at hsame
  cases hsame
  rw [h.result_other hkind] at hresult
  cases hresult
  exact ⟨before, rfl, rfl⟩

/-- It counts the changes in its parts alone. -/
theorem OnMarkup.changes_other (hkind : ¬ kind.isTidied) :
    r.changes (.mk kind span parts) = (parts.map r.changes).sum := by
  rw [changes_mk, h.other hkind, add_zero]

/-- A piece without tags and attributes stays as it is. -/
theorem OnMarkup.untouched (node : Node) (hnode : node.every (fun kind _ => !kind.isTidied)) :
    r.result node = node ∧ r.changes node = 0 := by
  refine idle_of_every (fun kind span parts hkind => h.other ?_) node hnode
  rwa [Bool.not_eq_true', ← Bool.not_eq_true] at hkind

/-- A tree stays well formed when its tags and attributes do. -/
theorem OnMarkup.wellFormed_result
    (hroot : ∀ node : Node, node.wellFormed → (r node).1.wellFormed)
    (node : Node) (hnode : node.wellFormed) : (r.result node).wellFormed := by
  induction node with
  | mk kind span parts ih =>
      obtain ⟨hadmits, hparts⟩ := Node.wellFormed_mk.1 hnode
      rw [result_mk]
      refine hroot _ (Node.wellFormed_mk.2 ⟨?_, ?_⟩)
      · exact Kind.admits_map h.result_kind (fun _ _ => h.result_other Bool.false_ne_true) hadmits
      · intro part hpart
        obtain ⟨part, hmem, rfl⟩ := List.mem_map.1 hpart
        exact ih part hmem (hparts part hmem)

/-- With rewritten parts, a well-formed node stays so. -/
theorem OnMarkup.wellFormed_map
    (hroot : ∀ node : Node, node.wellFormed → (r node).1.wellFormed)
    (hnode : (Node.mk kind span parts).wellFormed) :
    (Node.mk kind span (parts.map r.result)).wellFormed := by
  obtain ⟨hadmits, hparts⟩ := Node.wellFormed_mk.1 hnode
  refine Node.wellFormed_mk.2 ⟨?_, ?_⟩
  · exact Kind.admits_map h.result_kind (fun _ _ => h.result_other Bool.false_ne_true) hadmits
  · intro part hpart
    obtain ⟨part, hmem, rfl⟩ := List.mem_map.1 hpart
    exact h.wellFormed_result hroot part (hparts part hmem)

/-- Two rewritings of markup form one of markup. -/
theorem OnMarkup.andThen {other : Rewriting} (hother : other.OnMarkup) :
    (r.andThen other).OnMarkup where
  kind := by
    intro node
    show (other (r node).1).1.kind = node.kind
    rw [hother.kind, h.kind]
  other := by
    intro kind span parts hkind
    simp only [Rewriting.andThen, h.other hkind, hother.other hkind, add_zero]

end OnMarkup

/-! ## One rewriting and then another one -/

/-- Whether the second rewriting may be done in the parts of a piece before or after the first one
is done to the piece. -/
structure Slides (first second : Rewriting) (kind : Kind) (span : Span) (parts : List Node) :
    Prop where
  result : first (.mk kind span (parts.map second.result)) =
    (.mk (first (.mk kind span parts)).1.kind (first (.mk kind span parts)).1.span
      ((first (.mk kind span parts)).1.parts.map second.result), (first (.mk kind span parts)).2)
  changes : ((first (.mk kind span parts)).1.parts.map second.changes).sum =
    (parts.map second.changes).sum

/-- Where the second rewriting slides through the first one, both can be carried through a tree
together or one after the other. -/
theorem everywhere_andThen (good : Node → Prop)
    (hgood : ∀ kind span parts, good (.mk kind span parts) → ∀ part ∈ parts, good part)
    (hslides : ∀ kind span parts, good (.mk kind span parts) →
      Slides first second kind span (parts.map first.result))
    (node : Node) (hnode : good node) : (first.andThen second).everywhere node =
      (second.result (first.result node),
        first.changes node + second.changes (first.result node)) := by
  induction node with
  | mk kind span parts ih =>
      have hboth : ∀ part ∈ parts, (first.andThen second).everywhere part =
          (second.result (first.result part),
            first.changes part + second.changes (first.result part)) := fun part hpart =>
        ih part hpart (hgood kind span parts hnode part hpart)
      have hresult : parts.map (first.andThen second).result =
          (parts.map first.result).map second.result := by
        rw [List.map_map]
        refine List.map_congr_left fun part hpart => ?_
        rw [Function.comp_apply, Rewriting.result, hboth part hpart]
      have hchanges : (parts.map (first.andThen second).changes).sum =
          (parts.map first.changes).sum + ((parts.map first.result).map second.changes).sum := by
        rw [List.map_map, ← List.sum_map_add]
        refine congrArg List.sum (List.map_congr_left fun part hpart => ?_)
        rw [Function.comp_apply, Rewriting.changes, hboth part hpart]
      -- The parts are done by now, and at the root the second rewriting slides through the first.
      obtain ⟨hroot, hinside⟩ := hslides kind span parts hnode
      rw [everywhere_mk, hresult, hchanges, result_mk, changes_mk]
      cases hout : first (.mk kind span (parts.map first.result)) with
      | mk out changes =>
          obtain ⟨kind', span', parts'⟩ := out
          rw [hout] at hroot hinside
          have hthen : (first.andThen second)
              (.mk kind span ((parts.map first.result).map second.result)) =
                ((second (.mk kind' span' (parts'.map second.result))).1,
                  changes + (second (.mk kind' span' (parts'.map second.result))).2) := by
            rw [andThen, hroot]
            rfl
          have hsum : ((parts.map first.result).map second.changes).sum =
              (parts'.map second.changes).sum := hinside.symm
          rw [hthen, result_mk, changes_mk, hsum]
          refine Prod.ext rfl ?_
          exact add_add_add_comm ..

/-- Where a rewriting slides through itself, the root of a tree can be rewritten first, and then the
parts of what the root has become. -/
theorem everywhere_eq_of_slides (h : Slides r r kind span parts) :
    r.everywhere (.mk kind span parts) =
    (.mk (r (.mk kind span parts)).1.kind (r (.mk kind span parts)).1.span
        ((r (.mk kind span parts)).1.parts.map r.result),
      (r (.mk kind span parts)).2 + ((r (.mk kind span parts)).1.parts.map r.changes).sum) := by
  rw [everywhere_mk, h.result, h.changes, add_comm]

/-- What slides through a rewriting slides through one that does the same to pieces of a kind. -/
theorem Slides.congr {other : Rewriting} (h : Slides first second kind span parts)
    (hsame : ∀ parts, other (.mk kind span parts) = first (.mk kind span parts)) :
    Slides other second kind span parts where
  result := by rw [hsame, hsame, h.result]
  changes := by rw [hsame, h.changes]

end Rewriting

end JsxTidy
