import JsxTidy.Proofs.Scope.Walk
import Mathlib.Data.List.Nodup

/-!
# Every use is resolved once, to the innermost declaration

The main theorem, `build_resolves_each_use`, compares the scope tree of a program with the trails of
its mentions: each use is recorded exactly once, at the binding that the innermost scope around it
with a declaration of its name has for that name, or among the unresolved uses if there is none.
Whether the declaration stands before the use or behind it makes no difference.
-/

namespace JsxTidy

open Syntax

namespace ScopeTree

variable {t : ScopeTree} {id : ScopeId} {b : BindingId}

/-! ## Resolving pending uses -/

@[simp] theorem scopes_resolve {use : Use} : (t.resolve id use).scopes = t.scopes := by
  unfold resolve
  split <;> rfl

/-- A binding with one more place that uses it. -/
def withReferences (binding : Binding) (spans : List Span) : Binding :=
  { binding with references := binding.references ++ spans }

/-- Resolving a use adds it to one binding at most. -/
theorem bindings_resolve (use : Use) :
    (t.resolve id use).bindings[b]? = t.bindings[b]?.map fun binding =>
      withReferences binding (if t.lookup use.name id = some b then [use.span] else []) := by
  unfold resolve
  cases hlookup : t.lookup use.name id with
  | none => simp [withReferences]
  | some found =>
      by_cases h : found = b
      · subst h
        simp [Array.getElem?_modify, withReferences]
      · simp [Array.getElem?_modify, h, withReferences]

theorem unresolved_resolve (use : Use) :
    (t.resolve id use).unresolved =
      t.unresolved ++ if t.lookup use.name id = none then [use] else [] := by
  unfold resolve
  cases hlookup : t.lookup use.name id <;> simp

/-- All pending uses are resolved in the tree as it was before the first of them. -/
theorem resolve_all (pending : List PendingUse) (t : ScopeTree) :
    let t' := pending.foldl (fun t p => t.resolve p.scope p.use) t
    t'.scopes = t.scopes ∧
      (∀ b, t'.bindings[b]? = t.bindings[b]?.map fun binding =>
        withReferences binding
          ((pending.filter fun p => t.lookup p.use.name p.scope = some b).map fun p =>
            p.use.span)) ∧
      t'.unresolved = t.unresolved ++
        (pending.filter fun p => t.lookup p.use.name p.scope = none).map fun p => p.use := by
  induction pending generalizing t with
  | nil => simp [withReferences]
  | cons p pending ih =>
      obtain ⟨hscopes, hbindings, hunresolved⟩ := ih (t.resolve p.scope p.use)
      have hlookup : ∀ name id, (t.resolve p.scope p.use).lookup name id = t.lookup name id :=
        fun name id => lookup_congr scopes_resolve
      refine ⟨hscopes.trans scopes_resolve, fun b => ?_, ?_⟩
      · rw [List.foldl_cons, hbindings b, bindings_resolve, Option.map_map]
        congr 1
        funext binding
        by_cases h : t.lookup p.use.name p.scope = some b <;>
          simp [h, hlookup, withReferences]
      · rw [List.foldl_cons, hunresolved, unresolved_resolve]
        by_cases h : t.lookup p.use.name p.scope = none <;> simp [h, hlookup]

end ScopeTree

namespace Resolver

variable {r : Resolver}

/-! ## The tree before any use is resolved -/

/-- Every scope that the resolver may declare a name in exists, the names correspond to the
bindings, and no use is resolved yet. -/
structure Fresh (r : Resolver) : Prop where
  module : ScopeTree.module < r.tree.scopes.size
  entered : ∀ id ∈ r.entered, id < r.tree.scopes.size
  sound : r.tree.Sound
  references : ∀ (b : BindingId) (binding : Binding), r.tree.bindings[b]? = some binding →
    binding.references = []
  unresolved : r.tree.unresolved = []

theorem Fresh.scopeFor_lt (h : r.Fresh) (kind : BindingKind) :
    r.scopeFor kind < r.tree.scopes.size := by
  have hcurrent : r.current < r.tree.scopes.size := by
    unfold Resolver.current
    cases hentered : r.entered with
    | nil => exact h.module
    | cons id ids => exact h.entered id (by simp [hentered])
  cases kind with
  | imported | lexical | function | classLike => exact hcurrent
  | var =>
      rw [scopeFor, Resolver.variableScope]
      cases hfind : r.entered.find? (holdsVariables r.tree) with
      | none => exact h.module
      | some id => exact h.entered id (List.mem_of_find?_eq_some hfind)

theorem initial_fresh : initial.Fresh where
  module := by decide
  entered := by simp [initial]
  sound := ScopeTree.Sound.empty
  references := by simp [initial, ScopeTree.empty]
  unresolved := rfl

/-- No event resolves a use. -/
theorem Fresh.step (h : r.Fresh) (event : NameEvent) : (r.step event).Fresh := by
  cases event with
  | enter flags =>
      have hlt : ∀ id, id < r.tree.scopes.size → id < r.tree.scopes.size + 1 := by omega
      refine ⟨?_, ?_, h.sound.pushScope, h.references, h.unresolved⟩
      · simpa [Resolver.step] using hlt _ h.module
      · intro id hid
        rcases List.mem_cons.1 hid with rfl | hid
        · simp [Resolver.step]
        · simpa [Resolver.step] using hlt _ (h.entered id hid)
  | leave =>
      exact ⟨h.module, fun id hid => h.entered id (List.mem_of_mem_drop hid), h.sound,
        h.references, h.unresolved⟩
  | declare kind name span =>
      refine ⟨?_, ?_, h.sound.declare (h.scopeFor_lt kind), ?_, ?_⟩
      · simpa [Resolver.step] using h.module
      · simpa [Resolver.step] using h.entered
      · intro b binding hb
        simp only [Resolver.step, ScopeTree.declare] at hb
        split at hb
        · exact h.references b binding hb
        · rw [Array.getElem?_push] at hb
          split at hb
          · cases hb
            rfl
          · exact h.references b binding hb
      · simp only [Resolver.step, ScopeTree.declare]
        split <;> exact h.unresolved
  | use name span => exact ⟨h.module, h.entered, h.sound, h.references, h.unresolved⟩

theorem run_fresh (events : List NameEvent) : (run events).Fresh := by
  have hfold : ∀ {r : Resolver}, r.Fresh → (events.foldl Resolver.step r).Fresh := by
    induction events with
    | nil => exact id
    | cons event events ih => exact fun h => ih (h.step event)
  exact hfold initial_fresh

end Resolver

/-! ## Sorting a list into numbered boxes -/

section Boxes

variable {α β γ : Type}

/-- Going through a list is going through its indices. -/
theorem flatMap_eq_flatMap_range (l : List β) (g : β → List γ) (g' : Nat → List γ)
    (h : ∀ (i : Nat) (b : β), l[i]? = some b → g' i = g b) :
    l.flatMap g = (List.range l.length).flatMap g' := by
  induction l generalizing g' with
  | nil => rfl
  | cons b l ih =>
      have hrest := ih (fun i => g' (i + 1)) fun i b hb => h (i + 1) b (by simpa using hb)
      rw [List.length_cons, List.range_succ_eq_map, List.flatMap_cons, List.flatMap_cons,
        h 0 b rfl, List.flatMap_map, hrest]

/-- An element that goes to the front of one box goes to the front of all boxes together. -/
theorem flatMap_box_perm (boxes : List Nat) (g : Nat → List α) (a : α) (b : Nat)
    (hmem : b ∈ boxes) (hnodup : boxes.Nodup) :
    (boxes.flatMap fun i => if i = b then a :: g i else g i).Perm (a :: boxes.flatMap g) := by
  obtain ⟨front, back, rfl⟩ := List.append_of_mem hmem
  have hout : ∀ boxes : List Nat, b ∉ boxes →
      (boxes.flatMap fun i => if i = b then a :: g i else g i) = boxes.flatMap g := by
    intro boxes hb
    refine List.flatMap_congr fun i hi => if_neg ?_
    rintro rfl
    exact hb hi
  have hdisjoint := List.nodup_middle.1 hnodup
  rw [List.nodup_cons, List.mem_append, not_or] at hdisjoint
  rw [List.flatMap_append, List.flatMap_cons, List.flatMap_append, List.flatMap_cons,
    hout front hdisjoint.1.1, hout back hdisjoint.1.2, if_pos rfl]
  exact List.perm_middle

/-- The elements of a list that go to numbered boxes and those that go to none are all elements of
the list, each as often as before. -/
theorem boxes_perm (l : List α) (box? : α → Option Nat) (n : Nat)
    (h : ∀ a ∈ l, ∀ b, box? a = some b → b < n) :
    ((List.range n).flatMap (fun b => l.filter fun a => box? a = some b) ++
      l.filter fun a => box? a = none).Perm l := by
  induction l with
  | nil => simp
  | cons a l ih =>
      have hrest := ih fun a' ha' => h a' (List.mem_cons_of_mem _ ha')
      cases hbox : box? a with
      | none => simpa [hbox] using List.perm_middle.trans (hrest.cons a)
      | some b =>
          have hcons : ∀ i, ((a :: l).filter fun a => box? a = some i) =
              if i = b then a :: l.filter (fun a => box? a = some i)
              else l.filter fun a => box? a = some i := by
            intro i
            by_cases hi : i = b
            · simp [hi, hbox]
            · have hne : ¬ b = i := fun heq => hi heq.symm
              simp [hi, hne, hbox]
          have hperm := flatMap_box_perm (List.range n)
            (fun i => l.filter fun a => box? a = some i) a b
            (List.mem_range.2 (h a (by simp) b hbox)) List.nodup_range
          simp only [hcons]
          simpa [hbox] using (hperm.append_right _).trans (hrest.cons a)

end Boxes

/-! ## Searching a list -/

section Find

variable {α : Type} {l : List α} {f g : α → Bool}

/-- A narrower search finds the same element exactly when it accepts what the wider one finds. -/
theorem find?_eq_find?_iff (hsub : ∀ a, g a → f a) :
    l.find? f = l.find? g ↔ ∀ a, l.find? f = some a → g a := by
  constructor
  · intro heq a hfind
    rw [heq] at hfind
    exact List.find?_some hfind
  · intro hfound
    induction l with
    | nil => rfl
    | cons a l ih =>
        rw [List.find?_cons, List.find?_cons]
        cases hfa : f a with
        | true =>
            have hga : g a := hfound a (by simp [hfa])
            simp [hga]
        | false =>
            have hga : g a = false := by
              rw [← Bool.not_eq_true]
              intro hga
              simp [hsub a hga] at hfa
            simpa [hga] using ih fun b hb => hfound b (by simpa [hfa] using hb)

/-- A search comes to the last element when no other one passes. -/
theorem find?_concat_eq_some_iff {a : α} (hfa : f a) (hmem : a ∉ l) :
    (l ++ [a]).find? f = some a ↔ ∀ b ∈ l, ¬ f b := by
  rw [List.find?_append]
  cases hfind : l.find? f with
  | none =>
      rw [List.find?_eq_none] at hfind
      simpa [hfa] using hfind
  | some b =>
      have hb := List.mem_of_find?_eq_some hfind
      have hne : b ≠ a := by
        rintro rfl
        exact hmem hb
      simp only [Option.some_or, Option.some.injEq, hne, false_iff, not_forall]
      exact ⟨b, hb, not_not.2 (List.find?_some hfind)⟩

end Find

/-! ## The finished tree -/

/-- All uses that a tree records, with the names of the bindings they are recorded at. -/
def ScopeTree.recorded (t : ScopeTree) : List Use :=
  t.bindings.toList.flatMap (fun binding => binding.references.map (⟨binding.name, ·⟩)) ++
    t.unresolved

namespace Syntax.Program

variable {p : Program} {m : Mention} {id : ScopeId} {name : String} {b : BindingId}

/-- The resolver's tree declares exactly the names that the mentions declare. -/
theorem has_iff_declares : (Resolver.run p.events).tree.Has id name ↔ p.declares id name := by
  have hempty : ¬ Resolver.initial.tree.Has id name := by
    intro h
    obtain ⟨b, hb⟩ := Option.isSome_iff_exists.1 h
    obtain ⟨_, hbinding, _⟩ := ScopeTree.Sound.empty.named id name b hb
    simp [ScopeTree.empty] at hbinding
  rw [(Resolver.reads_program p).has]
  simp [hempty, declares]

/-- The uses of a program are what the resolver keeps until the end, in their order. -/
theorem pending_eq : (Resolver.run p.events).pending.reverse =
    p.uses.map fun u => ⟨u.trail.innermost, u.toUse⟩ := by
  rw [(Resolver.reads_program p).pending]
  simp only [Resolver.initial, List.append_nil, List.reverse_reverse, uses]
  induction p.mentions with
  | nil => rfl
  | cons m ms ih => by_cases hm : m.isUse <;> simp [Mention.pending?, hm, ih]

/-- The scopes around a mention are a chain of scopes of the tree. -/
theorem chain_around (hm : m ∈ p.mentions) :
    (Resolver.run p.events).tree.Chain m.trail.around :=
  (Resolver.reads_program p).chain m hm

/-- The binding that the finished tree finds for a use, from the innermost scope around it. -/
def attached? (p : Program) (u : Mention) : Option BindingId :=
  (ScopeTree.build p).lookup u.name u.trail.innermost

/-- The finished tree has the scopes of the resolver's tree. -/
theorem scopes_build : (ScopeTree.build p).scopes = (Resolver.run p.events).tree.scopes :=
  (ScopeTree.resolve_all _ _).1

theorem get?_build :
    (ScopeTree.build p).get? id name = (Resolver.run p.events).tree.get? id name := by
  rw [ScopeTree.get?, ScopeTree.get?, scopes_build]

/-- The resolver finds the same binding before it is finished. -/
theorem lookup_run (u : Mention) :
    (Resolver.run p.events).tree.lookup u.name u.trail.innermost = p.attached? u :=
  ScopeTree.lookup_congr scopes_build.symm

/-- The finished tree has the bindings of the resolver's tree, each with the uses that are attached
to it, in the order of the program. -/
theorem bindings_build : (ScopeTree.build p).bindings[b]? =
    (Resolver.run p.events).tree.bindings[b]?.map fun binding =>
      { binding with references :=
          (p.uses.filter fun u => p.attached? u = some b).map (·.span) } := by
  obtain ⟨_, hbindings, _⟩ := ScopeTree.resolve_all (Resolver.run p.events).pending.reverse
    (Resolver.run p.events).tree
  have hfresh := (Resolver.run_fresh p.events).references b
  rw [ScopeTree.build, Resolver.finish, hbindings b, pending_eq]
  cases hb : (Resolver.run p.events).tree.bindings[b]? with
  | none => rfl
  | some binding =>
      simp only [Option.map_some, ScopeTree.withReferences, hfresh binding hb, List.nil_append,
        List.filter_map, List.map_map, Function.comp_def, Mention.toUse, lookup_run]

theorem references_build {binding : Binding} (h : (ScopeTree.build p).bindings[b]? = some binding) :
    binding.references = (p.uses.filter fun u => p.attached? u = some b).map (·.span) := by
  rw [bindings_build] at h
  obtain ⟨binding', _, rfl⟩ := Option.map_eq_some_iff.1 h
  rfl

theorem unresolved_build : (ScopeTree.build p).unresolved =
    (p.uses.filter fun u => p.attached? u = none).map Mention.toUse := by
  obtain ⟨_, _, hunresolved⟩ := ScopeTree.resolve_all (Resolver.run p.events).pending.reverse
    (Resolver.run p.events).tree
  rw [ScopeTree.build, Resolver.finish, hunresolved, pending_eq,
    (Resolver.run_fresh p.events).unresolved]
  simp only [List.nil_append, List.filter_map, List.map_map, Function.comp_def, ← lookup_run]
  rfl

/-- Finishing the tree keeps the names and scopes of its bindings. -/
theorem exists_binding_build_iff :
    (∃ binding, (ScopeTree.build p).bindings[b]? = some binding ∧
      binding.name = name ∧ binding.scope = id) ↔
    ∃ binding, (Resolver.run p.events).tree.bindings[b]? = some binding ∧
      binding.name = name ∧ binding.scope = id := by
  rw [bindings_build]
  simp only [Option.map_eq_some_iff, exists_exists_and_eq_and]

/-- The names of the finished tree and its bindings correspond to each other. -/
theorem sound_build (p : Program) : (ScopeTree.build p).Sound where
  named := by
    intro id name b h
    rw [get?_build] at h
    exact exists_binding_build_iff.2 ((Resolver.run_fresh p.events).sound.named id name b h)
  declared := by
    intro b binding hb
    obtain ⟨binding', hb', hname, hscope⟩ := exists_binding_build_iff.1 ⟨binding, hb, rfl, rfl⟩
    rw [get?_build, ← hname, ← hscope]
    exact (Resolver.run_fresh p.events).sound.declared b binding' hb'

/-- The finished tree declares exactly the names that the mentions declare. -/
theorem has_build_iff : (ScopeTree.build p).Has id name ↔ p.declares id name := by
  rw [ScopeTree.Has, get?_build]
  exact has_iff_declares

/-- The scopes around a mention are a chain of scopes of the finished tree. -/
theorem chain_build (hm : m ∈ p.mentions) : (ScopeTree.build p).Chain m.trail.around :=
  (chain_around hm).grows fun _ s hs => ⟨s, by rw [scopes_build]; exact hs, rfl, rfl⟩

/-- A use is looked up in the scopes around it, from the innermost one outwards. -/
theorem attached?_eq_bind (hm : m ∈ p.mentions) :
    p.attached? m = p.declaringScope? m >>= fun id => (ScopeTree.build p).get? id m.name := by
  obtain ⟨rest, hrest⟩ : ∃ rest, m.trail.around = m.trail.innermost :: rest := by
    rw [Trail.around, Trail.innermost]
    cases m.trail.scopes with
    | nil => exact ⟨[], rfl⟩
    | cons id ids => exact ⟨ids ++ [ScopeTree.module], rfl⟩
  have hchain := chain_build hm
  rw [hrest] at hchain
  rw [attached?, ScopeTree.lookup_of_chain hchain, declaringScope?, ← hrest]
  induction m.trail.around with
  | nil => rfl
  | cons id ids ih =>
      rw [List.findSome?_cons, List.find?_cons]
      cases hget : (ScopeTree.build p).get? id m.name with
      | some b =>
          have hdeclares : p.declares id m.name = true :=
            has_build_iff.1 (by simp [ScopeTree.Has, hget])
          simp [hdeclares, hget]
      | none =>
          have hdeclares : p.declares id m.name = false := by
            rw [← Bool.not_eq_true, ← has_build_iff]
            simp [ScopeTree.Has, hget]
          simpa [hdeclares] using ih

/-- A use is attached to the binding that its declaring scope has for its name. -/
theorem attached?_eq_some_iff (hm : m ∈ p.mentions) :
    p.attached? m = some b ↔
      ∃ binding, (ScopeTree.build p).bindings[b]? = some binding ∧
        binding.name = m.name ∧ p.declaringScope? m = some binding.scope := by
  rw [attached?_eq_bind hm]
  constructor
  · intro h
    obtain ⟨id, hid, hget⟩ := Option.bind_eq_some_iff.1 h
    obtain ⟨binding, hb, hname, hscope⟩ := (sound_build p).named id m.name b hget
    exact ⟨binding, hb, hname, by rw [hid, hscope]⟩
  · rintro ⟨binding, hb, hname, hid⟩
    rw [hid, ← hname]
    exact (sound_build p).declared b binding hb

/-- A use is unresolved when no scope around it declares its name. -/
theorem attached?_eq_none_iff (hm : m ∈ p.mentions) :
    p.attached? m = none ↔ p.declaringScope? m = none := by
  rw [attached?_eq_bind hm]
  cases hid : p.declaringScope? m with
  | none => simp
  | some id =>
      have hdeclares := List.find?_some (p := fun id => p.declares id m.name) hid
      obtain ⟨b, hb⟩ := Option.isSome_iff_exists.1 (has_build_iff.2 hdeclares)
      simp [hb]

/-- The scope of the binding that a use is attached to. -/
def attachedScope? (p : Program) (u : Mention) : Option ScopeId := do
  let b ← p.attached? u
  let binding ← (ScopeTree.build p).bindings[b]?
  return binding.scope

theorem attachedScope?_eq (hm : m ∈ p.mentions) : p.attachedScope? m = p.declaringScope? m := by
  rw [attachedScope?]
  cases hattached : p.attached? m with
  | none => exact ((attached?_eq_none_iff hm).1 hattached).symm
  | some b =>
      obtain ⟨binding, hb, _, hscope⟩ := (attached?_eq_some_iff hm).1 hattached
      simp [hb, hscope]

/-- The tree records every use of the program once, and nothing else. -/
theorem recorded_perm (p : Program) :
    (ScopeTree.build p).recorded.Perm (p.uses.map Mention.toUse) := by
  have hmem : ∀ u ∈ p.uses, u ∈ p.mentions := fun u hu => (List.mem_filter.1 hu).1
  have hperm := boxes_perm p.uses p.attached? (ScopeTree.build p).bindings.size (by
    intro u hu b hb
    obtain ⟨binding, hbinding, _⟩ := (attached?_eq_some_iff (hmem u hu)).1 hb
    exact (Array.getElem?_eq_some_iff.1 hbinding).1)
  have hboxes : (ScopeTree.build p).bindings.toList.flatMap
      (fun binding => binding.references.map (Use.mk binding.name)) =
        (List.range (ScopeTree.build p).bindings.size).flatMap fun b =>
          (p.uses.filter fun u => p.attached? u = some b).map Mention.toUse := by
    refine flatMap_eq_flatMap_range _ _ _ fun b binding hb => ?_
    rw [Array.getElem?_toList] at hb
    rw [references_build hb, List.map_map]
    refine List.map_congr_left fun u hu => ?_
    obtain ⟨hu, hattached⟩ := List.mem_filter.1 hu
    obtain ⟨binding', hb', hname, _⟩ :=
      (attached?_eq_some_iff (hmem u hu)).1 (of_decide_eq_true hattached)
    cases hb'.symm.trans hb
    simp [Mention.toUse, hname]
  rw [ScopeTree.recorded, hboxes, unresolved_build, ← List.map_flatMap, ← List.map_append]
  exact hperm.map Mention.toUse

/-- Every use of a name in a program is recorded exactly once: at one binding, or as unresolved. It
is attached to a binding exactly when the scope of the binding is the innermost scope around the
use in which the name is declared anywhere, and it is unresolved exactly when its name is declared
in none of them. The scopes around a use are the ones that the tree chains together. -/
theorem build_resolves_each_use (p : Program) :
    (∀ u ∈ p.uses, (ScopeTree.build p).Chain u.trail.around ∧
      (∀ b, p.attached? u = some b ↔
        ∃ binding, (ScopeTree.build p).bindings[b]? = some binding ∧
          binding.name = u.name ∧ p.declaringScope? u = some binding.scope) ∧
      (p.attached? u = none ↔ ∀ id ∈ u.trail.around, ¬ p.declares id u.name)) ∧
    (∀ b binding, (ScopeTree.build p).bindings[b]? = some binding →
      binding.references = (p.uses.filter fun u => p.attached? u = some b).map (·.span)) ∧
    (ScopeTree.build p).unresolved =
      (p.uses.filter fun u => p.attached? u = none).map Mention.toUse ∧
    (ScopeTree.build p).recorded.Perm (p.uses.map Mention.toUse) := by
  refine ⟨fun u hu => ?_, fun _ _ hb => references_build hb, unresolved_build, recorded_perm p⟩
  have hm : u ∈ p.mentions := (List.mem_filter.1 hu).1
  refine ⟨chain_build hm, fun _ => attached?_eq_some_iff hm, ?_⟩
  rw [attached?_eq_none_iff hm, declaringScope?, List.find?_eq_none]

end Syntax.Program

end JsxTidy
