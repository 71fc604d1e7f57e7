import JsxTidy.Proofs.Scope.Resolution
import Mathlib.Data.List.Nodup
import Mathlib.Data.List.Perm.Basic

/-!
# Well-formed scope trees

In a well-formed tree every scope but the module lies in one with a smaller number, the names of the
scopes and the bindings point to each other one to one, and variables declared with `var` belong to
scopes that keep them. An empty module is well formed, and adding a scope, declaring a name and
resolving a use keep a tree so, which makes the tree of every program well formed:
`wellFormed_build`. Going outwards from scope to scope always ends in such a tree, as `lookup` says.
-/

namespace JsxTidy

open Syntax (Span)

namespace ScopeTree

variable {t : ScopeTree} {id parent : ScopeId} {name : String} {kind : BindingKind}
  {flags : List ScopeFlag} {span : Span} {b : BindingId}

/-- The bindings that the names of the scopes stand for, scope by scope. -/
def pointers (t : ScopeTree) : List BindingId :=
  t.scopes.toList.flatMap fun s => s.names.map Prod.snd

/-- Whether the scopes, their names and the bindings of a tree fit together. -/
structure WellFormed (t : ScopeTree) : Prop where
  /-- The module lies in no scope and keeps variables. -/
  module : ∃ s, t.scopes[module]? = some s ∧ s.parent = none ∧ s.holdsVariables
  /-- Every other scope lies in one with a smaller number. -/
  parent : ∀ (id : ScopeId) (s : Scope), t.scopes[id]? = some s → id ≠ ScopeTree.module →
    ∃ parent, s.parent = some parent ∧ parent < id
  /-- A scope has a name once. -/
  nodup : ∀ (id : ScopeId) (s : Scope), t.scopes[id]? = some s → (s.names.map Prod.fst).Nodup
  /-- A name stands for a binding of that name in that scope. -/
  named : ∀ (id : ScopeId) (s : Scope), t.scopes[id]? = some s → ∀ name b, (name, b) ∈ s.names →
    ∃ binding, t.bindings[b]? = some binding ∧ binding.name = name ∧ binding.scope = id
  /-- One name of one scope stands for each binding. -/
  pointers : t.pointers.Perm (List.range t.bindings.size)
  /-- Variables belong to scopes that keep them. -/
  hoisted : ∀ (b : BindingId) (binding : Binding), t.bindings[b]? = some binding →
    binding.kind = .var → ∃ s, t.scopes[binding.scope]? = some s ∧ s.holdsVariables

/-! ## What keeps a tree well formed -/

theorem WellFormed.empty : WellFormed .empty where
  module := ⟨_, rfl, rfl, rfl⟩
  parent := by
    rintro (_ | id) s hs hne
    · exact absurd rfl hne
    · simp [ScopeTree.empty] at hs
  nodup := by
    rintro (_ | id) s hs <;> simp [ScopeTree.empty] at hs
    subst hs
    exact List.nodup_nil
  named := by
    rintro (_ | id) s hs name b hmem <;> simp [ScopeTree.empty] at hs
    subst hs
    cases hmem
  pointers := by simp [ScopeTree.pointers, ScopeTree.empty]
  hoisted := by simp [ScopeTree.empty]

/-- A scope of a larger tree is the new scope or one of the tree. -/
theorem getElem?_pushScope_cases {s : Scope}
    (hs : (t.pushScope parent flags).scopes[id]? = some s) :
    (id = t.scopes.size ∧ s = ⟨some parent, flags, []⟩) ∨ t.scopes[id]? = some s := by
  rw [pushScope, Array.getElem?_push] at hs
  split at hs
  · exact .inl ⟨‹_›, (Option.some.inj hs).symm⟩
  · exact .inr hs

/-- A new scope inside one of the tree. -/
theorem WellFormed.pushScope (h : t.WellFormed) (hparent : parent < t.scopes.size) :
    (t.pushScope parent flags).WellFormed := by
  have hkept : ∀ (id : ScopeId) (s : Scope), t.scopes[id]? = some s →
      (t.pushScope parent flags).scopes[id]? = some s := by
    intro id s hs
    have hne : id ≠ t.scopes.size := Nat.ne_of_lt (Array.getElem?_eq_some_iff.1 hs).1
    simpa [ScopeTree.pushScope, Array.getElem?_push, hne] using hs
  constructor
  case module =>
    obtain ⟨s, hs, hmodule⟩ := h.module
    exact ⟨s, hkept _ s hs, hmodule⟩
  case parent =>
    intro id s hs hne
    rcases getElem?_pushScope_cases hs with ⟨rfl, rfl⟩ | hs
    · exact ⟨parent, rfl, hparent⟩
    · exact h.parent id s hs hne
  case nodup =>
    intro id s hs
    rcases getElem?_pushScope_cases hs with ⟨rfl, rfl⟩ | hs
    · exact List.nodup_nil
    · exact h.nodup id s hs
  case named =>
    intro id s hs name b hmem
    rcases getElem?_pushScope_cases hs with ⟨rfl, rfl⟩ | hs
    · cases hmem
    · exact h.named id s hs name b hmem
  case pointers =>
    simpa [ScopeTree.pointers, ScopeTree.pushScope, List.flatMap_append] using h.pointers
  case hoisted =>
    intro b binding hb hkind
    obtain ⟨s, hs, hholds⟩ := h.hoisted b binding hb hkind
    exact ⟨s, hkept _ s hs, hholds⟩

/-- Putting something in front of what one element of a list gives. -/
theorem flatMap_modify_perm {α β : Type} {l : List α} {i : Nat} {f : α → α} {g : α → List β}
    {x : β} (hi : i < l.length) (hg : ∀ a, g (f a) = x :: g a) :
    ((l.modify i f).flatMap g).Perm (x :: l.flatMap g) := by
  induction l generalizing i with
  | nil => exact absurd hi (Nat.not_lt_zero i)
  | cons a l ih =>
      cases i with
      | zero => simp [hg]
      | succ i =>
          rw [List.modify_succ_cons, List.flatMap_cons, List.flatMap_cons]
          exact ((ih (Nat.lt_of_succ_lt_succ hi)).append_left (g a)).trans List.perm_middle

/-- A scope of a tree with one more declaration is a scope of the tree, with the name in it if it is
the scope of the declaration. -/
theorem getElem?_declare (hhas : ¬ t.Has id name) (kind : BindingKind) (span : Span)
    (other : ScopeId) :
    (t.declare id name kind span).scopes[other]? = t.scopes[other]?.map fun s =>
      if id = other then { s with names := (name, t.bindings.size) :: s.names } else s := by
  rw [Has] at hhas
  rw [declare, if_neg hhas, Array.getElem?_modify]
  split <;> simp

/-- A name declared in a scope of the tree, which keeps variables if the name is one. -/
theorem WellFormed.declare (h : t.WellFormed) (hid : id < t.scopes.size)
    (hkind : kind = .var → ∃ s, t.scopes[id]? = some s ∧ s.holdsVariables) :
    (t.declare id name kind span).WellFormed := by
  by_cases hhas : t.Has id name
  · rwa [declare_of_has hhas]
  have hscopes := getElem?_declare hhas kind span
  -- A declaration changes nothing of a scope but its names.
  have hkept : ∀ (other : ScopeId) (s : Scope), t.scopes[other]? = some s →
      ∃ s', (t.declare id name kind span).scopes[other]? = some s' ∧ s'.parent = s.parent ∧
        s'.holdsVariables = s.holdsVariables := by
    intro other s hs
    rw [hscopes, hs]
    refine ⟨_, rfl, ?_, ?_⟩ <;> split <;> rfl
  constructor
  case module =>
    obtain ⟨s, hs, hnone, hholds⟩ := h.module
    obtain ⟨s', hs', hparent, hholds'⟩ := hkept _ s hs
    exact ⟨s', hs', hparent.trans hnone, hholds'.trans hholds⟩
  case parent =>
    intro other s' hs' hne
    rw [hscopes] at hs'
    obtain ⟨s, hs, rfl⟩ := Option.map_eq_some_iff.1 hs'
    obtain ⟨parent, hparent, hlt⟩ := h.parent other s hs hne
    exact ⟨parent, by split <;> exact hparent, hlt⟩
  case nodup =>
    intro other s' hs'
    rw [hscopes] at hs'
    obtain ⟨s, hs, rfl⟩ := Option.map_eq_some_iff.1 hs'
    split
    · subst other
      refine List.nodup_cons.2 ⟨fun hmem => hhas ?_, h.nodup id s hs⟩
      obtain ⟨⟨_, b⟩, hentry, rfl⟩ := List.mem_map.1 hmem
      rw [Has, get?, hs, Option.isSome_iff_ne_none]
      intro hnone
      simpa using List.lookup_eq_none_iff.1 hnone _ hentry
    · exact h.nodup other s hs
  case named =>
    intro other s' hs' otherName b hmem
    rw [hscopes] at hs'
    obtain ⟨s, hs, rfl⟩ := Option.map_eq_some_iff.1 hs'
    rw [bindings_declare hhas]
    have hold : (otherName, b) ∈ s.names → ∃ binding,
        (t.bindings.push ⟨name, kind, id, span, []⟩)[b]? = some binding ∧
          binding.name = otherName ∧ binding.scope = other := by
      intro hmem
      obtain ⟨binding, hb, hbinding⟩ := h.named other s hs otherName b hmem
      have hne : b ≠ t.bindings.size := Nat.ne_of_lt (Array.getElem?_eq_some_iff.1 hb).1
      exact ⟨binding, by simpa [Array.getElem?_push, hne] using hb, hbinding⟩
    split at hmem
    · subst other
      rcases List.mem_cons.1 hmem with heq | hmem
      · cases heq
        exact ⟨_, by rw [Array.getElem?_push, if_pos rfl], rfl, rfl⟩
      · exact hold hmem
    · exact hold hmem
  case pointers =>
    have hmodify : (t.declare id name kind span).pointers.Perm (t.bindings.size :: t.pointers) := by
      rw [Has] at hhas
      rw [ScopeTree.declare, if_neg hhas, ScopeTree.pointers, Array.toList_modify]
      exact flatMap_modify_perm (by simpa using hid) fun _ => rfl
    rw [bindings_declare hhas, Array.size_push, List.range_succ]
    exact hmodify.trans ((h.pointers.cons _).trans (List.perm_append_singleton _ _).symm)
  case hoisted =>
    intro b binding hb hvar
    rw [bindings_declare hhas, Array.getElem?_push] at hb
    have hholds : ∃ s, t.scopes[binding.scope]? = some s ∧ s.holdsVariables := by
      split at hb
      · cases hb
        exact hkind hvar
      · exact h.hoisted b binding hb hvar
    obtain ⟨s, hs, hholds⟩ := hholds
    obtain ⟨s', hs', _, hholds'⟩ := hkept _ s hs
    exact ⟨s', hs', hholds'.trans hholds⟩

/-- A tree with the scopes of another one and its bindings, but for their references. -/
theorem WellFormed.of_bindings (h : t.WellFormed) {t' : ScopeTree} (hscopes : t'.scopes = t.scopes)
    (hsize : t'.bindings.size = t.bindings.size)
    (hbindings : ∀ (b : BindingId) (binding : Binding), t.bindings[b]? = some binding →
      ∃ references, t'.bindings[b]? = some { binding with references }) : t'.WellFormed where
  module := by rw [hscopes]; exact h.module
  parent := by rw [hscopes]; exact h.parent
  nodup := by rw [hscopes]; exact h.nodup
  named := by
    intro id s hs name b hmem
    rw [hscopes] at hs
    obtain ⟨binding, hb, hbinding⟩ := h.named id s hs name b hmem
    obtain ⟨references, hb'⟩ := hbindings b binding hb
    exact ⟨_, hb', hbinding⟩
  pointers := by
    rw [hsize, ScopeTree.pointers, hscopes]
    exact h.pointers
  hoisted := by
    intro b binding' hb' hkind
    have hlt : b < t.bindings.size := hsize ▸ (Array.getElem?_eq_some_iff.1 hb').1
    obtain ⟨references, heq⟩ := hbindings b _ (Array.getElem?_eq_getElem hlt)
    cases hb'.symm.trans heq
    rw [hscopes]
    exact h.hoisted b t.bindings[b] (Array.getElem?_eq_getElem hlt) hkind

/-- Resolving a use adds to the references of one binding at most. -/
theorem WellFormed.resolve (h : t.WellFormed) (id : ScopeId) (use : Use) :
    (t.resolve id use).WellFormed := by
  rw [ScopeTree.resolve]
  split
  · refine h.of_bindings rfl Array.size_modify fun b binding hb => ?_
    rw [Array.getElem?_modify, hb]
    split
    · exact ⟨_, rfl⟩
    · exact ⟨binding.references, rfl⟩
  · exact h.of_bindings rfl rfl fun b binding hb => ⟨binding.references, hb⟩

/-! ## What a well-formed tree has -/

/-- The parent of a scope is a scope of the tree, with a smaller number. -/
theorem WellFormed.parent_lt (h : t.WellFormed) {s : Scope} (hs : t.scopes[id]? = some s)
    (hparent : s.parent = some parent) : parent < id := by
  by_cases hid : id = ScopeTree.module
  · subst hid
    obtain ⟨s', hs', hnone, _⟩ := h.module
    cases hs'.symm.trans hs
    rw [hnone] at hparent
    cases hparent
  · obtain ⟨parent', hparent', hlt⟩ := h.parent id s hs hid
    cases hparent'.symm.trans hparent
    exact hlt

/-- No name is bound twice in a scope. -/
theorem WellFormed.binding_unique (h : t.WellFormed) {b' : BindingId} {binding binding' : Binding}
    (hb : t.bindings[b]? = some binding) (hb' : t.bindings[b']? = some binding')
    (hscope : binding.scope = binding'.scope) (hname : binding.name = binding'.name) : b = b' := by
  have hpointed : ∀ (b : BindingId) (binding : Binding), t.bindings[b]? = some binding →
      ∃ s, t.scopes[binding.scope]? = some s ∧ (binding.name, b) ∈ s.names := by
    intro b binding hb
    have hlt : b < t.bindings.size := (Array.getElem?_eq_some_iff.1 hb).1
    obtain ⟨s, hmem, hpointer⟩ := List.mem_flatMap.1
      (h.pointers.mem_iff.2 (List.mem_range.2 hlt))
    obtain ⟨⟨name, b⟩, hentry, rfl⟩ := List.mem_map.1 hpointer
    obtain ⟨id, hid⟩ := List.mem_iff_getElem?.1 hmem
    rw [Array.getElem?_toList] at hid
    obtain ⟨_, hbinding, rfl, rfl⟩ := h.named id s hid name b hentry
    cases hbinding.symm.trans hb
    exact ⟨s, hid, hentry⟩
  obtain ⟨s, hs, hentry⟩ := hpointed b binding hb
  obtain ⟨s', hs', hentry'⟩ := hpointed b' binding' hb'
  rw [hscope] at hs
  cases hs.symm.trans hs'
  rw [hname] at hentry
  have heq := List.inj_on_of_nodup_map (h.nodup _ s hs) hentry hentry' rfl
  exact congrArg Prod.snd heq

/-! ## Going outwards -/

/-- Whether going outwards from a scope, one scope after the other, ends with some result: in the
first scope that declares the name, or behind the scope without a parent. -/
inductive Climbs (t : ScopeTree) (name : String) : ScopeId → Option BindingId → Prop
  | found {id : ScopeId} {s : Scope} {b : BindingId} (hs : t.scopes[id]? = some s)
      (hget : s.get? name = some b) : Climbs t name id (some b)
  | climbed {id parent : ScopeId} {s : Scope} {result : Option BindingId}
      (hs : t.scopes[id]? = some s) (hget : s.get? name = none) (hparent : s.parent = some parent)
      (hrest : Climbs t name parent result) : Climbs t name id result
  | missed {id : ScopeId} {s : Scope} (hs : t.scopes[id]? = some s) (hget : s.get? name = none)
      (hparent : s.parent = none) : Climbs t name id none

/-- Going outwards ends with one result only. -/
theorem Climbs.unique {result result' : Option BindingId} (h : t.Climbs name id result)
    (h' : t.Climbs name id result') : result = result' := by
  induction h with
  | found hs hget => cases h' <;> simp_all
  | climbed hs hget hparent hrest ih =>
      cases h' with
      | found hs' hget' => simp_all
      | climbed hs' hget' hparent' hrest' =>
          cases hs.symm.trans hs'
          cases hparent.symm.trans hparent'
          exact ih hrest'
      | missed hs' hget' hparent' => simp_all
  | missed hs hget hparent => cases h' <;> simp_all

/-- In a well-formed tree, going outwards from any scope ends with what a look-up finds. -/
theorem WellFormed.climbs_iff (h : t.WellFormed) (hid : id < t.scopes.size)
    {result : Option BindingId} : t.Climbs name id result ↔ t.lookup name id = result := by
  have hends : t.Climbs name id (t.lookup name id) := by
    induction id using Nat.strongRecOn with
    | ind id ih =>
        have hs : t.scopes[id]? = some t.scopes[id] := Array.getElem?_eq_getElem hid
        rw [lookup, hs]
        dsimp only
        split
        · exact .found hs ‹_›
        · split
          · exact .missed hs ‹_› ‹_›
          · rename_i parent hparent
            have hlt := h.parent_lt hs hparent
            rw [if_pos hlt]
            exact .climbed hs ‹_› hparent (ih parent hlt (Nat.lt_trans hlt hid))
  exact ⟨fun hclimbs => hends.unique hclimbs, fun heq => heq ▸ hends⟩

end ScopeTree

/-! ## The tree of a program -/

namespace Resolver

variable {r : Resolver}

/-- Variables are declared where they are kept. -/
theorem exists_variableScope (h : r.tree.WellFormed) :
    ∃ s, r.tree.scopes[r.variableScope]? = some s ∧ s.holdsVariables := by
  rw [variableScope]
  cases hfind : r.entered.find? (holdsVariables r.tree) with
  | none =>
      obtain ⟨s, hs, _, hholds⟩ := h.module
      exact ⟨s, hs, hholds⟩
  | some id =>
      have hholds := List.find?_some hfind
      rw [holdsVariables] at hholds
      split at hholds
      · exact ⟨_, ‹_›, hholds⟩
      · cases hholds

/-- Every event keeps the tree well formed. -/
theorem Fresh.wellFormed_step (hfresh : r.Fresh) (h : r.tree.WellFormed) (event : NameEvent) :
    (r.step event).tree.WellFormed := by
  cases event with
  | enter flags => exact h.pushScope (hfresh.scopeFor_lt .lexical)
  | leave => exact h
  | declare kind name span =>
      refine h.declare (hfresh.scopeFor_lt kind) fun hkind => ?_
      subst hkind
      exact exists_variableScope h
  | use name span => exact h

theorem wellFormed_run (events : List NameEvent) : (run events).tree.WellFormed := by
  have hfold : ∀ {r : Resolver}, r.Fresh → r.tree.WellFormed →
      (events.foldl Resolver.step r).tree.WellFormed := by
    induction events with
    | nil => exact fun _ h => h
    | cons event events ih =>
        exact fun hfresh h => ih (hfresh.step event) (hfresh.wellFormed_step h event)
  exact hfold initial_fresh .empty

end Resolver

/-- The tree of every program is well formed. -/
theorem ScopeTree.wellFormed_build (p : Syntax.Program) : (ScopeTree.build p).WellFormed := by
  have hfold : ∀ (pending : List PendingUse) {t : ScopeTree}, t.WellFormed →
      (pending.foldl (fun t p => t.resolve p.scope p.use) t).WellFormed := by
    intro pending
    induction pending with
    | nil => exact id
    | cons p pending ih => exact fun h => ih (h.resolve p.scope p.use)
  exact hfold _ (Resolver.wellFormed_run p.events)

end JsxTidy
