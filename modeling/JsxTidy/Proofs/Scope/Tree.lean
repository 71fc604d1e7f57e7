import JsxTidy.Scope.Resolve

/-!
# What the operations on a scope tree change

Adding a scope changes no name, declaring a name changes only that name, and resolving a use
changes no scope. Two facts follow for later: along a chain of scopes from a scope to the module a
look-up tries one scope after the other, and in a sound tree the names of the scopes and the
bindings correspond to each other one to one.
-/

namespace JsxTidy

namespace ScopeTree

variable {t t' : ScopeTree} {id other parent : ScopeId} {name otherName : String}
  {kind : BindingKind} {flags : List ScopeFlag} {span : Span} {binding : BindingId}

open Syntax (Span)

/-- Whether a scope of the tree declares a name. -/
def Has (t : ScopeTree) (id : ScopeId) (name : String) : Prop :=
  (t.get? id name).isSome

instance : Decidable (t.Has id name) :=
  inferInstanceAs (Decidable ((t.get? id name).isSome = true))

/-! ## Names -/

/-- A name is bound in a scope that is there. -/
theorem get?_eq_some_iff :
    t.get? id name = some binding ↔
      ∃ s, t.scopes[id]? = some s ∧ s.get? name = some binding := by
  simp [get?, Option.bind_eq_some_iff]

/-- A new scope is empty and leaves all others as they are. -/
@[simp] theorem get?_pushScope :
    (t.pushScope parent flags).get? id name = t.get? id name := by
  by_cases h : id = t.scopes.size
  · subst h
    simp [get?, pushScope, Scope.get?]
  · simp [get?, pushScope, Array.getElem?_push, h]

@[simp] theorem size_pushScope :
    (t.pushScope parent flags).scopes.size = t.scopes.size + 1 := by
  simp [pushScope]

@[simp] theorem bindings_pushScope : (t.pushScope parent flags).bindings = t.bindings := rfl

@[simp] theorem size_declare : (t.declare id name kind span).scopes.size = t.scopes.size := by
  unfold declare
  split <;> simp

/-- A name that is declared already is not declared again. -/
theorem declare_of_has (h : t.Has id name) : t.declare id name kind span = t :=
  if_pos h

/-- A new declaration adds one name to one scope. -/
theorem get?_declare (hid : id < t.scopes.size) (h : ¬ t.Has id name) :
    (t.declare id name kind span).get? other otherName =
      if other = id ∧ otherName = name then some t.bindings.size else t.get? other otherName := by
  simp only [declare, Has] at h ⊢
  rw [if_neg h]
  by_cases hother : other = id
  · subst hother
    by_cases hname : otherName = name
    · subst hname
      simp [get?, Array.getElem?_modify, Array.getElem?_eq_getElem hid, Scope.get?]
    · have hne : (otherName == name) = false := by simpa using hname
      simp [get?, Array.getElem?_modify, Array.getElem?_eq_getElem hid, Scope.get?, hname,
        List.lookup_cons, hne]
  · have hne : ¬ id = other := fun heq => hother heq.symm
    simp [get?, Array.getElem?_modify, hother, hne]

/-- A new declaration adds one binding behind the others. -/
theorem bindings_declare (h : ¬ t.Has id name) :
    (t.declare id name kind span).bindings = t.bindings.push ⟨name, kind, id, span, []⟩ := by
  rw [Has] at h
  rw [declare, if_neg h]

/-- Which names are declared after one more declaration. -/
theorem has_declare (hid : id < t.scopes.size) :
    (t.declare id name kind span).Has other otherName ↔
      t.Has other otherName ∨ (other = id ∧ otherName = name) := by
  by_cases h : t.Has id name
  · rw [declare_of_has h]
    constructor
    · exact Or.inl
    · rintro (hother | ⟨rfl, rfl⟩)
      · exact hother
      · exact h
  · rw [Has, get?_declare hid h]
    by_cases heq : other = id ∧ otherName = name
    · simp [heq]
    · simp [heq, Has]

/-! ## Growth -/

/-- Every scope of the first tree is a scope of the second one, with the same parent and flags. -/
def Grows (t t' : ScopeTree) : Prop :=
  ∀ (id : ScopeId) (s : Scope), t.scopes[id]? = some s →
    ∃ s' : Scope, t'.scopes[id]? = some s' ∧ s'.parent = s.parent ∧ s'.flags = s.flags

theorem Grows.refl (t : ScopeTree) : t.Grows t :=
  fun _ s hs => ⟨s, hs, rfl, rfl⟩

/-- A tree that grows twice grows. -/
theorem Grows.trans {t'' : ScopeTree} (h : t.Grows t') (h' : t'.Grows t'') : t.Grows t'' := by
  intro id s hs
  obtain ⟨s', hs', hparent, hflags⟩ := h id s hs
  obtain ⟨s'', hs'', hparent', hflags'⟩ := h' id s' hs'
  exact ⟨s'', hs'', hparent'.trans hparent, hflags'.trans hflags⟩

/-- A tree grows when a scope is opened. -/
theorem grows_pushScope : t.Grows (t.pushScope parent flags) := by
  intro id s hs
  have hne : id ≠ t.scopes.size := Nat.ne_of_lt (Array.getElem?_eq_some_iff.1 hs).1
  exact ⟨s, by simpa [pushScope, Array.getElem?_push, hne] using hs, rfl, rfl⟩

/-- It grows when a name is declared. -/
theorem grows_declare : t.Grows (t.declare id name kind span) := by
  unfold declare
  split
  · exact Grows.refl t
  · intro other s hs
    by_cases h : id = other
    · subst h
      exact ⟨{ s with names := (name, t.bindings.size) :: s.names },
        by simp [Array.getElem?_modify, hs], rfl, rfl⟩
    · exact ⟨s, by simp [Array.getElem?_modify, hs, h], rfl, rfl⟩

/-! ## Looking up along a chain of scopes -/

/-- Whether some scopes are a scope of the tree, its parent, the parent of that, and so on, to a
scope without a parent. -/
def Chain (t : ScopeTree) : List ScopeId → Prop
  | [] => False
  | [id] => ∃ s, t.scopes[id]? = some s ∧ s.parent = none
  | id :: parent :: rest =>
    (∃ s, t.scopes[id]? = some s ∧ s.parent = some parent ∧ parent < id) ∧ t.Chain (parent :: rest)

/-- A chain of scopes stays one while the tree grows. -/
theorem Chain.grows (h : t.Grows t') : ∀ {ids : List ScopeId}, t.Chain ids → t'.Chain ids
  | [_], ⟨s, hs, hparent⟩ => by
      obtain ⟨s', hs', hparent', _⟩ := h _ s hs
      exact ⟨s', hs', hparent'.trans hparent⟩
  | _ :: _ :: _, ⟨⟨s, hs, hparent, hlt⟩, hrest⟩ => by
      obtain ⟨s', hs', hparent', _⟩ := h _ s hs
      exact ⟨⟨s', hs', hparent'.trans hparent, hlt⟩, Chain.grows h hrest⟩

/-- The scopes of a chain are there. -/
theorem Chain.lt {ids : List ScopeId} (h : t.Chain ids) : ∀ id ∈ ids, id < t.scopes.size := by
  induction ids with
  | nil => exact h.elim
  | cons id rest ih =>
      cases rest with
      | nil =>
          obtain ⟨s, hs, _⟩ := h
          simpa using (Array.getElem?_eq_some_iff.1 hs).1
      | cons parent rest =>
          obtain ⟨⟨s, hs, _⟩, hrest⟩ := h
          intro other hother
          rcases List.mem_cons.1 hother with rfl | hother
          · exact (Array.getElem?_eq_some_iff.1 hs).1
          · exact ih hrest other hother

/-- A new scope extends the chain of the scope around it. -/
theorem Chain.pushScope {rest : List ScopeId} (h : t.Chain (parent :: rest)) :
    (t.pushScope parent flags).Chain (t.scopes.size :: parent :: rest) := by
  refine ⟨⟨⟨some parent, flags, []⟩, ?_, rfl, h.lt parent (by simp)⟩, h.grows grows_pushScope⟩
  simp [ScopeTree.pushScope]

/-- A look-up tries the scopes of a chain one after the other. -/
theorem lookup_of_chain {rest : List ScopeId} (h : t.Chain (id :: rest)) :
    t.lookup name id = (id :: rest).findSome? fun id => t.get? id name := by
  induction rest generalizing id with
  | nil =>
      obtain ⟨s, hs, hparent⟩ := h
      rw [lookup]
      cases hget : s.get? name <;> simp [hs, hget, hparent, ScopeTree.get?]
  | cons parent rest ih =>
      obtain ⟨⟨s, hs, hparent, hlt⟩, hrest⟩ := h
      rw [lookup, List.findSome?_cons]
      cases hget : s.get? name with
      | some binding => simp [hs, hget, ScopeTree.get?]
      | none => simp [hs, hget, hparent, hlt, ScopeTree.get?, ih hrest]

/-- A look-up depends on the scopes alone. -/
theorem lookup_congr (h : t.scopes = t'.scopes) : t.lookup name id = t'.lookup name id := by
  induction id using Nat.strongRecOn with
  | ind id ih =>
      rw [lookup, lookup, h]
      cases t'.scopes[id]? with
      | none => rfl
      | some s =>
          dsimp only
          cases s.get? name with
          | some binding => rfl
          | none =>
              dsimp only
              cases s.parent with
              | none => rfl
              | some parent =>
                  dsimp only
                  split
                  · exact ih parent (by assumption)
                  · rfl

/-! ## Sound trees -/

/-- The names of the scopes and the bindings correspond to each other. -/
structure Sound (t : ScopeTree) : Prop where
  /-- What a scope declares is a binding of that name and scope. -/
  named : ∀ id name b, t.get? id name = some b →
    ∃ binding, t.bindings[b]? = some binding ∧ binding.name = name ∧ binding.scope = id
  /-- A binding is what its scope declares under its name. -/
  declared : ∀ b binding, t.bindings[b]? = some binding →
    t.get? binding.scope binding.name = some b

/-- The empty tree is sound. -/
theorem Sound.empty : Sound ScopeTree.empty where
  named := by
    intro id name b h
    obtain ⟨s, hs, hget⟩ := get?_eq_some_iff.1 h
    cases id with
    | zero =>
        cases hs
        simp [ScopeTree.empty, Scope.get?] at hget
    | succ id => simp [ScopeTree.empty] at hs
  declared := by
    intro b binding h
    simp [ScopeTree.empty] at h

/-- A tree stays sound when a scope is opened. -/
theorem Sound.pushScope (h : Sound t) : Sound (t.pushScope parent flags) where
  named := by simpa using h.named
  declared := by simpa using h.declared

/-- It stays sound when a name is declared in a scope that is there. -/
theorem Sound.declare (h : Sound t) (hid : id < t.scopes.size) :
    Sound (t.declare id name kind span) := by
  by_cases hhas : t.Has id name
  · rwa [declare_of_has hhas]
  · constructor
    · intro other otherName b hget
      rw [get?_declare hid hhas] at hget
      rw [bindings_declare hhas]
      split at hget
      · obtain ⟨rfl, rfl⟩ := ‹other = id ∧ otherName = name›
        cases hget
        exact ⟨⟨otherName, kind, other, span, []⟩, by simp, rfl, rfl⟩
      · obtain ⟨binding, hb, hname, hscope⟩ := h.named other otherName b hget
        have hlt := (Array.getElem?_eq_some_iff.1 hb).1
        exact ⟨binding, by simpa [Array.getElem?_push, Nat.ne_of_lt hlt] using hb, hname, hscope⟩
    · intro b binding hb
      rw [get?_declare hid hhas]
      rw [bindings_declare hhas, Array.getElem?_push] at hb
      split at hb
      · cases hb
        simp [‹b = t.bindings.size›]
      · have hget := h.declared b binding hb
        have hne : ¬ (binding.scope = id ∧ binding.name = name) := by
          rintro ⟨rfl, rfl⟩
          exact hhas (by simp [Has, hget])
        rw [if_neg hne]
        exact hget

/-! ## How a name was declared -/

/-- How a scope declares a name, and where it was declared. -/
def record? (t : ScopeTree) (id : ScopeId) (name : String) : Option (BindingKind × Span) := do
  let b ← t.get? id name
  let binding ← t.bindings[b]?
  return (binding.kind, binding.declaredAt)

/-- A scope that is opened has no names yet. -/
@[simp] theorem record?_pushScope :
    (t.pushScope parent flags).record? id name = t.record? id name := by
  simp [record?]

/-- In a sound tree, each name that a scope has leads to a binding. -/
theorem Sound.isSome_record? (h : Sound t) (hhas : t.Has id name) :
    (t.record? id name).isSome := by
  obtain ⟨b, hb⟩ := Option.isSome_iff_exists.1 hhas
  obtain ⟨binding, hbinding, _⟩ := h.named id name b hb
  simp [record?, hb, hbinding]

/-- A declaration is recorded unless its name is declared in its scope already. -/
theorem record?_declare (h : Sound t) (hid : id < t.scopes.size) :
    (t.declare id name kind span).record? other otherName =
      (t.record? other otherName).or
        (if id = other ∧ name = otherName then some (kind, span) else none) := by
  by_cases hhas : t.Has id name
  · rw [declare_of_has hhas]
    split
    · obtain ⟨rfl, rfl⟩ := ‹id = other ∧ name = otherName›
      rw [Option.or_of_isSome (h.isSome_record? hhas)]
    · rw [Option.or_none]
  · rw [record?, get?_declare hid hhas, bindings_declare hhas]
    by_cases heq : other = id ∧ otherName = name
    · obtain ⟨rfl, rfl⟩ := heq
      have hnone : t.get? other otherName = none := by simpa [Has] using hhas
      simp [record?, hnone]
    · have hne : ¬ (id = other ∧ name = otherName) := fun h => heq ⟨h.1.symm, h.2.symm⟩
      rw [if_neg heq, if_neg hne, Option.or_none, record?]
      cases hget : t.get? other otherName with
      | none => rfl
      | some b =>
          -- An older binding stands before the new one.
          obtain ⟨binding, hb, _⟩ := h.named other otherName b hget
          have hlt := (Array.getElem?_eq_some_iff.1 hb).1
          simp [Array.getElem?_push, Nat.ne_of_lt hlt]

end ScopeTree

end JsxTidy
