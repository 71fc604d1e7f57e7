import JsxTidy.Proofs.Scope.Resolution

/-!
# What a mention sees

Resolving a name depends on little of the way to a mention: on the scopes around it, and for a
declaration on the scope that it puts its name in. These are the sight of a mention. The place of a
piece of syntax among its neighbours is not part of it, so that sights can be compared before and
behind a change that moves or removes neighbours.
-/

namespace JsxTidy

open Syntax

/-- What is left of a mention when the way to it is reduced to the scopes around it. -/
structure Sight where
  role : MentionRole
  use : Use
  /-- The scopes around the mention inside the module, the innermost first. -/
  scopes : List ScopeId
  /-- The scope in which a declaration puts its name. -/
  target? : Option ScopeId
deriving DecidableEq

namespace Sight

/-- Whether a name is used. -/
def isUse (s : Sight) : Bool :=
  s.role == .use

/-- Whether a name is declared in a scope. -/
def declares (s : Sight) (id : ScopeId) (name : String) : Bool :=
  s.target? == some id && s.use.name == name

/-- The innermost scope around a sight that declares its name, by an account of what the scopes
declare. -/
def declaringScope? (declares : ScopeId → String → Bool) (s : Sight) : Option ScopeId :=
  (s.scopes ++ [ScopeTree.module]).find? fun id => declares id s.use.name

end Sight

/-- What a mention sees. -/
def Mention.sight (m : Mention) : Sight :=
  ⟨m.role, m.toUse, m.trail.scopes, m.target?⟩

@[simp] theorem Mention.isUse_sight (m : Mention) : m.sight.isUse = m.isUse := rfl

@[simp] theorem Mention.declares_sight (m : Mention) (id : ScopeId) (name : String) :
    m.sight.declares id name = m.declares id name := rfl

/-! ## Trails that show the same -/

namespace Trail

/-- Whether two trails lead through the same scopes and declarations. -/
structure Alike (left right : Trail) : Prop where
  scopes : left.scopes = right.scopes
  variableScope : left.variableScope = right.variableScope
  context : left.context = right.context

variable {left right : Trail}

theorem Alike.innermost (h : Alike left right) : left.innermost = right.innermost := by
  rw [Trail.innermost, Trail.innermost, h.scopes]

/-- The number of a part does not show. -/
theorem Alike.cons (h : Alike left right) (kind : Kind) (part other : Nat)
    (scope? : Option ScopeId) :
    Alike (⟨kind, part, scope?⟩ :: left) (⟨kind, other, scope?⟩ :: right) where
  scopes := by
    have hbehind := h.scopes
    simp only [Trail.scopes, List.filterMap_cons] at hbehind ⊢
    rw [hbehind]
  variableScope := by
    have hframe : Frame.variableScope? ⟨kind, part, scope?⟩ =
        Frame.variableScope? ⟨kind, other, scope?⟩ := rfl
    have hbehind := h.variableScope
    simp only [Trail.variableScope, List.findSome?_cons, hframe] at hbehind ⊢
    split
    · rfl
    · exact hbehind
  context := by simpa [Trail.context] using congrArg (NameEvent.contextIn · kind) h.context

/-- A mention sees the same at the ends of trails that show the same. -/
theorem Alike.sight (h : Alike left right) (role : MentionRole) (name : String) (span : Span) :
    Mention.sight ⟨role, name, span, left⟩ = Mention.sight ⟨role, name, span, right⟩ := by
  have htarget : Mention.target? ⟨role, name, span, left⟩ =
      Mention.target? ⟨role, name, span, right⟩ := by
    cases role with
    | use => rfl
    | declaration kind => cases kind <;> simp [Mention.target?, h.variableScope, h.innermost]
  simp only [Mention.sight, Mention.toUse, h.scopes, htarget]

theorem Alike.sights_ofOwnName (h : Alike left right) (isDeclared : Bool) (kind : BindingKind)
    (node : Node) :
    (Mention.ofOwnName isDeclared kind left node).map Mention.sight =
      (Mention.ofOwnName isDeclared kind right node).map Mention.sight := by
  unfold Mention.ofOwnName
  split
  · split
    · simp [h.sight]
    · rfl
  · rfl

end Trail

namespace Syntax.Node

/-- A piece of syntax sees the same at the ends of trails that show the same, and so do some parts
of it, whichever numbers they have. -/
theorem sights_congr_both :
    (∀ (left : Trail) (next : ScopeId) (node : Node), ∀ {right : Trail}, left.Alike right →
      (node.mentions left next).map Mention.sight =
        (node.mentions right next).map Mention.sight) ∧
    (∀ (kind : Kind) (scope? : Option ScopeId) (part : Nat) (left : Trail) (next : ScopeId)
      (nodes : List Node), ∀ {right : Trail} (other : Nat), left.Alike right →
        (mentionsOf kind scope? part left next nodes).map Mention.sight =
          (mentionsOf kind scope? other right next nodes).map Mention.sight) := by
  apply mentions.mutual_induct
  case case1 =>
    intro left next name span parts right h
    simp [mentions, h.context, h.sight]
  case case2 =>
    intro left next name span parts right h
    simp [mentions, h.sight]
  case case3 =>
    intro left next shape span name rest ih right h
    simp only [mentions, List.map_append]
    rw [(h.cons (.function shape) 0 0 .none).sights_ofOwnName, ih 1 h]
  case case4 =>
    intro left next shape span decorators name parts ihDecorators ihParts right h
    simp only [mentions, List.map_append, h.context]
    rw [(h.cons (.classLike shape) 1 1 .none).sights_ofOwnName,
      (h.cons (.classLike shape) 1 1 .none).sights_ofOwnName,
      ihDecorators (h.cons _ 0 0 .none), ihParts (h.cons _ 2 2 .none)]
  case case5 =>
    intro left next kind span parts hbinding hreference hfunction hclass ih right h
    rw [mentions_other hbinding hreference hfunction hclass,
      mentions_other hbinding hreference hfunction hclass]
    exact ih 0 h
  case case6 =>
    intro kind scope? part left next right other h
    rfl
  case case7 =>
    intro kind scope? part left next node rest ihNode ihRest right other h
    simp only [mentionsOf, List.map_append]
    rw [ihNode (h.cons kind part other scope?), ihRest (other + 1) h]

/-- What some statements of a module see, the first of which opens its first scope under the number
`next`. -/
def sights (next : ScopeId) (nodes : List Node) : List Sight :=
  (mentionsOf .list .none 0 [] next nodes).map Mention.sight

/-- The statements of a module see what each of them sees, whatever their places. -/
theorem sights_cons (next : ScopeId) (node : Node) (nodes : List Node) :
    sights next (node :: nodes) =
      (node.mentions [⟨.list, 0, .none⟩] next).map Mention.sight ++
        sights (next + node.scopeCount) nodes := by
  have hsame : Trail.Alike [] [] := ⟨rfl, rfl, rfl⟩
  simp only [sights, mentionsOf, List.map_append]
  rw [sights_congr_both.2 .list .none (0 + 1) [] (next + node.scopeCount) nodes 0 hsame]

end Syntax.Node

namespace Syntax.Program

variable {p : Program} {id : ScopeId} {name : String}

/-- What a program sees. -/
def sights (p : Program) : List Sight :=
  p.mentions.map Mention.sight

theorem sights_eq (p : Program) : p.sights = Node.sights 1 p.directives ++
    Node.sights (1 + Node.scopeCountOf p.directives) p.body :=
  List.map_append

theorem declares_iff : p.declares id name ↔ ∃ s ∈ p.sights, s.declares id name := by
  simp [declares, sights]

/-- Which scope a use refers to is decided by what it sees. -/
theorem declaringScope?_sight (m : Mention) :
    m.sight.declaringScope? p.declares = p.declaringScope? m := rfl

theorem map_sight_uses (p : Program) : p.uses.map Mention.sight = p.sights.filter Sight.isUse := by
  rw [uses, sights, List.filter_map]
  rfl

end Syntax.Program

/-! ## The uses of a name in a scope -/

/-- The places that use a name as it is declared in a scope, if it is declared there. -/
def ScopeTree.references? (t : ScopeTree) (id : ScopeId) (name : String) : Option (List Span) := do
  let b ← t.get? id name
  let binding ← t.bindings[b]?
  return binding.references

namespace Syntax.Program

variable {p : Program} {id : ScopeId} {name : String}

/-- The uses of a name as it is declared in a scope are those that see this declaration first. -/
theorem references?_build :
    (ScopeTree.build p).references? id name =
      if p.declares id name then
        some (((p.sights.filter Sight.isUse).filter fun s =>
          s.use.name = name ∧ s.declaringScope? p.declares = some id).map (·.use.span))
      else none := by
  cases hget : (ScopeTree.build p).get? id name with
  | none =>
      have hdeclares : ¬ p.declares id name := by
        rw [← has_build_iff]
        simp [ScopeTree.Has, hget]
      simp [ScopeTree.references?, hget, hdeclares]
  | some b =>
      have hdeclares : p.declares id name := has_build_iff.1 (by simp [ScopeTree.Has, hget])
      obtain ⟨binding, hb, hname, hscope⟩ := (sound_build p).named id name b hget
      have hattached : ∀ u ∈ p.uses, p.attached? u = some b ↔
          u.name = name ∧ p.declaringScope? u = some id := by
        intro u hu
        rw [attached?_eq_some_iff (List.mem_filter.1 hu).1]
        constructor
        · rintro ⟨binding', hb', hname', hscope'⟩
          cases hb'.symm.trans hb
          exact ⟨hname'.symm.trans hname, by rw [hscope', hscope]⟩
        · rintro ⟨huname, hid⟩
          exact ⟨binding, hb, by rw [hname, huname], by rw [hid, hscope]⟩
      rw [if_pos hdeclares, ← map_sight_uses, List.filter_map, List.map_map]
      simp only [ScopeTree.references?, hget, hb, Option.bind_eq_bind, Option.bind_some,
        references_build hb, Option.pure_def, Option.some.injEq]
      congr 1
      refine List.filter_congr fun u hu => ?_
      rw [Function.comp_apply, declaringScope?_sight]
      exact decide_eq_decide.2 (hattached u hu)

/-- The uses that remain unresolved are those that see no declaration. -/
theorem unresolved_build_sights : (ScopeTree.build p).unresolved =
    ((p.sights.filter Sight.isUse).filter fun s =>
      s.declaringScope? p.declares = none).map (·.use) := by
  rw [unresolved_build, ← map_sight_uses, List.filter_map, List.map_map]
  congr 1
  refine List.filter_congr fun u hu => ?_
  rw [Function.comp_apply, declaringScope?_sight]
  exact decide_eq_decide.2 (attached?_eq_none_iff (List.mem_filter.1 hu).1)

end Syntax.Program

end JsxTidy
