import JsxTidy.Proofs.Import.Liveness

/-!
# What syntax does with a name

Whether an import is live does not depend on the numbers of scopes, and so it can be read off a
program without them. The profile of a piece of syntax says what the piece does with one name, seen
from outside: it is computed from the kind of the piece and the profiles of its parts. The main
result is `isLive_build_eq`: the profile of a program says whether a name is live. Programs with
the same profiles have the same live imports.
-/

namespace JsxTidy

open Syntax

/-- What a piece of syntax does with one name outside the scopes that it opens. -/
@[ext] structure Reach where
  /-- The name is used outside all scopes in the piece that declare it. -/
  uses : Bool
  /-- The name is declared in the scope around the piece. -/
  declares : Bool
  /-- The name is declared in the scope around the piece that keeps variables. -/
  hoists : Bool

namespace Reach

instance : EmptyCollection Reach := ⟨⟨false, false, false⟩⟩

instance : Union Reach :=
  ⟨fun a b => ⟨a.uses || b.uses, a.declares || b.declares, a.hoists || b.hoists⟩⟩

/-- The name is declared in some way. -/
def ofDeclaration : BindingKind → Reach
  | .var => ⟨false, false, true⟩
  | _ => ⟨false, true, false⟩

/-- What is left of the reach of some parts outside the scope around them. -/
def outside (flags : List ScopeFlag) (inner : Reach) : Reach :=
  let holds := flags.any ScopeFlag.holdsVariables
  ⟨inner.uses && !(inner.declares || (holds && inner.hoists)), false, inner.hoists && !holds⟩

/-- What is left of the reach of some parts outside their piece. -/
def inScope (kind : Kind) (inner : Reach) : Reach :=
  match NameEvent.scopeOf? kind with
  | some flags => outside flags inner
  | none => inner

/-- Whether the name is live when this is all that a module does with it. -/
def isLive (r : Reach) : Bool :=
  (r.declares || r.hoists) && r.uses

section Union

variable (a b c : Reach)

@[simp] theorem uses_union : (a ∪ b).uses = (a.uses || b.uses) := rfl

@[simp] theorem declares_union : (a ∪ b).declares = (a.declares || b.declares) := rfl

@[simp] theorem hoists_union : (a ∪ b).hoists = (a.hoists || b.hoists) := rfl

@[simp] theorem uses_empty : (∅ : Reach).uses = false := rfl

@[simp] theorem declares_empty : (∅ : Reach).declares = false := rfl

@[simp] theorem hoists_empty : (∅ : Reach).hoists = false := rfl

@[simp] theorem union_empty : a ∪ ∅ = a := by
  ext <;> simp

theorem union_left_comm : a ∪ (b ∪ c) = b ∪ (a ∪ c) := by
  ext <;> simp [Bool.or_left_comm]

end Union

end Reach

/-- What matters for one name in a piece of syntax. -/
structure NameProfile where
  /-- The name that the piece itself declares, if it is one that declares a name. -/
  declared? : Option String
  isPresent : Bool
  namesFunction : Bool
  reach : DeclarationContext → Reach

namespace NameProfile

/-- The reach of some parts. -/
def reachOf (context : DeclarationContext) (parts : List NameProfile) : Reach :=
  parts.foldr (fun part rest => part.reach context ∪ rest) ∅

/-- The reach of the name of a function or class. -/
def ownReach (name : String) (isDeclared : Bool) (kind : BindingKind) (own : NameProfile) : Reach :=
  if isDeclared && own.declared? == some name then .ofDeclaration kind else ∅

/-- The reach of a piece of syntax of some kind. -/
def rootReach (name : String) (context : DeclarationContext) : Kind → List NameProfile → Reach
  | .binding declared, _ => if declared = name then .ofDeclaration context.bindingKind else ∅
  | .reference used, _ => ⟨used = name, false, false⟩
  | .function shape, own :: rest =>
    ownReach name (NameEvent.isDeclaredForm shape.form) .function own ∪
      (reachOf .lexical rest).inScope (.function shape)
  | .classLike shape, [decorators, own, parts] =>
    ownReach name shape.isDeclaration .classLike own ∪
      (decorators.reach context ∪
        (ownReach name decorators.namesFunction context.bindingKind own ∪ parts.reach context))
  | kind, parts => (reachOf (NameEvent.contextIn context kind) parts).inScope kind

/-- Whether a piece of some kind names a function or class. -/
def rootNamesFunction : Kind → List NameProfile → Bool
  | .function _, own :: rest => own.isPresent || rest.any namesFunction
  | .classLike _, [decorators, own, parts] =>
    own.isPresent || decorators.namesFunction || parts.namesFunction
  | _, parts => parts.any namesFunction

/-- The name that a kind declares, if it is one that declares a name. -/
def declaredBy? : Kind → Option String
  | .binding name => some name
  | _ => none

/-- Whether a kind is that of a part that is there. -/
def isPart : Kind → Bool
  | .absent => false
  | _ => true

/-- The profile of a piece of syntax of some kind. -/
def root (name : String) (kind : Kind) (parts : List NameProfile) : NameProfile where
  declared? := declaredBy? kind
  isPresent := isPart kind
  namesFunction := rootNamesFunction kind parts
  reach context := rootReach name context kind parts

end NameProfile

namespace Syntax

namespace Node

mutual

/-- What matters for a name in a piece of syntax. -/
def profile (name : String) : Node → NameProfile
  | .mk kind _ parts => .root name kind (profilesOf name parts)

/-- What matters for a name in each of some pieces of syntax. -/
def profilesOf (name : String) : List Node → List NameProfile
  | [] => []
  | node :: rest => profile name node :: profilesOf name rest

end

/-- The reach of some pieces of syntax. -/
def reachOf (name : String) (context : DeclarationContext) (nodes : List Node) : Reach :=
  NameProfile.reachOf context (nodes.map (profile name))

section Profile

variable {name : String} {kind : Kind} {span : Span} {parts : List Node}

/-- The profiles of several nodes are those of each of them. -/
theorem profilesOf_eq (nodes : List Node) :
    profilesOf name nodes = nodes.map (profile name) := by
  induction nodes with
  | nil => rfl
  | cons node rest ih => exact congrArg (profile name node :: ·) ih

/-- A profile depends on the kind of a node and on the profiles of its parts alone. -/
theorem profile_mk :
    profile name (.mk kind span parts) = .root name kind (parts.map (profile name)) := by
  rw [profile, profilesOf_eq]

/-- Whether a node names a function is told by its profile. -/
theorem namesFunction_profile_mk : (profile name (.mk kind span parts)).namesFunction =
    NameProfile.rootNamesFunction kind (parts.map (profile name)) := by
  rw [profile_mk, NameProfile.root]

/-- So is what a node does with a name in a context of declarations. -/
theorem reach_profile_mk (context : DeclarationContext) :
    (profile name (.mk kind span parts)).reach context =
      NameProfile.rootReach name context kind (parts.map (profile name)) := by
  rw [profile_mk, NameProfile.root]

/-- A profile tells a missing node from others. -/
theorem isPresent_profile (node : Node) : (profile name node).isPresent = node.isPresent := by
  obtain ⟨kind, span, parts⟩ := node
  rw [profile_mk]
  cases kind <;> rfl

/-- A piece that is neither a name nor a function nor a class has the reach of its parts. -/
theorem reach_profile_of_other (hbinding : ∀ declared, kind = .binding declared → False)
    (hreference : ∀ used, kind = .reference used → False)
    (hfunction : ∀ shape own rest, kind = .function shape → parts = own :: rest → False)
    (hclass : ∀ shape decorators own inner, kind = .classLike shape →
      parts = [decorators, own, inner] → False) (context : DeclarationContext) :
    (profile name (.mk kind span parts)).reach context =
      (reachOf name (NameEvent.contextIn context kind) parts).inScope kind := by
  rw [reach_profile_mk]
  refine NameProfile.rootReach.eq_5 _ _ _ _ (fun _ heq => hbinding _ heq)
    (fun _ heq => hreference _ heq) ?_ ?_
  · rintro shape own rest rfl hparts
    obtain ⟨own, rest, rfl, -, -⟩ := List.map_eq_cons_iff.1 hparts
    exact hfunction shape own rest rfl rfl
  · rintro shape decorators own inner rfl hparts
    rcases parts with _ | ⟨a, _ | ⟨b, _ | ⟨c, _ | ⟨d, rest⟩⟩⟩⟩ <;> simp at hparts
    exact hclass shape a b c rfl rfl

/-- The profile knows whether a function or class with a name stands in the piece. -/
theorem namesFunction_profile_both :
    (∀ node : Node, (profile name node).namesFunction = node.namesFunction) ∧
    (∀ nodes, (nodes.map (profile name)).any NameProfile.namesFunction =
      anyNamesFunction nodes) := by
  apply namesFunction.mutual_induct
  case case1 =>
    intro shape span own rest ih
    rw [namesFunction_profile_mk, namesFunction, ← ih, ← isPresent_profile own]
    rfl
  case case2 =>
    intro shape span decorators own parts ihDecorators ihParts
    rw [namesFunction_profile_mk, namesFunction, ← ihDecorators, ← ihParts, ← isPresent_profile own]
    rfl
  case case3 =>
    intro kind span parts hfunction hclass ih
    rw [namesFunction_profile_mk, namesFunction.eq_3 _ _ _ hfunction hclass, ← ih]
    refine NameProfile.rootNamesFunction.eq_3 _ _ ?_ ?_
    · rintro shape own rest rfl hparts
      obtain ⟨own, rest, rfl, -, -⟩ := List.map_eq_cons_iff.1 hparts
      exact hfunction shape own rest rfl rfl
    · rintro shape decorators own inner rfl hparts
      rcases parts with _ | ⟨a, _ | ⟨b, _ | ⟨c, _ | ⟨d, rest⟩⟩⟩⟩ <;> simp at hparts
      exact hclass shape a b c rfl rfl
  case case4 => rfl
  case case5 =>
    intro node rest ihNode ihRest
    rw [List.map_cons, List.any_cons, ihNode, ihRest, anyNamesFunction]

end Profile

end Node

end Syntax

/-! ## What the mentions of a piece do with a name -/

/-- The scopes around a place, the one that keeps its variables, and the number of the next scope
to be opened. -/
structure Place where
  scopes : List ScopeId
  variableScope : ScopeId
  next : ScopeId

namespace Place

/-- The innermost scope around a place. -/
def innermost (place : Place) : ScopeId :=
  place.scopes.headD ScopeTree.module

/-- The place at the end of a trail. -/
def ofTrail (trail : Trail) (next : ScopeId) : Place :=
  ⟨trail.scopes, trail.variableScope, next⟩

/-- A place behind some scopes that have been opened and left. -/
def after (place : Place) (count : Nat) : Place :=
  { place with next := place.next + count }

/-- The place in a scope that is opened. -/
def enter (place : Place) (flags : List ScopeFlag) : Place where
  scopes := place.next :: place.scopes
  variableScope := if flags.any ScopeFlag.holdsVariables then place.next else place.variableScope
  next := place.next + 1

/-- Whether scopes are opened under greater numbers than all around the place have. -/
structure Ordered (place : Place) : Prop where
  scopes : ∀ id ∈ place.scopes, id < place.next
  variableScope : place.variableScope < place.next
  module : ScopeTree.module < place.next

variable {place : Place} {count : Nat} {flags : List ScopeFlag}

/-- A part around which no scope is opened stands in the place of its piece. -/
theorem ofTrail_part (kind : Kind) (part : Nat) (trail : Trail) (next : ScopeId) :
    ofTrail (⟨kind, part, none⟩ :: trail) next = ofTrail trail next := by
  simp [ofTrail, Trail.scopes, Trail.variableScope, Frame.variableScope?]

/-- Going into a scope of a program goes into one in its trail. -/
theorem ofTrail_enter {kind : Kind} (hkind : NameEvent.scopeOf? kind = some flags) (part : Nat)
    (trail : Trail) (next : ScopeId) :
    ofTrail (⟨kind, part, some next⟩ :: trail) (next + 1) = (ofTrail trail next).enter flags := by
  by_cases hholds : flags.any ScopeFlag.holdsVariables <;>
    simp [ofTrail, enter, Trail.scopes, Trail.variableScope, Frame.variableScope?, hkind, hholds]

/-- The innermost scope has been opened before the next one. -/
theorem Ordered.innermost (h : place.Ordered) : place.innermost < place.next := by
  unfold Place.innermost
  cases hscopes : place.scopes with
  | nil => exact h.module
  | cons id ids => exact h.scopes id (by simp [hscopes])

/-- Scopes that are opened elsewhere come behind those that are open. -/
theorem Ordered.after (h : place.Ordered) (count : Nat) : (place.after count).Ordered where
  scopes id hid := Nat.lt_add_right count (h.scopes id hid)
  variableScope := Nat.lt_add_right count h.variableScope
  module := Nat.lt_add_right count h.module

/-- The scope that is gone into is the last one that has been opened. -/
theorem Ordered.enter (h : place.Ordered) (flags : List ScopeFlag) :
    (place.enter flags).Ordered where
  scopes id hid := by
    rcases List.mem_cons.1 hid with rfl | hid
    · exact Nat.lt_succ_self _
    · exact Nat.lt_succ_of_lt (h.scopes id hid)
  variableScope := by
    unfold Place.enter
    split
    · exact Nat.lt_succ_self _
    · exact Nat.lt_succ_of_lt h.variableScope
  module := Nat.lt_succ_of_lt h.module

end Place

/-- Whether a reach says what some mentions at a place do with a name, if they stand in `count`
scopes that are opened there. -/
structure Accounts (name : String) (place : Place) (count : Nat) (ms : List Mention)
    (reach : Reach) : Prop where
  outer : ∀ id < place.next, (∃ m ∈ ms, m.declares id name) ↔
    reach.declares ∧ id = place.innermost ∨ reach.hoists ∧ id = place.variableScope
  bounded : ∀ m ∈ ms, ∀ id, m.declares id name → id < place.next + count
  scopes : ∀ m ∈ ms, ∃ inner, m.trail.scopes = inner ++ place.scopes ∧
    ∀ id ∈ inner, place.next ≤ id ∧ id < place.next + count
  uses : reach.uses ↔ ∃ u ∈ ms, u.isUse ∧ u.name = name ∧
    ∀ id ∈ u.trail.scopes, place.next ≤ id → ¬ ∃ m ∈ ms, m.declares id name

namespace Accounts

variable {name : String} {place : Place} {count count' : Nat} {ms ms' : List Mention}
  {reach reach' : Reach} {flags : List ScopeFlag}

/-- Where nothing is mentioned, nothing is reached. -/
theorem nil : Accounts name place 0 [] ∅ where
  outer := by simp
  bounded := by simp
  scopes := by simp
  uses := by simp

/-- A scope around a mention that is opened at the place is one of the mention's own. -/
theorem mem_own_scopes (h : Accounts name place count ms reach) (hplace : place.Ordered)
    {m : Mention} (hm : m ∈ ms) {id : ScopeId} (hid : id ∈ m.trail.scopes)
    (hnext : place.next ≤ id) : id < place.next + count := by
  obtain ⟨inner, hscopes, hinner⟩ := h.scopes m hm
  rw [hscopes] at hid
  rcases List.mem_append.1 hid with hid | hid
  · exact (hinner id hid).2
  · exact absurd (hplace.scopes id hid) (Nat.not_lt.2 hnext)

/-- The mentions of a piece and then those of another one. -/
theorem append (h : Accounts name place count ms reach)
    (h' : Accounts name (place.after count) count' ms' reach') (hplace : place.Ordered) :
    Accounts name place (count + count') (ms ++ ms') (reach ∪ reach') where
  outer := by
    intro id hid
    have hboth : (∃ m ∈ ms ++ ms', m.declares id name) ↔
        (∃ m ∈ ms, m.declares id name) ∨ ∃ m ∈ ms', m.declares id name := by
      simp only [List.mem_append, or_and_right, exists_or]
    rw [hboth, h.outer id hid, h'.outer id (Nat.lt_add_right count hid)]
    simp only [Reach.declares_union, Reach.hoists_union, Bool.or_eq_true, or_and_right]
    exact or_or_or_comm
  bounded := by
    have hsum : place.next + count + count' = place.next + (count + count') := Nat.add_assoc _ _ _
    have hle : place.next + count ≤ place.next + (count + count') := hsum ▸ Nat.le_add_right _ _
    intro m hm id hdeclares
    rcases List.mem_append.1 hm with hm | hm
    · exact Nat.lt_of_lt_of_le (h.bounded m hm id hdeclares) hle
    · exact Nat.lt_of_lt_of_eq (h'.bounded m hm id hdeclares) hsum
  scopes := by
    have hsum : place.next + count + count' = place.next + (count + count') := Nat.add_assoc _ _ _
    have hle : place.next + count ≤ place.next + (count + count') := hsum ▸ Nat.le_add_right _ _
    intro m hm
    rcases List.mem_append.1 hm with hm | hm
    · obtain ⟨inner, hscopes, hinner⟩ := h.scopes m hm
      exact ⟨inner, hscopes, fun id hid =>
        ⟨(hinner id hid).1, Nat.lt_of_lt_of_le (hinner id hid).2 hle⟩⟩
    · obtain ⟨inner, hscopes, hinner⟩ := h'.scopes m hm
      refine ⟨inner, hscopes, fun id hid => ⟨?_, Nat.lt_of_lt_of_eq (hinner id hid).2 hsum⟩⟩
      exact Nat.le_trans (Nat.le_add_right _ _) (hinner id hid).1
  uses := by
    -- No mention of one piece declares the name in a scope of the other piece.
    have hlater : ∀ u ∈ ms, ∀ id ∈ u.trail.scopes, place.next ≤ id →
        ¬ ∃ m ∈ ms', m.declares id name := by
      intro u hu id hid hnext hdeclares
      have hlt := h.mem_own_scopes hplace hu hid hnext
      have hinner := hplace.innermost
      have hvariables := hplace.variableScope
      rcases (h'.outer id hlt).1 hdeclares with ⟨-, rfl⟩ | ⟨-, rfl⟩
      · exact absurd hinner (Nat.not_lt.2 hnext)
      · exact absurd hvariables (Nat.not_lt.2 hnext)
    have hearlier : ∀ id, place.next + count ≤ id → ¬ ∃ m ∈ ms, m.declares id name := by
      rintro id hid ⟨m, hm, hdeclares⟩
      exact absurd (h.bounded m hm id hdeclares) (Nat.not_lt.2 hid)
    have hgap : ∀ u ∈ ms', ∀ id ∈ u.trail.scopes, place.next ≤ id → place.next + count ≤ id := by
      intro u hu id hid hnext
      obtain ⟨inner, hscopes, hinner⟩ := h'.scopes u hu
      rw [hscopes] at hid
      rcases List.mem_append.1 hid with hid | hid
      · exact (hinner id hid).1
      · exact absurd (hplace.scopes id hid) (Nat.not_lt.2 hnext)
    simp only [Reach.uses_union, Bool.or_eq_true, h.uses, h'.uses, List.mem_append, or_and_right,
      exists_or, not_or]
    refine or_congr ?_ ?_
    · refine exists_congr fun u => and_congr_right fun hu => and_congr_right fun _ =>
        and_congr_right fun _ => ?_
      exact ⟨fun hfree id hid hnext => ⟨hfree id hid hnext, hlater u hu id hid hnext⟩,
        fun hfree id hid hnext => (hfree id hid hnext).1⟩
    · refine exists_congr fun u => and_congr_right fun hu => and_congr_right fun _ =>
        and_congr_right fun _ => ?_
      constructor
      · intro hfree id hid hnext
        have hgap := hgap u hu id hid hnext
        exact ⟨hearlier id hgap, hfree id hid hgap⟩
      · intro hfree id hid hnext
        exact (hfree id hid (Nat.le_trans (Nat.le_add_right _ _) hnext)).2

/-- The mentions in a scope, seen from outside. -/
theorem outside (h : Accounts name (place.enter flags) count ms reach) (hplace : place.Ordered) :
    Accounts name place (count + 1) ms (reach.outside flags) where
  outer := by
    intro id hid
    have hne : id ≠ place.next := Nat.ne_of_lt hid
    rw [h.outer id (Nat.lt_succ_of_lt hid)]
    by_cases hholds : flags.any ScopeFlag.holdsVariables <;>
      simp [Place.enter, Place.innermost, Reach.outside, hholds, hne]
  bounded m hm id hdeclares :=
    Nat.lt_of_lt_of_eq (h.bounded m hm id hdeclares) (Nat.succ_add_eq_add_succ place.next count)
  scopes := by
    have hsum : place.next + 1 + count = place.next + (count + 1) :=
      Nat.succ_add_eq_add_succ place.next count
    intro m hm
    obtain ⟨inner, hscopes, hinner⟩ := h.scopes m hm
    refine ⟨inner ++ [place.next], by simp [hscopes, Place.enter], fun id hid => ?_⟩
    rcases List.mem_append.1 hid with hid | hid
    · exact ⟨Nat.le_of_succ_le (hinner id hid).1, Nat.lt_of_lt_of_eq (hinner id hid).2 hsum⟩
    · rw [List.mem_singleton.1 hid]
      exact ⟨Nat.le_refl _, Nat.lt_add_of_pos_right (Nat.succ_pos count)⟩
  uses := by
    -- The scope itself declares what is declared in it and, if it holds variables, what is hoisted.
    have hown : (∃ m ∈ ms, m.declares place.next name) ↔
        (reach.declares || (flags.any ScopeFlag.holdsVariables && reach.hoists)) := by
      rw [h.outer place.next (Nat.lt_succ_self _)]
      have hne : place.next ≠ place.variableScope := (Nat.ne_of_lt hplace.variableScope).symm
      by_cases hholds : flags.any ScopeFlag.holdsVariables <;>
        simp [Place.enter, Place.innermost, hholds, hne]
    have hmem : ∀ u ∈ ms, place.next ∈ u.trail.scopes := by
      intro u hu
      obtain ⟨inner, hscopes, -⟩ := h.scopes u hu
      simp [hscopes, Place.enter]
    simp only [Reach.outside, Bool.and_eq_true, Bool.not_eq_true', h.uses]
    rw [← Bool.not_eq_true, ← hown]
    constructor
    · rintro ⟨⟨u, hu, huse, hname, hfree⟩, hnone⟩
      refine ⟨u, hu, huse, hname, fun id hid hnext => ?_⟩
      rcases Nat.eq_or_lt_of_le hnext with rfl | hlt
      · exact hnone
      · exact hfree id hid hlt
    · rintro ⟨u, hu, huse, hname, hfree⟩
      refine ⟨⟨u, hu, huse, hname, fun id hid hnext => ?_⟩, ?_⟩
      · exact hfree id hid (Nat.le_of_succ_le hnext)
      · exact hfree place.next (hmem u hu) (Nat.le_refl _)

/-- A declaration declares its name in the innermost scope or in the one of variables, whichever its
kind says. -/
theorem declares_declaration {trail : Trail} {kind : BindingKind} {declared : String} {span : Span}
    {id : ScopeId} : (Mention.mk (.declaration kind) declared span trail).declares id name ↔
      declared = name ∧ ((Reach.ofDeclaration kind).declares ∧ id = trail.innermost ∨
        (Reach.ofDeclaration kind).hoists ∧ id = trail.variableScope) := by
  rw [Mention.declares, Bool.and_eq_true, beq_iff_eq, beq_iff_eq, and_comm, @eq_comm _ _ (some id)]
  cases kind <;> simp [Mention.target?, Reach.ofDeclaration]

/-- One declaration of a name. -/
theorem declaration {trail : Trail} {next : ScopeId} (hplace : (Place.ofTrail trail next).Ordered)
    (kind : BindingKind) (declared : String) (span : Span) :
    Accounts name (.ofTrail trail next) 0 [⟨.declaration kind, declared, span, trail⟩]
      (if declared = name then .ofDeclaration kind else ∅) where
  outer := by
    intro id hid
    simp only [List.mem_singleton, exists_eq_left, declares_declaration]
    by_cases hname : declared = name
    · rw [if_pos hname, and_iff_right hname]
      rfl
    · simp [hname]
  bounded := by
    intro m hm id hdeclares
    rw [List.mem_singleton.1 hm, declares_declaration] at hdeclares
    rcases hdeclares.2 with ⟨-, rfl⟩ | ⟨-, rfl⟩
    · exact hplace.innermost
    · exact hplace.variableScope
  scopes m hm := by
    rw [List.mem_singleton.1 hm]
    exact ⟨[], rfl, by simp⟩
  uses := by
    by_cases hname : declared = name
    · cases kind <;> simp [hname, Mention.isUse, Reach.ofDeclaration]
    · simp [hname, Mention.isUse]

/-- One use of a name. -/
theorem use (trail : Trail) (next : ScopeId) (used : String) (span : Span) :
    Accounts name (.ofTrail trail next) 0 [⟨.use, used, span, trail⟩]
      ⟨used = name, false, false⟩ where
  outer := by simp [Mention.declares, Mention.target?]
  bounded := by simp [Mention.declares, Mention.target?]
  scopes m hm := by
    rw [List.mem_singleton.1 hm]
    exact ⟨[], rfl, by simp⟩
  uses := by simp [Mention.isUse, Mention.declares, Mention.target?]

/-- The name of a function or class. -/
theorem ownName {trail : Trail} {next : ScopeId} (hplace : (Place.ofTrail trail next).Ordered)
    (isDeclared : Bool) (kind : BindingKind) (own : Node) :
    Accounts name (.ofTrail trail next) 0 (Mention.ofOwnName isDeclared kind trail own)
      (NameProfile.ownReach name isDeclared kind (own.profile name)) := by
  have hnone : ∀ reach : Reach, reach = ∅ → Accounts name (.ofTrail trail next) 0 [] reach := by
    rintro _ rfl
    exact nil
  unfold Mention.ofOwnName
  split
  · rename_i declared span parts
    rw [Node.profile_mk]
    cases isDeclared with
    | false => exact hnone _ rfl
    | true =>
        have hreach := @declaration name trail next hplace kind declared span
        simpa [NameProfile.ownReach, NameProfile.root, NameProfile.declaredBy?] using hreach
  · rename_i hbinding
    refine hnone _ ?_
    obtain ⟨kind', span, parts⟩ := own
    have hdeclared : NameProfile.declaredBy? kind' = none := by
      cases kind' with
      | binding declared => exact absurd rfl (hbinding declared span parts)
      | _ => rfl
    simp [NameProfile.ownReach, Node.profile_mk, NameProfile.root, hdeclared]

end Accounts

/-! ## Programs -/

namespace Syntax.Node

/-- The profile of a piece of syntax accounts for its mentions, and the profiles of some parts for
theirs. -/
theorem accounts_both (name : String) :
    (∀ (trail : Trail) (next : ScopeId) (node : Node), (Place.ofTrail trail next).Ordered →
      Accounts name (.ofTrail trail next) node.scopeCount (node.mentions trail next)
        ((node.profile name).reach trail.context)) ∧
    (∀ (kind : Kind) (scope? : Option ScopeId) (part : Nat) (trail : Trail) (next : ScopeId)
      (nodes : List Node), (Place.ofTrail (⟨kind, part, scope?⟩ :: trail) next).Ordered →
        Accounts name (.ofTrail (⟨kind, part, scope?⟩ :: trail) next) (scopeCountOf nodes)
          (mentionsOf kind scope? part trail next nodes)
          (reachOf name (NameEvent.contextIn trail.context kind) nodes)) := by
  apply mentions.mutual_induct
  case case1 =>
    intro trail next declared span parts hplace
    rw [mentions, scopeCount, reach_profile_mk]
    exact .declaration hplace _ declared span
  case case2 =>
    intro trail next used span parts hplace
    rw [mentions, scopeCount, reach_profile_mk]
    exact .use trail next used span
  -- The own name of a function is mentioned around its scope and all the rest inside.
  case case3 =>
    intro trail next shape span own rest ih hplace
    have hflags : NameEvent.scopeOf? (.function shape) = some _ := rfl
    have hname : (Place.ofTrail (⟨.function shape, 0, .none⟩ :: trail) next).Ordered := by
      rwa [Place.ofTrail_part]
    have hown := @Accounts.ownName name _ _ hname (NameEvent.isDeclaredForm shape.form)
      .function own
    rw [Place.ofTrail_enter hflags] at ih
    have hinner := (ih (hplace.enter _)).outside hplace
    rw [Place.ofTrail_part] at hown
    have hboth := hown.append hinner hplace
    rw [Nat.zero_add] at hboth
    rw [mentions, scopeCount, reach_profile_mk]
    exact hboth
  -- A class opens no scope, so that its parts only differ in how many scopes come before them.
  case case4 =>
    intro trail next shape span decorators own parts ihDecorators ihParts hplace
    have hpart : ∀ part next, Place.ofTrail (⟨.classLike shape, part, .none⟩ :: trail) next =
        Place.ofTrail trail next := fun part next => Place.ofTrail_part _ part trail next
    have hown : ∀ isDeclared kind next, (Place.ofTrail trail next).Ordered →
        Accounts name (.ofTrail trail next) 0 (Mention.ofOwnName isDeclared kind
          (⟨.classLike shape, 1, .none⟩ :: trail) own)
          (NameProfile.ownReach name isDeclared kind (own.profile name)) := by
      intro isDeclared kind next hplace
      rw [← hpart 1] at hplace ⊢
      exact .ownName hplace isDeclared kind own
    rw [hpart] at ihDecorators ihParts
    have hafter := hplace.after decorators.scopeCount
    have hparts := (hown (namesFunction decorators) trail.context.bindingKind _ hafter).append
      (ihParts hafter) hafter
    have hall := (hown shape.isDeclaration .classLike next hplace).append
      ((ihDecorators hplace).append hparts hplace) hplace
    rw [Nat.zero_add, Nat.zero_add] at hall
    rw [mentions, scopeCount, reach_profile_mk]
    simp only [List.map_cons, List.map_nil, NameProfile.rootReach, namesFunction_profile_both.1]
    exact hall
  case case5 =>
    intro trail next kind span parts hbinding hreference hfunction hclass ih hplace
    rw [mentions_other hbinding hreference hfunction hclass,
      scopeCount_other hbinding hreference hfunction hclass,
      reach_profile_of_other hbinding hreference hfunction hclass]
    -- What the parts reach goes on as it is, or else it is seen from outside a scope.
    cases hflags : NameEvent.scopeOf? kind with
    | none =>
        simp only [Trail.numberOf?, hflags, Option.isSome_none, Bool.false_eq_true, if_false,
          Place.ofTrail_part, Reach.inScope] at ih ⊢
        exact ih hplace
    | some flags =>
        simp only [Trail.numberOf?, hflags, Option.isSome_some, if_true,
          Place.ofTrail_enter hflags, Reach.inScope] at ih ⊢
        exact (ih (hplace.enter flags)).outside hplace
  case case6 =>
    intro kind scope? part trail next hplace
    exact .nil
  case case7 =>
    intro kind scope? part trail next node rest ihNode ihRest hplace
    rw [mentionsOf, scopeCountOf]
    exact (ihNode hplace).append (ihRest (hplace.after _)) hplace

end Syntax.Node

namespace Syntax.Program

variable {p : Program} {name : String}

/-- What a program does with a name. -/
def reach (p : Program) (name : String) : Reach :=
  Node.reachOf name .lexical p.directives ∪ Node.reachOf name .lexical p.body

/-- At the start, only the scope of the program is open. -/
theorem ordered_start : (Place.ofTrail [] 1).Ordered where
  scopes := by simp [Place.ofTrail, Trail.scopes]
  variableScope := Nat.one_pos
  module := Nat.one_pos

/-- All that a program mentions is accounted for by what it does with the name. -/
theorem accounts (p : Program) (name : String) : Accounts name (.ofTrail [] 1)
    (Node.scopeCountOf p.directives + Node.scopeCountOf p.body) p.mentions (p.reach name) := by
  have hparts := (Node.accounts_both name).2 .list none 0 []
  simp only [Place.ofTrail_part] at hparts
  exact (hparts 1 p.directives ordered_start).append
    (hparts _ p.body (ordered_start.after _)) ordered_start

/-- A program declares a name in the module when it says so itself. -/
theorem declares_module_iff : p.declares ScopeTree.module name ↔
    (p.reach name).declares ∨ (p.reach name).hoists := by
  have houter := (p.accounts name).outer ScopeTree.module Nat.one_pos
  rw [declares, List.any_eq_true, houter, and_iff_left (by rfl), and_iff_left (by rfl)]

/-- Whether a name of the module is live can be read off the profiles of the program's parts. -/
theorem isLive_build_eq : (ScopeTree.build p).isLive name = (p.reach name).isLive := by
  have hinside : ∀ u ∈ p.mentions, ∀ id ∈ u.trail.scopes, 1 ≤ id := by
    intro u hu id hid
    obtain ⟨inner, hscopes, hinner⟩ := (p.accounts name).scopes u hu
    rw [hscopes] at hid
    exact (hinner id (by simpa [Place.ofTrail, Trail.scopes] using hid)).1
  have hdeclares : ∀ id, (∃ m ∈ p.mentions, m.declares id name) ↔ p.declares id name := by
    simp [declares]
  rw [Bool.eq_iff_iff, isLive_build_iff, Reach.isLive, Bool.and_eq_true, Bool.or_eq_true,
    ← declares_module_iff, (p.accounts name).uses]
  simp only [hdeclares]
  constructor
  · rintro ⟨u, hu, rfl, hscope⟩
    obtain ⟨hm, huse⟩ := List.mem_filter.1 hu
    have hmodule := List.find?_some (p := fun id => p.declares id u.name) hscope
    exact ⟨hmodule, u, hm, huse, rfl, fun id hid _ =>
      (declaringScope?_eq_module_iff hm hmodule).1 hscope id hid⟩
  · rintro ⟨hmodule, u, hm, huse, rfl, hfree⟩
    exact ⟨u, List.mem_filter.2 ⟨hm, huse⟩, rfl, (declaringScope?_eq_module_iff hm hmodule).2
      fun id hid => hfree id hid (hinside u hm id hid)⟩

end Syntax.Program

end JsxTidy
