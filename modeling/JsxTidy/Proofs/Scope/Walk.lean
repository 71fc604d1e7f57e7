import JsxTidy.Proofs.Scope.Mention
import JsxTidy.Proofs.Scope.Tree

/-!
# What the resolver learns from a piece of syntax

A resolver stands at the end of a trail when it has entered exactly the scopes of the trail. Read
`reads_piece_and_parts` first: from there, the events of a piece of syntax leave it at the same
place, add the scopes of the piece, and record exactly the mentions of the piece, each use in the
innermost scope of its trail and each declaration in its target.
-/

namespace JsxTidy

open Syntax

/-- What the resolver keeps of a use until all declarations are known. -/
def Mention.pending? (m : Mention) : Option PendingUse :=
  if m.isUse then some ⟨m.trail.innermost, m.toUse⟩ else none

/-- How and where a mention declares a name in a scope, if it does so. -/
def Mention.record? (m : Mention) (id : ScopeId) (name : String) : Option (BindingKind × Span) :=
  match m.role with
  | .use => none
  | .declaration kind => if m.declares id name then some (kind, m.span) else none

/-- Every scope around a place is a scope of the tree, with the flags that the piece of syntax that
opens it asks for. -/
def ScopeTree.Opens (t : ScopeTree) (trail : Trail) : Prop :=
  ∀ frame ∈ trail, ∀ id, frame.scope? = some id →
    ∃ s, t.scopes[id]? = some s ∧ s.flags = (NameEvent.scopeOf? frame.kind).getD []

theorem ScopeTree.Opens.grows {t t' : ScopeTree} {trail : Trail} (h : t.Opens trail)
    (hgrows : t.Grows t') : t'.Opens trail := by
  intro frame hframe id hid
  obtain ⟨s, hs, hflags⟩ := h frame hframe id hid
  obtain ⟨s', hs', _, hflags'⟩ := hgrows id s hs
  exact ⟨s', hs', hflags'.trans hflags⟩

namespace Resolver

/-- The resolver has entered exactly the scopes of a trail, and the tree knows them. -/
structure StandsAt (r : Resolver) (trail : Trail) : Prop where
  entered : r.entered = trail.scopes
  chain : r.tree.Chain trail.around
  opens : r.tree.Opens trail

/-- The second resolver stands where the first one does and has recorded some mentions, among which
`opened` new scopes were opened. -/
structure Reads (r : Resolver) (opened : Nat) (ms : List Mention) (r' : Resolver) : Prop where
  entered : r'.entered = r.entered
  size : r'.tree.scopes.size = r.tree.scopes.size + opened
  grows : r.tree.Grows r'.tree
  pending : r'.pending = (ms.filterMap Mention.pending?).reverse ++ r.pending
  has : ∀ id name, r'.tree.Has id name ↔ r.tree.Has id name ∨ ∃ m ∈ ms, m.declares id name
  chain : ∀ m ∈ ms, r'.tree.Chain m.trail.around
  opens : ∀ m ∈ ms, r'.tree.Opens m.trail
  records : r.tree.Sound → r'.tree.Sound ∧ ∀ id name, r'.tree.record? id name =
    (r.tree.record? id name).or (ms.findSome? fun m => m.record? id name)

variable {r r' r'' : Resolver} {trail : Trail} {opened opened' : Nat} {ms ms' : List Mention}
  {kind : Kind} {flags : List ScopeFlag} {name : String} {span : Span}

/-! ## Composing readings -/

theorem Reads.refl (r : Resolver) : Reads r 0 [] r where
  entered := rfl
  size := rfl
  grows := ScopeTree.Grows.refl _
  pending := rfl
  has := by simp
  chain := by simp
  opens := by simp
  records := fun hsound => ⟨hsound, by simp⟩

theorem Reads.append (h : Reads r opened ms r') (h' : Reads r' opened' ms' r'') :
    Reads r (opened + opened') (ms ++ ms') r'' where
  entered := h'.entered.trans h.entered
  size := by rw [h'.size, h.size, Nat.add_assoc]
  grows := h.grows.trans h'.grows
  pending := by rw [h'.pending, h.pending]; simp
  has := by
    intro id name
    rw [h'.has, h.has]
    simp only [List.mem_append, or_and_right, exists_or, or_assoc]
  chain := by
    intro m hm
    rcases List.mem_append.1 hm with hm | hm
    · exact (h.chain m hm).grows h'.grows
    · exact h'.chain m hm
  opens := by
    intro m hm
    rcases List.mem_append.1 hm with hm | hm
    · exact (h.opens m hm).grows h'.grows
    · exact h'.opens m hm
  records := by
    intro hsound
    obtain ⟨hsound', hrecords⟩ := h.records hsound
    obtain ⟨hsound'', hrecords'⟩ := h'.records hsound'
    refine ⟨hsound'', fun id name => ?_⟩
    rw [hrecords', hrecords, List.findSome?_append, Option.or_assoc]

/-- Where a resolver stands does not change while it reads. -/
theorem StandsAt.reads (h : r.StandsAt trail) (hread : Reads r opened ms r') :
    r'.StandsAt trail where
  entered := hread.entered.trans h.entered
  chain := h.chain.grows hread.grows
  opens := h.opens.grows hread.grows

/-! ## Places -/

/-- A part around which no scope is opened stands in the scopes of its piece. -/
theorem StandsAt.part (h : r.StandsAt trail) (kind : Kind) (part : Nat) :
    r.StandsAt (⟨kind, part, none⟩ :: trail) where
  entered := by simpa [Trail.scopes] using h.entered
  chain := by simpa [Trail.around, Trail.scopes] using h.chain
  opens := by
    intro frame hframe id hid
    rcases List.mem_cons.1 hframe with rfl | hframe
    · cases hid
    · exact h.opens frame hframe id hid

/-- Every scope around a trail is a scope of the tree. -/
theorem StandsAt.lt (h : r.StandsAt trail) : ∀ id ∈ trail.around, id < r.tree.scopes.size :=
  h.chain.lt

theorem StandsAt.current (h : r.StandsAt trail) : r.current = trail.innermost := by
  simp [Resolver.current, Trail.innermost, h.entered]

theorem StandsAt.around (h : r.StandsAt trail) :
    ∃ rest, trail.around = r.current :: rest := by
  rw [h.current, Trail.around, Trail.innermost]
  cases trail.scopes with
  | nil => exact ⟨[], rfl⟩
  | cons id ids => exact ⟨ids ++ [ScopeTree.module], rfl⟩

/-- Entering the scope of a piece leads into its parts. -/
theorem StandsAt.enter (h : r.StandsAt trail) (kind : Kind)
    (hkind : NameEvent.scopeOf? kind = some flags) (part : Nat) :
    (r.step (.enter flags)).StandsAt (⟨kind, part, some r.tree.scopes.size⟩ :: trail) where
  entered := by simp [step, Trail.scopes, h.entered]
  chain := by
    obtain ⟨rest, hrest⟩ := h.around
    have hchain := h.chain
    rw [hrest] at hchain
    have hcons : Trail.around (⟨kind, part, some r.tree.scopes.size⟩ :: trail) =
        r.tree.scopes.size :: r.current :: rest := by
      rw [← hrest]
      rfl
    rw [hcons]
    exact hchain.pushScope
  opens := by
    intro frame hframe id hid
    rcases List.mem_cons.1 hframe with rfl | hframe
    · cases hid
      exact ⟨⟨some r.current, flags, []⟩, by simp [step, ScopeTree.pushScope], by simp [hkind]⟩
    · exact h.opens.grows ScopeTree.grows_pushScope frame hframe id hid

/-- The resolver and the trail agree on where variables declared with `var` are kept. -/
theorem StandsAt.variableScope (h : r.StandsAt trail) :
    r.variableScope = trail.variableScope := by
  have hfind : ∀ frames : Trail, (∀ frame ∈ frames, frame ∈ trail) →
      frames.scopes.find? (holdsVariables r.tree) = frames.findSome? Frame.variableScope? := by
    intro frames
    induction frames with
    | nil => intro _; rfl
    | cons frame frames ih =>
        intro hmem
        have hrest := ih fun f hf => hmem f (List.mem_cons_of_mem _ hf)
        cases hid : frame.scope? with
        | none =>
            have hvar : frame.variableScope? = none := by simp [Frame.variableScope?, hid]
            rw [List.findSome?_cons, hvar, ← hrest]
            simp [Trail.scopes, hid]
        | some id =>
            obtain ⟨s, hs, hflags⟩ := h.opens frame (hmem frame (by simp)) id hid
            have hholds : holdsVariables r.tree id =
                ((NameEvent.scopeOf? frame.kind).getD []).any ScopeFlag.holdsVariables := by
              simp [holdsVariables, hs, Scope.holdsVariables, hflags]
            have hscopes : Trail.scopes (frame :: frames) = id :: Trail.scopes frames := by
              simp [Trail.scopes, hid]
            rw [hscopes, List.find?_cons, List.findSome?_cons, hholds]
            cases hany : ((NameEvent.scopeOf? frame.kind).getD []).any ScopeFlag.holdsVariables with
            | true => simp [Frame.variableScope?, hany, hid]
            | false => simpa [Frame.variableScope?, hany] using hrest
  rw [Resolver.variableScope, Trail.variableScope, h.entered, hfind trail fun _ hf => hf]

/-- A declaration goes to the target of its mention. -/
theorem StandsAt.target (h : r.StandsAt trail) (kind : BindingKind) :
    (⟨.declaration kind, name, span, trail⟩ : Mention).target? = some (r.scopeFor kind) := by
  cases kind with
  | var => simp [Mention.target?, scopeFor, h.variableScope]
  | imported | lexical | function | classLike => simp [Mention.target?, scopeFor, h.current]

/-- A declaration goes to a scope of the tree. -/
theorem StandsAt.scopeFor_lt (h : r.StandsAt trail) (kind : BindingKind) :
    r.scopeFor kind < r.tree.scopes.size := by
  have hcurrent : r.current < r.tree.scopes.size := by
    obtain ⟨rest, hrest⟩ := h.around
    exact h.lt _ (by simp [hrest])
  cases kind with
  | imported | lexical | function | classLike => exact hcurrent
  | var =>
      rw [scopeFor, Resolver.variableScope]
      cases hfind : r.entered.find? (holdsVariables r.tree) with
      | none => exact h.lt _ (by simp [Trail.around])
      | some id =>
          have hmem := List.mem_of_find?_eq_some hfind
          rw [h.entered] at hmem
          exact h.lt _ (by simp [Trail.around, hmem])

/-! ## Single events -/

theorem reads_use (h : r.StandsAt trail) :
    Reads r 0 [⟨.use, name, span, trail⟩] (r.step (.use name span)) where
  entered := rfl
  size := rfl
  grows := ScopeTree.Grows.refl _
  pending := by simp [step, Mention.pending?, Mention.isUse, Mention.toUse, h.current]
  has := by simp [step, Mention.declares, Mention.target?]
  chain := by simpa [step] using h.chain
  opens := by simpa [step] using h.opens
  records := fun hsound => ⟨hsound, by simp [step, Mention.record?]⟩

theorem reads_declare (h : r.StandsAt trail) (kind : BindingKind) :
    Reads r 0 [⟨.declaration kind, name, span, trail⟩] (r.step (.declare kind name span)) where
  entered := rfl
  size := ScopeTree.size_declare
  grows := ScopeTree.grows_declare
  pending := by simp [step, Mention.pending?, Mention.isUse]
  has := by
    intro id other
    simp only [step, ScopeTree.has_declare (h.scopeFor_lt kind), List.mem_singleton,
      exists_eq_left, Mention.declares, h.target kind, Bool.and_eq_true, beq_iff_eq,
      Option.some.injEq]
    exact or_congr_right (and_congr eq_comm eq_comm)
  chain := by simpa [step] using h.chain.grows ScopeTree.grows_declare
  opens := by simpa [step] using h.opens.grows ScopeTree.grows_declare
  records := by
    intro hsound
    refine ⟨hsound.declare (h.scopeFor_lt kind), fun id other => ?_⟩
    simp [step, ScopeTree.record?_declare hsound (h.scopeFor_lt kind), Mention.record?,
      Mention.declares, h.target kind]

/-- The own name of a function or class is declared next to it. -/
theorem reads_own_name (h : r.StandsAt trail) (isDeclared : Bool) (kind : BindingKind)
    (node : Node) :
    Reads r 0 (Mention.ofOwnName isDeclared kind trail node)
      ((NameEvent.ownName isDeclared kind node).foldl step r) := by
  obtain ⟨nodeKind, span, parts⟩ := node
  cases nodeKind with
  | binding name =>
      cases isDeclared with
      | true => exact reads_declare h kind
      | false => exact Reads.refl r
  | _ => exact Reads.refl r

/-- What is read inside a scope is read from outside it together with the scope. -/
theorem reads_scope {inner : List NameEvent}
    (hread : Reads (r.step (.enter flags)) opened ms (inner.foldl step (r.step (.enter flags)))) :
    Reads r (opened + 1) ms
      ((NameEvent.enter flags :: inner ++ [NameEvent.leave]).foldl step r) := by
  have hfold : (NameEvent.enter flags :: inner ++ [NameEvent.leave]).foldl step r =
      (inner.foldl step (r.step (.enter flags))).step .leave := by
    simp [List.foldl_append]
  rw [hfold]
  constructor
  · show (inner.foldl step (r.step (.enter flags))).entered.drop 1 = r.entered
    rw [hread.entered]
    rfl
  · have hsize := hread.size
    simp only [step, ScopeTree.size_pushScope] at hsize ⊢
    omega
  · exact ScopeTree.grows_pushScope.trans hread.grows
  · exact hread.pending
  · intro id name
    rw [show ((inner.foldl step (r.step (.enter flags))).step .leave).tree =
      (inner.foldl step (r.step (.enter flags))).tree from rfl, hread.has]
    simp [step, ScopeTree.Has]
  · exact hread.chain
  · exact hread.opens
  · intro hsound
    obtain ⟨hsound', hrecords⟩ := hread.records hsound.pushScope
    exact ⟨hsound', fun id name => by simpa [step] using hrecords id name⟩

/-! ## Pieces of syntax -/

/-- The events of a piece of syntax record the mentions of the piece. The parts of a piece are all
read at the same place, whichever number they have. -/
theorem reads_piece_and_parts :
    (∀ (context : DeclarationContext) (node : Node), ∀ {r : Resolver} {trail : Trail},
      r.StandsAt trail → trail.context = context →
        Reads r node.scopeCount (node.mentions trail r.tree.scopes.size)
          ((node.events context).foldl step r)) ∧
    (∀ (context : DeclarationContext) (nodes : List Node),
      ∀ {r : Resolver} {trail : Trail} {scope? : Option ScopeId} (kind : Kind) (part : Nat),
        (∀ i, r.StandsAt (⟨kind, i, scope?⟩ :: trail)) →
          NameEvent.contextIn trail.context kind = context →
            Reads r (Node.scopeCountOf nodes)
              (Node.mentionsOf kind scope? part trail r.tree.scopes.size nodes)
              ((Node.eventsOf context nodes).foldl step r)) := by
  -- The induction is on the events. The resolver and its trail are bound inside, since each part
  -- is read where the parts before it have left the resolver.
  apply Node.events.mutual_induct
  case case1 =>
    intro context name span parts r trail h hcontext
    subst hcontext
    simp only [Node.scopeCount, Node.mentions, Node.events]
    exact reads_declare h _
  case case2 =>
    intro context name span parts r trail h hcontext
    simp only [Node.scopeCount, Node.mentions, Node.events]
    exact reads_use h
  case case3 =>
    intro context shape span name rest ih r trail h hcontext
    simp only [Node.scopeCount, Node.mentions, Node.events, List.foldl_append]
    have hname := reads_own_name (h.part (.function shape) 0)
      (NameEvent.isDeclaredForm shape.form) .function name
    have hinside := h.reads hname
    have hrest := ih (.function shape) 1 (fun i => hinside.enter (.function shape) rfl i) rfl
    have hscope := reads_scope hrest
    simpa [hname.size, step, NameEvent.inScope, NameEvent.scopeOf?] using hname.append hscope
  case case4 =>
    intro context shape span decorators name parts ihDecorators ihParts r trail h hcontext
    subst hcontext
    simp only [Node.scopeCount, Node.mentions, Node.events, List.foldl_append]
    -- The name of a class is read in front of its decorators and once more behind them.
    have hname := reads_own_name (h.part (.classLike shape) 1) shape.isDeclaration .classLike name
    have h₁ := h.reads hname
    have hdecorators := ihDecorators (h₁.part (.classLike shape) 0) rfl
    have h₂ := h₁.reads hdecorators
    have hagain := reads_own_name (h₂.part (.classLike shape) 1) (Node.namesFunction decorators)
      trail.context.bindingKind name
    have h₃ := h₂.reads hagain
    have hparts := ihParts (h₃.part (.classLike shape) 2) rfl
    have hall := hname.append (hdecorators.append (hagain.append hparts))
    simpa [hname.size, hdecorators.size, hagain.size] using hall
  case case5 =>
    intro context kind span parts hbinding hreference hfunction hclass ih r trail h hcontext
    subst hcontext
    rw [Node.scopeCount_other hbinding hreference hfunction hclass,
      Node.mentions_other hbinding hreference hfunction hclass,
      Node.events_other hbinding hreference hfunction hclass]
    cases hkind : NameEvent.scopeOf? kind with
    | none =>
        simpa [hkind, NameEvent.inScope, Trail.numberOf?] using
          ih kind 0 (fun i => h.part kind i) rfl
    | some flags =>
        have hscope := reads_scope (ih kind 0 (fun i => h.enter kind hkind i) rfl)
        simpa [hkind, NameEvent.inScope, Trail.numberOf?, step] using hscope
  case case6 =>
    intro context r trail scope? kind part h hcontext
    exact Reads.refl r
  case case7 =>
    intro context node rest ihNode ihRest r trail scope? kind part h hcontext
    simp only [Node.scopeCountOf, Node.mentionsOf, Node.eventsOf, List.foldl_append]
    have hnode := ihNode (h part) hcontext
    have hrest := ihRest kind (part + 1) (fun i => (h i).reads hnode) hcontext
    simpa [hnode.size] using hnode.append hrest

/-- The resolver stands in the module before the first event. -/
theorem initial_stands_at : initial.StandsAt [] where
  entered := rfl
  chain := ⟨⟨none, [.top], []⟩, rfl, rfl⟩
  opens := by simp [ScopeTree.Opens]

/-- The events of a program record the mentions of the program. -/
theorem reads_program (p : Program) :
    Reads initial (Node.scopeCountOf p.directives + Node.scopeCountOf p.body) p.mentions
      (run p.events) := by
  have hdirectives := reads_piece_and_parts.2 .lexical p.directives .list 0
    (fun i => initial_stands_at.part .list i) rfl
  have hbody := reads_piece_and_parts.2 .lexical p.body .list 0
    (fun i => (initial_stands_at.reads hdirectives).part .list i) rfl
  have hsize : initial.tree.scopes.size = 1 := rfl
  have hall := hdirectives.append hbody
  rw [hdirectives.size, hsize] at hall
  simpa [run, Program.events, Program.mentions, List.foldl_append] using hall

end Resolver

end JsxTidy
