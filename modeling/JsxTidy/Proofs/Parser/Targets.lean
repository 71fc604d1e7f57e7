import JsxTidy.Parser.Target
import JsxTidy.Proofs.Parser.Tracks

/-!
# Assignment targets

A legible expression becomes a legible target. The target is put together from the parts of the
expression by the recursion that looks for parts that cannot be assigned to; so it has no landmarks
that the expression has not.
-/

namespace JsxTidy.Parser

open Syntax

/-- What is no pattern stays what it is, in parentheses or not. -/
theorem yields_simpleTarget {e : Node} (h : e.legible) : Yields (simpleTarget e) (·.legible) := by
  fun_induction simpleTarget e with
  | case1 => exact yields_failAt _ _
  | case2 => exact yields_failAt _ _
  | case3 span inner _ _ ih => exact ih (Node.legible_parts h inner (List.mem_singleton_self _))
  | case4 => exact .pure h
  | case5 => exact yields_failAt _ _
  | case6 => exact yields_failAt _ _

/-- What an expression becomes as a target, by the recursion that turns it into one. -/
theorem yields_targets :
    (∀ e : Node, e.legible → Yields (target e) (·.legible)) ∧
    (∀ object nodes, (∀ node ∈ nodes, node.legible) →
      Yields (objectTargets object nodes) fun nodes => ∀ node ∈ nodes, node.legible) ∧
    (∀ e : Node, e.legible → Yields (targetOrDefault e) (·.legible)) ∧
    (∀ array nodes, (∀ node ∈ nodes, node.legible) →
      Yields (arrayTargets array nodes) fun nodes => ∀ node ∈ nodes, node.legible) := by
  have hpiece : ∀ {kind : Kind} {span : Span} {parts : List Node}, kind.fits parts →
      (∀ part ∈ parts, part.legible) → Yields (pure (Node.mk kind span parts)) (·.legible) :=
    fun hfits hparts => .pure (Node.legible_mk.2 ⟨hfits, hparts⟩)
  have hmore : ∀ {node : Node} {rest : Parser (List Node)}, node.legible →
      Yields rest (fun nodes => ∀ node ∈ nodes, node.legible) →
      Yields (do return node :: (← rest)) fun nodes => ∀ node ∈ nodes, node.legible :=
    fun hnode hrest => .bind hrest fun _ h => .pure (List.forall_mem_cons.2 ⟨hnode, h⟩)
  have hlast : ∀ (span : Span) {inner : Node}, inner.legible → Yields
      (pure [Node.mk .targetRest span [inner]]) fun nodes : List Node =>
        ∀ node ∈ nodes, node.legible := by
    intro span inner hinner
    refine .pure (List.forall_mem_singleton.2 (Node.legible_mk.2 ⟨rfl, ?_⟩))
    simpa using hinner
  apply target.mutual_induct
  -- A target that takes no default: an array, an object or any other expression.
  case case1 =>
    intro span elements ih h
    rw [target]
    exact .bind (ih (Node.legible_parts h)) fun parts hparts => hpiece rfl hparts
  case case2 =>
    intro span properties ih h
    rw [target]
    exact .bind (ih (Node.legible_parts h)) fun parts hparts => hpiece rfl hparts
  case case3 =>
    intro e harray hobject h
    rw [target.eq_3 e harray hobject]
    exact yields_simpleTarget h
  -- A target that may have a default, which an assignment gives it.
  case case4 =>
    intro span parts h
    rw [targetOrDefault]
    exact hpiece rfl (Node.legible_parts h)
  case case5 =>
    intro span elements ih h
    rw [targetOrDefault]
    exact .bind (ih (Node.legible_parts h)) fun parts hparts => hpiece rfl hparts
  case case6 =>
    intro span properties ih h
    rw [targetOrDefault]
    exact .bind (ih (Node.legible_parts h)) fun parts hparts => hpiece rfl hparts
  case case7 =>
    intro e hassign harray hobject h
    rw [targetOrDefault.eq_4 e hassign harray hobject]
    exact yields_simpleTarget h
  -- The properties of an object. A spread is the last of them or fails, as it does in an array.
  case case8 =>
    intro object _
    rw [objectTargets]
    exact .pure (by simp)
  case case9 =>
    intro object span e rest hrest _ _
    rw [objectTargets, if_pos hrest]
    exact .fail
  case case10 =>
    intro object span e rest hrest ih h
    have he : e.legible :=
      Node.legible_parts (List.forall_mem_cons.1 h).1 e (List.mem_singleton_self _)
    rw [objectTargets, if_neg hrest]
    have hinner : Yields (do
        let inner ← target e
        checkTrailingComma object.start
        return [Node.mk .targetRest span [inner]]) fun nodes => ∀ node ∈ nodes, node.legible :=
      .bind (ih he) fun inner hinner => .skip fun _ => hlast span hinner
    dsimp only
    split
    · exact .fail
    · exact .fail
    · exact hinner
  case case11 =>
    intro object role isMethod isComputed span parts rest ih h
    have hparts := Node.legible_parts (List.forall_mem_cons.1 h).1
    simp only [Node.parts] at hparts
    unfold objectTargets
    refine .skip fun _ => hmore ?_ (ih (List.forall_mem_cons.1 h).2)
    split <;> exact Node.legible_mk.2 ⟨rfl, by simp_all⟩
  case case12 =>
    intro object role isMethod isShorthand isComputed span key value rest hshorthand ih ihrest h
    have hparts := Node.legible_parts (List.forall_mem_cons.1 h).1
    rw [objectTargets.eq_6 _ _ _ _ _ _ _ _ _ hshorthand]
    refine .bind (ih (hparts value (by simp [Node.parts]))) fun inner hinner => ?_
    refine hmore (Node.legible_mk.2 ⟨rfl, ?_⟩) (ihrest (List.forall_mem_cons.1 h).2)
    simpa [hinner] using hparts key (by simp [Node.parts])
  case case13 =>
    intro object e rest hspread hshort hproperty ih h
    rw [objectTargets.eq_7 _ _ _ hspread hshort hproperty]
    exact hmore (List.forall_mem_cons.1 h).1 (ih (List.forall_mem_cons.1 h).2)
  -- The elements of an array.
  case case14 =>
    intro array _
    rw [arrayTargets]
    exact .pure (by simp)
  case case15 =>
    intro array span e rest hrest _ _
    rw [arrayTargets, if_pos hrest]
    exact .fail
  case case16 =>
    intro array span e rest hrest ih h
    have he : e.legible :=
      Node.legible_parts (List.forall_mem_cons.1 h).1 e (List.mem_singleton_self _)
    rw [arrayTargets, if_neg hrest]
    exact .bind (ih he) fun inner hinner => .skip fun _ => hlast span hinner
  case case17 =>
    intro array span parts rest ih h
    rw [arrayTargets]
    exact hmore rfl (ih (List.forall_mem_cons.1 h).2)
  case case18 =>
    intro array e rest hspread hhole ih ihrest h
    rw [arrayTargets.eq_4 _ _ _ hspread hhole]
    exact .bind (ih (List.forall_mem_cons.1 h).1) fun first hfirst =>
      hmore hfirst (ihrest (List.forall_mem_cons.1 h).2)

/-- A legible expression becomes a legible target. -/
theorem yields_target {e : Node} (h : e.legible) : Yields (target e) (·.legible) :=
  yields_targets.1 e h

/-! ## The places of targets -/

/-- In parentheses, a target has the landmarks of what they hold. -/
theorem yields_landmarks_simpleTarget (e : Node) :
    Yields (simpleTarget e) (·.landmarks.Sublist e.landmarks) := by
  fun_induction simpleTarget e with
  | case1 => exact yields_failAt _ _
  | case2 => exact yields_failAt _ _
  | case3 span inner _ _ ih => exact ih.mono fun node h => by simpa [Kind.landmarks] using h
  | case4 => exact .pure (List.Sublist.refl _)
  | case5 => exact yields_failAt _ _
  | case6 => exact yields_failAt _ _

protected instance Quiet.simpleTarget (e : Node) : Quiet (simpleTarget e) := by
  fun_induction Parser.simpleTarget e <;> infer_instance

protected instance Quiet.checkTrailingComma (start : Nat) : Quiet (checkTrailingComma start) := by
  refine .skip fun s => ?_
  split <;> infer_instance

/-- Turning an expression into a target passes no token. -/
theorem quiet_targets :
    (∀ e : Node, Quiet (target e)) ∧
    (∀ object nodes, Quiet (objectTargets object nodes)) ∧
    (∀ e : Node, Quiet (targetOrDefault e)) ∧
    (∀ array nodes, Quiet (arrayTargets array nodes)) := by
  apply target.mutual_induct
  case case3 =>
    intro e harray hobject
    rw [target.eq_3 e harray hobject]
    infer_instance
  case case7 =>
    intro e hassign harray hobject
    rw [targetOrDefault.eq_4 e hassign harray hobject]
    infer_instance
  case case9 =>
    intro object span e rest hrest _
    rw [objectTargets, if_pos hrest]
    exact .of_never .fail
  case case10 =>
    intro object span e rest hrest ih
    rw [objectTargets, if_neg hrest]
    dsimp only
    split <;> infer_instance
  case case11 =>
    intro object role isMethod isComputed span parts rest ih
    unfold objectTargets
    infer_instance
  case case12 =>
    intro object role isMethod isShorthand isComputed span key value rest hshorthand ih ihrest
    rw [objectTargets.eq_6 _ _ _ _ _ _ _ _ _ hshorthand]
    infer_instance
  case case13 =>
    intro object e rest hspread hshort hproperty ih
    rw [objectTargets.eq_7 _ _ _ hspread hshort hproperty]
    infer_instance
  case case15 =>
    intro array span e rest hrest _
    rw [arrayTargets, if_pos hrest]
    exact .of_never .fail
  case case18 =>
    intro array e rest hspread hhole ih ihrest
    rw [arrayTargets.eq_4 _ _ _ hspread hhole]
    infer_instance
  -- What is left are the cases whose equation holds without a condition.
  all_goals
    intros
    first
      | rw [target]
      | rw [targetOrDefault]
      | rw [objectTargets]
      | rw [arrayTargets]
    infer_instance

protected instance Quiet.target (e : Node) : Quiet (target e) :=
  quiet_targets.1 e

/-- A target has no landmarks that the expression has not. -/
theorem yields_landmarks_targets :
    (∀ e : Node, Yields (target e) (·.landmarks.Sublist e.landmarks)) ∧
    (∀ object nodes, Yields (objectTargets object nodes)
      fun found => (found.flatMap Node.landmarks).Sublist (nodes.flatMap Node.landmarks)) ∧
    (∀ e : Node, Yields (targetOrDefault e) (·.landmarks.Sublist e.landmarks)) ∧
    (∀ array nodes, Yields (arrayTargets array nodes)
      fun found => (found.flatMap Node.landmarks).Sublist (nodes.flatMap Node.landmarks)) := by
  have hmore : ∀ {node first : Node} {rest : Parser (List Node)} {nodes : List Node},
      first.landmarks.Sublist node.landmarks →
      Yields rest (fun found => (found.flatMap Node.landmarks).Sublist
        (nodes.flatMap Node.landmarks)) →
      Yields (do return first :: (← rest)) fun found =>
        (found.flatMap Node.landmarks).Sublist ((node :: nodes).flatMap Node.landmarks) :=
    fun hfirst hrest => .bind hrest fun _ h => .pure (hfirst.append h)
  apply target.mutual_induct
  case case1 =>
    intro span elements ih
    rw [target]
    exact .bind ih fun parts hparts => .pure (by simpa [Kind.landmarks] using hparts)
  case case2 =>
    intro span properties ih
    rw [target]
    exact .bind ih fun parts hparts => .pure (by simpa [Kind.landmarks] using hparts)
  case case3 =>
    intro e harray hobject
    rw [target.eq_3 e harray hobject]
    exact yields_landmarks_simpleTarget e
  case case4 =>
    intro span parts
    rw [targetOrDefault]
    exact .pure (by simp [Kind.landmarks])
  case case5 =>
    intro span elements ih
    rw [targetOrDefault]
    exact .bind ih fun parts hparts => .pure (by simpa [Kind.landmarks] using hparts)
  case case6 =>
    intro span properties ih
    rw [targetOrDefault]
    exact .bind ih fun parts hparts => .pure (by simpa [Kind.landmarks] using hparts)
  case case7 =>
    intro e hassign harray hobject
    rw [targetOrDefault.eq_4 e hassign harray hobject]
    exact yields_landmarks_simpleTarget e
  case case8 =>
    intro object
    rw [objectTargets]
    exact .pure (List.Sublist.refl _)
  case case9 =>
    intro object span e rest hrest _
    rw [objectTargets, if_pos hrest]
    exact .fail
  case case10 =>
    intro object span e rest hrest ih
    obtain rfl : rest = [] := by simpa using hrest
    have hlast : Yields (do
        let inner ← target e
        checkTrailingComma object.start
        return [Node.mk .targetRest span [inner]]) fun found =>
          (found.flatMap Node.landmarks).Sublist
            ([Node.mk .spread span [e]].flatMap Node.landmarks) :=
      .bind ih fun inner hinner => .skip fun _ => .pure (by simpa [Kind.landmarks] using hinner)
    rw [objectTargets, if_neg hrest]
    dsimp only
    split
    · exact .fail
    · exact .fail
    · exact hlast
  -- A shorthand property keeps its parts as the parts of a name.
  case case11 =>
    intro object role isMethod isComputed span parts rest ih
    unfold objectTargets
    refine .skip fun _ => hmore ?_ ih
    split <;> simp [Kind.landmarks]
  case case12 =>
    intro object role isMethod isShorthand isComputed span key value rest hshorthand ih ihrest
    rw [objectTargets.eq_6 _ _ _ _ _ _ _ _ _ hshorthand]
    refine .bind ih fun inner hinner => hmore ?_ ihrest
    simpa [Kind.landmarks] using hinner
  case case13 =>
    intro object e rest hspread hshort hproperty ih
    rw [objectTargets.eq_7 _ _ _ hspread hshort hproperty]
    exact hmore (List.Sublist.refl _) ih
  case case14 =>
    intro array
    rw [arrayTargets]
    exact .pure (List.Sublist.refl _)
  case case15 =>
    intro array span e rest hrest _
    rw [arrayTargets, if_pos hrest]
    exact .fail
  case case16 =>
    intro array span e rest hrest ih
    obtain rfl : rest = [] := by simpa using hrest
    rw [arrayTargets, if_neg hrest]
    refine .bind ih fun inner hinner => .skip fun _ => .pure ?_
    simpa [Kind.landmarks] using hinner
  case case17 =>
    intro array span parts rest ih
    rw [arrayTargets]
    exact hmore (by simp [Kind.landmarks]) ih
  case case18 =>
    intro array e rest hspread hhole ih ihrest
    rw [arrayTargets.eq_4 _ _ _ hspread hhole]
    exact .bind ih fun first hfirst => hmore hfirst ihrest

end JsxTidy.Parser
