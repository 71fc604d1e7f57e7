import JsxTidy.Proofs.Tidy.Everywhere

/-!
# What remains of a program that is written and read again

A text that a program is written as is read as the same program in other places of the source, with
other parentheses, and with its numbers and properties in the spelling that they were written in.
Syntax is stripped of these things by a rewriting that is carried through it. Each piece of stripped
syntax is a piece of the syntax before, with its parts stripped: `stripped_mk`. Only parentheses go.
-/

namespace JsxTidy.Syntax

deriving instance DecidableEq for Kind

namespace Kind

/-- A kind without the spelling of a number or a property. -/
def stripped : Kind → Kind
  | number _ => number ""
  | bigInt _ => bigInt ""
  | property role isMethod _ isComputed => property role isMethod false isComputed
  | kind => kind

/-- Whether syntax of a kind can be put in parentheses. -/
def isEnclosable : Kind → Bool
  | absent | list | binding _ | word _ => false
  | importDeclaration .. | importSpecifier _ | importDefault | importNamespace => false
  | markupAttribute | spreadAttribute => false
  | _ => true

/-- Whether a kind is that of parentheses. -/
def isEnclosing : Kind → Bool
  | paren | parenType => true
  | _ => false

theorem isEnclosable_of_isEnclosing {kind : Kind} (h : kind.isEnclosing) : kind.isEnclosable := by
  cases kind <;> first | rfl | cases h

/-- The kinds of what cannot be put in parentheses show in stripped syntax. -/
theorem stripped_eq_iff {kind other : Kind} (h : ¬ other.isEnclosable) :
    kind.stripped = other ↔ kind = other := by
  unfold stripped
  split
  case h_4 => rfl
  all_goals
    constructor <;> rintro rfl <;> exact absurd rfl h

end Kind

namespace Node

mutual

/-- Whether two pieces of syntax are the same. -/
def decEq : (a b : Node) → Decidable (a = b)
  | mk kind span parts, mk kind' span' parts' =>
    if hroot : kind = kind' ∧ span = span' then
      match decEqOf parts parts' with
      | .isTrue hparts => .isTrue (by rw [hroot.1, hroot.2, hparts])
      | .isFalse hparts => .isFalse (by simp [hparts])
    else .isFalse (by simpa using fun hkind hspan _ => hroot ⟨hkind, hspan⟩)

/-- Whether some pieces of syntax are the same as others. -/
def decEqOf : (as bs : List Node) → Decidable (as = bs)
  | [], [] => .isTrue rfl
  | [], _ :: _ => .isFalse (by simp)
  | _ :: _, [] => .isFalse (by simp)
  | a :: as, b :: bs =>
    match decEq a b with
    | .isTrue hfirst =>
      match decEqOf as bs with
      | .isTrue hrest => .isTrue (by rw [hfirst, hrest])
      | .isFalse hrest => .isFalse (by simp [hrest])
    | .isFalse hfirst => .isFalse (by simp [hfirst])

end

instance : DecidableEq Node := decEq

/-- A piece of syntax without its place and its spelling, or what is in it, if it is a pair of
parentheses. -/
def stripRoot : Node → Node
  | mk kind _ [inner] =>
    if kind.isEnclosing && inner.kind.isEnclosable then inner else mk kind.stripped ⟨0, 0⟩ [inner]
  | mk kind _ parts => mk kind.stripped ⟨0, 0⟩ parts

/-- What strips single pieces of syntax. -/
def stripping : Rewriting := fun node =>
  (stripRoot node, 0)

/-- A piece of syntax without places, parentheses and spellings. -/
def stripped (node : Node) : Node :=
  stripping.result node

variable {kind : Kind} {span : Span} {parts : List Node}

theorem stripRoot_mk (kind : Kind) (span : Span) (parts : List Node) :
    stripRoot (mk kind span parts) = mk kind.stripped ⟨0, 0⟩ parts ∨
    ∃ inner, parts = [inner] ∧ kind.isEnclosing ∧ inner.kind.isEnclosable ∧
      stripRoot (mk kind span parts) = inner := by
  rcases parts with _ | ⟨inner, _ | ⟨_, _⟩⟩
  · exact .inl rfl
  · by_cases h : kind.isEnclosing && inner.kind.isEnclosable
    · obtain ⟨hkind, hinner⟩ := Bool.and_eq_true_iff.1 h
      exact .inr ⟨inner, rfl, hkind, hinner, if_pos h⟩
    · exact .inl (if_neg h)
  · exact .inl rfl

/-- A piece of syntax is stripped with its parts, unless it is a pair of parentheses that go. -/
theorem stripped_mk (kind : Kind) (span : Span) (parts : List Node) :
    (mk kind span parts).stripped = mk kind.stripped ⟨0, 0⟩ (parts.map stripped) ∨
    ∃ inner, parts = [inner] ∧ kind.isEnclosing ∧ inner.stripped.kind.isEnclosable ∧
      (mk kind span parts).stripped = inner.stripped := by
  have hroot : (mk kind span parts).stripped = stripRoot (mk kind span (parts.map stripped)) :=
    Rewriting.result_mk
  rw [hroot]
  rcases stripRoot_mk kind span (parts.map stripped) with
    heq | ⟨stripped', hparts, hkind, hinner, heq⟩
  · exact .inl heq
  · obtain ⟨inner, rest, rfl, rfl, hrest⟩ := List.map_eq_cons_iff.1 hparts
    obtain rfl := List.map_eq_nil_iff.1 hrest
    exact .inr ⟨inner, rfl, hkind, hinner, heq⟩

/-- What cannot be put in parentheses is stripped with its parts. -/
theorem stripped_of_not_isEnclosable (h : ¬ kind.isEnclosable) :
    (mk kind span parts).stripped = mk kind ⟨0, 0⟩ (parts.map stripped) := by
  have hsame : kind.stripped = kind := (Kind.stripped_eq_iff h).2 rfl
  rcases stripped_mk kind span parts with heq | ⟨_, _, hkind, _⟩
  · rw [heq, hsame]
  · exact absurd (Kind.isEnclosable_of_isEnclosing hkind) h

/-- What cannot be put in parentheses is found again in stripped syntax. -/
theorem exists_of_stripped_eq {node : Node} (heq : node.stripped = mk kind span parts)
    (h : ¬ kind.isEnclosable) :
    ∃ span' before, node = mk kind span' before ∧ before.map stripped = parts := by
  obtain ⟨kind', span', before⟩ := node
  rcases stripped_mk kind' span' before with
    hsame | ⟨inner, rfl, hkind, hinner, hsame⟩
  · rw [heq] at hsame
    obtain ⟨hkind, -, hparts⟩ := mk.inj hsame
    obtain rfl := (Kind.stripped_eq_iff h).1 hkind.symm
    exact ⟨span', before, rfl, hparts.symm⟩
  · rw [← hsame, heq] at hinner
    exact absurd hinner h

/-- Lists are stripped item by item. -/
@[simp] theorem stripped_list :
    (mk .list span parts).stripped = mk .list ⟨0, 0⟩ (parts.map stripped) :=
  stripped_of_not_isEnclosable Bool.false_ne_true

theorem exists_of_stripped_list {node : Node} (heq : node.stripped = mk .list span parts) :
    ∃ span' before, node = mk .list span' before ∧ before.map stripped = parts :=
  exists_of_stripped_eq heq Bool.false_ne_true

end Node

namespace Program

instance : DecidableEq Program := fun p q =>
  decidable_of_iff (p.hashbang = q.hashbang ∧ p.directives = q.directives ∧ p.body = q.body ∧
    p.size = q.size) (by cases p; cases q; simp)

/-- A program without places, parentheses and spellings. -/
def stripped (p : Program) : Program where
  hashbang := p.hashbang
  directives := p.directives.map Node.stripped
  body := p.body.map Node.stripped
  size := 0

end Program

end JsxTidy.Syntax
