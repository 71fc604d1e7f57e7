import JsxTidy.Parser.Name
import JsxTidy.Proofs.Syntax.Legible

/-!
# What parsers yield

A parser yields results with a property when all its results have it, provided that the rules
reached through goals are sound. The property does not depend on where reading stands, so that only
the steps whose results end up in the tree matter; `Yields.skip` passes the others.
-/

namespace JsxTidy

open Syntax

/-- What the rule for a goal has to yield. -/
def Goal.IsMet : Goal → Node → Prop
  | .markup, node => node.legible ∧ (node.kind = .element ∨ node.kind = .fragment)
  | _, node => node.legible

/-- Whatever a goal asks for is legible. -/
theorem Goal.IsMet.legible {g : Goal} {node : Node} (h : g.IsMet node) : node.legible := by
  cases g with
  | markup => exact h.1
  | _ => exact h

/-- Whether the rules reached through goals yield what they have to. -/
def ParserEnv.Sound (env : ParserEnv) : Prop :=
  ∀ g around s node s', env.descend g around s = .ok node s' → g.IsMet node

namespace Parser

/-- Whether all results of a parser have a property, provided that other rules are sound. -/
def Yields {α : Type} (p : Parser α) (good : α → Prop) : Prop :=
  ∀ env : ParserEnv, env.Sound → ∀ s a s', p env s = .ok a s' → good a

variable {α β : Type} {p q : Parser α} {f : α → Parser β} {good : α → Prop}
  {after : β → Prop}

/-- Two steps succeed when the second one does after the first one. -/
theorem exists_of_bind_eq_ok {env : ParserEnv} {s s' : ParserState} {b : β}
    (h : (p >>= f) env s = .ok b s') : ∃ a s₁, p env s = .ok a s₁ ∧ f a env s₁ = .ok b s' := by
  rw [show (p >>= f) env s = EStateM.bind (p env) (fun a => f a env) s from rfl,
    EStateM.bind] at h
  cases hfirst : p env s with
  | ok a s₁ =>
      rw [hfirst] at h
      exact ⟨a, s₁, rfl, h⟩
  | error problem s₁ =>
      rw [hfirst] at h
      cases h

namespace Yields

/-- A weaker property is yielded, too. -/
theorem mono {better : α → Prop} (h : Yields p better) (hgood : ∀ a, better a → good a) :
    Yields p good :=
  fun env henv s a s' hrun => hgood a (h env henv s a s' hrun)

/-- What reads nothing yields what it is given. -/
theorem pure {a : α} (h : good a) : Yields (pure a) good := by
  intro env henv s b s' hrun
  cases hrun
  exact h

/-- The second step may rely on what the first one yields. -/
theorem bind (hp : Yields p good) (hf : ∀ a, good a → Yields (f a) after) :
    Yields (p >>= f) after := by
  intro env henv s b s' hrun
  obtain ⟨a, s₁, hfirst, hrest⟩ := exists_of_bind_eq_ok hrun
  exact hf a (hp env henv s a s₁ hfirst) env henv s₁ b s' hrest

/-- A step whose result does not matter. -/
theorem skip (hf : ∀ a, Yields (f a) after) : Yields (p >>= f) after :=
  have hany : Yields p fun _ => True := fun _ _ _ _ _ _ => trivial
  hany.bind fun a _ => hf a

/-- What fails yields nothing. -/
theorem throw (problem : Diagnostic) : Yields (throw problem) good := by
  intro env henv s a s' hrun
  cases hrun

/-- Whichever of two parsers is taken. -/
theorem ite {c : Prop} [Decidable c] (hp : Yields p good) (hq : Yields q good) :
    Yields (if c then p else q) good := by
  split
  · exact hp
  · exact hq

/-- A step without a result that is taken under a condition. -/
theorem check {c : Prop} [Decidable c] {p : Parser Unit} {f : Unit → Parser β}
    (hf : Yields (f ()) after) : Yields (if c then p >>= f else f ()) after :=
  ite (skip fun _ => hf) hf

/-- One of two steps. -/
theorem choose {c : Prop} [Decidable c] (hp : Yields p good) (hq : Yields q good)
    (hf : ∀ a, good a → Yields (f a) after) :
    Yields (if c then p >>= f else q >>= f) after :=
  ite (bind hp hf) (bind hq hf)

/-- A rule that begins with its keyword. -/
theorem fromWord {f : Nat → Parser β} (hf : ∀ start, Yields (f start) after) :
    Yields (do
      let start ← startOffset
      advance
      f start) after :=
  skip fun start => skip fun _ => hf start

end Yields

/-! ## Steps of the machine -/

/-- The rules reached through goals are sound. -/
theorem yields_goal (g : Goal) : Yields (goal g) g.IsMet :=
  fun env henv s node s' hrun => henv g env.around s node s' hrun

theorem yields_goal_legible (g : Goal) : Yields (goal g) (·.legible) :=
  (yields_goal g).mono fun _ => Goal.IsMet.legible

/-- What surrounds a parser makes no difference to what it yields. -/
theorem yields_within (change : Surroundings → Surroundings) (h : Yields p good) :
    Yields (within change p) good :=
  fun env henv s a s' hrun => h { env with around := change env.around } henv s a s' hrun

theorem yields_failAt (complaint : Complaint) (offset : Nat) :
    Yields (failAt complaint offset) good :=
  .throw _

theorem yields_unexpected : Yields (unexpected : Parser α) good := by
  refine .skip fun s => ?_
  split
  · exact .skip fun _ => .throw _
  · exact .skip fun _ => .throw _
  · exact .skip fun _ => .check (yields_failAt _ _)

theorem yields_failExpected (wanted : String) : Yields (failExpected wanted : Parser α) good := by
  exact .skip fun t => .skip fun _ => .check (yields_failAt _ _)

/-- Behind a failure, nothing is read any more. -/
theorem Yields.fail {complaint : Complaint} {offset : Nat} :
    Yields ((failAt complaint offset : Parser α) >>= f) after :=
  have hnever : Yields (failAt complaint offset : Parser α) fun _ => False := yields_failAt _ _
  hnever.bind fun _ h => h.elim

/-- A piece of syntax with the parts of its kind. -/
theorem yields_node {kind : Kind} {parts : List Node} (start : Nat) (hfits : kind.fits parts)
    (hparts : ∀ part ∈ parts, part.legible) :
    Yields (node kind start parts) fun node => node.legible ∧ node.kind = kind :=
  .skip fun _ => .pure ⟨Node.legible_mk.2 ⟨hfits, hparts⟩, rfl⟩

/-- Such a piece is legible. -/
theorem yields_piece {kind : Kind} {parts : List Node} (start : Nat) (hfits : kind.fits parts)
    (hparts : ∀ part ∈ parts, part.legible) : Yields (node kind start parts) (·.legible) :=
  (yields_node start hfits hparts).mono fun _ h => h.1

theorem yields_none : Yields (pure Node.none) (·.legible) :=
  .pure rfl

/-- An attempt that fails yields nothing. -/
theorem yields_attempt {p : Parser (Option α)} (h : Yields p fun a? => ∀ a ∈ a?, good a) :
    Yields (attempt? p) fun a? => ∀ a ∈ a?, good a := by
  intro env henv s a? s' hrun
  unfold attempt? at hrun
  split at hrun
  · rename_i a s₁ heq
    cases hrun
    exact h env henv s _ _ heq
  · cases hrun
    simp
  · cases hrun
    simp

/-- All of many pieces are alike if each of them is. -/
theorem yields_many {piece : Parser Node} {good : Node → Prop} (more : Parser Bool)
    (h : Yields piece good) : Yields (many more piece) fun nodes => ∀ node ∈ nodes, good node := by
  have hgo : ∀ fuel found, (∀ node ∈ found, good node) →
      Yields (many.go more piece fuel found) fun nodes => ∀ node ∈ nodes, good node := by
    intro fuel
    induction fuel with
    | zero => exact fun found hfound => .pure (by simpa using hfound)
    | succ fuel ih =>
        intro found hfound
        refine .skip fun _ => .ite ?_ (.pure (by simpa using hfound))
        refine .bind h fun node hnode => ih _ ?_
        simpa using ⟨hnode, hfound⟩
  exact .skip fun _ => hgo _ [] (by simp)

theorem yields_upTo {piece : Parser Node} {good : Node → Prop} (close : String)
    (h : Yields piece good) : Yields (upTo close piece) fun nodes => ∀ node ∈ nodes, good node :=
  yields_many _ h

/-- So are all pieces between commas. -/
theorem yields_commaList {piece : Parser Node} {good : Node → Prop} (close : String)
    (h : Yields piece good) :
    Yields (commaList close piece) fun found => ∀ node ∈ found.1, good node := by
  have hgo : ∀ atEnd fuel found, (∀ node ∈ found, good node) →
      Yields (commaList.go close piece atEnd fuel found) fun found =>
        ∀ node ∈ found.1, good node := by
    intro atEnd fuel
    induction fuel with
    | zero => exact fun found hfound => .pure (by simpa using hfound)
    | succ fuel ih =>
        intro found hfound
        refine .bind h fun node hnode => ?_
        have hpieces : ∀ piece ∈ node :: found, good piece := by
          simpa using And.intro hnode hfound
        refine .skip fun _ => .ite (.pure (by simpa [or_imp, forall_and] using ⟨hfound, hnode⟩)) ?_
        refine .skip fun _ => .check ?_
        refine .skip fun _ => .skip fun _ => ?_
        refine .ite (.skip fun _ => .pure ?_) (ih _ hpieces)
        simpa [or_imp, forall_and] using ⟨hfound, hnode⟩
  refine .skip fun _ => .ite (.pure (by simp)) ?_
  exact .skip fun _ => hgo _ _ [] (by simp)

/-! ## At a token -/

/-- Whether all results of a parser have a property when it starts at a token that passes a test. -/
def YieldsAt {α : Type} (test : Lexeme → Prop) (p : Parser α) (good : α → Prop) : Prop :=
  ∀ env : ParserEnv, env.Sound → ∀ s, test s.token.lexeme → ∀ a s', p env s = .ok a s' → good a

theorem Yields.at (h : Yields p good) (test : Lexeme → Prop) : YieldsAt test p good :=
  fun env henv s _ a s' hrun => h env henv s a s' hrun

/-- The token that is looked at is the one that reading starts at. -/
theorem YieldsAt.lexeme {test : Lexeme → Prop} {f : Lexeme → Parser β}
    (hf : ∀ l, test l → YieldsAt (· = l) (f l) after) : YieldsAt test (lexeme >>= f) after :=
  fun env henv s htest b s' hrun => hf s.token.lexeme htest env henv s rfl b s' hrun

/-- A look at the place of a token leaves reading there. -/
theorem YieldsAt.startOffset {test : Lexeme → Prop} {f : Nat → Parser β}
    (hf : ∀ start, YieldsAt test (f start) after) : YieldsAt test (startOffset >>= f) after :=
  fun env henv s htest b s' hrun => hf s.token.span.start env henv s htest b s' hrun

/-- A complaint leaves reading where it is. -/
theorem YieldsAt.complain {test : Lexeme → Prop} {complaint : Complaint} {offset : Nat}
    {f : Unit → Parser β} (hf : YieldsAt test (f ()) after) :
    YieldsAt test (complainAt complaint offset >>= f) after :=
  fun env henv s htest b s' hrun =>
    hf env henv { s with problems := ⟨complaint, offset⟩ :: s.problems } htest b s' hrun

/-- The token that is looked at is the one that reading starts at. -/
theorem Yields.lexeme {f : Lexeme → Parser β} (hf : ∀ l, YieldsAt (· = l) (f l) after) :
    Yields (lexeme >>= f) after :=
  fun env henv s b s' hrun => hf s.token.lexeme env henv s rfl b s' hrun

end Parser

end JsxTidy
