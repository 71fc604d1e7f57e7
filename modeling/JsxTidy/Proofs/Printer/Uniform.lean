import JsxTidy.Printer.Comment
import JsxTidy.Proofs.Printer.Ground

/-!
# Writing the same on different grounds

A printer is uniform when it keeps states level: it then appends to the text, and what it appends
does not depend on the text that was there. Uniform printers can be put together. Every printer is
shown to be uniform, beginning with the basic ones.
-/

namespace JsxTidy.Printer

open Syntax

/-- Whether an action answers the same in level states and keeps them level. -/
def KeepsLevel {α : Type} (action : StateM PrinterState α) : Prop :=
  ∀ (g : Ground) (s₁ s₂ : PrinterState), g.Level s₁ s₂ →
    (action s₁).1 = (action s₂).1 ∧ g.Level (action s₁).2 (action s₂).2

/-- Whether the pieces inside the current one are written in the same way on all grounds. -/
def PrinterEnv.KeepsLevel (env : PrinterEnv) : Prop :=
  ∀ place node, Printer.KeepsLevel (env.descend place node)

/-- Whether a printer writes the same on all grounds. -/
class Uniform {α : Type} (p : Printer α) : Prop where
  keepsLevel : ∀ env : PrinterEnv, env.KeepsLevel → KeepsLevel (p env)

section Combinators

variable {α β : Type}

instance pure_uniform (a : α) : Uniform (pure a : Printer α) where
  keepsLevel _ _ _ _ _ h := ⟨rfl, h⟩

instance bind_uniform (p : Printer α) (f : α → Printer β) [hp : Uniform p]
    [hf : ∀ a, Uniform (f a)] : Uniform (p >>= f) where
  keepsLevel env henv g s₁ s₂ h := by
    obtain ⟨hanswer, hlevel⟩ := hp.keepsLevel env henv g s₁ s₂ h
    have hrest := (hf (p env s₁).1).keepsLevel env henv g _ _ hlevel
    show (f (p env s₁).1 env (p env s₁).2).1 = (f (p env s₂).1 env (p env s₂).2).1 ∧
      g.Level (f (p env s₁).1 env (p env s₁).2).2 (f (p env s₂).1 env (p env s₂).2).2
    rw [← hanswer]
    exact hrest

instance ite_uniform (c : Prop) [Decidable c] (p q : Printer α) [Uniform p] [Uniform q] :
    Uniform (if c then p else q) := by
  split <;> infer_instance

instance seqRight_uniform (p : Printer α) (q : Printer β) [Uniform p] [Uniform q] :
    Uniform (p *> q) :=
  inferInstanceAs (Uniform (p >>= fun _ => q))

instance forM_uniform (write : α → Printer Unit) [∀ a, Uniform (write a)] (l : List α) :
    Uniform (l.forM write) := by
  induction l with
  | nil => exact inferInstanceAs (Uniform (pure ()))
  | cons a l ih => exact inferInstanceAs (Uniform (write a >>= fun _ => l.forM write))

instance anyM_uniform (test : α → Printer Bool) [∀ a, Uniform (test a)] (l : List α) :
    Uniform (l.anyM test) := by
  induction l with
  | nil => exact inferInstanceAs (Uniform (pure false))
  | cons a l ih =>
      rw [List.anyM_cons]
      infer_instance

/-- An action on the state is uniform when it keeps states level. -/
theorem modify_uniform (f : PrinterState → PrinterState)
    (h : ∀ (g : Ground) s₁ s₂, g.Level s₁ s₂ → g.Level (f s₁) (f s₂)) :
    Uniform (modify f : Printer Unit) where
  keepsLevel _ _ g s₁ s₂ hlevel := ⟨rfl, h g s₁ s₂ hlevel⟩

/-- What a printer learns from the state may decide what it writes when level states teach it the
same. -/
theorem get_uniform (f : PrinterState → Printer α) (read : PrinterState → β) (k : β → Printer α)
    (hf : ∀ env s, f s env s = k (read s) env s)
    (hread : ∀ (g : Ground) s₁ s₂, g.Level s₁ s₂ → read s₁ = read s₂) [hk : ∀ b, Uniform (k b)] :
    Uniform (get >>= f) where
  keepsLevel env henv g s₁ s₂ h := by
    have hrest := (hk (read s₁)).keepsLevel env henv g s₁ s₂ h
    show (f s₁ env s₁).1 = (f s₂ env s₂).1 ∧ g.Level (f s₁ env s₁).2 (f s₂ env s₂).2
    rw [hf, hf, ← hread g s₁ s₂ h]
    exact hrest

end Combinators

/-! ## The basic printers -/

instance child_uniform (place : Place) (node : Node) : Uniform (child place node) where
  keepsLevel _ henv := henv place node

instance part_uniform (node : Node) : Uniform (part node) :=
  child_uniform .loose node

instance putChars_uniform (cs : List Char) : Uniform (putChars cs) :=
  modify_uniform _ fun _ _ _ h => h.append cs

instance putChar_uniform (c : Char) : Uniform (putChar c) :=
  modify_uniform _ fun _ _ _ h => h.append [c]

instance put_uniform (text : String) : Uniform (put text) :=
  putChars_uniform text.toList

instance newline_uniform : Uniform newline :=
  putChar_uniform '\n'

instance endStatement_uniform : Uniform endStatement :=
  put_uniform ";\n"

instance putIf_uniform (wanted : Bool) (text : String) : Uniform (putIf wanted text) := by
  unfold putIf
  infer_instance

instance lastChar_uniform : Uniform lastChar :=
  get_uniform _ (fun s => s.reversed.head?) pure (fun _ _ => rfl) fun _ _ _ h => h.head_eq

/-- Writes the space or the tabulators of an indentation. -/
def indentationOf (isSpace : Bool) (depth : Nat) : Printer Unit :=
  if isSpace then do
    modify fun s => { s with indentAsSpace := false }
    putChar ' '
  else putChars (List.replicate depth '\t')

instance indentationOf_uniform (isSpace : Bool) (depth : Nat) :
    Uniform (indentationOf isSpace depth) := by
  have hmodify : Uniform (modify fun s => { s with indentAsSpace := false } : Printer Unit) :=
    modify_uniform _ fun _ _ _ h => { h with indentAsSpace := rfl }
  unfold indentationOf
  infer_instance

instance indentation_uniform : Uniform indentation := by
  refine get_uniform _ (fun s => (s.indentAsSpace, s.depth)) (fun r => indentationOf r.1 r.2) ?_ ?_
  · intro env s
    unfold indentationOf
    dsimp only
    split <;> rfl
  · intro g s₁ s₂ h
    rw [h.indentAsSpace, h.depth]

instance deeper_uniform (inner : Printer Unit) [Uniform inner] : Uniform (deeper inner) := by
  have hin : Uniform (modify fun s => { s with depth := s.depth + 1 } : Printer Unit) :=
    modify_uniform _ fun _ _ _ h => { h with depth := congrArg (· + 1) h.depth }
  have hout : Uniform (modify fun s => { s with depth := s.depth - 1 } : Printer Unit) :=
    modify_uniform _ fun _ _ _ h => { h with depth := congrArg (· - 1) h.depth }
  unfold deeper
  infer_instance

instance wrapped_uniform (wanted : Bool) (inner : Printer Unit) [Uniform inner] :
    Uniform (wrapped wanted inner) := by
  unfold wrapped
  infer_instance

instance braces_uniform (isEmpty : Bool) (inner : Printer Unit) [Uniform inner] :
    Uniform (braces isEmpty inner) := by
  unfold braces
  infer_instance

/-- Whether a mark stands at the end is the same on all grounds. -/
theorem isHere_uniform {α : Type} (mark : PrinterState → Option Nat)
    (hmark : ∀ (g : Ground) s₁ s₂, g.Level s₁ s₂ → g.Marks s₁.length id (mark s₁) (mark s₂))
    (k : Bool → Printer α) [∀ here, Uniform (k here)] :
    Uniform (get >>= fun s => isHere (mark s) >>= k) :=
  get_uniform _ (fun s => mark s == some s.length) k (fun _ _ => rfl)
    fun g s₁ s₂ h => h.isHere_eq (hmark g s₁ s₂ h)

section Marks

variable {α : Type} (k : Bool → Printer α) [∀ here, Uniform (k here)]

instance statementMark_uniform : Uniform (get >>= fun s => isHere s.statementMark >>= k) :=
  isHere_uniform _ (fun _ _ _ h => h.statementMark) k

instance arrowMark_uniform : Uniform (get >>= fun s => isHere s.arrowMark >>= k) :=
  isHere_uniform _ (fun _ _ _ h => h.arrowMark) k

instance exportMark_uniform : Uniform (get >>= fun s => isHere s.exportMark >>= k) :=
  isHere_uniform _ (fun _ _ _ h => h.exportMark) k

instance integerMark_uniform : Uniform (get >>= fun s => isHere s.integerMark >>= k) :=
  isHere_uniform _ (fun _ _ _ h => h.integerMark) k

end Marks

/-- Writes a space behind a part of a word or behind a regular expression. -/
def spaceBehind (last : Option Char) (behindRegExp : Bool) : Printer Unit :=
  match last with
  | none => pure ()
  | some c => if Text.isIdentifierPart c || behindRegExp then putChar ' ' else pure ()

instance spaceBehind_uniform (last : Option Char) (behindRegExp : Bool) :
    Uniform (spaceBehind last behindRegExp) := by
  unfold spaceBehind
  split <;> infer_instance

instance spaceBeforeWord_uniform : Uniform spaceBeforeWord := by
  refine get_uniform _ (fun s => (s.reversed.head?, s.regExpMark == some s.length))
    (fun r => spaceBehind r.1 r.2) ?_ ?_
  · intro env s
    cases hreversed : s.reversed <;> rfl
  · intro g s₁ s₂ h
    rw [h.head_eq, h.isHere_eq h.regExpMark]

instance word_uniform (text : String) : Uniform (word text) := by
  unfold word
  infer_instance

instance rememberSign_uniform (sign : Sign) : Uniform (rememberSign sign) := by
  refine modify_uniform _ fun g s₁ s₂ h => { h with signMark := fun other => ⟨fun k => ?_, ?_⟩ }
  · have hend := h.end_marks.same k
    simp only [Option.some.injEq, Prod.mk.injEq, id_eq] at hend ⊢
    rw [hend]
  · rintro n ⟨⟩
    exact Nat.le_refl _

/-- The last sign, if it stands at the end of the text. -/
def signHere? (s : PrinterState) : Option Sign :=
  match s.signMark with
  | some (sign, mark) => if mark == s.length then some sign else none
  | none => none

theorem signHere?_eq_some_iff {s : PrinterState} {sign : Sign} :
    signHere? s = some sign ↔ s.signMark = some (sign, s.length) := by
  unfold signHere?
  cases s.signMark with
  | none => simp
  | some marked =>
      obtain ⟨other, mark⟩ := marked
      by_cases hmark : mark = s.length <;> simp [hmark]

theorem Ground.Level.signHere?_eq {g : Ground} {s₁ s₂ : PrinterState} (h : g.Level s₁ s₂) :
    signHere? s₁ = signHere? s₂ := by
  refine Option.ext fun sign => ?_
  obtain ⟨written, hlength₁, hlength₂⟩ := h.lengths
  rw [signHere?_eq_some_iff, signHere?_eq_some_iff, hlength₁, hlength₂]
  exact (h.signMark sign).same written

/-- Writes a space behind a sign that would run into the next one. -/
def spaceBehindSign (last : Option Sign) (next : Sign) : Printer Unit :=
  match last with
  | some sign => if sign.runsInto next then putChar ' ' else pure ()
  | none => pure ()

instance spaceBehindSign_uniform (last : Option Sign) (next : Sign) :
    Uniform (spaceBehindSign last next) := by
  unfold spaceBehindSign
  split <;> infer_instance

instance spaceBeforeSign_uniform (next : Sign) : Uniform (spaceBeforeSign next) := by
  refine get_uniform _ signHere? (fun last => spaceBehindSign last next) ?_
    fun _ _ _ h => h.signHere?_eq
  intro env s
  unfold signHere?
  cases s.signMark with
  | none => rfl
  | some marked =>
      obtain ⟨last, mark⟩ := marked
      by_cases hmark : mark = s.length
      · simp [spaceBehindSign, hmark]
      · simp [spaceBehindSign, hmark]

instance separated_uniform (between : Printer Unit) (write : Node → Printer Unit)
    [Uniform between] [∀ node, Uniform (write node)] (nodes : List Node) :
    Uniform (separated between write nodes) := by
  induction nodes with
  | nil => exact pure_uniform ()
  | cons node rest ih =>
      cases rest with
      | nil => exact inferInstanceAs (Uniform (write node))
      | cons next rest =>
          unfold separated
          infer_instance

instance commaSeparated_uniform (write : Node → Printer Unit) [∀ node, Uniform (write node)]
    (nodes : List Node) : Uniform (commaSeparated write nodes) := by
  unfold commaSeparated
  infer_instance

instance lines_uniform (write : Node → Printer Unit) [∀ node, Uniform (write node)]
    (nodes : List Node) : Uniform (lines write nodes) := by
  unfold lines
  infer_instance

instance optionally_uniform (node : Node) (write : Printer Unit) [Uniform write] :
    Uniform (optionally node write) := by
  unfold optionally
  infer_instance

/-! ## Comments -/

instance commentLine_uniform (line : List Char) : Uniform (commentLine line) := by
  unfold commentLine
  infer_instance

instance comment_uniform (c : Comment) : Uniform (comment c) := by
  unfold comment
  infer_instance

instance hasComments_uniform (start : Nat) : Uniform (hasComments start) := by
  refine get_uniform _ (fun s => s.comments.any fun c => c.leads? == some start) pure
    (fun _ _ => rfl) fun _ _ _ h => ?_
  rw [h.comments]

instance takeComments_uniform (start : Nat) : Uniform (takeComments start) where
  keepsLevel env _ g s₁ s₂ h := by
    have htake : ∀ s, takeComments start env s =
        ((s.comments.partition fun c => c.leads? == some start).1,
          { s with comments := (s.comments.partition fun c => c.leads? == some start).2 }) :=
      fun _ => rfl
    rw [htake, htake]
    exact ⟨by rw [h.comments], { h with comments := by rw [h.comments] }⟩

instance firstComment_uniform (c : Comment) : Uniform (firstComment c) := by
  unfold firstComment
  dsimp only
  split
  · refine @bind_uniform _ _ _ _ inferInstance fun last => ?_
    split <;> infer_instance
  · infer_instance

instance laterComments_uniform (previous : Comment) (cs : List Comment) :
    Uniform (laterComments previous cs) := by
  induction cs generalizing previous with
  | nil => exact pure_uniform ()
  | cons c rest ih =>
      unfold laterComments
      infer_instance

instance leadingComments_uniform (cs : List Comment) : Uniform (leadingComments cs) := by
  have hspace : Uniform (modify fun s => { s with indentAsSpace := true } : Printer Unit) :=
    modify_uniform _ fun _ _ _ h => { h with indentAsSpace := rfl }
  cases cs with
  | nil => exact pure_uniform ()
  | cons first others =>
      unfold leadingComments
      infer_instance

instance commentsAt_uniform (start : Nat) : Uniform (commentsAt start) := by
  unfold commentsAt
  infer_instance

instance argumentComments_uniform (start : Nat) : Uniform (argumentComments start) := by
  unfold argumentComments
  infer_instance

end JsxTidy.Printer
