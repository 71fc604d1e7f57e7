import JsxTidy.Printer.Comment

/-!
# Writing without descending

A printer is shallow when it writes no piece of syntax inside the current one: then it writes the
same wherever such pieces would be written from. Comments and indentation are written by shallow
printers.
-/

namespace JsxTidy.Printer

open Syntax

/-- Whether a printer does not depend on how the pieces inside the current one are written. -/
class Shallow {α : Type} (p : Printer α) : Prop where
  run_eq : ∀ env env' : PrinterEnv, p env = p env'

section Combinators

variable {α β : Type}

instance pure_shallow (a : α) : Shallow (pure a : Printer α) where
  run_eq _ _ := rfl

instance get_shallow : Shallow (get : Printer PrinterState) where
  run_eq _ _ := rfl

instance set_shallow (s : PrinterState) : Shallow (set s : Printer PUnit) where
  run_eq _ _ := rfl

instance modify_shallow (f : PrinterState → PrinterState) : Shallow (modify f : Printer PUnit) where
  run_eq _ _ := rfl

instance bind_shallow (p : Printer α) (f : α → Printer β) [hp : Shallow p]
    [hf : ∀ a, Shallow (f a)] : Shallow (p >>= f) where
  run_eq env env' := by
    show (p env >>= fun a => f a env) = (p env' >>= fun a => f a env')
    rw [hp.run_eq env env']
    exact congrArg _ (funext fun a => (hf a).run_eq env env')

instance ite_shallow (c : Prop) [Decidable c] (p q : Printer α) [Shallow p] [Shallow q] :
    Shallow (if c then p else q) := by
  split <;> infer_instance

instance forM_shallow (write : α → Printer Unit) [∀ a, Shallow (write a)] (l : List α) :
    Shallow (l.forM write) := by
  induction l with
  | nil => exact inferInstanceAs (Shallow (pure ()))
  | cons a l ih => exact inferInstanceAs (Shallow (write a >>= fun _ => l.forM write))

end Combinators

instance putChars_shallow (cs : List Char) : Shallow (putChars cs) :=
  modify_shallow _

instance putChar_shallow (c : Char) : Shallow (putChar c) :=
  modify_shallow _

instance newline_shallow : Shallow newline :=
  putChar_shallow '\n'

instance lastChar_shallow : Shallow lastChar := by
  unfold lastChar
  infer_instance

instance indentation_shallow : Shallow indentation := by
  unfold indentation
  infer_instance

instance commentLine_shallow (line : List Char) : Shallow (commentLine line) := by
  unfold commentLine
  infer_instance

instance comment_shallow (c : Comment) : Shallow (comment c) := by
  unfold comment
  infer_instance

instance takeComments_shallow (start : Nat) : Shallow (takeComments start) := by
  unfold takeComments
  infer_instance

instance firstComment_shallow (c : Comment) : Shallow (firstComment c) := by
  unfold firstComment
  dsimp only
  split
  · refine @bind_shallow _ _ _ _ inferInstance fun last => ?_
    split <;> infer_instance
  · infer_instance

instance laterComments_shallow (previous : Comment) (cs : List Comment) :
    Shallow (laterComments previous cs) := by
  induction cs generalizing previous with
  | nil => exact pure_shallow ()
  | cons c rest ih =>
      unfold laterComments
      infer_instance

instance leadingComments_shallow (cs : List Comment) : Shallow (leadingComments cs) := by
  cases cs with
  | nil => exact pure_shallow ()
  | cons first others =>
      unfold leadingComments
      infer_instance

instance commentsAt_shallow (start : Nat) : Shallow (commentsAt start) := by
  unfold commentsAt
  infer_instance

end JsxTidy.Printer
