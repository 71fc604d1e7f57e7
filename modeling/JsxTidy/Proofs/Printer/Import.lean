import JsxTidy.Proofs.Import.Marker
import JsxTidy.Proofs.Printer.Statements

/-!
# Writing imports with markers

A marker is written as it is, since a string escapes none of its characters. So an import with a
marker is written as one statement on a line of its own, and its source is the marker.
-/

namespace JsxTidy.Printer

open Syntax VerbatimImport

/-- Whether a printer appends a text and does nothing else. -/
def Puts (env : PrinterEnv) (p : Printer Unit) (cs : List Char) : Prop :=
  ∀ s, p env s = ((), s.append cs)

section Puts

variable {env : PrinterEnv} {p q : Printer Unit} {cs cs' : List Char}

theorem puts_pure : Puts env (pure ()) [] := fun _ => rfl

theorem puts_putChars (cs : List Char) : Puts env (putChars cs) cs := fun _ => rfl

theorem puts_putChar (c : Char) : Puts env (putChar c) [c] := fun _ => rfl

theorem puts_put (text : String) : Puts env (put text) text.toList := fun _ => rfl

/-- What two printers put comes one behind the other. -/
theorem Puts.bind (hp : Puts env p cs) (hq : Puts env q cs') :
    Puts env (p >>= fun _ => q) (cs ++ cs') := by
  intro s
  show q env (p env s).2 = _
  rw [hp s, hq, PrinterState.append_append]

theorem Puts.congr (hp : Puts env p cs) (h : cs = cs') : Puts env p cs' := h ▸ hp

theorem puts_putIf (wanted : Bool) (text : String) :
    Puts env (putIf wanted text) (if wanted then text.toList else []) := by
  cases wanted with
  | true => exact puts_put text
  | false => exact puts_pure

/-- A piece that is missing puts nothing. -/
theorem puts_optionally (node : Node) (hp : Puts env p cs) :
    Puts env (optionally node p) (if node.isPresent then cs else []) := by
  unfold optionally
  split
  · exact hp
  · exact puts_pure

end Puts

/-! ## Markers in quotes -/

/-- Letters, digits and underscores need no escape. -/
theorem escapeOf?_eq_none {c : Char} {rest : List Char} (h : c.isAlphanum ∨ c = '_') :
    escapeOf? c rest = none := by
  unfold escapeOf?
  split
  all_goals first | rfl | exact absurd h (by decide)

/-- A string of letters, digits and underscores is written as it is. -/
theorem quoted_eq_self {lone : Bool} {cs : List Char} (h : ∀ c ∈ cs, c.isAlphanum ∨ c = '_') :
    quoted lone cs = cs := by
  fun_induction quoted lone cs with
  | case1 => rfl
  | case2 | case3 | case4 => exact absurd (h '\uFFFD' (by simp)) (by decide)
  | case5 c rest _ hscript =>
      have hc : c = '<' := by simpa using (Bool.and_eq_true_iff.1 hscript).1
      exact absurd (h c (by simp)) (by rw [hc]; decide)
  | case6 c rest _ _ escape hescape =>
      rw [escapeOf?_eq_none (h c (by simp))] at hescape
      cases hescape
  | case7 c rest _ _ _ ih => rw [ih fun d hd => h d (by simp [hd])]

/-- A marker has no other characters. -/
theorem isAlphanum_of_mem_markerOf {salt index : Nat} :
    ∀ c ∈ markerOf salt index, c.isAlphanum ∨ c = '_' := by
  have hstart : markerStart.all fun c => c.isAlphanum || c == '_' := by decide
  intro c hc
  simp only [markerOf_eq, markerStem, List.mem_append, List.mem_replicate] at hc
  rcases hc with (hc | ⟨_, rfl⟩) | hc | hc
  · simpa using List.all_eq_true.1 hstart c hc
  · exact .inl (by decide)
  · exact .inl (by simp [Char.isAlphanum, Nat.isDigit_of_mem_toDigits (by decide) (by decide) hc])
  · exact .inr (by simpa using hc)

/-! ## Statements with markers -/

/-- What an import says in front of its source. -/
def openingOf (isType : Bool) (phase : ImportPhase) (clause : Node) : ImportOpening :=
  ⟨isType, phase, clause.isPresent⟩

/-- Nothing in braces is written for an empty list of specifiers. -/
theorem puts_importClause_nil {env : PrinterEnv} : Puts env (importClause []) "\x7b\x7d".toList :=
  fun _ => rfl

/-- A string is written in double quotes. -/
theorem puts_string (depth : Nat) (value : String) (lone : Bool) (span : Span) :
    Puts ⟨write (depth + 1)⟩ (part (.mk (.string value lone) span []))
      ('"' :: (quoted lone value.toList ++ ['"'])) := by
  have hrule : part (.mk (.string value lone) span []) ⟨write (depth + 1)⟩ =
      stringLiteral value lone ⟨write depth⟩ := rfl
  have hliteral : Puts ⟨write depth⟩ (stringLiteral value lone) _ :=
    (puts_putChar '"').bind ((puts_putChars (quoted lone value.toList)).bind (puts_putChar '"'))
  intro s
  rw [hrule]
  exact hliteral s

/-- A string with a marker is written as the marker in quotes. -/
theorem puts_marker (depth salt index : Nat) (span : Span) :
    Puts ⟨write (depth + 1)⟩
      (part (.mk (.string (String.ofList (markerOf salt index)) false) span []))
      ('"' :: (markerOf salt index ++ ['"'])) := by
  refine (puts_string depth _ false span).congr ?_
  rw [String.toList_ofList, quoted_eq_self isAlphanum_of_mem_markerOf]

/-- An import with a marker is written as one statement on a line of its own. -/
theorem puts_markedImport (depth salt index : Nat) (original : List Char) {clause : Node}
    (hclause : clause.parts = []) (isType : Bool) (phase : ImportPhase) (span : Span) :
    Puts ⟨write (depth + 1)⟩
      (importDeclaration isType phase clause
        (.mk (.string (String.ofList (markerOf salt index)) false) span []) .none)
      (markedStatement (openingOf isType phase clause) ⟨markerOf salt index, original⟩ ++
        ['\n']) := by
  have hend : Puts ⟨write (depth + 1)⟩ (do attributesBehind .none; endStatement) [';', '\n'] :=
    puts_pure.bind (puts_put ";\n")
  have hbehind := (puts_optionally clause (puts_importClause_nil.bind (puts_put " from "))).bind
    ((puts_marker depth salt index span).bind hend)
  unfold importDeclaration
  rw [hclause]
  dsimp only
  cases phase with
  | evaluation =>
      have hall := (puts_put "import ").bind ((puts_putIf isType "type ").bind
        (puts_pure.bind hbehind))
      refine hall.congr ?_
      unfold markedStatement ImportOpening.text openingOf
      cases isType <;> cases clause.isPresent <;> simp
  | deferred =>
      have hall := (puts_put "import ").bind ((puts_putIf isType "type ").bind
        ((puts_put "defer ").bind hbehind))
      refine hall.congr ?_
      unfold markedStatement ImportOpening.text openingOf
      cases isType <;> cases clause.isPresent <;> simp
  | source =>
      have hall := (puts_put "import ").bind ((puts_putIf isType "type ").bind
        ((puts_put "source ").bind hbehind))
      refine hall.congr ?_
      unfold markedStatement ImportOpening.text openingOf
      cases isType <;> cases clause.isPresent <;> simp

end JsxTidy.Printer
