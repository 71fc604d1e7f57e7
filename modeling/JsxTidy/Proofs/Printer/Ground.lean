import JsxTidy.Printer.Basic

/-!
# Writing on different grounds

What a printer writes depends on the text before it only through its last character and through
marks that stand at its end. A ground consists of two texts that end in the same character, and two
states are level over a ground when they continue its two texts in the same way.
-/

namespace JsxTidy.Printer

namespace PrinterState

/-- The text so far. -/
def text (s : PrinterState) : List Char :=
  s.reversed.reverse

/-- The state after some more characters. -/
def append (s : PrinterState) (cs : List Char) : PrinterState :=
  { s with reversed := cs.reverse ++ s.reversed, length := s.length + cs.length }

@[simp] theorem text_append (s : PrinterState) (cs : List Char) :
    (s.append cs).text = s.text ++ cs := by
  simp [text, append]

@[simp] theorem append_append (s : PrinterState) (cs cs' : List Char) :
    (s.append cs).append cs' = s.append (cs ++ cs') := by
  simp [append, Nat.add_assoc]

end PrinterState

/-- Two texts, each with its last character first, that end in the same character. -/
structure Ground where
  left : List Char
  right : List Char
  head : left.head? = right.head?

namespace Ground

/-- Two marks stand at the same place behind the texts of a ground, if they stand behind them, and
the first one stands nowhere behind `length`. What `mark` gives is the mark at a place. -/
structure Marks {α : Type} (g : Ground) (length : Nat) (mark : Nat → α) (m₁ m₂ : Option α) :
    Prop where
  same : ∀ k, m₁ = some (mark (g.left.length + k)) ↔ m₂ = some (mark (g.right.length + k))
  le : ∀ n, m₁ = some (mark n) → n ≤ length

section Marks

variable {α : Type} {g g' : Ground} {length length' n : Nat} {mark : Nat → α} {m₁ m₂ : Option α}

theorem Marks.mono (h : g.Marks length mark m₁ m₂) (hle : length ≤ length') :
    g.Marks length' mark m₁ m₂ :=
  ⟨h.same, fun n hn => Nat.le_trans (h.le n hn) hle⟩

/-- Marks keep their place behind the texts of a ground that is further on. -/
theorem Marks.advance (h : g.Marks length mark m₁ m₂)
    (hleft : g'.left.length = g.left.length + n) (hright : g'.right.length = g.right.length + n) :
    g'.Marks length mark m₁ m₂ := by
  refine ⟨fun k => ?_, h.le⟩
  rw [hleft, hright, Nat.add_assoc, Nat.add_assoc]
  exact h.same (n + k)

/-- Marks that stand nowhere behind the texts of a ground are no marks on it. -/
theorem Marks.behind (h : g.Marks (g.left.length + n) mark m₁ m₂)
    (hleft : g.left.length + n < g'.left.length) (hright : g.right.length + n < g'.right.length) :
    g'.Marks g'.left.length mark m₁ m₂ := by
  refine ⟨fun k => ⟨fun hm => ?_, fun hm => ?_⟩, (h.mono (Nat.le_of_lt hleft)).le⟩
  · have hle := h.le _ hm
    omega
  · obtain ⟨j, hj⟩ := Nat.exists_eq_add_of_lt hright
    have hplace : g'.right.length + k = g.right.length + (n + j + 1 + k) := by omega
    rw [hplace] at hm
    have hle := h.le _ ((h.same (n + j + 1 + k)).2 hm)
    omega

end Marks

/-- Two states continue the texts of a ground in the same way. -/
structure Level (g : Ground) (s₁ s₂ : PrinterState) : Prop where
  /-- The same text is written on both grounds. -/
  text : ∃ written, s₁.reversed = written ++ g.left ∧ s₂.reversed = written ++ g.right
  length₁ : s₁.length = s₁.reversed.length
  length₂ : s₂.length = s₂.reversed.length
  depth : s₁.depth = s₂.depth
  indentAsSpace : s₁.indentAsSpace = s₂.indentAsSpace
  comments : s₁.comments = s₂.comments
  statementMark : g.Marks s₁.length id s₁.statementMark s₂.statementMark
  arrowMark : g.Marks s₁.length id s₁.arrowMark s₂.arrowMark
  exportMark : g.Marks s₁.length id s₁.exportMark s₂.exportMark
  regExpMark : g.Marks s₁.length id s₁.regExpMark s₂.regExpMark
  integerMark : g.Marks s₁.length id s₁.integerMark s₂.integerMark
  signMark : ∀ sign, g.Marks s₁.length (Prod.mk sign) s₁.signMark s₂.signMark

end Ground

/-! ## Level states -/

namespace Ground.Level

variable {g : Ground} {s₁ s₂ : PrinterState}

/-- Level states end in the same character. -/
theorem head_eq (h : g.Level s₁ s₂) : s₁.reversed.head? = s₂.reversed.head? := by
  obtain ⟨written, h₁, h₂⟩ := h.text
  rw [h₁, h₂]
  cases written with
  | nil => exact g.head
  | cons c rest => rfl

/-- Level states stay level when the same characters are written. -/
theorem append (h : g.Level s₁ s₂) (cs : List Char) : g.Level (s₁.append cs) (s₂.append cs) := by
  obtain ⟨written, h₁, h₂⟩ := h.text
  have hle : s₁.length ≤ s₁.length + cs.length := Nat.le_add_right _ _
  exact { h with
    text := ⟨cs.reverse ++ written, by simp [PrinterState.append, h₁],
      by simp [PrinterState.append, h₂]⟩
    length₁ := by simp [PrinterState.append, h.length₁, Nat.add_comm]
    length₂ := by simp [PrinterState.append, h.length₂, Nat.add_comm]
    statementMark := h.statementMark.mono hle
    arrowMark := h.arrowMark.mono hle
    exportMark := h.exportMark.mono hle
    regExpMark := h.regExpMark.mono hle
    integerMark := h.integerMark.mono hle
    signMark := fun sign => (h.signMark sign).mono hle }

/-- The ends of level states stand at the same place behind the texts of the ground. -/
theorem lengths (h : g.Level s₁ s₂) :
    ∃ written, s₁.length = g.left.length + written ∧ s₂.length = g.right.length + written := by
  obtain ⟨written, h₁, h₂⟩ := h.text
  refine ⟨written.length, ?_, ?_⟩
  · rw [h.length₁, h₁, List.length_append, Nat.add_comm]
  · rw [h.length₂, h₂, List.length_append, Nat.add_comm]

theorem end_marks (h : g.Level s₁ s₂) :
    g.Marks s₁.length id (some s₁.length) (some s₂.length) := by
  obtain ⟨written, hlength₁, hlength₂⟩ := h.lengths
  refine ⟨fun k => ?_, fun n hn => Nat.le_of_eq (Option.some.inj hn).symm⟩
  simp only [hlength₁, hlength₂, Option.some.injEq, id_eq]
  omega

/-- Whether a mark stands at the end is the same in level states. -/
theorem isHere_eq (h : g.Level s₁ s₂) {m₁ m₂ : Option Nat}
    (hmarks : g.Marks s₁.length id m₁ m₂) : (m₁ == some s₁.length) = (m₂ == some s₂.length) := by
  obtain ⟨written, hlength₁, hlength₂⟩ := h.lengths
  rw [Bool.eq_iff_iff, beq_iff_eq, beq_iff_eq, hlength₁, hlength₂]
  exact hmarks.same written

/-- Level states are level over the ground of their own texts. -/
theorem restart (h : g.Level s₁ s₂) :
    Ground.Level ⟨s₁.reversed, s₂.reversed, h.head_eq⟩ s₁ s₂ := by
  obtain ⟨n, hlength₁, hlength₂⟩ := h.lengths
  have hleft : s₁.reversed.length = g.left.length + n := by rw [← h.length₁, hlength₁]
  have hright : s₂.reversed.length = g.right.length + n := by rw [← h.length₂, hlength₂]
  exact { h with
    text := ⟨[], rfl, rfl⟩
    statementMark := h.statementMark.advance hleft hright
    arrowMark := h.arrowMark.advance hleft hright
    exportMark := h.exportMark.advance hleft hright
    regExpMark := h.regExpMark.advance hleft hright
    integerMark := h.integerMark.advance hleft hright
    signMark := fun sign => (h.signMark sign).advance hleft hright }

/-- Level states stay level, over another ground, when different characters are written that end in
the same one. -/
theorem diverge (h : g.Level s₁ s₂) {c : Char} {cs₁ cs₂ : List Char}
    (h₁ : cs₁.getLast? = some c) (h₂ : cs₂.getLast? = some c) :
    ∃ g' : Ground, g'.Level (s₁.append cs₁) (s₂.append cs₂) := by
  obtain ⟨n, hlength₁, hlength₂⟩ := h.lengths
  have hhead : (s₁.append cs₁).reversed.head? = (s₂.append cs₂).reversed.head? := by
    simp [PrinterState.append, h₁, h₂]
  have hreversed₁ : (s₁.append cs₁).length = (s₁.append cs₁).reversed.length := by
    simp [PrinterState.append, h.length₁, Nat.add_comm]
  have hreversed₂ : (s₂.append cs₂).length = (s₂.append cs₂).reversed.length := by
    simp [PrinterState.append, h.length₂, Nat.add_comm]
  have hpositive₁ : 0 < cs₁.length := List.length_pos_of_mem (List.mem_of_getLast? h₁)
  have hpositive₂ : 0 < cs₂.length := List.length_pos_of_mem (List.mem_of_getLast? h₂)
  have hleft : g.left.length + n < (s₁.append cs₁).reversed.length := by
    rw [← hreversed₁, ← hlength₁]
    exact Nat.lt_add_of_pos_right hpositive₁
  have hright : g.right.length + n < (s₂.append cs₂).reversed.length := by
    rw [← hreversed₂, ← hlength₂]
    exact Nat.lt_add_of_pos_right hpositive₂
  have hmarks : ∀ {α : Type} {mark : Nat → α} {m₁ m₂ : Option α},
      g.Marks s₁.length mark m₁ m₂ →
        Ground.Marks ⟨_, _, hhead⟩ (s₁.append cs₁).length mark m₁ m₂ := by
    intro α mark m₁ m₂ hm
    rw [hreversed₁]
    exact Marks.behind (hlength₁ ▸ hm) hleft hright
  exact ⟨⟨_, _, hhead⟩, { h with
    text := ⟨[], rfl, rfl⟩
    length₁ := hreversed₁
    length₂ := hreversed₂
    statementMark := hmarks h.statementMark
    arrowMark := hmarks h.arrowMark
    exportMark := hmarks h.exportMark
    regExpMark := hmarks h.regExpMark
    integerMark := hmarks h.integerMark
    signMark := fun sign => hmarks (h.signMark sign) }⟩

end Ground.Level

end JsxTidy.Printer
