import JsxTidy.Proofs.Import.Misplaced

/-!
# When imports are put back in their own places

A program with markers is printed as a row of pieces, some of which are imports with markers. The
main result, `restore_eq_iff`, says exactly when restoring the imports gives the text with the
original imports in their own places: when no marker occurs in what stands before its import.
-/

namespace JsxTidy

open VerbatimImport

/-- A stretch of a printed program: text that stays, or the statement of an import that keeps the
text it was read from. -/
inductive Piece where
  | plain (text : List Char)
  | bare (opening : ImportOpening) (import' : VerbatimImport)

namespace Piece

/-- A piece with the marker of its import. -/
def marked : Piece → List Char
  | plain text => text
  | bare opening import' => markedStatement opening import'

/-- A piece with the original text of its import. -/
def kept : Piece → List Char
  | plain text => text
  | bare _ import' => closed import'.original

/-- The import of a piece, if it is one. -/
def import? : Piece → Option VerbatimImport
  | plain _ => none
  | bare _ import' => some import'

/-- Pieces with markers. -/
def markedText (pieces : List Piece) : List Char :=
  pieces.flatMap marked

/-- Pieces with the original texts of their imports. -/
def keptText (pieces : List Piece) : List Char :=
  pieces.flatMap kept

/-- The imports of some pieces. -/
def imports (pieces : List Piece) : List VerbatimImport :=
  pieces.filterMap import?

section Append

variable (front back : List Piece)

@[simp] theorem markedText_append :
    markedText (front ++ back) = markedText front ++ markedText back := List.flatMap_append

@[simp] theorem keptText_append :
    keptText (front ++ back) = keptText front ++ keptText back := List.flatMap_append

@[simp] theorem imports_append : imports (front ++ back) = imports front ++ imports back :=
  List.filterMap_append

end Append

@[simp] theorem markedText_cons (piece : Piece) (back : List Piece) :
    markedText (piece :: back) = piece.marked ++ markedText back := rfl

@[simp] theorem keptText_cons (piece : Piece) (back : List Piece) :
    keptText (piece :: back) = piece.kept ++ keptText back := rfl

@[simp] theorem imports_cons_plain (text : List Char) (back : List Piece) :
    imports (plain text :: back) = imports back := rfl

@[simp] theorem imports_cons_bare (opening : ImportOpening) (import' : VerbatimImport)
    (back : List Piece) : imports (bare opening import' :: back) = import' :: imports back := rfl

/-- Whether no marker occurs in what stands before its import when all imports before that have
their original texts. -/
def Unmistakable (pieces : List Piece) : Prop :=
  ∀ front opening import' back, pieces = front ++ bare opening import' :: back →
    ¬ import'.marker <:+: keptText front

variable {pieces front back : List Piece} {opening : ImportOpening} {import' : VerbatimImport}

/-! ## Own places -/

theorem Unmistakable.of_append (h : Unmistakable (front ++ back)) : Unmistakable front := by
  rintro left opening import' right rfl
  exact h left opening import' (right ++ back) (by simp)

/-- The first imports are put back in their own places, when no marker occurs before its import. -/
theorem Unmistakable.restore_front (h : Unmistakable front) (hfit : Fit (imports front))
    (rest : List Char) :
    restore (imports front) (markedText front ++ rest) = keptText front ++ rest := by
  induction front using List.reverseRecOn generalizing rest with
  | nil => rfl
  | append_singleton front piece ih =>
      rw [imports_append] at hfit
      have hfront := ih h.of_append hfit.of_append_left
      cases piece with
      | plain text =>
          have hsame : imports (front ++ [plain text]) = imports front := by
            simp [imports, import?]
          rw [hsame, markedText_append, keptText_append, List.append_assoc, List.append_assoc,
            hfront]
          rfl
      | bare opening import' =>
          have hmarker : IsMarker import'.marker :=
            hfit.isMarker import' (by simp [imports, import?])
          have hbefore := h front opening import' [] rfl
          have hone := hmarker.restoreOne_own hbefore opening rest
          rw [imports_append, restore_append, markedText_append, List.append_assoc, hfront]
          simpa [markedText, imports, import?, restore, marked, keptText, kept] using hone

/-- When a marker occurs before its import, there is a first import of that kind. -/
theorem exists_first_mistakable (h : ¬ Unmistakable pieces) :
    ∃ front opening import' back, pieces = front ++ bare opening import' :: back ∧
      Unmistakable front ∧ import'.marker <:+: keptText front := by
  induction pieces using List.reverseRecOn with
  | nil => exact absurd (fun front _ _ _ heq => by simp at heq) h
  | append_singleton pieces piece ih =>
      by_cases hclear : Unmistakable pieces
      · simp only [Unmistakable, not_forall, not_not] at h
        obtain ⟨front, opening, import', back, heq, hoccurs⟩ := h
        refine ⟨front, opening, import', back, heq, ?_, hoccurs⟩
        cases back using List.reverseRecOn with
        | nil =>
            rw [(List.append_inj' heq rfl).1] at hclear
            exact hclear
        | append_singleton back last =>
            have hpieces :
                pieces ++ [piece] = (front ++ bare opening import' :: back) ++ [last] := by
              simp [heq]
            rw [(List.append_inj' hpieces rfl).1] at hclear
            exact hclear.of_append
      · obtain ⟨front, opening, import', back, rfl, hfront, hoccurs⟩ := ih hclear
        exact ⟨front, opening, import', back ++ [piece], by simp, hfront, hoccurs⟩

/-! ## All imports -/

/-- Original texts bring their own semicolons, in the place of one for each marker. -/
theorem count_keptText (pieces : List Piece)
    (h : ∀ import' ∈ imports pieces, IsMarker import'.marker) :
    (keptText pieces).count ';' + (imports pieces).length =
      (markedText pieces).count ';' + semicolons (imports pieces) := by
  induction pieces with
  | nil => rfl
  | cons piece pieces ih =>
      cases piece with
      | plain text =>
          have hrest := ih h
          simp only [keptText_cons, markedText_cons, kept, marked, List.count_append,
            imports_cons_plain]
          omega
      | bare opening import' =>
          rw [imports_cons_bare] at h
          have hrest := ih fun other hmem => h other (by simp [hmem])
          have hone := (h import' (by simp)).count_markedStatement opening
          simp only [keptText_cons, markedText_cons, kept, marked, List.count_append,
            imports_cons_bare, semicolons_cons, List.length_cons]
          omega

/-- Restoring the imports puts each of them back in its own place and changes nothing else exactly
when no marker occurs before its import. -/
theorem restore_eq_iff (hfit : Fit (imports pieces)) :
    restore (imports pieces) (markedText pieces) = keptText pieces ↔ Unmistakable pieces := by
  constructor
  · intro heq
    by_contra hclear
    obtain ⟨front, opening, import', back, rfl, hfront, hoccurs⟩ := exists_first_mistakable hclear
    rw [imports_append, imports_cons_bare] at heq hfit
    have hbefore := hfront.restore_front hfit.of_append_left
      (markedStatement opening import' ++ markedText back)
    simp only [restore_append, markedText_append, markedText_cons, keptText_append, keptText_cons,
      marked, kept, hbefore] at heq
    have hback := hfit.of_append_right
    have hcount := count_keptText back fun later hmem => hback.isMarker later (by simp [hmem])
    exact restore_ne_own hback hoccurs hcount heq
  · intro hclear
    simpa using hclear.restore_front hfit []

end Piece

end JsxTidy
