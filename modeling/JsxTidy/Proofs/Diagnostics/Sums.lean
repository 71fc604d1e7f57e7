import JsxTidy.Proofs.Json.Counters
import JsxTidy.Proofs.Json.Slots
import JsxTidy.Proofs.Json.Written
import JsxTidy.Request

/-!
# Sums of counters

Counters are read from an object that gives each of them once, or from a list of the three. Every
three counters of 32 bits can be read, so their sum need not fit 32 bits. The main result,
`Diagnostics.isClean_of_sum`, says what is reported: the sum wherever it fits, and nothing
elsewhere, so that a total of zero always means that nothing was changed.
-/

namespace JsxTidy

open Json

namespace Diagnostics

/-- The sum of the counters. -/
def sum (d : Diagnostics) : Nat :=
  d.removedImports.toNat + d.sortedTags.toNat + d.normalizedClasses.toNat

/-! ## Reading counters -/

/-- The fields of the counters and their slots. -/
def slots : Slots Partial UInt32 UInt32 UInt32 where
  slots :=
    { toFun := fun p => (p.removedImports, p.sortedTags, p.normalizedClasses)
      invFun := fun s => ⟨s.1, s.2.1, s.2.2⟩
      left_inv := fun _ => rfl
      right_inv := fun _ => rfl }
  first := ⟨"removedImports", false, Reader.word32, CounterText, fun _ => Reader.understands_word32⟩
  second := ⟨"sortedJsxProps", false, Reader.word32, CounterText,
    fun _ => Reader.understands_word32⟩
  third := ⟨"normalizedTailwindClasses", false, Reader.word32, CounterText,
    fun _ => Reader.understands_word32⟩
  first_ne_second := by decide
  first_ne_third := by decide
  second_ne_third := by decide

/-- An object that gives each of the counters once, whatever else it has. -/
def CountersObject (t : List Char) (d : Diagnostics) : Prop :=
  ∃ members, ObjectText StringText t members ∧ (∀ member ∈ members, ValueText member.2) ∧
    Given CounterText "removedImports" members (some d.removedImports) ∧
    Given CounterText "sortedJsxProps" members (some d.sortedTags) ∧
    Given CounterText "normalizedTailwindClasses" members (some d.normalizedClasses)

/-- A list of the counters. -/
def CountersList (t : List Char) (d : Diagnostics) : Prop :=
  ArrayText t [Nat.toDigits 10 d.removedImports.toNat, Nat.toDigits 10 d.sortedTags.toNat,
    Nat.toDigits 10 d.normalizedClasses.toNat]

variable {d : Diagnostics} {p : Partial} {t : List Char}

theorem complete_eq_ok_iff : p.complete = .ok d ↔
    p = ⟨some d.removedImports, some d.sortedTags, some d.normalizedClasses⟩ := by
  obtain ⟨removed, sorted, normalized⟩ := p
  obtain ⟨removed', sorted', normalized'⟩ := d
  cases removed <;> cases sorted <;> cases normalized <;>
    simp [Partial.complete, required, bind, Except.bind, pure, Except.pure]

theorem listOf_iff : slots.ListOf t ⟨some d.removedImports, some d.sortedTags,
    some d.normalizedClasses⟩ ↔ CountersList t d := by
  rw [Slots.listOf_iff_of_required rfl, CountersList]
  constructor
  · rintro ⟨removed, sorted, normalized, a, b, c, ht, hremoved, hsorted, hnormalized, heq⟩
    obtain ⟨rfl, rfl, rfl⟩ : d.removedImports = a ∧ d.sortedTags = b ∧ d.normalizedClasses = c := by
      simpa [slots] using heq
    obtain rfl : removed = _ := hremoved
    obtain rfl : sorted = _ := hsorted
    obtain rfl : normalized = _ := hnormalized
    exact ht
  · intro ht
    exact ⟨_, _, _, _, _, _, ht, rfl, rfl, rfl, rfl⟩

theorem understands_reader (bound : Nat) : Reader.Understands bound reader fun t d =>
    CountersObject t d ∨ CountersList t d := by
  have hread : reader = Reader.record "struct CleanupDiagnostics" slots.fields slots.start
      Partial.complete := rfl
  rw [hread]
  refine (slots.understands_record bound).congr fun t d => ?_
  simp only [complete_eq_ok_iff, exists_eq_left, listOf_iff]
  rfl

/-- Counters are read from an object or a list of them, with blanks around it. -/
theorem ofText_eq_ok_iff {text : String} : ofText text = .ok d ↔
    Reader.Surrounded (fun t d => CountersObject t d ∨ CountersList t d) text.toList d := by
  rw [← Reader.Understands.run_eq_ok_iff understands_reader, ofText]
  split <;> simp_all

/-- Any counters can be read. -/
theorem exists_ofText_eq_ok (d : Diagnostics) : ∃ text, ofText text = .ok d := by
  let items : List Json := [.number (.whole d.removedImports.toNat),
    .number (.whole d.sortedTags.toNat), .number (.whole d.normalizedClasses.toNat)]
  refine ⟨(Json.array items).render, ofText_eq_ok_iff.2 ?_⟩
  refine ⟨[], _, [], ?_, isBlankText_nil, isBlankText_nil, .inr (arrayText_text items)⟩
  simp [render]

/-! ## Totals -/

theorem sum_eq_zero_iff : d.sum = 0 ↔ d = ⟨0, 0, 0⟩ := by
  obtain ⟨removed, sorted, normalized⟩ := d
  simp [sum, ← UInt32.toNat_inj, and_assoc]

/-- A total is the sum of the counters. -/
theorem total?_eq_some_iff {n : UInt32} : d.total? = some n ↔ n.toNat = d.sum := by
  have hn := n.toNat_lt_size
  rw [total?, sum]
  constructor
  · intro h
    obtain ⟨changes, hchanges, htotal⟩ := Option.bind_eq_some_iff.1 h
    rw [Word.add?_eq_some_iff] at hchanges htotal
    omega
  · intro h
    -- The sum of the first two counters is not more than the total, so it is a word as well.
    have hle : d.removedImports.toNat + d.sortedTags.toNat < UInt32.size := by omega
    have hchanges : Word.add? d.removedImports d.sortedTags =
        some (d.removedImports + d.sortedTags) := if_pos hle
    have hvalue := Word.add?_eq_some_iff.1 hchanges
    refine Option.bind_eq_some_iff.2 ⟨_, hchanges, Word.add?_eq_some_iff.2 ?_⟩
    omega

/-- The total is missing exactly when the sum of the counters is too large for it. -/
theorem total?_eq_none_iff : d.total? = none ↔ 2 ^ 32 ≤ d.sum := by
  constructor
  · intro h
    by_contra hlt
    have hsum : d.sum.toUInt32.toNat = d.sum := UInt32.toNat_ofNat_of_lt' (not_le.1 hlt)
    rw [total?_eq_some_iff.2 hsum] at h
    cases h
  · intro hle
    by_contra h
    obtain ⟨n, hn⟩ := Option.ne_none_iff_exists'.1 h
    have hlt := n.toNat_lt
    have hsum := total?_eq_some_iff.1 hn
    omega

theorem isClean?_eq_none_iff : d.isClean? = none ↔ 2 ^ 32 ≤ d.sum := by
  rw [isClean?, Option.map_eq_none_iff, total?_eq_none_iff]

/-- An answer says whether all counters are zero. -/
theorem isClean?_eq_some_iff {b : Bool} :
    d.isClean? = some b ↔ (b = true ↔ d = ⟨0, 0, 0⟩) ∧ d.sum < 2 ^ 32 := by
  rw [isClean?, Option.map_eq_some_iff, ← sum_eq_zero_iff]
  constructor
  · rintro ⟨n, hn, rfl⟩
    have hlt := n.toNat_lt
    rw [← total?_eq_some_iff.1 hn, beq_iff_eq, ← UInt32.toNat_inj]
    exact ⟨Iff.rfl, hlt⟩
  · rintro ⟨hb, hlt⟩
    have hsum : d.sum.toUInt32.toNat = d.sum := UInt32.toNat_ofNat_of_lt' hlt
    refine ⟨_, total?_eq_some_iff.2 hsum, ?_⟩
    rw [Bool.eq_iff_iff, hb, beq_iff_eq, ← UInt32.toNat_inj, hsum]
    rfl

/-- What is reported of counters, any three of which can be read. Their sum is the total if it fits
32 bits, and there is no total otherwise. With a total there is an answer to whether nothing was
changed: that nothing was when all counters are zero, and that something was when one is not. -/
theorem isClean_of_sum (d : Diagnostics) :
    (∀ text, ofText text = .ok d ↔ Reader.Surrounded (fun t d => CountersObject t d ∨
      CountersList t d) text.toList d) ∧
    (∃ text, ofText text = .ok d) ∧
    (∀ n, d.total? = some n ↔ n.toNat = d.sum) ∧ (d.total? = none ↔ 2 ^ 32 ≤ d.sum) ∧
    (d.isClean? = some true ↔ d = ⟨0, 0, 0⟩) ∧
    (d.isClean? = some false ↔ d ≠ ⟨0, 0, 0⟩ ∧ d.sum < 2 ^ 32) ∧
    (d.isClean? = none ↔ 2 ^ 32 ≤ d.sum) := by
  refine ⟨fun _ => ofText_eq_ok_iff, exists_ofText_eq_ok d, fun _ => total?_eq_some_iff,
    total?_eq_none_iff, ?_, ?_, isClean?_eq_none_iff⟩
  · rw [isClean?_eq_some_iff, eq_self_iff_true, true_iff, and_iff_left_iff_imp]
    intro hzero
    rw [sum_eq_zero_iff.2 hzero]
    decide
  · rw [isClean?_eq_some_iff]
    simp

/-- Two counters of half the words each have a sum, but no total, and there is no answer to whether
anything was changed. -/
theorem overflowing_total_missing : ∃ d : Diagnostics,
    ofText ("\x7b\"removedImports\":2147483648,\"sortedJsxProps\":2147483648,"
      ++ "\"normalizedTailwindClasses\":0\x7d") = .ok d ∧
    d.sum = 4294967296 ∧ d ≠ ⟨0, 0, 0⟩ ∧ d.total? = none ∧ d.isClean? = none :=
  ⟨⟨2147483648, 2147483648, 0⟩, by decide +kernel⟩

end Diagnostics

end JsxTidy
