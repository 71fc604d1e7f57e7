/-!
# Sums of machine words

A sum of two words of 32 bits need not be a word. Adding words then fails, and no sum is taken for
a smaller one.
-/

namespace JsxTidy.Word

/-- The sum of two words, unless it is too large for a word. -/
def add? (a b : UInt32) : Option UInt32 :=
  if a.toNat + b.toNat < UInt32.size then some (a + b) else none

variable {a b c : UInt32}

/-- A sum that is there is the sum of the numbers. -/
theorem add?_eq_some_iff : add? a b = some c ↔ a.toNat + b.toNat = c.toNat := by
  have hc := c.toNat_lt_size
  rw [add?]
  split
  · rename_i hlt
    rw [Option.some_inj, ← UInt32.toNat_inj, UInt32.toNat_add, Nat.mod_eq_of_lt hlt]
  · simp only [reduceCtorEq, false_iff]
    omega

/-- A sum is missing when it is too large. -/
theorem add?_eq_none_iff : add? a b = none ↔ UInt32.size ≤ a.toNat + b.toNat := by
  rw [add?]
  split
  · simp only [reduceCtorEq, false_iff]
    omega
  · simp only [true_iff]
    omega

/-- Counting from one, the number of what comes behind `n` others. The others are counted in a
word, and the word behind that may be missing. -/
def ordinal? (n : Nat) : Option UInt32 :=
  add? n.toUInt32 1

variable {n : Nat}

/-- Others are counted modulo the words. -/
theorem ordinal?_eq_some_iff : ordinal? n = some c ↔ n % UInt32.size + 1 = c.toNat :=
  add?_eq_some_iff

/-- A number is missing behind the greatest word. -/
theorem ordinal?_eq_none_iff : ordinal? n = none ↔ n % UInt32.size + 1 = UInt32.size := by
  have hlt : n % UInt32.size < UInt32.size := Nat.mod_lt n (by decide)
  have hone : n.toUInt32.toNat + (1 : UInt32).toNat = n % UInt32.size + 1 := rfl
  rw [ordinal?, add?_eq_none_iff, hone]
  omega

end JsxTidy.Word
