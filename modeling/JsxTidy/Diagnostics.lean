import JsxTidy.Word

/-!
# What a run changed

Counters of the changes of a run. Inside a run they are plain numbers; what is reported has the
width of a machine word. A text has fewer than `2 ^ 32` bytes, and each change takes up some of
them, so that no counter of a run is cut. The sum of three counters from elsewhere can be too
large for a word: then there is neither a total nor an answer to whether anything was changed.
-/

namespace JsxTidy

/-- The changes made to a program. -/
structure Changes where
  /-- Specifiers of imports that nothing uses. -/
  removedImports : Nat
  /-- Tags whose attributes changed their order. -/
  sortedTags : Nat
  /-- Class attributes whose value was rewritten. -/
  normalizedClasses : Nat
deriving DecidableEq, Repr

namespace Changes

/-- No change. -/
def none : Changes :=
  ⟨0, 0, 0⟩

/-- The changes of two steps. -/
def add (a b : Changes) : Changes :=
  ⟨a.removedImports + b.removedImports, a.sortedTags + b.sortedTags,
    a.normalizedClasses + b.normalizedClasses⟩

instance : Add Changes := ⟨add⟩

end Changes

/-- The reported counters of a run. -/
structure Diagnostics where
  removedImports : UInt32
  sortedTags : UInt32
  normalizedClasses : UInt32
deriving DecidableEq, Repr

namespace Diagnostics

/-- What is reported about some changes. -/
def ofChanges (c : Changes) : Diagnostics :=
  ⟨c.removedImports.toUInt32, c.sortedTags.toUInt32, c.normalizedClasses.toUInt32⟩

/-- The sum of the counters, unless it or the sum of the first two is too large for a word. -/
def total? (d : Diagnostics) : Option UInt32 := do
  let changes ← Word.add? d.removedImports d.sortedTags
  Word.add? changes d.normalizedClasses

/-- Whether nothing was changed, as far as the total says so. -/
def isClean? (d : Diagnostics) : Option Bool :=
  d.total?.map (· == 0)

end Diagnostics

end JsxTidy
