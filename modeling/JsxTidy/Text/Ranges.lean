/-!
# Character ranges

A character property of the Unicode standard is a table of closed ranges of code points, and
`inRanges` decides membership by one pass over the table.
-/

namespace JsxTidy.Text

/-- A code point lies in a table when one of the table's closed ranges holds it. -/
def inRanges (table : Array (Nat × Nat)) (code : Nat) : Bool :=
  table.any fun range => decide (range.1 ≤ code) && decide (code ≤ range.2)

end JsxTidy.Text
