import JsxTidy.Text.Ranges
import JsxTidy.Text.IdentifierTable

/-!
# Identifier characters

The characters that begin and continue an identifier of the script language.
-/

namespace JsxTidy.Text

/-- The characters that may begin an identifier. -/
def isIdentifierStart (c : Char) : Bool :=
  if c.val < 128 then c.isAlpha || c == '_' || c == '$'
  else inRanges identifierStartRanges c.toNat

/-- The characters that may continue an identifier; the two joiners are among them. -/
def isIdentifierPart (c : Char) : Bool :=
  if c.val < 128 then c.isAlphanum || c == '_' || c == '$'
  else c == '\u200c' || c == '\u200d' || inRanges identifierStartRanges c.toNat
    || inRanges identifierPartRanges c.toNat

end JsxTidy.Text
