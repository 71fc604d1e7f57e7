import JsxTidy.Text.Ranges
import JsxTidy.Text.ShapelessTable

/-!
# Quoted text in messages

A text that is quoted in a message shows every character: those without a shape of their own are
written as escapes.
-/

namespace JsxTidy.Text

/-- Whether a character has a shape of its own. The space has one. -/
def isShapely (c : Char) : Bool :=
  decide (' ' ≤ c) && !inRanges shapelessRanges c.toNat

/-- A character between quotes of one kind. -/
def quotedChar (quote c : Char) : List Char :=
  if c = '\x00' then ['\\', '0']
  else if c = '\t' then ['\\', 't']
  else if c = '\n' then ['\\', 'n']
  else if c = '\r' then ['\\', 'r']
  else if c = '\\' || c = quote then ['\\', c]
  else if isShapely c then [c]
  else '\\' :: 'u' :: '\x7b' :: (Nat.toDigits 16 c.toNat ++ ['\x7d'])

/-- A text between quotes of one kind. -/
def quoted (quote : Char) (text : List Char) : List Char :=
  quote :: (text.flatMap (quotedChar quote) ++ [quote])

end JsxTidy.Text
