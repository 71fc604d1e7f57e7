/-!
# Finding a text inside a text

A search answers with the part before the occurrence and the part that begins with it, so that
nothing is lost: the two parts put together are the searched text.
-/

namespace JsxTidy.Text

/-- The rest of a text after a leading `pattern`, if the text begins with it. -/
def after? : List Char → List Char → Option (List Char)
  | [], text => some text
  | _ :: _, [] => none
  | p :: pattern, c :: text => if p = c then after? pattern text else none

/-- Whether a text begins with `pattern`. -/
def beginsWith (pattern text : List Char) : Bool :=
  (after? pattern text).isSome

/-- The text before the first occurrence of `pattern`, and the text from it on. -/
def splitFirst? (pattern : List Char) : List Char → Option (List Char × List Char)
  | [] => if pattern = [] then some ([], []) else none
  | c :: text =>
    if beginsWith pattern (c :: text) then some ([], c :: text)
    else (splitFirst? pattern text).map fun parts => (c :: parts.1, parts.2)

/-- The text before the last occurrence of `pattern`, and the text from it on. -/
def splitLast? (pattern : List Char) : List Char → Option (List Char × List Char)
  | [] => if pattern = [] then some ([], []) else none
  | c :: text =>
    match splitLast? pattern text with
    | some parts => some (c :: parts.1, parts.2)
    | none => if beginsWith pattern (c :: text) then some ([], c :: text) else none

/-- Whether `pattern` occurs in a text. -/
def contains (pattern text : List Char) : Bool :=
  (splitFirst? pattern text).isSome

end JsxTidy.Text
