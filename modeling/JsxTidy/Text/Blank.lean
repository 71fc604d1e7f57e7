/-!
# Blank characters

Blank characters are those with the Unicode property White_Space. Trimming, splitting into words
and collapsing all use this one class, so they agree on every character.
-/

namespace JsxTidy.Text

/-- The characters with the Unicode property White_Space. -/
def isBlank (c : Char) : Bool :=
  ('\t' ≤ c && c ≤ '\r') || c == ' ' || c == '\u0085' || c == '\u00a0' || c == '\u1680'
    || ('\u2000' ≤ c && c ≤ '\u200a') || c == '\u2028' || c == '\u2029' || c == '\u202f'
    || c == '\u205f' || c == '\u3000'

/-- The text without the blanks at its front. -/
def trimStart (cs : List Char) : List Char :=
  cs.dropWhile isBlank

/-- The text without the blanks at its end. -/
def trimEnd (cs : List Char) : List Char :=
  (cs.reverse.dropWhile isBlank).reverse

/-- The text without the blanks at either end. -/
def trim (cs : List Char) : List Char :=
  trimEnd (trimStart cs)

/-- Each run of blanks becomes one space. The flag says that a blank was just seen. -/
def collapseRuns : Bool → List Char → List Char
  | _, [] => []
  | inRun, c :: cs =>
    if isBlank c then
      if inRun then collapseRuns true cs else ' ' :: collapseRuns true cs
    else c :: collapseRuns false cs

/-- The trimmed text with each inner run of blanks replaced by one space. -/
def collapse (cs : List Char) : List Char :=
  collapseRuns false (trim cs)

/-- The words of a text whose current word, last character first, is `word`. -/
def wordsFrom : List Char → List Char → List (List Char)
  | word, [] => if word.isEmpty then [] else [word.reverse]
  | word, c :: cs =>
    if isBlank c then
      if word.isEmpty then wordsFrom [] cs else word.reverse :: wordsFrom [] cs
    else wordsFrom (c :: word) cs

/-- The maximal runs of characters that are not blank, in order. -/
def words (cs : List Char) : List (List Char) :=
  wordsFrom [] cs

/-- Words written one after the other with one space between neighbours. -/
def unwords (ws : List (List Char)) : List Char :=
  (ws.intersperse [' ']).flatten

/-- A text is blank when it has no other characters than blanks. -/
def allBlank (cs : List Char) : Bool :=
  cs.all isBlank

end JsxTidy.Text
