import JsxTidy.Syntax.Comment

/-!
# The comments met so far

Reading tokens collects comments. A comment leads the next token, unless it stands behind another
token on the same line and that line ends with it. A place may be read more than once; its
comments are logged once.
-/

namespace JsxTidy

open Syntax

/-- The comments of the text read so far, in their order. -/
structure CommentLog where
  comments : Array Comment
  /-- How many of the comments have found their place. -/
  settled : Nat
  /-- Whether a line ended since the last token. -/
  sawNewline : Bool
  /-- Whether the last token opens a value: an equals sign or an opening parenthesis. -/
  afterOpening : Bool

namespace CommentLog

/-- No comment and no token has been read. -/
def empty : CommentLog :=
  ⟨#[], 0, true, false⟩

/-- A line ends. -/
def newline (log : CommentLog) : CommentLog :=
  if log.settled < log.comments.size then
    { log with
      comments := log.comments.modify (log.comments.size - 1) fun comment =>
        { comment with newlineAfter := true }
      settled := if log.sawNewline then log.settled else log.comments.size
      sawNewline := true }
  else { log with sawNewline := true }

/-- Whether a place behind the last logged comment has been reached. -/
def isNew (log : CommentLog) (start : Nat) : Bool :=
  match log.comments.back? with
  | some last => decide (last.span.start < start)
  | none => true

/-- A comment is read. -/
def add (log : CommentLog) (comment : Comment) : CommentLog :=
  if !log.isNew comment.span.start then log
  else
    let comments := log.comments.push
      { comment with newlineBefore := log.sawNewline, newlineAfter := comment.isLine }
    if comment.isLine then
      { log with
        comments
        settled := if !log.sawNewline && !log.afterOpening then comments.size else log.settled
        sawNewline := true }
    else { log with comments }

/-- A token is read: the comments still without a place lead it. -/
def token (log : CommentLog) (start : Nat) (opens : Bool) : CommentLog :=
  { comments :=
      if log.settled < log.comments.size then
        log.comments.mapIdx fun index comment =>
          if log.settled ≤ index then { comment with leads? := some start } else comment
      else log.comments
    settled := log.comments.size
    sawNewline := false
    afterOpening := opens }

end CommentLog

end JsxTidy
