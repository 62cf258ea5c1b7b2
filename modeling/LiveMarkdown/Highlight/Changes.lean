import LiveMarkdown.Highlight.Style
import LiveMarkdown.Text.Pattern

/-!
# The pieces of a list of changes

A list of changes between two files says with the first characters of each line what the line is:
one that was taken away or put in, a place in the files, or a heading.
-/

namespace LiveMarkdown.Highlight.Changes

open Pattern (several optional oneOf char)

/-- A line number, or two with a comma between them. -/
def lineNumbers : Pattern :=
  several (.one Text.isDigit) ++ optional (char ',' ++ several (.one Text.isDigit))

/-- Where lines changed: a digit with an optional end, what was done, and where to. -/
def place : Pattern :=
  .one Text.isDigit ++ optional (char ',' ++ several (.one Text.isDigit)) ++
    oneOf ['a', 'c', 'd'] ++ lineNumbers

/-- The style of a line. -/
def lineStyle (line : Text) : Style :=
  let begins (head : Text) : Bool := Text.startsWith line head
  if begins ['!'] || line = ['-', '-', '-'] then .strong
  else if begins ['<', ' '] || begins ['-'] then .deleted
  else if begins ['>', ' '] || begins ['+'] then .inserted
  else if begins ['@'] || place.covers line then .subheading
  else if begins "Index" || begins "index" || begins "diff" || begins ['='] then .heading
  else .plain

/-- The pieces of a line. -/
def linePieces : Text → List Piece
  | ' ' :: rest => [(.space, [' ']), (.plain, rest)]
  | line => [(lineStyle line, line)]

/-- The pieces of a list of changes, in which every line ends with a newline. -/
def pieces (t : Text) : List Piece :=
  let newline : List Piece := [(.space, ['\n'])]
  (Text.lines t).dropLast.flatMap fun line => linePieces line ++ newline

/-- Does a text look like a list of changes? -/
def isLikely (t : Text) : Bool :=
  Text.startsWith t "Index: " || Text.startsWith t "diff " || Text.startsWith t "--- "

end LiveMarkdown.Highlight.Changes
