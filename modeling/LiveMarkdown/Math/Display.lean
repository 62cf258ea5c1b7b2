import LiveMarkdown.Text.Blank

/-!
# Display math as it is typed

Writers set off a formula in two ways that Markdown does not know: between lines `\[` and `\]`, and
between two pairs of dollar signs on one line. Both become the formula between two lines
of `$$`, with the indentation of the line that the formula began on, so that it stays in the list
item it belongs to. Fenced code is copied as it is, and so is a `\[` that nothing closes.

`displayLines` is a scanner that carries what it is in the middle of.
-/

namespace LiveMarkdown.Math

open Text (grave trim leadingBlanks)

/-- What a line stands in. -/
inductive Region where
  | outside
  /-- Code whose fence is so many times the character `mark`. -/
  | fence (mark : Char) (count : Nat)
  /-- After the line `\[`, which is `opening`; `held` are the lines since then, last one first. -/
  | bracket (opening : Text) (held : List Text)
  deriving DecidableEq, Repr

/-- The line that brackets a formula. -/
abbrev dollars : Text := ['$', '$']

/-- How many pairs of dollar signs the text holds, from left to right and without overlap. -/
def countPairs : Text → Nat
  | '$' :: '$' :: rest => countPairs rest + 1
  | _ :: rest => countPairs rest
  | [] => 0

/-- The fence that a trimmed line begins: its character and how often that stands there. -/
def fence? : Text → Option (Char × Nat)
  | [] => none
  | c :: rest =>
    let count := (rest.takeWhile (· = c)).length + 1
    if (c = grave || c = '~') && 3 ≤ count then some (c, count) else none

/-- Does a trimmed line close a fence of `count` times `mark`? -/
def closesFence (mark : Char) (count : Nat) (trimmed : Text) : Bool :=
  count ≤ trimmed.length && trimmed.all (· = mark)

/-- The formula of a trimmed line that holds it between two pairs of dollar signs. -/
def oneLine? (trimmed : Text) : Option Text :=
  if Text.startsWith trimmed dollars && Text.endsWith trimmed dollars && 5 ≤ trimmed.length &&
      countPairs trimmed = 2 then
    some (Text.slice trimmed 2 (trimmed.length - 2))
  else none

/-- The lines with their formulas between lines of dollar signs. -/
def displayLines : Region → List Text → List Text
  | .outside, [] => []
  | .fence _ _, [] => []
  | .bracket opening held, [] => opening :: held.reverse
  | .outside, line :: rest =>
    let trimmed := trim line
    match fence? trimmed with
    | some (mark, count) => line :: displayLines (.fence mark count) rest
    | none =>
      if trimmed = ['\\', '['] then displayLines (.bracket line []) rest
      else match oneLine? trimmed with
        | some formula =>
          let indent := leadingBlanks line
          (indent ++ dollars) :: (indent ++ trim formula) :: (indent ++ dollars) ::
            displayLines .outside rest
        | none => line :: displayLines .outside rest
  | .fence mark count, line :: rest =>
    let region := if closesFence mark count (trim line) then .outside else .fence mark count
    line :: displayLines region rest
  | .bracket opening held, line :: rest =>
    if trim line = ['\\', ']'] then
      let edge := leadingBlanks opening ++ dollars
      edge :: held.reverse ++ edge :: displayLines .outside rest
    else displayLines (.bracket opening (line :: held)) rest

/-- The text with its formulas between lines of dollar signs. -/
def normalizeDisplay (t : Text) : Text := Text.unlines (displayLines .outside (Text.lines t))

end LiveMarkdown.Math
