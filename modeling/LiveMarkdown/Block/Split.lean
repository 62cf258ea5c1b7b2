import LiveMarkdown.Block.Basic
import LiveMarkdown.Markdown.Document

/-!
# Splitting a document

A document is cut into blocks along the lines of what it consists of at the top level. Lines that
belong to nothing there, such as definitions of references, become blocks of their own unless they
are blank; so each line that is not blank is in exactly one block.

Blocks are cut from the text as it is written, where only a newline ends a line. If the parser has
counted more line ends than that, it may place a block behind lines that do not exist.
-/

namespace LiveMarkdown

open Markdown (Span Token)

/-- Why a document could not be split. -/
inductive SplitError where
  /-- There would be lines between two blocks that the text does not have. -/
  | missingLines
  deriving DecidableEq, Repr

/-- The message of an error. -/
def SplitError.message : SplitError → Text
  | .missingLines => "list index out of range"

/-- The runs of lines that are not blank. The first of the lines has the number `number`; `current`
are the lines of the run right before it, last one first. -/
def runsFrom : (number : Nat) → (current : List Text) → List Text → List BlockSource
  | number, current, [] => close number current
  | number, current, line :: rest =>
    if Text.allBlank line then close number current ++ runsFrom (number + 1) [] rest
    else runsFrom (number + 1) (line :: current) rest
where
  /-- The run that ends before the line `number`, if there is one. -/
  close (number : Nat) (current : List Text) : List BlockSource :=
    if current.isEmpty then []
    else [⟨Text.unlines current.reverse, number - current.length, number - 1⟩]

/-- The lines of a span that exist. -/
def linesOf (lines : List Text) (start stop : Nat) : List Text := (lines.take stop).drop start

/-- The runs between two lines, counted from zero. -/
def gapBlocks (lines : List Text) (start stop : Nat) : List BlockSource :=
  runsFrom (start + 1) [] (linesOf lines start stop)

/-- The block of a span. -/
def spanBlock (lines : List Text) (s : Span) : BlockSource :=
  ⟨Text.unlines (linesOf lines s.first s.past), s.first + 1, s.past⟩

/-- The blocks of the lines from `covered` on, given the spans of those that the parser found. -/
def blocksFrom (lines : List Text) :
    (covered : Nat) → List Span → Except SplitError (List BlockSource)
  | covered, [] => .ok (gapBlocks lines covered lines.length)
  | covered, s :: rest =>
    if covered < s.first && lines.length < s.first then .error .missingLines
    else do
      let more ← blocksFrom lines (max covered s.past) rest
      .ok (gapBlocks lines covered s.first ++ spanBlock lines s :: more)

/-- The blocks of a text with these tokens. -/
def blocksOfTokens (t : Text) (tokens : List Token) : Except SplitError (List BlockSource) :=
  blocksFrom (Text.lines t) 0 (Markdown.topLevelSpans tokens)

/-- The blocks of a text. -/
def splitBlocks (t : Text) : Except SplitError (List BlockSource) :=
  if Text.allBlank t then .ok [] else blocksOfTokens t (Markdown.parse t)

end LiveMarkdown
