import LiveMarkdown.Preview.Diff
import LiveMarkdown.Preview.Render

/-!
# Editing with a preview

A session keeps the lines of a document and its blocks as they were last rendered. After each edit
the document is rendered anew and compared with what is shown.
-/

namespace LiveMarkdown

/-- An edit. The lines in question begin at the position `start`; a negative one counts from the
end, and one outside the document stands for the nearer end of it. -/
inductive Edit where
  | setText (t : Text)
  | insert (start : Int) (lines : List Text)
  | delete (start : Int) (count : Nat)
  | replace (start : Int) (count : Nat) (lines : List Text)
  | append (lines : List Text)
  deriving DecidableEq, Repr

/-- How many of `size` lines stand before a position. -/
def linesBefore (size : Nat) (position : Int) : Nat :=
  if position < 0 then (size + position).toNat else min position.toNat size

/-- The lines with new ones in place of those from one position up to another. -/
def spliceLines (lines : List Text) (start stop : Int) (new : List Text) : List Text :=
  let first := linesBefore lines.length start
  lines.take first ++ new ++ lines.drop (max first (linesBefore lines.length stop))

/-- The lines after an edit. -/
def Edit.apply (e : Edit) (lines : List Text) : List Text :=
  match e with
  | .setText t => Text.lines t
  | .insert start new => spliceLines lines start start new
  | .delete start count => spliceLines lines start (start + count) []
  | .replace start count new => spliceLines lines start (start + count) new
  | .append new => lines ++ new

/-- A document that is being edited. -/
structure Session where
  lines : List Text := []
  blocks : List Block := []

/-- What an edit changes: the positions to show anew, the ids of all blocks, and the slugs of all
headings. -/
structure Update where
  diffs : List Diff
  ids : List Text
  slugs : List Text

/-- The session after an edit and what changed. If the document cannot be shown, the lines have
changed and the blocks have not. -/
def Session.edit (c : Config) (s : Session) (e : Edit) : Session × Except RenderError Update :=
  let lines := e.apply s.lines
  let t := Text.unlines lines
  match renderBlocks c t with
  | .error cause => ({ s with lines }, .error cause)
  | .ok blocks =>
    ({ lines, blocks },
      .ok { diffs := changesOnly (diffBlocks s.blocks blocks)
            ids := blocks.map (·.id)
            slugs := (resolveSlugs t).headings.map (·.slug) })

end LiveMarkdown
