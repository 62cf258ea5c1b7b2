import LiveMarkdown.Text.Basic

/-!
# Lines and their indentation

Blocks are told apart by how far their lines are indented, counted in columns with a tab stop every
four. A container takes its own marks off the front of a line before its content is read: what is
left keeps a record of the column it begins at, so that tabs still reach the same stops.
-/

namespace LiveMarkdown.Markdown

/-- How deep containers, and links and brackets in running text, may nest. -/
def maxNesting : Nat := 20

/-- A space or a tab. -/
def isSpace (c : Char) : Bool := c = ' ' || c = '\t'

/-- The columns that a space or tab takes at a column. -/
def widthAt (c : Char) (column : Nat) : Nat := if c = '\t' then 4 - column % 4 else 1

/-- A line as a container sees it. -/
structure Line where
  /-- The characters after the marks of the containers around it. -/
  chars : Text
  /-- How many of them come before the content. -/
  shift : Nat
  /-- The column of the content, counted from the container's own. It is negative for a line that
  only continues a paragraph. -/
  indent : Int
  /-- The column at which the characters begin. -/
  column : Nat
  /-- Does a newline end the line? Only the last line of a document may have none. -/
  terminated : Bool
  deriving Inhabited

/-- The content of the line. -/
def Line.body (l : Line) : Text := l.chars.drop l.shift

/-- Is there no content? -/
def Line.isEmpty (l : Line) : Bool := l.chars.length ≤ l.shift

/-- The spaces and tabs at the front of a text: how many, and the column after them when the text
begins at `column`. -/
def leadingSpace : (column : Nat) → Text → Nat × Nat
  | column, c :: rest =>
    if isSpace c then
      let (count, reached) := leadingSpace (column + widthAt c column) rest
      (count + 1, reached)
    else (0, column)
  | column, [] => (0, column)

/-- A line of a document. -/
def Line.ofText (terminated : Bool) (t : Text) : Line :=
  let (count, reached) := leadingSpace 0 t
  { chars := t, shift := count, indent := reached, column := 0, terminated }

/-- The lines of a document. A last line of spaces and tabs alone that no newline ends is no
line. -/
def Line.ofLines : List Text → List Line
  | [] => []
  | [t] => if t.all isSpace then [] else [.ofText false t]
  | t :: more => .ofText true t :: Line.ofLines more

/-- The lines of a source text. -/
def Line.ofSource (t : Text) : List Line := Line.ofLines (Text.lines t)

/-- Takes up to `wanted` columns of indentation off a text, of which `taken` are gone, when `marks`
more characters count as indentation whatever they are. A tab that reaches too far leaves spaces. -/
def dropColumns (wanted column : Nat) : (taken marks : Nat) → Text → Text
  | taken, marks, c :: rest =>
    if taken < wanted then
      if isSpace c then
        dropColumns wanted column (taken + widthAt c (taken + column)) (marks - 1) rest
      else if 0 < marks then dropColumns wanted column (taken + 1) (marks - 1) rest
      else c :: rest
    else Text.spaces (taken - wanted) ++ c :: rest
  | taken, _, [] => Text.spaces (taken - wanted)

/-- The line without its first columns. -/
def Line.cut (columns : Nat) (l : Line) : Text := dropColumns columns l.column 0 l.shift l.chars

/-- Lines without their first columns, as one text. Every line but the last ends with its newline,
the last one only if `keepEnd`. -/
def cutLines (columns : Nat) (keepEnd : Bool) : List Line → Text
  | [] => []
  | [l] => l.cut columns ++ (if keepEnd && l.terminated then ['\n'] else [])
  | l :: more =>
    l.cut columns ++ (if l.terminated then ['\n'] else []) ++ cutLines columns keepEnd more

end LiveMarkdown.Markdown
