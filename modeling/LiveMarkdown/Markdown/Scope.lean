import LiveMarkdown.Markdown.Line
import LiveMarkdown.Markdown.RawHtml

/-!
# Where blocks begin

A `Scope` is a document as one container sees it. On it this module answers, line by line, which
block a line would begin, looking at no more than that line. Blocks that can interrupt a paragraph,
a quote or a list are recognised by the same tests.
-/

namespace LiveMarkdown.Markdown

/-- The lines as a container sees them. -/
structure Scope where
  lines : Array Line
  /-- The first line that the container does not reach. -/
  limit : Nat
  /-- The column at which the content of the container begins. -/
  indent : Nat := 0
  /-- Within a list, the column of the container around it. -/
  listIndent : Option Nat := none

namespace Scope

/-- A line. After the last one all lines are empty. -/
def line (s : Scope) (i : Nat) : Line := s.lines.getD i default

/-- The lines from `first` up to but not including `past`. -/
def range (s : Scope) (first past : Nat) : List Line :=
  (List.range (past - first)).map fun k => s.line (first + k)

/-- Is the line empty? -/
def isEmpty (s : Scope) (i : Nat) : Bool := (s.line i).isEmpty

/-- Is the line indented as far as code? -/
def isCode (s : Scope) (i : Nat) : Bool := 4 ≤ (s.line i).indent - s.indent

/-- Does the line stand left of the container's content? -/
def isOutside (s : Scope) (i : Nat) : Bool := (s.line i).indent < s.indent

/-- The first line from `i` on that is not empty, or the container's end, at most `fuel` lines
on. -/
def skipEmpty (s : Scope) : (fuel : Nat) → Nat → Nat
  | 0, i => i
  | fuel + 1, i => if i < s.limit && s.isEmpty i then skipEmpty s fuel (i + 1) else i

/-! ## Single lines -/

/-- The fence that the line opens: its character, its length, and the rest of the line. -/
def fence? (s : Scope) (i : Nat) : Option (Char × Nat × Text) :=
  if s.isCode i then none
  else match (s.line i).body with
    | [] => none
    | c :: rest =>
      let more := rest.takeWhile (· = c)
      let info := rest.drop more.length
      if (c = Text.grave || c = '~') && 2 ≤ more.length && !(c = Text.grave && info.contains c) then
        some (c, more.length + 1, info)
      else none

/-- Does the line close a fence of this character and length? -/
def closesFence (s : Scope) (mark : Char) (length i : Nat) : Bool :=
  let body := (s.line i).body
  let run := body.takeWhile (· = mark)
  !run.isEmpty && !s.isCode i && length ≤ run.length && (body.drop run.length).all isSpace

/-- Does the line begin with the mark of a quote? -/
def isQuote (s : Scope) (i : Nat) : Bool := !s.isCode i && (s.line i).body.head? = some '>'

/-- Does the line consist of three or more asterisks, hyphens or underscores? -/
def isRule (s : Scope) (i : Nat) : Bool :=
  !s.isCode i && match (s.line i).body with
    | [] => false
    | c :: rest =>
      (c = '*' || c = '-' || c = '_') && rest.all (fun d => d = c || isSpace d) &&
        3 ≤ (c :: rest).count c

/-- The level of the heading that the line is, and its text. A closing run of number signs is no
part of the text if white space stands before it. -/
def heading? (s : Scope) (i : Nat) : Option (Nat × Text) :=
  if s.isCode i then none
  else
    let body := (s.line i).body
    let level := (body.takeWhile (· = '#')).length
    let rest := body.drop level
    if 1 ≤ level && level ≤ 6 && rest.head?.all isSpace then
      let rest := Text.dropEndWhile isSpace rest
      let bare := Text.dropEndWhile (· = '#') rest
      some (level, Text.trimWhite (if bare.getLast?.any isSpace then bare else rest))
    else none

/-- The block of raw HTML that the line begins: how it ends, and whether it may interrupt a
paragraph. -/
def rawHtml? (s : Scope) (i : Nat) : Option (RawHtml.BlockEnd × Bool) :=
  if s.isCode i then none else RawHtml.blockStart? (s.line i).body

/-! ## List items -/

/-- The mark of a list item. -/
structure ItemMark where
  /-- The value of an ordered item. -/
  number : Option Nat
  /-- The last character of the mark, which all items of a list share. -/
  char : Char
  /-- How many characters the mark has. -/
  length : Nat

/-- The mark that a text begins with. White space or the end follows it. -/
def itemMark? (body : Text) : Option ItemMark :=
  match body with
  | [] => none
  | c :: rest =>
    if Text.isDigit c then
      let digits := body.takeWhile Text.isDigit
      match body.drop digits.length with
      | d :: tail =>
        if digits.length ≤ 9 && (d = '.' || d = ')') && tail.head?.all isSpace then
          some ⟨some (digits.foldl (fun n c => 10 * n + (c.toNat - 48)) 0), d, digits.length + 1⟩
        else none
      | [] => none
    else if (c = '*' || c = '-' || c = '+') && rest.head?.all isSpace then some ⟨none, c, 1⟩
    else none

/-- The mark of the list item that the line begins. A list that would interrupt a paragraph begins
with an item that is not empty and, if it is ordered, with the number one. -/
def listItem? (s : Scope) (inParagraph : Bool) (i : Nat) : Option ItemMark :=
  let l := s.line i
  if s.isCode i then none
  else if s.listIndent.any (fun column => 4 ≤ l.indent - column) && s.isOutside i then none
  else match itemMark? l.body with
    | none => none
    | some mark =>
      let strict := inParagraph && !s.isOutside i
      if strict && (mark.number.any (· ≠ 1) || (l.body.drop mark.length).all isSpace) then none
      else some mark

/-! ## Tables -/

/-- The alignment of a column. -/
inductive Alignment where
  | left | right | center
  deriving DecidableEq, Repr

/-- The alignment that a cell of the delimiter row asks for: hyphens with a colon at either end.
`none` if it is no such cell. -/
def alignment? (cell : Text) : Option (Option Alignment) :=
  let colonFirst := cell.head? = some ':'
  let colonLast := cell.getLast? = some ':'
  let inner := if colonFirst then cell.drop 1 else cell
  let hyphens := if inner.getLast? = some ':' then inner.dropLast else inner
  if hyphens.isEmpty || !hyphens.all (· = '-') then none
  else some (if colonLast then some (if colonFirst then .center else .right)
    else if colonFirst then some .left else none)

/-- The alignments of the delimiter row's cells. The first and the last cell may be empty. -/
def alignmentsFrom (isFirst : Bool) : List Text → Option (List (Option Alignment))
  | [] => some []
  | cell :: more =>
    let cell := Text.trimWhite cell
    if cell.isEmpty then
      if isFirst || more.isEmpty then alignmentsFrom false more else none
    else match alignment? cell, alignmentsFrom false more with
      | some a, some as => some (a :: as)
      | _, _ => none

/-- Does the text consist of bars, hyphens, colons and white space, as a delimiter row does, and can
it not be taken for a list item? -/
def isDelimiterRow (body : Text) : Bool :=
  let isMark (c : Char) : Bool := c = '|' || c = '-' || c = ':'
  match body with
  | c :: d :: rest =>
    isMark c && (isMark d || isSpace d) && !(c = '-' && isSpace d) &&
      rest.all fun e => isMark e || isSpace e
  | _ => false

/-- The cells of a row, cut at bars that no backslash escapes; the backslash of an escaped bar goes.
`cell` is the cell being read, last character first. -/
def cellsFrom (escaped : Bool) (cell : Text) : Text → List Text
  | [] => [cell.reverse]
  | c :: rest =>
    if c = '|' then
      if escaped then cellsFrom false (c :: cell.drop 1) rest
      else cell.reverse :: cellsFrom false [] rest
    else cellsFrom (c = '\\') (c :: cell) rest

/-- The cells of a row, without the empty ones that bars at its ends make. -/
def rowCells (row : Text) : List Text :=
  let cells := cellsFrom false [] (Text.trimWhite row)
  let cells := if cells.head? = some [] then cells.drop 1 else cells
  if cells.getLast? = some [] then cells.dropLast else cells

/-- The header cells and alignments of the table that line `i` begins, within the lines before
`past`. -/
def table? (s : Scope) (i past : Nat) : Option (List Text × List (Option Alignment)) :=
  let delimiters := (s.line (i + 1)).body
  if past < i + 2 || s.isOutside (i + 1) || s.isCode (i + 1) || !isDelimiterRow delimiters then none
  else match alignmentsFrom true (Text.splitAtChar '|' delimiters) with
    | none => none
    | some alignments =>
      let header := Text.trimWhite (s.line i).body
      let cells := rowCells header
      if !header.contains '|' || s.isCode i || cells.isEmpty ||
          cells.length ≠ alignments.length then none
      else some (cells, alignments)

/-! ## Interruptions -/

/-- A block that another one may interrupt. -/
inductive Interruptible where
  | paragraph | reference | quote | list
  deriving DecidableEq, Repr

/-- Does line `i` begin a block that interrupts the one that is being read? -/
def interrupts (s : Scope) (what : Interruptible) (i past : Nat) : Bool :=
  ((what = .paragraph || what = .reference) && (s.table? i past).isSome) ||
    (s.fence? i).isSome || s.isQuote i || s.isRule i ||
    (what ≠ .list &&
      ((s.listItem? (what = .paragraph) i).isSome || (s.rawHtml? i).any (·.2) ||
        (s.heading? i).isSome))

end Scope
end LiveMarkdown.Markdown
