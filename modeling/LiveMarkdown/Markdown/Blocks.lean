import LiveMarkdown.Markdown.Reference
import LiveMarkdown.Markdown.Token

/-!
# Blocks

The blocks of a document as tokens. At each line the kinds of blocks are tried in a fixed order, and
the first that the line begins takes as many lines as it can; a paragraph is what begins when
nothing else does. Quotes and lists read their content the same way, on the lines as they see them,
so the reader is handed to them; it can be handed on only so often, which bounds how deep containers
nest.

Running text is left as it is written: it is read when all definitions are known.
-/

namespace LiveMarkdown.Markdown

/-- What has been read: tokens, the line that comes next, whether no empty line came before the last
block, and the definitions known so far. -/
structure Parsed where
  tokens : List Token := []
  next : Nat
  tight : Bool := true
  refs : References

/-- A reader of the lines from `first` up to but not including `past`. -/
abbrev Reader := Scope → (first past : Nat) → References → Parsed

/-- A block with running text: its opening token, the text, and its closing token. -/
def textBlock (c : Container) (content : Text) (first past textPast : Nat) : List Token :=
  [{ kind := .opening c, span := some ⟨first, past⟩ },
   { kind := .inline [], content, span := some ⟨first, textPast⟩ },
   { kind := .closing c }]

namespace Scope

/-! ## Code, fences, raw HTML -/

/-- The line after the last line of indented code, when the code reaches `reached`; at most `fuel`
lines on. -/
def codeEnd (s : Scope) (past : Nat) : (fuel reached i : Nat) → Nat
  | 0, reached, _ => reached
  | fuel + 1, reached, i =>
    if past ≤ i then reached
    else if s.isEmpty i then codeEnd s past fuel reached (i + 1)
    else if s.isCode i then codeEnd s past fuel (i + 1) (i + 1)
    else reached

/-- The line that closes a fence, or where the fence ends without one. -/
def fenceEnd (s : Scope) (mark : Char) (length past : Nat) : (fuel i : Nat) → Nat × Bool
  | 0, i => (i, false)
  | fuel + 1, i =>
    let l := s.line i
    if past ≤ i then (i, false)
    else if !l.isEmpty && s.isOutside i then (i, false)
    else if l.isEmpty && !l.terminated then (i, false)
    else if s.closesFence mark length i then (i, true)
    else fenceEnd s mark length past fuel (i + 1)

/-- The line after a block of raw HTML whose first line has not ended it. An empty line counts as
part of the block however little it is indented. -/
def htmlEnd (s : Scope) (e : RawHtml.BlockEnd) (past : Nat) : (fuel i : Nat) → Nat
  | 0, i => i
  | fuel + 1, i =>
    let body := (s.line i).body
    if past ≤ i || (s.isOutside i && !body.isEmpty) then i
    else
      if e.isReached body then (if body.isEmpty then i else i + 1)
      else htmlEnd s e past fuel (i + 1)

/-! ## Display math -/

/-- The label at the end of a line that closes display math: the label and how many characters the
closing mark takes with it. -/
def mathLabel? (body : Text) : Option (Text × Nat) :=
  let inLabel : Pattern := .one fun c => c ≠ ')' && c ≠ '$' && c ≠ '\r' && c ≠ '\n'
  let size (s : Place) : Nat := s.rest.length
  let front : Pattern := .many none .blank ++ .char ')'
  front.follow (.start body.reverse) fun a =>
    (inLabel ++ .few inLabel).follow a fun b =>
      (Pattern.char '(' ++ .many none .blank ++ .text ['$', '$']).follow b fun c =>
        some ((a.rest.take (size a - size b)).reverse, body.length - size c)

/-- How the content of a line ends that may close display math: the label, if there is one, and how
many characters are no content. -/
def mathClosing? (body : Text) : Option (Option Text × Nat) :=
  let trimmed := Text.trim body
  if Text.endsWith trimmed ['$', '$'] then some (none, 2 + (body.length - trimmed.length))
  else (mathLabel? body).map fun (label, size) => (some label, size)

/-- The line among those from `i` on that closes display math, with its label and its end. -/
def mathEnd? (s : Scope) (past : Nat) : (fuel i : Nat) → Option (Nat × Option Text × Nat)
  | 0, _ => none
  | fuel + 1, i =>
    if past ≤ i then none
    else match mathClosing? (s.line i).body with
      | some (label, size) => some (i, label, size)
      | none => mathEnd? s past fuel (i + 1)

/-- The display math that line `i` begins: its source, its label, and the line after it. Two dollar
signs open it; they may close it on the same line, but not with more of them in between. -/
def math? (s : Scope) (i past : Nat) : Option (Text × Option Text × Nat) :=
  let body := (s.line i).body
  if s.isCode i then none
  else match body with
    | '$' :: '$' :: rest =>
      let isLong := 3 < (Text.trim body).length
      match if isLong then mathClosing? body else none with
      | some (label, size) => some (rest.take (body.length - size - 2), label, i + 1)
      | none =>
        if isLong && Text.includes rest ['$', '$'] then none
        else (mathEnd? s past (past - i) (i + 1)).map fun (last, label, size) =>
          let between := (s.range (i + 1) last).map (·.chars)
          let closing := (s.line last).chars
          let content := rest :: between ++ [closing.take (closing.length - size)]
          (Text.unlines content, label, last + 1)
    | _ => none

/-! ## Paragraphs and underlined headings -/

/-- The line after a paragraph that goes on at line `i`: an empty line ends it, and a block that
interrupts it, but no line that is indented as far as code or only continues a quote. -/
def paragraphEnd (s : Scope) : (fuel i : Nat) → Nat
  | 0, i => i
  | fuel + 1, i =>
    if s.limit ≤ i || s.isEmpty i then i
    else if s.isCode i || (s.line i).indent < 0 then paragraphEnd s fuel (i + 1)
    else if s.interrupts .paragraph i s.limit then i
    else paragraphEnd s fuel (i + 1)

/-- The level of the heading that a line underlines. -/
def underline? (body : Text) : Option Nat :=
  match body with
  | [] => none
  | c :: _ =>
    if (c = '=' || c = '-') && (body.dropWhile (· = c)).all isSpace then
      some (if c = '=' then 1 else 2)
    else none

/-- The line that underlines a heading whose text goes on at line `i`, and the heading's level. -/
def underlined? (s : Scope) (past : Nat) : (fuel i : Nat) → Option (Nat × Nat)
  | 0, _ => none
  | fuel + 1, i =>
    if past ≤ i || s.isEmpty i then none
    else if s.isCode i then underlined? s past fuel (i + 1)
    else match if s.isOutside i then none else underline? (s.line i).body with
      | some level => some (i, level)
      | none =>
        if (s.line i).indent < 0 then underlined? s past fuel (i + 1)
        else if s.interrupts .paragraph i past then none
        else underlined? s past fuel (i + 1)

/-- The text of lines, as a paragraph has it. -/
def paragraphText (s : Scope) (first past : Nat) : Text :=
  Text.trimWhite (cutLines s.indent false (s.range first past))

/-! ## Tables -/

/-- A row of a table. Cells that are missing are empty, and cells that are too many are left out. -/
def row (cell : Container) (alignments : List (Option Alignment)) (cells : List Text) (i : Nat) :
    List Token :=
  let span : Option Span := some ⟨i, i + 1⟩
  { kind := .opening .tableRow, span } ::
    (alignments.zipIdx.flatMap fun (alignment, k) =>
      [{ kind := .opening cell, attrs := style alignment },
       { kind := .inline [], content := Text.trimWhite (cells.getD k []), span },
       { kind := .closing cell }]) ++
    [{ kind := .closing .tableRow }]
where
  /-- The attribute that aligns a cell. -/
  style : Option Alignment → Html.Attributes
    | none => []
    | some .left => [("style", "text-align:left")]
    | some .right => [("style", "text-align:right")]
    | some .center => [("style", "text-align:center")]

/-- The most cells that a table may be filled up with. -/
def maxFilledCells : Int := 65536

/-- The rows of a table from line `i` on, and the line after them. `filled` counts the cells that
have been added to short rows, less those left out of long ones. -/
def rows (s : Scope) (alignments : List (Option Alignment)) (past : Nat) :
    (fuel : Nat) → (filled : Int) → (i : Nat) → List Token × Nat
  | 0, _, i => ([], i)
  | fuel + 1, filled, i =>
    let content := Text.trimWhite (s.line i).body
    if past ≤ i || s.isOutside i || s.interrupts .quote i past || content.isEmpty || s.isCode i then
      ([], i)
    else
      let cells := rowCells content
      let filled := filled + (alignments.length - cells.length : Int)
      if maxFilledCells < filled then ([], i)
      else
        let (more, next) := rows s alignments past fuel filled (i + 1)
        (row .dataCell alignments cells i ++ more, next)

/-- The table that begins at line `i` with the given header. -/
def tableTokens (s : Scope) (i past : Nat) (header : List Text)
    (alignments : List (Option Alignment)) : List Token × Nat :=
  let (body, next) := s.rows alignments past (past - i) 0 (i + 2)
  let headSpan : Option Span := some ⟨i, i + 1⟩
  let body := if body.isEmpty then []
    else { kind := .opening .tableBody, span := some ⟨i + 2, next⟩ } :: body ++
      [{ kind := .closing .tableBody }]
  ({ kind := .opening .table, span := some ⟨i, next⟩ } ::
    { kind := .opening .tableHead, span := headSpan } ::
    row .headerCell alignments header i ++ { kind := .closing .tableHead } :: body ++
    [{ kind := .closing .table }], next)

/-! ## Quotes -/

/-- A line that begins with the mark of a quote, as the quote sees it. A space after the mark
belongs to it; of a tab it takes one column. -/
def quoteLine (l : Line) : Line :=
  let column := l.indent.toNat + 1
  let rest := l.body.drop 1
  let isApart := rest.head?.any isSpace
  let base := l.column + column + (if isApart then 1 else 0)
  let chars := match rest with
    | ' ' :: tail => tail
    | '\t' :: tail => if (l.column + column) % 4 = 3 then tail else rest
    | _ => rest
  let (count, reached) := leadingSpace base chars
  { chars, shift := count, indent := reached - base, terminated := l.terminated
    column := column + (if isApart then 1 else 0) }

/-- The lines of a quote: those from `i` on that it takes, as it sees them, the first line after it,
and whether a block interrupts it there. A line without a mark goes on with the quote unless the
line before it, as the quote sees that, is empty. -/
def quoteLines (s : Scope) (past : Nat) : (fuel : Nat) → (wasEmpty : Bool) → (i : Nat) →
    List Line × Nat × Bool
  | 0, _, i => ([], i, false)
  | fuel + 1, wasEmpty, i =>
    let l := s.line i
    if past ≤ i || l.isEmpty then ([], i, false)
    else if l.body.head? = some '>' && !s.isOutside i then
      let l := quoteLine l
      let (more, next) := quoteLines s past fuel l.isEmpty (i + 1)
      (l :: more, next)
    else if wasEmpty then ([], i, false)
    else if s.interrupts .quote i past then ([], i, true)
    else
      let (more, next) := quoteLines s past fuel wasEmpty (i + 1)
      ({ l with indent := -1 } :: more, next)

/-- The lines with those from `i` on replaced. -/
def replaceLines (lines : Array Line) (i : Nat) : List Line → Array Line
  | [] => lines
  | l :: more => replaceLines (lines.setIfInBounds i l) (i + 1) more

/-- The quote that begins at line `i`. A block that interrupts it hides what follows from its
paragraphs. -/
def quote (read : Reader) (s : Scope) (i past : Nat) (refs : References) : Parsed :=
  let first := quoteLine (s.line i)
  let (more, stop, interrupted) := s.quoteLines past (past - i) first.isEmpty (i + 1)
  let lines := replaceLines s.lines i (first :: more)
  let lines :=
    if interrupted then
      let l := s.line stop
      lines.setIfInBounds stop { l with indent := l.indent - s.indent }
    else lines
  let inner := { s with lines, indent := 0, limit := if interrupted then stop else s.limit }
  let r := read inner i stop refs
  { r with tokens :=
      { kind := .opening .blockquote, span := some ⟨i, r.next⟩ } :: r.tokens ++
        [{ kind := .closing .blockquote }] }

/-! ## Lists -/

/-- The spaces and tabs after the mark of an item: how many, and the column they reach. -/
def itemSpace (l : Line) (mark : ItemMark) : Nat × Nat :=
  let start := l.indent.toNat + mark.length
  let (count, reached) := leadingSpace (start + l.column) (l.body.drop mark.length)
  (count, reached - l.column)

/-- The scope of the item that line `i` begins: its content begins after the mark and the space
after that, or one column after the mark if the line ends there or code begins. -/
def itemScope (s : Scope) (i : Nat) (mark : ItemMark) : Scope :=
  let l := s.line i
  let start := l.indent.toNat + mark.length
  let (count, reached) := itemSpace l mark
  let shift := l.shift + mark.length + count
  let space :=
    if l.chars.length ≤ shift then 1 else if 4 < reached - start then 1 else reached - start
  { s with
    lines := s.lines.setIfInBounds i { l with shift, indent := reached }
    indent := start + space
    listIndent := some s.indent }

/-- Hides the paragraphs that stand directly in a list item; `depth` counts the containers that are
open in it. -/
def hideParagraphs : (depth : Nat) → List Token → List Token
  | _, [] => []
  | depth, t :: rest =>
    match t.kind with
    | .opening c =>
      (if depth = 0 && c = .paragraph then { t with hidden := true } else t) ::
        hideParagraphs (depth + 1) rest
    | .closing c =>
      (if depth = 1 && c = .paragraph then { t with hidden := true } else t) ::
        hideParagraphs (depth - 1) rest
    | _ => t :: hideParagraphs depth rest

/-- The items of a list from line `i` on, where `mark` stands: the content of each with its lines,
the line after the list, whether no empty line parts the items or their blocks, and the definitions.
`wasLoose` tells whether the item before ended with an empty line. -/
def items (read : Reader) (s : Scope) (past : Nat) :
    (fuel : Nat) → (wasLoose : Bool) → (mark : ItemMark) → (i : Nat) → References →
      List (List Token × Span) × Nat × Bool × References
  | 0, _, _, i, refs => ([], i, true, refs)
  | fuel + 1, wasLoose, mark, i, refs =>
    let inner := s.itemScope i mark
    let r : Parsed :=
      if inner.isEmpty i && inner.isEmpty (i + 1) then { next := min (i + 2) past, refs }
      else read inner i past refs
    let tight := r.tight && !wasLoose
    let isLoose := 1 < r.next - i && inner.isEmpty (r.next - 1)
    let item := (r.tokens, (⟨i, r.next⟩ : Span))
    let next? : Option ItemMark :=
      if past ≤ r.next || s.isOutside r.next || s.isCode r.next ||
          s.interrupts .list r.next past then
        none
      else (itemMark? (s.line r.next).body).bind fun m =>
        if m.char = mark.char && m.number.isSome = mark.number.isSome then some m else none
    match next? with
    | none => ([item], r.next, tight, r.refs)
    | some m =>
      let (more, next, restTight, refs) := items read s past fuel isLoose m r.next r.refs
      (item :: more, next, tight && restTight, refs)

/-- The list that begins at line `i`. The paragraphs of a tight list are hidden. -/
def list (read : Reader) (s : Scope) (mark : ItemMark) (i past : Nat) (refs : References) :
    Parsed :=
  let (items, next, tight, refs) := s.items read past (past - i) false mark i refs
  let container : Container := if mark.number.isSome then .orderedList else .bulletList
  let attrs : Html.Attributes := match mark.number with
    | none => []
    | some n => if n = 1 then [] else [("start", Text.ofNat n)]
  let content := items.flatMap fun (tokens, span) =>
    { kind := .opening .listItem, span := some span } ::
      (if tight then hideParagraphs 0 tokens else tokens) ++ [{ kind := .closing .listItem }]
  { tokens := { kind := .opening container, attrs, span := some ⟨i, next⟩ } :: content ++
      [{ kind := .closing container }]
    next, refs }

/-! ## One block, and all blocks -/

/-- The block that begins at line `i`. `readQuote` reads the content of a quote, `readItem` that of
a list item. -/
def block (readQuote readItem : Reader) (s : Scope) (i past : Nat) (refs : References) : Parsed :=
  let one (next : Nat) (t : Token) : Parsed :=
    { tokens := [{ t with span := some ⟨i, next⟩ }], next, refs }
  let isCode := s.isCode i
  match s.table? i past with
  | some (header, alignments) =>
    let (tokens, next) := s.tableTokens i past header alignments
    { tokens, next, refs }
  | none =>
  if isCode then
    let next := s.codeEnd past (past - i) (i + 1) (i + 1)
    one next
      { kind := .indentedCode, content := cutLines (4 + s.indent) false (s.range i next) ++ ['\n'] }
  else match s.math? i past with
  | some (content, label, next) => one next { kind := .math label, content }
  | none =>
  match s.fence? i with
  | some (mark, length, info) =>
    let (last, closed) := s.fenceEnd mark length past (past - i) (i + 1)
    one (if closed then last + 1 else last)
      { kind := .fence info
        content := cutLines (s.line i).indent.toNat true (s.range (i + 1) last) }
  | none =>
  if s.isQuote i then s.quote readQuote i past refs
  else if s.isRule i then one (i + 1) { kind := .rule }
  else match s.listItem? false i with
  | some mark => s.list readItem mark i past refs
  | none =>
  match s.reference? i with
  | some (label, r, next) => { next, refs := refs.define label r }
  | none =>
  match s.rawHtml? i with
  | some (e, _) =>
    let next := if e.isReached (s.line i).body then i + 1 else s.htmlEnd e past (past - i) (i + 1)
    one next { kind := .html, content := cutLines s.indent true (s.range i next) }
  | none =>
  match s.heading? i with
  | some (level, content) =>
    { tokens := textBlock (.heading level) content i (i + 1) (i + 1), next := i + 1, refs }
  | none =>
  match s.underlined? past (past - i) (i + 1) with
  | some (last, level) =>
    { tokens := textBlock (.heading level) (s.paragraphText i last) i (last + 1) last
      next := last + 1, refs }
  | none =>
    let next := s.paragraphEnd (s.limit - i) (i + 1)
    { tokens := textBlock .paragraph (s.paragraphText i next) i next next, next, refs }

/-- The blocks from line `i` on, at most `fuel` of them. `hasGap` tells whether an empty line has
been passed. -/
def blocks (readQuote readItem : Reader) (s : Scope) (past : Nat) :
    (fuel : Nat) → (hasGap tight : Bool) → (i : Nat) → References → Parsed
  | 0, _, tight, i, refs => { next := i, tight, refs }
  | fuel + 1, hasGap, tight, i, refs =>
    let i := s.skipEmpty (s.limit - i) i
    if past ≤ i || s.isOutside i then { next := i, tight, refs }
    else
      let b := s.block readQuote readItem i past refs
      let gapBefore := b.next - 1 < past && s.isEmpty (b.next - 1)
      let gapAfter := b.next < past && s.isEmpty b.next
      let next := if gapAfter then b.next + 1 else b.next
      if past ≤ next then
        { tokens := b.tokens, next, tight := !hasGap, refs := b.refs }
      else
        let r := blocks readQuote readItem s past fuel (hasGap || gapBefore || gapAfter) (!hasGap)
          next b.refs
        { r with tokens := b.tokens ++ r.tokens }

/-- The reader of containers that may nest `depth` levels deep. A quote takes one level, a list and
its item two. -/
def reader : (depth : Nat) → Reader
  | 0 => fun s first past refs =>
    let i := s.skipEmpty (s.limit - first) first
    if past ≤ i || s.isOutside i then { next := i, refs } else { next := past, refs }
  | 1 => fun s first past refs =>
    s.blocks (reader 0) (reader 0) past (past - first + 1) false true first refs
  | depth + 2 => fun s first past refs =>
    s.blocks (reader (depth + 1)) (reader depth) past (past - first + 1) false true first refs

end Scope

/-- The blocks of a source text, with running text as it is written, and the definitions in it. -/
def blockTokens (source : Text) : List Token × References :=
  let lines := (Line.ofSource source).toArray
  let s : Scope := { lines, limit := lines.size }
  let r := Scope.reader maxNesting s 0 lines.size []
  (r.tokens, r.refs)

end LiveMarkdown.Markdown
