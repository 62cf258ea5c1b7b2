import LiveMarkdown.Html.Escape

/-!
# Tokens

A parsed document is a flat list of block tokens. Containers are an opening and a closing token with
their content between them; the running text of a paragraph, heading or cell is one token that holds
a list of inline tokens. Every token that begins a block knows the lines it came from.

The stages between parsing and writing replace the kinds of some tokens (a fence becomes a diagram
or highlighted code, math becomes a formula) and set attributes; they never add, drop or move one.
-/

namespace LiveMarkdown.Markdown

open Html (Attributes)

/-- Lines of a document, counted from zero: the first one and the first one after them. -/
structure Span where
  first : Nat
  past : Nat
  deriving DecidableEq, Repr, Inhabited

/-- Does a token open something, close it, or stand by itself? -/
inductive Nesting where
  | opening
  | closing
  | single
  deriving DecidableEq, Repr

/-! ## Inline tokens -/

/-- Marks around running text. -/
inductive Mark where
  | emphasis
  | strong
  | strike
  | link
  deriving DecidableEq, Repr

/-- The tag that a mark is written with. -/
def Mark.tag : Mark → Text
  | .emphasis => "em"
  | .strong => "strong"
  | .strike => "s"
  | .link => "a"

/-- The kinds of inline tokens. -/
inductive InlineKind where
  | text
  /-- A character that was escaped or referred to. It becomes text at the end of parsing. -/
  | special
  | code
  | softBreak
  | hardBreak
  | html
  /-- Math as it is written. -/
  | math (display : Bool)
  /-- Math as it is shown, in HTML. -/
  | formula (html : Text)
  | opening (mark : Mark)
  | closing (mark : Mark)
  /-- A picture. The content of the token is the text that stands for it. -/
  | image
  deriving DecidableEq, Repr

/-- A piece of running text. -/
structure Inline where
  kind : InlineKind
  content : Text := []
  attrs : Attributes := []
  deriving DecidableEq, Repr

/-- Does the token open, close or stand by itself? -/
def InlineKind.nesting : InlineKind → Nesting
  | .opening _ => .opening
  | .closing _ => .closing
  | _ => .single

/-- Plain text. -/
def Inline.ofText (t : Text) : Inline := { kind := .text, content := t }

/-- A link around tokens. -/
def linkTokens (attrs : Attributes) (content : List Inline) : List Inline :=
  { kind := .opening .link, attrs } :: content ++ [{ kind := .closing .link }]

/-! ## Block tokens -/

/-- Blocks with content between an opening and a closing token. -/
inductive Container where
  | paragraph
  | heading (level : Nat)
  | blockquote
  | bulletList
  | orderedList
  | listItem
  | table
  | tableHead
  | tableBody
  | tableRow
  | headerCell
  | dataCell
  deriving DecidableEq, Repr

/-- The tag that a container is written with. -/
def Container.tag : Container → Text
  | .paragraph => ['p']
  | .heading level => ['h', Char.ofNat (48 + level)]
  | .blockquote => "blockquote"
  | .bulletList => "ul"
  | .orderedList => "ol"
  | .listItem => "li"
  | .table => "table"
  | .tableHead => "thead"
  | .tableBody => "tbody"
  | .tableRow => "tr"
  | .headerCell => "th"
  | .dataCell => "td"

/-- The kinds of block tokens. -/
inductive Kind where
  | opening (c : Container)
  | closing (c : Container)
  /-- Running text; the content of the token is its source. -/
  | inline (children : List Inline)
  /-- Code that is set off by its indentation. -/
  | indentedCode
  /-- Code between fences, with the rest of the line that opens the fence. -/
  | fence (info : Text)
  /-- Display math, with its label if it has one. -/
  | math (label : Option Text)
  /-- Raw HTML. -/
  | html
  /-- A line across the page. -/
  | rule
  /-- A diagram, drawn by whoever shows the page. -/
  | diagram (language : Text)
  /-- Display math as it is shown, in HTML. -/
  | formula (html : Text)
  /-- Code as it is shown, in HTML, and the class of its element. -/
  | highlighted (html cls : Text)
  deriving DecidableEq, Repr

/-- A block token. -/
structure Token where
  kind : Kind
  attrs : Attributes := []
  /-- The lines the block came from. -/
  span : Option Span := none
  content : Text := []
  /-- A hidden token is not written: the paragraphs of a tight list. -/
  hidden : Bool := false
  deriving DecidableEq, Repr

/-- Does the token open, close or stand by itself? -/
def Kind.nesting : Kind → Nesting
  | .opening _ => .opening
  | .closing _ => .closing
  | _ => .single

/-- The inline tokens of a block token. -/
def Token.children (t : Token) : List Inline :=
  match t.kind with
  | .inline children => children
  | _ => []

/-- The level of the heading that the token opens. -/
def Token.headingLevel? (t : Token) : Option Nat :=
  match t.kind with
  | .opening (.heading level) => some level
  | _ => none

/-! ## Blocks of the top level -/

/-- The spans of the tokens that stand in no container, given how many are open. -/
def topLevelSpansFrom : (depth : Nat) → List Token → List (Option Span)
  | _, [] => []
  | depth, t :: rest =>
    match t.kind.nesting with
    | .opening =>
      if depth = 0 then t.span :: topLevelSpansFrom 1 rest else topLevelSpansFrom (depth + 1) rest
    | .closing => topLevelSpansFrom (depth - 1) rest
    | .single =>
      if depth = 0 then t.span :: topLevelSpansFrom 0 rest else topLevelSpansFrom depth rest

/-- The lines of each block of the top level that has any, in order. -/
def topLevelSpans (tokens : List Token) : List Span := (topLevelSpansFrom 0 tokens).filterMap id

end LiveMarkdown.Markdown
