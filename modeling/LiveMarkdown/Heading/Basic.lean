import LiveMarkdown.Text.Blank
import LiveMarkdown.Markdown.Token

/-!
# Headings

The headings of a document, at any depth, with the text that they are known by: what the writer
spelled out, without marks, pictures, formulas and raw HTML.
-/

namespace LiveMarkdown

open Markdown (Inline Token)

/-- What an inline token adds to the text of a heading. -/
def Markdown.Inline.literal (t : Inline) : Text :=
  match t.kind with
  | .text | .code => t.content
  | .softBreak | .hardBreak => ['\n']
  | _ => []

/-- The text of running text. -/
def literalText (ts : List Inline) : Text := ts.flatMap Markdown.Inline.literal

/-- The text of the heading that stands right before the tokens. -/
def headingText : List Token → Text
  | [] => []
  | t :: _ => literalText t.children

/-- A heading of a document. -/
structure Heading where
  level : Nat
  text : Text
  /-- The line that the heading begins on, counted from one; zero if it came from no line. -/
  line : Nat
  deriving DecidableEq, Repr

/-- The headings among the tokens, in order. -/
def headings : List Token → List Heading
  | [] => []
  | t :: rest =>
    match t.headingLevel? with
    | some level =>
      { level, text := headingText rest, line := t.span.elim 0 (·.first + 1) } :: headings rest
    | none => headings rest

/-- The headings that say something. The others have no slug. -/
def namedHeadings (tokens : List Token) : List Heading :=
  (headings tokens).filter (!Text.allBlank ·.text)

end LiveMarkdown
