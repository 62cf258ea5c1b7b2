import LiveMarkdown.Config
import LiveMarkdown.Diagram.Labels
import LiveMarkdown.Heading.Basic
import LiveMarkdown.Heading.Slug
import LiveMarkdown.Highlight.Code
import LiveMarkdown.Math.Formula

/-!
# From tokens of the source to tokens of the preview

Between parsing and writing, each stage replaces or marks some tokens: fences with a diagram become
diagrams, math becomes formulas, code becomes highlighted code, headings get ids, and what is shown
gets the source line that it came from. No stage adds, drops or moves a token.

Diagrams and formulas begin with attributes of their own; the source line is set last, so that they
have it, too.
-/

namespace LiveMarkdown

open Markdown (Inline InlineKind Kind Token)

/-! ## Diagrams -/

/-- The language of a fence: the first word of the line that opens it, in small letters. -/
def fenceLanguage (info : Text) : Text := Text.lower (Text.firstWord info)

/-- A fence with a diagram as a diagram. -/
def Markdown.Token.toDiagram (c : Config) (t : Token) : Token :=
  match t.kind with
  | .fence info =>
    let language := fenceLanguage info
    if c.diagramLanguages.contains language then
      let source := Diagram.wrap c.icons (Text.dropEndWhile (· = '\n') t.content)
      { t with
        kind := .diagram language
        attrs := [("class", language), ("data-" ++ language, source)]
        content := source }
    else t
  | _ => t

/-! ## Formulas -/

/-- Math in running text as a formula. -/
def Markdown.Inline.toFormula (t : Inline) : Inline :=
  match t.kind with
  | .math display =>
    { t with
      kind := .formula (Math.formulaHtml t.content display)
      attrs := Math.formulaAttributes display }
  | _ => t

/-- Math as formulas. -/
def Markdown.Token.toFormula (t : Token) : Token :=
  match t.kind with
  | .math label =>
    let id : Html.Attributes := match label with
      | none | some [] => []
      | some label => [("id", Math.labelId label)]
    { t with
      kind := .formula (Math.formulaHtml t.content true)
      attrs := Math.formulaAttributes true ++ id }
  | .inline children => { t with kind := .inline (children.map Markdown.Inline.toFormula) }
  | _ => t

/-! ## Code -/

/-- Code as highlighted code. -/
def Markdown.Token.toHighlighted (c : HighlightConfig) (t : Token) : Token :=
  let highlighted (language : Option Text) : Token :=
    let (html, cls) := Highlight.highlight c.highlighter t.content language c.detect c.codeClass
    { t with kind := .highlighted html cls }
  match t.kind with
  | .fence info => highlighted (some (fenceLanguage info))
  | .indentedCode => highlighted none
  | _ => t

/-! ## Ids of headings -/

/-- The tokens with an id for each heading that says something. -/
def assignIds : Slugger → List Token → List Token
  | _, [] => []
  | s, t :: rest =>
    if t.headingLevel?.isSome && !Text.allBlank (headingText rest) then
      let (slug, s) := s.issue (headingText rest)
      { t with attrs := t.attrs.set "id" slug } :: assignIds s rest
    else t :: assignIds s rest

/-! ## Source lines -/

/-- The attribute that holds the source line. -/
def sourceLineAttribute : Text := "data-source-line"

/-- Is an inline token an element that can have a source line? -/
def isInlineElement : InlineKind → Bool
  | .opening _ | .code | .image | .formula _ => true
  | _ => false

/-- Inline tokens with their source lines; `line` is that of the first one. -/
def markInlineLines : (line : Nat) → List Inline → List Inline
  | _, [] => []
  | line, t :: rest =>
    match t.kind with
    | .softBreak | .hardBreak => t :: markInlineLines (line + 1) rest
    | kind =>
      (if isInlineElement kind then
        { t with attrs := t.attrs.set sourceLineAttribute (Text.ofNat line) }
      else t) :: markInlineLines line rest

/-- A token with its source line. Raw HTML has no element to put it on. -/
def Markdown.Token.withLine (t : Token) : Token :=
  match t.span with
  | none => t
  | some span =>
    let line := span.first + 1
    match t.kind with
    | .inline children => { t with kind := .inline (markInlineLines line children) }
    | .closing _ | .html => t
    | _ => { t with attrs := t.attrs.set sourceLineAttribute (Text.ofNat line) }

/-! ## All stages -/

/-- The stages before headings have their ids. -/
def replaceTokens (c : Config) (tokens : List Token) : List Token :=
  tokens.map fun t => ((t.toDiagram c).toFormula).toHighlighted c.highlight

/-- The stages for a block. Its headings get their ids later, from the table of the document. -/
def blockStages (c : Config) (tokens : List Token) : List Token :=
  (replaceTokens c tokens).map Markdown.Token.withLine

/-- The stages for a document. -/
def documentStages (c : Config) (tokens : List Token) : List Token :=
  (assignIds {} (replaceTokens c tokens)).map Markdown.Token.withLine

end LiveMarkdown
