import LiveMarkdown.Markdown.Token

/-!
# Writing HTML

The tokens of a document as HTML. Raw HTML goes through as it is; all other text is escaped. The tag
of a block stands on a line of its own unless running text or its own closing tag follows.
-/

namespace LiveMarkdown.Markdown

open Html (Attributes escape)

/-- An opening tag. -/
def openTag (tag : Text) (attrs : Attributes) : Text := '<' :: tag ++ attrs.toText ++ ['>']

/-- A closing tag. -/
def closeTag (tag : Text) : Text := '<' :: '/' :: tag ++ ['>']

/-- A tag that has no content. -/
def emptyTag (tag : Text) (attrs : Attributes) : Text :=
  '<' :: tag ++ attrs.toText ++ [' ', '/', '>']

/-- An element with content. -/
def element (tag : Text) (attrs : Attributes) (content : Text) : Text :=
  openTag tag attrs ++ content ++ closeTag tag

/-- An inline token as HTML. -/
def renderInline (t : Inline) : Text :=
  match t.kind with
  | .text | .special => escape t.content
  | .code => element "code" t.attrs (escape t.content)
  | .softBreak => ['\n']
  | .hardBreak => emptyTag ['b', 'r'] [] ++ ['\n']
  | .html => t.content
  | .math _ => escape t.content
  | .formula html => element "span" t.attrs html
  | .opening mark => openTag mark.tag t.attrs
  | .closing mark => closeTag mark.tag
  | .image => emptyTag "img" t.attrs

/-- Inline tokens as HTML. -/
def renderInlines (ts : List Inline) : Text := ts.flatMap renderInline

/-- Does the tag that opens `c` stand right before what follows it? -/
def hugsNext (c : Container) (rest : List Token) : Bool :=
  match rest with
  | [] => false
  | next :: _ => next.hidden || match next.kind with
    | .inline _ => true
    | .closing d => d.tag == c.tag
    | _ => false

/-- Code in its element, with a class unless that is empty. -/
def codeElement (attrs : Attributes) (cls content : Text) : Text :=
  let classes : Attributes := if cls.isEmpty then [] else [("class", cls)]
  element "pre" attrs (element "code" classes content) ++ ['\n']

/-- A block token as HTML, given whether the token before it is hidden and the tokens after it. -/
def renderToken (afterHidden : Bool) (t : Token) (rest : List Token) : Text :=
  let gap : Text := if afterHidden then ['\n'] else []
  if t.hidden then []
  else match t.kind with
    | .opening c => gap ++ openTag c.tag t.attrs ++ (if hugsNext c rest then [] else ['\n'])
    | .closing c => closeTag c.tag ++ ['\n']
    | .inline children => renderInlines children
    | .indentedCode | .fence _ => codeElement t.attrs [] (escape t.content)
    | .math _ => element "div" t.attrs (escape t.content) ++ ['\n']
    | .html => t.content
    | .rule => gap ++ emptyTag ['h', 'r'] t.attrs ++ ['\n']
    | .diagram _ => element "div" t.attrs (escape t.content) ++ ['\n']
    | .formula html => element "div" t.attrs html ++ ['\n']
    | .highlighted html cls => codeElement t.attrs cls html

/-- Tokens as HTML, given whether the token before them is hidden. -/
def renderFrom : (afterHidden : Bool) → List Token → Text
  | _, [] => []
  | afterHidden, t :: rest => renderToken afterHidden t rest ++ renderFrom t.hidden rest

/-- Tokens as HTML. -/
def render (tokens : List Token) : Text := renderFrom false tokens

end LiveMarkdown.Markdown
