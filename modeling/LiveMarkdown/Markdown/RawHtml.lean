import LiveMarkdown.Text.Pattern

/-!
# Raw HTML

What counts as a tag, comment, processing instruction, declaration or section of character data in
the source of a document, and which lines begin a block of raw HTML and which end it.
-/

namespace LiveMarkdown.Markdown.RawHtml

open Pattern Text

/-! ## Tags and their like -/

def tagName : Pattern := one isLetter ++ many none (one fun c => isLetterOrDigit c || c = '-')

/-- A value of an attribute: bare, or in quotes of either kind. -/
def attributeValue : Pattern :=
  several (one fun c => !(c.toNat ≤ 32) && !"\"'=<>\x60".toList.contains c) <|>
    char '\'' ++ many none (one (· ≠ '\'')) ++ char '\'' <|>
    char '"' ++ many none (one (· ≠ '"')) ++ char '"'

/-- An attribute with the white space before it. -/
def attributeSpec : Pattern :=
  several blank ++ one (fun c => isLetter c || c = '_' || c = ':') ++
    many none (one fun c => isLetterOrDigit c || "_.:-".toList.contains c) ++
    optional (many none blank ++ char '=' ++ many none blank ++ attributeValue)

def openTag : Pattern :=
  char '<' ++ tagName ++ many none attributeSpec ++ many none blank ++ optional (char '/') ++
    char '>'

def closeTag : Pattern := text "</" ++ tagName ++ many none blank ++ char '>'

def comment : Pattern :=
  text "<!-" ++ text "-" ++ optional (char '-') ++ char '>' <|>
    text "<!--" ++
      many none (one (· ≠ '-') <|> char '-' ++ one (· ≠ '-') <|> text "--" ++ one (· ≠ '>')) ++
      text "-->"

def instruction : Pattern := text "<?" ++ few (one fun _ => true) ++ text "?>"

def declaration : Pattern := text "<!" ++ one isLetter ++ many none (one (· ≠ '>')) ++ char '>'

def characterData : Pattern := text "<![CDATA[" ++ few (one fun _ => true) ++ text "]]>"

/-- Anything that raw HTML may consist of in running text. -/
def tag : Pattern :=
  choice [openTag, closeTag, comment, instruction, declaration, characterData]

/-- The tag that opens a link. -/
def isLinkOpening (t : Text) : Bool := (textFold "<a" ++ (char '>' <|> blank)).begins t

/-- The tag that closes a link. -/
def isLinkClosing (t : Text) : Bool := (textFold "</a" ++ many none blank ++ char '>').begins t

/-! ## Blocks -/

/-- The elements whose tags begin a block wherever they stand at the front of a line. -/
def blockElements : List String :=
  ["address", "article", "aside", "base", "basefont", "blockquote", "body", "caption", "center",
   "col", "colgroup", "dd", "details", "dialog", "dir", "div", "dl", "dt", "fieldset",
   "figcaption", "figure", "footer", "form", "frame", "frameset", "h1", "h2", "h3", "h4", "h5",
   "h6", "head", "header", "hr", "html", "iframe", "legend", "li", "link", "main", "menu",
   "menuitem", "nav", "noframes", "ol", "optgroup", "option", "p", "param", "search", "section",
   "summary", "table", "tbody", "td", "tfoot", "th", "thead", "title", "tr", "track", "ul"]

/-- Does one of the names stand at the front of the text, and what may follow a name after it? -/
def startsWithName (names : List String) (after : Pattern) (t : Text) : Bool :=
  names.any fun name => (textFold name ++ after).begins t

/-- How a block of raw HTML ends. -/
inductive BlockEnd where
  /-- With the line in which the text occurs, up to the case of letters. -/
  | marked (marks : List Text)
  /-- Before the next blank line. -/
  | blankLine
  deriving DecidableEq, Repr

/-- What follows the name of an element. -/
def afterName : Pattern := blank <|> char '>' <|> atEnd

/-- The elements whose content is no markup. -/
def literalElements : List String := ["script", "pre", "style", "textarea"]

/-- How the block ends that a line begins, if it begins one, and whether that line may interrupt a
paragraph. -/
def blockStart? (line : Text) : Option (BlockEnd × Bool) :=
  match line with
  | '<' :: rest =>
    if startsWithName literalElements afterName rest then
      some (.marked (literalElements.map fun n => ("</" ++ n ++ ">").toList), true)
    else if startsWith rest "!--" then some (.marked ["-->"], true)
    else if startsWith rest "?" then some (.marked ["?>"], true)
    else if (char '!' ++ one isLetter).begins rest then
      some (.marked [">"], true)
    else if startsWith rest "![CDATA[" then some (.marked ["]]>"], true)
    else if startsWithName blockElements (blank <|> optional (char '/') ++ char '>' <|> atEnd)
        (match rest with | '/' :: r => r | r => r) then
      some (.blankLine, true)
    else if ((openTag <|> closeTag) ++ many none blank).covers line then some (.blankLine, false)
    else none
  | _ => none

/-- Is the line the last one of a block that ends so? -/
def BlockEnd.isReached (e : BlockEnd) (line : Text) : Bool :=
  match e with
  | .marked marks => marks.any fun m => includes (line.map foldCase) m
  | .blankLine => line.isEmpty

end LiveMarkdown.Markdown.RawHtml
