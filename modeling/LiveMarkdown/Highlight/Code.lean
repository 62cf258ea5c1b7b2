import LiveMarkdown.Highlight.Style
import LiveMarkdown.Text.Blank
import LiveMarkdown.Text.Case

/-!
# Highlighted code

`highlight` gives the HTML of a piece of code and the class of its element. The language is the one
that the writer names, or else, if that is wanted, one that the code looks like. Code in no language
that is known is shown as it is, with a class for the language that was named.

Which languages there are, what code looks like, and how code is cut into pieces is for a
`Highlighter` to say, which comes from outside: nothing here or in what follows depends on it.
-/

namespace LiveMarkdown.Highlight

/-- A language that code can be cut into pieces for. -/
structure Language where
  name : Text
  /-- Short names. The first one is to be used where the writer names none. -/
  aliases : List Text
  /-- Plain text, which is a language only for writers who name it. -/
  isText : Bool := false
  pieces : Text → List Piece

/-- The name to use where the writer names none. -/
def Language.shortName (l : Language) : Text := l.aliases.headD (Text.lower l.name)

/-- Who knows languages. -/
structure Highlighter where
  /-- The language of a name. -/
  named? : Text → Option Language
  /-- The language that code looks like. -/
  guessed? : Text → Option Language

/-- The language to highlight code in, if there is one: the one that is named, or else, if that is
wanted, the one that the code looks like. An empty name is none. -/
def Highlighter.find? (h : Highlighter) (code : Text) (name : Option Text) (detect : Bool) :
    Option Language :=
  match name.filter (!·.isEmpty) with
  | some name => h.named? name
  | none =>
    if !detect || Text.allBlank code then none else (h.guessed? code).filter (!·.isText)

/-- Code in HTML and the class of its element; an empty class is none. -/
def highlight (h : Highlighter) (code : Text) (name : Option Text) (detect : Bool)
    (codeClass : Text) : Text × Text :=
  let named := name.filter (!·.isEmpty)
  let languageClass (name : Text) : Text := "language-" ++ name
  match h.find? code name detect with
  | none => (Html.escape code, named.elim [] languageClass)
  | some l =>
    (spans (l.pieces code), codeClass ++ ' ' :: languageClass (named.getD l.shortName))

end LiveMarkdown.Highlight
