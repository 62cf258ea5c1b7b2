import LiveMarkdown.Highlight.Changes
import LiveMarkdown.Highlight.Code
import LiveMarkdown.Highlight.Json
import LiveMarkdown.Highlight.Maxima
import LiveMarkdown.Highlight.Python

/-!
# The languages at hand

The highlighter of the program knows plain text, JSON, lists of changes, Python and Maxima by their
names, and finds lists of changes and Maxima in code that nobody has named a language for. Another
one may know more.
-/

namespace LiveMarkdown.Highlight

/-- Code as it is cut into pieces: without a byte order mark and without empty lines at either end,
and with a newline at the end of each line. -/
def prepare (code : Text) : Text :=
  let code := match code with
    | '\uFEFF' :: rest => rest
    | _ => code
  let isNewline (c : Char) : Bool := c = '\n'
  Text.dropEndWhile isNewline ((Text.uniformNewlines code).dropWhile isNewline) ++ ['\n']

/-- Plain text. -/
def plainText : Language where
  name := "Text only"
  aliases := ["text"]
  isText := true
  pieces code := [(.plain, prepare code)]

/-- JSON. -/
def json : Language := { name := "JSON", aliases := ["json"], pieces := Json.pieces ∘ prepare }

/-- A list of changes. -/
def changes : Language where
  name := "Diff"
  aliases := ["diff", "udiff"]
  pieces := Changes.pieces ∘ prepare

/-- Python. -/
def python : Language :=
  { name := "Python", aliases := ["python"], pieces := Python.pieces ∘ prepare }

/-- Maxima. -/
def maxima : Language where
  name := "Maxima"
  aliases := ["maxima", "macsyma"]
  pieces := Maxima.pieces ∘ prepare

/-- The known languages. -/
def languages : List Language := [plainText, json, changes, python, maxima]

/-- The highlighter with these languages. A name may be in letters of either case. -/
def Highlighter.known : Highlighter where
  named? name := languages.find? fun l => l.aliases.contains (Text.lower name)
  guessed? code :=
    if Changes.isLikely code then some changes
    else if Maxima.isLikely code then some maxima
    else some plainText

end LiveMarkdown.Highlight
