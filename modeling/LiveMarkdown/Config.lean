import LiveMarkdown.Highlight.Known
import LiveMarkdown.Text.Blank
import LiveMarkdown.Text.Case

/-!
# Configuration

What a render can be told from outside: which fences hold diagrams, which labels of them are icons,
how formulas are set and how code is highlighted. The dialect of Markdown is fixed, so that there is
nothing to be told about it.
-/

namespace LiveMarkdown

/-- How code is highlighted. -/
structure HighlightConfig where
  /-- Guess the language of code that does not say it. -/
  detect : Bool := true
  /-- The class of highlighted code. -/
  codeClass : Text := "hljs"
  /-- Who knows the languages. -/
  highlighter : Highlight.Highlighter := .known

/-- What a render can be told. -/
structure Config where
  /-- The languages of fences that hold diagrams. -/
  diagramLanguages : List Text := ["mermaid"]
  /-- What the labels that are references to icons begin with. -/
  icons : List Text := ["fa:", "fab:", "fas:"]
  /-- What sets formulas. -/
  engine : Text := "mathjax"
  highlight : HighlightConfig := {}

namespace Config

/-- What a program finds around it: the environment's settings, where it has any, and a
highlighter. -/
structure Environment where
  engine : Option Text := none
  detect : Option Text := none
  highlighter : Highlight.Highlighter := .known

/-- Does a setting of the environment mean yes? -/
def isYes (value : Text) : Bool :=
  let word := Text.lower (Text.trim value)
  [['1'], "true".toList, "yes".toList, ['o', 'n']].contains word

/-- The configuration of an environment. -/
def ofEnvironment (env : Environment) : Config where
  engine := match env.engine with
    | none => "mathjax"
    | some value => Text.lower (Text.trim value)
  highlight := { detect := env.detect.elim true isYes, highlighter := env.highlighter }

/-- Formulas are set by an outside converter. Where there is none, they are set as by default, with
a warning. -/
def wantsConverter (c : Config) : Bool := c.engine == "pandoc"

end Config

end LiveMarkdown
