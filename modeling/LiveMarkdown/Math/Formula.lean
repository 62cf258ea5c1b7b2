import LiveMarkdown.Text.Blank
import LiveMarkdown.Html.Escape

/-!
# Formulas as they are shown

A formula is handed to the typesetter of the page between the delimiters that it looks for. The
element carries a data attribute, which tells it from a writer's own HTML.
-/

namespace LiveMarkdown.Math

open Html (Attributes)

/-- The attribute that marks the element of a formula. -/
def markAttribute : Text := "data-math"

/-- The HTML of a formula. -/
def formulaHtml (expression : Text) (display : Bool) : Text :=
  let expression := Text.trim expression
  if display then Html.escape ('\\' :: '[' :: expression ++ ['\\', ']'])
  else Html.escape ('\\' :: '(' :: expression ++ ['\\', ')'])

/-- How a formula is set: on lines of its own or in running text. -/
def mode (display : Bool) : Text := if display then "display" else "inline"

/-- The attributes of a formula's element. -/
def formulaAttributes (display : Bool) : Attributes :=
  [("class", "math " ++ mode display), (markAttribute, mode display)]

/-- The text with one hyphen for each run of blanks; `inGap` says whether the character before it
was blank. -/
def hyphenate (inGap : Bool) : Text → Text
  | [] => []
  | c :: rest =>
    if Text.isBlank c then (if inGap then hyphenate true rest else '-' :: hyphenate true rest)
    else c :: hyphenate false rest

/-- The id of a formula with a label, which has no blanks. -/
def labelId (label : Text) : Text := hyphenate false label

end LiveMarkdown.Math
