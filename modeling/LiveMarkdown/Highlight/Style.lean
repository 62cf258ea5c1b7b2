import LiveMarkdown.Html.Escape

/-!
# Styled code

Highlighted code is a list of pieces, each with a style. `spans` writes them as HTML: neighbours of
one style share an element, no element reaches over the end of a line, and plain pieces stand in
none.
-/

namespace LiveMarkdown.Highlight

/-- What a piece of code is: the class of the elements of such pieces. A class has no character that
means something in a page, so that it is written as it is. -/
structure Style where
  cls : Text
  inert : Html.escape cls = cls
  deriving DecidableEq, Repr

namespace Style

/-- Plain pieces have no class. -/
def plain : Style := ⟨[], rfl⟩

def space : Style := ⟨['w'], rfl⟩
def error : Style := ⟨['e', 'r', 'r'], rfl⟩
def keyword : Style := ⟨['k'], rfl⟩
def keywordConstant : Style := ⟨['k', 'c'], rfl⟩
def keywordNamespace : Style := ⟨['k', 'n'], rfl⟩
def operatorWord : Style := ⟨['o', 'w'], rfl⟩
def operator : Style := ⟨['o'], rfl⟩
def punctuation : Style := ⟨['p'], rfl⟩
def name : Style := ⟨['n'], rfl⟩
def nameBuiltin : Style := ⟨['n', 'b'], rfl⟩
def nameBuiltinPseudo : Style := ⟨['b', 'p'], rfl⟩
def nameException : Style := ⟨['n', 'e'], rfl⟩
def nameFunction : Style := ⟨['n', 'f'], rfl⟩
def nameClass : Style := ⟨['n', 'c'], rfl⟩
def nameNamespace : Style := ⟨['n', 'n'], rfl⟩
def nameDecorator : Style := ⟨['n', 'd'], rfl⟩
def nameTag : Style := ⟨['n', 't'], rfl⟩
def nameVariable : Style := ⟨['n', 'v'], rfl⟩
def nameConstant : Style := ⟨['n', 'o'], rfl⟩
def integer : Style := ⟨['m', 'i'], rfl⟩
def hexInteger : Style := ⟨['m', 'h'], rfl⟩
def octalInteger : Style := ⟨['m', 'o'], rfl⟩
def binaryInteger : Style := ⟨['m', 'b'], rfl⟩
def decimal : Style := ⟨['m', 'f'], rfl⟩
def lineComment : Style := ⟨['c', '1'], rfl⟩
def blockComment : Style := ⟨['c', 'm'], rfl⟩
def string : Style := ⟨['s'], rfl⟩
def stringSingle : Style := ⟨['s', '1'], rfl⟩
def stringDouble : Style := ⟨['s', '2'], rfl⟩
def stringDoc : Style := ⟨['s', 'd'], rfl⟩
def stringAffix : Style := ⟨['s', 'a'], rfl⟩
def stringEscape : Style := ⟨['s', 'e'], rfl⟩
def stringInterpol : Style := ⟨['s', 'i'], rfl⟩
def deleted : Style := ⟨['g', 'd'], rfl⟩
def inserted : Style := ⟨['g', 'i'], rfl⟩
def strong : Style := ⟨['g', 's'], rfl⟩
def subheading : Style := ⟨['g', 'u'], rfl⟩
def heading : Style := ⟨['g', 'h'], rfl⟩

end Style

/-- A piece of code with its style. -/
abbrev Piece := Style × Text

/-- A character of code in HTML. Quotes have no meaning between tags and stay. -/
def escapeChar (c : Char) : Text :=
  if c = '&' then ['&', 'a', 'm', 'p', ';']
  else if c = '<' then ['&', 'l', 't', ';']
  else if c = '>' then ['&', 'g', 't', ';']
  else [c]

/-- What begins the element of a style. -/
def openSpan (s : Style) : Text :=
  if s = .plain then [] else "<span class=\"" ++ s.cls ++ ['"', '>']

/-- What ends the element of a style. -/
def closeSpan (s : Style) : Text := if s = .plain then [] else "</span>"

/-- Styled characters as HTML. `current` is the style of the character before, on the same line. -/
def spansFrom : (current : Style) → List (Style × Char) → Text
  | current, [] => closeSpan current
  | current, (s, c) :: rest =>
    if c = '\n' then closeSpan current ++ '\n' :: spansFrom .plain rest
    else if s = current then escapeChar c ++ spansFrom current rest
    else closeSpan current ++ openSpan s ++ escapeChar c ++ spansFrom s rest

/-- Pieces of code as HTML. -/
def spans (pieces : List Piece) : Text :=
  spansFrom .plain (pieces.flatMap fun (s, t) => t.map fun c => (s, c))

end LiveMarkdown.Highlight
