import LiveMarkdown.Text.Blank
import LiveMarkdown.Text.Word

/-!
# Labels of diagrams

A diagram breaks a long label into lines only if the label is marked as running text: between a
double quote with a grave accent and a grave accent with a double quote. `wrap` marks every label of
a node that is not quoted yet. A node is a name with a label in one of seven kinds of brackets,
`shapes`; the longer brackets come first, so that the shorter ones do not find parts of them.

References to icons, the text of an edge, comments and front matter are left alone.
-/

namespace LiveMarkdown.Diagram

open Text (grave isWord trim)

/-- A shape of nodes: the brackets around its labels. -/
structure Shape where
  opening : Text
  closing : Text
  /-- The characters that no label of the shape holds, apart from quotes. -/
  brackets : Text
  /-- The shape's closing bracket must not be followed by this character. -/
  notBefore : Option Char := none
  /-- Links are written with the same bracket, so labels that look like their text are none. -/
  sharedWithEdges : Bool := false
  deriving DecidableEq, Repr

/-- The shapes, in the order in which their labels are looked for. -/
def shapes : List Shape :=
  [{ opening := ['(', '(', '('], closing := [')', ')', ')'], brackets := ['(', ')'] },
   { opening := ['[', '['], closing := [']', ']'], brackets := ['[', ']'] },
   { opening := ['\x7b', '\x7b'], closing := ['\x7d', '\x7d'], brackets := ['\x7b', '\x7d'] },
   { opening := ['(', '['], closing := [']', ')'], brackets := ['[', ']'] },
   { opening := ['['], closing := [']'], brackets := ['[', ']'] },
   { opening := ['('], closing := [')'], brackets := ['(', ')'], notBefore := some ')',
     sharedWithEdges := true },
   { opening := ['\x7b'], closing := ['\x7d'], brackets := ['\x7b', '\x7d'],
     notBefore := some '\x7d' }]

/-- The mark before a label. -/
def openMark : Text := ['"', grave]

/-- The mark after a label. -/
def closeMark : Text := [grave, '"']

/-- A character that labels of the shape may hold. -/
def Shape.isLabelChar (s : Shape) (c : Char) : Bool :=
  !s.brackets.contains c && c ≠ '"' && c ≠ '\'' && c ≠ grave

/-- The name and the label of the node of this shape that a text begins with. -/
def Shape.node? (s : Shape) (t : Text) : Option (Text × Text) :=
  let name := t.takeWhile isWord
  let rest := t.drop name.length
  if !s.opening.isPrefixOf rest then none
  else
    let inner := rest.drop s.opening.length
    let label := inner.takeWhile s.isLabelChar
    let rest := inner.drop label.length
    if label.isEmpty || !s.closing.isPrefixOf rest then none
    else if s.notBefore.isSome && (rest.drop s.closing.length).head? = s.notBefore then none
    else some (name, label)

/-- Is a label left as it is? -/
def Shape.keeps (s : Shape) (icons : List Text) (label : Text) : Bool :=
  icons.any (Text.startsWith label ·) ||
    (s.sharedWithEdges && (label.head? = some '[' || label.contains '|'))

/-- A node as it is written, with its label marked unless it is left as it is. -/
def Shape.write (s : Shape) (icons : List Text) (name label : Text) : Text :=
  if s.keeps icons label then name ++ s.opening ++ label ++ s.closing
  else name ++ s.opening ++ openMark ++ label ++ closeMark ++ s.closing

/-- The text with the labels of one shape marked. The first `skip` characters are already written;
`afterWord` tells whether the character before the text is one of a word. -/
def Shape.wrapFrom (s : Shape) (icons : List Text) : (skip : Nat) → (afterWord : Bool) → Text → Text
  | _, _, [] => []
  | skip + 1, _, c :: rest => s.wrapFrom icons skip (isWord c) rest
  | 0, afterWord, c :: rest =>
    match (if isWord c && !afterWord then s.node? (c :: rest) else none) with
    | none => c :: s.wrapFrom icons 0 (isWord c) rest
    | some (name, label) =>
      let length := name.length + s.opening.length + label.length + s.closing.length
      s.write icons name label ++ s.wrapFrom icons (length - 1) (isWord c) rest

/-- A line of a diagram with its labels marked. -/
def wrapLine (icons : List Text) (line : Text) : Text :=
  shapes.foldl (fun line s => s.wrapFrom icons 0 false line) line

/-- Is a line of a diagram left as it is, outside of front matter? -/
def isKept (line : Text) : Bool :=
  Text.startsWith (trim line) ['%', '%'] || Text.includes line openMark

/-- The lines of a diagram with their labels marked. Front matter stands between lines of `---`. -/
def wrapLines (icons : List Text) : (inFrontMatter : Bool) → List Text → List Text
  | _, [] => []
  | inFrontMatter, line :: rest =>
    if trim line = ['-', '-', '-'] then line :: wrapLines icons (!inFrontMatter) rest
    else
      (if inFrontMatter || isKept line then line else wrapLine icons line) ::
        wrapLines icons inFrontMatter rest

/-- A diagram with its labels marked. -/
def wrap (icons : List Text) (code : Text) : Text :=
  Text.unlines (wrapLines icons false (Text.lines code))

end LiveMarkdown.Diagram
