import LiveMarkdown.Highlight.Style

/-!
# The pieces of JSON

JSON is cut into strings, numbers, constants, punctuation, white space and comments; whatever is
none of them is an error. Numbers and constants are runs of the characters that they consist of,
whether or not they say anything. A string is a key if a colon comes after it, with nothing between
but space, comments and other strings.
-/

namespace LiveMarkdown.Highlight.Json

/-- The kinds of pieces. -/
inductive Kind where
  | string
  | space
  | lineComment
  | blockComment
  | constant
  | integer
  | decimal
  /-- A colon, with punctuation after it. -/
  | colon
  | punctuation
  | error
  deriving DecidableEq, Repr

/-- White space of JSON. -/
def isSpace (c : Char) : Bool := c = ' ' || c = '\n' || c = '\r' || c = '\t'

/-- A character of `true`, `false` or `null`. -/
def isConstant (c : Char) : Bool := "truefalsn".toList.contains c

/-- A character of a whole number. -/
def isInteger (c : Char) : Bool := c = '-' || Text.isDigit c

/-- A character that makes a number a decimal. -/
def isDecimal (c : Char) : Bool := c = '.' || c = 'e' || c = 'E' || c = '+'

/-- Brackets and the comma. -/
def isPunctuation (c : Char) : Bool :=
  c = '\x7b' || c = '\x7d' || c = '[' || c = ']' || c = ','

/-- What a string is in the middle of. -/
inductive Escape where
  | none
  /-- A backslash has been read. -/
  | begun
  /-- So many digits of a character's code are still to come. -/
  | code (left : Nat)

/-- How many characters a string has from here to its closing quote. -/
def toQuote? : Escape → Text → Option Nat
  | _, [] => .none
  | .code left, c :: rest =>
    (toQuote? (if Text.isHexDigit c && 1 < left then .code (left - 1) else .none) rest).map (· + 1)
  | .begun, c :: rest => (toQuote? (if c = 'u' then .code 4 else .none) rest).map (· + 1)
  | .none, c :: rest =>
    if c = '"' then some 1
    else (toQuote? (if c = '\\' then .begun else .none) rest).map (· + 1)

/-- How many characters a comment has from here to its end. -/
def toCommentEnd? : Text → Option Nat
  | '*' :: '/' :: _ => some 2
  | _ :: rest => (toCommentEnd? rest).map (· + 1)
  | [] => none

/-- The kind of the piece that begins with `c`, and how many characters of `rest` belong to it. -/
def piece (c : Char) (rest : Text) : Kind × Nat :=
  if c = '"' then match toQuote? .none rest with
    | some n => (.string, n)
    | none => (.error, rest.length)
  else if isSpace c then (.space, (rest.takeWhile isSpace).length)
  else if c = 'f' || c = 'n' || c = 't' then (.constant, (rest.takeWhile isConstant).length)
  else if isInteger c then
    let more := rest.takeWhile fun c => isInteger c || isDecimal c
    (if more.any isDecimal then .decimal else .integer, more.length)
  else if c = ':' then (.colon, (rest.takeWhile isPunctuation).length)
  else if isPunctuation c then (.punctuation, (rest.takeWhile isPunctuation).length)
  else if c = '/' then match rest with
    | '/' :: more => (.lineComment, (more.takeWhile (· ≠ '\n')).length + 1)
    | '*' :: more => match toCommentEnd? more with
      | some n => (.blockComment, n + 1)
      | none => (.error, rest.length)
    | _ => (.error, 0)
  else (.error, 0)

/-- The characters of a text with the kinds of the pieces they belong to. The first `inside` of them
belong to a piece of the kind `current`. -/
def kindsFrom : (current : Kind) → (inside : Nat) → Text → List (Kind × Char)
  | _, _, [] => []
  | current, inside + 1, c :: rest => (current, c) :: kindsFrom current inside rest
  | _, 0, c :: rest =>
    let (kind, more) := piece c rest
    (kind, c) :: kindsFrom kind more rest

/-- The style of a character; `keyed` tells whether a string is a key here. -/
def style (keyed : Bool) : Kind → Style
  | .string => if keyed then .nameTag else .stringDouble
  | .space => .space
  | .lineComment => .lineComment
  | .blockComment => .blockComment
  | .constant => .keywordConstant
  | .integer => .integer
  | .decimal => .decimal
  | .colon => .punctuation
  | .punctuation => .punctuation
  | .error => .error

/-- Given whether a string is a key before what comes after a character: is it one before the
character? -/
def keyed (after : Bool) : Kind → Bool
  | .colon => true
  | .string | .space | .lineComment | .blockComment => after
  | _ => false

/-- The characters with their styles, and whether a string before them is a key. -/
def styled : List (Kind × Char) → Bool × List Piece
  | [] => (false, [])
  | (kind, c) :: rest =>
    let (after, pieces) := styled rest
    (keyed after kind, (style after kind, [c]) :: pieces)

/-- The pieces of a text in JSON. -/
def pieces (t : Text) : List Piece := (styled (kindsFrom .error 0 t)).2

end LiveMarkdown.Highlight.Json
