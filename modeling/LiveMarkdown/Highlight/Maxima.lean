import LiveMarkdown.Highlight.Grammar

/-!
# The pieces of Maxima

Commands of a system for algebra: words, operators, numbers, strings, names, and comments, which may
stand in each other. A command ends with a dollar sign or a semicolon, so that code with a dollar
sign at the end of a line looks like one.
-/

namespace LiveMarkdown.Highlight.Maxima

open Pattern
open Text (isDigit isLetter isWord)

/-- What the grammar can be in the middle of. -/
inductive State where
  | comment
  deriving DecidableEq, Repr

/-- One of the words, whether or not it ends there; of two words where one begins with the other,
the longer one comes first. -/
def words (ws : List Text) : Pattern := choice (ws.map text)

/-- Words for values. -/
def constants : List Text :=
  ["%pi", "%phi", "%e", "%gamma", "%i", "und", "ind", "infinity", "inf", "minf", "true", "false",
   "unknown", "done"]

/-- Words for how commands go on. -/
def keywords : List Text :=
  [['i', 'f'], "then", "elseif", "else", "downto", ['d', 'o'], "while", "repeat", "until", "for",
   "from", "step", "thru", ['t', 'o']]

/-- Words for operators. -/
def operatorWords : List Text := ["and", ['o', 'r'], "not"]

/-- A part of a name: a word, or anything between grave accents. -/
def part (extra : Text) : Pattern :=
  let isPart (c : Char) : Bool := isWord c || extra.contains c
  alt (.one (fun c => isLetter c || c = '_' || extra.contains c) ++ many none (.one isPart))
    (char Text.grave ++ many none (noneOf [Text.grave]) ++ char Text.grave)

/-- A name: parts with two colons between them. -/
def name (extra : Text) : Pattern := part extra ++ many none (text [':', ':'] ++ part extra)

/-- Numbers with a point or an exponent. -/
def decimal : Pattern :=
  let digits := several (.one isDigit)
  let exponent := oneOf "bdefls" ++ optional (oneOf ['+', '-']) ++ digits
  optional (oneOf ['+', '-']) ++
    alt (many none (.one isDigit) ++ char '.' ++ digits ++ optional exponent)
      (digits ++ optional (char '.' ++ many none (.one isDigit)) ++ exponent)

/-- Commands. -/
def command : List (Rule State) :=
  [.one .blockComment (text ['/', '*']) (State.comment :: ·),
   .one .string (char '"' ++ many none (alt (noneOf ['"', '\\']) (char '\\' ++ visible)) ++ char '"'),
   .one .punctuation (oneOf "()[]\x7b\x7d"),
   .one .punctuation (oneOf [',', ';', '$']),
   .one .nameConstant (words constants),
   .one .keyword (words keywords),
   .one .operator (oneOf ".:=#+-*/^@><|!'"),
   .one .operatorWord (words operatorWords),
   { parts := [(name ['#'], .nameFunction), (many none blank, .space), (char '(', .punctuation)] },
   .one .nameVariable (name ['#', '%']),
   .one .decimal decimal,
   .one .integer (optional (oneOf ['+', '-']) ++ several (.one isDigit)),
   .one .space (several blank),
   .one .plain visible]

/-- The rules in a comment. -/
def inComment : List (Rule State) :=
  [.one .blockComment (several (noneOf ['*', '/'])),
   .one .blockComment (text ['/', '*']) (State.comment :: ·),
   .one .blockComment (text ['*', '/']) List.tail,
   .one .blockComment (oneOf ['*', '/'])]

/-- The grammar. -/
def grammar : Grammar State
  | none => command
  | some .comment => inComment

/-- The pieces of commands. -/
def pieces (t : Text) : List Piece := grammar.pieces t

/-- Does a text look like commands? A dollar sign ends one of its lines, or it gives a function a
meaning. -/
def isLikely (t : Text) : Bool :=
  (Text.lines t).any (fun line => (Text.trimEnd line).getLast? = some '$') ||
    Text.includes t [':', '=']

end LiveMarkdown.Highlight.Maxima
