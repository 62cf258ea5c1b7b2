import LiveMarkdown.Highlight.Grammar

/-!
# The pieces of Python

Keywords, names by what they stand for, numbers, operators, strings and comments. What a definition
or an import names is known from the word before it.
-/

namespace LiveMarkdown.Highlight.Python

open Pattern
open Text (isWord isDigit)

/-- What the grammar can be in the middle of. -/
inductive State where
  | functionName
  | className
  | importing
  | importFrom
  /-- A string between so many quotes. -/
  | string (quote : Char) (tripled raw : Bool)
  deriving DecidableEq, Repr

/-- One of the words, up to its end. -/
def word (words : List Text) : Pattern := .run isWord words.contains

/-- A name. -/
def name : Pattern := .run isWord fun t => t.head?.any (!isDigit ·)

/-- Digits with single underscores between them. -/
def digits (isPart : Char → Bool) : Pattern :=
  .one isPart ++ many none (optional (char '_') ++ .one isPart)

/-- Blanks, and line ends after a backslash. -/
def gap : Pattern := several (alt blank (char '\\' ++ blank))

/-! ## Words -/

/-- Words of the language that stand for themselves. -/
def keywords : List Text :=
  Text.blankWords (String.toList
    "assert async await break continue del elif else except finally for global if lambda pass
      raise nonlocal return try while yield as with")

/-- Words for values. -/
def constants : List Text := ["True", "False", "None"]

/-- Words for operators. -/
def operatorWords : List Text := ["in", "is", "and", "or", "not"]

/-- Functions and types that are always there. -/
def builtins : List Text :=
  Text.blankWords (String.toList
    "__import__ abs aiter all any bin bool bytearray breakpoint bytes callable chr classmethod
      compile complex delattr dict dir divmod enumerate eval filter float format frozenset getattr
      globals hasattr hash hex id input int isinstance issubclass iter len list locals map max
      memoryview min next object oct open ord pow print property range repr reversed round set
      setattr slice sorted staticmethod str sum super tuple type vars zip")

/-- Names that stand for something else in each place. -/
def pseudoNames : List Text := ["self", "Ellipsis", "NotImplemented", "cls"]

/-- Exceptions that are always there. -/
def exceptions : List Text :=
  Text.blankWords (String.toList
    "ArithmeticError AssertionError AttributeError BaseException BufferError BytesWarning
      DeprecationWarning EOFError EnvironmentError Exception FloatingPointError FutureWarning
      GeneratorExit IOError ImportError ImportWarning IndentationError IndexError KeyError
      KeyboardInterrupt LookupError MemoryError NameError NotImplementedError OSError
      OverflowError PendingDeprecationWarning ReferenceError ResourceWarning RuntimeError
      RuntimeWarning StopIteration SyntaxError SyntaxWarning SystemError SystemExit TabError
      TypeError UnboundLocalError UnicodeDecodeError UnicodeEncodeError UnicodeError
      UnicodeTranslateError UnicodeWarning UserWarning ValueError VMSError Warning WindowsError
      ZeroDivisionError BlockingIOError ChildProcessError ConnectionError BrokenPipeError
      ConnectionAbortedError ConnectionRefusedError ConnectionResetError FileExistsError
      FileNotFoundError InterruptedError IsADirectoryError NotADirectoryError PermissionError
      ProcessLookupError TimeoutError StopAsyncIteration ModuleNotFoundError RecursionError
      EncodingWarning")

/-! ## Rules -/

/-- Numbers. -/
def numbers : List (Rule State) :=
  let whole := digits isDigit
  let exponent := oneOf ['e', 'E'] ++ optional (oneOf ['+', '-']) ++ whole
  let based (mark : Text) (isPart : Char → Bool) : Pattern :=
    char '0' ++ oneOf mark ++ several (optional (char '_') ++ .one isPart)
  [.one .decimal (alt (whole ++ char '.' ++ optional whole) (optional whole ++ char '.' ++ whole) ++
     optional exponent),
   .one .decimal (whole ++ exponent ++ optional (char 'j')),
   .one .octalInteger (based ['o', 'O'] fun c => '0' ≤ c && c ≤ '7'),
   .one .binaryInteger (based ['b', 'B'] fun c => c = '0' || c = '1'),
   .one .hexInteger (based ['x', 'X'] Text.isHexDigit),
   .one .integer whole]

/-- The style of a string by its quotes. -/
def quoteStyle (quote : Char) : Style := if quote = '"' then .stringDouble else .stringSingle

/-- Three quotes, or one. -/
def quotes (quote : Char) (tripled : Bool) : Text :=
  if tripled then [quote, quote, quote] else [quote]

/-- What begins a string. -/
def stringStarts : List (Rule State) :=
  [true, false].flatMap fun tripled => ['"', '\''].flatMap fun quote =>
    let start (letters : Pattern) (raw : Bool) : Rule State :=
      { parts := [(letters, .stringAffix), (text (quotes quote tripled), quoteStyle quote)]
        next := (State.string quote tripled raw :: ·) }
    [start (choice [textFold "rb", textFold "br", oneOf ['r', 'R']]) true,
     start (oneOf ['u', 'U', 'b', 'B']) false,
     start .empty false]

/-- A string of documentation, on lines of its own. -/
def docString (quote : Char) : Rule State :=
  { parts := [(lineStart ++ many none blank, .space),
      (many (some 2) (oneOf "rRuUbB"), .stringAffix),
      (text (quotes quote true) ++ few (.one fun _ => true) ++ text (quotes quote true),
        .stringDoc)] }

/-- Expressions. -/
def expression : List (Rule State) :=
  stringStarts ++
  [.one .plain (several (.one fun c => Text.isBlank c && c ≠ '\n'))] ++ numbers ++
  [.one .operator (choice [text ['!', '='], text ['=', '='], text ['<', '<'], text ['>', '>'],
     text [':', '='], oneOf "-~+/*%=<>&^|."]),
   .one .punctuation (oneOf "]\x7b\x7d:(),;["),
   .one .operatorWord (word operatorWords),
   .one .nameBuiltin (notAfter '.' ++ word builtins),
   .one .nameBuiltinPseudo (notAfter '.' ++ word pseudoNames),
   .one .nameException (notAfter '.' ++ word exceptions),
   .one .nameDecorator (char '@' ++ name),
   .one .operator (char '@'),
   .one .name name]

/-- Statements. -/
def statement : List (Rule State) :=
  [.one .space (char '\n'),
   docString '"',
   docString '\'',
   .one .lineComment (char '#' ++ many none visible),
   .one .plain (char '\\' ++ optional (char '\n')),
   .one .keyword (alt (text "yield " ++ word ["from"]) (word keywords)),
   .one .keywordConstant (word constants),
   { parts := [(text "def", .keyword), (gap, .space)], next := (State.functionName :: ·) },
   { parts := [(text "class", .keyword), (gap, .space)], next := (State.className :: ·) },
   { parts := [(text "from", .keywordNamespace), (gap, .space)], next := (State.importFrom :: ·) },
   { parts := [(text "import", .keywordNamespace), (gap, .space)]
     next := (State.importing :: ·) }] ++
  expression

/-- The rules in a string: its end, escapes, and places for values. -/
def inString (quote : Char) (tripled raw : Bool) : List (Rule State) :=
  let style := quoteStyle quote
  let escapes : List (Rule State) :=
    if raw then []
    else
      let octal : Pattern := .one fun c => '0' ≤ c && c ≤ '7'
      let hex (n : Nat) : Pattern := (List.replicate n (.one Text.isHexDigit)).foldr .seq .empty
      [.one .stringEscape (char '\\' ++ choice
        [text ['N', '\x7b'] ++ few visible ++ char '\x7d', char 'u' ++ hex 4, char 'U' ++ hex 8,
         oneOf "\\abfnrtv\"'\n", char 'x' ++ hex 2,
         octal ++ many (some 2) octal])]
  let quoted : List (Rule State) :=
    if tripled then []
    else [.one .stringEscape (char '\\' ++ oneOf ['\\', quote, '\n'])]
  let number := alt (several (.one isDigit)) (char '*')
  let field := several (.one isWord) ++ many none (alt (char '.' ++ several (.one isWord))
    (char '[' ++ several (noneOf [']']) ++ char ']'))
  let format := char ':' ++ optional (optional visible ++ oneOf "<>=^") ++ optional (oneOf "-+ ") ++
    optional (char '#') ++ optional (char '0') ++ optional (several (.one isDigit)) ++
    optional (char ',') ++ optional (char '.' ++ several (.one isDigit)) ++
    optional (oneOf "EFGbcdefgnosx%")
  [.one style (text (quotes quote tripled)) List.tail] ++ escapes ++ quoted ++
  [.one .stringInterpol (char '%' ++ optional (char '(' ++ several (.one isWord) ++ char ')') ++
     many none (oneOf "-#0 +") ++ optional number ++ optional (char '.' ++ number) ++
     optional (oneOf "hlL") ++ oneOf "EFGXcdefgiorsaux%"),
   .one .stringInterpol (char '\x7b' ++ optional field ++
     optional (char '!' ++ oneOf "sra") ++ optional format ++ char '\x7d'),
   .one style (several (noneOf "\\'\"%\x7b\n")),
   .one style (oneOf "'\"\\"),
   .one style (alt (char '%') (char '\x7b' ++ optional (char '\x7b')))] ++
  if tripled then [.one style (char '\n')] else []

/-- The grammar. -/
def grammar : Grammar State
  | none => statement
  | some .functionName => [.one .nameFunction name List.tail, .one .plain .empty List.tail]
  | some .className => [.one .nameClass name List.tail]
  | some .importing =>
    [{ parts := [(several blank, .space), (text ['a', 's'], .keyword), (several blank, .space)] },
     .one .nameNamespace (char '.'),
     .one .nameNamespace name,
     { parts := [(many none blank, .space), (char ',', .operator), (many none blank, .space)] },
     .one .plain .empty List.tail]
  | some .importFrom =>
    [{ parts := [(several blank, .space), (word ["import"], .keywordNamespace)]
       next := List.tail },
     .one .nameNamespace (char '.'),
     .one .keywordConstant (word ["None"]) List.tail,
     .one .nameNamespace name,
     .one .plain .empty List.tail]
  | some (.string quote tripled raw) => inString quote tripled raw

/-- The pieces of a text in Python. -/
def pieces (t : Text) : List Piece := grammar.pieces t

end LiveMarkdown.Highlight.Python
