import LiveMarkdown.Html.Entity
import LiveMarkdown.Text.Punctuation
import LiveMarkdown.Text.Decimal

/-!
# Destinations and titles

The parts of a link that follow its label. Both may hold escapes and character references, which
`unescape` resolves.
-/

namespace LiveMarkdown.Markdown

open Html (entity? isReferable hexNumber)

/-! ## Escapes and references -/

/-- A character of a name or number that is referred to. -/
def isReferenceChar (c : Char) : Bool := Text.isLetterOrDigit c

/-- The character of a number as it is written between `&` and `;`, with at most eight digits. -/
def numbered? : Text → Option Text
  | '#' :: rest =>
    let number : Option Nat := match rest with
      | x :: digits =>
        if x = 'x' || x = 'X' then
          if !digits.isEmpty && digits.length ≤ 8 && digits.all Text.isHexDigit then
            some (hexNumber digits)
          else none
        else if rest.length ≤ 8 && rest.all Text.isDigit then some (Text.valueOfDigits rest)
        else none
      | [] => none
    number.bind fun n => if isReferable n then some [Char.ofNat n] else none
  | _ => none

/-- The reference that a text begins with, right after its `&`: what stands between `&` and `;`, and
the rest. -/
def cutReference? (t : Text) : Option (Text × Text) :=
  match t with
  | [] => none
  | c :: rest =>
    if Text.isLetter c || c = '#' then
      let more := rest.takeWhile isReferenceChar
      match rest.drop more.length with
      | ';' :: tail => if 1 ≤ more.length && more.length ≤ 31 then some (c :: more, tail) else none
      | _ => none
    else none

/-- A text with its escapes and references resolved. `skip` characters have been dealt with. -/
def unescapeFrom : (skip : Nat) → Text → Text
  | _, [] => []
  | skip + 1, _ :: rest => unescapeFrom skip rest
  | 0, c :: rest =>
    if c = '\\' then
      match rest with
      | d :: _ =>
        if Text.isAsciiPunctuation d then d :: unescapeFrom 1 rest else c :: unescapeFrom 0 rest
      | [] => [c]
    else if c = '&' then
      match cutReference? rest with
      | some (name, tail) =>
        match (entity? name).or (numbered? name) with
        | some t => t ++ unescapeFrom (rest.length - tail.length) rest
        | none => c :: unescapeFrom 0 rest
      | none => c :: unescapeFrom 0 rest
    else c :: unescapeFrom 0 rest

/-- A text with its escapes and references resolved. -/
def unescape (t : Text) : Text := unescapeFrom 0 t

/-! ## Destinations -/

/-- A destination in angle brackets, after the opening one: its source, last character first, is
gathered in `taken`. -/
def angleDestination (taken : Text) : Text → Option (Text × Text)
  | [] => none
  | c :: rest =>
    if c = '\n' || c = '<' then none
    else if c = '>' then some (taken.reverse, rest)
    else if c = '\\' then
      match rest with
      | d :: rest => angleDestination (d :: c :: taken) rest
      | [] => none
    else angleDestination (c :: taken) rest

/-- The nesting of parentheses that a destination may have. -/
def maxParentheses : Nat := 32

/-- A destination without brackets: its source and the rest. Parentheses must be balanced; a space
or control character ends it. -/
def bareDestination (depth : Nat) (taken : Text) : Text → Option (Text × Text)
  | [] => if depth = 0 then some (taken.reverse, []) else none
  | c :: rest =>
    let stop : Option (Text × Text) := if depth = 0 then some (taken.reverse, c :: rest) else none
    if c.toNat ≤ 32 || c.toNat = 127 then stop
    else if c = '\\' then
      match rest with
      | d :: rest' => if d = ' ' then stop else bareDestination depth (d :: c :: taken) rest'
      | [] => if depth = 0 then some ((c :: taken).reverse, []) else none
    else if c = '(' then
      if maxParentheses ≤ depth then none else bareDestination (depth + 1) (c :: taken) rest
    else if c = ')' then
      if depth = 0 then stop else bareDestination (depth - 1) (c :: taken) rest
    else bareDestination depth (c :: taken) rest

/-- The destination that a text begins with, resolved, and the rest. Without brackets it is not
empty. -/
def destination? (t : Text) : Option (Text × Text) :=
  match t with
  | '<' :: rest => (angleDestination [] rest).map fun (d, rest) => (unescape d, rest)
  | _ => match bareDestination 0 [] t with
    | some ([], _) => none
    | some (d, rest) => some (unescape d, rest)
    | none => none

/-! ## Titles -/

/-- What a text that may begin with a title turns out to be. -/
inductive Title where
  /-- A title, resolved, and the rest. -/
  | closed (title : Text) (rest : Text)
  /-- A title that has not ended when the text does, and the mark that would end it. -/
  | unfinished (title : Text) (mark : Char)
  | none

/-- Reads up to the mark that ends a title. -/
def titleRest (mark : Char) (taken : Text) : Text → Title
  | [] => .unfinished (unescape taken.reverse) mark
  | c :: rest =>
    if c = mark then .closed (unescape taken.reverse) rest
    else if c = '(' && mark = ')' then .none
    else if c = '\\' then
      match rest with
      | d :: rest => titleRest mark (d :: c :: taken) rest
      | [] => .unfinished (unescape (c :: taken).reverse) mark
    else titleRest mark (c :: taken) rest

/-- The title that a text begins with. -/
def title : Text → Title
  | '"' :: rest => titleRest '"' [] rest
  | '\'' :: rest => titleRest '\'' [] rest
  | '(' :: rest => titleRest ')' [] rest
  | _ => .none

/-- A title that goes on in a further text. -/
def Title.resume (before : Text) (mark : Char) (t : Text) : Title :=
  match titleRest mark [] t with
  | .closed title rest => .closed (before ++ title) rest
  | .unfinished title mark => .unfinished (before ++ title) mark
  | .none => .none

end LiveMarkdown.Markdown
