import LiveMarkdown.Markdown.Delimiter
import LiveMarkdown.Markdown.Reference
import LiveMarkdown.Url.Bare

/-!
# Running text

The inline tokens of a text. At each position the character there decides which construct may begin,
and `piece` says what it is and where it ends. Whether a bracket belongs to a link cannot be told
without passing over everything inside it, so the same function is also used to skip: `skipTo`
passes one construct, remembers where it ended, and goes only so deep into brackets.

A link's content is read by itself, between the marks of the link; a picture's content only gives
the text that stands for it.
-/

namespace LiveMarkdown.Markdown

open Html (entity? isReferable hexNumber)

/-- A text that is being read. -/
structure Source where
  chars : Array Char
  refs : References
  /-- The text that stands for a picture, by the source of its label. -/
  pictureText : Text → Text

namespace Source

/-- The character at a position. -/
def at? (src : Source) (i : Nat) : Option Char := src.chars[i]?

/-- Does this character stand at the position? -/
def is (src : Source) (i : Nat) (c : Char) : Bool := src.at? i == some c

/-- The text from one position up to but not including another. -/
def slice (src : Source) (first past : Nat) : Text := (src.chars.extract first past).toList

/-- The text from a position on. -/
def tail (src : Source) (i : Nat) : Text := src.slice i src.chars.size

/-- The first position from `i` on where the test fails, at most `fuel` positions on. -/
def skipWhile (src : Source) (test : Char → Bool) : (fuel i : Nat) → Nat
  | 0, i => i
  | fuel + 1, i => if (src.at? i).any test then skipWhile src test fuel (i + 1) else i

/-- The first position from `i` on where the test fails, or `stop`. -/
def skipUpTo (src : Source) (test : Char → Bool) (stop i : Nat) : Nat :=
  src.skipWhile test (stop - i) i

/-- The first position from `i` on with this character, at most `fuel` positions on. -/
def find? (src : Source) (c : Char) : (fuel i : Nat) → Option Nat
  | 0, _ => none
  | fuel + 1, i => if src.is i c then some i else find? src c fuel (i + 1)

end Source

/-! ## What is remembered -/

/-- What has been found out about a text: for some positions where the construct ends that begins
there. -/
structure Memo where
  ends : List (Nat × Nat) := []

/-! ## Constructs -/

/-- What stands at a position. -/
inductive Piece where
  /-- Plain text. -/
  | text (t : Text)
  /-- One token. -/
  | token (t : Inline)
  /-- A line break; spaces before it decide how hard it is. -/
  | lineBreak
  /-- Tokens of markers that may open or close. -/
  | markers (mark : Char) (length : Nat) (opens closes : Bool)
  /-- A link with attributes and the positions of its content. -/
  | link (attrs : Html.Attributes) (first past : Nat)
  /-- A picture with its address, its title, and the source of its label. -/
  | picture (url title label : Text)
  /-- A link whose text is its address; it takes `back` characters that have been read as text. -/
  | address (url shown : Text) (back : Nat)
  deriving Inhabited

/-- A construct and the position after it. -/
abbrev Found := Option (Piece × Nat)

/-- A character that may begin a construct. -/
def isSpecial (c : Char) : Bool :=
  c = '\n' || c = '!' || c = '#' || c = '$' || c = '%' || c = '&' || c = '*' || c = '+' ||
    c = '-' || c = ':' || c = '<' || c = '=' || c = '>' || c = '@' || c = '[' || c = '\\' ||
    c = ']' || c = '^' || c = '_' || c = Text.grave || c = '\x7b' || c = '\x7d' || c = '~'

/-- White space between the parts of a link. -/
def isLinkSpace (c : Char) : Bool := isSpace c || c = '\n'

namespace Source

/-- Text up to the next character that may begin a construct. -/
def plain (src : Source) (i : Nat) : Found :=
  let next := src.skipWhile (!isSpecial ·) (src.chars.size - i) i
  some (.text (src.slice i next), next)

/-- A newline, with the white space at the front of the next line. -/
def newline (src : Source) (stop i : Nat) : Found :=
  some (.lineBreak, src.skipUpTo isSpace stop (i + 1))

/-- A backslash: a line break before a newline, and otherwise an escaped character. -/
def escape (src : Source) (stop i : Nat) : Found :=
  if stop ≤ i + 1 then none
  else match src.at? (i + 1) with
    | none => none
    | some '\n' => some (.token { kind := .hardBreak }, src.skipUpTo isSpace stop (i + 2))
    | some c =>
      let content := if Text.isAsciiPunctuation c then [c] else ['\\', c]
      some (.token { kind := .special, content },
        i + 2)

/-! ### Math -/

/-- How many backslashes stand right before a position. -/
def backslashes (src : Source) : Nat → Nat
  | 0 => 0
  | i + 1 => if src.is i '\\' then backslashes src i + 1 else 0

/-- Is the dollar sign at the position escaped? The text counts as a circle: where backslashes reach
back to its beginning, one at its end counts too. -/
def isEscapedDollar (src : Source) (i : Nat) : Bool :=
  let before := src.backslashes i
  let wrapped := if before = i && src.is (src.chars.size - 1) '\\' then before + 1 else before
  wrapped % 2 = 1

/-- The first dollar sign from `i` on that is not escaped, at most `fuel` positions on. -/
def closingDollar? (src : Source) : (fuel i : Nat) → Option Nat
  | 0, _ => none
  | fuel + 1, i =>
    if src.is i '$' && !src.isEscapedDollar i then some i else closingDollar? src fuel (i + 1)

/-- Math between two dollar signs, which is not empty. -/
def math (src : Source) (i : Nat) : Found :=
  if src.isEscapedDollar i then none
  else match src.closingDollar? (src.chars.size - i) (i + 1) with
    | none => none
    | some j =>
      if j = i + 1 then none
      else some (.token { kind := .math false, content := src.slice (i + 1) j }, j + 1)

/-! ### Code -/

/-- The content of a code span: newlines are spaces, and one space at both ends goes if something
stands between them. -/
def codeText (t : Text) : Text :=
  let t := t.map fun c => if c = '\n' then ' ' else c
  if t.head? = some ' ' && t.getLast? = some ' ' && 3 ≤ t.length then (t.drop 1).dropLast else t

/-- The next run of `length` grave accents from `i` on: where it begins and ends. At most `fuel`
runs are looked at. -/
def closingRun? (src : Source) (length stop : Nat) : (fuel i : Nat) → Option (Nat × Nat)
  | 0, _ => none
  | fuel + 1, i =>
    match src.find? Text.grave (src.chars.size - i) i with
    | none => none
    | some first =>
      let past := src.skipUpTo (· = Text.grave) stop (first + 1)
      if past - first = length then some (first, past) else closingRun? src length stop fuel past

/-- A code span, or the accents themselves if nothing closes it. -/
def code (src : Source) (stop i : Nat) : Found :=
  let past := src.skipUpTo (· = Text.grave) stop (i + 1)
  match src.closingRun? (past - i) stop (src.chars.size + 1) past with
  | some (first, last) =>
    some (.token { kind := .code, content := codeText (src.slice past first) }, last)
  | none => some (.text (src.slice i past), past)

/-! ### Markers -/

/-- White space as the rules of emphasis count it. -/
def isFlankSpace (c : Char) : Bool :=
  c = ' ' || (9 ≤ c.toNat && c.toNat ≤ 13) || c.toNat = 0xA0 || c.toNat = 0x1680 ||
    (0x2000 ≤ c.toNat && c.toNat ≤ 0x200A) || c.toNat = 0x202F || c.toNat = 0x205F ||
    c.toNat = 0x3000

/-- A run of markers at a position: its end, and whether it can open and close. Within a word an
underscore does neither. -/
def run (src : Source) (mark : Char) (stop i : Nat) : Nat × Bool × Bool :=
  let past := src.skipUpTo (· = mark) stop i
  let before := if i = 0 then ' ' else (src.at? (i - 1)).getD ' '
  let after := if past < stop then (src.at? past).getD ' ' else ' '
  let punctBefore := Text.isPunctuationOrSymbol before
  let punctAfter := Text.isPunctuationOrSymbol after
  let spaceBefore := isFlankSpace before
  let spaceAfter := isFlankSpace after
  let left := !(spaceAfter || (punctAfter && !(spaceBefore || punctBefore)))
  let right := !(spaceBefore || (punctBefore && !(spaceAfter || punctAfter)))
  let inWords := mark ≠ '_'
  (past, left && (inWords || !right || punctBefore), right && (inWords || !left || punctAfter))

/-- Markers that may open or close; a single tilde does neither. -/
def markers (src : Source) (mark : Char) (stop i : Nat) : Found :=
  let (past, opens, closes) := src.run mark stop i
  if mark = '~' && past - i < 2 then none
  else some (.markers mark (past - i) opens closes, past)

/-! ### References to characters -/

/-- A reference to a character by name or number. -/
def reference (src : Source) (stop i : Nat) : Found :=
  let found (t : Text) (length : Nat) : Found :=
    some (.token { kind := .special, content := t }, i + length)
  if stop ≤ i + 1 then none
  else match src.slice (i + 1) (i + 35) with
    | '#' :: rest =>
      let (isHex, digits) := match rest with
        | c :: r =>
          if c = 'x' || c = 'X' then (true, r.takeWhile Text.isHexDigit)
          else (false, rest.takeWhile Text.isDigit)
        | [] => (false, [])
      let length := digits.length + (if isHex then 3 else 2)
      let most := if isHex then 6 else 7
      if digits.isEmpty || most < digits.length || !src.is (i + length) ';' then none
      else
        let n := if isHex then hexNumber digits else Text.valueOfDigits digits
        found [Char.ofNat (if isReferable n then n else 0xFFFD)] (length + 1)
    | t =>
      let name := t.takeWhile Text.isLetterOrDigit
      if name.head?.any Text.isLetter && 2 ≤ name.length && name.length ≤ 32 &&
          src.is (i + 1 + name.length) ';' then
        match entity? name with
        | some t => found t (name.length + 2)
        | none => none
      else none

/-! ### Angle brackets -/

/-- An address with a scheme, as it stands in angle brackets. -/
def addressPattern : Pattern :=
  .one Text.isLetter ++ schemeChar ++ .many (some 30) schemeChar ++ .char ':' ++
    .many none (.one fun c => c ≠ '<' && c ≠ '>' && 32 < c.toNat)
where
  schemeChar : Pattern := .one fun c => Text.isLetterOrDigit c || c = '+' || c = '.' || c = '-'

/-- A mail address, as it stands in angle brackets. -/
def mailPattern : Pattern :=
  .several (.one isNameChar) ++ .char '@' ++ label ++ .many none (.char '.' ++ label)
where
  isNameChar (c : Char) : Bool :=
    Text.isLetterOrDigit c || ".!#$%&'*+/=?^_\x60\x7b|\x7d~-".toList.contains c
  label : Pattern :=
    .one Text.isLetterOrDigit ++
      .optional (.many (some 61) (.one fun c => Text.isLetterOrDigit c || c = '-') ++
        .one Text.isLetterOrDigit)

/-- Does the pattern cover the text, a newline at its end excepted? -/
def coversLine (p : Pattern) (t : Text) : Bool :=
  (p ++ .optional (.char '\n') ++ .atEnd).begins t

/-- An address in angle brackets. -/
def angleAddress (src : Source) (stop i : Nat) : Found :=
  let past := src.skipUpTo (fun c => c ≠ '<' && c ≠ '>') stop (i + 1)
  if stop ≤ past || !src.is past '>' then none
  else
    let t := src.slice (i + 1) past
    let found (url : Text) : Found :=
      if Url.isAllowed url then some (.address url (Url.display t) 0, past + 1) else none
    if coversLine addressPattern t then found (Url.normalize t)
    else if coversLine mailPattern t then found (Url.normalize ("mailto:" ++ t))
    else none

/-- A tag or the like in running text. -/
def rawHtml (src : Source) (stop i : Nat) : Found :=
  let isCandidate := (src.at? (i + 1)).any fun c => c = '!' || c = '?' || c = '/' || Text.isLetter c
  if stop ≤ i + 2 || !isCandidate then none
  else match RawHtml.tag.length? (.start (src.tail i)) with
    | some length =>
      some (.token { kind := .html, content := src.slice i (i + length) }, i + length)
    | none => none

/-! ### Bare addresses with a scheme -/

/-- The scheme that text ends with, which is given last character first. It begins with a letter,
and no character that may stand in a scheme comes before that. -/
def trailingScheme? (before : Text) : Option Text :=
  let isPart (c : Char) : Bool := Text.isLetterOrDigitFold c || c = '.' || c = '+' || c = '-'
  let scheme := (before.takeWhile isPart).reverse
  if scheme.head?.any Text.isLetterFold then some scheme else none

/-- An address whose scheme has just been read as text, at its colon and slashes. -/
def bareAddress (src : Source) (pending : Text) (stop i : Nat) : Found :=
  if stop < i + 3 || !src.is (i + 1) '/' || !src.is (i + 2) '/' then none
  else match trailingScheme? pending with
    | none => none
    | some scheme =>
      match Url.Bare.atStart? (src.tail (i - scheme.length)) with
      | none => none
      | some l =>
        let url := Text.dropEndWhile (· = '*') l.url
        let full := Url.normalize url
        if Url.isAllowed full then
          some (.address full (Url.display url) scheme.length, i + url.length - scheme.length)
        else none

/-! ### Links and pictures -/

/-- Passes the construct at a position that is given with the end of the text being read. -/
abbrev Skip := (stop i : Nat) → Memo → Nat × Memo

/-- The bracket that closes the label after the one at position `i - 1`, when `depth` brackets are
open. A label of a link holds no further link. At most `fuel` constructs are passed. -/
def labelEnd (src : Source) (skip : Skip) (isLink : Bool) (stop : Nat) :
    (fuel depth i : Nat) → Memo → Option Nat × Memo
  | 0, _, _, memo => (none, memo)
  | fuel + 1, depth, i, memo =>
    if stop ≤ i then (none, memo)
    else
      let depth := if src.is i ']' then depth - 1 else depth
      if src.is i ']' && depth = 0 then (some i, memo)
      else
        let (next, memo) := skip stop i memo
        if src.is i '[' then
          if next = i + 1 then labelEnd src skip isLink stop fuel (depth + 1) next memo
          else if isLink then (none, memo)
          else labelEnd src skip isLink stop fuel depth next memo
        else labelEnd src skip isLink stop fuel depth next memo

/-- Destination and title of a link in parentheses, after the opening one, and the position after
the closing one. Where the parentheses hold something else, the position after the first character
that does not fit. -/
def target (src : Source) (stop i : Nat) : Except Nat (Text × Text × Nat) :=
  let afterSpace (i : Nat) : Nat := src.skipUpTo isLinkSpace stop i
  let (url, urlEnd) := match destination? (src.slice i stop) with
    | some (d, rest) =>
      let url := Url.normalize d
      if Url.isAllowed url then (url, stop - rest.length) else ([], i)
    | none => ([], i)
  let start := afterSpace urlEnd
  let found := if start = urlEnd then .none else Markdown.title (src.slice start stop)
  let (title, past) := match found with
    | .closed t rest => (t, afterSpace (stop - rest.length))
    | _ => ([], start)
  if past < stop && src.is past ')' then .ok (url, title, past + 1) else .error (past + 1)

/-- What a label in brackets refers to: the reference that follows it in further brackets at
position `i`, or the label itself. -/
def labelled (src : Source) (skip : Skip) (label : Text) (labelPast stop i : Nat) (memo : Memo) :
    Option (Text × Text × Nat) × Memo :=
  if src.refs.isEmpty then (none, memo)
  else
    let (name, next, memo) :=
      if i < stop && src.is i '[' then
        match src.labelEnd skip false stop (src.chars.size + 1) 1 (i + 1) memo with
        | (some e, memo) => (src.slice (i + 1) e, e + 1, memo)
        | (none, memo) => ([], labelPast, memo)
      else ([], labelPast, memo)
    let name := if name.isEmpty then label else name
    ((src.refs.find? (normalLabel name)).map fun r => (r.destination, r.title, next), memo)

/-- A link or picture whose label begins at `first`. -/
def linkAt (src : Source) (skip : Skip) (isLink : Bool) (stop first : Nat) (memo : Memo) :
    Option (Nat × Text × Text × Nat) × Memo :=
  match src.labelEnd skip isLink stop (src.chars.size + 1) 1 first memo with
  | (none, memo) => (none, memo)
  | (some e, memo) =>
    let label := src.slice first e
    let answer (r : Option (Text × Text × Nat)) : Option (Nat × Text × Text × Nat) :=
      r.map fun (url, title, next) => (e, url, title, next)
    if e + 1 < stop && src.is (e + 1) '(' then
      let i := src.skipUpTo isLinkSpace stop (e + 2)
      if stop ≤ i then (none, memo)
      else match src.target stop i with
        | .ok t => (answer (some t), memo)
        | .error i =>
          if isLink then
            let (r, memo) := src.labelled skip label (e + 1) stop i memo
            (answer r, memo)
          else (none, memo)
    else
      let (r, memo) := src.labelled skip label (e + 1) stop (e + 1) memo
      (answer r, memo)

/-- The attributes of a link or picture, its title last. -/
def linkAttrs (attrs : Html.Attributes) (title : Text) : Html.Attributes :=
  if title.isEmpty then attrs else attrs.set "title" title

/-- A link. -/
def link (src : Source) (skip : Skip) (stop i : Nat) (memo : Memo) : Found × Memo :=
  match src.linkAt skip true stop (i + 1) memo with
  | (some (e, url, title, next), memo) =>
    (some (.link (linkAttrs [("href", url)] title) (i + 1) e, next), memo)
  | (none, memo) => (none, memo)

/-- A picture. -/
def picture (src : Source) (skip : Skip) (stop i : Nat) (memo : Memo) : Found × Memo :=
  if i + 1 < stop && !src.is (i + 1) '[' then (none, memo)
  else match src.linkAt skip false stop (i + 2) memo with
    | (some (e, url, title, next), memo) =>
      (some (.picture url title (src.slice (i + 2) e), next), memo)
    | (none, memo) => (none, memo)

/-! ### All constructs -/

/-- The construct at a position. `silent` leaves out markers, which are passed one by one; `inLink`
leaves out bare addresses; `pending` is the text that has been read and is no token yet, last
character first. -/
def piece (src : Source) (skip : Skip) (silent inLink : Bool) (pending : Text) (stop i : Nat)
    (memo : Memo) : Found × Memo :=
  match src.at? i with
  | none => (none, memo)
  | some c =>
    if !isSpecial c then (src.plain i, memo)
    else if c = ':' then (if inLink then none else src.bareAddress pending stop i, memo)
    else if c = '\n' then (src.newline stop i, memo)
    else if c = '$' then (src.math i, memo)
    else if c = '\\' then (src.escape stop i, memo)
    else if c = Text.grave then (src.code stop i, memo)
    else if c = '*' || c = '_' || c = '~' then (if silent then none else src.markers c stop i, memo)
    else if c = '[' then src.link skip stop i memo
    else if c = '!' then src.picture skip stop i memo
    else if c = '<' then ((src.angleAddress stop i).or (src.rawHtml stop i), memo)
    else if c = '&' then (src.reference stop i, memo)
    else (none, memo)

/-- The position after the construct at a position, `depth` levels deep at most. Beyond that depth
the rest of the text is passed. -/
def skipTo (src : Source) (inLink : Bool) (pending : Text) : (depth : Nat) → Skip
  | depth, stop, i, memo =>
    match memo.ends.find? (·.1 = i) with
    | some (_, e) => (e, memo)
    | none =>
      let (next, memo) := match depth with
        | 0 => (stop + 1, memo)
        | depth + 1 =>
          match src.piece (skipTo src inLink pending depth) true inLink pending stop i memo with
          | (some (_, next), memo) => (next, memo)
          | (none, memo) => (i + 1, memo)
      (next, { memo with ends := (i, next) :: memo.ends })

/-! ## Reading -/

/-- Running text being read: the tokens so far, the text that is no token yet (last character
first), the delimiters, the number of tags of links that are open, and what is remembered. -/
structure Reading where
  tokens : Array Inline := #[]
  pending : Text := []
  delimiters : Array Delimiter := #[]
  linkDepth : Int := 0
  memo : Memo := {}

/-- Text that is no token yet becomes one. -/
def Reading.flush (r : Reading) : Reading :=
  if r.pending.isEmpty then r
  else { r with tokens := r.tokens.push (.ofText r.pending.reverse), pending := [] }

/-- One more token. -/
def Reading.push (r : Reading) (t : Inline) : Reading :=
  let r := r.flush
  { r with tokens := r.tokens.push t }

/-- A line break. One space before it goes; two or more make it a hard one and go too. -/
def Reading.lineBreak (r : Reading) : Reading :=
  match r.pending with
  | ' ' :: ' ' :: rest => { r with pending := rest.dropWhile (· = ' ') }.push { kind := .hardBreak }
  | ' ' :: rest => { r with pending := rest }.push { kind := .softBreak }
  | _ => r.push { kind := .softBreak }

/-- `count` tokens of the text `t`, each with a delimiter. -/
def Reading.pushMarkers (mark : Char) (length : Nat) (opens closes : Bool) (t : Text) :
    (count : Nat) → Reading → Reading
  | 0, r => r
  | count + 1, r =>
    let r := r.push (.ofText t)
    let d : Delimiter := { mark, length, token := r.tokens.size - 1, opens, closes }
    pushMarkers mark length opens closes t count { r with delimiters := r.delimiters.push d }

/-- A run of markers. Tildes count in twos, and an odd one comes first. -/
def Reading.markers (r : Reading) (mark : Char) (length : Nat) (opens closes : Bool) : Reading :=
  if mark = '~' then
    let r := if length % 2 = 1 then r.push (.ofText ['~']) else r
    r.pushMarkers '~' 0 opens closes ['~', '~'] (length / 2)
  else r.pushMarkers mark length opens closes [mark] length

/-- The effect of raw HTML on the number of open tags of links. -/
def linkChange (t : Inline) : Int :=
  if t.kind = .html then
    (if RawHtml.isLinkOpening t.content then 1 else 0) -
      (if RawHtml.isLinkClosing t.content then 1 else 0)
  else 0

/-- The text from `i` up to `stop`, at most `fuel` constructs of it. `readLink` reads the content of
a link. -/
def readFrom (src : Source) (depth : Nat)
    (readLink : (first past : Nat) → (linkDepth : Int) → Memo → Array Inline × Int × Memo)
    (stop : Nat) : (fuel i : Nat) → Reading → Reading
  | 0, _, r => r.flush
  | fuel + 1, i, r =>
    if stop ≤ i then r.flush
    else
      let inLink := 0 < r.linkDepth
      let (found, memo) :=
        src.piece (src.skipTo inLink r.pending depth) false inLink r.pending stop i r.memo
      let r := { r with memo }
      match found with
      | none =>
        readFrom src depth readLink stop fuel (i + 1)
          { r with pending := (src.at? i).toList ++ r.pending }
      | some (p, next) =>
        readFrom src depth readLink stop fuel next <| match p with
          | .text t => { r with pending := t.reverse ++ r.pending }
          | .token t => { r.push t with linkDepth := r.linkDepth + linkChange t }
          | .lineBreak => r.lineBreak
          | .markers mark length opens closes => r.markers mark length opens closes
          | .link attrs first past =>
            let r := r.push { kind := .opening .link, attrs }
            let (content, linkDepth, memo) := readLink first past (r.linkDepth + 1) r.memo
            { r with
              tokens := (r.tokens ++ content).push { kind := .closing .link }
              linkDepth := linkDepth - 1
              memo }
          | .picture url title label =>
            let alt := src.pictureText label
            let attrs := linkAttrs [("src", url), ("alt", alt)] title
            r.push { kind := .image, content := alt, attrs }
          | .address url shown back =>
            (linkTokens [("href", url)] [.ofText shown]).foldl Reading.push
              { r with pending := r.pending.drop back }

/-- The tokens from `first` up to `past`, with the marks of their delimiters. Links in links nest
`depth` levels deep at most; beyond that everything is plain text. -/
def readRange (src : Source) : (depth : Nat) → (first past : Nat) → (linkDepth : Int) → Memo →
    Array Inline × Int × Memo
  | 0, first, past, linkDepth, memo => (#[.ofText (src.slice first past)], linkDepth, memo)
  | depth + 1, first, past, linkDepth, memo =>
    let r := src.readFrom (depth + 1) (readRange src depth) past (past - first + 1) first
      { linkDepth, memo }
    (Delimiter.applyAll r.delimiters r.tokens, r.linkDepth, r.memo)

end Source

/-! ## Inline tokens of a text -/

/-- Neighbouring text tokens as one. -/
def joinText : List Inline → List Inline
  | [] => []
  | t :: rest =>
    match t.kind, joinText rest with
    | .text, next :: more =>
      if next.kind = .text then { next with content := t.content ++ next.content } :: more
      else t :: next :: more
    | _, joined => t :: joined

/-- The text that stands for inline tokens where no markup can: their text and line breaks. -/
def alternativeText (ts : List Inline) : Text :=
  ts.flatMap fun t => match t.kind with
    | .text | .special | .image | .code | .html => t.content
    | .softBreak | .hardBreak => ['\n']
    | _ => []

/-- The inline tokens of a text in which pictures nest `fuel` levels deep at most. -/
def inlinesUpTo (refs : References) : (fuel : Nat) → Text → List Inline
  | 0, _ => []
  | fuel + 1, t =>
    let src : Source :=
      { chars := t.toArray, refs
        pictureText := fun label => alternativeText (inlinesUpTo refs fuel label) }
    let (tokens, _, _) := src.readRange maxNesting 0 t.length 0 {}
    joinText tokens.toList

/-- The inline tokens of a text. -/
def inlines (refs : References) (t : Text) : List Inline := inlinesUpTo refs (t.length + 1) t

end LiveMarkdown.Markdown
