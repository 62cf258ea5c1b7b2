import LiveMarkdown.Html.Escape
import LiveMarkdown.Html.Reference
import LiveMarkdown.Text.Case
import LiveMarkdown.Text.Pattern
import LiveMarkdown.Text.Quoted

/-!
# Markup

HTML is read as a sequence of tags, text, comments and declarations. The reader is lenient: what is
not finished, or not markup, is text. Only a section `<![…` that is of no known kind is refused.

It goes over the page twice. The first reading stops at the first place where more text could make a
difference; the second goes on from there, knowing that there is no more.
-/

namespace LiveMarkdown.Html

open Pattern

/-- A piece of a page. -/
inductive Markup where
  | text (t : Text)
  /-- A tag that opens an element; `closed` if it closes the element, too. -/
  | opening (name : Text) (attrs : Attributes) (closed : Bool)
  | closing (name : Text)
  | comment (t : Text)
  | doctype (t : Text)
  | instruction (t : Text)
  /-- A section of characters that are no markup. -/
  | section (t : Text)
  | declaration (t : Text)
  deriving DecidableEq, Repr

/-- Why a page is refused. -/
inductive MarkupError where
  /-- A section has a name that is not known. The name is given with the blanks after it. -/
  | unknownSection (name : Text)
  /-- A section has no name. Its source is given with all that follows it. -/
  | namelessSection (source : Text)
  deriving DecidableEq, Repr

/-- What is wrong with a page. -/
def MarkupError.detail : MarkupError → Text
  | .unknownSection name => "unknown status keyword " ++ Text.quoted name ++ " in marked section"
  | .namelessSection source => "expected name token at " ++ Text.quoted (source.take 20)

/-- The message of an error. -/
def MarkupError.message (e : MarkupError) : Text :=
  "The markup you provided was rejected by the parser. Trying a different parser or a different " ++
    "encoding may help.\n\nOriginal exception(s) from parser:\n AssertionError: " ++ e.detail

/-! ## Tags -/

/-- A character of a tag's name. -/
def isNameChar (c : Char) : Bool :=
  !(c = '\t' || c = '\n' || c = '\r' || c = '\x0C' || c = ' ' || c = '/' || c = '>' || c.toNat = 0)

/-- Blanks, and slashes that do not end a tag. -/
def gap : Pattern := many none (alt blank (char '/' ++ notAhead (char '>')))

/-- The name of an attribute. It comes after a blank, a slash or a quote. -/
def attributeName : Pattern :=
  preceded (fun c => c.any fun c => c = '\'' || c = '"' || c = '/' || Text.isBlank c) ++
    (one fun c => !Text.isBlank c && c ≠ '/' && c ≠ '>') ++
    many none (one fun c => !Text.isBlank c && c ≠ '/' && c ≠ '=' && c ≠ '>')

/-- What stands between the name of an attribute and its value. -/
def equals : Pattern := many none blank ++ several (char '=') ++ many none blank

/-- The value of an attribute, with its quotes. -/
def attributeValue : Pattern :=
  let quoted (q : Char) := char q ++ many none (one (· ≠ q)) ++ char q
  choice [quoted '\'', quoted '"',
    notAhead (oneOf ['\'', '"']) ++ many none (one fun c => c ≠ '>' && !Text.isBlank c)]

/-- A tag that opens an element, up to its end. -/
def tagBody : Pattern :=
  char '<' ++ one Text.isLetter ++ many none (one isNameChar) ++
    many none (alt blank (char '/')) ++
    many none (attributeName ++ optional (equals ++ attributeValue ++ many none blank) ++ gap) ++
    many none blank

/-- Where a tag ends that begins at a place: after its closing bracket, or else where it can no
longer be one. Nothing if there has to be more of it. -/
def tagEnd? (s : Place) : Option Place :=
  (tagBody.after? s).bind fun e => match e.rest with
    | [] => none
    | '>' :: _ => some (e.advance 1)
    | '/' :: '>' :: _ => some (e.advance 2)
    | c :: _ => if c = '/' || c = '=' || Text.isLetter c then none else some e

/-- A value without its quotes. -/
def unquote : Text → Text
  | '\'' :: rest => rest.dropLast
  | '"' :: rest => rest.dropLast
  | t => t

/-- The attributes from a place on, up to the end of their tag, and the place after them. -/
def attributesFrom (stop : Place) : (fuel : Nat) → Place → Attributes × Place
  | 0, s => ([], s)
  | fuel + 1, s =>
    if s.rest.length ≤ stop.rest.length then ([], s)
    else match attributeName.after? s with
      | none => ([], s)
      | some e =>
        let name := Text.lower (s.upTo e)
        let (value, e) := match parts? [equals, attributeValue] e with
          | some ([_, value], e) => (decodeAttribute (unquote value), e)
          | _ => ([], e)
        let (more, last) := attributesFrom stop fuel ((gap.after? e).getD e)
        ((name, value) :: more, last)

/-- The elements that hold no markup. -/
def isVerbatim (name : Text) : Bool := name == "script".toList || name == "style".toList

/-- What has been read from a place on: pieces, the element without markup that has begun, and the
place to go on from. -/
structure Reading where
  pieces : List Markup
  verbatim : Option Text
  next : Place

/-- The tag that opens an element. -/
def openingTag? (s : Place) : Option Reading :=
  (tagEnd? s).map fun stop =>
    let name := (s.rest.drop 1).takeWhile isNameChar
    let afterName := s.advance (name.length + 1)
    let (attrs, last) :=
      attributesFrom stop s.rest.length ((gap.after? afterName).getD afterName)
    let name := Text.lower name
    let tail := Text.trim (last.upTo stop)
    if tail = ['/', '>'] then ⟨[.opening name attrs true], none, stop⟩
    else if tail = ['>'] then
      ⟨[.opening name attrs false], if isVerbatim name then some name else none, stop⟩
    else ⟨[.text (s.upTo stop)], none, stop⟩

/-- The place after the next character `c`. -/
def afterChar? (c : Char) (s : Place) : Option Place :=
  let passed := (s.rest.takeWhile (· ≠ c)).length
  if passed < s.rest.length then some (s.advance (passed + 1)) else none

/-- What stands between the first `skip` characters and the next closing bracket, as a piece. -/
def upToBracket? (make : Text → Markup) (skip : Nat) (s : Place) : Option Reading :=
  (afterChar? '>' (s.advance skip)).map fun e =>
    ⟨[make ((s.advance skip).upTo e).dropLast], none, e⟩

/-- The name in a tag that closes an element, if the tag is written as it should be. -/
def closingName : List Pattern :=
  [text ['<', '/'] ++ many none blank,
   one Text.isLetter ++ many none (one fun c => Text.isLetterOrDigit c || "-.:_".toList.contains c),
   many none blank ++ char '>']

/-- The tag that closes an element. One that is not written as it should be is text in an element
without markup. -/
def closingTag? (verbatim : Option Text) (s : Place) : Option Reading :=
  match parts? closingName s with
  | some ([_, name, _], e) => some ⟨[.closing (Text.lower name)], none, e⟩
  | _ =>
    if verbatim.isSome then
      (afterChar? '>' (s.advance 1)).map fun e => ⟨[.text (s.upTo e)], verbatim, e⟩
    else if (s.rest.drop 2).head?.any Text.isLetter then
      let name := (s.rest.drop 2).takeWhile isNameChar
      (afterChar? '>' (s.advance 2)).map fun e => ⟨[.closing (Text.lower name)], none, e⟩
    else if (s.rest.drop 2).head? = some '>' then some ⟨[], none, s.advance 3⟩
    else upToBracket? .comment 2 s

/-! ## Declarations -/

/-- A comment. -/
def comment? (s : Place) : Option Reading :=
  let inner := s.advance 4
  (search? (text ['-', '-'] ++ many none blank ++ char '>') inner).map fun (b, e) =>
    ⟨[.comment (inner.upTo b)], none, e⟩

/-- How a section ends that has the name. -/
def sectionEnd? (name : Text) : Option Pattern :=
  let bracket := char ']' ++ many none blank
  let isOneOf (names : List Text) : Bool := names.any (Text.equalFold name)
  if isOneOf ["temp", "cdata", "ignore", "include", "rcdata"] then
    some (bracket ++ bracket ++ char '>')
  else if isOneOf ["if", "else", "endif"] then some (bracket ++ char '>')
  else none

/-- A section of characters that are no markup, or another section with a known name. One whose name
reaches the end of the page is not finished. -/
def markedSection? (s : Place) : Except MarkupError (Option Reading) :=
  let inner := s.advance 3
  let name := one Text.isLetter ++
    many none (one fun c => Text.isLetterOrDigit c || "-_.".toList.contains c)
  match parts? [name, many none blank] inner with
  | some ([name, _], e) =>
    if e.rest.isEmpty then .ok none
    else match sectionEnd? name with
      | none => .error (.unknownSection (inner.upTo e))
      | some close => .ok <| (search? close inner).map fun (b, e) =>
        let content := inner.upTo b
        let piece : Markup :=
          if Text.startsWithFold content "CDATA[" then .section (content.drop 6)
          else .declaration content
        ⟨[piece], none, e⟩
  | _ => if inner.rest.isEmpty then .ok none else .error (.namelessSection s.rest)

/-- What begins with `<!`. -/
def declaration? (s : Place) : Except MarkupError (Option Reading) :=
  if Text.startsWith s.rest "<!--" then .ok (comment? s)
  else if Text.startsWith s.rest ['<', '!', '['] then markedSection? s
  else if Text.startsWithFold s.rest "<!doctype" then
    .ok <| (afterChar? '>' (s.advance 9)).map fun e =>
      ⟨[.doctype (((s.advance 2).upTo e).dropLast.drop 8)], none, e⟩
  else .ok (upToBracket? .comment 2 s)

/-- What begins with `<` and is finished. -/
def tag? (verbatim : Option Text) (s : Place) : Except MarkupError (Option Reading) :=
  match s.rest.drop 1 with
  | '/' :: _ => .ok (closingTag? verbatim s)
  | '?' :: _ => .ok (upToBracket? .instruction 2 s)
  | '!' :: _ => declaration? s
  | c :: _ =>
    .ok (if Text.isLetter c then openingTag? s else some ⟨[.text ['<']], none, s.advance 1⟩)
  | [] => .ok none

/-- What is not finished, as text: up to the next closing bracket, or else to the next opening
one. -/
def unfinished (s : Place) : Reading :=
  let stop := match afterChar? '>' (s.advance 1) with
    | some e => e
    | none =>
      let passed := ((s.rest.drop 1).takeWhile (· ≠ '<')).length
      if passed + 1 < s.rest.length then s.advance (passed + 1) else s.advance 1
  ⟨[.text (s.upTo stop)], none, stop⟩

/-! ## References -/

/-- The place after the semicolon, if there is one. -/
def pastSemicolon (s : Place) : Place := if s.rest.head? = some ';' then s.advance 1 else s

/-- A numbered reference. More digits must not follow. -/
def numbered? (s : Place) : Option Reading :=
  let digits := (s.rest.drop 2).takeWhile Text.isDigit
  let found (n length : Nat) : Option Reading :=
    let e := s.advance length
    match e.rest with
    | [] => none
    | c :: _ =>
      if Text.isHexDigit c then none else some ⟨[.text [numberedChar n]], none, pastSemicolon e⟩
  if !digits.isEmpty then
    found (digits.foldl (fun n c => 10 * n + (c.toNat - 48)) 0) (digits.length + 2)
  else match s.rest.drop 2 with
    | x :: rest =>
      let digits := rest.takeWhile Text.isHexDigit
      if (x = 'x' || x = 'X') && !digits.isEmpty then found (hexNumber digits) (digits.length + 3)
      else none
    | [] => none

/-- A named reference. A name that stands for nothing is kept, without its semicolon. -/
def named? (s : Place) : Option Reading :=
  let name := one Text.isLetter ++
    many none (one fun c => Text.isLetterOrDigit c || c = '-' || c = '.')
  match parts? [char '&', name, ahead (one fun c => !Text.isLetterOrDigit c)] s with
  | some ([_, name, _], e) =>
    some ⟨[.text ((entity? name).getD ('&' :: name))], none, pastSemicolon e⟩
  | _ => none

/-- A reference: what it stands for. If nothing can be said about it, reading stops at the place
that is given. -/
def reference (final : Bool) (s : Place) : Reading ⊕ Reading :=
  if (s.rest.drop 1).head? = some '#' then
    match numbered? s with
    | some r => .inl r
    | none =>
      if s.rest.contains ';' then .inr ⟨[.text ['&', '#']], none, s.advance 2⟩
      else .inr ⟨[], none, s⟩
  else match named? s with
    | some r => .inl r
    | none => match s.rest.drop 1 with
      | [] => .inr ⟨[], none, s⟩
      | c :: more =>
        if !Text.isLetter c then .inl ⟨[.text ['&']], none, s.advance 1⟩
        else if final && more.isEmpty then .inr ⟨[], none, s.advance 1⟩
        else .inr ⟨[], none, s⟩

/-! ## Reading a page -/

/-- What looks like the end of an element without markup. -/
def verbatimEnd (name : Text) : Pattern :=
  text ['<', '/'] ++ many none blank ++ textFold name ++ many none blank ++ char '>'

/-- The place where the next markup begins. In an element without markup, only its end can be
markup. -/
def nextMarkup? (verbatim : Option Text) (s : Place) : Option Place :=
  match verbatim with
  | none => some (s.advance (s.rest.takeWhile fun c => c ≠ '<' && c ≠ '&').length)
  | some name => (search? (verbatimEnd name) s).map (·.1)

/-- Reads on from a place, as long as nothing more has to be known; `final` tells whether there is
nothing more. -/
def readFrom (final : Bool) :
    (fuel : Nat) → (verbatim : Option Text) → Place → Except MarkupError Reading
  | 0, verbatim, s => .ok ⟨[], verbatim, s⟩
  | fuel + 1, verbatim, s =>
    match nextMarkup? verbatim s with
    | none => .ok ⟨[], verbatim, s⟩
    | some m =>
      let before : List Markup :=
        if m.rest.length < s.rest.length then [.text (s.upTo m)] else []
      let goOn (r : Reading) : Except MarkupError Reading :=
        (readFrom final fuel r.verbatim r.next).map fun last =>
          { last with pieces := before ++ r.pieces ++ last.pieces }
      match m.rest with
      | [] => .ok ⟨before, verbatim, m⟩
      | '<' :: more =>
        if more.isEmpty then .ok ⟨before, verbatim, m⟩
        else match tag? verbatim m with
          | .error e => .error e
          | .ok (some r) => goOn r
          | .ok none => if final then goOn (unfinished m) else .ok ⟨before, verbatim, m⟩
      | _ => match reference final m with
        | .inl r => goOn r
        | .inr r => .ok { r with pieces := before ++ r.pieces }

/-- The pieces of a page. What follows the last piece is text, unless it stands in an element
without markup that has no end. -/
def markup (t : Text) : Except MarkupError (List Markup) := do
  let first ← readFrom false (t.length + 1) none (.start t)
  let second ← readFrom true (t.length + 1) first.verbatim first.next
  let rest : List Markup :=
    if second.verbatim.isNone && !second.next.rest.isEmpty then [.text second.next.rest] else []
  .ok (first.pieces ++ second.pieces ++ rest)

end LiveMarkdown.Html
