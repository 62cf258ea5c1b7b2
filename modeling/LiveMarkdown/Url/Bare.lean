import LiveMarkdown.Text.Decimal
import LiveMarkdown.Text.Pattern
import LiveMarkdown.Text.Punctuation
import LiveMarkdown.Url.TopLevel

/-!
# Bare addresses

Addresses that stand in running text without any marks around them: with a scheme (`http:`,
`https:`, `ftp:`, `mailto:` or two slashes), as a host name that ends in a known top-level domain,
or as a mail address. Where an address ends is a matter of what writers do: closing punctuation
belongs to the sentence, balanced brackets to the address.

Each of the three kinds is looked for by itself, from the front of the text to its end. Where
addresses of two kinds overlap, the one that begins first counts.
-/

namespace LiveMarkdown.Url.Bare

open Pattern Text

/-! ## Characters -/

/-- A character that sets an address off from the text around it. -/
def isDivider (c : Char) : Bool := c = '>' || c = '<' || c.toNat = 0xFF5C

/-- White space or a control character. -/
def isGap (c : Char) : Bool := isSeparator c || isControl c

/-- White space, punctuation or a control character. -/
def isBreak (c : Char) : Bool := isGap c || isPunctuation c || isRecentPunctuation c

/-- A character of a word in any script, the underscore excepted. -/
def isNameChar (c : Char) : Bool := !isDivider c && !isBreak c

def nameChar : Pattern := one isNameChar
def gap : Pattern := one isGap

/-- A digit of any script. -/
def digit : Pattern := one isAnyDigit

/-- A digit of ASCII up to `last`. -/
def digitTo (last : Char) : Pattern := one fun c => '0' ≤ c && c ≤ last

/-! ## Hosts -/

/-- A label written in punycode. -/
def encodedLabel : Pattern :=
  textFold "xn--" ++ one isEncodedChar ++ many (some 58) (one isEncodedChar)
where
  isEncodedChar (c : Char) : Bool := isLetterOrDigitFold c || c = '-'

/-- A label of a host name: at most 63 characters, with hyphens only inside. -/
def label : Pattern :=
  encodedLabel <|> nameChar <|> nameChar ++ many (some 61) (char '-' <|> nameChar) ++ nameChar

/-- The last label of a host name that has no known top-level domain. -/
def lastLabel : Pattern := encodedLabel <|> nameChar ++ many (some 62) nameChar

/-- Labels with a point after each. -/
def labelPoint : Pattern := label ++ char '.'

/-- A host name. -/
def host : Pattern := many none labelPoint ++ label

/-- A known top-level domain. -/
def topLevel : Pattern := run isNameChar isTopLevel <|> encodedLabel

/-- A host name under a known top-level domain. -/
def knownHost : Pattern := several labelPoint ++ topLevel

/-- A number below 256 in decimal. -/
def octet : Pattern :=
  text "25" ++ digitTo '5' <|> char '2' ++ digitTo '4' ++ digitTo '9' <|>
    optional (digitTo '1') ++ digitTo '9' ++ optional (digitTo '9')

/-- A numeric address. -/
def numericHost : Pattern :=
  octet ++ char '.' ++ octet ++ char '.' ++ octet ++ char '.' ++ octet

/-- A user before a host, at most 50 characters. -/
def user : Pattern :=
  optional (userChar ++ many (some 49) userChar ++ char '@')
where
  userChar : Pattern := one fun c => !isGap c && !"@/[]()".toList.contains c

/-- A port, at most 65535. -/
def port : Pattern :=
  optional (char ':' ++
    (char '6' ++
      (digitTo '4' ++ digit ++ digit ++ digit <|>
        char '5' ++ (digitTo '4' ++ digit ++ digit <|>
          char '5' ++ (digitTo '2' ++ digit <|> char '3' ++ digitTo '5'))) <|>
      optional (one fun c => '1' ≤ c && c ≤ '5') ++ digit ++ many (some 3) digit))

/-- A host ends here: a divider or break follows, but no hyphen, underscore, port or further
label. -/
def hostEnd : Pattern :=
  ahead (atEnd <|> one fun c => isDivider c || isBreak c) ++
    notAhead (char '-' <|> char '_' <|> char ':' ++ digit <|> text ".-" <|>
      char '.' ++ notAhead (atEnd <|> one isBreak))

/-! ## Paths -/

/-- Text between a pair of marks, without gaps and without the closing mark. -/
def enclosed (opening closing : Char) (turns : Pattern → Pattern) : Pattern :=
  char opening ++ turns (one fun c => !isGap c && c ≠ closing) ++ char closing

/-- A mark that belongs to the address unless a gap, the end, or one of `stops` follows. -/
def inside (mark : Pattern) (stops : Text) : Pattern :=
  mark ++ notAhead (gap <|> oneOf stops <|> atEnd)

/-- A piece of a path, query or fragment. -/
def pathPiece : Pattern :=
  choice [
    one fun c => !isGap c && !isDivider c && !"()[]\x7b\x7d.,\"'?!-;".toList.contains c,
    enclosed '[' ']' (many none),
    enclosed '(' ')' (many none),
    enclosed '\x7b' '\x7d' (many none),
    enclosed '"' '"' several,
    enclosed '\'' '\'' several,
    char '\'' ++ ahead (nameChar <|> char '-'),
    char '.' ++ several (char '.') ++
      one (fun c => isLetterOrDigitFold c || "%/&".toList.contains c),
    inside (char '.') ".",
    several (char '-'),
    inside (char ',') "",
    inside (char ';') "",
    inside (several (char '!')) "!",
    inside (char '?') "?"]

/-- A path, query or fragment, or nothing. -/
def path : Pattern := optional (oneOf "/?#" ++ several pathPiece <|> char '/')

/-! ## Mail -/

/-- A character of the name before the `@` of a mail address. -/
def isMailChar (c : Char) : Bool := isLetterOrDigitFold c || "-;:&=+$,._".toList.contains c

/-- The name before the `@` of a mail address, at most 64 characters. -/
def mailName : Pattern := one isMailChar ++ many (some 63) (one fun c => isMailChar c || c = '"')

/-! ## Addresses with a scheme -/

/-- The schemes. -/
inductive Scheme where
  | http | https | ftp | slashes | mail
  deriving DecidableEq, Repr

/-- The schemes in the order in which they are tried. -/
def Scheme.all : List Scheme := [.http, .slashes, .mail, .https, .ftp]

/-- How a scheme is written. -/
def Scheme.mark : Scheme → Text
  | .http => "http:"
  | .https => "https:"
  | .ftp => "ftp:"
  | .slashes => "//"
  | .mail => "mailto:"

/-- What follows the mark of the scheme. -/
def Scheme.body : Scheme → Pattern
  | .http | .https | .ftp => text "//" ++ user ++ host ++ port ++ hostEnd ++ path
  | .slashes =>
    user ++ (textFold "localhost" <|> several labelPoint ++ lastLabel) ++ port ++ hostEnd ++ path
  | .mail => mailName ++ char '@' ++ host ++ hostEnd

/-- May the scheme stand after the character `before`? Two slashes do not follow a colon or another
slash. -/
def Scheme.mayFollow (scheme : Scheme) (before : Option Char) : Bool :=
  scheme ≠ .slashes || (before ≠ some ':' && before ≠ some '/')

/-- A character after which an address may begin. -/
def isOpening (c : Char) : Bool := c ≠ '_' && (isDivider c || isBreak c)

/-- Where an address may begin. -/
def opening : Pattern := atStart <|> one isOpening

/-- The place after the opening and the scheme whose mark stands there, case disregarded, with the
place after it. -/
def schemeAt? (s : Place) : Option (Place × Scheme × Place) :=
  follow opening s fun e =>
    Scheme.all.findSome? fun scheme =>
      (after? (textFold scheme.mark) e).map fun e' => (e, scheme, e')

/-- The end of the address whose mark stands between the two places. A mark with letters beyond
ASCII makes no address. -/
def Scheme.addressEnd? (scheme : Scheme) (opened marked : Place) : Option Place :=
  if (opened.upTo marked).map lowerAscii = scheme.mark && scheme.mayFollow opened.before then
    (after? scheme.body marked).filter fun e => e.rest.length < marked.rest.length
  else none

/-- An address found in a text: its scheme, if it has one, and the positions of its first character
and of the first one after it. -/
structure Hit where
  scheme : Option Scheme
  start : Nat
  stop : Nat
  deriving Repr

/-- The addresses with a scheme in a text of `size` characters, one after the other from a place on,
looked for in at most `fuel` places. -/
def schemeHits (size : Nat) : (fuel : Nat) → Place → List Hit
  | 0, _ => []
  | fuel + 1, s =>
    let position (e : Place) : Nat := size - e.rest.length
    match schemeAt? s with
    | none => match s.next? with
      | none => []
      | some (_, s) => schemeHits size fuel s
    | some (opened, scheme, marked) =>
      match scheme.addressEnd? opened marked with
      | some e => ⟨some scheme, position opened, position e⟩ :: schemeHits size fuel e
      | none => schemeHits size fuel marked

/-! ## Addresses without a scheme -/

/-- What a text must contain somewhere for host names to be looked for. -/
def hostHint : Pattern :=
  textFold "localhost" <|> textFold "www." <|>
    char '.' ++ digit ++ many (some 2) digit ++ char '.' <|>
    char '.' ++ topLevel ++ (one isBreak <|> char '>' <|> atEnd)

/-- A symbol after which a host name may begin. -/
def isHostSymbol (c : Char) : Bool := "$+<=>^\x60|".toList.contains c || c.toNat = 0xFF5C

/-- A character after which a host name may begin. -/
def isHostOpening (c : Char) : Bool :=
  !".:/-_@".toList.contains c && (isHostSymbol c || isBreak c)

/-- The addresses of a kind in a text of `size` characters, one after the other from a place on, at
most `fuel` of them. Each comes after an opening: the beginning of the text, or a character that is
not part of an address before it. -/
def hitsOf (scheme : Option Scheme) (isOpening : Char → Bool) (address : Pattern) (size : Nat) :
    (fuel : Nat) → Place → List Hit
  | 0, _ => []
  | fuel + 1, s =>
    let position (e : Place) : Nat := size - e.rest.length
    match (atStart <|> one isOpening).findFrom
        (fun _ b => follow address b fun e => some (b, e)) 0 s.rest.length s with
    | none => []
    | some (_, b, e) =>
      ⟨scheme, position b, position e⟩ :: hitsOf scheme isOpening address size fuel e

/-- The host names under a known top-level domain, with what belongs to them. -/
def hostHits (t : Text) : List Hit :=
  hitsOf none isHostOpening (notAhead (one isHostSymbol) ++ knownHost ++ port ++ hostEnd ++ path)
    t.length (t.length + 1) (.start t)

/-- The mail addresses. -/
def mailHits (t : Text) : List Hit :=
  hitsOf (some .mail) (fun c => isDivider c || c = '"' || c = '(' || isGap c)
    (mailName ++ char '@' ++ (numericHost <|> knownHost) ++ hostEnd)
    t.length (t.length + 1) (.start t)

/-! ## All addresses of a text -/

/-- Can the text hold an address at all? -/
def isPromising (t : Text) : Bool :=
  t.any (fun c => c = '.' || c = ':' || c = '/' || c = '@' || c = 'l' || c = 'L')

/-- Does the text show any sign of an address: a scheme, a hint at a host name, or an `@`? -/
def isHinted (t : Text) : Bool :=
  isPromising t &&
    (t.contains '@' || hostHint.occurs t ||
      ((opening ++ choice (Scheme.all.map fun s => textFold s.mark)).occurs t))

/-- Does an address count before another one? It does if it begins first, or begins at the same
place and is no shorter. -/
def Hit.precedes (a b : Hit) : Bool := a.start < b.start || (a.start = b.start && b.stop ≤ a.stop)

/-- The addresses with another one, in the order in which they count. -/
def insertHit (h : Hit) : List Hit → List Hit
  | [] => [h]
  | g :: rest => if h.precedes g then h :: g :: rest else g :: insertHit h rest

/-- The addresses that begin at the position `passed` or later and overlap none before them. -/
def apartFrom (passed : Nat) : List Hit → List Hit
  | [] => []
  | h :: rest => if passed ≤ h.start then h :: apartFrom h.stop rest else apartFrom passed rest

/-- The addresses of a text, in order. -/
def hits (t : Text) : List Hit :=
  if !isPromising t then []
  else
    let schemes := schemeHits t.length (t.length + 1) (.start t)
    let hosts := if hostHint.occurs t then hostHits t else []
    let mails := if t.contains '@' then mailHits t else []
    apartFrom 0 ((schemes ++ hosts ++ mails).foldr insertHit [])

/-- An address with the text it stands in place of. -/
structure Link where
  scheme : Option Scheme
  start : Nat
  stop : Nat
  /-- The address as it is written. -/
  raw : Text
  deriving Repr

/-- The address, with a scheme. -/
def Link.url (l : Link) : Text :=
  match l.scheme with
  | none => "http://" ++ l.raw
  | some .mail => if startsWithFold l.raw "mailto:" then l.raw else "mailto:" ++ l.raw
  | some _ => l.raw

/-- The addresses of a text, in order, with what stands there. -/
def links (t : Text) : List Link :=
  (hits t).map fun h => ⟨h.scheme, h.start, h.stop, slice t h.start h.stop⟩

/-- The address with a scheme that the text begins with. -/
def atStart? (t : Text) : Option Link :=
  (schemeAt? (.start t)).bind fun (opened, scheme, marked) =>
    (scheme.addressEnd? opened marked).map fun e =>
      let start := t.length - opened.rest.length
      let stop := t.length - e.rest.length
      ⟨some scheme, start, stop, slice t start stop⟩

end LiveMarkdown.Url.Bare
