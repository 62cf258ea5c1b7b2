import LiveMarkdown.Html.Entity

/-!
# Reading character references

What a writer of HTML may leave out: the names of old characters need no semicolon, and they may be
followed by more letters. Numbers that stand for no character, but for one in the code pages of old,
are taken for that one.
-/

namespace LiveMarkdown.Html

/-- The names that need no semicolon. -/
def legacyNames : List Text :=
  Text.blankWords (String.toList
    "AElig AMP Aacute Acirc Agrave Aring Atilde Auml COPY Ccedil ETH Eacute Ecirc Egrave Euml GT
    Iacute Icirc Igrave Iuml LT Ntilde Oacute Ocirc Ograve Oslash Otilde Ouml QUOT REG THORN
    Uacute Ucirc Ugrave Uuml Yacute aacute acirc acute aelig agrave amp aring atilde auml brvbar
    ccedil cedil cent copy curren deg divide eacute ecirc egrave eth euml frac12 frac14 frac34
    gt iacute icirc iexcl igrave iquest iuml laquo lt macr micro middot nbsp not ntilde oacute
    ocirc ograve ordf ordm oslash otilde ouml para plusmn pound quot raquo reg sect shy sup1
    sup2 sup3 szlig thorn times uacute ucirc ugrave uml uuml yacute yen yuml")

/-- The characters of a name without a semicolon. -/
def legacyEntity? (name : Text) : Option Text :=
  if legacyNames.contains name then entity? name else none

/-- The characters that pages written in the Windows code page for Western Europe have at 128 to
159. Zero marks a place that the code page leaves free. -/
def westernTable : List Nat :=
  [0x20AC, 0, 0x201A, 0x0192, 0x201E, 0x2026, 0x2020, 0x2021, 0x02C6, 0x2030, 0x0160, 0x2039,
   0x0152, 0, 0x017D, 0, 0, 0x2018, 0x2019, 0x201C, 0x201D, 0x2022, 0x2013, 0x2014, 0x02DC, 0x2122,
   0x0161, 0x203A, 0x0153, 0, 0x017E, 0x0178]

/-- What stands in place of a character that there is not. -/
def missingChar : Char := '\uFFFD'

/-- The character of a number; one of the code page from 128 to 159. -/
def numberedChar (n : Nat) : Char :=
  let western := if 0x80 ≤ n && n ≤ 0x9F then westernTable.getD (n - 0x80) 0 else 0
  if western ≠ 0 then Char.ofNat western
  else if (0xD800 ≤ n && n ≤ 0xDFFF) || 0x10FFFF < n then missingChar
  else Char.ofNat n

/-- Is the number one of a control character, or of one that is kept free? -/
def isNoncharacter (n : Nat) : Bool :=
  (1 ≤ n && n ≤ 8) || n = 0xB || (0xE ≤ n && n ≤ 0x1F) || n = 0x7F || (0xFDD0 ≤ n && n ≤ 0xFDEF) ||
    n % 0x10000 = 0xFFFE || n % 0x10000 = 0xFFFF

/-- The text of a numbered reference in an attribute. -/
def numberedText (n : Nat) : Text :=
  if n = 0 then [missingChar]
  else if n ≤ 0x10FFFF && isNoncharacter n then []
  else [numberedChar n]

/-- The longest beginning of `name`, of `n` characters at most, that is an old name, with its text
and its length. -/
def legacyBeginning? (name : Text) : (n : Nat) → Option (Text × Nat)
  | 0 | 1 => none
  | n + 2 => match legacyEntity? (name.take (n + 2)) with
    | some t => some (t, n + 2)
    | none => legacyBeginning? name (n + 1)

/-- A character that the name of a reference in an attribute may have. -/
def isReferenceChar (c : Char) : Bool :=
  !(c = '\t' || c = '\n' || c = '\x0C' || c = ' ' || c = '<' || c = '&' || c = '#' || c = ';')

/-- Given what comes after an ampersand in an attribute: the text that the reference stands for, and
how many characters it has. -/
def attributeReference? (t : Text) : Option (Text × Nat) :=
  /- The length of a reference whose letters end after `n` characters. -/
  let closed (n : Nat) : Nat := if (t.drop n).head? = some ';' then n + 1 else n
  match t with
  | '#' :: rest =>
    let digits := rest.takeWhile Text.isDigit
    if !digits.isEmpty then
      some (numberedText (digits.foldl (fun n c => 10 * n + (c.toNat - 48)) 0),
        closed (digits.length + 1))
    else match rest with
      | x :: rest =>
        let digits := rest.takeWhile Text.isHexDigit
        if (x = 'x' || x = 'X') && !digits.isEmpty then
          some (numberedText (hexNumber digits), closed (digits.length + 2))
        else none
      | [] => none
  | _ =>
    let name := (t.take 32).takeWhile isReferenceChar
    let isClosed := (t.drop name.length).head? = some ';'
    match (if isClosed then entity? name else legacyEntity? name) with
    | some text => some (text, closed name.length)
    | none => legacyBeginning? name (if isClosed then name.length else name.length - 1)

/-- The text with its references replaced. The first `skip` characters belong to a reference that
has been. -/
def decodeFrom : (skip : Nat) → Text → Text
  | _, [] => []
  | skip + 1, _ :: rest => decodeFrom skip rest
  | 0, c :: rest =>
    match (if c = '&' then attributeReference? rest else none) with
    | some (t, n) => t ++ decodeFrom n rest
    | none => c :: decodeFrom 0 rest

/-- The value of an attribute as it is meant. -/
def decodeAttribute (t : Text) : Text := decodeFrom 0 t

end LiveMarkdown.Html
