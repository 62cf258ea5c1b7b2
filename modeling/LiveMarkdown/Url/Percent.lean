import LiveMarkdown.Text.Utf8

/-!
# Percent encoding

Writing an address puts every byte that has no place in one as `%` and two hexadecimal digits, and
leaves encodings that are there already alone. Reading takes runs of encoded bytes back to text,
save the characters that would change the structure of the address; bytes that spell no character
become replacement characters.
-/

namespace LiveMarkdown.Percent

/-- The hexadecimal digit of a value below sixteen, as a capital. -/
def hexDigit (n : Nat) : Char := Char.ofNat (if n < 10 then 48 + n else 55 + n)

/-- An encoded byte. -/
def encodeByte (b : Nat) : Text := ['%', hexDigit (b / 16 % 16), hexDigit (b % 16)]

/-- The characters other than letters and digits that stand for themselves in an address. -/
def isKept (c : Char) : Bool :=
  Text.isLetterOrDigit c || c = ';' || c = '/' || c = '?' || c = ':' || c = '@' || c = '&' ||
    c = '=' || c = '+' || c = '$' || c = ',' || c = '-' || c = '_' || c = '.' || c = '!' ||
    c = '~' || c = '*' || c = '\'' || c = '(' || c = ')' || c = '#'

/-- A character as it is written in an address. -/
def encodeChar (c : Char) : Text :=
  if isKept c then [c] else (Text.utf8Char c).flatMap fun b => encodeByte b.toNat

/-- A text as it is written in an address. -/
def encode : Text → Text
  | '%' :: a :: b :: rest =>
    if Text.isHexDigit a && Text.isHexDigit b then '%' :: a :: b :: encode rest
    else encodeByte 37 ++ encode (a :: b :: rest)
  | c :: rest => encodeChar c ++ encode rest
  | [] => []

/-- The characters that stay encoded in text that is shown. -/
def staysEncoded (b : Nat) : Bool :=
  let c := Char.ofNat b
  c = ';' || c = '/' || c = '?' || c = ':' || c = '@' || c = '&' || c = '=' || c = '+' ||
    c = '$' || c = ',' || c = '#' || c = '%'

/-- The longest run of encoded bytes that the text begins with, and the rest. -/
def takeBytes : Text → List Nat × Text
  | '%' :: a :: b :: rest =>
    if Text.isHexDigit a && Text.isHexDigit b then
      let (bytes, rest) := takeBytes rest
      ((Text.hexValue a * 16 + Text.hexValue b) :: bytes, rest)
    else ([], '%' :: a :: b :: rest)
  | t => ([], t)

/-- The replacement character. -/
def replacement : Char := Char.ofNat 0xFFFD

/-- Do the bytes all go on with a character? -/
def allContinue (bytes : List Nat) : Bool := bytes.all fun b => 0x80 ≤ b && b < 0xC0

/-- Bytes of one character, or as many replacement characters. -/
def decodeGroup (bytes : List Nat) : Text :=
  match Text.ofUtf8 (bytes.map UInt8.ofNat) with
  | .ok t => t
  | .error _ => List.replicate bytes.length replacement

/-- How many bytes follow a byte that begins a character beyond ASCII. -/
def followers? (b : Nat) : Option Nat :=
  if 0xC0 ≤ b && b < 0xE0 then some 1
  else if 0xE0 ≤ b && b < 0xF0 then some 2
  else if 0xF0 ≤ b && b < 0xF8 then some 3
  else none

/-- A run of bytes as text, at most `fuel` characters of it. -/
def decodeBytes : (fuel : Nat) → List Nat → Text
  | 0, _ => []
  | _, [] => []
  | fuel + 1, b :: rest =>
    if b < 0x80 then
      (if staysEncoded b then encodeByte b else [Char.ofNat b]) ++ decodeBytes fuel rest
    else match followers? b with
      | some n =>
        if n ≤ rest.length && allContinue (rest.take n) then
          decodeGroup (b :: rest.take n) ++ decodeBytes fuel (rest.drop n)
        else replacement :: decodeBytes fuel rest
      | none => replacement :: decodeBytes fuel rest

/-- A text as it is shown, at most `fuel` steps of it. -/
def decodeFrom : (fuel : Nat) → Text → Text
  | 0, t => t
  | _, [] => []
  | fuel + 1, c :: rest =>
    match takeBytes (c :: rest) with
    | ([], _) => c :: decodeFrom fuel rest
    | (bytes, rest) => decodeBytes bytes.length bytes ++ decodeFrom fuel rest

/-- A text as it is shown. -/
def decode (t : Text) : Text := decodeFrom t.length t

end LiveMarkdown.Percent
