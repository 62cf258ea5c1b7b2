/-!
# Texts

A text is the list of its characters. Every rule of this library reads and writes texts; strings
appear only where a program meets the outside world, and as literals.

The two operations that the rest leans on most are `lines`, which cuts at every newline, and
`unlines`, which joins with newlines. They are inverse in the direction that matters: joining the
lines of a text gives the text back (`unlines_lines`).
-/

namespace LiveMarkdown

/-- A text: its characters in order. -/
abbrev Text := List Char

/-- A literal stands for its characters. -/
instance : Coe String Text := ⟨String.toList⟩

namespace Text

/-- The grave accent, which fences code and quotes code spans. -/
abbrev grave : Char := '\x60'

/-! ## Lines -/

/-- The pieces between occurrences of the character `c`. A text without it is one piece, so the
result is never empty. -/
def splitAtChar (c : Char) : Text → List Text
  | [] => [[]]
  | d :: rest =>
    if d = c then [] :: splitAtChar c rest
    else match splitAtChar c rest with
      | [] => [[d]]
      | first :: more => (d :: first) :: more

/-- The texts joined with one separator between neighbours. -/
def join (separator : Text) : List Text → Text
  | [] => []
  | [t] => t
  | t :: more => t ++ separator ++ join separator more

/-- The lines of a text, cut at every newline. -/
def lines (t : Text) : List Text := splitAtChar '\n' t

/-- Lines joined with newlines. -/
def unlines (ls : List Text) : Text := join ['\n'] ls

/-- A text that is split has one piece at least. -/
theorem splitAtChar_ne_nil (c : Char) (t : Text) : splitAtChar c t ≠ [] := by
  cases t with
  | nil => simp [splitAtChar]
  | cons d rest => simp only [splitAtChar]; split <;> (try split) <;> simp

/-- Cutting at a character and joining with it loses nothing. -/
theorem join_splitAtChar (c : Char) (t : Text) : join [c] (splitAtChar c t) = t := by
  induction t with
  | nil => rfl
  | cons d rest ih =>
    simp only [splitAtChar]
    cases hl : splitAtChar c rest with
    | nil => exact absurd hl (splitAtChar_ne_nil c rest)
    | cons first more =>
      rw [hl] at ih
      split
      · next h => subst h; simpa [join] using ih
      · cases more <;> simp_all [join]

/-- A text has one line at least. -/
theorem lines_ne_nil (t : Text) : lines t ≠ [] := splitAtChar_ne_nil '\n' t

/-- Cutting at newlines loses nothing. -/
theorem unlines_lines (t : Text) : unlines (lines t) = t := join_splitAtChar '\n' t

/-- The text with a newline for each line end: a newline, a carriage return, or both in this order.
`afterReturn` tells whether a carriage return, which has been dealt with, comes right before it. -/
def uniformNewlinesAfter : (afterReturn : Bool) → Text → Text
  | _, [] => []
  | afterReturn, c :: rest =>
    if c = '\r' then '\n' :: uniformNewlinesAfter true rest
    else if c = '\n' && afterReturn then uniformNewlinesAfter false rest
    else c :: uniformNewlinesAfter false rest

/-- The text with a newline for each line end. -/
def uniformNewlines (t : Text) : Text := uniformNewlinesAfter false t

/-! ## Parts of a text -/

/-- Does the text end with `tail`? -/
def endsWith (t tail : Text) : Bool := tail.isSuffixOf t

/-- Does the text begin with `head`? -/
def startsWith (t head : Text) : Bool := head.isPrefixOf t

/-- The text without the longest tail of characters that satisfy `p`. -/
def dropEndWhile (p : Char → Bool) (t : Text) : Text := (t.reverse.dropWhile p).reverse

/-- The characters from position `start` up to but not including `stop`. -/
def slice (t : Text) (start stop : Nat) : Text := (t.take stop).drop start

/-- Does `part` occur somewhere in the text? -/
def includes (t part : Text) : Bool :=
  part.isPrefixOf t || match t with
    | [] => false
    | _ :: rest => includes rest part

/-- Every occurrence of `c` replaced by the text `by`. -/
def replaceChar (c : Char) (replacement : Text) (t : Text) : Text :=
  t.flatMap fun d => if d = c then replacement else [d]

/-- A text of `n` spaces. -/
def spaces (n : Nat) : Text := List.replicate n ' '

/-! ## Letters and digits of ASCII -/

/-- An ASCII letter. -/
def isLetter (c : Char) : Bool := ('a' ≤ c && c ≤ 'z') || ('A' ≤ c && c ≤ 'Z')

/-- An ASCII digit. -/
def isDigit (c : Char) : Bool := '0' ≤ c && c ≤ '9'

/-- An ASCII letter or digit. -/
def isLetterOrDigit (c : Char) : Bool := isLetter c || isDigit c

/-- A hexadecimal digit. -/
def isHexDigit (c : Char) : Bool :=
  isDigit c || ('a' ≤ c && c ≤ 'f') || ('A' ≤ c && c ≤ 'F')

/-- The value of a hexadecimal digit; zero for any other character. -/
def hexValue (c : Char) : Nat :=
  if isDigit c then c.toNat - 48
  else if 'a' ≤ c && c ≤ 'f' then c.toNat - 87
  else if 'A' ≤ c && c ≤ 'F' then c.toNat - 55
  else 0

/-- The small letter of an ASCII capital; any other character as it is. -/
def lowerAscii (c : Char) : Char :=
  if 'A' ≤ c && c ≤ 'Z' then Char.ofNat (c.toNat + 32) else c

/-- The small ASCII letter that a character is when case is disregarded; any other character as it
is. Beside the capitals, the long s, the sign for kelvin, and the i that has no dot or has one as a
capital are such letters: their other case is an ASCII letter. -/
def foldCase (c : Char) : Char :=
  if c.toNat < 128 then lowerAscii c
  else if c.toNat = 0x17F then 's'
  else if c.toNat = 0x212A then 'k'
  else if c.toNat = 0x130 || c.toNat = 0x131 then 'i'
  else c

/-- An ASCII letter, case disregarded. -/
def isLetterFold (c : Char) : Bool := isLetter (foldCase c)

/-- An ASCII letter or digit, case disregarded. -/
def isLetterOrDigitFold (c : Char) : Bool := isLetterOrDigit (foldCase c)

/-- Equality of texts, case disregarded. -/
def equalFold (s t : Text) : Bool := s.map foldCase == t.map foldCase

/-- Does the text begin with `head`, case disregarded? -/
def startsWithFold (t head : Text) : Bool := (head.map foldCase).isPrefixOf (t.map foldCase)

end Text

end LiveMarkdown
