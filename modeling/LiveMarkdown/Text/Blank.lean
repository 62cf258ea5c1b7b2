import LiveMarkdown.Text.Basic

/-!
# White space

A character is blank if it is one of ASCII's seven white space characters and four separators, the
next-line control, or one of Unicode's space, line and paragraph separators. Trimming and the
question whether a text says anything at all use this set. White space is what is left of it without
the four separators and the next-line control; the rules of Markdown and of HTML have narrower sets
of their own.
-/

namespace LiveMarkdown.Text

/-- A blank character. -/
def isBlank (c : Char) : Bool :=
  if c.toNat < 128 then c = ' ' || (9 ≤ c.toNat && c.toNat ≤ 13) || (28 ≤ c.toNat && c.toNat ≤ 31)
  else c.toNat = 0x85 || c.toNat = 0xA0 || c.toNat = 0x1680 ||
    (0x2000 ≤ c.toNat && c.toNat ≤ 0x200A) || c.toNat = 0x2028 || c.toNat = 0x2029 ||
    c.toNat = 0x202F || c.toNat = 0x205F || c.toNat = 0x3000

/-- Does every character of the text count as blank? The empty text is blank. -/
def allBlank (t : Text) : Bool := t.all isBlank

/-- The text without leading blanks. -/
def trimStart (t : Text) : Text := t.dropWhile isBlank

/-- The text without trailing blanks. -/
def trimEnd (t : Text) : Text := dropEndWhile isBlank t

/-- The text without blanks at either end. -/
def trim (t : Text) : Text := trimEnd (trimStart t)

/-- A white space character: a blank that is neither one of the four separators of ASCII nor the
next-line control. -/
def isWhite (c : Char) : Bool :=
  isBlank c && !(28 ≤ c.toNat && c.toNat ≤ 31) && c.toNat ≠ 0x85

/-- The text without white space at either end. -/
def trimWhite (t : Text) : Text := dropEndWhile isWhite (t.dropWhile isWhite)

/-- The blanks that the text begins with. -/
def leadingBlanks (t : Text) : Text := t.takeWhile isBlank

/-- The first word of a text: what stands before the first blank, once leading blanks are gone.
Empty if the text is blank. -/
def firstWord (t : Text) : Text := (trimStart t).takeWhile (!isBlank ·)

/-- The words of a text: its longest pieces without blanks. -/
def blankWords (t : Text) : List Text :=
  let (done, current) := t.foldr step ([], [])
  if current.isEmpty then done else current :: done
where
  /-- From the right: a blank ends the word being read. -/
  step (c : Char) : List Text × Text → List Text × Text
    | (done, current) =>
      if isBlank c then (if current.isEmpty then done else current :: done, [])
      else (done, c :: current)

end LiveMarkdown.Text
