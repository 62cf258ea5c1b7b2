import LiveMarkdown.Text.Hex

/-!
# Punctuation, symbols and separators

Three of Unicode's general categories. Whether emphasis may open or close at a run of markers
depends on the punctuation and symbols beside it; where a bare address ends, on the punctuation
and separators.
-/

namespace LiveMarkdown.Text

/-- The punctuation beyond ASCII. -/
def punctuationRanges : Ranges := .ofTable
  "a1 0 6 0 4 0 b 1 4 0 4 0 2bf 0 9 0 1d3 5 2a 1 34 0 2 0 3 0 3 0 2d 1 15 1 2 1 e 0 2 2 4b 3
    67 0 2c d ea 2 37 e 20 0 106 1 b 0 8d 0 79 0 7a 0 187 0 d 0 170 0 5b 0 b 1 a9 e 2 0 26 3 48
    0 4b 4 5 1 70 5 ac 0 265 8 98 0 26e 0 2d 1 4f 2 48 1 9e 2 2 2 26 a 13a 1 d9 1 81 6 2 5 ad 6
    1d 1 7e 3 3c 4 3f 1 41 7 c 0 33d 17 9 13 2 c 2 b 1f 1 f 1 27a 3 1e 1 43e d 50 1 20 9 194 15
    40 3 21 1 2fc 3 2 1 71 0 90 2e 2 1f 3 b 1a4 2 5 9 3 b 11 0 d 0 63 0 5b 0 7403 1 10e 2 64 0
    b 0 74 5 17d 3 57 1 29 2 2 0 32 1 30 0 62 c 11 1 7d 3 7f 1 11 1 fa 0 5153 1 d1 9 17 22 2 d
    2 0 5 0 2 1 96 2 2 5 2 3 b 1 4 1 1b 2 2 0 1c 0 2 0 2 6 19b 2 29d 0 31 0 19f 0 2e8 0 c8 0 20
    0 111 8 27 0 71 6 43 6 5a 3 311 0 a8 4 2d 3 be 6 6e 1 2 3 7f 3 31 1 50 3 5 0 e 0 2 2 59 5
    6c 0 1a2 4 b 1 2 0 69 0 fb 16 6a 2 1d c 4d 0 83 2 fd 0 109 2 9c 0 5d 7 54 2 2 4 19f 4 2b 1
    286 1 107 0 471 4 b7d 1 3a7c 1 86 0 42 4 9 0 353 3 148 0 4cbd 0 1de8 4 ed3 1"

/-- Punctuation of scripts that Unicode has taken up or completed lately. It ends a bare address
like any other, but the rules of emphasis do not know it. -/
def recentPunctuationRanges : Ranges := .ofTable
  "1b4e 1 30 0 f1ef 0 666 1 2 1 728 9 d8 0 362 c 4e1e 2 7890 0"

/-- The symbols beyond ASCII: signs of currency, of mathematics, modifiers and pictures. -/
def symbolRanges : Ranges := .ofTable
  "a2 4 2 1 3 0 2 3 3 0 4 0 1f 0 20 0 1cb 3 d d 6 6 2 0 2 10 76 0 f 1 71 0 8c 0 10b 2 77 2 3 0
    3 1 cf 0 b 0 14 1 f8 0 8 1 89 0 16a 1 7 1 f6 0 7f 0 83 7 85 0 d0 0 2a 0 c6 0 c2 2 10 0 2 2
    3 5 15 0 2 0 2 0 86 7 2 5 2 1 6 3 c6 1 2f1 9 2d4 0 16e 0 165 0 9e 21 162 9 a 8 441 0 2 2 c
    2 e 2 e 2 e 1 46 0 e 0 28 2 e 2 14 20 40 1 2 3 2 1 b 0 2 2 6 5 2 0 2 0 2 0 5 0 c 1 5 4 6 3
    2 0 3b 1 5 177 5 1c 3 fb 1a a 52 4d 17 267 2d 30 3 1e b 192 17 3e 5 1f 3 175 3 1f 2 68 e6 5
    166 1 2f 19 2 58 d d5 1b b 9 0 e 1 d 0 16 1 7 1 5c 1 f4 1 5 9 21 23 1d 1e c 1d 9 0 10 1f b
    26 10 13f 19c1 3f 5691 36 23a 16 a 1 68 1 9e 3 b 3 23e 2 e2 0 f 1 4fbe 0 89 10 17e f 80 0
    2d 3 63 0 2 2 3 0 9b 0 7 0 11 2 20 0 2 0 1c 0 2 0 82 6 2 6 e 1 13a 8 3a 10 3 2 2 c 4 0 30
    2c 67b 1 250 0 c77 0 896 1c 4b4b 3 6 0 5157 0 12b4 73 3d f5 b 26 3 3b 6 2 17 1 8 1d 5 3c 16
    41 4 0 bb 56 36b 0 1a 0 20 0 1a 0 20 0 1a 0 20 0 1a 0 20 0 1a 0 3d 1ff 38 3 33 7 2 d 2 1
    6c9 0 1b0 0 9ad 0 4 0 7e 0 1c2 1 10f 2b 5 63 d e 3 e 2 e 2 24 18 a0 39 1c e 2b 5 8 8 1 f 5
    9b 3d7 6 f 4 c 4 73 d 58 8 b 5 0 10 b 5 37 9 9 7 27 9 1d 3 1 4f 153 d d 3 4 4 4 4 6 a 1c 4
    a 6 5 b 9 7 7 9 6 a 92 2 36"

/-- Punctuation or a symbol of ASCII: what is neither control, space, letter nor digit. -/
def isAsciiPunctuation (c : Char) : Bool :=
  ('!' ≤ c && c ≤ '/') || (':' ≤ c && c ≤ '@') || ('[' ≤ c && c ≤ grave) ||
    ('\x7b' ≤ c && c ≤ '~')

/-- The symbols among ASCII's punctuation. -/
def isAsciiSymbol (c : Char) : Bool :=
  c = '$' || c = '+' || c = '<' || c = '=' || c = '>' || c = '^' || c = grave || c = '|' || c = '~'

/-- Punctuation in the narrow sense, symbols apart. -/
def isPunctuation (c : Char) : Bool :=
  if c.toNat < 128 then isAsciiPunctuation c && !isAsciiSymbol c else punctuationRanges.has c

/-- Punctuation or a symbol. -/
def isPunctuationOrSymbol (c : Char) : Bool :=
  if c.toNat < 128 then isAsciiPunctuation c
  else punctuationRanges.has c || symbolRanges.has c

/-- Punctuation that Unicode has added lately. -/
def isRecentPunctuation (c : Char) : Bool := recentPunctuationRanges.has c

/-- A space, line or paragraph separator. -/
def isSeparator (c : Char) : Bool :=
  c = ' ' || c.toNat = 0xA0 || c.toNat = 0x1680 || (0x2000 ≤ c.toNat && c.toNat ≤ 0x200A) ||
    c.toNat = 0x2028 || c.toNat = 0x2029 || c.toNat = 0x202F || c.toNat = 0x205F ||
    c.toNat = 0x3000

/-- A control character. -/
def isControl (c : Char) : Bool := c.toNat < 32 || (127 ≤ c.toNat && c.toNat ≤ 0x9F)

end LiveMarkdown.Text
