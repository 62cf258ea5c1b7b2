import LiveMarkdown.Text.Hex

/-!
# Case

The full case mappings: a character may become several, and a capital sigma becomes the final small
sigma at the end of a word. Within ASCII both mappings are the familiar ones; beyond it they are
tables of runs `gap count stride shift`. A run starts `gap` steps after the start of the run before
and holds every `stride`-th of its characters, `count` of them, each of which maps to the character
`shift` steps away. An even shift `2 n` counts `n` steps up, an odd one `2 n - 1` counts `n` down.
-/

namespace LiveMarkdown.Text

/-- Characters that map to a character at one fixed distance. -/
structure CaseRun where
  first : Nat
  count : Nat
  stride : Nat
  shift : Nat

/-- The runs of a table, counted from `origin`. -/
def caseRunsFrom (origin : Nat) : List Nat → List CaseRun
  | gap :: count :: stride :: shift :: rest =>
    ⟨origin + gap, count, stride, shift⟩ :: caseRunsFrom (origin + gap) rest
  | _ => []

/-- The character that the run maps `c` to, if it holds `c`. -/
def CaseRun.image? (run : CaseRun) (c : Char) : Option Char :=
  let offset := c.toNat - run.first
  if run.first ≤ c.toNat && offset < run.count * run.stride && offset % run.stride = 0 then
    some (Char.ofNat
      (if run.shift % 2 = 0 then c.toNat + run.shift / 2 else c.toNat - (run.shift + 1) / 2))
  else none

/-- Runs of characters with a small letter. -/
def lowerRuns : List CaseRun := caseRunsFrom 0 <| hexNumbers
  "c0 17 1 40 18 7 1 40 28 18 2 2 32 3 2 2 7 8 2 2 11 17 2 2 2e 1 1 f1 1 3 2 2 8 1 1 1a4 1 2 2
    2 4 1 1 19c 1 1 1 2 2 2 1 19a 2 1 1 2 3 1 1 9e 1 1 1 194 1 1 1 196 1 1 1 2 2 1 1 19a 1 1 1
    19e 2 1 1 1a6 1 1 1 1a2 1 1 1 2 4 1 1 1a6 1 1 1 1aa 2 1 1 1ac 1 3 2 2 6 1 1 1b4 1 1 1 2 2 1
    1 1b4 3 1 1 2 2 1 1 1b4 1 1 1 2 2 2 1 1b2 2 2 2 2 4 1 1 1b6 1 1 1 2 4 1 1 2 8 1 1 4 1 1 1 2
    2 1 1 4 1 1 1 2 2 1 1 4 1 9 2 2 13 9 2 2 13 1 1 4 1 2 2 2 4 1 1 c1 1 1 1 6f 1 14 2 2 28 1 1
    103 2 9 2 2 18 1 1 5456 1 1 1 2 2 1 1 145 1 1 1 5450 3 1 1 2 2 1 1 185 1 1 1 8a 1 1 1 8e 1
    5 2 2 12a 2 2 2 6 1 1 2 9 1 1 e8 7 1 1 4c 2 3 1 4a 4 1 1 80 2 2 1 7e 3 11 1 40 12 9 1 40 2c
    1 1 10 9 c 2 2 1c 1 1 77 3 1 1 2 2 1 1 d 1 1 1 2 3 3 1 103 3 10 1 a0 10 20 1 40 50 11 2 2
    2a 1b 2 2 36 1 1 1e 1 7 2 2 f 30 2 2 61 26 1 60 b6f 26 1 38c0 27 1 1 38c0 6 1 1 38c0 2d3 50
    1 12fa0 50 6 1 10 8a0 2b 1 177f 2d 3 1 177f 143 4b 2 2 9e 1 1 3b7d 2 30 2 2 68 8 1 f 10 6 1
    f 10 8 1 f 10 8 1 f 10 6 1 f 11 4 2 f f 8 1 f 20 8 1 f 10 8 1 f 10 8 1 f 10 2 1 f 2 2 1 93
    2 1 1 11 c 4 1 ab 4 1 1 11 c 2 1 f 2 2 1 c7 e 2 1 f 2 2 1 df 2 1 1 d c 2 1 ff 2 2 1 fb 2 1
    1 11 12a 1 1 3ab9 4 1 1 417d 1 1 1 408b 7 1 1 38 2e 10 1 20 23 1 1 2 333 1a 1 34 74a 30 1
    60 60 1 1 2 2 1 1 53ed 1 1 1 1dcb 1 1 1 53cd 3 3 2 2 6 1 1 5437 1 1 1 53f9 1 1 1 543d 1 1 1
    543b 2 1 1 2 3 1 1 2 9 2 1 547d 2 32 2 2 6b 2 2 2 7 1 1 2 794e 17 2 2 40 e 2 2 a2 7 2 2 10
    1f 2 2 47 2 2 2 4 1 1 11407 1 5 2 2 d 1 1 2 2 1 1 14a4f 3 2 2 2 6 a 2 2 14 1 1 14a87 1 1 1
    14a9d 1 1 1 14a95 1 1 1 14a81 1 1 1 14a87 2 1 1 14a23 1 1 1 14a53 1 1 1 14a29 1 1 1 740 1 8
    2 2 10 1 1 5f 1 1 1 14a85 1 1 1 1146f 1 2 2 2 9 1 1 2 6 2 2 2 1f 1 1 2 572c 1a 1 40 4df 28
    1 50 b0 24 1 50 c0 b 1 4e c f 1 4e 10 7 1 4e 8 2 1 4e 6ec 33 1 80 c20 20 1 40 55a0 20 1 40
    7ac0 22 1 44"

/-- Runs of characters with a single capital letter. -/
def upperRuns : List CaseRun := caseRunsFrom 0 <| hexNumbers
  "b5 1 1 5ce 2b 17 1 3f 18 7 1 3f 7 1 1 f2 2 18 2 1 30 1 1 1cf 2 3 2 1 7 8 2 1 11 17 2 1 2f 3
    2 1 5 1 1 257 1 1 1 186 3 2 2 1 5 1 1 1 4 1 1 1 6 1 1 1 3 1 1 c2 4 1 1 1 1 1 1 146 4 1 1
    104 3 3 2 1 7 1 1 1 5 1 1 1 3 1 1 1 4 2 2 1 5 1 1 1 4 1 1 1 2 1 1 70 6 1 1 1 1 1 1 3 2 1 1
    1 1 1 1 3 2 1 1 1 1 1 1 3 2 8 2 1 f 1 1 9d 2 9 2 1 13 1 1 1 1 1 1 3 2 1 1 1 4 14 2 1 2a 9 2
    1 19 1 1 1 3 2 1 547e 3 1 1 1 5 5 2 1 9 1 1 543e 1 1 1 5438 1 1 1 543c 1 1 1 1a3 1 1 1 19b
    2 2 1 199 3 1 1 193 2 1 1 195 1 1 1 14a9e 4 1 1 199 1 1 1 14a96 2 1 1 19d 2 1 1 14a50 1 1 1
    14a88 2 1 1 1a1 1 1 1 1a5 1 1 1 14a88 1 1 1 53ee 1 1 1 14a82 3 1 1 1a5 2 1 1 53fa 1 1 1 1a9
    3 1 1 1ab 8 1 1 53ce 3 1 1 1b3 2 1 1 14a86 1 1 1 1b3 4 1 1 14a54 1 1 1 1b3 1 1 1 89 1 2 1
    1b1 2 1 1 8d 6 1 1 1b5 b 1 1 14a2a 1 1 1 14a24 a7 1 1 a8 2c 2 2 1 6 1 1 1 4 3 1 104 31 1 1
    4b 1 3 1 49 4 11 1 3f 11 1 1 3d 1 9 1 3f 9 1 1 7f 1 2 1 7d 3 1 1 7b 1 1 1 71 4 1 1 5d 1 1 1
    6b 1 1 1 f 2 c 2 1 17 1 1 ab 1 1 1 9f 1 1 1 e 1 1 1 e7 2 1 1 bf 3 1 1 1 3 1 1 1 35 20 1 3f
    20 10 1 9f 11 11 2 1 2a 1b 2 1 37 7 2 1 d 1 1 1d 2 30 2 1 90 26 1 5f b6f 2b 1 1780 2d 3 1
    1780 2fb 6 1 f 888 1 1 30db 1 1 1 30d9 1 1 1 30c7 1 2 1 30c3 2 1 1 30c5 1 1 1 30b7 1 1 1
    3049 1 1 1 11384 f1 1 1 11408 4 1 1 1dcc 11 1 1 11470 73 4b 2 1 9a 1 1 75 6 30 2 1 5f 8 1
    10 10 6 1 10 10 8 1 10 10 8 1 10 10 6 1 10 11 4 2 10 f 8 1 10 10 2 1 94 2 4 1 ac 4 2 1 c8 2
    2 1 100 2 2 1 e0 2 2 1 fc 34 2 1 10 e 1 1 3849 12 2 1 10 10 2 1 10 5 1 1 e 169 1 1 37 22 10
    1 1f 14 1 1 1 34c 1a 1 33 760 30 1 5f 31 1 1 1 4 1 1 5455 1 1 1 544f 2 3 2 1 b 1 1 1 3 1 1
    1 b 32 2 1 6b 2 2 1 7 1 1 1 d 26 1 38bf 27 1 1 38bf 6 1 1 38bf 7914 17 2 1 40 e 2 1 a2 7 2
    1 10 1f 2 1 47 2 2 1 5 5 2 1 d 1 1 1 5 2 2 1 3 1 1 60 3 a 2 1 1e 8 2 1 13 2 2 1 9 1 1 1 6 2
    2 1 1f 1 1 1 35d 1 1 73f 1d 50 1 12f9f 53d1 1a 1 3f 4e7 28 1 4f b0 24 1 4f bf b 1 4d c f 1
    4d 10 7 1 4d 8 2 1 4d 705 33 1 7f c00 20 1 3f 55a0 20 1 3f 7ac2 22 1 43"

/-- Entries `key count value ...` of a table of expansions. -/
def expansionsOf (fuel : Nat) : List Nat → List (Nat × Text)
  | key :: count :: rest =>
    match fuel with
    | 0 => []
    | fuel + 1 => (key, (rest.take count).map Char.ofNat) :: expansionsOf fuel (rest.drop count)
  | _ => []

/-- Characters whose capital form has several characters. -/
def upperExpansions : List (Nat × Text) :=
  let numbers := hexNumbers
    "df 2 53 53 149 2 2bc 4e 1f0 2 4a 30c 390 3 399 308 301 3b0 3 3a5 308 301 587 2 535 552 1e96
    2 48 331 1e97 2 54 308 1e98 2 57 30a 1e99 2 59 30a 1e9a 2 41 2be 1f50 2 3a5 313 1f52 3 3a5
    313 300 1f54 3 3a5 313 301 1f56 3 3a5 313 342 1f80 2 1f08 399 1f81 2 1f09 399 1f82 2 1f0a
    399 1f83 2 1f0b 399 1f84 2 1f0c 399 1f85 2 1f0d 399 1f86 2 1f0e 399 1f87 2 1f0f 399 1f88 2
    1f08 399 1f89 2 1f09 399 1f8a 2 1f0a 399 1f8b 2 1f0b 399 1f8c 2 1f0c 399 1f8d 2 1f0d 399
    1f8e 2 1f0e 399 1f8f 2 1f0f 399 1f90 2 1f28 399 1f91 2 1f29 399 1f92 2 1f2a 399 1f93 2 1f2b
    399 1f94 2 1f2c 399 1f95 2 1f2d 399 1f96 2 1f2e 399 1f97 2 1f2f 399 1f98 2 1f28 399 1f99 2
    1f29 399 1f9a 2 1f2a 399 1f9b 2 1f2b 399 1f9c 2 1f2c 399 1f9d 2 1f2d 399 1f9e 2 1f2e 399
    1f9f 2 1f2f 399 1fa0 2 1f68 399 1fa1 2 1f69 399 1fa2 2 1f6a 399 1fa3 2 1f6b 399 1fa4 2 1f6c
    399 1fa5 2 1f6d 399 1fa6 2 1f6e 399 1fa7 2 1f6f 399 1fa8 2 1f68 399 1fa9 2 1f69 399 1faa 2
    1f6a 399 1fab 2 1f6b 399 1fac 2 1f6c 399 1fad 2 1f6d 399 1fae 2 1f6e 399 1faf 2 1f6f 399
    1fb2 2 1fba 399 1fb3 2 391 399 1fb4 2 386 399 1fb6 2 391 342 1fb7 3 391 342 399 1fbc 2 391
    399 1fc2 2 1fca 399 1fc3 2 397 399 1fc4 2 389 399 1fc6 2 397 342 1fc7 3 397 342 399 1fcc 2
    397 399 1fd2 3 399 308 300 1fd3 3 399 308 301 1fd6 2 399 342 1fd7 3 399 308 342 1fe2 3 3a5
    308 300 1fe3 3 3a5 308 301 1fe4 2 3a1 313 1fe6 2 3a5 342 1fe7 3 3a5 308 342 1ff2 2 1ffa 399
    1ff3 2 3a9 399 1ff4 2 38f 399 1ff6 2 3a9 342 1ff7 3 3a9 342 399 1ffc 2 3a9 399 fb00 2 46 46
    fb01 2 46 49 fb02 2 46 4c fb03 3 46 46 49 fb04 3 46 46 4c fb05 2 53 54 fb06 2 53 54 fb13 2
    544 546 fb14 2 544 535 fb15 2 544 53b fb16 2 54e 546 fb17 2 544 53d"
  expansionsOf numbers.length numbers

/-- The capital form of a character. -/
def upperChar (c : Char) : Text :=
  if c.toNat < 128 then [if 'a' ≤ c && c ≤ 'z' then Char.ofNat (c.toNat - 32) else c]
  else match upperExpansions.find? (·.1 = c.toNat) with
    | some (_, t) => t
    | none => [(upperRuns.findSome? (·.image? c)).getD c]

/-- The small form of a character, the final sigma apart. -/
def lowerChar (c : Char) : Text :=
  if c.toNat < 128 then [lowerAscii c]
  else if c.toNat = 0x130 then ['i', Char.ofNat 0x307]
  else [(lowerRuns.findSome? (·.image? c)).getD c]

/-! ## The final sigma -/

/-- The letters with case beyond ASCII. -/
def casedRanges : Ranges := .ofTable
  "aa 0 b 0 5 0 6 16 2 1e 2 c2 2 3 5 cf 2 1a c1 3 3 1 4 2 2 0 7 0 2 2 2 0 2 13 2 52 2 8a 9 a5
    2 25 a 28 b18 25 2 0 6 0 3 2a 3 2 2a1 55 3 5 883 8 8 2a 3 2 41 2b 40 c 2 21 66 115 3 5 3 25
    3 5 3 7 2 0 2 0 2 0 2 1e 3 34 2 6 2 0 4 2 2 6 4 3 3 5 5 c 6 2 2 6 106 0 5 0 3 9 2 0 4 4 7 0
    2 0 2 0 2 3 2 5 5 0 3 3 6 4 5 0 12 1f 4 1 332 33 717 7b 3 66 7 3 4 1 d 25 2 0 6 0 7913 2d
    13 1b 87 4d 2 16 4 3 2 3a 6 1 2 0 2 4 1c 1 4 0 336 2a 6 8 8 4f 4f41 6 d 4 40a 19 7 19 4a6
    4f 61 23 5 23 75 a 2 e 2 6 2 1 2 a 2 e 2 6 2 1 6c4 32 e 32 bae 3f 5561 3f 6581 54 2 46 2 1
    3 0 3 1 3 3 2 b 2 0 2 6 2 40 2 3 3 7 2 6 2 1b 2 3 2 4 2 0 4 6 2 153 3 18 2 18 2 1e 2 18 2
    1e 2 18 2 1e 2 18 2 1e 2 18 2 7 735 9 2 13 9e2 43 7ed 19 7 19 7 19"

/-- The characters beyond ASCII that the end of a word looks past. -/
def caseIgnorableRanges : Ranges := .ofTable
  "a8 0 5 0 2 0 5 0 3 1 1f8 bf 5 1 5 0 a 1 2 0 fc 6 d0 0 6 0 32 2c 2 0 2 1 2 1 2 0 2d 0 c 5 b
    a 2 0 24 0 b 14 11 0 66 7 2 9 2 3 22 0 2 0 1f 1a 5c a 3b a 5 0 3 0 19 17 2c 2 2d 0 8 1 7 7
    2a 39 38 0 2 0 5 7 5 0 4 6 b 1 e 0 10 0 3b 0 5 3 9 0 15 1 1b 0 3 1 3a 0 5 1 5 1 3 2 4 0 1f
    1 4 0 c 1 3a 0 5 4 2 1 5 0 15 1 17 5 2 0 3b 0 3 0 2 3 9 0 8 1 c 1 1f 0 3e 0 d 0 33 0 4 0 38
    0 2 2 6 2 2 3 8 1 c 1 1e 0 3b 0 3 0 7 0 6 1 15 1 1d 1 3a 1 5 3 9 0 15 1 1e 0 49 0 8 2 2 0
    5b 0 3 6 c 8 63 0 3 8 a 0 2 5 4b 1 1c 0 2 0 2 0 38 d 2 4 2 1 6 a 2 23 a 0 67 3 2 5 2 1 3 1
    1a 1 5 2 11 3 e 0 3 1 7 0 10 0 5f 0 261 2 3b3 2 1e 1 1f 1 1f 1 41 1 2 6 9 0 3 a 4 0 6 0 2e
    4 34 0 42 1 23 0 77 2 5 1 a 0 7 2 dc 1 3 0 3b 0 2 6 2 0 2 0 3 7 7 9 3 0 28 0 9 1e 32 3 31 0
    2 4 2 0 6 0 29 8 d 1 21 3 3 1 2 2 39 0 2 1 4 0 2 2 3b 7 3 1 41 5 53 2 2 c 2 6 5 0 7 0 4 1
    33 3e e 0 23 64 1be 0 2 2 c 2 e 2 e 2 e 1 d 4 9 1 b 0 3 0 3 4 32 4 2 9 2 0 e 0 11 c 34 20
    b8c 1 72 2 7e 0 10 0 61 1f 30 0 1d6 0 25 3 4 4 6 0 5e 5 5e 2 6f17 0 4e3 5 10f 0 63 3 2 9 2
    0 1d 3 51 1 f 21 4f 0 18 2 68 2 4 1 9 0 4 0 5 0 1a 1 6 0 98 1 1b 11 e 0 27 7 1a a 2f 2 31 0
    3 3 3 1 12 0 16 1 43 5 3 1 3 1 d 0 9 0 24 0 c 0 34 0 2 2 3 1 6 1 2 0 1c 0 f 1 6 1 2 0 65 4
    a 2 7a 0 3 0 5 0 4f31 0 94 10 23e f 4 0 d f 23 0 3 0 aa 0 8 0 7 0 c 0 24 0 2 0 30 0 2e 1 44
    0 16 2 202 0 e3 0 96 4 406 5 2 29 2 8 247 2 2 1 6 3 29 2 5 0 a6 1 23e 3 184 1 9a a 32 3 7c
    0 37 e 2a 0 3 1 b 2 32 3 3 1 3 0 5 0 b 0 33 2 25 4 2 7 3f 0 d 1 35 8 b 3 3 0 60 2 3 0 2 1 7
    0 a1 0 4 7 16 1 3a 1 4 0 26 6 4 4 c4 7 3 2 2 0 18 0 55 5 2 0 5 1 2 1 ef 3 7 1 2 1 1c 1 56 7
    3 0 2 1 6b 0 2 0 3 5 2 0 66 2 3 3 2 4 104 8 2 1 101 1 2 0 5 0 91 3 3 1 5 0 21 9 29 5 3 3 9
    0 a 5 3 2 2f c 2 1 197 6 2 5 2 0 53 15 3 6 2 1 2 1 7b 5 4 0 2 1 2 6 2 0 49 1 4 0 2 0 15c 1
    153c 8 36b8 4 3c 6 a 3 40c 0 40 10 41 1 2 1 400c 3 2 6 2 1 c9f 1 2 3 125d 2d 3 16 221 2 a f
    3 6 1f 3 95 2 7bc 36 5 31 9 0 f 0 17 4 2 e 551 6 2 10 3 6 2 1 2 4 106 d 171 0 3e 3 5e1 6 6e
    7 ab0 4 c0c02 0 1f 5f 81 ef"

/-- A letter with case. -/
def isCased (c : Char) : Bool :=
  if c.toNat < 128 then isLetter c else casedRanges.has c

/-- A character that the end of a word looks past: marks, modifiers and some punctuation. -/
def isCaseIgnorable (c : Char) : Bool :=
  if c.toNat < 128 then c = '\'' || c = '.' || c = ':' || c = '^' || c = grave
  else caseIgnorableRanges.has c

/-- Does a cased letter come first, once the ignorable characters are passed? -/
def meetsCased (t : Text) : Bool :=
  match t.dropWhile isCaseIgnorable with
  | [] => false
  | c :: _ => isCased c

/-- The text in small letters. `before` is what stands before it, last character first. -/
def lowerAfter (before : Text) : Text → Text
  | [] => []
  | c :: rest =>
    (if c.toNat = 0x3A3 then
      [Char.ofNat (if meetsCased before && !meetsCased rest then 0x3C2 else 0x3C3)]
    else lowerChar c) ++ lowerAfter (c :: before) rest

/-- The text in small letters. -/
def lower (t : Text) : Text := lowerAfter [] t

/-- The text in capital letters. -/
def upper (t : Text) : Text := t.flatMap upperChar

end LiveMarkdown.Text
