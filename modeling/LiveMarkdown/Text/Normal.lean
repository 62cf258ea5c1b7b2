import LiveMarkdown.Text.NormalTable

/-!
# The compatibility form

`compatible` brings a text into the composed compatibility form: every character is decomposed as
far as it goes, marks are put in the order of their combining classes, and a mark joins the letter
before it where a composed character exists and no mark between the two is in the way. Two texts
that look alike, such as a ligature and its letters, have the same form.
-/

namespace LiveMarkdown.Text

/-! ## Hangul

A syllable stands for two or three letters, by arithmetic. -/

namespace Hangul

def syllableBase : Nat := 0xAC00
def leadBase : Nat := 0x1100
def vowelBase : Nat := 0x1161
def tailBase : Nat := 0x11A7
def leadCount : Nat := 19
def vowelCount : Nat := 21
def tailCount : Nat := 28
def syllableCount : Nat := leadCount * vowelCount * tailCount

/-- The letters of a syllable. -/
def decompose? (c : Char) : Option Text :=
  let n := c.toNat - syllableBase
  if syllableBase ≤ c.toNat && n < syllableCount then
    let lead := leadBase + n / (vowelCount * tailCount)
    let vowel := vowelBase + n % (vowelCount * tailCount) / tailCount
    let tail := n % tailCount
    some ([Char.ofNat lead, Char.ofNat vowel] ++
      (if tail = 0 then [] else [Char.ofNat (tailBase + tail)]))
  else none

/-- The syllable of a lead and a vowel, or of an open syllable and a tail. -/
def compose? (a b : Char) : Option Char :=
  let lead := a.toNat - leadBase
  let vowel := b.toNat - vowelBase
  let n := a.toNat - syllableBase
  let tail := b.toNat - tailBase
  if leadBase ≤ a.toNat && lead < leadCount && vowelBase ≤ b.toNat && vowel < vowelCount then
    some (Char.ofNat (syllableBase + (lead * vowelCount + vowel) * tailCount))
  else if syllableBase ≤ a.toNat && n < syllableCount && n % tailCount = 0 &&
      tailBase < b.toNat && tail < tailCount then
    some (Char.ofNat (a.toNat + tail))
  else none

end Hangul

/-! ## The tables, read -/

/-- The decompositions as pairs, counted from `origin`. -/
def decompositionsFrom (fuel origin : Nat) : List Nat → List (Nat × Text)
  | gap :: count :: rest =>
    match fuel with
    | 0 => []
    | fuel + 1 =>
      (origin + gap, (rest.take count).map Char.ofNat) ::
        decompositionsFrom fuel (origin + gap) (rest.drop count)
  | _ => []

/-- The characters that decompose, each with what it decomposes into. -/
def decompositions : List (Nat × Text) :=
  let numbers := hexNumbers decompositionTable
  decompositionsFrom numbers.length 0 numbers

/-- Ranges (first, last, class), counted from `origin`. -/
def combiningFrom (origin : Nat) : List Nat → List (Nat × Nat × Nat)
  | gap :: length :: cls :: rest =>
    (origin + gap, origin + gap + length, cls) :: combiningFrom (origin + gap + length) rest
  | _ => []

/-- The ranges of characters with a combining class. -/
def combiningRanges : List (Nat × Nat × Nat) := combiningFrom 0 (hexNumbers combiningTable)

/-- The combining class of a character; zero for one that stands by itself. -/
def combiningClass (c : Char) : Nat :=
  if c.toNat < 0x300 then 0
  else match combiningRanges.find? fun (first, last, _) => first ≤ c.toNat && c.toNat ≤ last with
    | some (_, _, cls) => cls
    | none => 0

/-- Triples of a list of numbers. -/
def triples : List Nat → List (Nat × Nat × Nat)
  | a :: b :: c :: rest => (a, b, c) :: triples rest
  | _ => []

/-- The pairs that compose. -/
def compositions : List (Nat × Nat × Nat) := triples (hexNumbers compositionTable)

/-- The character that two characters compose into. -/
def compose? (a b : Char) : Option Char :=
  (Hangul.compose? a b).or <|
    (compositions.find? fun (x, y, _) => x = a.toNat && y = b.toNat).map fun (_, _, z) =>
      Char.ofNat z

/-! ## The form -/

/-- A character decomposed as far as it goes. -/
def decomposeChar (c : Char) : Text :=
  if c.toNat < 0xA0 then [c]
  else match Hangul.decompose? c with
    | some t => t
    | none => match decompositions.find? (·.1 = c.toNat) with
      | some (_, t) => t
      | none => [c]

/-- A character put after a text that is given last character first: a mark moves in front of the
marks before it that have a greater class. -/
def insertMark (c : Char) : Text → Text
  | [] => [c]
  | d :: before =>
    if combiningClass c ≠ 0 && combiningClass c < combiningClass d then d :: insertMark c before
    else c :: d :: before

/-- The text with its marks in the order of their classes. -/
def orderMarks (t : Text) : Text := (t.foldl (fun before c => insertMark c before) []).reverse

/-- What has been composed so far: the finished part, the letter that marks may still join, and the
marks after it that did not join. Texts are kept last character first. -/
structure Composition where
  finished : Text := []
  base : Option Char := none
  marks : Text := []

/-- Everything composed, last character first. -/
def Composition.all (s : Composition) : Text :=
  s.marks ++ s.base.toList ++ s.finished

/-- Is the letter reachable for a character of class `cls`, that is, is no mark of the same or a
greater class in between? -/
def Composition.reaches (s : Composition) (cls : Nat) : Bool :=
  match s.marks with
  | [] => true
  | m :: _ => combiningClass m < cls

/-- One more character. -/
def Composition.push (s : Composition) (c : Char) : Composition :=
  let joined := match s.base with
    | some b => if s.reaches (combiningClass c) then compose? b c else none
    | none => none
  match joined with
  | some b => { s with base := some b }
  | none =>
    if combiningClass c = 0 then { finished := s.all, base := some c }
    else { s with marks := c :: s.marks }

/-- The text with its letters and marks composed. -/
def composeAll (t : Text) : Text := (t.foldl Composition.push {}).all.reverse

/-- The composed compatibility form. A text of ASCII is its own form. -/
def compatible (t : Text) : Text :=
  if t.all (·.toNat < 128) then t else composeAll (orderMarks (t.flatMap decomposeChar))

end LiveMarkdown.Text
