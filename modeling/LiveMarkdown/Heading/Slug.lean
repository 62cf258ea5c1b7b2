import LiveMarkdown.Text.Blank
import LiveMarkdown.Text.Case
import LiveMarkdown.Text.Decimal
import LiveMarkdown.Text.Normal
import LiveMarkdown.Text.Word

/-!
# Slugs

A slug is what a heading is called in an address: its words in small letters with hyphens between
them. In one document no two headings have the same slug. A `Slugger` numbers repeats: the first one
gets the slug of its words, `base`, and each later one the first of `base-1`, `base-2` and so on
that is still free.
-/

namespace LiveMarkdown

namespace Slug

/-- Is a character kept in a slug, or replaced by a hyphen? All others are dropped. -/
def isKept (c : Char) : Bool := Text.isWord c || Text.isBlank c || c = '-'

/-- The text with each run of blanks and hyphens as one hyphen. `inGap` tells whether such a run
comes right before it. -/
def hyphenate : (inGap : Bool) → Text → Text
  | _, [] => []
  | inGap, c :: rest =>
    if Text.isBlank c || c = '-' then
      if inGap then hyphenate true rest else '-' :: hyphenate true rest
    else c :: hyphenate false rest

/-- A character that no slug begins or ends with. -/
def isEdge (c : Char) : Bool := c = '-' || c = '_'

/-- The words of a text in small letters with hyphens between them; empty if the text has none. -/
def words (t : Text) : Text :=
  let kept := (Text.lower (Text.compatible t)).filter isKept
  Text.dropEndWhile isEdge ((hyphenate false kept).dropWhile isEdge)

/-- The slug of a text as long as it is not taken. -/
def ofText (t : Text) : Text :=
  let t := words t
  if t.isEmpty then "section" else t

/-- The `k`-th slug after `base`. -/
def numbered (base : Text) (k : Nat) : Text := base ++ '-' :: Text.ofNat k

end Slug

/-- The slugs that have been issued, each with the last number that has been tried for it. -/
structure Slugger where
  counts : List (Text × Nat) := []
  deriving DecidableEq, Repr

namespace Slugger

/-- The last number that has been tried for a slug, if the slug has been issued. -/
def count? (s : Slugger) (slug : Text) : Option Nat := s.counts.lookup slug

/-- Has the slug been issued? -/
def isTaken (s : Slugger) (slug : Text) : Bool := (s.count? slug).isSome

/-- The counts with the one of `slug` set. -/
def setCount (slug : Text) (k : Nat) : List (Text × Nat) → List (Text × Nat)
  | [] => [(slug, k)]
  | (s, n) :: rest => if s = slug then (s, k) :: rest else (s, n) :: setCount slug k rest

/-- The first number above `k` whose slug is free, if it is among the next `fuel` ones. -/
def freeAfter (s : Slugger) (base : Text) : (fuel : Nat) → (k : Nat) → Nat
  | 0, k => k + 1
  | fuel + 1, k =>
    if s.isTaken (Slug.numbered base (k + 1)) then s.freeAfter base fuel (k + 1) else k + 1

/-- Issues a slug that begins with `base`. Of as many different slugs as have been issued, and one
more, one is free. -/
def issueBase (s : Slugger) (base : Text) : Text × Slugger :=
  match s.count? base with
  | none => (base, ⟨setCount base 0 s.counts⟩)
  | some k =>
    let k := s.freeAfter base s.counts.length k
    let slug := Slug.numbered base k
    (slug, ⟨setCount slug 0 (setCount base k s.counts)⟩)

/-- Issues the slug of a text. -/
def issue (s : Slugger) (t : Text) : Text × Slugger := s.issueBase (Slug.ofText t)

/-- Forgets all slugs. -/
def reset (_ : Slugger) : Slugger := {}

/-- The slugs issued for texts, in order. -/
def issueAll (s : Slugger) : List Text → List Text
  | [] => []
  | t :: rest =>
    let (slug, s) := s.issue t
    slug :: s.issueAll rest

end Slugger
end LiveMarkdown
