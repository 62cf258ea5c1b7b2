import LiveMarkdown.Text.Case

/-!
# Punycode

A label of a host name in another script, written in ASCII: first its ASCII characters, then, after
a hyphen, where to insert the others. Each insertion is a distance in a walk through all places of
all characters, as a number of variable length whose digit bounds follow a bias that adapts.
-/

namespace LiveMarkdown.Punycode

/-- The digit of a value below 36. -/
def digit (n : Nat) : Char := Char.ofNat (if n < 26 then 97 + n else 22 + n)

/-- The value of a digit; letters count in either case. -/
def digitValue? (c : Char) : Option Nat :=
  if 'a' ≤ c && c ≤ 'z' then some (c.toNat - 97)
  else if 'A' ≤ c && c ≤ 'Z' then some (c.toNat - 65)
  else if '0' ≤ c && c ≤ '9' then some (c.toNat - 22)
  else none

/-- The bound of the digit at `place`, where places count in steps of 36 from 36. -/
def threshold (bias place : Nat) : Nat :=
  if place ≤ bias then 1 else if bias + 26 ≤ place then 26 else place - bias

/-- Divides by 35 until the distance is small; each division moves the bias by 36. -/
def settle : (fuel distance bias : Nat) → Nat
  | 0, _, bias => bias
  | fuel + 1, distance, bias =>
    if 455 < distance then settle fuel (distance / 35) (bias + 36)
    else bias + 36 * distance / (distance + 38)

/-- The bias after an insertion at `distance` that makes the text `length` characters long. -/
def adapt (distance length : Nat) (first : Bool) : Nat :=
  let halved := distance / (if first then 700 else 2)
  let scaled := halved + halved / length
  settle (scaled + 1) scaled 0

/-! ## Writing -/

/-- A distance as digits, least significant first, from `place` on. -/
def distanceDigits : (fuel bias place distance : Nat) → Text
  | 0, _, _, _ => []
  | fuel + 1, bias, place, distance =>
    let t := threshold bias place
    if distance < t then [digit distance]
    else digit (t + (distance - t) % (36 - t)) ::
      distanceDigits fuel bias (place + 36) ((distance - t) / (36 - t))

/-- A walk through the places of a text: the digits written, the distance since the last insertion,
the bias, and how many characters are in place. -/
structure Walk where
  digits : Text
  distance : Nat
  bias : Nat
  placed : Nat
  first : Bool

/-- Passes the character `c` of the label while characters of value `target` are inserted. -/
def Walk.pass (target : Nat) (w : Walk) (c : Char) : Walk :=
  if c.toNat < target then { w with distance := w.distance + 1 }
  else if c.toNat = target then
    { digits := w.digits ++ distanceDigits (w.distance + 1) w.bias 36 w.distance
      distance := 0
      bias := adapt w.distance (w.placed + 1) w.first
      placed := w.placed + 1
      first := false }
  else w

/-- A number put into an ascending list, once. -/
def insertOnce (n : Nat) : List Nat → List Nat
  | [] => [n]
  | m :: more =>
    if n < m then n :: m :: more else if n = m then m :: more else m :: insertOnce n more

/-- Inserts the characters of the values `targets`, given in ascending order, when all values below
`reached` have been dealt with. -/
def Walk.run (label : Text) : (reached : Nat) → (targets : List Nat) → Walk → Walk
  | _, [], w => w
  | reached, target :: more, w =>
    let w := { w with distance := w.distance + (target - reached) * (w.placed + 1) }
    let w := label.foldl (Walk.pass target) w
    Walk.run label (target + 1) more { w with distance := w.distance + 1 }

/-- A label in ASCII. -/
def encode (label : Text) : Text :=
  let plain := label.filter (·.toNat < 128)
  let targets := ((label.filter (128 ≤ ·.toNat)).map Char.toNat).foldr insertOnce []
  let w := Walk.run label 128 targets ⟨[], 0, 72, plain.length, true⟩
  (if plain.isEmpty then [] else plain ++ ['-']) ++ w.digits

/-! ## Reading -/

/-- Reads a distance: its value and the digits after it. -/
def readDistance (bias : Nat) : (place weight value : Nat) → Text → Option (Nat × Text)
  | _, _, _, [] => none
  | place, weight, value, c :: rest =>
    match digitValue? c with
    | none => none
    | some d =>
      let t := threshold bias place
      if d < t then some (value + d * weight, rest)
      else readDistance bias (place + 36) (weight * (36 - t)) (value + d * weight) rest

/-- Inserts characters into `label` as the digits say, at most `fuel` of them. `value` and `index`
are those of the last insertion. -/
def insertAll : (fuel : Nat) → (label : Text) → (value index bias : Nat) → (first : Bool) → Text →
    Option Text
  | _, label, _, _, _, _, [] => some label
  | 0, _, _, _, _, _, _ => none
  | fuel + 1, label, value, index, bias, first, digits =>
    match readDistance bias 36 1 0 digits with
    | none => none
    | some (distance, rest) =>
      let walked := index + distance
      let places := label.length + 1
      let value := value + walked / places
      let index := walked % places
      if 0x10FFFF < value || (0xD800 ≤ value && value ≤ 0xDFFF) then none
      else
        let label := label.take index ++ Char.ofNat value :: label.drop index
        insertAll fuel label value (index + 1)
        (adapt distance places first) false rest

/-- The label that a text in ASCII stands for. -/
def decode (t : Text) : Option Text :=
  if t.any (128 ≤ ·.toNat) then none
  else
    let digits := (t.reverse.takeWhile (· ≠ '-')).reverse
    let plain := (t.reverse.dropWhile (· ≠ '-')).drop 1 |>.reverse
    insertAll (digits.length + 1) plain 128 0 72 true digits

/-! ## Host names -/

/-- A character that divides the labels of a host name. -/
def isLabelSeparator (c : Char) : Bool :=
  c = '.' || c.toNat = 0x3002 || c.toNat = 0xFF0E || c.toNat = 0xFF61

/-- The labels of a host name. -/
def labels : Text → List Text
  | [] => [[]]
  | c :: rest =>
    if isLabelSeparator c then [] :: labels rest
    else match labels rest with
      | [] => [[c]]
      | first :: more => (c :: first) :: more

/-- Recodes each label of a host name; of a mail address the part before the first `@` stays as it
is, and a further `@` ends the address. `none` if a label cannot be recoded. -/
def mapHost (f : Text → Option Text) (host : Text) : Option Text :=
  match Text.splitAtChar '@' host with
  | [] => none
  | [domain] => mapLabels domain
  | user :: domain :: _ => (mapLabels domain).map fun d => user ++ '@' :: d
where
  /-- Recodes the labels and joins them with points. -/
  mapLabels (domain : Text) : Option Text :=
    ((labels domain).mapM f).map (Text.join ['.'])

/-- A host name with every label in ASCII. -/
def hostToAscii (host : Text) : Option Text :=
  mapHost (fun label =>
    some (if label.any (127 ≤ ·.toNat) then ['x', 'n', '-', '-'] ++ encode label else label)) host

/-- A host name with every label in its own script. -/
def hostToUnicode (host : Text) : Option Text :=
  mapHost (fun label => match label with
    | 'x' :: 'n' :: '-' :: '-' :: rest => decode (Text.lower rest)
    | _ => some label) host

end LiveMarkdown.Punycode
