import LiveMarkdown.Text.Basic

/-!
# Hexadecimal

Numbers in hexadecimal, and tables that are written in it.

The properties of characters beyond ASCII are tables. A table is kept as a string of hexadecimal
numbers with white space between neighbours, and read once.

A set of characters is kept as pairs `gap length`: the number of steps from the end of the range
before (from zero at first) to the first character of a range, and from there to its last.
-/

namespace LiveMarkdown.Text

/-- The hexadecimal digit of a value below sixteen. -/
def hexDigit (n : Nat) : Char := Char.ofNat (if n < 10 then 48 + n else 87 + n)

/-- The `count` lowest hexadecimal digits of a number, most significant first. -/
def hexDigits : (count : Nat) → Nat → Text
  | 0, _ => []
  | count + 1, n => hexDigits count (n / 16) ++ [hexDigit (n % 16)]

/-- As many digits are written as are asked for. -/
theorem hexDigits_length (count n : Nat) : (hexDigits count n).length = count := by
  induction count generalizing n with
  | zero => rfl
  | succ count ih => simp [hexDigits, ih]

/-! ## Tables -/

/-- The numbers of a table, in order. -/
def hexNumbers (table : String) : List Nat :=
  let (done, current) := table.toList.foldl step ([], none)
  (match current with
    | none => done
    | some n => n :: done).reverse
where
  /-- A digit extends the number being read; any other character ends it. -/
  step : List Nat × Option Nat → Char → List Nat × Option Nat
    | (done, current), c =>
      if isHexDigit c then (done, some (current.getD 0 * 16 + hexValue c))
      else match current with
        | none => (done, none)
        | some n => (n :: done, none)

/-- The ranges (first, last) that a list of pairs `gap length` denotes, counted from `origin`. -/
def rangesFrom (origin : Nat) : List Nat → List (Nat × Nat)
  | gap :: length :: rest =>
    let first := origin + gap
    (first, first + length) :: rangesFrom (first + length) rest
  | _ => []

/-- A set of characters as the ranges it consists of. -/
abbrev Ranges := List (Nat × Nat)

/-- The set that a table denotes. -/
def Ranges.ofTable (table : String) : Ranges := rangesFrom 0 (hexNumbers table)

/-- Is the character in the set? -/
def Ranges.has (ranges : Ranges) (c : Char) : Bool :=
  ranges.any fun (first, last) => first ≤ c.toNat && c.toNat ≤ last

end LiveMarkdown.Text
