import LiveMarkdown.Text.Blank
import LiveMarkdown.Text.Hex

/-!
# Decimal numbers

Whole numbers in decimal: the shortest writing, which has no leading zero and a minus sign for a
negative number, and a more generous reading, which takes surrounding blanks, either sign, leading
zeros, digits of any script and single underscores between digits. The digits that are written have
the value of the number (`value_ofNat`).
-/

namespace LiveMarkdown.Text

/-- The digit of a value below ten. -/
def decimalDigit (n : Nat) : Char := Char.ofNat (48 + n)

/-- The value of a decimal digit. -/
def decimalValue (c : Char) : Nat := c.toNat - 48

/-- The digits of a number, if it has at most `fuel` of them. -/
def digitsUpTo : (fuel : Nat) → Nat → Text
  | 0, _ => []
  | fuel + 1, n =>
    if n < 10 then [decimalDigit n] else digitsUpTo fuel (n / 10) ++ [decimalDigit (n % 10)]

/-- A natural number in decimal. -/
def ofNat (n : Nat) : Text := digitsUpTo (n + 1) n

/-- A whole number in decimal. -/
def ofInt : Int → Text
  | .ofNat n => ofNat n
  | .negSucc n => '-' :: ofNat (n + 1)

/-- The number that a text of digits denotes. -/
def valueOfDigits (t : Text) : Nat := t.foldl (fun n c => 10 * n + decimalValue c) 0

/-- A digit has the value it is written for. -/
theorem decimalValue_decimalDigit {n : Nat} (h : n < 10) : decimalValue (decimalDigit n) = n := by
  have : ∀ m : Fin 10, decimalValue (decimalDigit m.val) = m.val := by decide
  exact this ⟨n, h⟩

/-- The digits of a number have its value. -/
theorem value_digitsUpTo (fuel n : Nat) (h : n < fuel) : valueOfDigits (digitsUpTo fuel n) = n := by
  induction fuel generalizing n with
  | zero => omega
  | succ fuel ih =>
    simp only [digitsUpTo]
    split
    · next h => simp [valueOfDigits, decimalValue_decimalDigit h]
    · next hn =>
      have hrec := ih (n / 10) (by omega)
      simp only [valueOfDigits, List.foldl_append, List.foldl_cons, List.foldl_nil] at hrec ⊢
      rw [hrec, decimalValue_decimalDigit (by omega)]
      omega

/-- What is written is read back. -/
theorem value_ofNat (n : Nat) : valueOfDigits (ofNat n) = n := value_digitsUpTo (n + 1) n (by omega)

/-- Different numbers have different digits. -/
theorem ofNat_injective {m n : Nat} (h : ofNat m = ofNat n) : m = n := by
  rw [← value_ofNat m, h, value_ofNat]

/-! ## Reading -/

/-- The zeros of the scripts that have digits of their own. The other digits follow them in
order. -/
def zeros : List Nat := hexNumbers
  "30 660 6f0 7c0 966 9e6 a66 ae6 b66 be6 c66 ce6 d66 de6 e50 ed0 f20 1040 1090 17e0 1810 1946
    19d0 1a80 1a90 1b50 1bb0 1c40 1c50 a620 a8d0 a900 a9d0 a9f0 aa50 abf0 ff10 104a0 10d30 11066
    110f0 11136 111d0 112f0 11450 114d0 11650 116c0 11730 118e0 11950 11c50 11d50 11da0 16a60
    16ac0 16b50 1d7ce 1d7d8 1d7e2 1d7ec 1d7f6 1e140 1e2f0 1e950 1fbf0"

/-- The value of a digit of any script. -/
def digitValue? (c : Char) : Option Nat :=
  (zeros.find? fun first => first ≤ c.toNat && c.toNat < first + 10).map (c.toNat - ·)

/-- A digit of any script. -/
def isAnyDigit (c : Char) : Bool := (digitValue? c).isSome

/-- The values of the digits of a text in which single underscores may stand between digits. `after`
tells whether a digit has just been read. -/
def digitsOf? : (after : Bool) → Text → Option (List Nat)
  | after, [] => if after then some [] else none
  | after, c :: rest =>
    match digitValue? c with
    | some value => (digitsOf? true rest).map (value :: ·)
    | none => if c = '_' && after then digitsOf? false rest else none

/-- The natural number that a text of digits and underscores denotes. -/
def toNat? (t : Text) : Option Nat :=
  (digitsOf? false t).map fun values => values.foldl (fun n value => 10 * n + value) 0

/-- The whole number that a text denotes. -/
def toInt? (t : Text) : Option Int :=
  match trim t with
  | '-' :: rest => (toNat? rest).map fun n => -(n : Int)
  | '+' :: rest => (toNat? rest).map Int.ofNat
  | rest => (toNat? rest).map Int.ofNat

end LiveMarkdown.Text
