import LiveMarkdown.Text.Basic

/-!
# UTF-8

Texts as bytes. Writing never fails. Reading takes only the shortest form of a character and no
surrogate; where it stops it says which bytes it could not read and why.
-/

namespace LiveMarkdown.Text

/-- A byte that goes on with a character: its six bits are the lowest of the number. -/
def utf8More (n : Nat) : UInt8 := UInt8.ofNat (0x80 + n % 64)

/-- The bytes of a character. -/
def utf8Char (c : Char) : List UInt8 :=
  let n := c.toNat
  if n < 0x80 then [UInt8.ofNat n]
  else if n < 0x800 then [UInt8.ofNat (0xC0 + n / 64), utf8More n]
  else if n < 0x10000 then [UInt8.ofNat (0xE0 + n / 4096), utf8More (n / 64), utf8More n]
  else [UInt8.ofNat (0xF0 + n / 262144), utf8More (n / 4096), utf8More (n / 64), utf8More n]

/-- The bytes of a text. -/
def utf8 (t : Text) : List UInt8 := t.flatMap utf8Char

/-- Why bytes are no text. -/
inductive Utf8Fault where
  /-- No character begins with this byte. -/
  | start
  /-- The next byte does not go on with the character begun. -/
  | continuation
  /-- The bytes end within a character. -/
  | ended
  deriving DecidableEq, Repr

/-- The bytes at positions `first` to `last` could not be read; `byte` is the first of them. -/
structure Utf8Error where
  byte : UInt8
  first : Nat
  last : Nat
  fault : Utf8Fault
  deriving DecidableEq, Repr

/-- What the first byte of a character says: how many bytes follow, the bits it carries, and the
bounds of the second byte, which are narrower where a shorter form or a surrogate would arise. -/
def utf8Lead? (byte : UInt8) : Option (Nat × Nat × Nat × Nat) :=
  let b := byte.toNat
  if b < 0x80 then some (0, b, 0x80, 0xBF)
  else if b < 0xC2 then none
  else if b < 0xE0 then some (1, b - 0xC0, 0x80, 0xBF)
  else if b < 0xF0 then
    some (2, b - 0xE0, if b = 0xE0 then 0xA0 else 0x80, if b = 0xED then 0x9F else 0xBF)
  else if b < 0xF5 then
    some (3, b - 0xF0, if b = 0xF0 then 0x90 else 0x80, if b = 0xF4 then 0x8F else 0xBF)
  else none

/-- Reads `need` more bytes into `value`, the next one within the bounds: the value and the rest, or
how many bytes were taken before the one that does not fit and whether there was one at all. -/
def utf8Tail (value taken : Nat) : (need low high : Nat) → List UInt8 →
    Except (Nat × Utf8Fault) (Nat × List UInt8)
  | 0, _, _, bytes => .ok (value, bytes)
  | _ + 1, _, _, [] => .error (taken, .ended)
  | need + 1, low, high, b :: rest =>
    if low ≤ b.toNat && b.toNat ≤ high then
      utf8Tail (value * 64 + b.toNat % 64) (taken + 1) need 0x80 0xBF rest
    else .error (taken, .continuation)

/-- Reads characters from the bytes that stand at position `offset`, at most `fuel` of them. -/
def ofUtf8From (fuel offset : Nat) (bytes : List UInt8) : Except Utf8Error Text :=
  match fuel, bytes with
  | _, [] => .ok []
  | 0, _ => .ok []
  | fuel + 1, b :: rest =>
    match utf8Lead? b with
    | none => .error ⟨b, offset, offset, .start⟩
    | some (need, value, low, high) =>
      match utf8Tail value 0 need low high rest with
      | .error (taken, fault) => .error ⟨b, offset, offset + taken, fault⟩
      | .ok (value, rest) => (ofUtf8From fuel (offset + need + 1) rest).map (Char.ofNat value :: ·)

/-- The text that the bytes spell. -/
def ofUtf8 (bytes : List UInt8) : Except Utf8Error Text := ofUtf8From bytes.length 0 bytes

end LiveMarkdown.Text
