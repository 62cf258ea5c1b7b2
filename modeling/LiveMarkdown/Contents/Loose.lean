import LiveMarkdown.Contents.Outline
import LiveMarkdown.Text.Quoted

/-!
# Entries from outside

Entries of a table of contents may come from data whose values are of any type. A level is a number,
or a text or truth value that can be taken for one; ids and texts are written out, whatever they
are.
-/

namespace LiveMarkdown.Contents

/-- A value of any type. -/
inductive Loose where
  | null
  | bool (b : Bool)
  | int (n : Int)
  /-- The number `digits` with its last `places` digits behind the point. -/
  | decimal (digits : Int) (places : Nat)
  | text (t : Text)
  | list (items : List Loose)
  | record (fields : List (Text × Loose))
  deriving Inhabited

/-- Why an entry can't be read. -/
inductive LooseError where
  | missing (key : Text)
  /-- A text that is no number. -/
  | noNumber (t : Text)
  /-- A value of a type that numbers are not read from. -/
  | noNumberType (type : Text)
  deriving DecidableEq, Repr

/-- The message of an error. A text that is no number is shown up to 200 characters. -/
def LooseError.message : LooseError → Text
  | .missing key => Text.quoted key
  | .noNumber t => "invalid literal for int() with base 10: " ++ (Text.quoted t).take 200
  | .noNumberType type =>
    "int() argument must be a string, a bytes-like object or a real number, not " ++
      Text.quoted type

/-- The whole number that a value is taken for. What is behind a point is dropped. -/
def Loose.toInt : Loose → Except LooseError Int
  | .null => .error (.noNumberType "NoneType")
  | .bool b => .ok (if b then 1 else 0)
  | .int n => .ok n
  | .decimal digits places => .ok (digits.tdiv (Nat.pow 10 places))
  | .text t => match Text.toInt? t with
    | some n => .ok n
    | none => .error (.noNumber t)
  | .list _ => .error (.noNumberType "list")
  | .record _ => .error (.noNumberType "dict")

/-- A decimal number as it is written: without needless zeros, and with an exponent if it is very
large or very small. -/
def decimalText (digits : Int) (places : Nat) : Text :=
  let sign : Text := if digits < 0 then ['-'] else []
  let ds := Text.ofNat digits.natAbs
  /- The digits that count, and how many of all stand before the point. -/
  let kept := Text.dropEndWhile (· = '0') ds
  let point : Int := ds.length - places
  if digits = 0 then ['0', '.', '0']
  else if point < -3 || 16 < point then
    let exponent := point - 1
    let tail := kept.drop 1
    let size := Text.ofNat exponent.natAbs
    sign ++ kept.take 1 ++ (if tail.isEmpty then [] else '.' :: tail) ++ ['e'] ++
      [if exponent < 0 then '-' else '+'] ++ (if size.length < 2 then '0' :: size else size)
  else if point ≤ 0 then sign ++ ['0', '.'] ++ List.replicate point.natAbs '0' ++ kept
  else
    let whole := kept.take point.toNat
    let tail := kept.drop point.toNat
    sign ++ whole ++ List.replicate (point.toNat - whole.length) '0' ++ ['.'] ++
      (if tail.isEmpty then ['0'] else tail)

mutual

/-- A value within another one. -/
def Loose.written : Loose → Text
  | .null => "None"
  | .bool b => if b then "True" else "False"
  | .int n => Text.ofInt n
  | .decimal digits places => decimalText digits places
  | .text t => Text.quoted t
  | .list items => '[' :: writtenItems items ++ [']']
  | .record fields => '\x7b' :: writtenFields fields ++ ['\x7d']

/-- Values with commas between them. -/
def writtenItems : List Loose → Text
  | [] => []
  | v :: rest => v.written ++ (if rest.isEmpty then [] else [',', ' ']) ++ writtenItems rest

/-- Fields with commas between them. -/
def writtenFields : List (Text × Loose) → Text
  | [] => []
  | (key, v) :: rest =>
    Text.quoted key ++ [':', ' '] ++ v.written ++ (if rest.isEmpty then [] else [',', ' ']) ++
      writtenFields rest

end

/-- A value as a text. -/
def Loose.toText : Loose → Text
  | .text t => t
  | v => v.written

/-- The value of a field. -/
def field (fields : List (Text × Loose)) (key : Text) : Except LooseError Loose :=
  match fields.lookup key with
  | some v => .ok v
  | none => .error (.missing key)

/-- An entry from the fields of a record. Other fields have no meaning. -/
def Entry.ofFields (fields : List (Text × Loose)) : Except LooseError Entry := do
  let level ← (← field fields "level").toInt
  let id ← field fields ['i', 'd']
  let text ← field fields "text"
  .ok { level, id := id.toText, text := text.toText }

/-- The forest of entries that come as records. -/
def looseTree (records : List (List (Text × Loose))) : Except LooseError (List Node) := do
  .ok (tree (← records.mapM Entry.ofFields))

end LiveMarkdown.Contents
