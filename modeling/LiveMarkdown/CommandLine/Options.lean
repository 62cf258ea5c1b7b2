import LiveMarkdown.Text.Basic

/-!
# Words of a command line

The words after a command's name are positional arguments and options. An option may be shortened as
long as it is clear which one is meant, its value may be a part of the same word, and options of one
letter may share a word. After the word `--` everything is a positional argument.
-/

namespace LiveMarkdown.CommandLine

/-- An option with its names. -/
structure Flag (α : Type) where
  meaning : α
  names : List Text
  takesValue : Bool := false

/-- The value that a word has for its option. -/
inductive Attached where
  /-- After an equals sign. -/
  | afterEquals (t : Text)
  /-- Right after the letter of the option. -/
  | afterLetter (t : Text)
  deriving DecidableEq, Repr

/-- What a word is. -/
inductive Word (α : Type) where
  | positional (t : Text)
  /-- The word after which there are no options. -/
  | separator
  | option (o : Flag α) (attached : Option Attached)
  | unknown

/-- Is the word a negative number? -/
def isNegativeNumber (t : Text) : Bool :=
  match t with
  | '-' :: rest =>
    let whole := rest.takeWhile Text.isDigit
    match rest.drop whole.length with
    | [] => !whole.isEmpty
    | '.' :: digits => !digits.isEmpty && digits.all Text.isDigit
    | _ => false
  | _ => false

/-- The part of a word before its first equals sign, and the one after it. -/
def cutAtEquals (t : Text) : Text × Option Text :=
  let head := t.takeWhile (· ≠ '=')
  (head, if head.length < t.length then some (t.drop (head.length + 1)) else none)

/-- The options that a shortened or joined word may mean. -/
def candidates {α : Type} (options : List (Flag α)) (t : Text) :
    List (Flag α × Option Attached) :=
  options.flatMap fun o => o.names.filterMap fun name =>
    if Text.startsWith t ['-', '-'] then
      let (head, value) := cutAtEquals t
      if head.isPrefixOf name then some (o, value.map .afterEquals) else none
    else if name = t.take 2 then some (o, some (.afterLetter (t.drop 2)))
    else if t.isPrefixOf name then some (o, none)
    else none

/-- What a word is, before the separator; none if more than one option may be meant. -/
def Word.of? {α : Type} (options : List (Flag α)) (t : Text) : Option (Word α) :=
  let named (name : Text) : Option (Flag α) := options.find? (·.names.contains name)
  let (head, value) := cutAtEquals t
  if t.head? ≠ some '-' then some (.positional t)
  else match named t with
    | some o => some (.option o none)
    | none =>
      if t.length = 1 then some (.positional t)
      else match value, named head with
        | some value, some o => some (.option o (some (.afterEquals value)))
        | _, _ => match candidates options t with
          | [(o, attached)] => some (.option o attached)
          | [] =>
            if isNegativeNumber t || t.contains ' ' then some (.positional t) else some .unknown
          | _ => none

/-- What the words are; none if for one of them more than one option may be meant. -/
def words? {α : Type} (options : List (Flag α)) : List Text → Option (List (Word α))
  | [] => some []
  | t :: rest =>
    if t = ['-', '-'] then some (.separator :: rest.map .positional)
    else do
      let w ← Word.of? options t
      let rest ← words? options rest
      some (w :: rest)

/-- The options without values that share a word: `o` and those whose letters follow. Also tells
whether all letters are known. None if the word can't be read in this way. -/
def joined? {α : Type} (options : List (Flag α)) (o : Flag α) :
    Text → Option (List α × Bool)
  | [] => some ([o.meaning], true)
  | c :: rest =>
    if c = '-' then none
    else match options.find? (·.names.contains ['-', c]) with
      | none => some ([o.meaning], false)
      | some next =>
        if next.takesValue then none
        else (joined? options next rest).map fun (more, known) => (o.meaning :: more, known)

/-- What a command line says. -/
structure Parsed (α : Type) where
  positionals : List Text := []
  /-- The options in order, with the values of those that take one. -/
  options : List (α × Option Text) := []
  /-- There are words that belong to nothing. -/
  excess : Bool := false

/-- Reads words for a command with so many positional arguments; none if an option lacks its value
or has one that it does not take. `afterPositional` tells whether a positional argument comes right
before the words. -/
def readWords {α : Type} (options : List (Flag α)) (places : Nat) :
    (afterPositional : Bool) → Parsed α → List (Word α) → Option (Parsed α)
  | _, p, [] => some p
  | afterPositional, p, w :: rest =>
    let isFull := places ≤ p.positionals.length
    match w with
    | .positional t =>
      if isFull then readWords options places false { p with excess := true } rest
      else readWords options places true { p with positionals := p.positionals ++ [t] } rest
    | .separator =>
      let belongs := afterPositional || (!isFull && !rest.isEmpty)
      readWords options places false { p with excess := p.excess || !belongs } rest
    | .unknown => readWords options places false { p with excess := true } rest
    | .option o attached =>
      let found (more : List (α × Option Text)) (known : Bool) : Parsed α :=
        { p with options := p.options ++ more, excess := p.excess || !known }
      if o.takesValue then
        match attached, rest with
        | some (.afterEquals t), rest =>
          readWords options places false (found [(o.meaning, some t)] true) rest
        | some (.afterLetter t), rest =>
          readWords options places false (found [(o.meaning, some t)] true) rest
        | none, .positional t :: rest =>
          readWords options places false (found [(o.meaning, some t)] true) rest
        | none, _ => none
      else match attached with
        | none => readWords options places false (found [(o.meaning, none)] true) rest
        | some (.afterEquals _) => none
        | some (.afterLetter letters) => match joined? options o letters with
          | some (more, known) =>
            readWords options places false (found (more.map fun m => (m, none)) known) rest
          | none => none

end LiveMarkdown.CommandLine
