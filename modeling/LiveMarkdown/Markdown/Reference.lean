import LiveMarkdown.Markdown.Destination
import LiveMarkdown.Markdown.Scope
import LiveMarkdown.Text.Case
import LiveMarkdown.Url.Link

/-!
# Link reference definitions

`[label]: destination "title"` defines what a label stands for. A definition shows nothing. It may
run over several lines, as a paragraph may; a title that turns out to be none is given back, so that
the destination alone makes the definition.
-/

namespace LiveMarkdown.Markdown

/-- What a label stands for. -/
structure Reference where
  destination : Text
  title : Text
  deriving DecidableEq, Repr

/-- The labels that have been defined, in order. -/
abbrev References := List (Text × Reference)

/-- Runs of white space as single spaces. -/
def collapseWhite (t : Text) : Text :=
  t.foldr (fun c rest =>
    if Text.isWhite c then (if rest.head? = some ' ' then rest else ' ' :: rest) else c :: rest) []

/-- A label as it is compared: without regard to case, and to how white space is written. -/
def normalLabel (label : Text) : Text :=
  Text.upper (Text.lower (collapseWhite (Text.trimWhite label)))

/-- What a label stands for, given in its compared form. -/
def References.find? (refs : References) (label : Text) : Option Reference :=
  (List.find? (·.1 == label) refs).map (·.2)

/-- The references with one more; the first definition of a label counts. -/
def References.define (refs : References) (label : Text) (r : Reference) : References :=
  if (refs.find? label).isSome then refs else refs ++ [(label, r)]

/-- Text of a definition, read as far as it is needed: what has been read and not used, and the line
that comes next. -/
structure Unread where
  text : Text
  next : Nat

/-- The content of the line that comes next, with its newline, if the definition can go on there. -/
def Scope.continuation? (s : Scope) (i : Nat) : Option Text :=
  let l := s.line i
  if s.limit ≤ i || l.isEmpty then none
  else if !s.isCode i && 0 ≤ l.indent && s.interrupts .reference i s.limit then none
  else some (l.body ++ (if l.terminated then ['\n'] else []))

/-- Reads one more line, if there is one. -/
def Unread.more (s : Scope) (u : Unread) : Unread :=
  match s.continuation? u.next with
  | some t => ⟨u.text ++ t, u.next + 1⟩
  | none => u

/-- Passes white space, and with it newlines as long as lines follow; at most `fuel` characters. -/
def Unread.skipSpace (s : Scope) : (fuel : Nat) → Unread → Unread
  | 0, u => u
  | fuel + 1, u =>
    match u.text with
    | [] => u
    | c :: rest =>
      if c = '\n' then
        let u := u.more s
        skipSpace s fuel { u with text := u.text.drop 1 }
      else if isSpace c then skipSpace s fuel { u with text := rest }
      else u

/-- The label, after its opening bracket, and what follows its closing one; `taken` is what has been
read of it, last character first. -/
def Unread.label? (s : Scope) : (fuel : Nat) → (taken : Text) → Unread → Option (Text × Unread)
  | 0, _, _ => none
  | fuel + 1, taken, u =>
    match u.text with
    | [] => none
    | '[' :: _ => none
    | ']' :: rest => some (taken.reverse, { u with text := rest })
    | '\n' :: _ =>
      let u := u.more s
      label? s fuel ('\n' :: taken) { u with text := u.text.drop 1 }
    | '\\' :: '\n' :: _ =>
      let u := u.more s
      label? s fuel ('\n' :: '\\' :: taken) { u with text := u.text.drop 2 }
    | '\\' :: c :: rest => label? s fuel (c :: '\\' :: taken) { u with text := rest }
    | c :: rest => label? s fuel (c :: taken) { u with text := rest }

/-- Goes on reading an unfinished title while lines follow. -/
def Unread.finishTitle (s : Scope) : (fuel : Nat) → Title → (next : Nat) → Option (Text × Unread)
  | _, .closed title rest, next => some (title, ⟨rest, next⟩)
  | _, .none, _ => none
  | 0, .unfinished .., _ => none
  | fuel + 1, .unfinished before mark, next =>
    match s.continuation? next with
    | none => none
    | some t => finishTitle s fuel (.resume before mark t) (next + 1)

/-- Does the rest of the line hold nothing but white space? -/
def Unread.endsLine (u : Unread) : Bool :=
  match u.text.dropWhile isSpace with
  | [] => true
  | c :: _ => c = '\n'

/-- The definition that line `i` begins: its label as compared, what it stands for, and the line
after it. -/
def Scope.reference? (s : Scope) (i : Nat) : Option (Text × Reference × Nat) :=
  let l := s.line i
  let fuel := (s.range i s.limit).foldl (fun n l => n + l.chars.length + 1) 1
  if s.isCode i then none
  else match l.body with
    | '[' :: rest => do
      let start : Unread := ⟨rest ++ (if l.terminated then ['\n'] else []), i + 1⟩
      let (label, u) ← start.label? s fuel []
      let u ← match u.text with
        | ':' :: rest => some (Unread.skipSpace s fuel { u with text := rest })
        | _ => none
      let (destination, rest) ← destination? u.text
      let url := Url.normalize destination
      if !Url.isAllowed url then none
      else do
        let plain : Unread := { u with text := rest }
        let spaced := plain.skipSpace s fuel
        let isApart := !(spaced.text.length = plain.text.length && spaced.next = plain.next)
        let titled : Option (Text × Unread) := match title spaced.text with
          | .closed t rest => if isApart then some (t, ⟨rest, spaced.next⟩) else none
          | unclosed => Unread.finishTitle s fuel unclosed spaced.next
        let (title, past) ← match titled with
          | some (t, u) =>
            if u.endsLine then some (t, u.next)
            else if !t.isEmpty && plain.endsLine then some ([], plain.next)
            else none
          | none => if plain.endsLine then some ([], plain.next) else none
        let name := normalLabel label
        if name.isEmpty then none else some (name, ⟨url, title⟩, past)
    | _ => none

end LiveMarkdown.Markdown
