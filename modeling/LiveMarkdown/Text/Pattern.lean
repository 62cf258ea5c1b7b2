import LiveMarkdown.Text.Blank
import LiveMarkdown.Text.Word

/-!
# Patterns

Some grammars are given by patterns with ordered choice: of two alternatives the first that leads
to a match wins, and a repetition takes as many turns as it can and then fewer. `Pattern.follow`
follows a pattern with that preference. It is a recursion on the pattern, and what is still to be
matched afterwards is handed to it as a function, so that going back to a later choice is nothing
but trying the next branch.

A repetition is bounded by the number of characters that are left, which no turn that consumes
something can exceed.
-/

namespace LiveMarkdown

/-- A place in a text: the character before it, if there is one, and the text after it. -/
structure Place where
  before : Option Char
  rest : Text

/-- The place one character on. -/
def Place.next? (s : Place) : Option (Char × Place) :=
  match s.rest with
  | [] => none
  | c :: rest => some (c, ⟨some c, rest⟩)

/-- The beginning of a text. -/
def Place.start (t : Text) : Place := ⟨none, t⟩

/-- The place `n` characters on. -/
def Place.advance (s : Place) : Nat → Place
  | 0 => s
  | n + 1 => match s.next? with
    | none => s
    | some (_, s) => s.advance n

/-- The text from one place up to a later one. -/
def Place.upTo (s e : Place) : Text := s.rest.take (s.rest.length - e.rest.length)

/-- What a text may look like from a place on. -/
inductive Pattern where
  /-- Nothing. -/
  | empty
  /-- One character that satisfies the test. -/
  | one (test : Char → Bool)
  /-- The longest run of characters that satisfy `part`, if it is not empty and is accepted. -/
  | run (part : Char → Bool) (accept : Text → Bool)
  /-- One pattern after the other. -/
  | seq (first second : Pattern)
  /-- The first pattern or else the second. -/
  | alt (first second : Pattern)
  /-- At most `bound` turns, as many as possible; any number of turns without a bound. -/
  | many (bound : Option Nat) (turn : Pattern)
  /-- Any number of turns, as few as possible. -/
  | few (turn : Pattern)
  /-- The pattern follows, but is not consumed. -/
  | ahead (p : Pattern)
  /-- The pattern does not follow. -/
  | notAhead (p : Pattern)
  /-- What comes before satisfies the test: a character, or nothing at the beginning of the text. -/
  | preceded (test : Option Char → Bool)
  /-- The text begins here. -/
  | atStart
  /-- The text ends here. -/
  | atEnd
  /-- A word begins or ends here. -/
  | boundary

namespace Pattern

instance : Append Pattern := ⟨seq⟩
instance : OrElse Pattern := ⟨fun p q => alt p (q ())⟩

/-- What comes after a match: an answer for the place that was reached. -/
abbrev Next (α : Type) := Place → Option α

/-- The first answer, or else the second. -/
@[inline] def orElse {α : Type} (first : Option α) (second : Unit → Option α) : Option α :=
  match first with
  | some a => some a
  | none => second ()

/-- At most `fuel` turns, as many as possible, then `next`. -/
def runMany {α : Type} (turn : Place → Next α → Option α) : (fuel : Nat) → Place → Next α → Option α
  | 0, s, next => next s
  | fuel + 1, s, next => orElse (turn s fun s => runMany turn fuel s next) fun _ => next s

/-- At most `fuel` turns, as few as possible, then `next`. -/
def runFew {α : Type} (turn : Place → Next α → Option α) : (fuel : Nat) → Place → Next α → Option α
  | 0, s, next => next s
  | fuel + 1, s, next => orElse (next s) fun _ => turn s fun s => runFew turn fuel s next

/-- Does a word begin or end at the place? -/
def isBoundary (s : Place) : Bool :=
  s.before.any Text.isWord != s.rest.head?.any Text.isWord

/-- The answer that `next` gives at the first place, in the order of preference, that the pattern
leads to and that `next` accepts. -/
def follow : Pattern → {α : Type} → Place → (Place → Option α) → Option α
  | empty, _, s, next => next s
  | one test, _, s, next => match s.rest with
    | [] => none
    | c :: rest => if test c then next ⟨some c, rest⟩ else none
  | run part accept, _, s, next =>
    let taken := s.rest.takeWhile part
    match taken.getLast? with
    | none => none
    | some last => if accept taken then next ⟨some last, s.rest.drop taken.length⟩ else none
  | seq p q, _, s, next => follow p s fun s => follow q s next
  | alt p q, _, s, next => orElse (follow p s next) fun _ => follow q s next
  | many bound p, _, s, next =>
    let turns := match bound with
      | none => s.rest.length
      | some n => min n s.rest.length
    runMany (fun s next => follow p s next) turns s next
  | few p, _, s, next => runFew (fun s next => follow p s next) s.rest.length s next
  | ahead p, _, s, next => if (follow p s fun _ => some ()).isSome then next s else none
  | notAhead p, _, s, next => if (follow p s fun _ => some ()).isSome then none else next s
  | preceded test, _, s, next => if test s.before then next s else none
  | atStart, _, s, next => if s.before.isNone then next s else none
  | atEnd, _, s, next => if s.rest.isEmpty then next s else none
  | boundary, _, s, next => if isBoundary s then next s else none

/-! ## Writing patterns -/

/-- The pattern, or nothing if it does not follow. -/
def optional (p : Pattern) : Pattern := many (some 1) p

/-- Any number of turns, at least one. -/
def several (p : Pattern) : Pattern := p ++ many none p

/-- One character of the text `cs`. -/
def oneOf (cs : Text) : Pattern := one cs.contains

/-- One character that is not of the text `cs`. -/
def noneOf (cs : Text) : Pattern := one fun c => !cs.contains c

/-- Any character but a newline. -/
def visible : Pattern := one (· ≠ '\n')

/-- Just this character. -/
def char (c : Char) : Pattern := one (· = c)

/-- Just this text. -/
def text : Text → Pattern
  | [] => empty
  | [c] => char c
  | c :: rest => char c ++ text rest

/-- This text, case disregarded. -/
def textFold (t : Text) : Pattern :=
  match t with
  | [] => empty
  | [c] => one fun d => Text.foldCase d = Text.foldCase c
  | c :: rest => (one fun d => Text.foldCase d = Text.foldCase c) ++ textFold rest

/-- The first of the patterns that leads to a match. -/
def choice : List Pattern → Pattern
  | [] => notAhead empty
  | [p] => p
  | p :: more => alt p (choice more)

/-- A blank character. -/
def blank : Pattern := one Text.isBlank

/-- A line begins here. -/
def lineStart : Pattern := preceded fun c => c.all (· = '\n')

/-- The character before is not `c`. -/
def notAfter (c : Char) : Pattern := preceded (· ≠ some c)

/-! ## Asking for a match -/

/-- The place where the preferred match from `s` ends. -/
def after? (p : Pattern) (s : Place) : Option Place := follow p s some

/-- How many characters the preferred match from `s` takes. -/
def length? (p : Pattern) (s : Place) : Option Nat :=
  (p.after? s).map fun e => s.rest.length - e.rest.length

/-- The texts that the patterns match one after the other from `s` on, and the place where the last
one ends. -/
def parts? : List Pattern → Place → Option (List Text × Place)
  | [], s => some ([], s)
  | p :: more, s => p.follow s fun e => (parts? more e).map fun (texts, last) =>
    (s.upTo e :: texts, last)

/-- Does the pattern match from the beginning of the text on? -/
def begins (p : Pattern) (t : Text) : Bool := (p.after? (.start t)).isSome

/-- Does the pattern match the whole text? -/
def covers (p : Pattern) (t : Text) : Bool := (p ++ atEnd).begins t

/-- The first place, among the `fuel` next ones, where the pattern matches, with the number of
characters passed before it. -/
def findFrom (p : Pattern) {α : Type} (next : Place → Place → Option α) :
    (passed fuel : Nat) → Place → Option (Nat × α)
  | passed, fuel, s =>
    match follow p s (next s), fuel with
    | some a, _ => some (passed, a)
    | none, 0 => none
    | none, fuel + 1 => match s.next? with
      | none => none
      | some (_, s) => findFrom p next (passed + 1) fuel s

/-- The first match at or after the place: where it begins and where it ends. -/
def search? (p : Pattern) (s : Place) : Option (Place × Place) :=
  (p.findFrom (fun b e => some (b, e)) 0 s.rest.length s).map (·.2)

/-- The first match in the text: where it begins and where it ends, as numbers of characters. -/
def find? (p : Pattern) (t : Text) : Option (Nat × Nat) :=
  (p.findFrom (fun _ e => some (t.length - e.rest.length)) 0 t.length (.start t))

/-- Does the pattern match anywhere in the text? -/
def occurs (p : Pattern) (t : Text) : Bool := (p.find? t).isSome

end Pattern
end LiveMarkdown
