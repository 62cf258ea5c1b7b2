import LiveMarkdown.Highlight.Style
import LiveMarkdown.Text.Pattern

/-!
# Grammars of code

A grammar cuts code into pieces by rules. A rule is a sequence of patterns, each with the style of
what it matches, and the state to go on in. The states that have been entered and not left form a
stack; in each the first rule that matches is taken.
-/

namespace LiveMarkdown.Highlight

/-- A rule of a grammar with the states `σ`. -/
structure Rule (σ : Type) where
  parts : List (Pattern × Style)
  /-- The stack of states after the rule, given the one before. -/
  next : List σ → List σ := id

/-- The rules of a grammar in each of its states; without a state, those at the beginning. -/
abbrev Grammar (σ : Type) := Option σ → List (Rule σ)

/-- A rule with one part. -/
def Rule.one {σ : Type} (style : Style) (p : Pattern) (next : List σ → List σ := id) : Rule σ :=
  { parts := [(p, style)], next }

/-- The first rule that matches: the pieces, the place after them and the stack. -/
def firstMatch {σ : Type} (stack : List σ) (s : Place) :
    List (Rule σ) → Option (List Piece × Place × List σ)
  | [] => none
  | r :: more => match Pattern.parts? (r.parts.map (·.1)) s with
    | some (texts, e) => some ((r.parts.map (·.2)).zip texts, e, r.next stack)
    | none => firstMatch stack s more

/-- The pieces of the text after a place. Where no rule matches, a newline leaves all states and any
other character is an error. -/
def Grammar.piecesFrom {σ : Type} (g : Grammar σ) :
    (fuel : Nat) → (stack : List σ) → Place → List Piece
  | 0, _, _ => []
  | fuel + 1, stack, s =>
    match s.next? with
    | none => []
    | some (c, after) =>
      match firstMatch stack s (g stack.head?) with
      | some (pieces, e, stack) => pieces ++ g.piecesFrom fuel stack e
      | none =>
        if c = '\n' then (.space, [c]) :: g.piecesFrom fuel [] after
        else (.error, [c]) :: g.piecesFrom fuel stack after

/-- The pieces of a text. A rule that matches nothing leaves a state that a rule which matched
something has entered, so twice as many steps as there are characters are enough. -/
def Grammar.pieces {σ : Type} (g : Grammar σ) (t : Text) : List Piece :=
  g.piecesFrom (2 * t.length + 1) [] (.start t)

end LiveMarkdown.Highlight
