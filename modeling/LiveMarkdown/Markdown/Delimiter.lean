import LiveMarkdown.Markdown.Token

/-!
# Delimiters

Runs of `*`, `_` and `~` may open or close emphasis, strong emphasis and strikethrough. While
running text is read each marker becomes a text token with a delimiter that points to it. Afterwards
`pair` finds the opener of every closer, and the tokens of a pair become opening and closing marks.

Positions among delimiters are counted from one where they say how far back to look, so that zero
means that nothing is left.
-/

namespace LiveMarkdown.Markdown

/-- A marker that may open or close. -/
structure Delimiter where
  mark : Char
  /-- The length of its run; zero where the length does not matter. -/
  length : Nat
  /-- The position of its token. -/
  token : Nat
  opens : Bool
  closes : Bool
  /-- The position of the delimiter that closes what this one opens. -/
  closer : Option Nat := none
  deriving Inhabited

namespace Delimiter

/-- How far back it is of no use to look for an opener, by the closer's marker, whether it can also
open, and its length modulo three. -/
abbrev Bounds := List ((Char × Bool × Nat) × Nat)

/-- The bound for a closer. -/
def Bounds.of (bounds : Bounds) (d : Delimiter) : Nat :=
  ((bounds.find? (·.1 == (d.mark, d.opens, d.length % 3))).map (·.2)).getD 0

/-- Delimiters while they are being paired: for each one how many of those before it can be passed
at once, the first of the run that is being read, the token of the last one, and the bounds. -/
structure Pairing where
  delimiters : Array Delimiter
  jumps : Array Nat := #[]
  header : Nat := 0
  lastToken : Option Nat := none
  bounds : Bounds := []

/-- Two runs one of which can both open and close do not match if the sum of their lengths is a
multiple of three and the lengths are not. -/
def isOddMatch (opener closer : Delimiter) : Bool :=
  (opener.closes || closer.opens) && (opener.length + closer.length) % 3 = 0 &&
    (opener.length % 3 ≠ 0 || closer.length % 3 ≠ 0)

/-- The opener for `closer` among the first `reach` delimiters, but not among the first `bound`; at
most `fuel` are looked at. -/
def opener? (p : Pairing) (closer : Delimiter) (bound : Nat) : (fuel reach : Nat) → Option Nat
  | 0, _ => none
  | fuel + 1, reach =>
    if reach ≤ bound then none
    else
      let d := p.delimiters.getD (reach - 1) default
      if d.mark = closer.mark && d.opens && d.closer.isNone && !isOddMatch d closer then
        some (reach - 1)
      else opener? p closer bound fuel (reach - 1 - p.jumps.getD (reach - 1) 0)

/-- The delimiter at `i` is dealt with. -/
def Pairing.step (p : Pairing) (i : Nat) : Pairing :=
  let closer := p.delimiters.getD i default
  let goesOn := (p.delimiters.getD p.header default).mark = closer.mark &&
    p.lastToken.map (· + 1) = some closer.token
  let header := if goesOn then p.header else i
  let p := { p with jumps := p.jumps.push 0, header, lastToken := some closer.token }
  if !closer.closes then p
  else
    let reach := header - p.jumps.getD header 0
    match opener? p closer (p.bounds.of closer) (reach + 1) reach with
    | some j =>
      let before := p.delimiters.getD (j - 1) default
      let jump := if 0 < j && !before.opens then p.jumps.getD (j - 1) 0 + 1 else 0
      let opener := p.delimiters.getD j default
      { p with
        delimiters := (p.delimiters.setIfInBounds i { closer with opens := false }).setIfInBounds j
          { opener with closer := some i, closes := false }
        jumps := (p.jumps.setIfInBounds i (i - j + jump)).setIfInBounds j jump
        lastToken := none }
    | none =>
      if reach = 0 then p
      else { p with bounds := ((closer.mark, closer.opens, closer.length % 3), reach) :: p.bounds }

/-- The delimiters with the closer of every opener. -/
def pair (delimiters : Array Delimiter) : Array Delimiter :=
  ((List.range delimiters.size).foldl Pairing.step { delimiters }).delimiters

/-! ## Tokens of pairs -/

/-- The token at `i` becomes a mark. -/
def setMark (tokens : Array Inline) (i : Nat) (kind : InlineKind) : Array Inline :=
  tokens.modify i fun t => { t with kind, content := [] }

/-- Strikethrough: the tokens of paired tildes become marks. The result also tells where a tilde by
itself stands before a closing mark. -/
def markStrikes (delimiters : Array Delimiter) (tokens : Array Inline) : Array Inline × List Nat :=
  delimiters.toList.foldl (fun (tokens, lone) d =>
    match d.closer with
    | some j =>
      if d.mark = '~' then
        let last := (delimiters.getD j default).token
        let tokens := setMark (setMark tokens d.token (.opening .strike)) last (.closing .strike)
        let isLone := tokens[last - 1]? == some (Inline.ofText ['~'])
        (tokens, if isLone then (last - 1) :: lone else lone)
      else (tokens, lone)
    | none => (tokens, lone)) (tokens, [])

/-- The last of the closing strikethrough marks that follow position `i` without a gap. -/
def lastStrike (tokens : Array Inline) : (fuel i : Nat) → Nat
  | 0, i => i
  | fuel + 1, i =>
    if (tokens[i + 1]?).any (·.kind = .closing .strike) then lastStrike tokens fuel (i + 1) else i

/-- A tilde by itself moves behind the closing marks after it, so that a run of odd length leaves
its odd tilde outside. -/
def moveLone (tokens : Array Inline) (i : Nat) : Array Inline :=
  let j := lastStrike tokens tokens.size i
  match tokens[i]?, tokens[j]? with
  | some a, some b => (tokens.setIfInBounds j a).setIfInBounds i b
  | _, _ => tokens

/-- Emphasis: from the last delimiter to the first, a pair becomes a pair of marks. A pair right
inside another one of the same marker makes strong emphasis, and the outer tokens empty. -/
def markEmphasis (delimiters : Array Delimiter) : (count : Nat) → Array Inline → Array Inline
  | 0, tokens => tokens
  | i + 1, tokens =>
    let d := delimiters.getD i default
    match d.closer with
    | none => markEmphasis delimiters i tokens
    | some j =>
      if d.mark ≠ '*' && d.mark ≠ '_' then markEmphasis delimiters i tokens
      else
        let last := delimiters.getD j default
        let outer := delimiters.getD (i - 1) default
        let outerLast := delimiters.getD (j + 1) default
        let isStrong := 0 < i && outer.closer = some (j + 1) && outer.mark = d.mark &&
          outer.token + 1 = d.token && outerLast.token = last.token + 1
        let mark : Mark := if isStrong then .strong else .emphasis
        let tokens := setMark (setMark tokens d.token (.opening mark)) last.token (.closing mark)
        if isStrong then
          let tokens := tokens.modify outer.token fun t => { t with content := [] }
          let tokens := tokens.modify outerLast.token fun t => { t with content := [] }
          match i with
          | 0 => tokens
          | i + 1 => markEmphasis delimiters i tokens
        else markEmphasis delimiters i tokens

/-- The tokens with the marks that the delimiters make. -/
def applyAll (delimiters : Array Delimiter) (tokens : Array Inline) : Array Inline :=
  let paired := pair delimiters
  let (tokens, lone) := markStrikes paired tokens
  markEmphasis paired paired.size (lone.foldl moveLone tokens)

end Delimiter
end LiveMarkdown.Markdown
