import LiveMarkdown.Proofs.Markdown.Nested
import Mathlib.Order.Monotone.Basic

/-!
# Lines that spread

Display math may stand on one line, between its two pairs of dollar signs, or on three, with the
dollar signs on lines of their own. `Spreads` relates a scope to another one in which the first form
has become the second: each of the `wide` lines has become three, and the others are as they were,
only further down. Line `i` is now line `spread wide i`.

All tests of single lines agree on corresponding lines: two dollar signs begin nothing but display
math.

The two scopes need to correspond only up to line `n`, because a quote may take wide lines as lines
that continue a paragraph, and does not read them if there is none.
-/

namespace LiveMarkdown.Markdown

/-- Where line `i` is when each of the `wide` lines takes three lines. -/
def spread (wide : List Nat) (i : Nat) : Nat := i + 2 * (List.range i).countP (· ∈ wide)

variable {wide : List Nat}

/-- The line after one that is not wide is still the next one. -/
theorem spread_succ_of_notMem {i : Nat} (h : i ∉ wide) : spread wide (i + 1) = spread wide i + 1 := by
  rw [spread, spread, List.range_succ, List.countP_append, List.countP_singleton,
    if_neg (by simpa using h)]
  omega

/-- The line after a wide one is three lines further down. -/
theorem spread_succ_of_mem {i : Nat} (h : i ∈ wide) : spread wide (i + 1) = spread wide i + 3 := by
  rw [spread, spread, List.range_succ, List.countP_append, List.countP_singleton,
    if_pos (by simpa using h)]
  omega

/-- Lines keep their order. -/
theorem strictMono_spread : StrictMono (spread wide) := by
  refine strictMono_nat_of_lt_succ fun i => ?_
  by_cases h : i ∈ wide
  · rw [spread_succ_of_mem h]
    omega
  · rw [spread_succ_of_notMem h]
    omega

/-- One line comes before another or is that line exactly if it was so. -/
theorem spread_le_spread {i j : Nat} : spread wide i ≤ spread wide j ↔ i ≤ j :=
  strictMono_spread.le_iff_le

/-- One line comes before another exactly if it did. -/
theorem spread_lt_spread {i j : Nat} : spread wide i < spread wide j ↔ i < j :=
  strictMono_spread.lt_iff_lt

/-- A line does not come before one that was not after it. -/
theorem spread_mono (wide : List Nat) {i j : Nat} (h : i ≤ j) : spread wide i ≤ spread wide j :=
  spread_le_spread.2 h

/-- A line comes before one that was after it. -/
theorem spread_lt (wide : List Nat) {i j : Nat} (h : i < j) : spread wide i < spread wide j :=
  spread_lt_spread.2 h

/-- None of the lines from `i` up to but not including `m` is wide. -/
def Clear (wide : List Nat) (i m : Nat) : Prop := ∀ j, i ≤ j → j < m → j ∉ wide

/-- If no line of a range is wide, none is after the first. -/
theorem Clear.tail {i m : Nat} (h : Clear wide i m) : Clear wide (i + 1) m :=
  fun j hj => h j (Nat.le_of_succ_le hj)

/-- As many lines as there are in a clear range, the range is long now. -/
theorem Clear.spread_add {i k : Nat} (h : Clear wide i (i + k)) :
    spread wide (i + k) = spread wide i + k := by
  induction k with
  | zero => rfl
  | succ k ih =>
    rw [← Nat.add_assoc, spread_succ_of_notMem (h (i + k) (by omega) (by omega)),
      ih fun j hj hlt => h j hj (by omega), Nat.add_assoc]

/-- A clear range has as many lines as it had. -/
theorem Clear.spread_sub {i m : Nat} (h : Clear wide i m) :
    spread wide m - spread wide i = m - i := by
  rcases Nat.le_total i m with hle | hle
  · obtain ⟨k, rfl⟩ := Nat.exists_eq_add_of_le hle
    rw [h.spread_add]
    omega
  · have hmono := spread_mono wide hle
    omega

/-! ## Corresponding ends -/

/-- Position `x'` is where `x` is now, or both lie behind line `n`. -/
def Moves (wide : List Nat) (n x x' : Nat) : Prop :=
  (x ≤ n ∧ x' = spread wide x) ∨ (n < x ∧ spread wide n < x')

namespace Moves

variable {n x x' : Nat}

/-- Line `spread wide x` is where line `x` is. -/
theorem here (wide : List Nat) (n x : Nat) : Moves wide n x (spread wide x) :=
  (Nat.lt_or_ge n x).symm.imp (⟨·, rfl⟩) fun h => ⟨h, spread_lt_spread.2 h⟩

/-- Up to line `n`, a position is exactly known. -/
theorem eq (h : Moves wide n x x') (hx : x ≤ n) : x' = spread wide x :=
  h.elim (·.2) fun hbehind => absurd hx (Nat.not_le.2 hbehind.1)

/-- Positions that correspond up to a line correspond up to any line before it. -/
theorem weaken {m : Nat} (h : Moves wide n x x') (hm : m ≤ n) : Moves wide m x x' := by
  rcases h with ⟨-, rfl⟩ | ⟨hx, hx'⟩
  · exact here wide m x
  · exact .inr ⟨Nat.lt_of_le_of_lt hm hx, Nat.lt_of_le_of_lt (spread_le_spread.2 hm) hx'⟩

/-- A line comes before the one exactly if it came before the other. -/
theorem le_iff {k : Nat} (h : Moves wide n x x') (hk : k ≤ n) : x' ≤ spread wide k ↔ x ≤ k := by
  rcases h with ⟨-, rfl⟩ | ⟨hx, hx'⟩
  · exact spread_le_spread
  · have hmono := spread_mono wide hk
    omega

/-- A line comes strictly before the one exactly if it came strictly before the other. -/
theorem lt_iff {k : Nat} (h : Moves wide n x x') (hk : k ≤ n) : spread wide k < x' ↔ k < x := by
  rw [← Nat.not_le, ← Nat.not_le, h.le_iff hk]

/-- Tests for a line at or behind a position agree. -/
theorem decide_le {k : Nat} (h : Moves wide n x x') (hk : k ≤ n) :
    decide (x' ≤ spread wide k) = decide (x ≤ k) := decide_eq_decide.2 (h.le_iff hk)

/-- Tests for a line before a position agree. -/
theorem decide_lt {k : Nat} (h : Moves wide n x x') (hk : k ≤ n) :
    decide (spread wide k < x') = decide (k < x) := decide_eq_decide.2 (h.lt_iff hk)

end Moves

/-! ## Tokens -/

/-- The same lines, where they are now. -/
def Span.moved (wide : List Nat) (s : Span) : Span := ⟨spread wide s.first, spread wide s.past⟩

/-- The same token, with its lines where they are now. -/
def Token.moved (wide : List Nat) (t : Token) : Token := { t with span := t.span.map (Span.moved wide) }

/-! ## Lines -/

/-- The line, which begins and ends with two dollar signs, has become a line of two dollar signs. -/
structure Line.Opens (l l' : Line) : Prop where
  body : ∃ rest, l.body = '$' :: '$' :: rest
  closing : ∃ size, Scope.mathClosing? l.body = some (none, size)
  body' : l'.body = ['$', '$']
  indent : l'.indent = l.indent

/-- The line holds display math, and what it holds is on line `middle`, before the line `last` of two
dollar signs. -/
structure Line.Holds (l middle last : Line) : Prop where
  long : 3 < (Text.trim l.body).length
  formula : ∀ size, Scope.mathClosing? l.body = some (none, size) →
    Text.trim ((l.body.drop 2).take (l.body.length - size - 2)) =
      Text.trim (Text.unlines [[], middle.chars, last.chars.take (last.chars.length - 2)])
  middle : Scope.mathClosing? middle.body = none
  last : last.body = ['$', '$']

namespace Scope

/-- In `s'` the wide lines of `s` have become three lines each, from line `a` on and up to line `n`,
which lies behind the end unless it is wide. -/
structure Spreads (wide : List Nat) (a n : Nat) (s s' : Scope) : Prop where
  indent : s'.indent = s.indent
  listIndent : s'.listIndent = s.listIndent
  limit : Moves wide n s.limit s'.limit
  same : ∀ i, a ≤ i → i ≤ n → i ∉ wide → s'.line (spread wide i) = s.line i
  opens : ∀ i, a ≤ i → i ≤ n → i ∈ wide → (s.line i).Opens (s'.line (spread wide i))
  holds : ∀ i, a ≤ i → i < n → i ∈ wide →
    (s.line i).Holds (s'.line (spread wide i + 1)) (s'.line (spread wide i + 2))
  /-- A wide line begins no table, and would not if a quote went on after it. -/
  bar : ∀ i, a ≤ i → i ≤ n → i ∈ wide → '|' ∈ (s.line i).body →
    isDelimiterRow (s.line (i + 1)).body = false ∧ (s.line (i + 1)).body.head? ≠ some '>'
  ends : n ∈ wide ∨ s.limit < n
  plain : s.IsPlain
  plain' : s'.IsPlain

/-! ## What a dollar sign begins -/

section

variable {s : Scope} {i : Nat} {rest : Text} (hbody : (s.line i).body = '$' :: rest)
include hbody

/-- Two dollar signs open no fence. -/
theorem fence?_of_dollar : s.fence? i = none := by
  rw [fence?, hbody]
  split
  · rfl
  · exact if_neg (by simp [Text.grave])

/-- Two dollar signs close no fence of another mark. -/
theorem closesFence_of_dollar {mark : Char} (hmark : mark ≠ '$') (length : Nat) :
    s.closesFence mark length i = false := by
  rw [closesFence, hbody, List.takeWhile_cons_of_neg (by simpa using hmark.symm)]
  rfl

/-- A dollar sign begins no quote. -/
theorem isQuote_of_dollar : s.isQuote i = false := by
  rw [isQuote, hbody]
  simp

/-- A dollar sign makes no thematic break. -/
theorem isRule_of_dollar : s.isRule i = false := by
  rw [isRule, hbody]
  simp

/-- A dollar sign begins no heading. -/
theorem heading?_of_dollar : s.heading? i = none := by
  simp [heading?, hbody]

/-- A dollar sign begins no raw HTML. -/
theorem rawHtml?_of_dollar : s.rawHtml? i = none := by
  rw [rawHtml?, hbody]
  split
  · rfl
  · rfl

end

/-- A dollar sign is not the mark of an item. -/
theorem itemMark?_of_dollar (rest : Text) : itemMark? ('$' :: rest) = none := by
  simp [itemMark?, Text.isDigit]

/-- A line is empty if nothing is left of it after its indentation. -/
theorem isEmpty_eq (s : Scope) (i : Nat) : s.isEmpty i = (s.line i).body.isEmpty := by
  rw [isEmpty, Line.isEmpty, Line.body, Bool.eq_iff_iff, List.isEmpty_iff, List.drop_eq_nil_iff,
    decide_eq_true_eq]

/-- Whether a line begins a table depends on no line after the next. -/
theorem table?_of_lt {s : Scope} {i past past' : Nat} (h : i + 1 < past) (h' : i + 1 < past') :
    s.table? i past = s.table? i past' := by
  rw [table?, table?, decide_eq_false (p := past < i + 2) (by omega),
    decide_eq_false (p := past' < i + 2) (by omega)]

/-- No table begins on the last line. -/
theorem table?_of_le {s : Scope} {i past : Nat} (h : past ≤ i + 1) : s.table? i past = none := by
  have hend : past < i + 2 := Nat.lt_succ_of_le h
  rw [table?, decide_eq_true hend]
  rfl

namespace Spreads

variable {a n : Nat} {s s' : Scope} (e : Spreads wide a n s s')
include e

/-! ## Single lines -/

/-- Before the end, there is a next line. -/
theorem succ_le {i : Nat} (hn : i ≤ n) (hi : i ∉ wide) (hlimit : i < s.limit) : i + 1 ≤ n := by
  rcases Nat.eq_or_lt_of_le hn with rfl | hlt
  · exact e.ends.elim (absurd · hi) fun hends => absurd hlimit (Nat.not_lt.2 (Nat.le_of_lt hends))
  · exact hlt

/-- What holds of a line if it holds of the next one, as long as it is not wide and comes before `past`,
holds of all lines. -/
@[elab_as_elim]
theorem lineRec {past : Nat} (hle : past ≤ s.limit) {P : (i : Nat) → a ≤ i → i ≤ n → Prop}
    (step : ∀ i (ha : a ≤ i) (hn : i ≤ n), (∀ (hi : i ∉ wide) (hlt : i < past),
      P (i + 1) (Nat.le_succ_of_le ha) (e.succ_le hn hi (Nat.lt_of_lt_of_le hlt hle))) → P i ha hn)
    {i : Nat} (ha : a ≤ i) (hn : i ≤ n) : P i ha hn := by
  induction hleft : past - i using Nat.strongRecOn generalizing i with
  | ind left ih => exact step i ha hn fun _ hlt => ih _ (by omega) _ _ rfl

/-- Without wide lines, nothing gets behind line `n`. -/
theorem le_of_clear {i m : Nat} (hn : i ≤ n) (hclear : Clear wide i m) (hm : m ≤ s.limit) :
    m ≤ n := by
  refine Nat.le_of_not_lt fun hlt => ?_
  exact e.ends.elim (hclear n hn hlt) fun hends => by omega

section

variable {i : Nat} (ha : a ≤ i) (hn : i ≤ n)
include ha hn

/-- A line is the same as before, or both begin with dollar signs. -/
theorem line : s'.line (spread wide i) = s.line i ∨
    i ∈ wide ∧ (s.line i).Opens (s'.line (spread wide i)) := by
  by_cases hi : i ∈ wide
  · exact .inr ⟨hi, e.opens i ha hn hi⟩
  · exact .inl (e.same i ha hn hi)

/-- A line is indented as it was. -/
theorem lineIndent : (s'.line (spread wide i)).indent = (s.line i).indent := by
  rcases e.line ha hn with h | ⟨-, h⟩
  · rw [h]
  · exact h.indent

/-- A line is indented code if it was. -/
theorem isCode : s'.isCode (spread wide i) = s.isCode i := by
  rw [Scope.isCode, Scope.isCode, e.lineIndent ha hn, e.indent]

/-- A line is left of the container's content if it was. -/
theorem isOutside : s'.isOutside (spread wide i) = s.isOutside i := by
  rw [Scope.isOutside, Scope.isOutside, e.lineIndent ha hn, e.indent]

/-- A line is empty if it was. -/
theorem isEmpty : s'.isEmpty (spread wide i) = s.isEmpty i := by
  rw [isEmpty_eq, isEmpty_eq]
  rcases e.line ha hn with h | ⟨-, h⟩
  · rw [h]
  · obtain ⟨rest, hbody⟩ := h.body
    rw [hbody, h.body']
    rfl

/-- An empty line is not wide. -/
theorem notMem_of_isEmpty (hempty : s.isEmpty i) : i ∉ wide := fun hi => by
  obtain ⟨rest, hbody⟩ := (e.opens i ha hn hi).body
  rw [isEmpty_eq, hbody] at hempty
  cases hempty

/-- A line opens a fence if it did. -/
theorem fence? : s'.fence? (spread wide i) = s.fence? i := by
  rcases e.line ha hn with h | ⟨-, h⟩
  · rw [Scope.fence?, Scope.fence?, e.isCode ha hn, h]
  · obtain ⟨rest, hbody⟩ := h.body
    rw [fence?_of_dollar hbody, fence?_of_dollar h.body']

/-- A line closes a fence if it did. -/
theorem closesFence {mark : Char} (hmark : mark ≠ '$') (length : Nat) :
    s'.closesFence mark length (spread wide i) = s.closesFence mark length i := by
  rcases e.line ha hn with h | ⟨-, h⟩
  · rw [Scope.closesFence, Scope.closesFence, e.isCode ha hn, h]
  · obtain ⟨rest, hbody⟩ := h.body
    rw [closesFence_of_dollar hbody hmark, closesFence_of_dollar h.body' hmark]

/-- A line begins a quote if it did. -/
theorem isQuote : s'.isQuote (spread wide i) = s.isQuote i := by
  rcases e.line ha hn with h | ⟨-, h⟩
  · rw [Scope.isQuote, Scope.isQuote, e.isCode ha hn, h]
  · obtain ⟨rest, hbody⟩ := h.body
    rw [isQuote_of_dollar hbody, isQuote_of_dollar h.body']

/-- A line is a thematic break if it was. -/
theorem isRule : s'.isRule (spread wide i) = s.isRule i := by
  rcases e.line ha hn with h | ⟨-, h⟩
  · rw [Scope.isRule, Scope.isRule, e.isCode ha hn, h]
  · obtain ⟨rest, hbody⟩ := h.body
    rw [isRule_of_dollar hbody, isRule_of_dollar h.body']

/-- A line is a heading if it was, and the same one. -/
theorem heading? : s'.heading? (spread wide i) = s.heading? i := by
  rcases e.line ha hn with h | ⟨-, h⟩
  · rw [Scope.heading?, Scope.heading?, e.isCode ha hn, h]
  · obtain ⟨rest, hbody⟩ := h.body
    rw [heading?_of_dollar hbody, heading?_of_dollar h.body']

/-- A line begins raw HTML if it did. -/
theorem rawHtml? : s'.rawHtml? (spread wide i) = s.rawHtml? i := by
  rcases e.line ha hn with h | ⟨-, h⟩
  · rw [Scope.rawHtml?, Scope.rawHtml?, e.isCode ha hn, h]
  · obtain ⟨rest, hbody⟩ := h.body
    rw [rawHtml?_of_dollar hbody, rawHtml?_of_dollar h.body']

/-- A line has the mark of an item that it had. -/
theorem itemMark? : Scope.itemMark? (s'.line (spread wide i)).body =
    Scope.itemMark? (s.line i).body := by
  rcases e.line ha hn with h | ⟨-, h⟩
  · rw [h]
  · obtain ⟨rest, hbody⟩ := h.body
    rw [hbody, h.body', itemMark?_of_dollar, itemMark?_of_dollar]

/-- A line with the mark of an item is not wide. -/
theorem notMem_of_itemMark? {m : ItemMark} (hmark : Scope.itemMark? (s.line i).body = some m) :
    i ∉ wide := fun hi => by
  obtain ⟨rest, hbody⟩ := (e.opens i ha hn hi).body
  rw [hbody, itemMark?_of_dollar] at hmark
  cases hmark

/-- A line begins an item if it did, and the same one. -/
theorem listItem? (inParagraph : Bool) :
    s'.listItem? inParagraph (spread wide i) = s.listItem? inParagraph i := by
  rcases e.line ha hn with h | ⟨-, h⟩
  · simp only [Scope.listItem?, e.isCode ha hn, e.isOutside ha hn, h, e.listIndent]
  · obtain ⟨rest, hbody⟩ := h.body
    simp only [Scope.listItem?, hbody, h.body', itemMark?_of_dollar, ite_self]

/-- A line underlines a paragraph if it did. -/
theorem underline? : Scope.underline? (s'.line (spread wide i)).body =
    Scope.underline? (s.line i).body := by
  rcases e.line ha hn with h | ⟨-, h⟩
  · rw [h]
  · obtain ⟨rest, hbody⟩ := h.body
    rw [hbody, h.body']
    rfl

/-- A line divides the head of a table from its rows if it did. -/
theorem isDelimiterRow : Scope.isDelimiterRow (s'.line (spread wide i)).body =
    Scope.isDelimiterRow (s.line i).body := by
  rcases e.line ha hn with h | ⟨-, h⟩
  · rw [h]
  · obtain ⟨rest, hbody⟩ := h.body
    rw [hbody, h.body']
    rfl

/-! ## Tables -/

/-- A line begins a table if it did, and the same one. -/
theorem table? {past past' : Nat} (hpast : Moves wide n past past') (hle : past ≤ s.limit) :
    s'.table? (spread wide i) past' = s.table? i past := by
  by_cases hi : i ∈ wide
  · rw [table?_eq_none fun hmem => (e.bar i ha hn hi hmem).1, table?_eq_none fun hmem => ?_]
    rw [(e.opens i ha hn hi).body'] at hmem
    exact absurd hmem (by decide)
  · by_cases hend : past ≤ i + 1
    · have hend' : past' ≤ spread wide i + 1 := by
        rw [← spread_succ_of_notMem hi]
        rcases hpast with ⟨-, rfl⟩ | ⟨hbehind, -⟩
        · exact spread_le_spread.2 hend
        · have := e.succ_le hn hi
          omega
      rw [table?_of_le hend, table?_of_le hend']
    · have hlt : i + 1 ≤ n := e.succ_le hn hi (by omega)
      have hend' := mt (hpast.le_iff hlt).1 hend
      have ha1 : a ≤ i + 1 := Nat.le_succ_of_le ha
      have hlimit : decide (past' < spread wide i + 2) = decide (past < i + 2) := by
        rw [spread_succ_of_notMem hi] at hend'
        rw [decide_eq_decide]
        omega
      rw [Scope.table?, Scope.table?, hlimit, ← spread_succ_of_notMem hi, e.isOutside ha1 hlt,
        e.isCode ha1 hlt, e.isDelimiterRow ha1 hlt, e.isCode ha hn, e.same i ha hn hi]
      rcases e.line ha1 hlt with h | ⟨-, h⟩
      · rw [h]
      · obtain ⟨rest, hbody⟩ := h.body
        rw [hbody]
        simp [Scope.isDelimiterRow]

/-- A line interrupts a paragraph, a quote or a list if it did. -/
theorem interrupts (what : Interruptible) {past past' : Nat} (hpast : Moves wide n past past')
    (hle : past ≤ s.limit) : s'.interrupts what (spread wide i) past' = s.interrupts what i past := by
  simp only [Scope.interrupts, e.table? ha hn hpast hle, e.fence? ha hn, e.isQuote ha hn,
    e.isRule ha hn, e.listItem? ha hn, e.rawHtml? ha hn, e.heading? ha hn]

/-- A wide line interrupts nothing. -/
theorem interrupts_of_mem (what : Interruptible) {past : Nat} (hi : i ∈ wide) :
    s.interrupts what i past = false := by
  obtain ⟨rest, hbody⟩ := (e.opens i ha hn hi).body
  simp [Scope.interrupts, table?_eq_none fun hmem => (e.bar i ha hn hi hmem).1,
    fence?_of_dollar hbody, isQuote_of_dollar hbody, isRule_of_dollar hbody, Scope.listItem?, hbody,
    itemMark?_of_dollar, rawHtml?_of_dollar hbody, heading?_of_dollar hbody]

/-- A line begins with the character it began with. -/
theorem head? : (s'.line (spread wide i)).body.head? = (s.line i).body.head? := by
  rcases e.line ha hn with h | ⟨-, h⟩
  · rw [h]
  · obtain ⟨rest, hbody⟩ := h.body
    rw [hbody, h.body']
    rfl

end

/-- Lines of which none is wide are still together. -/
theorem range {first m : Nat} (ha : a ≤ first) (hm : m ≤ n + 1) (hclear : Clear wide first m) :
    s'.range (spread wide first) (spread wide m) = s.range first m := by
  rw [Scope.range, Scope.range, hclear.spread_sub]
  refine List.map_congr_left fun k hk => ?_
  have hk : first + k < m := by
    have := List.mem_range.1 hk
    omega
  have hpart : Clear wide first (first + k) := fun j hj hlt => hclear j hj (Nat.lt_trans hlt hk)
  rw [← hpart.spread_add]
  exact e.same _ (Nat.le_add_right_of_le ha) (by omega) (hclear _ (Nat.le_add_right _ _) hk)

/-- The text of a paragraph without wide lines is what it was. -/
theorem paragraphText {first m : Nat} (ha : a ≤ first) (hm : m ≤ n + 1)
    (hclear : Clear wide first m) :
    s'.paragraphText (spread wide first) (spread wide m) = s.paragraphText first m := by
  rw [Scope.paragraphText, Scope.paragraphText, e.range ha hm hclear, e.indent]

end Spreads
end Scope
end LiveMarkdown.Markdown
