import LiveMarkdown.Proofs.Markdown.Definitions
import LiveMarkdown.Proofs.Markdown.Progress

/-!
# Lines that are read on their own

An `Excerpt` is a scope that has some lines of another one, and nothing after them. The lines after
them in the whole are empty up to `stop`; what comes from there on may be anything, and the question
is what a reader makes of the excerpt when its reading of the whole ends before `stop`.

It reads the same. Two positions correspond (`Meets`) if they are the same line or both lie behind
the excerpt. The tests of single lines agree on corresponding lines, and what looks for the end of a
block finds corresponding ends: as long as lines correspond because both see the same, and from there
on because nothing goes back (`le_codeEnd` and its like). Only indented code, display math and the
underlining of headings look past empty lines for more; for them it counts that the whole has been
read before `stop`. So the same begins at corresponding lines (`Excerpt.startAt`).

The last line of the excerpt is the one whose successor differs. No block but a table asks for the
successor; hence the condition `Excerpt.bar`.
-/

namespace LiveMarkdown

/-- Trimming adds no characters. -/
theorem Text.mem_of_mem_trimWhite {c : Char} {t : Text} (h : c ∈ trimWhite t) : c ∈ t := by
  rw [trimWhite, dropEndWhile, List.mem_reverse] at h
  exact (List.dropWhile_sublist _).subset
    (List.mem_reverse.1 ((List.dropWhile_sublist _).subset h))

namespace Markdown

/-- Position `i` of the whole and position `i'` of the excerpt of `n` lines from line `a` on are the
same line, or both lie behind the excerpt. -/
def Meets (a n i i' : Nat) : Prop := (i' < n ∧ i = a + i') ∨ (n ≤ i' ∧ a + n ≤ i)

namespace Meets

variable {a n i i' : Nat}

/-- A line of the excerpt corresponds to itself in the whole. -/
theorem here {k : Nat} (h : k < n) : Meets a n (a + k) k := .inl ⟨h, rfl⟩

/-- So does a position of the excerpt, as many lines after the first. -/
theorem add (a n k : Nat) : Meets a n (a + k) k := by
  unfold Meets
  omega

/-- Two positions behind the excerpt correspond, wherever they are. -/
theorem behind (h' : n ≤ i') (h : a + n ≤ i) : Meets a n i i' := .inr ⟨h', h⟩

/-- The lines after two positions that correspond do so, too. -/
theorem succ (h : Meets a n i i') : Meets a n (i + 1) (i' + 1) := by
  unfold Meets at *
  omega

/-- Fences that end alike have corresponding lines after them. -/
theorem fence {r r' : Nat × Bool} (h : Meets a n r.1 r'.1) (hclosed : r'.1 < n → r'.2 = r.2) :
    Meets a n (if r.2 then r.1 + 1 else r.1) (if r'.2 then r'.1 + 1 else r'.1) := by
  rcases h with ⟨hlt, heq⟩ | ⟨hown, hwhole⟩
  · rw [hclosed hlt, heq]
    split
    · exact (here hlt).succ
    · exact here hlt
  · exact behind (by split <;> omega) (by split <;> omega)

/-- What corresponds in an excerpt corresponds in a shorter one. -/
theorem weaken {m : Nat} (h : Meets a n i i') (hm : m ≤ n) : Meets a m i i' := by
  unfold Meets at *
  omega

/-- It corresponds in an excerpt with one line more, if neither position is that line. -/
theorem extend {m : Nat} (h : Meets a m i i') (hm : m + 1 = n) (hi : i ≠ a + m) (hi' : i' ≠ m) :
    Meets a n i i' := by
  unfold Meets at *
  omega

/-- A line of the excerpt is before a position exactly if it is so in the whole. -/
theorem lt_iff {k : Nat} (h : Meets a n i i') (hk : k < n) : k < i' ↔ a + k < i := by
  unfold Meets at h
  omega

/-- A line of the excerpt is at a position or after it exactly if it is so in the whole. -/
theorem le_iff {k : Nat} (h : Meets a n i i') (hk : k < n) : i' ≤ k ↔ i ≤ a + k := by
  rw [← Nat.not_lt, ← Nat.not_lt, h.lt_iff hk]

/-- The same of the question as a program asks it. -/
theorem decide_lt {k : Nat} (h : Meets a n i i') (hk : k < n) :
    decide (k < i') = decide (a + k < i) := decide_eq_decide.2 (h.lt_iff hk)

/-- The same of the question as a program asks it. -/
theorem decide_le {k : Nat} (h : Meets a n i i') (hk : k < n) :
    decide (i' ≤ k) = decide (i ≤ a + k) := decide_eq_decide.2 (h.le_iff hk)

/-- What holds behind the excerpt, and of a line of it if it holds of the next one, holds of all
positions that correspond. -/
@[elab_as_elim]
theorem recOn {P : (i i' : Nat) → Meets a n i i' → Prop}
    (behind : ∀ i i' (h' : n ≤ i') (h : a + n ≤ i), P i i' (.behind h' h))
    (step : ∀ k (hk : k < n), P (a + k + 1) (k + 1) (here hk).succ → P (a + k) k (here hk))
    (h : Meets a n i i') : P i i' h := by
  rcases h with ⟨hk, rfl⟩ | ⟨h', h⟩
  · obtain ⟨d, hd⟩ : ∃ d, n = i' + d := ⟨n - i', by omega⟩
    induction d generalizing i' with
    | zero => omega
    | succ d ih =>
      refine step i' hk ?_
      by_cases hlast : i' + 1 < n
      · exact ih hlast (by omega)
      · exact behind _ _ (by omega) (by omega)
  · exact behind i i' h' h

end Meets

/-- The lines are the same, except that one of them may be terminated and the other not. -/
structure Line.SameContent (l l' : Line) : Prop where
  chars : l'.chars = l.chars
  shift : l'.shift = l.shift
  indent : l'.indent = l.indent
  column : l'.column = l.column

/-- Lines with the same content have the same characters after their indentation. -/
theorem Line.SameContent.body {l l' : Line} (h : l.SameContent l') : l'.body = l.body := by
  rw [Line.body, Line.body, h.chars, h.shift]

/-- What a quote makes of two lines with the same content has the same content. -/
theorem Line.SameContent.quoteLine {l l' : Line} (h : l.SameContent l') :
    (Scope.quoteLine l).SameContent (Scope.quoteLine l') := by
  simp only [Scope.quoteLine, h.indent, h.column, h.body]
  exact ⟨rfl, rfl, rfl, rfl⟩

/-- An item finds the same space after its mark. -/
theorem Line.SameContent.itemSpace {l l' : Line} (h : l.SameContent l') (mark : Scope.ItemMark) :
    Scope.itemSpace l' mark = Scope.itemSpace l mark := by
  simp only [Scope.itemSpace, h.indent, h.column, h.body]

/-- One is empty exactly if the other is. -/
theorem Line.SameContent.isEmpty {l l' : Line} (h : l.SameContent l') : l'.isEmpty = l.isEmpty := by
  rw [Line.isEmpty, Line.isEmpty, h.chars, h.shift]

namespace Scope

/-- `s'` has the `n` lines of `s` from line `a` on, and `s` has only empty lines after them, up to
line `stop`. -/
structure Excerpt (a n stop : Nat) (s s' : Scope) : Prop where
  le : a + n ≤ stop
  indent : s'.indent = s.indent
  listIndent : s'.listIndent = s.listIndent
  limit : Meets a n s.limit s'.limit
  same : ∀ k < n, (s.line (a + k)).SameContent (s'.line k)
  /-- The last line need not be terminated, unless it is empty. -/
  terminated : ∀ k < n, k + 1 < n ∨ s'.isEmpty k →
    (s'.line k).terminated = (s.line (a + k)).terminated
  empty : ∀ i, a + n ≤ i → i < stop → s.isEmpty i
  empty' : ∀ k, n ≤ k → s'.isEmpty k
  /-- The last line begins no table, and would not if a quote went on after it. -/
  bar : ∀ k, k + 1 = n → '|' ∈ (s.line (a + k)).body →
    isDelimiterRow (s.line (a + n)).body = false ∧ (s.line (a + n)).body.head? ≠ some '>'
  plain : s.IsPlain
  plain' : s'.IsPlain

/-- An empty line has no characters after its indentation. -/
theorem body_of_isEmpty {s : Scope} {i : Nat} (h : s.isEmpty i) : (s.line i).body = [] :=
  List.drop_eq_nil_of_le (of_decide_eq_true h)

/-- Only a line with a bar, before a delimiter row, begins a table. -/
theorem table?_eq_none {s : Scope} {i past : Nat}
    (h : '|' ∈ (s.line i).body → isDelimiterRow (s.line (i + 1)).body = false) :
    s.table? i past = none := by
  simp only [Scope.table?]
  split
  · rfl
  · next hcond =>
    simp only [Bool.or_eq_true, not_or, Bool.not_eq_true', Bool.not_eq_false] at hcond
    have hbar : '|' ∉ (s.line i).body := fun hmem => by
      rw [h hmem] at hcond
      exact absurd hcond.2 Bool.false_ne_true
    have hheader : (Text.trimWhite (s.line i).body).contains '|' = false := by
      rw [List.contains_eq_mem, decide_eq_false_iff_not]
      exact fun hmem => hbar (Text.mem_of_mem_trimWhite hmem)
    split
    · rfl
    · rw [hheader]
      rfl

/-! ## Loops with enough fuel -/

section

variable {s : Scope} {fuel i : Nat}

/-- Enough fuel to skip empty lines is as good as any, and one step is the question at the line. -/
theorem skipEmpty_unfold (h : s.limit - i ≤ fuel) : s.skipEmpty fuel i =
    if i < s.limit && s.isEmpty i then s.skipEmpty (fuel - 1) (i + 1) else i := by
  cases fuel with
  | zero => rw [skipEmpty, decide_eq_false (by omega), Bool.false_and, if_neg Bool.false_ne_true]
  | succ fuel => rfl

/-- The same of looking for the end of indented code. -/
theorem codeEnd_unfold {past reached : Nat} (h : past - i ≤ fuel) : s.codeEnd past fuel reached i =
    if past ≤ i then reached
    else if s.isEmpty i then s.codeEnd past (fuel - 1) reached (i + 1)
    else if s.isCode i then s.codeEnd past (fuel - 1) (i + 1) (i + 1)
    else reached := by
  cases fuel with
  | zero => rw [codeEnd, if_pos (by omega)]
  | succ fuel => rfl

/-- The same of looking for the end of code between fences. -/
theorem fenceEnd_unfold {mark : Char} {length past : Nat} (h : past - i ≤ fuel) :
    s.fenceEnd mark length past fuel i =
      if past ≤ i then (i, false)
      else if !s.isEmpty i && s.isOutside i then (i, false)
      else if s.isEmpty i && !(s.line i).terminated then (i, false)
      else if s.closesFence mark length i then (i, true)
      else s.fenceEnd mark length past (fuel - 1) (i + 1) := by
  cases fuel with
  | zero => rw [fenceEnd, if_pos (by omega)]
  | succ fuel => rfl

/-- The same of looking for the end of raw HTML. -/
theorem htmlEnd_unfold {e : RawHtml.BlockEnd} {past : Nat} (h : past - i ≤ fuel) :
    s.htmlEnd e past fuel i =
      if past ≤ i || (s.isOutside i && !(s.line i).body.isEmpty) then i
      else if e.isReached (s.line i).body then (if (s.line i).body.isEmpty then i else i + 1)
      else s.htmlEnd e past (fuel - 1) (i + 1) := by
  cases fuel with
  | zero => rw [htmlEnd, decide_eq_true (by omega), Bool.true_or, if_pos rfl]
  | succ fuel => rfl

/-- The same of looking for the line that closes display math. -/
theorem mathEnd?_unfold {past : Nat} (h : past - i ≤ fuel) : s.mathEnd? past fuel i =
    if past ≤ i then none
    else match mathClosing? (s.line i).body with
      | some (label, size) => some (i, label, size)
      | none => s.mathEnd? past (fuel - 1) (i + 1) := by
  cases fuel with
  | zero => rw [mathEnd?, if_pos (by omega)]
  | succ fuel => rfl

/-- The same of looking for the end of a paragraph. -/
theorem paragraphEnd_unfold (h : s.limit - i ≤ fuel) : s.paragraphEnd fuel i =
    if s.limit ≤ i || s.isEmpty i then i
    else if s.isCode i || (s.line i).indent < 0 then s.paragraphEnd (fuel - 1) (i + 1)
    else if s.interrupts .paragraph i s.limit then i
    else s.paragraphEnd (fuel - 1) (i + 1) := by
  cases fuel with
  | zero => rw [paragraphEnd, decide_eq_true (by omega), Bool.true_or, if_pos rfl]
  | succ fuel => rfl

/-- The same of looking for the line that underlines a heading. -/
theorem underlined?_unfold {past : Nat} (h : past - i ≤ fuel) : s.underlined? past fuel i =
    if past ≤ i || s.isEmpty i then none
    else if s.isCode i then s.underlined? past (fuel - 1) (i + 1)
    else match if s.isOutside i then none else underline? (s.line i).body with
      | some level => some (i, level)
      | none =>
        if (s.line i).indent < 0 then s.underlined? past (fuel - 1) (i + 1)
        else if s.interrupts .paragraph i past then none
        else s.underlined? past (fuel - 1) (i + 1) := by
  cases fuel with
  | zero => rw [underlined?, decide_eq_true (by omega), Bool.true_or, if_pos rfl]
  | succ fuel => rfl

/-- The same of reading the rows of a table: what is read of the first line, and the rest. -/
theorem rows_eq {alignments : List (Option Alignment)} {past : Nat} {filled : Int}
    (h : past - i ≤ fuel) : s.rows alignments past fuel filled i =
      if past ≤ i || s.isOutside i || s.interrupts .quote i past ||
          (Text.trimWhite (s.line i).body).isEmpty || s.isCode i then ([], i)
      else
        let cells := rowCells (Text.trimWhite (s.line i).body)
        let filled := filled + (alignments.length - cells.length : Int)
        if maxFilledCells < filled then ([], i)
        else
          let more := s.rows alignments past (fuel - 1) filled (i + 1)
          (row .dataCell alignments cells i ++ more.1, more.2) := by
  cases fuel with
  | zero => simp only [rows, decide_eq_true (show past ≤ i by omega), Bool.true_or, if_true]
  | succ fuel => rfl

/-- The line after the rows of a table, step by step. -/
theorem rows_unfold {alignments : List (Option Alignment)} {past : Nat} {filled : Int}
    (h : past - i ≤ fuel) : (s.rows alignments past fuel filled i).2 =
      if past ≤ i || s.isOutside i || s.interrupts .quote i past ||
          (Text.trimWhite (s.line i).body).isEmpty || s.isCode i then i
      else
        let cells := rowCells (Text.trimWhite (s.line i).body)
        let filled := filled + (alignments.length - cells.length : Int)
        if maxFilledCells < filled then i
        else (s.rows alignments past (fuel - 1) filled (i + 1)).2 := by
  rw [rows_eq h]
  split
  · rfl
  · dsimp only
    split <;> rfl

/-- The line after a quote, and whether it goes on as a paragraph, step by step. -/
theorem quoteLines_unfold {past : Nat} {wasEmpty : Bool} (h : past - i ≤ fuel) :
    (s.quoteLines past fuel wasEmpty i).2 =
      if past ≤ i || (s.line i).isEmpty then (i, false)
      else if (s.line i).body.head? = some '>' && !s.isOutside i then
        (s.quoteLines past (fuel - 1) (quoteLine (s.line i)).isEmpty (i + 1)).2
      else if wasEmpty then (i, false)
      else if s.interrupts .quote i past then (i, true)
      else (s.quoteLines past (fuel - 1) wasEmpty (i + 1)).2 := by
  cases fuel with
  | zero => simp only [quoteLines, decide_eq_true (show past ≤ i by omega), Bool.true_or, if_true]
  | succ fuel =>
    simp only [quoteLines]
    split
    · rfl
    · split
      · rfl
      · split
        · rfl
        · split <;> rfl

end

/-! ## Where loops end -/

/-- Where nothing but empty lines come before `stop`, code ends where it has got to, unless it goes
on behind that. -/
theorem codeEnd_of_empty {s : Scope} {past fuel reached i stop : Nat}
    (h : ∀ j, i ≤ j → j < stop → s.isEmpty j) :
    s.codeEnd past fuel reached i = reached ∨ stop < s.codeEnd past fuel reached i := by
  induction fuel generalizing i with
  | zero => exact .inl rfl
  | succ fuel ih =>
    rw [codeEnd]
    split
    · exact .inl rfl
    · split
      · exact ih fun j hj => h j (by omega)
      · split
        · next hempty _ =>
          have hi : stop ≤ i := Nat.le_of_not_lt fun hlt => hempty (h i (Nat.le_refl i) hlt)
          exact .inr (Nat.lt_of_lt_of_le (Nat.lt_succ_of_le hi)
            (s.le_codeEnd past fuel (Nat.le_refl _)))
        · exact .inl rfl

/-- The line that closes display math is not empty. -/
theorem isEmpty_of_mathEnd? {s : Scope} {past fuel i last size : Nat} {label : Option Text}
    (h : s.mathEnd? past fuel i = some (last, label, size)) : s.isEmpty last = false := by
  refine Bool.eq_false_iff.2 fun hempty => ?_
  have hnil : mathClosing? [] = none := by decide
  have hclosing := (of_mathEnd? h).2.2
  rw [body_of_isEmpty hempty, hnil] at hclosing
  cases hclosing

namespace Excerpt

variable {a n stop : Nat} {s s' : Scope} (e : Excerpt a n stop s s')
include e

/-! ## Single lines -/

/-- A line of the excerpt has the characters that it has in the whole. -/
theorem body {k : Nat} (hk : k < n) : (s'.line k).body = (s.line (a + k)).body := (e.same k hk).body

/-- A line of the excerpt is empty exactly if it is so in the whole. -/
theorem isEmpty {k : Nat} (hk : k < n) : s'.isEmpty k = s.isEmpty (a + k) := (e.same k hk).isEmpty

/-- A line of the excerpt is indented as code exactly if it is so in the whole. -/
theorem isCode {k : Nat} (hk : k < n) : s'.isCode k = s.isCode (a + k) := by
  rw [Scope.isCode, Scope.isCode, (e.same k hk).indent, e.indent]

/-- A line of the excerpt is outside its container exactly if it is so in the whole. -/
theorem isOutside {k : Nat} (hk : k < n) : s'.isOutside k = s.isOutside (a + k) := by
  rw [Scope.isOutside, Scope.isOutside, (e.same k hk).indent, e.indent]

/-- A line of the excerpt opens the fence that it opens in the whole. -/
theorem fence? {k : Nat} (hk : k < n) : s'.fence? k = s.fence? (a + k) := by
  rw [Scope.fence?, Scope.fence?, e.isCode hk, e.body hk]

/-- A line of the excerpt closes a fence exactly if it does so in the whole. -/
theorem closesFence (mark : Char) (length : Nat) {k : Nat} (hk : k < n) :
    s'.closesFence mark length k = s.closesFence mark length (a + k) := by
  rw [Scope.closesFence, Scope.closesFence, e.isCode hk, e.body hk]

/-- A line of the excerpt begins a quote exactly if it does so in the whole. -/
theorem isQuote {k : Nat} (hk : k < n) : s'.isQuote k = s.isQuote (a + k) := by
  rw [Scope.isQuote, Scope.isQuote, e.isCode hk, e.body hk]

/-- A line of the excerpt is a rule exactly if it is so in the whole. -/
theorem isRule {k : Nat} (hk : k < n) : s'.isRule k = s.isRule (a + k) := by
  rw [Scope.isRule, Scope.isRule, e.isCode hk, e.body hk]

/-- A line of the excerpt is the heading that it is in the whole. -/
theorem heading? {k : Nat} (hk : k < n) : s'.heading? k = s.heading? (a + k) := by
  rw [Scope.heading?, Scope.heading?, e.isCode hk, e.body hk]

/-- A line of the excerpt begins the raw HTML that it begins in the whole. -/
theorem rawHtml? {k : Nat} (hk : k < n) : s'.rawHtml? k = s.rawHtml? (a + k) := by
  rw [Scope.rawHtml?, Scope.rawHtml?, e.isCode hk, e.body hk]

/-- A line of the excerpt begins the list item that it begins in the whole. -/
theorem listItem? (inParagraph : Bool) {k : Nat} (hk : k < n) :
    s'.listItem? inParagraph k = s.listItem? inParagraph (a + k) := by
  simp only [Scope.listItem?, e.isCode hk, e.isOutside hk, e.body hk, (e.same k hk).indent,
    e.listIndent]

/-! ## Tables -/

/-- A line of the excerpt begins the table that it begins in the whole: the last one begins none,
since no delimiter row comes after it. -/
theorem table? {k past past' : Nat} (hk : k < n) (hpast : Meets a n past past') :
    s'.table? k past' = s.table? (a + k) past := by
  by_cases hlast : k + 1 = n
  · have hempty : (s'.line (k + 1)).body = [] := body_of_isEmpty (e.empty' (k + 1) (by omega))
    have hnext : a + k + 1 = a + n := by omega
    rw [table?_eq_none fun _ => by rw [hempty]; rfl,
      table?_eq_none fun hmem => hnext ▸ (e.bar k hlast hmem).1]
  · have hk1 : k + 1 < n := by omega
    have hpast : decide (past' < k + 2) = decide (past < a + k + 2) := by
      rw [decide_eq_decide]
      unfold Meets at hpast
      omega
    simp only [Scope.table?, hpast, e.isOutside hk1, e.isCode hk1, e.body hk1, e.isCode hk, e.body hk,
      ← Nat.add_assoc]

/-- A line of the excerpt interrupts what it interrupts in the whole. -/
theorem interrupts (what : Interruptible) {k past past' : Nat} (hk : k < n)
    (hpast : Meets a n past past') :
    s'.interrupts what k past' = s.interrupts what (a + k) past := by
  simp only [Scope.interrupts, e.table? hk hpast, e.fence? hk, e.isQuote hk, e.isRule hk,
    e.listItem? _ hk, e.rawHtml? hk, e.heading? hk]

/-! ## Loops -/

/-- Skipping empty lines leads to corresponding lines. -/
theorem skipEmpty {i i' fuel fuel' : Nat} (hi : Meets a n i i') (hfuel : s.limit - i ≤ fuel)
    (hfuel' : s'.limit - i' ≤ fuel') : Meets a n (s.skipEmpty fuel i) (s'.skipEmpty fuel' i') := by
  have hlimit := e.limit
  induction hi using Meets.recOn generalizing fuel fuel' with
  | behind i i' hi' hi =>
    exact .behind (Nat.le_trans hi' (s'.le_skipEmpty ..)) (Nat.le_trans hi (s.le_skipEmpty ..))
  | step k hk ih =>
    rw [skipEmpty_unfold hfuel, skipEmpty_unfold hfuel', e.isEmpty hk, hlimit.decide_lt hk]
    split
    · exact ih (by omega) (by omega)
    · exact .here hk

section

variable {past past' i i' fuel fuel' : Nat} (hpast : Meets a n past past') (hi : Meets a n i i')
  (hfuel : past - i ≤ fuel) (hfuel' : past' - i' ≤ fuel')
include hpast hi hfuel hfuel'

/-- Indented code ends at corresponding lines, if it ends before `stop` in the whole. -/
theorem codeEnd {reached reached' : Nat} (hreached : Meets a n reached reached')
    (hstop : s.codeEnd past fuel reached i ≤ stop) :
    Meets a n (s.codeEnd past fuel reached i) (s'.codeEnd past' fuel' reached' i') := by
  induction hi using Meets.recOn generalizing fuel fuel' reached reached' with
  | behind i i' hi' hi =>
    have hwhole := (codeEnd_of_empty fun j hj => e.empty j (Nat.le_trans hi hj)).resolve_right
      (Nat.not_lt.2 hstop)
    have hown : s'.codeEnd past' fuel' reached' i' = reached' := by
      have hempty (j : Nat) (hj : i' ≤ j) (_ : j < s'.codeEnd past' fuel' reached' i') :
          s'.isEmpty j :=
        e.empty' j (Nat.le_trans hi' hj)
      exact (codeEnd_of_empty hempty).resolve_right (Nat.lt_irrefl _)
    rwa [hwhole, hown]
  | step k hk ih =>
    rw [codeEnd_unfold hfuel] at hstop ⊢
    simp only [codeEnd_unfold hfuel', e.isEmpty hk, e.isCode hk, hpast.le_iff hk]
    split
    · exact hreached
    · next hend =>
      rw [if_neg hend] at hstop
      split
      · next hempty =>
        rw [if_pos hempty] at hstop
        exact ih (by omega) (by omega) hreached hstop
      · next hempty =>
        rw [if_neg hempty] at hstop
        split
        · next hcode =>
          rw [if_pos hcode] at hstop
          exact ih (by omega) (by omega) (Meets.here hk).succ hstop
        · exact hreached

/-- Code between fences ends at corresponding lines, and with a closing fence in both or in neither.
-/
theorem fenceEnd (mark : Char) (length : Nat) :
    let r := s.fenceEnd mark length past fuel i
    let r' := s'.fenceEnd mark length past' fuel' i'
    Meets a n r.1 r'.1 ∧ (r'.1 < n → r'.2 = r.2) := by
  induction hi using Meets.recOn generalizing fuel fuel' with
  | behind i i' hi' hi =>
    have hle := s.le_fenceEnd mark length past fuel i
    have hle' := s'.le_fenceEnd mark length past' fuel' i'
    exact ⟨.behind (Nat.le_trans hi' hle') (Nat.le_trans hi hle), fun h => absurd h (by omega)⟩
  | step k hk ih =>
    have hterminated : (s.isEmpty (a + k) && !(s'.line k).terminated) =
        (s.isEmpty (a + k) && !(s.line (a + k)).terminated) := by
      cases hempty : s.isEmpty (a + k) with
      | true => rw [e.terminated k hk (.inr ((e.isEmpty hk).trans hempty))]
      | false => rfl
    simp only [fenceEnd_unfold hfuel, fenceEnd_unfold hfuel', e.isEmpty hk, e.isOutside hk,
      e.closesFence mark length hk, hpast.le_iff hk, hterminated]
    split
    · exact ⟨.here hk, fun _ => rfl⟩
    · split
      · exact ⟨.here hk, fun _ => rfl⟩
      · split
        · exact ⟨.here hk, fun _ => rfl⟩
        · split
          · exact ⟨.here hk, fun _ => rfl⟩
          · exact ih (by omega) (by omega)

/-- Raw HTML ends at corresponding lines. -/
theorem htmlEnd (ending : RawHtml.BlockEnd) :
    Meets a n (s.htmlEnd ending past fuel i) (s'.htmlEnd ending past' fuel' i') := by
  induction hi using Meets.recOn generalizing fuel fuel' with
  | behind i i' hi' hi =>
    exact .behind (Nat.le_trans hi' (s'.le_htmlEnd ..)) (Nat.le_trans hi (s.le_htmlEnd ..))
  | step k hk ih =>
    simp only [htmlEnd_unfold hfuel, htmlEnd_unfold hfuel', e.body hk, e.isOutside hk,
      hpast.decide_le hk]
    split
    · exact .here hk
    · split
      · split
        · exact .here hk
        · exact (Meets.here hk).succ
      · exact ih (by omega) (by omega)

/-- Display math is closed on the same line, if it is closed before `stop` in the whole. -/
theorem mathEnd? (hstop : ∀ r ∈ s.mathEnd? past fuel i, r.1 < stop) :
    s.mathEnd? past fuel i = (s'.mathEnd? past' fuel' i').map fun r => (a + r.1, r.2) := by
  induction hi using Meets.recOn generalizing fuel fuel' with
  | behind i i' hi' hi =>
    have hwhole : s.mathEnd? past fuel i = none := by
      refine Option.eq_none_iff_forall_ne_some.2 fun r hr => ?_
      have hempty := e.empty r.1 (Nat.le_trans hi (of_mathEnd? hr).1) (hstop r hr)
      rw [isEmpty_of_mathEnd? hr] at hempty
      cases hempty
    have hown : s'.mathEnd? past' fuel' i' = none := by
      refine Option.eq_none_iff_forall_ne_some.2 fun r hr => ?_
      have hempty := e.empty' r.1 (Nat.le_trans hi' (of_mathEnd? hr).1)
      rw [isEmpty_of_mathEnd? hr] at hempty
      cases hempty
    rw [hwhole, hown]
    rfl
  | step k hk ih =>
    rw [mathEnd?_unfold hfuel] at hstop ⊢
    simp only [mathEnd?_unfold hfuel', e.body hk, hpast.le_iff hk]
    split
    · rfl
    · next hend =>
      rw [if_neg hend] at hstop
      split
      · rfl
      · next hclosing =>
        rw [hclosing] at hstop
        exact ih (by omega) (by omega) hstop

/-- A heading is underlined on the same line, if it is so before `stop` in the whole. -/
theorem underlined? (hstop : ∀ r ∈ s.underlined? past fuel i, r.1 < stop) :
    s.underlined? past fuel i = (s'.underlined? past' fuel' i').map fun r => (a + r.1, r.2) := by
  induction hi using Meets.recOn generalizing fuel fuel' with
  | behind i i' hi' hi =>
    have hwhole : s.underlined? past fuel i = none := by
      refine Option.eq_none_iff_forall_ne_some.2 fun r hr => ?_
      have hempty := e.empty r.1 (Nat.le_trans hi (of_underlined? hr).1) (hstop r hr)
      rw [(of_underlined? hr).2.1] at hempty
      cases hempty
    have hown : s'.underlined? past' fuel' i' = none := by
      refine Option.eq_none_iff_forall_ne_some.2 fun r hr => ?_
      have hempty := e.empty' r.1 (Nat.le_trans hi' (of_underlined? hr).1)
      rw [(of_underlined? hr).2.1] at hempty
      cases hempty
    rw [hwhole, hown]
    rfl
  | step k hk ih =>
    rw [underlined?_unfold hfuel] at hstop ⊢
    simp only [underlined?_unfold hfuel', e.body hk, e.isEmpty hk, e.isCode hk, e.isOutside hk,
      (e.same k hk).indent, e.interrupts _ hk hpast, hpast.decide_le hk]
    split
    · rfl
    · next hend =>
      rw [if_neg hend] at hstop
      split
      · next hcode =>
        rw [if_pos hcode] at hstop
        exact ih (by omega) (by omega) hstop
      · next hcode =>
        rw [if_neg hcode] at hstop
        split
        · rfl
        · next hunderline =>
          rw [hunderline] at hstop
          split
          · next hquote =>
            simp only [if_pos hquote] at hstop
            exact ih (by omega) (by omega) hstop
          · next hquote =>
            simp only [if_neg hquote] at hstop
            split
            · rfl
            · next hinterrupts =>
              rw [if_neg hinterrupts] at hstop
              exact ih (by omega) (by omega) hstop

/-- The rows of a table end at corresponding lines. -/
theorem rows (alignments : List (Option Alignment)) (filled : Int) :
    Meets a n (s.rows alignments past fuel filled i).2
      (s'.rows alignments past' fuel' filled i').2 := by
  induction hi using Meets.recOn generalizing fuel fuel' filled with
  | behind i i' hi' hi =>
    exact .behind (Nat.le_trans hi' (s'.le_rows ..)) (Nat.le_trans hi (s.le_rows ..))
  | step k hk ih =>
    simp only [rows_unfold hfuel, rows_unfold hfuel', e.body hk, e.isOutside hk, e.isCode hk,
      e.interrupts _ hk hpast, hpast.decide_le hk]
    split
    · exact .here hk
    · split
      · exact .here hk
      · exact ih (by omega) (by omega) _

/-- A quote ends at corresponding lines, and goes on as a paragraph in both or in neither. -/
theorem quoteLines (wasEmpty : Bool) :
    let r := (s.quoteLines past fuel wasEmpty i).2
    let r' := (s'.quoteLines past' fuel' wasEmpty i').2
    Meets a n r.1 r'.1 ∧ (r'.1 < n → r'.2 = r.2) := by
  induction hi using Meets.recOn generalizing fuel fuel' wasEmpty with
  | behind i i' hi' hi =>
    have hle := s.le_quoteLines past fuel wasEmpty i
    have hle' := s'.le_quoteLines past' fuel' wasEmpty i'
    exact ⟨.behind (Nat.le_trans hi' hle') (Nat.le_trans hi hle), fun h => absurd h (by omega)⟩
  | step k hk ih =>
    simp only [quoteLines_unfold hfuel, quoteLines_unfold hfuel', e.body hk, (e.same k hk).isEmpty,
      e.isOutside hk, (e.same k hk).quoteLine.isEmpty, e.interrupts _ hk hpast, hpast.decide_le hk]
    split
    · exact ⟨.here hk, fun _ => rfl⟩
    · split
      · exact ih (by omega) (by omega) _
      · split
        · exact ⟨.here hk, fun _ => rfl⟩
        · split
          · exact ⟨.here hk, fun _ => rfl⟩
          · exact ih (by omega) (by omega) _

end

/-- A paragraph ends at corresponding lines. -/
theorem paragraphEnd {i i' fuel fuel' : Nat} (hi : Meets a n i i') (hfuel : s.limit - i ≤ fuel)
    (hfuel' : s'.limit - i' ≤ fuel') :
    Meets a n (s.paragraphEnd fuel i) (s'.paragraphEnd fuel' i') := by
  have hlimit := e.limit
  induction hi using Meets.recOn generalizing fuel fuel' with
  | behind i i' hi' hi =>
    exact .behind (Nat.le_trans hi' (s'.le_paragraphEnd ..)) (Nat.le_trans hi (s.le_paragraphEnd ..))
  | step k hk ih =>
    simp only [paragraphEnd_unfold hfuel, paragraphEnd_unfold hfuel', e.isEmpty hk, e.isCode hk,
      (e.same k hk).indent, e.interrupts _ hk hlimit, hlimit.decide_le hk]
    split
    · exact .here hk
    · split
      · exact ih (by omega) (by omega)
      · split
        · exact .here hk
        · exact ih (by omega) (by omega)

/-! ## Display math -/

/-- The characters of lines of the excerpt are those of the lines in the whole. -/
theorem range_chars {first past : Nat} (h : past ≤ n) :
    (s'.range first past).map (·.chars) = (s.range (a + first) (a + past)).map (·.chars) := by
  have hlength : a + past - (a + first) = past - first := by omega
  simp only [range, List.map_map, hlength]
  refine List.map_congr_left fun k hk => ?_
  have hk : first + k < n := by
    have := List.mem_range.1 hk
    omega
  have hassoc : a + first + k = a + (first + k) := Nat.add_assoc ..
  simp only [Function.comp_apply, hassoc]
  exact (e.same _ hk).chars

/-- Display math that ends before `stop` has the same content and label, and ends at the same line.
-/
theorem math? {k past past' : Nat} (hk : k < n) (hpast : Meets a n past past')
    (hstop : ∀ r ∈ s.math? (a + k) past, r.2.2 ≤ stop) :
    s.math? (a + k) past = (s'.math? k past').map fun r => (r.1, r.2.1, a + r.2.2) := by
  have hfuel : past - (a + k + 1) ≤ past - (a + k) := Nat.sub_le_sub_left (Nat.le_succ _) _
  have hfuel' : past' - (k + 1) ≤ past' - k := Nat.sub_le_sub_left (Nat.le_succ _) _
  simp only [Scope.math?] at hstop ⊢
  rw [e.isCode hk, e.body hk]
  split
  · rfl
  · next hcode =>
    rw [if_neg hcode] at hstop
    split
    · next rest hbody =>
      simp only [hbody] at hstop ⊢
      split
      · rfl
      · next hclosing =>
        simp only [hclosing] at hstop
        split
        · rfl
        · next hincludes =>
          rw [if_neg hincludes] at hstop
          have hend := e.mathEnd? hpast (Meets.here hk).succ hfuel hfuel' fun r hr =>
            hstop _ (Option.mem_map_of_mem _ hr)
          rw [hend, Option.map_map, Option.map_map]
          refine Option.map_congr fun r hr => ?_
          have hlast : r.1 < n := Nat.lt_of_not_le fun hle => by
            have hempty := e.empty' r.1 hle
            rw [isEmpty_of_mathEnd? hr] at hempty
            cases hempty
          simp only [Function.comp_apply, e.range_chars (Nat.le_of_lt hlast), (e.same _ hlast).chars,
            Nat.add_assoc]
    · rfl

/-! ## What begins a block -/

/-- Two lines that are the same line look alike. -/
theorem alike {k past past' : Nat} (hk : k < n) (hpast : Meets a n past past') :
    Alike s s' (a + k) k past past' where
  table := e.table? hk hpast
  code := e.isCode hk
  fence := e.fence? hk
  quote := e.isQuote hk
  rule := e.isRule hk
  list := e.listItem? false hk
  html := e.rawHtml? hk
  heading := e.heading? hk
  definition := e.plain.reference?_eq_none _
  definition' := e.plain'.reference?_eq_none _

/-- A line begins the same in the excerpt and in the whole, unless what it begins in the whole goes
on after `stop`. -/
theorem startAt {k past past' : Nat} (hk : k < n) (hpast : Meets a n past past')
    (hstop : (s.startAt (a + k) past).EndsBy stop) :
    s.startAt (a + k) past = (s'.startAt k past').moved (a + ·) := by
  refine rel_startAt (R := fun start start' => start = start'.moved (a + ·))
    (C := Start.EndsBy stop) (e.alike hk hpast) (fun _ h => (h _).symm) (fun hstop => ?_)
    (fun hstop => ?_) hstop
  · rw [e.math? hk hpast hstop]
    cases s'.math? k past' with
    | none => exact .none
    | some r => exact .some rfl
  · have hunderlined := e.underlined? hpast (Meets.here hk).succ
      (Nat.sub_le_sub_left (Nat.le_succ _) past) (Nat.sub_le_sub_left (Nat.le_succ _) past')
      fun r hr => by
        rw [textStart, hr] at hstop
        exact hstop
    rw [textStart, textStart, hunderlined]
    cases s'.underlined? past' (past' - k) (k + 1) with
    | none => rfl
    | some r => rfl

end Excerpt
end Scope
end Markdown
end LiveMarkdown
