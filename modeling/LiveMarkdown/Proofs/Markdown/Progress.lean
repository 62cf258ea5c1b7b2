import LiveMarkdown.Proofs.Markdown.Start

/-!
# Every block takes a line

The loops of the block reader are counted by the lines that are left for them. They never run out,
since each block takes at least one line: what looks for the end of a block looks from the next line
on (`le_codeEnd` and those after it), the content of a container begins on the container's first
line and is never left of it (`isOutside_quoteScope`, `isOutside_itemScope`), and by induction on how
deep containers nest each reader that is given a line gets past it (`passes_reader`).
-/

namespace LiveMarkdown.Markdown

/-- Spaces at the front of a text only add to the column. -/
theorem le_leadingSpace (column : Nat) (t : Text) : column ≤ (leadingSpace column t).2 := by
  induction t generalizing column with
  | nil => exact Nat.le_refl column
  | cons c rest ih =>
    rw [leadingSpace]
    split
    · exact Nat.le_trans (Nat.le_add_right _ _) (ih _)
    · exact Nat.le_refl column

namespace Scope

variable (s : Scope)

/-! ## Loops -/

/-- Passing empty lines never goes back. -/
theorem le_skipEmpty (fuel i : Nat) : i ≤ s.skipEmpty fuel i := by
  induction fuel generalizing i with
  | zero => exact Nat.le_refl i
  | succ fuel ih =>
    rw [skipEmpty]
    split
    · exact Nat.le_of_succ_le (ih (i + 1))
    · exact Nat.le_refl i

/-- Empty lines are passed up to one that is not, or to the end. -/
theorem skipEmpty_stops {fuel i : Nat} (h : s.limit - i ≤ fuel) :
    s.limit ≤ s.skipEmpty fuel i ∨ s.isEmpty (s.skipEmpty fuel i) = false := by
  induction fuel generalizing i with
  | zero => exact .inl (by rw [skipEmpty]; omega)
  | succ fuel ih =>
    rw [skipEmpty]
    split
    · exact ih (by omega)
    · next hstop =>
      rw [Bool.and_eq_true, decide_eq_true_eq, not_and, Bool.not_eq_true] at hstop
      exact (Nat.lt_or_ge i s.limit).symm.imp id hstop

/-- A line that is not empty stops the passing of empty lines at once. -/
theorem skipEmpty_eq_self {fuel i : Nat} (h : s.isEmpty i = false) : s.skipEmpty fuel i = i := by
  cases fuel with
  | zero => rfl
  | succ fuel => rw [skipEmpty, h, Bool.and_false, if_neg Bool.false_ne_true]

/-- An empty line is passed. -/
theorem lt_skipEmpty {i : Nat} (hi : i < s.limit) (h : s.isEmpty i) :
    i < s.skipEmpty (s.limit - i) i := by
  obtain ⟨fuel, hfuel⟩ : ∃ fuel, s.limit - i = fuel + 1 := ⟨s.limit - i - 1, by omega⟩
  rw [hfuel, skipEmpty, if_pos (by rw [decide_eq_true hi, h]; rfl)]
  exact s.le_skipEmpty fuel (i + 1)

/-- The lines that are passed are empty. -/
theorem isEmpty_of_lt_skipEmpty {fuel i k : Nat} (hik : i ≤ k) (hk : k < s.skipEmpty fuel i) :
    s.isEmpty k := by
  induction fuel generalizing i with
  | zero => exact absurd hk (Nat.not_lt.2 hik)
  | succ fuel ih =>
    rw [skipEmpty] at hk
    split at hk
    · next hempty =>
      rw [Bool.and_eq_true] at hempty
      rcases Nat.eq_or_lt_of_le hik with rfl | hlt
      · exact hempty.2
      · exact ih hlt hk
    · exact absurd hk (Nat.not_lt.2 hik)

/-- Indented code reaches at least as far as it has reached before. -/
theorem le_codeEnd (past fuel : Nat) {reached i : Nat} (h : reached ≤ i) :
    reached ≤ s.codeEnd past fuel reached i := by
  induction fuel generalizing reached i with
  | zero => exact Nat.le_refl reached
  | succ fuel ih =>
    rw [codeEnd]
    split
    · exact Nat.le_refl reached
    · split
      · exact ih (Nat.le_succ_of_le h)
      · split
        · exact Nat.le_trans (Nat.le_succ_of_le h) (ih (Nat.le_refl (i + 1)))
        · exact Nat.le_refl reached

/-- The end of a fenced block lies at or after the line where it is looked for. -/
theorem le_fenceEnd (mark : Char) (length past fuel i : Nat) :
    i ≤ (s.fenceEnd mark length past fuel i).1 := by
  induction fuel generalizing i with
  | zero => exact Nat.le_refl i
  | succ fuel ih =>
    simp only [fenceEnd]
    split
    · exact Nat.le_refl i
    · split
      · exact Nat.le_refl i
      · split
        · exact Nat.le_refl i
        · split
          · exact Nat.le_refl i
          · exact Nat.le_of_succ_le (ih (i + 1))

/-- The end of a raw HTML block lies at or after the line where it is looked for. -/
theorem le_htmlEnd (e : RawHtml.BlockEnd) (past fuel i : Nat) : i ≤ s.htmlEnd e past fuel i := by
  induction fuel generalizing i with
  | zero => exact Nat.le_refl i
  | succ fuel ih =>
    simp only [htmlEnd]
    split
    · exact Nat.le_refl i
    · split
      · split
        · exact Nat.le_refl i
        · exact Nat.le_succ i
      · exact Nat.le_of_succ_le (ih (i + 1))

/-- A block of math takes at least its opening line. -/
theorem lt_of_math? {i past next : Nat} {content : Text} {label : Option Text}
    (h : s.math? i past = some (content, label, next)) : i < next := by
  simp only [math?] at h
  split at h
  · cases h
  · split at h
    · split at h
      · cases h
        exact Nat.lt_succ_self i
      · split at h
        · cases h
        · obtain ⟨⟨last, label', size⟩, hend, heq⟩ := Option.map_eq_some_iff.1 h
          cases heq
          exact Nat.lt_succ_of_le (Nat.le_of_succ_le (of_mathEnd? hend).1)
    · cases h

/-- The end of a paragraph lies at or after the line where it is looked for. -/
theorem le_paragraphEnd (fuel i : Nat) : i ≤ s.paragraphEnd fuel i := by
  induction fuel generalizing i with
  | zero => exact Nat.le_refl i
  | succ fuel ih =>
    rw [paragraphEnd]
    split
    · exact Nat.le_refl i
    · split
      · exact Nat.le_of_succ_le (ih (i + 1))
      · split
        · exact Nat.le_refl i
        · exact Nat.le_of_succ_le (ih (i + 1))

/-- The rows of a table end at or after the line where they are looked for. -/
theorem le_rows (alignments : List (Option Alignment)) (past fuel : Nat) (filled : Int) (i : Nat) :
    i ≤ (s.rows alignments past fuel filled i).2 := by
  induction fuel generalizing filled i with
  | zero => exact Nat.le_refl i
  | succ fuel ih =>
    simp only [rows]
    split
    · exact Nat.le_refl i
    · split
      · exact Nat.le_refl i
      · exact Nat.le_of_succ_le (ih _ (i + 1))

/-- The lines of a quote end at or after the line where they are looked for. -/
theorem le_quoteLines (past fuel : Nat) (wasEmpty : Bool) (i : Nat) :
    i ≤ (s.quoteLines past fuel wasEmpty i).2.1 := by
  induction fuel generalizing wasEmpty i with
  | zero => exact Nat.le_refl i
  | succ fuel ih =>
    simp only [quoteLines]
    split
    · exact Nat.le_refl i
    · split
      · exact Nat.le_of_succ_le (ih _ (i + 1))
      · split
        · exact Nat.le_refl i
        · split
          · exact Nat.le_refl i
          · exact Nat.le_of_succ_le (ih _ (i + 1))

end Scope

/-! ## Definitions -/

namespace Unread

/-- Taking one more line does not go back. -/
theorem le_next_more (s : Scope) (u : Unread) : u.next ≤ (u.more s).next := by
  unfold Unread.more
  split
  · exact Nat.le_succ u.next
  · exact Nat.le_refl u.next

/-- Passing blanks in a definition does not go back. -/
theorem le_next_skipSpace (s : Scope) (fuel : Nat) (text : Text) (next : Nat) :
    next ≤ (skipSpace s fuel ⟨text, next⟩).next := by
  induction fuel generalizing text next with
  | zero => exact Nat.le_refl next
  | succ fuel ih =>
    rw [skipSpace]
    split
    · exact Nat.le_refl next
    · split
      · exact Nat.le_trans (le_next_more s ⟨text, next⟩) (ih _ _)
      · split
        · exact ih _ next
        · exact Nat.le_refl next

/-- The name in a definition ends at or after the line where it begins. -/
theorem le_next_of_label? {s : Scope} {fuel : Nat} {taken label : Text} {u u' : Unread}
    (h : u.label? s fuel taken = some (label, u')) : u.next ≤ u'.next := by
  induction fuel generalizing taken u with
  | zero => cases h
  | succ fuel ih =>
    have hmore := u.le_next_more s
    have hnext {next : Nat} {text taken : Text} (hle : u.next ≤ next)
        (h : label? s fuel taken ⟨text, next⟩ = some (label, u')) : u.next ≤ u'.next :=
      Nat.le_trans hle (ih h)
    rw [label?] at h
    split at h
    · cases h
    · cases h
    · cases h
      exact Nat.le_refl _
    · exact hnext hmore h
    · exact hnext hmore h
    · exact hnext (Nat.le_refl _) h
    · exact hnext (Nat.le_refl _) h

/-- The title in a definition ends at or after the line where it begins. -/
theorem le_next_of_finishTitle {s : Scope} {fuel next : Nat} {t : Title} {title : Text} {u : Unread}
    (h : finishTitle s fuel t next = some (title, u)) : next ≤ u.next := by
  induction fuel generalizing t next with
  | zero =>
    cases t with
    | closed => cases h; exact Nat.le_refl _
    | unfinished => cases h
    | none => cases h
  | succ fuel ih =>
    cases t with
    | closed => cases h; exact Nat.le_refl _
    | none => cases h
    | unfinished before mark =>
      rw [finishTitle] at h
      split at h
      · cases h
      · exact Nat.le_of_succ_le (ih h)

end Unread

namespace Scope

/-- A definition takes at least one line. -/
theorem lt_of_reference? {s : Scope} {i past : Nat} {name : Text} {r : Reference}
    (h : s.reference? i = some (name, r, past)) : i < past := by
  simp only [reference?] at h
  split at h
  · cases h
  · split at h
    · simp only [bind, Option.bind_eq_some_iff] at h
      obtain ⟨⟨label, u⟩, hlabel, h⟩ := h
      have hu : i + 1 ≤ u.next := Unread.le_next_of_label? hlabel
      split at h
      · simp only [Option.bind_some, Option.bind_eq_some_iff] at h
        obtain ⟨⟨destination, tail⟩, hdestination, h⟩ := h
        split at h
        · cases h
        · -- the line that comes after the destination, and after the space that follows it
          generalize hfuel :
            (s.range i s.limit).foldl (fun n l => n + l.chars.length + 1) 1 = fuel at h
          generalize hplain : Unread.skipSpace s fuel ⟨_, u.next⟩ = plain at h
          generalize hspaced : Unread.skipSpace s fuel ⟨_, plain.next⟩ = spaced at h
          have hplain : u.next ≤ plain.next :=
            hplain ▸ Unread.le_next_skipSpace s fuel _ u.next
          have hspaced : plain.next ≤ spaced.next :=
            hspaced ▸ Unread.le_next_skipSpace s fuel _ plain.next
          split at h
          · next title u' htitled =>
            have hu' : spaced.next ≤ u'.next := by
              split at htitled
              · split at htitled
                · cases htitled
                  exact Nat.le_refl _
                · cases htitled
              · exact Unread.le_next_of_finishTitle htitled
            split at h
            · split at h
              · cases h
              · cases h
                omega
            · split at h
              · split at h
                · cases h
                · cases h
                  omega
              · cases h
          · split at h
            · split at h
              · cases h
              · cases h
                omega
            · cases h
      · cases h
    · cases h

end Scope

/-! ## Containers -/

namespace Scope

/-- A line of the array after another one is set: the new one at its place, if there is such a
place. -/
theorem getD_setIfInBounds (lines : Array Line) (i k : Nat) (l : Line) :
    (lines.setIfInBounds i l).getD k default =
      if i = k ∧ k < lines.size then l else lines.getD k default := by
  simp only [Array.getD_eq_getD_getElem?, Array.getElem?_setIfInBounds]
  by_cases hik : i = k
  · subst hik
    by_cases hk : i < lines.size
    · simp [hk]
    · simp [hk]
  · simp [hik]

/-- Replacing lines keeps their number. -/
theorem size_replaceLines (lines : Array Line) (i : Nat) (ls : List Line) :
    (replaceLines lines i ls).size = lines.size := by
  induction ls generalizing lines i with
  | nil => rfl
  | cons l more ih => rw [replaceLines, ih, Array.size_setIfInBounds]

/-- The lines that are there are replaced by those that are given for them. -/
theorem getD_replaceLines (lines : Array Line) (i k : Nat) (ls : List Line) :
    (replaceLines lines i ls).getD k default =
      if (i ≤ k ∧ k < i + ls.length) ∧ k < lines.size then ls.getD (k - i) default
      else lines.getD k default := by
  induction ls generalizing lines i with
  | nil =>
    rw [replaceLines, if_neg]
    rintro ⟨⟨hik, hki⟩, -⟩
    exact absurd hki (by simpa using hik)
  | cons l more ih =>
    rw [replaceLines, ih, Array.size_setIfInBounds, getD_setIfInBounds, List.length_cons]
    rcases Nat.lt_trichotomy k i with hlt | rfl | hgt
    · rw [if_neg (by omega), if_neg (by omega), if_neg (by omega)]
    · rw [if_neg (by omega), Nat.sub_self, List.getD_cons_zero]
      by_cases hk : k < lines.size
      · rw [if_pos ⟨rfl, hk⟩, if_pos ⟨⟨Nat.le_refl k, by omega⟩, hk⟩]
      · rw [if_neg fun h => hk h.2, if_neg fun h => hk h.2]
    · obtain ⟨j, rfl⟩ : ∃ j, k = i + 1 + j := ⟨k - i - 1, by omega⟩
      have hj : i + 1 + j - i = j + 1 := by omega
      rw [if_neg fun h : i = i + 1 + j ∧ _ => absurd h.1 (by omega), hj, List.getD_cons_succ,
        Nat.add_sub_cancel_left]
      by_cases hin : (i + 1 ≤ i + 1 + j ∧ i + 1 + j < i + 1 + more.length) ∧ i + 1 + j < lines.size
      · rw [if_pos hin, if_pos (by omega)]
      · rw [if_neg hin, if_neg (by omega)]

/-- The lines that the quote at line `i` takes, as it sees them, the line after them, and whether a
block interrupts the quote there. -/
def quoteTaken (s : Scope) (i past : Nat) : List Line × Nat × Bool :=
  let first := quoteLine (s.line i)
  let (more, stop, interrupted) := s.quoteLines past (past - i) first.isEmpty (i + 1)
  (first :: more, stop, interrupted)

/-- The scope of the quote at line `i`, which takes these lines. -/
def quoteScope (s : Scope) (i : Nat) : List Line × Nat × Bool → Scope
  | (taken, stop, interrupted) =>
    let lines := replaceLines s.lines i taken
    let lines :=
      if interrupted then
        lines.setIfInBounds stop { s.line stop with indent := (s.line stop).indent - s.indent }
      else lines
    { s with lines, indent := 0, limit := if interrupted then stop else s.limit }

/-- What is read in a quote, and the tokens around it. -/
theorem quote_eq (read : Reader) (s : Scope) (i past : Nat) (refs : References) :
    s.quote read i past refs =
      let taken := s.quoteTaken i past
      let r := read (s.quoteScope i taken) i taken.2.1 refs
      { r with tokens :=
          { kind := .opening .blockquote, span := some ⟨i, r.next⟩ } :: r.tokens ++
            [{ kind := .closing .blockquote }] } := rfl

/-- A quote takes one line after the other. -/
theorem quoteLines_stop (s : Scope) (past fuel : Nat) (wasEmpty : Bool) (i : Nat) :
    (s.quoteLines past fuel wasEmpty i).2.1 = i + (s.quoteLines past fuel wasEmpty i).1.length := by
  induction fuel generalizing wasEmpty i with
  | zero => rfl
  | succ fuel ih =>
    simp only [quoteLines]
    split
    · rfl
    · split
      · rw [ih, List.length_cons]
        omega
      · split
        · rfl
        · split
          · rfl
          · rw [ih, List.length_cons]
            omega

/-- A quote ends with its container at the latest. -/
theorem quoteLines_le (s : Scope) {past : Nat} (fuel : Nat) (wasEmpty : Bool) {i : Nat}
    (h : i ≤ past) : (s.quoteLines past fuel wasEmpty i).2.1 ≤ past := by
  induction fuel generalizing wasEmpty i with
  | zero => exact h
  | succ fuel ih =>
    simp only [quoteLines]
    split
    · exact h
    · next hcond =>
      have hi : i + 1 ≤ past := by
        rw [Bool.or_eq_true, decide_eq_true_eq, not_or] at hcond
        omega
      split
      · exact ih _ hi
      · split
        · exact h
        · split
          · exact h
          · exact ih _ hi

/-- A quote stops as many lines after its first one as it takes. -/
theorem quoteTaken_stop (s : Scope) (i past : Nat) :
    (s.quoteTaken i past).2.1 = i + (s.quoteTaken i past).1.length := by
  simp only [quoteTaken, quoteLines_stop, List.length_cons]
  omega

/-- A quote takes its first line. -/
theorem lt_quoteTaken (s : Scope) (i past : Nat) : i < (s.quoteTaken i past).2.1 := by
  simp only [quoteTaken, quoteLines_stop]
  omega

/-- A quote stops at the end of its container at the latest. -/
theorem quoteTaken_le (s : Scope) {i past : Nat} (h : i < past) : (s.quoteTaken i past).2.1 ≤ past :=
  s.quoteLines_le _ _ h

/-- An interrupted quote is limited to the lines it takes, any other as its container is. -/
theorem limit_quoteScope (s : Scope) (i : Nat) (taken : List Line × Nat × Bool) :
    (s.quoteScope i taken).limit = if taken.2.2 then taken.2.1 else s.limit := by
  obtain ⟨ls, stop, interrupted⟩ := taken
  rfl

/-- The lines that a quote takes lie within the limit of the quote's own scope. -/
theorem quoteTaken_le_limit {s : Scope} {i past : Nat} (hi : i < past) (hpast : past ≤ s.limit) :
    (s.quoteTaken i past).2.1 ≤ (s.quoteScope i (s.quoteTaken i past)).limit := by
  have hle := s.quoteTaken_le hi
  rw [limit_quoteScope]
  split
  · exact Nat.le_refl _
  · exact Nat.le_trans hle hpast

/-- The lines of a quote as it sees them, and the others as they are around it. -/
theorem line_quoteScope (s : Scope) {i : Nat} {taken : List Line × Nat × Bool}
    (hstop : taken.2.1 = i + taken.1.length) (k : Nat) :
    (s.quoteScope i taken).line k =
      if (i ≤ k ∧ k < taken.2.1) ∧ k < s.lines.size then taken.1.getD (k - i) default
      else if taken.2.2 ∧ k = taken.2.1 ∧ k < s.lines.size then
        { s.line k with indent := (s.line k).indent - s.indent }
      else s.line k := by
  obtain ⟨ls, stop, interrupted⟩ := taken
  have hreplaced := getD_replaceLines s.lines i k ls
  rw [← show stop = i + ls.length from hstop] at hreplaced
  cases interrupted with
  | false =>
    rw [if_neg (c := false = true ∧ _) fun h => Bool.false_ne_true h.1]
    exact hreplaced
  | true =>
    simp only [quoteScope, line, if_true, getD_setIfInBounds, size_replaceLines, true_and]
    rw [hreplaced]
    by_cases hk : stop = k ∧ k < s.lines.size
    · obtain ⟨rfl, hk⟩ := hk
      rw [if_pos ⟨rfl, hk⟩, if_neg (by omega), if_pos ⟨rfl, hk⟩]
    · rw [if_neg hk, if_neg (c := k = stop ∧ _) fun h => hk ⟨h.1.symm, h.2⟩]

/-- A quote's own first line is never left of its content. -/
theorem indent_quoteLine_nonneg (l : Line) : 0 ≤ (quoteLine l).indent := by
  simp only [quoteLine]
  exact Int.sub_nonneg_of_le (Int.ofNat_le.2 (le_leadingSpace _ _))

/-- Past the lines there are, a line reads as an empty one. -/
theorem line_eq_default {s : Scope} {i : Nat} (h : s.lines.size ≤ i) : s.line i = default := by
  rw [line, Array.getD_eq_getD_getElem?, Array.getElem?_eq_none h]
  rfl

/-- The content on a quote's own first line is not left of the quote's content. -/
theorem isOutside_quoteScope (s : Scope) (i past : Nat) :
    (s.quoteScope i (s.quoteTaken i past)).isOutside i = false := by
  have hindent : 0 ≤ ((s.quoteScope i (s.quoteTaken i past)).line i).indent := by
    have hlt := s.lt_quoteTaken i past
    rw [line_quoteScope s (s.quoteTaken_stop i past)]
    by_cases hi : i < s.lines.size
    · rw [if_pos ⟨⟨Nat.le_refl i, hlt⟩, hi⟩, Nat.sub_self]
      exact indent_quoteLine_nonneg (s.line i)
    · rw [if_neg fun h => hi h.2, if_neg fun h => hi h.2.2, line_eq_default (Nat.le_of_not_lt hi)]
      exact Int.le_refl 0
  rw [isOutside, decide_eq_false_iff_not, Int.not_lt]
  exact hindent

end Scope

/-! ## Every reader gets past its first line -/

/-- A reader never goes back, and it gets past its first line if it is given one, unless that line
has content left of the container's. -/
structure Reader.Passes (read : Reader) : Prop where
  le_next {s : Scope} (first : Nat) {past : Nat} (refs : References) : past ≤ s.limit →
    first ≤ (read s first past refs).next
  lt_next {s : Scope} {first past : Nat} (refs : References) : first < past → past ≤ s.limit →
    (s.isEmpty first = false → s.isOutside first = false) → first < (read s first past refs).next
  /-- It ends at the end, or at a line that is not empty. -/
  rests {s : Scope} {past : Nat} (first : Nat) (refs : References) : past ≤ s.limit →
    past ≤ (read s first past refs).next ∨ s.isEmpty (read s first past refs).next = false
  /-- It reads nothing of lines that are empty. -/
  silent {s : Scope} {first past stop : Nat} (refs : References) : past ≤ s.limit →
    (∀ j, first ≤ j → j < stop → s.isEmpty j) → (read s first past refs).next ≤ stop →
    (read s first past refs).tokens = []

namespace Scope

/-- What is read of the item that line `i` begins. -/
def readItem (read : Reader) (s : Scope) (past : Nat) (mark : ItemMark) (i : Nat)
    (refs : References) : Parsed :=
  let inner := s.itemScope i mark
  if inner.isEmpty i && inner.isEmpty (i + 1) then { next := min (i + 2) past, refs }
  else read inner i past refs

/-- The mark of the item at line `i`, where an item with the given mark has ended, if it belongs to
the same list. -/
def nextItem? (s : Scope) (past : Nat) (mark : ItemMark) (i : Nat) : Option ItemMark :=
  if past ≤ i || s.isOutside i || s.isCode i || s.interrupts .list i past then none
  else (itemMark? (s.line i).body).bind fun m =>
    if m.char = mark.char && m.number.isSome = mark.number.isSome then some m else none

/-- One item of a list is read, and then, if another item follows, the items after it. -/
theorem items_succ (read : Reader) (s : Scope) (past fuel : Nat) (wasLoose : Bool) (mark : ItemMark)
    (i : Nat) (refs : References) :
    s.items read past (fuel + 1) wasLoose mark i refs =
      let r := s.readItem read past mark i refs
      let tight := r.tight && !wasLoose
      let isLoose := 1 < r.next - i && (s.itemScope i mark).isEmpty (r.next - 1)
      match s.nextItem? past mark r.next with
      | none => ([(r.tokens, (⟨i, r.next⟩ : Span))], r.next, tight, r.refs)
      | some m =>
        let (more, next, restTight, refs) := s.items read past fuel isLoose m r.next r.refs
        ((r.tokens, (⟨i, r.next⟩ : Span)) :: more, next, tight && restTight, refs) := rfl

/-- The lines as an item sees them: only its own first line has changed, its mark being taken off.
-/
theorem line_itemScope (s : Scope) (i : Nat) (mark : ItemMark) (k : Nat) :
    (s.itemScope i mark).line k =
      if i = k ∧ k < s.lines.size then
        { s.line i with
          shift := (s.line i).shift + mark.length + (itemSpace (s.line i) mark).1
          indent := (itemSpace (s.line i) mark).2 }
      else s.line k :=
  getD_setIfInBounds s.lines i k _

/-- The content of an item stands at least the item's mark to the right. -/
theorem le_itemSpace (l : Line) (mark : ItemMark) :
    l.indent.toNat + mark.length ≤ (itemSpace l mark).2 := by
  have hle := le_leadingSpace (l.indent.toNat + mark.length + l.column) (l.body.drop mark.length)
  simp only [itemSpace]
  omega

/-- The content on an item's own first line is not left of the item's content. -/
theorem isOutside_itemScope {s : Scope} {i : Nat} {mark : ItemMark}
    (h : (s.itemScope i mark).isEmpty i = false) : (s.itemScope i mark).isOutside i = false := by
  have hline := s.line_itemScope i mark i
  by_cases hi : i < s.lines.size
  · rw [if_pos ⟨rfl, hi⟩] at hline
    rw [isEmpty, hline, Line.isEmpty, decide_eq_false_iff_not] at h
    have hle := le_itemSpace (s.line i) mark
    have hindent : (s.itemScope i mark).indent ≤ (itemSpace (s.line i) mark).2 := by
      simp only [itemScope, if_neg h]
      split <;> omega
    rw [isOutside, hline, decide_eq_false_iff_not, Int.not_lt]
    exact Int.ofNat_le.2 hindent
  · rw [if_neg fun h => hi h.2] at hline
    rw [isEmpty, hline, line_eq_default (Nat.le_of_not_lt hi)] at h
    cases h

/-- An item only follows on a line of the container. -/
theorem lt_of_nextItem? {s : Scope} {past i : Nat} {mark m : ItemMark}
    (h : s.nextItem? past mark i = some m) : i < past := by
  rw [nextItem?] at h
  split at h
  · cases h
  · next hcond =>
    simp only [Bool.or_eq_true, decide_eq_true_eq, not_or] at hcond
    exact Nat.lt_of_not_le hcond.1.1.1

section

variable {read : Reader} (hread : read.Passes)
include hread

/-- Reading an item gets past the item's first line. -/
theorem lt_next_readItem {s : Scope} {past : Nat} (mark : ItemMark) {i : Nat} (refs : References)
    (hi : i < past) (hpast : past ≤ s.limit) : i < (s.readItem read past mark i refs).next := by
  simp only [readItem]
  split
  · exact Nat.lt_min.2 ⟨by omega, hi⟩
  · exact hread.lt_next refs hi hpast isOutside_itemScope

/-- Reading an item does not go back. -/
theorem le_next_readItem {s : Scope} {past : Nat} (mark : ItemMark) {i : Nat} (refs : References)
    (hi : i ≤ past) (hpast : past ≤ s.limit) : i ≤ (s.readItem read past mark i refs).next := by
  simp only [readItem]
  split
  · exact Nat.le_min.2 ⟨by omega, hi⟩
  · exact hread.le_next i refs hpast

/-- Reading the items of a list does not go back. -/
theorem le_items {s : Scope} {past : Nat} (hpast : past ≤ s.limit) (fuel : Nat) (wasLoose : Bool)
    (mark : ItemMark) {i : Nat} (refs : References) (hi : i ≤ past) :
    i ≤ (s.items read past fuel wasLoose mark i refs).2.1 := by
  induction fuel generalizing wasLoose mark i refs with
  | zero => exact Nat.le_refl i
  | succ fuel ih =>
    have hle := le_next_readItem hread mark refs hi hpast
    rw [items_succ]
    simp only
    split
    · exact hle
    · next m hm => exact Nat.le_trans hle (ih _ m _ (Nat.le_of_lt (lt_of_nextItem? hm)))

/-- Reading the items of a list gets past the first of them. -/
theorem lt_items {s : Scope} {past : Nat} (fuel : Nat) (wasLoose : Bool) (mark : ItemMark) {i : Nat}
    (refs : References) (hi : i < past) (hpast : past ≤ s.limit) :
    i < (s.items read past (fuel + 1) wasLoose mark i refs).2.1 := by
  have hlt := lt_next_readItem hread mark refs hi hpast
  rw [items_succ]
  simp only
  split
  · exact hlt
  · next m hm =>
    exact Nat.lt_of_lt_of_le hlt
      (le_items hread hpast fuel _ m _ (Nat.le_of_lt (lt_of_nextItem? hm)))

/-- A list takes at least one line. -/
theorem lt_next_list {s : Scope} (mark : ItemMark) {i past : Nat} (refs : References)
    (hi : i < past) (hpast : past ≤ s.limit) : i < (s.list read mark i past refs).next := by
  obtain ⟨fuel, hfuel⟩ : ∃ fuel, past - i = fuel + 1 := ⟨past - i - 1, by omega⟩
  have hlt := lt_items hread fuel false mark refs hi hpast
  rw [← hfuel] at hlt
  exact hlt

/-- A quote takes at least one line. -/
theorem lt_next_quote {s : Scope} {i past : Nat} (refs : References) (hi : i < past)
    (hpast : past ≤ s.limit) : i < (s.quote read i past refs).next := by
  rw [quote_eq]
  exact hread.lt_next refs (s.lt_quoteTaken i past) (quoteTaken_le_limit hi hpast)
    fun _ => s.isOutside_quoteScope i past

end

/-- A table takes at least one line. -/
theorem lt_next_tableTokens (s : Scope) (i past : Nat) (header : List Text)
    (alignments : List (Option Alignment)) : i < (s.tableTokens i past header alignments).2 := by
  have hle := s.le_rows alignments past (past - i) 0 (i + 2)
  simp only [tableTokens]
  omega

section

variable {readQuote readItem : Reader} (hquote : readQuote.Passes) (hitem : readItem.Passes)
include hquote hitem

/-- Every block takes at least one line: the loops of the block reader count on nothing else. -/
theorem lt_next_block {s : Scope} {i past : Nat} (refs : References) (hi : i < past)
    (hpast : past ≤ s.limit) : i < (s.block readQuote readItem i past refs).next := by
  obtain ⟨start, hbegins, hblock⟩ := s.exists_begins readQuote readItem i past refs
  rw [hblock]
  cases start with
  | table header alignments => exact s.lt_next_tableTokens i past header alignments
  | code => exact s.le_codeEnd past (past - i) (Nat.le_refl (i + 1))
  | math => exact s.lt_of_math? hbegins
  | fence mark length info =>
    have hle := s.le_fenceEnd mark length past (past - i) (i + 1)
    simp only [blockFrom]
    split
    · exact Nat.lt_succ_of_le (Nat.le_of_succ_le hle)
    · exact hle
  | quote => exact lt_next_quote hquote refs hi hpast
  | list mark => exact lt_next_list hitem mark refs hi hpast
  | definition => exact lt_of_reference? hbegins
  | html ending =>
    simp only [blockFrom]
    split
    · exact Nat.lt_succ_self i
    · exact s.le_htmlEnd ending past (past - i) (i + 1)
  | underlined => exact Nat.lt_succ_of_le (Nat.le_of_succ_le (of_underlined? hbegins).1)
  | rule | heading => exact Nat.lt_succ_self i
  | paragraph => exact s.le_paragraphEnd (s.limit - i) (i + 1)

end

/-- The line after a block that ends at line `i`, and after an empty line there. -/
def pastGap (s : Scope) (past i : Nat) : Nat := if i < past && s.isEmpty i then i + 1 else i

/-- Passing a gap does not go back. -/
theorem le_pastGap (s : Scope) (past i : Nat) : i ≤ s.pastGap past i := by
  rw [pastGap]
  split
  · exact Nat.le_succ i
  · exact Nat.le_refl i

/-- The lines of a gap are empty. -/
theorem isEmpty_of_lt_pastGap {s : Scope} {past i k : Nat} (hik : i ≤ k)
    (hk : k < s.pastGap past i) :
    s.isEmpty k := by
  rw [pastGap] at hk
  split at hk
  · next hempty =>
    rw [Bool.and_eq_true] at hempty
    have hki : k = i := by omega
    exact hki ▸ hempty.2
  · exact absurd hk (Nat.not_lt.2 hik)

/-- One turn of the block loop: a block at the next line that is not empty, and then what follows
it. -/
theorem blocks_succ (readQuote readItem : Reader) (s : Scope) (past fuel : Nat) (hasGap tight : Bool)
    (i : Nat) (refs : References) :
    s.blocks readQuote readItem past (fuel + 1) hasGap tight i refs =
      let j := s.skipEmpty (s.limit - i) i
      if past ≤ j || s.isOutside j then { next := j, tight, refs }
      else
        let b := s.block readQuote readItem j past refs
        let gapBefore := b.next - 1 < past && s.isEmpty (b.next - 1)
        let gapAfter := b.next < past && s.isEmpty b.next
        let next := s.pastGap past b.next
        if past ≤ next then { tokens := b.tokens, next, tight := !hasGap, refs := b.refs }
        else
          let r := s.blocks readQuote readItem past fuel (hasGap || gapBefore || gapAfter) (!hasGap)
            next b.refs
          { r with tokens := b.tokens ++ r.tokens } := rfl

/-- What is read after a block, when the line that comes next is known. -/
def blocksAfter (readQuote readItem : Reader) (s : Scope) (past fuel : Nat) (hasGap tight : Bool)
    (next : Nat) (refs : References) : Parsed :=
  if past ≤ next then { next, tight, refs }
  else s.blocks readQuote readItem past fuel hasGap tight next refs

/-- How a container is read on from line `i`, when no empty line is left before that: nothing is
left for the container, or there is one block and what comes after it. -/
inductive Step (readQuote readItem : Reader) (s : Scope) (past fuel i : Nat) (refs : References)
    (r : Parsed) : Prop
  | stop (hend : past ≤ i ∨ s.isOutside i) (htokens : r.tokens = []) (hnext : r.next = i)
  | more (b rest : Parsed) (hasGap tight : Bool) (hi : i < past) (hin : s.isOutside i = false)
      (hb : s.block readQuote readItem i past refs = b)
      (hrest : s.blocksAfter readQuote readItem past fuel hasGap tight (s.pastGap past b.next)
        b.refs = rest)
      (htokens : r.tokens = b.tokens ++ rest.tokens) (hnext : r.next = rest.next)

/-- One turn of the block loop is a step: it stops, or it reads one block and goes on after it. -/
theorem step_blocks (readQuote readItem : Reader) (s : Scope) (past fuel : Nat) (hasGap tight : Bool)
    (i : Nat) (refs : References) :
    Step readQuote readItem s past fuel (s.skipEmpty (s.limit - i) i) refs
      (s.blocks readQuote readItem past (fuel + 1) hasGap tight i refs) := by
  rw [blocks_succ]
  simp only
  split
  · next hend =>
    rw [Bool.or_eq_true, decide_eq_true_eq] at hend
    exact .stop hend rfl rfl
  · next hmore =>
    rw [Bool.or_eq_true, decide_eq_true_eq, not_or, Nat.not_le, Bool.not_eq_true] at hmore
    split
    · next hlast =>
      exact .more _ _ true true hmore.1 hmore.2 rfl (if_pos hlast) (List.append_nil _).symm rfl
    · next hnext => exact .more _ _ _ _ hmore.1 hmore.2 rfl (if_neg hnext) rfl rfl

/-- If nothing is read of lines, the first of them is empty, and it is passed. -/
theorem lt_skipEmpty_of_stop {s : Scope} {first past : Nat} (hfirst : first < past)
    (hpast : past ≤ s.limit) (hin : s.isEmpty first = false → s.isOutside first = false)
    (hstop : past ≤ s.skipEmpty (s.limit - first) first ∨
      s.isOutside (s.skipEmpty (s.limit - first) first)) :
    first < s.skipEmpty (s.limit - first) first := by
  cases hempty : s.isEmpty first with
  | true => exact s.lt_skipEmpty (Nat.lt_of_lt_of_le hfirst hpast) hempty
  | false =>
    rw [s.skipEmpty_eq_self hempty, hin hempty] at hstop
    exact absurd hstop (by simpa using hfirst)

section

variable {readQuote readItem : Reader} (hquote : readQuote.Passes) (hitem : readItem.Passes)
  {s : Scope} {past : Nat} (hpast : past ≤ s.limit)
include hquote hitem hpast

/-- Reading blocks does not go back. -/
theorem le_next_blocks (fuel : Nat) (hasGap tight : Bool) (i : Nat) (refs : References) :
    i ≤ (s.blocks readQuote readItem past fuel hasGap tight i refs).next := by
  induction fuel generalizing hasGap tight i refs with
  | zero => exact Nat.le_refl i
  | succ fuel ih =>
    refine Nat.le_trans (s.le_skipEmpty (s.limit - i) i) ?_
    have hstep := step_blocks readQuote readItem s past fuel hasGap tight i refs
    generalize s.blocks readQuote readItem past (fuel + 1) hasGap tight i refs = r at hstep ⊢
    generalize s.skipEmpty (s.limit - i) i = j at hstep ⊢
    cases hstep with
    | stop _ _ hnext => exact Nat.le_of_eq hnext.symm
    | more b rest hasGap tight hj _ hb hrest _ hnext =>
      have hlt := hb ▸ lt_next_block hquote hitem refs hj hpast
      have hgap := s.le_pastGap past b.next
      have hle : s.pastGap past b.next ≤ rest.next := by
        rw [← hrest, blocksAfter]
        split
        · exact Nat.le_refl _
        · exact ih ..
      omega

/-- Reading on after a block does not go back. -/
theorem le_next_blocksAfter (fuel : Nat) (hasGap tight : Bool) (i : Nat) (refs : References) :
    i ≤ (s.blocksAfter readQuote readItem past fuel hasGap tight i refs).next := by
  rw [blocksAfter]
  split
  · exact Nat.le_refl i
  · exact le_next_blocks hquote hitem hpast ..

/-- Nothing is read, or the reader gets past the line where a block begins. -/
theorem Step.lt_next {fuel i : Nat} {refs : References} {r : Parsed}
    (h : Step readQuote readItem s past fuel i refs r) :
    ((past ≤ i ∨ s.isOutside i) ∧ r.tokens = [] ∧ r.next = i) ∨ (i < past ∧ i < r.next) := by
  cases h with
  | stop hend htokens hnext => exact .inl ⟨hend, htokens, hnext⟩
  | more b rest hasGap tight hi hin hb hrest htokens hnext =>
    have hlt := hb ▸ lt_next_block hquote hitem refs hi hpast
    have hgap := s.le_pastGap past b.next
    have hle := hrest ▸
      le_next_blocksAfter hquote hitem hpast fuel hasGap tight (s.pastGap past b.next) b.refs
    exact .inr ⟨hi, by omega⟩

/-- Nothing is read, if the reader stays before a line up to which all lines are empty. -/
theorem Step.silent {fuel i stop : Nat} {refs : References} {r : Parsed}
    (h : Step readQuote readItem s past fuel i refs r)
    (hstops : s.limit ≤ i ∨ s.isEmpty i = false) (hempty : i < stop → s.isEmpty i)
    (hstop : r.next ≤ stop) : r.tokens = [] ∧ r.next = i := by
  rcases h.lt_next hquote hitem hpast with hnone | ⟨hlt, hnext⟩
  · exact hnone.2
  · have hfilled := hstops.resolve_left (by omega)
    rw [hempty (by omega)] at hfilled
    cases hfilled

/-- Of lines that are empty nothing is read. -/
theorem silent_blocks {fuel : Nat} {hasGap tight : Bool} {i stop : Nat} {refs : References}
    (hempty : ∀ j, i ≤ j → j < stop → s.isEmpty j)
    (hstop : (s.blocks readQuote readItem past fuel hasGap tight i refs).next ≤ stop) :
    (s.blocks readQuote readItem past fuel hasGap tight i refs).tokens = [] := by
  cases fuel with
  | zero => rfl
  | succ fuel =>
    have hstep := step_blocks readQuote readItem s past fuel hasGap tight i refs
    have hstops := s.skipEmpty_stops (Nat.le_refl (s.limit - i))
    exact (hstep.silent hquote hitem hpast hstops (hempty _ (s.le_skipEmpty ..)) hstop).1

/-- Of empty lines after a block nothing is read. -/
theorem silent_blocksAfter {fuel : Nat} {hasGap tight : Bool} {i stop : Nat} {refs : References}
    (hempty : ∀ j, i ≤ j → j < stop → s.isEmpty j)
    (hstop : (s.blocksAfter readQuote readItem past fuel hasGap tight i refs).next ≤ stop) :
    (s.blocksAfter readQuote readItem past fuel hasGap tight i refs).tokens = [] := by
  rw [blocksAfter] at hstop ⊢
  split
  · rfl
  · next hmore =>
    rw [if_neg hmore] at hstop
    exact silent_blocks hquote hitem hpast hempty hstop

/-- Reading ends at the end, or at a line that is not empty. -/
theorem rests_blocks {fuel : Nat} (hasGap tight : Bool) {i : Nat} (refs : References)
    (hfuel : past - i < fuel) :
    let next := (s.blocks readQuote readItem past fuel hasGap tight i refs).next
    past ≤ next ∨ s.isEmpty next = false := by
  induction fuel generalizing hasGap tight i refs with
  | zero => exact absurd hfuel (Nat.not_lt_zero _)
  | succ fuel ih =>
    have hstep := step_blocks readQuote readItem s past fuel hasGap tight i refs
    have hskip := s.le_skipEmpty (s.limit - i) i
    have hstops := s.skipEmpty_stops (Nat.le_refl (s.limit - i))
    generalize s.blocks readQuote readItem past (fuel + 1) hasGap tight i refs = r at hstep ⊢
    generalize s.skipEmpty (s.limit - i) i = j at hstep hskip hstops
    cases hstep with
    | stop _ _ hnext =>
      rw [hnext]
      exact hstops.imp (Nat.le_trans hpast) id
    | more b rest hasGap tight hj _ hb hrest _ hnext =>
      have hlt := hb ▸ lt_next_block hquote hitem refs hj hpast
      have hgap := s.le_pastGap past b.next
      rw [hnext, ← hrest, blocksAfter]
      split
      · next hlast => exact .inl hlast
      · exact ih _ _ _ (by omega)

end

/-- Blocks are read past the first line, up to the end or to a line that is not empty. -/
theorem passes_blocks {readQuote readItem : Reader} (hquote : readQuote.Passes)
    (hitem : readItem.Passes) : Reader.Passes fun s first past refs =>
      s.blocks readQuote readItem past (past - first + 1) false true first refs where
  le_next first _ refs hpast := le_next_blocks hquote hitem hpast _ _ _ first refs
  lt_next {s first past} refs hfirst hpast hin := by
    have hstep := step_blocks readQuote readItem s past (past - first) false true first refs
    rcases hstep.lt_next hquote hitem hpast with ⟨hstop, -, hnext⟩ | ⟨-, hlt⟩
    · rw [hnext]
      exact lt_skipEmpty_of_stop hfirst hpast hin hstop
    · exact Nat.lt_of_le_of_lt (s.le_skipEmpty (s.limit - first) first) hlt
  rests _ refs hpast := rests_blocks hquote hitem hpast false true refs (Nat.lt_succ_self _)
  silent refs hpast hempty hstop := silent_blocks hquote hitem hpast hempty hstop

/-- Where containers nest too deep, the reader gets past the empty lines at least. -/
theorem le_next_reader_zero (s : Scope) (first past : Nat) (refs : References) :
    s.skipEmpty (s.limit - first) first ≤ (reader 0 s first past refs).next := by
  simp only [reader]
  split
  · exact Nat.le_refl _
  · next hmore =>
    rw [Bool.or_eq_true, decide_eq_true_eq, not_or] at hmore
    exact Nat.le_of_not_le hmore.1

/-- Where containers nest too deep, nothing is read. -/
theorem tokens_reader_zero (s : Scope) (first past : Nat) (refs : References) :
    (reader 0 s first past refs).tokens = [] := by
  simp only [reader]
  split <;> rfl

/-- A reader passes what it reads also where containers nest too deep. -/
theorem passes_reader_zero : (reader 0).Passes where
  le_next {s} first past refs _ :=
    Nat.le_trans (s.le_skipEmpty (s.limit - first) first) (s.le_next_reader_zero first past refs)
  lt_next {s first past} refs hfirst hpast hin := by
    simp only [reader]
    split
    · next hstop =>
      rw [Bool.or_eq_true, decide_eq_true_eq] at hstop
      exact lt_skipEmpty_of_stop hfirst hpast hin hstop
    · exact hfirst
  rests {s past} first refs hpast := by
    have hstops := s.skipEmpty_stops (Nat.le_refl (s.limit - first))
    simp only [reader]
    split
    · exact hstops.imp (Nat.le_trans hpast) id
    · exact .inl (Nat.le_refl past)
  silent refs _ _ _ := tokens_reader_zero ..

/-- However deep containers may nest, a reader passes what it reads. -/
theorem passes_reader (depth : Nat) : (reader depth).Passes :=
  reader_induction passes_reader_zero passes_blocks depth

end Scope

end LiveMarkdown.Markdown
