import LiveMarkdown.Proofs.Markdown.Spread.Lines
import LiveMarkdown.Proofs.Text.Trim

/-!
# Where blocks end when lines spread

What looks for the end of a block finds it where it was, if the block has no wide line in it
(`Clear`): up to there the lines are the same, and the line where it ends, if it is wide, ends it in
either form. Each loop is followed as far as it runs in the first scope (`Spreads.lineRec`): where it goes on,
the line belongs to the block, so that it is not wide and the next line is the next line of both.

Display math on a wide line ends with that line, and with the last of the three (`math?_of_mem`). Any
other line begins what it began (`Spreads.startAt`).
-/

namespace LiveMarkdown.Markdown
namespace Scope

variable {wide : List Nat}

/-! ## Rows of tables -/

/-- A row that begins with a dollar sign has a cell. -/
theorem rowCells_of_dollar (rest : Text) : 1 ≤ (rowCells ('$' :: rest)).length := by
  have hfirst (escaped : Bool) (cell : Text) (hcell : cell ≠ []) (t : Text) :
      ∃ first more, cellsFrom escaped cell t = first :: more ∧ first ≠ [] := by
    induction t generalizing escaped cell with
    | nil => exact ⟨_, [], rfl, by simpa using hcell⟩
    | cons c t ih =>
      rw [cellsFrom]
      split
      · split
        · exact ih _ _ (List.cons_ne_nil _ _)
        · exact ⟨_, _, rfl, by simpa using hcell⟩
      · exact ih _ _ (List.cons_ne_nil _ _)
  have htrim := Text.trimWhite_cons_of_neg (c := '$') (by decide) rest
  obtain ⟨first, more, hcells, hne⟩ :=
    hfirst ('$' = '\\') ['$'] (List.cons_ne_nil _ _) (Text.dropEndWhile Text.isWhite rest)
  have hfrom : cellsFrom false [] (Text.trimWhite ('$' :: rest)) = first :: more := by
    rw [htrim, ← hcells, cellsFrom, if_neg (by decide)]
  have hhead : ¬(first :: more).head? = some [] := by simpa using hne
  rw [rowCells, hfrom]
  simp only [if_neg hhead]
  cases more with
  | nil => simp [hne]
  | cons next more =>
    split
    · simp
    · simp

/-- A row of a table has moved with its line. -/
theorem moved_row (cell : Container) (alignments : List (Option Alignment)) (cells : List Text)
    {i : Nat} (hi : i ∉ wide) :
    (row cell alignments cells i).map (Token.moved wide) =
      row cell alignments cells (spread wide i) := by
  simp only [row, List.map_append, List.map_cons, List.map_nil, List.map_flatMap, Token.moved,
    Option.map_some, Option.map_none, Span.moved, spread_succ_of_notMem hi]

/-! ## Loops -/

/-- None of the lines that are found to belong to a block at line `i` is wide, as far as it depends on
them what begins there. -/
def Start.IsClear (wide : List Nat) (s : Scope) (i : Nat) : Start → Prop
  | .math _ _ next => Clear wide i next
  | .underlined last _ => Clear wide i (last + 1)
  | .paragraph => Clear wide i (s.paragraphEnd (s.limit - i) (i + 1))
  | _ => True

namespace Spreads

variable {a n : Nat} {s s' : Scope} (e : Spreads wide a n s s')
include e

section

variable {i past past' fuel fuel' : Nat} (ha : a ≤ i) (hn : i ≤ n)

include ha hn in
/-- Empty lines are passed as before. -/
theorem skipEmpty (hfuel : s.limit - i ≤ fuel) (hfuel' : s'.limit - spread wide i ≤ fuel') :
    s'.skipEmpty fuel' (spread wide i) = spread wide (s.skipEmpty fuel i) ∧
      s.skipEmpty fuel i ≤ n := by
  induction ha, hn using e.lineRec (Nat.le_refl s.limit) generalizing fuel fuel' with
  | step i ha hn ih =>
    rw [skipEmpty_unfold hfuel, skipEmpty_unfold hfuel', e.isEmpty ha hn, e.limit.decide_lt hn]
    split
    · next hempty =>
      rw [Bool.and_eq_true, decide_eq_true_eq] at hempty
      have hi := e.notMem_of_isEmpty ha hn hempty.2
      have hnext := spread_succ_of_notMem hi
      rw [← hnext]
      exact ih hi hempty.1 (by omega) (by omega)
    · exact ⟨rfl, hn⟩

variable (hpast : Moves wide n past past') (hle : past ≤ s.limit) (hfuel : past - i ≤ fuel)
  (hfuel' : past' - spread wide i ≤ fuel')
include ha hn hpast hle hfuel hfuel'

/-- Indented code ends where it did. -/
theorem codeEnd {reached : Nat} (hclear : Clear wide i (s.codeEnd past fuel reached i)) :
    s'.codeEnd past' fuel' (spread wide reached) (spread wide i) =
      spread wide (s.codeEnd past fuel reached i) := by
  induction ha, hn using e.lineRec hle generalizing fuel fuel' reached with
  | step i ha hn ih =>
    rw [codeEnd_unfold hfuel] at hclear ⊢
    rw [codeEnd_unfold hfuel', e.isEmpty ha hn, e.isCode ha hn]
    simp only [hpast.le_iff hn]
    split
    · rfl
    · next hend =>
      rw [if_neg hend] at hclear
      split
      · next hempty =>
        rw [if_pos hempty] at hclear
        have hi := e.notMem_of_isEmpty ha hn hempty
        have hnext := spread_succ_of_notMem hi
        rw [← hnext]
        exact ih hi (by omega) (by omega) (by omega) hclear.tail
      · next hempty =>
        rw [if_neg hempty] at hclear
        split
        · next hcode =>
          rw [if_pos hcode] at hclear
          have hi := hclear i (Nat.le_refl i) (s.le_codeEnd past (fuel - 1) (Nat.le_refl (i + 1)))
          have hnext := spread_succ_of_notMem hi
          rw [← hnext]
          exact ih hi (by omega) (by omega) (by omega) hclear.tail
        · rfl

/-- A fenced block ends where it did. -/
theorem fenceEnd {mark : Char} (hmark : mark ≠ '$') (length : Nat)
    (hclear : Clear wide i (s.fenceEnd mark length past fuel i).1) :
    s'.fenceEnd mark length past' fuel' (spread wide i) =
      (spread wide (s.fenceEnd mark length past fuel i).1,
        (s.fenceEnd mark length past fuel i).2) := by
  induction ha, hn using e.lineRec hle generalizing fuel fuel' with
  | step i ha hn ih =>
    have hterminated : (s.isEmpty i && !(s'.line (spread wide i)).terminated) =
        (s.isEmpty i && !(s.line i).terminated) := by
      cases hempty : s.isEmpty i with
      | true => rw [e.same i ha hn (e.notMem_of_isEmpty ha hn hempty)]
      | false => rfl
    rw [fenceEnd_unfold hfuel] at hclear ⊢
    rw [fenceEnd_unfold hfuel', e.isEmpty ha hn, e.isOutside ha hn, e.closesFence ha hn hmark,
      hterminated]
    simp only [hpast.le_iff hn]
    split
    · rfl
    · next hend =>
      rw [if_neg hend] at hclear
      split
      · rfl
      · next hout =>
        rw [if_neg hout] at hclear
        split
        · rfl
        · next hlast =>
          rw [if_neg hlast] at hclear
          split
          · rfl
          · next hcloses =>
            rw [if_neg hcloses] at hclear
            have hi := hclear i (Nat.le_refl i) (s.le_fenceEnd mark length past (fuel - 1) (i + 1))
            have hnext := spread_succ_of_notMem hi
            rw [← hnext]
            exact ih hi (by omega) (by omega) (by omega)
              hclear.tail

/-- Raw HTML ends where it did. -/
theorem htmlEnd (ending : RawHtml.BlockEnd)
    (hclear : Clear wide i (s.htmlEnd ending past fuel i)) :
    s'.htmlEnd ending past' fuel' (spread wide i) =
      spread wide (s.htmlEnd ending past fuel i) := by
  induction ha, hn using e.lineRec hle generalizing fuel fuel' with
  | step i ha hn ih =>
    rw [htmlEnd_unfold hfuel] at hclear ⊢
    rw [htmlEnd_unfold hfuel', e.isOutside ha hn, hpast.decide_le hn, ← isEmpty_eq, ← isEmpty_eq,
      e.isEmpty ha hn]
    rw [← isEmpty_eq] at hclear
    split
    · rfl
    · next hmore =>
      rw [if_neg hmore] at hclear
      rw [Bool.or_eq_true, decide_eq_true_eq, not_or] at hmore
      have hi : i ∉ wide := fun hi => by
        -- a wide line is not empty, so that the block takes it
        have hfilled : s.isEmpty i = false := Bool.eq_false_iff.2 fun hempty =>
          e.notMem_of_isEmpty ha hn hempty hi
        refine hclear i (Nat.le_refl i) ?_ hi
        rw [hfilled]
        split
        · exact Nat.lt_succ_self i
        · exact s.le_htmlEnd ending past (fuel - 1) (i + 1)
      have hnext := spread_succ_of_notMem hi
      rw [e.same i ha hn hi, ← hnext]
      split
      · split <;> rfl
      · next hreached =>
        rw [if_neg hreached] at hclear
        exact ih hi (by omega) (by omega) (by omega) hclear.tail

/-- The rows of a table end where they did, and have moved. -/
theorem rows (alignments : List (Option Alignment)) (filled : Int)
    (hclear : Clear wide i (s.rows alignments past fuel filled i).2) :
    s'.rows alignments past' fuel' filled (spread wide i) =
      ((s.rows alignments past fuel filled i).1.map (Token.moved wide),
        spread wide (s.rows alignments past fuel filled i).2) := by
  induction ha, hn using e.lineRec hle generalizing fuel fuel' filled with
  | step i ha hn ih =>
    rw [rows_eq hfuel] at hclear ⊢
    rw [rows_eq hfuel', e.isOutside ha hn, e.isCode ha hn, e.interrupts ha hn _ hpast hle,
      hpast.decide_le hn]
    by_cases hi : i ∈ wide
    · -- a wide line is no row of a table that has none in it; so the table ends
      have hlines := e.opens i ha hn hi
      obtain ⟨rest, hbody⟩ := hlines.body
      have hcontent (t : Text) : (Text.trimWhite ('$' :: t)).isEmpty = false := by
        rw [Text.trimWhite_cons_of_neg (by decide)]
        rfl
      have hcells := rowCells_of_dollar (Text.dropEndWhile Text.isWhite ('$' :: rest))
      rw [← Text.trimWhite_cons_of_neg (by decide), ← hbody] at hcells
      rw [hlines.body', hcontent, hbody, hcontent, ← hbody]
      rw [hbody, hcontent, ← hbody] at hclear
      split
      · rfl
      · next hmore =>
        rw [if_neg hmore] at hclear
        have hone : (rowCells (Text.trimWhite ['$', '$'])).length = 1 := by decide
        dsimp only at hclear ⊢
        rw [hone]
        split at hclear
        · next hfull => rw [if_pos hfull, if_pos (by omega)]; rfl
        · exact absurd hi (hclear i (Nat.le_refl i) (s.le_rows ..))
    · rw [e.same i ha hn hi]
      split
      · rfl
      · next hmore =>
        rw [if_neg hmore] at hclear
        dsimp only at hclear ⊢
        split
        · rfl
        · next hfull =>
          rw [if_neg hfull] at hclear
          have hlt : i < past := by
            simp only [Bool.or_eq_true, decide_eq_true_eq, not_or] at hmore
            omega
          have hnext := spread_succ_of_notMem hi
          have hrest (filled : Int)
              (hclear : Clear wide i (s.rows alignments past (fuel - 1) filled (i + 1)).2) :
              s'.rows alignments past' (fuel' - 1) filled (spread wide (i + 1)) = _ :=
            ih hi (by omega) (by omega) (by omega) filled
              hclear.tail
          rw [← hnext, hrest _ hclear, List.map_append, moved_row _ _ _ hi]

omit hpast hle hfuel hfuel' in
/-- A paragraph ends where it did. -/
theorem paragraphEnd (hfuel : s.limit - i ≤ fuel) (hfuel' : s'.limit - spread wide i ≤ fuel')
    (hclear : Clear wide i (s.paragraphEnd fuel i)) :
    s'.paragraphEnd fuel' (spread wide i) = spread wide (s.paragraphEnd fuel i) := by
  induction ha, hn using e.lineRec (Nat.le_refl s.limit) generalizing fuel fuel' with
  | step i ha hn ih =>
    rw [paragraphEnd_unfold hfuel] at hclear ⊢
    rw [paragraphEnd_unfold hfuel', e.isEmpty ha hn, e.isCode ha hn, e.lineIndent ha hn,
      e.interrupts ha hn _ e.limit (Nat.le_refl _), e.limit.decide_le hn]
    have hmore (hi : i ∉ wide) (hlt : i < s.limit)
        (hclear : Clear wide i (s.paragraphEnd (fuel - 1) (i + 1))) :
        s'.paragraphEnd (fuel' - 1) (spread wide i + 1) =
          spread wide (s.paragraphEnd (fuel - 1) (i + 1)) := by
      have hnext := spread_succ_of_notMem hi
      rw [← hnext]
      exact ih hi hlt (by omega) (by omega) hclear.tail
    have hle := s.le_paragraphEnd (fuel - 1) (i + 1)
    split
    · rfl
    · next hend =>
      rw [if_neg hend] at hclear
      have hlt : i < s.limit := by
        rw [Bool.or_eq_true, decide_eq_true_eq, not_or] at hend
        omega
      split
      · next hlazy =>
        rw [if_pos hlazy] at hclear
        exact hmore (hclear i (Nat.le_refl i) hle) hlt hclear
      · next hlazy =>
        rw [if_neg hlazy] at hclear
        split
        · rfl
        · next hgoes =>
          rw [if_neg hgoes] at hclear
          exact hmore (hclear i (Nat.le_refl i) hle) hlt hclear

/-- A line underlines the paragraph that it underlined. -/
theorem underlined?_of_some {last level : Nat}
    (h : s.underlined? past fuel i = some (last, level)) (hclear : Clear wide i (last + 1)) :
    s'.underlined? past' fuel' (spread wide i) = some (spread wide last, level) := by
  induction ha, hn using e.lineRec hle generalizing fuel fuel' with
  | step i ha hn ih =>
    have hfrom := (of_underlined? h).1
    rw [underlined?_unfold hfuel] at h
    rw [underlined?_unfold hfuel', e.isEmpty ha hn, e.isCode ha hn, e.isOutside ha hn,
      e.underline? ha hn, e.lineIndent ha hn, e.interrupts ha hn _ hpast hle, hpast.decide_le hn]
    have hi := hclear i (Nat.le_refl i) (Nat.lt_succ_of_le hfrom)
    have hmore (hlt : i < past) (h : s.underlined? past (fuel - 1) (i + 1) = some (last, level)) :
        s'.underlined? past' (fuel' - 1) (spread wide i + 1) = some (spread wide last, level) := by
      have hnext := spread_succ_of_notMem hi
      rw [← hnext]
      exact ih hi (by omega) (by omega) (by omega) h
        hclear.tail
    split at h
    · cases h
    · next hend =>
      rw [if_neg hend]
      have hlt : i < past := by
        rw [Bool.or_eq_true, decide_eq_true_eq, not_or] at hend
        omega
      split at h
      · next hcode =>
        rw [if_pos hcode]
        exact hmore hlt h
      · next hcode =>
        rw [if_neg hcode]
        split at h
        · cases h
          rfl
        · split at h
          · next hlazy =>
            rw [if_pos hlazy]
            exact hmore hlt h
          · next hlazy =>
            rw [if_neg hlazy]
            split at h
            · cases h
            · next hgoes =>
              rw [if_neg hgoes]
              exact hmore hlt h

/-- If no line underlines the first lines of a paragraph without wide lines, none does now. -/
theorem underlined?_of_none {fuelEnd : Nat} (h : s.underlined? past fuel i = none)
    (hend : s.limit - i ≤ fuelEnd) (hclear : Clear wide i (s.paragraphEnd fuelEnd i)) :
    s'.underlined? past' fuel' (spread wide i) = none := by
  induction ha, hn using e.lineRec hle generalizing fuel fuel' fuelEnd with
  | step i ha hn ih =>
    rw [underlined?_unfold hfuel] at h
    rw [underlined?_unfold hfuel', e.isEmpty ha hn, e.isCode ha hn, e.isOutside ha hn,
      e.underline? ha hn, e.lineIndent ha hn, e.interrupts ha hn _ hpast hle, hpast.decide_le hn]
    rw [paragraphEnd_unfold hend] at hclear
    split at h
    · next hstop => rw [if_pos hstop]
    · next hstop =>
      rw [if_neg hstop]
      rw [Bool.or_eq_true, decide_eq_true_eq, not_or] at hstop
      have hlt : i < past := Nat.lt_of_not_le hstop.1
      rw [if_neg (by simpa [hstop.2] using Nat.lt_of_lt_of_le hlt hle)] at hclear
      -- the paragraph goes on, and so does the search for a line that underlines it
      have hmore (h : s.underlined? past (fuel - 1) (i + 1) = none)
          (hclear : Clear wide i (s.paragraphEnd (fuelEnd - 1) (i + 1))) :
          s'.underlined? past' (fuel' - 1) (spread wide i + 1) = none := by
        have hi := hclear i (Nat.le_refl i) (s.le_paragraphEnd (fuelEnd - 1) (i + 1))
        have hnext := spread_succ_of_notMem hi
        rw [← hnext]
        exact ih hi (by omega) (by omega) (by omega) h
          (by omega) hclear.tail
      split at h
      · next hcode =>
        rw [if_pos hcode]
        rw [hcode, Bool.true_or, if_pos rfl] at hclear
        exact hmore h hclear
      · next hcode =>
        rw [if_neg hcode]
        split at h
        · cases h
        · split at h
          · next hlazy =>
            rw [if_pos hlazy]
            rw [if_pos (by rw [decide_eq_true hlazy, Bool.or_true])] at hclear
            exact hmore h hclear
          · next hlazy =>
            rw [if_neg hlazy]
            rw [if_neg (by simp [hcode, hlazy])] at hclear
            split at h
            · next hinterrupts => rw [if_pos hinterrupts]
            · next hgoes =>
              rw [if_neg hgoes]
              split at hclear
              · next hinterrupts =>
                -- only a table needs two lines, so that this is the last one
                have hi : i ∉ wide := fun hi => by
                  rw [e.interrupts_of_mem ha hn _ hi] at hinterrupts
                  cases hinterrupts
                have hlast : past ≤ i + 1 := Nat.le_of_not_lt fun hmore => by
                  refine hgoes ?_
                  rwa [Scope.interrupts, table?_of_lt hmore (Nat.lt_of_lt_of_le hmore hle)]
                have hn1 := e.succ_le hn hi (by omega)
                rw [← spread_succ_of_notMem hi, underlined?_unfold (by
                  rw [spread_succ_of_notMem hi]
                  omega), hpast.decide_le hn1, decide_eq_true hlast]
                rfl
              · exact hmore h hclear

/-- Math ends where it did. -/
theorem mathEnd? (hclear : ∀ r ∈ s.mathEnd? past fuel i, Clear wide i (r.1 + 1)) :
    s'.mathEnd? past' fuel' (spread wide i) =
      (s.mathEnd? past fuel i).map fun r => (spread wide r.1, r.2) := by
  induction ha, hn using e.lineRec hle generalizing fuel fuel' with
  | step i ha hn ih =>
    rw [mathEnd?_unfold hfuel] at hclear ⊢
    rw [mathEnd?_unfold hfuel']
    simp only [hpast.le_iff hn]
    split
    · rfl
    · next hend =>
      rw [if_neg hend] at hclear
      have hi : i ∉ wide := fun hi => by
        obtain ⟨size, hclosing⟩ := (e.opens i ha hn hi).closing
        rw [hclosing] at hclear
        exact hclear _ rfl i (Nat.le_refl i) (Nat.lt_succ_self i) hi
      rw [e.same i ha hn hi]
      split
      · rfl
      · next hclosing =>
        rw [hclosing] at hclear
        have hnext := spread_succ_of_notMem hi
        rw [← hnext]
        exact ih hi (by omega) (by omega) (by omega)
          fun r hr => (hclear r hr).tail

/-- A quote ends where it did, and is interrupted if it was. -/
theorem quoteLines (wasEmpty : Bool)
    (hclear : Clear wide i (s.quoteLines past fuel wasEmpty i).2.1) :
    (s'.quoteLines past' fuel' wasEmpty (spread wide i)).2 =
      (spread wide (s.quoteLines past fuel wasEmpty i).2.1,
        (s.quoteLines past fuel wasEmpty i).2.2) := by
  induction ha, hn using e.lineRec hle generalizing fuel fuel' wasEmpty with
  | step i ha hn ih =>
    have hempty : (s'.line (spread wide i)).isEmpty = (s.line i).isEmpty := e.isEmpty ha hn
    rw [quoteLines_unfold hfuel] at hclear ⊢
    rw [quoteLines_unfold hfuel', hempty, e.head? ha hn, e.isOutside ha hn,
      e.interrupts ha hn _ hpast hle, hpast.decide_le hn]
    have hmore (wasEmpty : Bool) (hlt : i < past)
        (hclear : Clear wide i (s.quoteLines past (fuel - 1) wasEmpty (i + 1)).2.1) :
        i ∉ wide ∧ (s'.quoteLines past' (fuel' - 1) wasEmpty (spread wide i + 1)).2 =
          (spread wide (s.quoteLines past (fuel - 1) wasEmpty (i + 1)).2.1,
            (s.quoteLines past (fuel - 1) wasEmpty (i + 1)).2.2) := by
      have hi := hclear i (Nat.le_refl i) (s.le_quoteLines past (fuel - 1) wasEmpty (i + 1))
      have hnext := spread_succ_of_notMem hi
      rw [← hnext]
      exact ⟨hi, ih hi (by omega) (by omega) (by omega)
        wasEmpty hclear.tail⟩
    split
    · rfl
    · next hend =>
      rw [if_neg hend] at hclear
      have hlt : i < past := by
        rw [Bool.or_eq_true, decide_eq_true_eq, not_or] at hend
        omega
      split
      · next hmark =>
        rw [if_pos hmark] at hclear
        obtain ⟨hi, hrest⟩ := hmore _ hlt hclear
        rw [e.same i ha hn hi]
        exact hrest
      · next hmark =>
        rw [if_neg hmark] at hclear
        split
        · rfl
        · next hwas =>
          rw [if_neg hwas] at hclear
          split
          · rfl
          · next hgoes =>
            rw [if_neg hgoes] at hclear
            exact (hmore _ hlt hclear).2

/-- A quote that takes a line, and the lines before it, takes it still. -/
theorem lt_quoteLines (wasEmpty : Bool) {m : Nat} (him : i ≤ m)
    (hclear : Clear wide i m) (hlt : m < (s.quoteLines past fuel wasEmpty i).2.1) :
    spread wide m < (s'.quoteLines past' fuel' wasEmpty (spread wide i)).2.1 := by
  induction ha, hn using e.lineRec hle generalizing fuel fuel' wasEmpty with
  | step i ha hn ih =>
    have hempty : (s'.line (spread wide i)).isEmpty = (s.line i).isEmpty := e.isEmpty ha hn
    rw [quoteLines_unfold hfuel] at hlt
    rw [quoteLines_unfold hfuel', hempty, e.head? ha hn, e.isOutside ha hn,
      e.interrupts ha hn _ hpast hle, hpast.decide_le hn]
    have hmore (wasEmpty : Bool) (hpastI : i < past)
        (hlt : m < (s.quoteLines past (fuel - 1) wasEmpty (i + 1)).2.1) :
        spread wide m < (s'.quoteLines past' (fuel' - 1) wasEmpty (spread wide i + 1)).2.1 := by
      rcases Nat.eq_or_lt_of_le him with rfl | him
      · exact Nat.lt_of_succ_le (s'.le_quoteLines ..)
      · have hi := hclear i (Nat.le_refl i) him
        have hnext := spread_succ_of_notMem hi
        rw [← hnext]
        exact ih hi hpastI (by omega) (by omega) wasEmpty him hclear.tail hlt
    split at hlt
    · exact absurd hlt (Nat.not_lt.2 him)
    · next hend =>
      rw [if_neg hend]
      have hpastI : i < past := by
        rw [Bool.or_eq_true, decide_eq_true_eq, not_or] at hend
        omega
      split at hlt
      · next hmark =>
        rw [if_pos hmark]
        have hi : i ∉ wide := fun hi => by
          obtain ⟨rest, hbody⟩ := (e.opens i ha hn hi).body
          simp [hbody] at hmark
        rw [e.same i ha hn hi]
        exact hmore _ hpastI hlt
      · next hmark =>
        rw [if_neg hmark]
        split at hlt
        · exact absurd hlt (Nat.not_lt.2 him)
        · next hwas =>
          rw [if_neg hwas]
          split at hlt
          · exact absurd hlt (Nat.not_lt.2 him)
          · next hgoes =>
            rw [if_neg hgoes]
            exact hmore _ hpastI hlt

end

section

variable {i past past' : Nat} (ha : a ≤ i) (hpast : Moves wide n past past') (hle : past ≤ s.limit)
include ha hpast hle

/-- A table without wide lines. -/
theorem tableTokens (header : List Text) (alignments : List (Option Alignment))
    (hclear : Clear wide i (s.tableTokens i past header alignments).2)
    (hnext : (s.tableTokens i past header alignments).2 ≤ n) :
    s'.tableTokens (spread wide i) past' header alignments =
      ((s.tableTokens i past header alignments).1.map (Token.moved wide),
        spread wide (s.tableTokens i past header alignments).2) := by
  have hfrom := s.le_rows alignments past (past - i) 0 (i + 2)
  simp only [Scope.tableTokens] at hclear hnext ⊢
  have hwide : i ∉ wide := hclear i (Nat.le_refl i) (by omega)
  have hsucc : spread wide (i + 1) = spread wide i + 1 := spread_succ_of_notMem hwide
  have hsucc2 : spread wide (i + 2) = spread wide i + 2 := by
    rw [spread_succ_of_notMem (hclear (i + 1) (Nat.le_succ i) (by omega)), hsucc]
  have ha2 : a ≤ i + 2 := Nat.le_trans ha (Nat.le_add_right i 2)
  have hrows : s'.rows alignments past' (past' - spread wide i) 0 (spread wide (i + 2)) = _ :=
    e.rows ha2 (Nat.le_trans hfrom hnext) hpast hle (by omega) (by omega) alignments 0
      hclear.tail.tail
  rw [← hsucc2, hrows, ← hsucc]
  generalize s.rows alignments past (past - i) 0 (i + 2) = r
  simp only [List.map_cons, List.map_append, List.map_nil, List.isEmpty_map, moved_row _ _ _ hwide]
  split <;> simp [Token.moved, Span.moved]

end

/-! ## Display math -/

section

variable {i past past' : Nat} (ha : a ≤ i) (hn : i ≤ n) (hpast : Moves wide n past past')
  (hle : past ≤ s.limit)
include ha hn hpast hle

/-- Display math that begins on a line that is not wide. -/
theorem math?_of_notMem (hi : i ∉ wide) (hlt : i < past)
    (hclear : ∀ r ∈ s.math? i past, Clear wide i r.2.2) :
    s'.math? (spread wide i) past' =
      (s.math? i past).map fun r => (r.1, r.2.1, spread wide r.2.2) := by
  have ha1 : a ≤ i + 1 := Nat.le_succ_of_le ha
  have hn1 := e.succ_le hn hi (Nat.lt_of_lt_of_le hlt hle)
  have hnext := spread_succ_of_notMem hi
  have hfuel : past - (i + 1) ≤ past - i := Nat.sub_le_sub_left (Nat.le_succ i) past
  have hfuel' : past' - spread wide (i + 1) ≤ past' - spread wide i := by omega
  simp only [Scope.math?] at hclear ⊢
  rw [e.isCode ha hn, e.same i ha hn hi, ← hnext]
  split
  · rfl
  · next hcode =>
    rw [if_neg hcode] at hclear
    split
    · next rest hbody =>
      simp only [hbody] at hclear ⊢
      split
      · rfl
      · next hclosing =>
        simp only [hclosing] at hclear
        split
        · rfl
        · next hincludes =>
          rw [if_neg hincludes] at hclear
          have hend (r : Nat × Option Text × Nat)
              (hr : r ∈ s.mathEnd? past (past - i) (i + 1)) : Clear wide i (r.1 + 1) :=
            hclear _ (Option.mem_map_of_mem _ hr)
          rw [e.mathEnd? ha1 hn1 hpast hle hfuel hfuel' fun r hr => (hend r hr).tail, Option.map_map,
            Option.map_map]
          refine Option.map_congr fun r hr => ?_
          obtain ⟨hfrom, hbefore, -⟩ := of_mathEnd? hr
          have hlast : r.1 ∉ wide := hend r hr r.1 (by omega) (Nat.lt_succ_self _)
          have hwithin : r.1 + 1 ≤ n := e.le_of_clear hn (hend r hr) (Nat.le_trans hbefore hle)
          have hbetween : Clear wide (i + 1) r.1 := fun j hj hjlast =>
            hend r hr j (by omega) (by omega)
          simp only [Function.comp_apply, spread_succ_of_notMem hlast]
          rw [e.range ha1 (by omega) hbetween, e.same r.1 (by omega) (by omega) hlast]
    · rfl

omit hle in
/-- Display math on a wide line: it is the same on three lines. -/
theorem math?_of_mem (hi : i ∈ wide) (hin : i + 1 ≤ n) (hlt : i < past)
    (hcode : s.isCode i = false) :
    ∃ formula formula', s.math? i past = some (formula, none, i + 1) ∧
      s'.math? (spread wide i) past' = some (formula', none, spread wide (i + 1)) ∧
      Text.trim formula' = Text.trim formula := by
  have hlines := e.opens i ha hn hi
  obtain ⟨hlong, hformula, hmiddle, hlast⟩ := e.holds i ha hin hi
  obtain ⟨rest, hbody⟩ := hlines.body
  obtain ⟨size, hclosing⟩ := hlines.closing
  have hnext := spread_succ_of_mem hi
  have hroom : spread wide i + 3 ≤ past' := by
    rw [← hnext]
    rcases hpast with ⟨-, rfl⟩ | ⟨-, hbehind⟩
    · exact spread_le_spread.2 hlt
    · exact Nat.le_of_lt (Nat.lt_of_le_of_lt (spread_le_spread.2 hin) hbehind)
  have hdrop : (s.line i).body.drop 2 = rest := by rw [hbody]; rfl
  have htrim : ¬3 < (Text.trim ['$', '$']).length := by decide
  have hdollars : mathClosing? ['$', '$'] = some (none, 2) := by decide
  have hcode' : ¬s'.isCode (spread wide i) = true := by simp [e.isCode ha hn, hcode]
  refine ⟨rest.take ((s.line i).body.length - size - 2), Text.unlines [[],
    (s'.line (spread wide i + 1)).chars, (s'.line (spread wide i + 2)).chars.take
      ((s'.line (spread wide i + 2)).chars.length - 2)], ?_, ?_, ?_⟩
  · simp only [Scope.math?, hcode, if_neg Bool.false_ne_true, if_pos hlong, hclosing]
    rw [hbody]
    rfl
  · have hend : s'.mathEnd? past' (past' - spread wide i) (spread wide i + 1) =
        some (spread wide i + 2, none, 2) := by
      rw [mathEnd?_unfold (by omega), if_neg (by omega), hmiddle]
      dsimp only
      rw [mathEnd?_unfold (by omega), if_neg (by omega), hlast, hdollars]
    simp only [Scope.math?, if_neg hcode', hlines.body', decide_eq_false htrim, Bool.false_and,
      if_neg Bool.false_ne_true, hend, hnext, Option.map_some, Scope.range]
    rw [show spread wide i + 2 - (spread wide i + 1) = 1 by omega]
    rfl
  · rw [← hdrop]
    exact (hformula size hclosing).symm

/-! ## What begins a block -/

/-- The line looks like what it looked like. -/
theorem alike : Alike s s' i (spread wide i) past past' where
  table := e.table? ha hn hpast hle
  code := e.isCode ha hn
  fence := e.fence? ha hn
  quote := e.isQuote ha hn
  rule := e.isRule ha hn
  list := e.listItem? ha hn false
  html := e.rawHtml? ha hn
  heading := e.heading? ha hn
  definition := e.plain.reference?_eq_none _
  definition' := e.plain'.reference?_eq_none _

/-- A line that is not wide begins the same, unless a wide line is among those found to belong to
it. -/
theorem startAt (hwide : i ∉ wide) (hi : i < past)
    (hclear : (s.startAt i past).IsClear wide s i) :
    s'.startAt (spread wide i) past' = (s.startAt i past).moved (spread wide) := by
  have ha1 : a ≤ i + 1 := Nat.le_succ_of_le ha
  have hn1 := e.succ_le hn hwide (Nat.lt_of_lt_of_le hi hle)
  have hsucc := spread_succ_of_notMem hwide
  have hfuel : past - (i + 1) ≤ past - i := Nat.sub_le_sub_left (Nat.le_succ i) past
  have hfuel' : past' - spread wide (i + 1) ≤ past' - spread wide i := by omega
  refine rel_startAt (R := fun start start' => start' = start.moved (spread wide))
    (C := Start.IsClear wide s i) (e.alike ha hn hpast hle) (fun _ h => (h _).symm)
    (fun hclear => ?_) (fun hclear => ?_) hclear
  · rw [e.math?_of_notMem ha hn hpast hle hwide hi hclear]
    cases s.math? i past with
    | none => exact .none
    | some r => exact .some rfl
  · rw [textStart] at hclear ⊢
    rw [textStart, ← hsucc]
    cases hunderlined : s.underlined? past (past - i) (i + 1) with
    | none =>
      rw [hunderlined] at hclear
      rw [e.underlined?_of_none ha1 hn1 hpast hle hfuel hfuel' hunderlined (by omega) hclear.tail]
      rfl
    | some r =>
      rw [hunderlined] at hclear
      rw [e.underlined?_of_some ha1 hn1 hpast hle hfuel hfuel' hunderlined hclear.tail]
      rfl

end

end Spreads
end Scope
end LiveMarkdown.Markdown
