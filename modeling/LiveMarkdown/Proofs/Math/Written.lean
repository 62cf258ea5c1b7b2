import LiveMarkdown.Proofs.Math.Prepared
import LiveMarkdown.Proofs.Math.Stretches

/-!
# Where formulas on one line are written

`formulaPlaces` are the formulas on one line of a text, each with the three lines that it stands on
when the text is prepared. The scanner passes one line after the other (`Scans`): a line is written, or
it is held back until it is known whether its region ends, or it becomes three lines. By induction on
the lines, a formula is found where `formulaLines` and the lines that were added before it say
(`isWritten_of_mem_formulaLines`).
-/

namespace LiveMarkdown

open Markdown (Span spread)

namespace Math

/-- How many lines the scanner has read and not written yet. -/
def Region.held : Region → Nat
  | .bracket _ held => held.length + 1
  | _ => 0

/-- What the scanner does with a line: it goes on in a region, with the line written or held back, or it
puts the formula of the line on three lines. -/
inductive Scans (region : Region) (line : Text) (rest : List Text) : Prop
  | on (next : Region) (written : List Text)
      (hnumbers : formulaLines region (line :: rest) = (formulaLines next rest).map (· + 1))
      (hwritten : displayLines region (line :: rest) = written ++ displayLines next rest)
      (hheld : region.held + 1 = written.length + next.held)
  | formula (formula : Text) (hregion : region = .outside)
      (hformula : oneLine? (Text.trim line) = some formula)
      (hnumbers : formulaLines region (line :: rest) =
        0 :: (formulaLines .outside rest).map (· + 1))
      (hwritten : displayLines region (line :: rest) =
        (Stretch.oneLine line formula).shown ++ displayLines .outside rest)

/-- A line is held back or written, as its region says, or it is a formula on one line. -/
theorem scans (region : Region) (line : Text) (rest : List Text) : Scans region line rest := by
  cases region with
  | fence mark count =>
    refine .on (if closesFence mark count (Text.trim line) then .outside else .fence mark count)
      [line] rfl rfl ?_
    split <;> rfl
  | bracket opening held =>
    by_cases hclosing : Text.trim line = ['\\', ']']
    · refine .on .outside ((Text.leadingBlanks opening ++ dollars) ::
        (held.reverse ++ [Text.leadingBlanks opening ++ dollars])) ?_ ?_ ?_
      · rw [formulaLines, if_pos hclosing]
      · rw [displayLines, if_pos hclosing]
        simp
      · simp [Region.held]
    · refine .on (.bracket opening (line :: held)) [] ?_ ?_ ?_
      · rw [formulaLines, if_neg hclosing]
      · rw [displayLines, if_neg hclosing]
        rfl
      · simp [Region.held]
  | outside =>
    cases hfence : fence? (Text.trim line) with
    | some fence =>
      refine .on (.fence fence.1 fence.2) [line] ?_ ?_ rfl
      · simp only [formulaLines, hfence]
      · simp only [displayLines, hfence]
        rfl
    | none =>
      by_cases hbracket : Text.trim line = ['\\', '[']
      · refine .on (.bracket line []) [] ?_ ?_ rfl
        · simp only [formulaLines, hfence, if_pos hbracket]
        · simp only [displayLines, hfence, if_pos hbracket]
          rfl
      · cases hformula : oneLine? (Text.trim line) with
        | some formula =>
          refine .formula formula rfl hformula ?_ ?_
          · simp only [formulaLines, hfence, if_neg hbracket, hformula]
          · simp only [displayLines, hfence, if_neg hbracket, hformula]
            rfl
        | none =>
          refine .on .outside [line] ?_ ?_ rfl
          · simp only [formulaLines, hfence, if_neg hbracket, hformula]
          · simp only [displayLines, hfence, if_neg hbracket, hformula]
            rfl

/-- The lines with formulas are counted in their order. -/
theorem pairwise_formulaLines (region : Region) (ls : List Text) :
    (formulaLines region ls).Pairwise (· < ·) := by
  induction ls generalizing region with
  | nil => cases region <;> exact .nil
  | cons line rest ih =>
    have hlater (region : Region) : ((formulaLines region rest).map (· + 1)).Pairwise (· < ·) :=
      List.pairwise_map.2 ((ih region).imp Nat.succ_lt_succ)
    cases scans region line rest with
    | on next written hnumbers => exact hnumbers ▸ hlater next
    | formula formula _ _ hnumbers =>
      rw [hnumbers]
      refine List.pairwise_cons.2 ⟨fun i hi => ?_, hlater .outside⟩
      obtain ⟨j, -, rfl⟩ := List.mem_map.1 hi
      exact Nat.succ_pos j

/-- From line `i` on stands what is written for the formula on `line`. -/
structure IsWrittenAt (ls : List Text) (i : Nat) (line formula : Text) : Prop where
  opening : ls[i]? = some (Text.leadingBlanks line ++ dollars)
  middle : ls[i + 1]? = some (Text.leadingBlanks line ++ Text.trim formula)
  closing : ls[i + 2]? = some (Text.leadingBlanks line ++ dollars)

/-- A formula is written further down if lines come before. -/
theorem IsWrittenAt.append {ls : List Text} {i : Nat} {line formula : Text}
    (h : IsWrittenAt ls i line formula) (before : List Text) :
    IsWrittenAt (before ++ ls) (before.length + i) line formula := by
  have hget (k : Nat) : (before ++ ls)[before.length + k]? = ls[k]? := by
    rw [List.getElem?_append_right (Nat.le_add_right _ _), Nat.add_sub_cancel_left]
  exact ⟨(hget i).trans h.opening, (hget (i + 1)).trans h.middle, (hget (i + 2)).trans h.closing⟩

/-- Each formula on one line is written on three lines, two more than it had. -/
theorem isWritten_of_mem_formulaLines {region : Region} {ls : List Text} {i : Nat}
    (h : i ∈ formulaLines region ls) : ∃ line formula, ls[i]? = some line ∧
      oneLine? (Text.trim line) = some formula ∧
      IsWrittenAt (displayLines region ls) (region.held + spread (formulaLines region ls) i) line
        formula := by
  induction ls generalizing region i with
  | nil => cases region <;> cases h
  | cons first rest ih =>
    cases scans region first rest with
    | on next written hnumbers hwritten hheld =>
      rw [hnumbers] at h ⊢
      obtain ⟨j, hj, rfl⟩ := List.mem_map.1 h
      obtain ⟨line, formula, hline, hformula, hat⟩ := ih hj
      have hplace : region.held + spread ((formulaLines next rest).map (· + 1)) (j + 1) =
          written.length + (next.held + spread (formulaLines next rest) j) := by
        rw [spread_map_succ]
        omega
      rw [hwritten, hplace]
      exact ⟨line, formula, hline, hformula, hat.append written⟩
    | formula formula hregion hformula hnumbers hwritten =>
      subst hregion
      rw [hnumbers] at h ⊢
      rw [hwritten]
      rcases List.mem_cons.1 h with rfl | h
      · exact ⟨first, formula, rfl, hformula, rfl, rfl, rfl⟩
      · obtain ⟨j, hj, rfl⟩ := List.mem_map.1 h
        obtain ⟨line, formula', hline, hformula', hat⟩ := ih hj
        have hplace : Region.outside.held + spread (0 :: (formulaLines .outside rest).map (· + 1)) (j + 1) =
            (Stretch.oneLine first formula).shown.length +
              (Region.outside.held + spread (formulaLines .outside rest) j) := by
          rw [spread_zero_cons]
          simp only [Stretch.shown, List.length_cons, List.length_nil]
          omega
        rw [hplace]
        exact ⟨line, formula', hline, hformula', hat.append _⟩

end Math

/-- The formula of a line that holds one. -/
def formulaOn (line : Text) : Text := Text.trim ((Math.oneLine? (Text.trim line)).getD [])

/-- The formulas on one line, in order: the lines that each stands on when the text is prepared, and the
formula. -/
def formulaPlaces (t : Text) : List (Span × Text) :=
  (formulaLines t).map fun i =>
    let first := spread (formulaLines t) i
    (⟨first, first + 3⟩, formulaOn ((Text.lines t).getD i []))

/-- The formula stands there. -/
theorem of_mem_formulaPlaces {t : Text} {p : Span × Text} (h : p ∈ formulaPlaces t) :
    ∃ line formula, Math.oneLine? (Text.trim line) = some formula ∧
      Math.IsWrittenAt (Text.lines (preprocess t)) p.1.first line formula ∧
      p = (⟨p.1.first, p.1.first + 3⟩, Text.trim formula) := by
  obtain ⟨i, hi, rfl⟩ := List.mem_map.1 h
  obtain ⟨line, formula, hline, hformula, hat⟩ := Math.isWritten_of_mem_formulaLines hi
  have hheld : Math.Region.outside.held = 0 := rfl
  rw [← Math.lines_normalizeDisplay, hheld, Nat.zero_add] at hat
  have hcontent : formulaOn ((Text.lines t).getD i []) = Text.trim formula := by
    rw [List.getD_eq_getElem?_getD, hline, Option.getD_some, formulaOn, hformula, Option.getD_some]
  exact ⟨line, formula, hformula, hat, by simp only [hcontent]⟩

/-- The formulas of a text begin on different lines, in order. -/
theorem pairwise_formulaPlaces (t : Text) :
    (formulaPlaces t).Pairwise fun p q => p.1.first < q.1.first :=
  List.pairwise_map.2 ((Math.pairwise_formulaLines .outside (Text.lines t)).imp
    (Markdown.spread_lt _))

end LiveMarkdown
