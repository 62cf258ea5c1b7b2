import LiveMarkdown.Proofs.Diagram.Marks
import LiveMarkdown.Proofs.Text.Lines
import LiveMarkdown.Proofs.Text.Trim

/-!
# The lines of a diagram

A diagram's labels are marked line by line. To mark them is to put quotes into a line and nothing else
(`withoutQuotes_wrapAll`). A line in which something has been marked has an opening mark, so that it is
left as it is from then on; in the others there is nothing to mark (`wrapLine_cases`).

`IsExempt` says which lines are left as they are: those around front matter, those in it, comments, and
those with an opening mark. All others are marked (`wrap_loses_nothing`), and then there is nothing left
to mark (`wrap_wrap`).
-/

namespace LiveMarkdown.Diagram

open Text (isBlank lines trim unlines)

/-! ## What is added to a line -/

/-- The text without its quotes. -/
def withoutQuotes (t : Text) : Text := t.filter (¬IsQuote ·)

/-- Only quotes are taken out. -/
theorem mem_withoutQuotes {c : Char} (h : ¬IsQuote c) (t : Text) : c ∈ withoutQuotes t ↔ c ∈ t := by
  simp [withoutQuotes, h]

/-- A label differs from what is written for it in quotes alone. -/
theorem withoutQuotes_written (p : Piece) : withoutQuotes p.written = withoutQuotes p.source := by
  cases p with
  | text t => rfl
  | label t =>
    have hopen : withoutQuotes openMark = [] := by decide
    have hclose : withoutQuotes closeMark = [] := by decide
    unfold withoutQuotes at hopen hclose ⊢
    rw [Piece.written, Piece.source, List.filter_append, List.filter_append, hopen, hclose,
      List.nil_append, List.append_nil]

/-- Wrapping the labels of one shape adds quotes alone. -/
theorem withoutQuotes_wrap (s : Shape) (icons : List Text) (t : Text) :
    withoutQuotes (s.wrap icons t) = withoutQuotes t := by
  have hsource : (s.pieces icons 0 false t).flatMap Piece.source = t := s.source_pieces icons 0 false t
  have hpieces (ps : List Piece) :
      withoutQuotes (ps.flatMap Piece.written) = withoutQuotes (ps.flatMap Piece.source) := by
    unfold withoutQuotes
    rw [List.filter_flatMap, List.filter_flatMap]
    exact List.flatMap_congr fun p _ => withoutQuotes_written p
  rw [Shape.wrap, Shape.wrapFrom_eq, hpieces, hsource]

/-- Whatever shapes labels are marked for, only quotes are added. -/
theorem withoutQuotes_wrapAll (icons : List Text) (ss : List Shape) (t : Text) :
    withoutQuotes (wrapAll icons ss t) = withoutQuotes t := by
  induction ss generalizing t with
  | nil => rfl
  | cons s ss ih => exact (ih _).trans (withoutQuotes_wrap s icons t)

/-- Wrapping a line adds no newline. -/
theorem newline_mem_wrapLine (icons : List Text) (line : Text) :
    '\n' ∈ wrapLine icons line ↔ '\n' ∈ line := by
  have hnewline : ¬IsQuote '\n' := by decide
  rw [← mem_withoutQuotes hnewline, wrapLine_eq, withoutQuotes_wrapAll, mem_withoutQuotes hnewline]

/-! ## Whether something is marked -/

/-- Either no label of the shape is marked, or there is an opening mark afterwards. -/
theorem wrap_cases (s : Shape) (icons : List Text) (t : Text) :
    (s.marked icons t = [] ∧ s.wrap icons t = t) ∨
      ∃ a b, s.wrap icons t = a ++ (Mark.opening.text ++ b) := by
  have hsource : (s.pieces icons 0 false t).flatMap Piece.source = t := s.source_pieces icons 0 false t
  rw [Shape.wrap, Shape.wrapFrom_eq, Shape.marked]
  generalize s.pieces icons 0 false t = ps at hsource
  cases hlabels : ps.filterMap Piece.label? with
  | nil =>
    refine .inl ⟨rfl, hsource ▸ List.flatMap_congr fun p hp => ?_⟩
    cases p with
    | text t => rfl
    | label t => cases List.filterMap_eq_nil_iff.1 hlabels _ hp
  | cons label more =>
    obtain ⟨p, hp, hlabel⟩ := List.mem_filterMap.1 (hlabels ▸ List.mem_cons_self)
    obtain ⟨before, after, rfl⟩ := List.append_of_mem hp
    cases p with
    | text t => cases hlabel
    | label t =>
      refine .inr ⟨before.flatMap Piece.written, t ++ closeMark ++ after.flatMap Piece.written, ?_⟩
      rw [List.flatMap_append, List.flatMap_cons, Piece.written, Mark.text, List.append_assoc]

/-- A mark stays what it is, whatever shapes come after. -/
theorem wrapAll_cases {icons : List Text} {ss : List Shape} (hss : ∀ s ∈ ss, s.IsPlain) (t : Text) :
    ((∀ s ∈ ss, s.marked icons t = []) ∧ wrapAll icons ss t = t) ∨
      ∃ a b, wrapAll icons ss t = a ++ (Mark.opening.text ++ b) := by
  induction ss with
  | nil => exact .inl ⟨List.forall_mem_nil _, rfl⟩
  | cons s ss ih =>
    obtain ⟨-, hlater⟩ := List.forall_mem_cons.1 hss
    have hcons : wrapAll icons (s :: ss) t = wrapAll icons ss (s.wrap icons t) := rfl
    rw [hcons]
    rcases wrap_cases s icons t with ⟨hmarked, hwrap⟩ | ⟨a, b, hwrap⟩
    · rw [hwrap, List.forall_mem_cons]
      exact (ih hlater).imp_left fun ⟨hmore, hsame⟩ => ⟨⟨hmarked, hmore⟩, hsame⟩
    · exact .inr ⟨_, _, hwrap ▸ wrapAll_append_mark hlater .opening a b⟩

/-- Either there is nothing to mark in a line, or it has an opening mark afterwards. -/
theorem wrapLine_cases (icons : List Text) (line : Text) :
    ((∀ s ∈ shapes, s.marked icons line = []) ∧ wrapLine icons line = line) ∨
      openMark <:+: wrapLine icons line := by
  refine (wrapAll_cases isPlain_of_mem_shapes line).imp_right ?_
  rintro ⟨a, b, h⟩
  exact ⟨a, b, (List.append_assoc ..).trans h.symm⟩

/-! ## Lines that are left as they are -/

/-- A line that begins or ends front matter. -/
def IsRule (line : Text) : Prop := trim line = ['-', '-', '-']

instance (line : Text) : Decidable (IsRule line) := inferInstanceAs (Decidable (_ = _))

/-- What comes after these lines is front matter: it has begun and not ended. -/
def InFrontMatter (before : List Text) : Prop := before.countP (IsRule ·) % 2 = 1

instance (before : List Text) : Decidable (InFrontMatter before) := inferInstanceAs (Decidable (_ = _))

/-- The line after these lines is left as it is. -/
def IsExempt (before : List Text) (line : Text) : Prop :=
  IsRule line ∨ InFrontMatter before ∨ isKept line

instance (before : List Text) (line : Text) : Decidable (IsExempt before line) :=
  inferInstanceAs (Decidable (_ ∨ _))

/-- A rule changes whether what comes next is front matter, and no other line does. -/
theorem inFrontMatter_concat (before : List Text) (line : Text) :
    InFrontMatter (before ++ [line]) ↔ (IsRule line ↔ ¬InFrontMatter before) := by
  unfold InFrontMatter
  rw [List.countP_append, List.countP_singleton]
  by_cases h : IsRule line
  · simp only [h, decide_true, if_true, true_iff]
    omega
  · simp [h]

/-- A rule is left as it is, and changes whether what comes next is front matter. -/
theorem wrapLines_of_isRule {line : Text} (h : IsRule line) (icons : List Text) (inFrontMatter : Bool)
    (rest : List Text) : wrapLines icons inFrontMatter (line :: rest) =
      line :: wrapLines icons (!inFrontMatter) rest := if_pos h

/-- A line that is no rule is wrapped if it is neither front matter nor kept. -/
theorem wrapLines_of_not_isRule {line : Text} (h : ¬IsRule line) (icons : List Text)
    (inFrontMatter : Bool) (rest : List Text) : wrapLines icons inFrontMatter (line :: rest) =
      (if inFrontMatter || isKept line then line else wrapLine icons line) ::
        wrapLines icons inFrontMatter rest := if_neg h

/-- What becomes of the line after these lines. -/
def wrapAfter (icons : List Text) (before : List Text) (line : Text) : Text :=
  if IsExempt before line then line else wrapLine icons line

/-- A line is wrapped by what the lines before it say. -/
theorem wrapLines_cons (icons : List Text) (before : List Text) (line : Text) (rest : List Text) :
    wrapLines icons (InFrontMatter before) (line :: rest) =
      wrapAfter icons before line :: wrapLines icons (InFrontMatter (before ++ [line])) rest := by
  rw [wrapAfter]
  by_cases hrule : IsRule line
  · have hflip : (!decide (InFrontMatter before)) = decide (InFrontMatter (before ++ [line])) := by
      rw [← decide_not]
      exact decide_eq_decide.2 (by rw [inFrontMatter_concat, iff_true_intro hrule, true_iff])
    rw [wrapLines_of_isRule hrule, if_pos (.inl hrule), hflip]
  · have hstay : decide (InFrontMatter before) = decide (InFrontMatter (before ++ [line])) :=
      decide_eq_decide.2 (by rw [inFrontMatter_concat, iff_false_intro hrule, false_iff, not_not])
    have hkept : (decide (InFrontMatter before) || isKept line) = true ↔ IsExempt before line := by
      rw [Bool.or_eq_true, decide_eq_true_iff]
      exact ⟨.inr, fun h => h.resolve_left hrule⟩
    rw [wrapLines_of_not_isRule hrule, ← hstay]
    simp only [hkept]

/-- Wrapping keeps the number of lines. -/
theorem length_wrapLines (icons : List Text) (inFrontMatter : Bool) (ls : List Text) :
    (wrapLines icons inFrontMatter ls).length = ls.length := by
  induction ls generalizing inFrontMatter with
  | nil => rfl
  | cons line rest ih =>
    rw [wrapLines]
    split
    · rw [List.length_cons, List.length_cons, ih]
    · rw [List.length_cons, List.length_cons, ih]

/-- Line `i` is wrapped by what the lines before it say. -/
theorem getElem?_wrapLines (icons : List Text) (before ls : List Text) (i : Nat) :
    (wrapLines icons (InFrontMatter before) ls)[i]? =
      ls[i]?.map (wrapAfter icons (before ++ ls.take i)) := by
  induction ls generalizing before i with
  | nil => rfl
  | cons line rest ih =>
    rw [wrapLines_cons]
    cases i with
    | zero => rw [List.take_zero, List.append_nil]; rfl
    | succ i =>
      rw [List.getElem?_cons_succ, List.getElem?_cons_succ, ih, List.take_succ_cons,
        List.append_assoc, List.singleton_append]

/-! ## The whole diagram -/

/-- The lines of wrapped code are the wrapped lines. -/
theorem lines_wrap (icons : List Text) (code : Text) :
    lines (wrap icons code) = wrapLines icons false (lines code) := by
  refine Text.lines_unlines (fun hnil => ?_) fun line hline => ?_
  · have hlength := length_wrapLines icons false (lines code)
    rw [hnil] at hlength
    exact Text.lines_ne_nil code (List.length_eq_zero_iff.1 hlength.symm)
  · obtain ⟨i, hi⟩ := List.getElem?_of_mem hline
    have hbefore : false = decide (InFrontMatter []) := by decide
    rw [hbefore, getElem?_wrapLines] at hi
    obtain ⟨source, hsource, rfl⟩ := Option.map_eq_some_iff.1 hi
    have hnewline : '\n' ∉ source := Text.newline_notMem_of_mem_lines (List.mem_of_getElem? hsource)
    unfold wrapAfter
    split
    · exact hnewline
    · rwa [newline_mem_wrapLine]

/-- What becomes of a line does not depend on the lines after it. -/
theorem getElem?_lines_wrap (icons : List Text) (code : Text) (i : Nat) :
    (lines (wrap icons code))[i]? =
      (lines code)[i]?.map (wrapAfter icons ((lines code).take i)) := by
  rw [lines_wrap]
  exact getElem?_wrapLines icons [] (lines code) i

/-- Marking the labels of a diagram keeps its lines. Each line has the same characters before and after,
apart from quotes; those that begin or end front matter or stand in it, comments, and lines with an
opening mark are left as they are, and in each other line the labels are marked. -/
theorem wrap_loses_nothing (icons : List Text) (code : Text) :
    (lines (wrap icons code)).length = (lines code).length ∧
      ∀ i line, (lines code)[i]? = some line → ∃ wrapped, (lines (wrap icons code))[i]? = some wrapped ∧
        withoutQuotes wrapped = withoutQuotes line ∧
        (IsExempt ((lines code).take i) line → wrapped = line) ∧
        (¬IsExempt ((lines code).take i) line → wrapped = wrapLine icons line) := by
  refine ⟨by rw [lines_wrap, length_wrapLines], fun i line hline => ?_⟩
  refine ⟨wrapAfter icons ((lines code).take i) line, ?_, ?_, fun h => if_pos h, fun h => if_neg h⟩
  · rw [getElem?_lines_wrap, hline, Option.map_some]
  · unfold wrapAfter
    split
    · rfl
    · rw [wrapLine_eq, withoutQuotes_wrapAll]

/-- A line of front matter is left as it is; the line after it has its label marked. -/
theorem wrap_loses_nothing_front_matter :
    (lines "---\nt: X[y]\n---\nC[z]".toList)[1]? = some "t: X[y]".toList ∧
      IsExempt ["---".toList] "t: X[y]".toList ∧
      (lines (wrap ["fa:".toList] "---\nt: X[y]\n---\nC[z]".toList))[1]? = some "t: X[y]".toList ∧
      ¬IsExempt ["---".toList, "t: X[y]".toList, "---".toList] "C[z]".toList ∧
      (lines (wrap ["fa:".toList] "---\nt: X[y]\n---\nC[z]".toList))[3]? =
        some "C[\"\x60z\x60\"]".toList := by
  have hkeeps := (wrap_loses_nothing ["fa:".toList] "---\nt: X[y]\n---\nC[z]".toList).2
  have hinside : IsExempt ["---".toList] "t: X[y]".toList := by decide
  have houtside : ¬IsExempt ["---".toList, "t: X[y]".toList, "---".toList] "C[z]".toList := by decide
  obtain ⟨first, hfirst, -, hsame, -⟩ := hkeeps 1 "t: X[y]".toList (by decide)
  obtain ⟨last, hlast, -, -, hmarked⟩ := hkeeps 3 "C[z]".toList (by decide)
  have hlabel : wrapLine ["fa:".toList] "C[z]".toList = "C[\"\x60z\x60\"]".toList := by decide +kernel
  exact ⟨by decide, hinside, hsame hinside ▸ hfirst, houtside, hlabel ▸ hmarked houtside ▸ hlast⟩

/-- A line with an opening mark is left as it is. -/
theorem isKept_of_openMark {line : Text} (h : openMark <:+: line) : isKept line := by
  rw [isKept, Text.includes_iff.2 h, Bool.or_true]

/-- A line with an opening mark has more in it than three hyphens. -/
theorem not_isRule_of_openMark {line : Text} (h : openMark <:+: line) : ¬IsRule line := by
  intro hrule
  obtain ⟨after, hline, hafter⟩ := Text.exists_trim line
  have hdashes : trim line = ['-', '-', '-'] := hrule
  have hquote : '"' ∈ line := h.subset List.mem_cons_self
  rw [hline, hdashes, List.mem_append, List.mem_append] at hquote
  rcases hquote with hquote | hquote | hquote
  · exact absurd (Text.isBlank_of_mem_leadingBlanks hquote) (by decide)
  · exact absurd hquote (by decide)
  · exact absurd (hafter _ hquote) (by decide)

/-- Wrapping lines again changes nothing. -/
theorem wrapLines_wrapLines (icons : List Text) (inFrontMatter : Bool) (ls : List Text) :
    wrapLines icons inFrontMatter (wrapLines icons inFrontMatter ls) =
      wrapLines icons inFrontMatter ls := by
  induction ls generalizing inFrontMatter with
  | nil => rfl
  | cons line rest ih =>
    by_cases hrule : IsRule line
    · rw [wrapLines_of_isRule hrule, wrapLines_of_isRule hrule, ih]
    · rw [wrapLines_of_not_isRule hrule]
      split
      · next hkept => rw [wrapLines_of_not_isRule hrule, if_pos hkept, ih]
      · next hkept =>
        rcases wrapLine_cases icons line with ⟨-, hsame⟩ | hmark
        · rw [hsame, wrapLines_of_not_isRule hrule, if_neg hkept, hsame, ih]
        · have hkept' : (inFrontMatter || isKept (wrapLine icons line)) = true := by
            rw [isKept_of_openMark hmark, Bool.or_true]
          rw [wrapLines_of_not_isRule (not_isRule_of_openMark hmark), if_pos hkept', ih]

/-- Marking the labels of a diagram twice is the same as marking them once, since a line that is not left
as it is has no labels any more that would be marked. -/
theorem wrap_wrap (icons : List Text) (code : Text) :
    wrap icons (wrap icons code) = wrap icons code ∧
      ∀ i line, (lines (wrap icons code))[i]? = some line →
        ¬IsExempt ((lines (wrap icons code)).take i) line → ∀ s ∈ shapes, s.marked icons line = [] := by
  have hlines : wrapLines icons false (lines (wrap icons code)) = lines (wrap icons code) := by
    rw [lines_wrap, wrapLines_wrapLines]
  have hagain : wrap icons (wrap icons code) = wrap icons code := by
    have hjoined := congrArg unlines hlines
    rwa [Text.unlines_lines] at hjoined
  refine ⟨hagain, fun i line hline hexempt => ?_⟩
  have hsame : wrapLine icons line = line := by
    have hwrapped := getElem?_lines_wrap icons (wrap icons code) i
    rw [hagain, hline, Option.map_some, wrapAfter, if_neg hexempt] at hwrapped
    exact (Option.some.inj hwrapped).symm
  refine (wrapLine_cases icons line).elim And.left fun hmark => ?_
  exact absurd (.inr (.inr (isKept_of_openMark (hsame ▸ hmark)))) hexempt

/-- The label of one node is marked and that of the other is an icon: there is nothing left to mark. -/
theorem wrap_wrap_icon :
    (lines (wrap ["fa:".toList] "A[x]\nB(fa:y)".toList))[1]? = some "B(fa:y)".toList ∧
      ¬IsExempt ["A[\"\x60x\x60\"]".toList] "B(fa:y)".toList ∧
      ∀ s ∈ shapes, s.marked ["fa:".toList] "B(fa:y)".toList = [] := by
  have hwrapped : wrap ["fa:".toList] "A[x]\nB(fa:y)".toList =
      "A[\"\x60x\x60\"]\nB(fa:y)".toList := by decide +kernel
  have hline : (lines (wrap ["fa:".toList] "A[x]\nB(fa:y)".toList))[1]? = some "B(fa:y)".toList := by
    rw [hwrapped]
    decide
  have hbefore : (lines (wrap ["fa:".toList] "A[x]\nB(fa:y)".toList)).take 1 =
      ["A[\"\x60x\x60\"]".toList] := by
    rw [hwrapped]
    decide
  have hexempt : ¬IsExempt ["A[\"\x60x\x60\"]".toList] "B(fa:y)".toList := by
    decide +kernel
  have hsettled := (wrap_wrap ["fa:".toList] "A[x]\nB(fa:y)".toList).2 1 _ hline
  rw [hbefore] at hsettled
  exact ⟨hline, hexempt, hsettled hexempt⟩

end LiveMarkdown.Diagram
