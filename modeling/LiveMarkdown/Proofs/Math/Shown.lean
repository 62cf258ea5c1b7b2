import LiveMarkdown.Proofs.Math.Places
import LiveMarkdown.Proofs.Math.Written
import Mathlib.Data.List.Sort

/-!
# Formulas on one line that are shown

A formula on one line is put on three lines, which are looked at one by one when the text is scanned,
whereas it depends on what stands around them whether the block reader takes them for display math: on
the line after one of a paragraph it does not (`formula_in_paragraph`).

It never takes part of them, though. In every scope that reads the first of the three lines, the line
only continues what is in a quote, or the three lines are there as they have been written
(`HoldsFormula`). Quotes and items keep this, since the line has the mark of neither. So display math
that begins on the line is the formula, and the formulas of a text are shown, each on its own and in
their order, exactly if display math begins where they do (`formulas_shown_iff`); in a text where they
stand apart, it does if it did so before they were put on three lines
(`formulas_shown_of_standsApart`).
-/

namespace LiveMarkdown

open Markdown (Line Moved Scope Span Token isSpace parse)

/-! ## The block reader's lines -/

namespace Markdown

/-- Three lines with an expression between two lines of dollar signs, before which there may be blanks
that are no spaces or tabs. -/
structure Line.Brackets (first middle last : Line) (expression : Text) : Prop where
  opening : ∃ blanks, (∀ c ∈ blanks, Text.isBlank c) ∧ first.body = blanks ++ Math.dollars
  within : Scope.mathClosing? middle.body = none
  closing : last.body = first.body
  content : Text.trim (Text.unlines [[], middle.chars, last.chars.take (last.chars.length - 2)]) =
    expression

namespace Line.Brackets

variable {first middle last : Line} {expression : Text}
  (h : first.Brackets middle last expression)
include h

/-- A line of dollar signs begins with one, or with a blank. -/
theorem exists_body : ∃ c rest, first.body = c :: rest ∧ (c = '$' ∨ Text.isBlank c) := by
  obtain ⟨blanks, hblank, hbody⟩ := h.opening
  cases blanks with
  | nil => exact ⟨_, _, hbody, .inl rfl⟩
  | cons c more => exact ⟨c, _, hbody, .inr (hblank c List.mem_cons_self)⟩

/-- The first line has no mark of a quote. -/
theorem unquoted : first.body.head? ≠ some '>' := by
  obtain ⟨c, rest, hbody, hc⟩ := h.exists_body
  rw [hbody, List.head?_cons]
  intro heq
  obtain rfl := Option.some.inj heq
  exact hc.elim (by decide) (by decide)

/-- It has no mark of an item either. -/
theorem unmarked : Scope.itemMark? first.body = none := by
  obtain ⟨c, rest, hbody, rfl | hc⟩ := h.exists_body
  · rw [hbody, Scope.itemMark?_of_dollar]
  · have hne {d : Char} (hd : Text.isBlank d = false) : c ≠ d := by
      rintro rfl
      rw [hc] at hd
      cases hd
    have hstar : c ≠ '*' := hne (by decide)
    have hhyphen : c ≠ '-' := hne (by decide)
    have hplus : c ≠ '+' := hne (by decide)
    rw [hbody]
    simp [Scope.itemMark?, isDigit_eq_false_of_isBlank hc, hstar, hhyphen, hplus]

/-- If it begins with dollar signs, there is nothing else on it. -/
theorem alone {rest : Text} (hbody : first.body = '$' :: '$' :: rest) : rest = [] := by
  obtain ⟨blanks, hblank, hblanks⟩ := h.opening
  rw [hblanks] at hbody
  cases blanks with
  | nil => exact (List.cons.inj (List.cons.inj hbody).2).2.symm
  | cons c more =>
    obtain rfl : c = '$' := (List.cons.inj hbody).1
    exact absurd (hblank '$' List.mem_cons_self) (by decide)

end Line.Brackets

/-- The lines that are written for a formula are such lines. -/
theorem brackets_ofText {line formula : Text} (h : Math.oneLine? (Text.trim line) = some formula)
    (terminated terminated' terminated'' : Bool) :
    (Line.ofText terminated (Text.leadingBlanks line ++ Math.dollars)).Brackets
      (Line.ofText terminated' (Text.leadingBlanks line ++ Text.trim formula))
      (Line.ofText terminated'' (Text.leadingBlanks line ++ Math.dollars)) (Text.trim formula) where
  opening := by
    refine ⟨(Text.leadingBlanks line).dropWhile isSpace, fun c hc =>
      Text.isBlank_of_mem_leadingBlanks ((List.dropWhile_sublist _).subset hc), ?_⟩
    rw [body_ofText, List.dropWhile_append]
    split
    · next hempty =>
      rw [List.isEmpty_iff.1 hempty]
      rfl
    · rfl
  within := by
    have hlead : '$' ∉ Text.leadingBlanks line := fun hmem =>
      absurd (Text.isBlank_of_mem_leadingBlanks hmem) (by decide)
    refine Scope.mathClosing?_eq_none fun hmem => (Math.of_oneLine? h).2.2 ?_
    rw [body_ofText] at hmem
    exact (Text.infix_of_append hlead (hmem.trans (List.dropWhile_suffix _).isInfix)).trans
      (Text.trim_infix formula)
  closing := by rw [body_ofText, body_ofText]
  content := trim_threeLines line formula

namespace Scope

/-- Display math that begins on the first of the three lines is made of them. -/
theorem of_math?_brackets {s : Scope} {j past next : Nat} {expression content : Text}
    {label : Option Text} (h : (s.line j).Brackets (s.line (j + 1)) (s.line (j + 2)) expression)
    (hpast : j + 2 < past) (hmath : s.math? j past = some (content, label, next)) :
    next = j + 3 ∧ Text.trim content = expression := by
  simp only [math?] at hmath
  split at hmath
  · cases hmath
  · split at hmath
    · next rest hbody =>
      obtain rfl := h.alone hbody
      have hclosing : mathClosing? (s.line (j + 2)).body = some (none, 2) := by
        rw [h.closing, hbody]
        rfl
      have hend : s.mathEnd? past (past - j) (j + 1) = some (j + 2, none, 2) := by
        rw [mathEnd?_unfold (by omega), if_neg (by omega), h.within]
        simp only
        rw [mathEnd?_unfold (by omega), if_neg (by omega), hclosing]
      have hshort : decide (3 < (Text.trim ['$', '$']).length) = false := rfl
      rw [hbody, hshort, hend] at hmath
      simp only [Bool.false_and, Bool.false_eq_true, if_false, Option.map_some] at hmath
      cases hmath
      have hbetween : s.range (j + 1) (j + 2) = [s.line (j + 1)] := by
        rw [range, Nat.add_sub_add_left]
        rfl
      rw [hbetween]
      exact ⟨rfl, h.content⟩
    · cases hmath

/-- Where the lines from `first` to `past` are read, line `j` is not read, or it only continues a
paragraph, or it is the first of three lines with the expression. -/
inductive HoldsFormula (j : Nat) (expression : Text) (s : Scope) (first past : Nat) : Prop
  | before (h : j < first)
  | behind (h : past ≤ j)
  | continued (h : (s.line j).indent < 0)
  | inside (h : (s.line j).Brackets (s.line (j + 1)) (s.line (j + 2)) expression)
      (hpast : j + 2 < past)

namespace HoldsFormula

variable {j : Nat} {expression : Text} {s : Scope} {i past : Nat}
  (h : HoldsFormula j expression s i past)
include h

/-- A formula in a quote stands in the quote's own lines. -/
theorem quote (hi : i < past) (hin : s.isOutside i = false) (hquote : s.isQuote i) :
    HoldsFormula j expression (s.quoteScope i (s.quoteTaken i past)) i (s.quoteTaken i past).2.1 := by
  by_cases htaken : i ≤ j ∧ j < (s.quoteTaken i past).2.1
  · -- a line without a mark of its own only continues what is in the quote
    have hview : (s.quoteScope i (s.quoteTaken i past)).line j = s.quoteView j := by
      rw [line_quote hquote past hin, if_pos htaken]
    have hunmarked : ((s.line j).body.head? = some '>' && !s.isOutside j) = false := by
      cases h with
      | before h => exact absurd htaken.1 (Nat.not_le.2 h)
      | behind h => exact absurd (s.quoteTaken_le hi) (by omega)
      | continued h =>
        have hout : s.isOutside j := decide_eq_true (by omega)
        rw [hout]
        exact Bool.and_false _
      | inside h => rw [decide_eq_false h.unquoted, Bool.false_and]
    refine .continued ?_
    rw [hview, quoteView, hunmarked, if_neg Bool.false_ne_true]
    exact Int.negSucc_lt_zero 0
  · rcases Nat.lt_or_ge j i with hlt | hle
    · exact .before hlt
    · exact .behind (Nat.le_of_not_lt fun hlt => htaken ⟨hle, hlt⟩)

/-- A formula in an item stands in the item's own lines. -/
theorem item {mark : ItemMark} (hin : s.isOutside i = false)
    (hmark : itemMark? (s.line i).body = some mark) :
    HoldsFormula j expression (s.itemScope i mark) i past := by
  have hfilled : s.isEmpty i = false := by
    refine Bool.eq_false_iff.2 fun hempty => ?_
    rw [body_of_isEmpty hempty] at hmark
    cases hmark
  -- the item changes no line but the one with its mark
  have hline {k : Nat} (hk : i ≠ k) : (s.itemScope i mark).line k = s.line k := by
    rw [line_item mark hfilled, if_neg hk]
  rcases Nat.lt_or_ge j i with hlt | hle
  · exact .before hlt
  · cases h with
    | before h => exact .before h
    | behind h => exact .behind h
    | continued h =>
      have hne : i ≠ j := by
        rintro rfl
        rw [isOutside, decide_eq_false_iff_not] at hin
        omega
      exact .continued (by rwa [hline hne])
    | inside h hpast =>
      have hne : i ≠ j := by
        rintro rfl
        rw [h.unmarked] at hmark
        cases hmark
      refine .inside ?_ hpast
      rwa [hline hne, hline (by omega), hline (by omega)]

end HoldsFormula

/-- Display math that begins where a formula stands is the formula. -/
theorem mathInvariant_holdsFormula (j : Nat) (expression : Text) :
    MathInvariant (HoldsFormula j expression) fun span content =>
      span.first = j → (span, content) = (⟨j, j + 3⟩, expression) where
  later h hle := by
    cases h with
    | before h => exact .before (Nat.lt_of_lt_of_le h hle)
    | behind h => exact .behind h
    | continued h => exact .continued h
    | inside h hpast => exact .inside h hpast
  math {s i past next content label} h hi hin hmath hfirst := by
    obtain rfl : i = j := hfirst
    cases h with
    | before h => exact absurd h (Nat.lt_irrefl _)
    | behind h => exact absurd hi (Nat.not_lt.2 h)
    | continued h =>
      rw [isOutside, decide_eq_false_iff_not] at hin
      omega
    | inside h hpast =>
      obtain ⟨rfl, rfl⟩ := of_math?_brackets h hpast hmath
      rfl
  quote h hi hin hquote := h.quote hi hin hquote
  item h hin hmark := h.item hin hmark

end Scope
end Markdown

/-! ## Prepared texts -/

section

variable {t : Text} (h : IsUniform t)
include h

/-- To prepare a text brings in nothing that is not read as it is. -/
theorem isUniform_preprocess : IsUniform (preprocess t) := by
  obtain ⟨stretches, hdivides⟩ := Math.exists_divides (Text.lines t)
  have hnot {c : Char} (hdollars : c ∉ Math.dollars) (hc : c ≠ '\n') (hmem : c ∉ t) :
      c ∉ preprocess t := by
    rw [preprocess, Math.normalizeDisplay, hdivides.displayLines]
    exact Text.notMem_unlines hc (hdivides.notMem_shown hdollars fun line hline hmem' =>
      hmem ((Text.infix_of_mem_lines hline).subset hmem'))
  exact ⟨hnot (by decide) (by decide) h.1, hnot (by decide) (by decide) h.2⟩

/-- What begins on the first of the three lines of a formula is the formula. -/
theorem eq_of_mem_formulaPlaces {p q : Span × Text} (hp : p ∈ formulaPlaces t)
    (hq : q ∈ places (parse (preprocess t))) (hfirst : q.1.first = p.1.first) : q = p := by
  obtain ⟨line, formula, hformula, hat, hp⟩ := of_mem_formulaPlaces hp
  have hlast := (List.getElem?_eq_some_iff.1 hat.closing).1
  have hopening := Scope.line_of_getElem? hat.opening (.inr (all_isSpace_append_dollars _))
  have hmiddle := Scope.line_of_getElem? hat.middle (.inl hlast)
  have hclosing := Scope.line_of_getElem? hat.closing (.inr (all_isSpace_append_dollars _))
  have hfits : let ls := Text.lines (preprocess t)
      Scope.HoldsFormula p.1.first (Text.trim formula) (Scope.ofLines ls) 0
        (Line.ofLines ls).length := by
    refine .inside ?_ ((Scope.lt_length_ofLines hat.closing).2 (.inr (all_isSpace_append_dollars _)))
    rw [hopening, hmiddle, hclosing]
    exact Markdown.brackets_ofText hformula _ _ _
  obtain ⟨past, hplaced⟩ :=
    Scope.arePlaced_blockTokens (Scope.mathInvariant_holdsFormula _ _) _ hfits
  rw [Markdown.places_parse, normalizeSource_of_isUniform (isUniform_preprocess h)] at hq
  rw [hp]
  exact hplaced.holds q hq hfirst

/-- Display math begins where the formula does exactly if it is the formula. -/
theorem mem_places_iff {p : Span × Text} (hp : p ∈ formulaPlaces t) :
    p ∈ places (parse (preprocess t)) ↔
      ∃ q ∈ places (parse (preprocess t)), q.1.first = p.1.first := by
  refine ⟨fun hmem => ⟨p, hmem, rfl⟩, ?_⟩
  rintro ⟨q, hq, hfirst⟩
  exact eq_of_mem_formulaPlaces h hp hq hfirst ▸ hq

omit h in
/-- Formulas and display math are both in the order of their lines. -/
theorem formulaPlaces_sublist (hsubset : formulaPlaces t ⊆ places (parse (preprocess t))) :
    (formulaPlaces t).Sublist (places (parse (preprocess t))) := by
  have hnodup : (formulaPlaces t).Nodup :=
    (pairwise_formulaPlaces t).imp fun {p q} hlt (heq : p = q) => Nat.lt_irrefl _ (heq ▸ hlt)
  have : Std.Antisymm fun p q : Span × Text => p.1.first < q.1.first :=
    ⟨fun _ _ hlt hgt => absurd hlt (Nat.lt_asymm hgt)⟩
  have hordered : (places (parse (preprocess t))).Pairwise fun p q => p.1.first < q.1.first := by
    obtain ⟨hordered, hlt⟩ := Markdown.ordered_places (preprocess t)
    exact hordered.imp_of_mem fun hp _ hle => Nat.lt_of_lt_of_le (hlt _ hp) hle
  exact List.sublist_of_subperm_of_pairwise (List.subperm_of_subset hnodup hsubset)
    (pairwise_formulaPlaces t) hordered

end

/-- A formula on one line becomes display math of its own exactly if display math begins on the first
of its three lines, whatever comes before and after it. Where this is so for all formulas of a text, the
display math that is shown has them in it in their order. -/
theorem formulas_shown_iff {t : Text} (h : IsUniform t) :
    (∀ p ∈ formulaPlaces t, p ∈ places (parse (preprocess t)) ↔
      ∃ q ∈ places (parse (preprocess t)), q.1.first = p.1.first) ∧
    ((∀ p ∈ formulaPlaces t, ∃ q ∈ places (parse (preprocess t)), q.1.first = p.1.first) →
      (formulaPlaces t).Sublist (places (parse (preprocess t))) ∧
      ((formulaPlaces t).map (·.2)).Sublist (displays (parse (preprocess t)))) := by
  refine ⟨fun p hp => mem_places_iff h hp, fun hall => ?_⟩
  have hsublist := formulaPlaces_sublist fun p hp => (mem_places_iff h hp).2 (hall p hp)
  exact ⟨hsublist, (hsublist.map _).trans (map_snd_places_sublist _)⟩

/-- A formula in an item, after a line of the item and between blank ones, and one with a line right
after it. -/
theorem formulas_shown_item :
    IsUniform "- a\n\n  $$ x $$\n\n$$y$$\nb".toList ∧
      formulaPlaces "- a\n\n  $$ x $$\n\n$$y$$\nb".toList = [(⟨2, 5⟩, ['x']), (⟨6, 9⟩, ['y'])] ∧
      [['x'], ['y']].Sublist (displays (parse (preprocess "- a\n\n  $$ x $$\n\n$$y$$\nb".toList))) := by
  have huniform : IsUniform "- a\n\n  $$ x $$\n\n$$y$$\nb".toList := by decide
  have hplaces : formulaPlaces "- a\n\n  $$ x $$\n\n$$y$$\nb".toList =
      [(⟨2, 5⟩, ['x']), (⟨6, 9⟩, ['y'])] := by decide +kernel
  have hshown := ((formulas_shown_iff huniform).2 (by decide +kernel)).2
  rw [hplaces] at hshown
  exact ⟨huniform, hplaces, hshown⟩

/-- A formula on the line after one of a paragraph, which goes on with its three lines. -/
theorem formula_in_paragraph :
    formulaPlaces "abc\n$$x$$".toList = [(⟨1, 4⟩, ['x'])] ∧
      displays (parse (preprocess "abc\n$$x$$".toList)) = [] ∧
      ¬((formulaPlaces "abc\n$$x$$".toList).map (·.2)).Sublist
        (displays (parse (preprocess "abc\n$$x$$".toList))) := by
  decide +kernel

/-! ## Formulas that stand apart -/

/-- Where tokens have moved, so has the display math among them. -/
theorem places_of_moved {wide : List Nat} {ts ts' : List Token} (h : Moved wide ts ts') :
    places ts' = (places ts).map fun p => (p.1.moved wide, p.2) := by
  have hpick (f : Span → Span) (t : Token) :
      (t.reframe (Option.map f)).place? = t.place?.map fun p => (f p.1, p.2) := by
    obtain ⟨kind, attrs, span, content, hidden⟩ := t
    cases kind with
    | math label =>
      cases span <;> simp [Token.place?, Token.display?, Token.reframe, Text.trim_trim]
    | _ => rfl
  exact h.filterMap hpick rfl

/-- Where formulas on one line stand apart, they are shown if they are display math without being
prepared. -/
theorem formulas_shown_of_standsApart {t : Text} (h : StandsApart t)
    (hshown : ∀ i ∈ formulaLines t, ∃ q ∈ places (parse t), q.1.first = i) :
    (formulaPlaces t).Sublist (places (parse (preprocess t))) := by
  rcases h.simple with hnone | hsimple
  · rw [formulaPlaces, hnone]
    exact List.nil_sublist _
  · refine formulaPlaces_sublist fun p hp => (mem_places_iff hsimple.uniform hp).2 ?_
    obtain ⟨i, hi, rfl⟩ := List.mem_map.1 hp
    obtain ⟨q, hq, rfl⟩ := hshown i hi
    rw [places_of_moved h.moved_preprocess]
    exact ⟨_, List.mem_map_of_mem hq, rfl⟩

end LiveMarkdown
