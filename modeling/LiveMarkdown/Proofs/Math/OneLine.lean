import LiveMarkdown.Math.Display
import LiveMarkdown.Proofs.Markdown.Slice
import LiveMarkdown.Proofs.Markdown.Spread.Lines
import LiveMarkdown.Proofs.Math.Separate
import LiveMarkdown.Proofs.Text.Pattern
import LiveMarkdown.Proofs.Text.Trim

/-!
# Formulas on one line

`formulaLines` are the lines that hold a formula between two pairs of dollar signs and are put on
three lines each when a text is prepared. All other lines of a text without a line `\[` stay as they
are (`widens_displayLines`), so that the lines of the prepared text are those of the text, spread.

To the block reader as well: where only spaces and tabs stand before the formulas, the scope of the
prepared lines is that of the lines, spread (`spreads_ofLines`). On the middle one of the three lines
nothing closes the display math, since a formula on one line has no two dollar signs in a row.
-/

namespace LiveMarkdown

open Markdown (Line Scope spread isSpace leadingSpace spread_mono spread_lt_spread spread_succ_of_mem
  spread_succ_of_notMem body_ofText length_ofLines_le getElem?_ofLines)

namespace Math

/-- The numbers of the lines that hold a formula on one line, when the first line stands in
`region`. -/
def formulaLines : Region → List Text → List Nat
  | _, [] => []
  | .outside, line :: rest =>
    let trimmed := Text.trim line
    match fence? trimmed with
    | some (mark, count) => (formulaLines (.fence mark count) rest).map (· + 1)
    | none =>
      if trimmed = ['\\', '['] then (formulaLines (.bracket line []) rest).map (· + 1)
      else match oneLine? trimmed with
        | some _ => 0 :: (formulaLines .outside rest).map (· + 1)
        | none => (formulaLines .outside rest).map (· + 1)
  | .fence mark count, line :: rest =>
    let region := if closesFence mark count (Text.trim line) then .outside else .fence mark count
    (formulaLines region rest).map (· + 1)
  | .bracket opening held, line :: rest =>
    let region := if Text.trim line = ['\\', ']'] then .outside else .bracket opening (line :: held)
    (formulaLines region rest).map (· + 1)

end Math

/-! ## Formulas without pairs of dollar signs -/

namespace Math

/-- A character that is not the first of two dollar signs begins no pair. -/
theorem countPairs_cons {c : Char} {t : Text} (h : ∀ rest, c = '$' → t ≠ '$' :: rest) :
    countPairs (c :: t) = countPairs t := countPairs.eq_2 c t fun rest hc => h rest hc

/-- One more character in front takes no pair away, and adds at most one. -/
theorem countPairs_le_cons (c : Char) (t : Text) :
    countPairs t ≤ countPairs (c :: t) ∧ countPairs (c :: t) ≤ countPairs t + 1 := by
  induction t generalizing c with
  | nil =>
    rw [countPairs_cons fun _ _ => (List.cons_ne_nil _ _).symm]
    omega
  | cons d rest ih =>
    by_cases hpair : c = '$' ∧ d = '$'
    · obtain ⟨rfl, rfl⟩ := hpair
      have hpair : countPairs ('$' :: '$' :: rest) = countPairs rest + 1 := rfl
      have hrest := ih '$'
      omega
    · rw [countPairs_cons fun more hc hd => hpair ⟨hc, (List.cons.inj hd).1⟩]
      omega

/-- A text in front takes no pair away. -/
theorem countPairs_le_append (front t : Text) : countPairs t ≤ countPairs (front ++ t) := by
  induction front with
  | nil => exact Nat.le_refl _
  | cons c front ih => exact Nat.le_trans ih (countPairs_le_cons c _).1

/-- A formula on one line stands between two pairs of dollar signs and has none in it. -/
theorem of_oneLine? {trimmed formula : Text} (h : oneLine? trimmed = some formula) :
    trimmed = dollars ++ (formula ++ dollars) ∧ formula ≠ [] ∧ ¬dollars <:+: formula := by
  unfold oneLine? at h
  split at h
  · next hcond =>
    simp only [Bool.and_eq_true, decide_eq_true_eq] at hcond
    obtain ⟨⟨⟨hstart, hend⟩, hlength⟩, hpairs⟩ := hcond
    obtain ⟨rest, rfl⟩ := List.isPrefixOf_iff_prefix.1 hstart
    have hrest : dollars <:+ rest := by
      have hend : dollars <:+ '$' :: '$' :: rest := List.isSuffixOf_iff_suffix.1 hend
      have hlong : 3 ≤ rest.length := by simpa using hlength
      rcases List.suffix_cons_iff.1 hend with heq | hend
      · obtain rfl : rest = [] := by simpa using heq.symm
        exact absurd hlong (by decide)
      · rcases List.suffix_cons_iff.1 hend with heq | hend
        · obtain rfl : rest = ['$'] := by simpa using heq.symm
          exact absurd hlong (by decide)
        · exact hend
    obtain ⟨middle, rfl⟩ := hrest
    have hmiddle : Text.slice (dollars ++ (middle ++ dollars)) 2
        ((dollars ++ (middle ++ dollars)).length - 2) = middle := by
      simp [Text.slice]
    rw [hmiddle] at h
    cases h
    refine ⟨rfl, ?_, ?_⟩
    · rintro rfl
      simp at hlength
    · rintro ⟨front, back, rfl⟩
      have hback := countPairs_le_append back dollars
      have hfront := countPairs_le_append front (dollars ++ (back ++ dollars))
      simp only [List.append_assoc] at hpairs hfront
      have hone : countPairs dollars = 1 := rfl
      have htwo : countPairs (dollars ++ (back ++ dollars)) = countPairs (back ++ dollars) + 1 := rfl
      have hall : countPairs (dollars ++ (front ++ (dollars ++ (back ++ dollars)))) =
        countPairs (front ++ (dollars ++ (back ++ dollars))) + 1 := rfl
      omega
  · cases h

end Math

/-! ## Lines of the prepared text -/

/-- The lines of `ls'` are those of `ls`, and three lines each for the formulas on the `wide` ones. -/
structure Widens (wide : List Nat) (ls ls' : List Text) : Prop where
  length : ls'.length = spread wide ls.length
  kept : ∀ i t, ls[i]? = some t → i ∉ wide → ls'[spread wide i]? = some t
  formula : ∀ i ∈ wide, ∃ t formula, ls[i]? = some t ∧ Math.oneLine? (Text.trim t) = some formula ∧
    ls'[spread wide i]? = some (Text.leadingBlanks t ++ Math.dollars) ∧
    ls'[spread wide i + 1]? = some (Text.leadingBlanks t ++ Text.trim formula) ∧
    ls'[spread wide i + 2]? = some (Text.leadingBlanks t ++ Math.dollars)
  mem : ∀ u ∈ ls', u ∈ ls ∨ ∃ t ∈ ls, ∃ part, part <:+: t ∧ u = Text.leadingBlanks t ++ part

/-- The first of some lines is counted by itself. -/
theorem countP_range_succ (p : Nat → Bool) (i : Nat) :
    (List.range (i + 1)).countP p = (List.range i).countP (fun j => p (j + 1)) +
      (if p 0 then 1 else 0) := by
  rw [List.range_succ_eq_map, List.countP_cons, List.countP_map]
  rfl

/-- When one more line comes first, and it is not wide, line `i + 1` is where line `i` was, one
further down. -/
theorem spread_map_succ (wide : List Nat) (i : Nat) :
    spread (wide.map (· + 1)) (i + 1) = spread wide i + 1 := by
  rw [spread, spread, countP_range_succ]
  simp only [List.mem_map, Nat.add_right_cancel_iff, exists_eq_right, Nat.add_one_ne_zero, and_false,
    exists_false, decide_false, if_neg Bool.false_ne_true]
  omega

/-- When one more line comes first, and it is wide, line `i + 1` is where line `i` was, three
further down. -/
theorem spread_zero_cons (wide : List Nat) (i : Nat) :
    spread (0 :: wide.map (· + 1)) (i + 1) = spread wide i + 3 := by
  rw [spread, spread, countP_range_succ]
  simp only [List.mem_cons, List.mem_map, Nat.add_right_cancel_iff, exists_eq_right,
    Nat.add_one_ne_zero, false_or, true_or, decide_true, if_true]
  omega

namespace Widens

variable {wide : List Nat} {ls ls' : List Text}

/-- What is written for lines is written for more lines. -/
theorem mem_cons (h : Widens wide ls ls') (line : Text) {u : Text} (hu : u ∈ ls') :
    u ∈ line :: ls ∨ ∃ t ∈ line :: ls, ∃ part, part <:+: t ∧ u = Text.leadingBlanks t ++ part :=
  (h.mem u hu).imp (List.mem_cons_of_mem _) fun ⟨t, ht, hpart⟩ => ⟨t, List.mem_cons_of_mem _ ht, hpart⟩

/-- A line before them that stays as it is. -/
theorem keep (h : Widens wide ls ls') (line : Text) :
    Widens (wide.map (· + 1)) (line :: ls) (line :: ls') where
  length := by rw [List.length_cons, List.length_cons, spread_map_succ, h.length]
  kept i t ht hi := by
    cases i with
    | zero => exact ht
    | succ i =>
      rw [spread_map_succ, List.getElem?_cons_succ]
      exact h.kept i t ht (by simpa using hi)
  formula i hi := by
    obtain ⟨j, hj, rfl⟩ := List.mem_map.1 hi
    simpa only [spread_map_succ, List.getElem?_cons_succ, Nat.add_right_comm _ 1] using h.formula j hj
  mem u hu := by
    rcases List.mem_cons.1 hu with rfl | hu
    · exact .inl List.mem_cons_self
    · exact h.mem_cons line hu

/-- A line before them that holds a formula. -/
theorem widen (h : Widens wide ls ls') {line formula : Text}
    (hline : Math.oneLine? (Text.trim line) = some formula) :
    Widens (0 :: wide.map (· + 1)) (line :: ls)
      ((Text.leadingBlanks line ++ Math.dollars) ::
        (Text.leadingBlanks line ++ Text.trim formula) ::
        (Text.leadingBlanks line ++ Math.dollars) :: ls') where
  length := by
    rw [List.length_cons, List.length_cons, List.length_cons, List.length_cons, spread_zero_cons,
      h.length]
  kept i t ht hi := by
    cases i with
    | zero => exact absurd List.mem_cons_self hi
    | succ i =>
      rw [spread_zero_cons]
      simp only [List.getElem?_cons_succ]
      exact h.kept i t ht (by simpa using hi)
  formula i hi := by
    rcases List.mem_cons.1 hi with rfl | hi
    · exact ⟨line, formula, rfl, hline, rfl, rfl, rfl⟩
    · obtain ⟨j, hj, rfl⟩ := List.mem_map.1 hi
      simpa only [spread_zero_cons, List.getElem?_cons_succ, Nat.add_right_comm _ 3] using
        h.formula j hj
  mem u hu := by
    obtain ⟨htrim, -⟩ := Math.of_oneLine? hline
    have hpart (part : Text) (hu : u = Text.leadingBlanks line ++ part)
        (hpart : part <:+: Math.dollars ++ (formula ++ Math.dollars)) :
        u ∈ line :: ls ∨ ∃ t ∈ line :: ls, ∃ part, part <:+: t ∧ u = Text.leadingBlanks t ++ part :=
      .inr ⟨line, List.mem_cons_self, part, hpart.trans (htrim ▸ Text.trim_infix line), hu⟩
    have hdollars : Math.dollars <:+: Math.dollars ++ (formula ++ Math.dollars) :=
      (List.prefix_append ..).isInfix
    rcases List.mem_cons.1 hu with hu | hu
    · exact hpart _ hu hdollars
    rcases List.mem_cons.1 hu with hu | hu
    · exact hpart _ hu ((Text.trim_infix formula).trans ⟨Math.dollars, Math.dollars, List.append_assoc ..⟩)
    rcases List.mem_cons.1 hu with hu | hu
    · exact hpart _ hu hdollars
    · exact h.mem_cons line hu

end Widens

/-- Preparing a text without brackets spreads its formulas on one line. -/
theorem widens_displayLines {region : Math.Region} {ls : List Text}
    (hregion : ∀ opening held, region ≠ .bracket opening held)
    (h : ∀ line ∈ ls, Text.trim line ≠ ['\\', '[']) :
    Widens (Math.formulaLines region ls) ls (Math.displayLines region ls) := by
  induction ls generalizing region with
  | nil =>
    cases region with
    | bracket opening held => exact absurd rfl (hregion opening held)
    | _ => exact ⟨rfl, nofun, nofun, nofun⟩
  | cons line rest ih =>
    have hline := h line List.mem_cons_self
    have hrest {region : Math.Region} (hregion : ∀ opening held, region ≠ .bracket opening held) :=
      ih hregion fun l hl => h l (List.mem_cons_of_mem _ hl)
    cases region with
    | bracket opening held => exact absurd rfl (hregion opening held)
    | fence mark count =>
      rw [Math.displayLines, Math.formulaLines]
      split
      · exact (hrest (by nofun)).keep line
      · exact (hrest (by nofun)).keep line
    | outside =>
      rw [Math.displayLines, Math.formulaLines]
      cases Math.fence? (Text.trim line) with
      | some fence => exact (hrest (by nofun)).keep line
      | none =>
        dsimp only
        rw [if_neg hline, if_neg hline]
        cases hformula : Math.oneLine? (Text.trim line) with
        | some formula => exact (hrest (by nofun)).widen hformula
        | none => exact (hrest (by nofun)).keep line

/-! ## The block reader's lines -/

namespace Markdown.Scope

/-- Nothing closes display math on a line without two dollar signs in a row. -/
theorem mathClosing?_eq_none {body : Text} (h : ¬Math.dollars <:+: body) :
    mathClosing? body = none := by
  have hend : Text.endsWith (Text.trim body) ['$', '$'] = false := Bool.eq_false_iff.2 fun hend =>
    h ((List.isSuffixOf_iff_suffix.1 hend).isInfix.trans (Text.trim_infix body))
  have hlabel : mathLabel? body = none := by
    refine Option.eq_none_iff_forall_ne_some.2 fun r hr => h ?_
    obtain ⟨a, hfront, ha⟩ := Pattern.leads_of_follow hr
    obtain ⟨b, hlabel, hb⟩ := Pattern.leads_of_follow ha
    obtain ⟨c, hclose, -⟩ := Pattern.leads_of_follow hb
    -- the dollar signs are the last of what the pattern matches, backwards
    have hends : Math.dollars ++ c.rest <:+ body.reverse := by
      refine .trans ?_ (hlabel.suffix.trans hfront.suffix)
      cases hclose with
      | seq hopen hdollars =>
        refine .trans ?_ hopen.suffix
        cases hdollars with
        | seq hdollar hlast =>
          cases hdollar with
          | one hfirst =>
            cases hlast with
            | one hsecond =>
              rw [of_decide_eq_true hfirst, of_decide_eq_true hsecond]
              exact List.suffix_rfl
    obtain ⟨front, hbody⟩ := hends
    refine ⟨c.rest.reverse, front.reverse, ?_⟩
    rw [← List.reverse_reverse body, ← hbody]
    simp
  rw [mathClosing?, hend, if_neg Bool.false_ne_true, hlabel]
  rfl

end Markdown.Scope

/-- The indentation does not depend on what is indented. -/
theorem Markdown.leadingSpace_append {lead : Text} (hlead : ∀ c ∈ lead, isSpace c) (column : Nat)
    {c : Char} (hc : isSpace c = false) (rest : Text) :
    leadingSpace column (lead ++ c :: rest) = leadingSpace column lead := by
  induction lead generalizing column with
  | nil => exact if_neg (Bool.eq_false_iff.1 hc)
  | cons d lead ih =>
    have hd := hlead d List.mem_cons_self
    rw [List.cons_append, leadingSpace, leadingSpace, if_pos hd, if_pos hd,
      ih (fun c hc => hlead c (List.mem_cons_of_mem _ hc))]

section

variable {t formula : Text} (hline : Math.oneLine? (Text.trim t) = some formula)
  (hspace : ∀ c ∈ Text.leadingBlanks t, isSpace c)
include hline hspace

/-- What stands on the line of a formula after spaces and tabs. -/
theorem exists_body_of_oneLine? : ∃ after,
    t.dropWhile isSpace = Text.trim t ++ after ∧ ∀ c ∈ after, Text.isBlank c := by
  obtain ⟨after, ht, hafter⟩ := Text.exists_trim t
  refine ⟨after, ?_, hafter⟩
  conv_lhs => rw [ht]
  rw [List.dropWhile_append_of_pos hspace, (Math.of_oneLine? hline).1]
  rfl

/-- A line with a formula is the formula's line when its blanks are taken off. -/
theorem trim_body_of_oneLine? (terminated : Bool) :
    Text.trim (Line.ofText terminated t).body = Text.trim t := by
  obtain ⟨after, hbody, hafter⟩ := exists_body_of_oneLine? hline hspace
  have hbefore : ∀ c ∈ ([] : Text), Text.isBlank c := nofun
  rw [body_ofText, hbody]
  exact (Text.trim_append_append hbefore hafter _).trans (Text.trim_trim t)

/-- The dollar signs after the formula close it. -/
theorem mathClosing?_of_oneLine? (terminated : Bool) :
    Scope.mathClosing? (Line.ofText terminated t).body =
      some (none, 2 + ((Line.ofText terminated t).body.length - (Text.trim t).length)) := by
  have hend : Text.endsWith (Text.trim t) ['$', '$'] := by
    rw [(Math.of_oneLine? hline).1, ← List.append_assoc]
    exact List.isSuffixOf_iff_suffix.2 (List.suffix_append ..)
  rw [Scope.mathClosing?, trim_body_of_oneLine? hline hspace, if_pos hend]

omit hspace in
/-- Between the dollar signs stands the formula. -/
theorem between_dollars (after : Text) :
    ((Text.trim t ++ after).drop 2).take ((Text.trim t ++ after).length -
      (2 + ((Text.trim t ++ after).length - (Text.trim t).length)) - 2) = formula := by
  obtain ⟨htrim, -⟩ := Math.of_oneLine? hline
  have hlength : (Text.trim t ++ after).length -
      (2 + ((Text.trim t ++ after).length - (Text.trim t).length)) - 2 = formula.length := by
    rw [htrim]
    simp only [List.length_append, List.length_cons, List.length_nil]
    omega
  rw [hlength, htrim, List.append_assoc, List.append_assoc]
  exact List.take_left

omit hline hspace in
/-- Around the formula on a line of its own stand the indentation and the ends of lines. -/
theorem trim_threeLines (t formula : Text) :
    Text.trim (Text.unlines [[], Text.leadingBlanks t ++ Text.trim formula,
      (Text.leadingBlanks t ++ Math.dollars).take
        ((Text.leadingBlanks t ++ Math.dollars).length - 2)]) = Text.trim formula := by
  have hblank (c : Char) (hc : c ∈ '\n' :: Text.leadingBlanks t) : Text.isBlank c := by
    rcases List.mem_cons.1 hc with rfl | hc
    · rfl
    · exact Text.isBlank_of_mem_leadingBlanks hc
  have hlast : (Text.leadingBlanks t ++ Math.dollars).take
      ((Text.leadingBlanks t ++ Math.dollars).length - 2) = Text.leadingBlanks t := by
    rw [List.length_append]
    exact List.take_left
  rw [hlast]
  show Text.trim ('\n' :: (Text.leadingBlanks t ++ Text.trim formula ++ ['\n'] ++
    Text.leadingBlanks t)) = Text.trim formula
  rw [List.append_assoc, List.append_assoc, List.singleton_append, ← List.cons_append,
    Text.trim_append_append hblank hblank, Text.trim_trim]

/-- The first line that is written for a formula opens its math. -/
theorem opens_ofText (terminated terminated' : Bool) :
    (Line.ofText terminated t).Opens
      (Line.ofText terminated' (Text.leadingBlanks t ++ Math.dollars)) where
  body := by
    obtain ⟨after, hbody, -⟩ := exists_body_of_oneLine? hline hspace
    rw [body_ofText, hbody, (Math.of_oneLine? hline).1]
    exact ⟨_, rfl⟩
  closing := ⟨_, mathClosing?_of_oneLine? hline hspace terminated⟩
  body' := by
    rw [body_ofText, List.dropWhile_append_of_pos hspace]
    rfl
  indent := by
    obtain ⟨after, ht, -⟩ := Text.exists_trim t
    have hindent : leadingSpace 0 t = leadingSpace 0 (Text.leadingBlanks t) := by
      conv_lhs => rw [ht, (Math.of_oneLine? hline).1]
      exact Markdown.leadingSpace_append hspace 0 rfl _
    have hindent' := Markdown.leadingSpace_append hspace 0 (c := '$') rfl ['$']
    show ((leadingSpace 0 (Text.leadingBlanks t ++ ['$', '$'])).2 : Int) =
      (leadingSpace 0 t).2
    rw [hindent, hindent']

/-- The other lines that are written for a formula hold it and close its math. -/
theorem holds_ofText (terminated terminated' terminated'' : Bool) :
    (Line.ofText terminated t).Holds
      (Line.ofText terminated' (Text.leadingBlanks t ++ Text.trim formula))
      (Line.ofText terminated'' (Text.leadingBlanks t ++ Math.dollars)) where
  long := by
    obtain ⟨htrim, hne, -⟩ := Math.of_oneLine? hline
    have hpos := List.length_pos_iff.2 hne
    rw [trim_body_of_oneLine? hline hspace, htrim]
    simp only [List.length_append, List.length_cons, List.length_nil]
    omega
  formula size hsize := by
    obtain ⟨after, hbody, -⟩ := exists_body_of_oneLine? hline hspace
    rw [mathClosing?_of_oneLine? hline hspace, body_ofText, hbody, Option.some.injEq,
      Prod.mk.injEq] at hsize
    rw [← hsize.2, body_ofText, hbody, between_dollars hline after]
    exact (trim_threeLines t formula).symm
  middle := by
    obtain ⟨-, -, hpairs⟩ := Math.of_oneLine? hline
    refine Scope.mathClosing?_eq_none fun hmem => hpairs ?_
    rw [body_ofText, List.dropWhile_append_of_pos hspace] at hmem
    exact (hmem.trans (List.dropWhile_suffix _).isInfix).trans (Text.trim_infix formula)
  last := by
    rw [body_ofText, List.dropWhile_append_of_pos hspace]
    rfl

end

/-! ## Scopes -/

/-- What begins with a character that the front does not have lies in the rest. -/
theorem Text.infix_of_append {c : Char} {lead t part : Text} (hlead : c ∉ lead)
    (h : c :: part <:+: lead ++ t) : c :: part <:+: t := by
  induction lead with
  | nil => exact h
  | cons d lead ih =>
    rw [List.mem_cons, not_or] at hlead
    rcases List.infix_cons_iff.1 h with hfirst | hlater
    · exact absurd (List.cons_prefix_cons.1 hfirst).1 hlead.1
    · exact ih hlead.2 hlater

/-- Part of a simple line, as far indented as the line, is a simple line. -/
theorem IsSimpleLine.part {t part : Text} (h : IsSimpleLine t) (hpart : part <:+: t) :
    IsSimpleLine (Text.leadingBlanks t ++ part) := by
  have hnot {c : Char} (hc : c ∉ t) : c ∉ Text.leadingBlanks t ++ part := fun hmem =>
    (List.mem_append.1 hmem).elim (fun hlead => hc ((List.takeWhile_prefix _).subset hlead))
      fun hmem => hc (hpart.subset hmem)
  exact {
    plain := fun hlooks => h.plain <| (Text.infix_of_append (fun hmem => absurd
      (Text.isBlank_of_mem_leadingBlanks hmem) (by decide)) hlooks).trans hpart
    uniform := ⟨hnot h.uniform.1, hnot h.uniform.2⟩
    newline := hnot h.newline }

/-- A line with a formula is no empty line. -/
theorem all_isSpace_of_oneLine? {t formula : Text} (h : Math.oneLine? (Text.trim t) = some formula) :
    t.all isSpace = false := by
  have hdollar : '$' ∈ t := (Text.trim_infix t).subset <| by
    rw [(Math.of_oneLine? h).1]
    exact List.mem_cons_self
  exact Bool.eq_false_iff.2 fun hall => absurd (List.all_eq_true.1 hall _ hdollar) (by decide)

/-- A line of dollar signs is no empty line. -/
theorem all_isSpace_append_dollars (lead : Text) : (lead ++ Math.dollars).all isSpace = false := by
  rw [List.all_append]
  exact Bool.and_false _

namespace Widens

variable {wide : List Nat} {ls ls' : List Text} (h : Widens wide ls ls')
include h

/-- What is written for simple lines is simple. -/
theorem isSimpleLine (hsimple : ∀ t ∈ ls, IsSimpleLine t) : ∀ u ∈ ls', IsSimpleLine u := by
  intro u hu
  rcases h.mem u hu with hu | ⟨t, ht, part, hpart, rfl⟩
  · exact hsimple u hu
  · exact (hsimple t ht).part hpart

/-- A line that is not wide is the last one if it was the last one. -/
theorem last_iff {i : Nat} (hi : i ∉ wide) :
    spread wide i + 1 < ls'.length ↔ i + 1 < ls.length := by
  rw [h.length, ← spread_succ_of_notMem hi, spread_lt_spread]

/-- There is a line after the first and the second one of the three. -/
theorem two_lt {i : Nat} (hi : i ∈ wide) : spread wide i + 2 < ls'.length := by
  obtain ⟨t, formula, -, -, -, -, hlast⟩ := h.formula i hi
  exact (List.getElem?_eq_some_iff.1 hlast).1

/-- The last line that is one has become the last line that is one. -/
theorem limit : (Line.ofLines ls').length = spread wide (Line.ofLines ls).length := by
  refine Nat.le_antisymm (Nat.le_of_not_lt fun hlt => ?_) ?_
  · cases hline : ls[(Line.ofLines ls).length]? with
    | none =>
      have hle := spread_mono wide (List.getElem?_eq_none_iff.1 hline)
      rw [← h.length] at hle
      exact absurd (length_ofLines_le ls') (by omega)
    | some t =>
      have hempty := mt (Scope.lt_length_ofLines hline).2 (Nat.lt_irrefl _)
      rw [not_or, Bool.not_eq_false] at hempty
      have hi : (Line.ofLines ls).length ∉ wide := fun hi => by
        obtain ⟨u, formula, hu, hformula, -⟩ := h.formula _ hi
        obtain rfl : t = u := Option.some.inj (hline.symm.trans hu)
        exact absurd hempty.2 (Bool.eq_false_iff.1 (all_isSpace_of_oneLine? hformula))
      rcases (Scope.lt_length_ofLines (h.kept _ t hline hi)).1 hlt with hmore | hfilled
      · exact hempty.1 ((h.last_iff hi).1 hmore)
      · exact absurd hempty.2 (Bool.eq_false_iff.1 hfilled)
  · cases hlimit : (Line.ofLines ls).length with
    | zero => exact Nat.zero_le _
    | succ k =>
      have hlt : k < (Line.ofLines ls).length := Nat.lt_of_lt_of_eq k.lt_succ_self hlimit.symm
      by_cases hk : k ∈ wide
      · obtain ⟨t, formula, -, -, -, -, hlast⟩ := h.formula k hk
        rw [spread_succ_of_mem hk]
        exact (Scope.lt_length_ofLines hlast).2 (.inr (all_isSpace_append_dollars _))
      · have hline := List.getElem?_eq_getElem
          (Nat.lt_of_lt_of_le hlt (length_ofLines_le ls))
        rw [spread_succ_of_notMem hk]
        refine (Scope.lt_length_ofLines (h.kept k _ hline hk)).2 ?_
        exact ((Scope.lt_length_ofLines hline).1 hlt).imp_left (h.last_iff hk).2

/-- Lines that stay as they are are the same lines for the block reader. -/
theorem same {i : Nat} (hi : i ∉ wide) :
    (Scope.ofLines ls').line (spread wide i) = (Scope.ofLines ls).line i := by
  rw [Scope.line_ofLines, Scope.line_ofLines, getElem?_ofLines,
    getElem?_ofLines]
  cases hline : ls[i]? with
  | none =>
    have hle := spread_mono wide (List.getElem?_eq_none_iff.1 hline)
    rw [← h.length] at hle
    rw [List.getElem?_eq_none hle]
    rfl
  | some t =>
    rw [h.kept i t hline hi, Option.bind_some, Option.bind_some]
    simp only [h.last_iff hi]

/-- Where only spaces and tabs stand before the formulas, the block reader sees lines that spread. -/
theorem spreads_ofLines (hsimple : ∀ t ∈ ls, IsSimpleLine t)
    (hspace : ∀ i ∈ wide, ∀ t ∈ ls[i]?, (Text.leadingBlanks t).all isSpace)
    (hclear : ∀ i ∈ wide, Scope.EndsClear ls (i + 1)) {n : Nat}
    (hn : (Line.ofLines ls).length < n) :
    Scope.Spreads wide 0 n (Scope.ofLines ls) (Scope.ofLines ls') where
  indent := rfl
  listIndent := rfl
  limit := .inl ⟨Nat.le_of_lt hn, h.limit⟩
  same _ _ _ hi := h.same hi
  opens i _ _ hi := by
    obtain ⟨t, formula, ht, hline, hopen, -⟩ := h.formula i hi
    rw [Scope.line_of_getElem? ht (.inr (all_isSpace_of_oneLine? hline)),
      Scope.line_of_getElem? hopen (.inr (all_isSpace_append_dollars _))]
    exact opens_ofText hline (List.all_eq_true.1 (hspace i hi t ht)) _ _
  holds i _ _ hi := by
    obtain ⟨t, formula, ht, hline, -, hmiddle, hlast⟩ := h.formula i hi
    rw [Scope.line_of_getElem? ht (.inr (all_isSpace_of_oneLine? hline)),
      Scope.line_of_getElem? hmiddle (.inl (h.two_lt hi)),
      Scope.line_of_getElem? hlast (.inr (all_isSpace_append_dollars _))]
    exact holds_ofText hline (List.all_eq_true.1 (hspace i hi t ht)) _ _ _
  bar i _ _ hi hbar := by
    obtain ⟨t, formula, ht, hline, -⟩ := h.formula i hi
    rw [Scope.line_of_getElem? ht (.inr (all_isSpace_of_oneLine? hline)),
      body_ofText] at hbar
    exact (hclear i hi).line ht ((List.dropWhile_sublist _).subset hbar)
  ends := .inr hn
  plain := Scope.isPlain_ofLines fun t ht => ⟨(hsimple t ht).plain, (hsimple t ht).newline⟩
  plain' := Scope.isPlain_ofLines fun u hu =>
    have hsimple := h.isSimpleLine hsimple u hu
    ⟨hsimple.plain, hsimple.newline⟩

end Widens

end LiveMarkdown
