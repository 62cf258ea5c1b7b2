import LiveMarkdown.Proofs.Markdown.Excerpt

/-!
# Excerpts in containers

A quote or a list item that begins in an excerpt sees an excerpt of what it sees in the whole
(`Excerpt.quoteScope`, `Excerpt.itemScope`). The last line of the excerpt may be empty to the quote
although it is not empty itself: it is then no part of what the quote sees, as it ends it.
-/

namespace LiveMarkdown.Markdown
namespace Scope

/-! ## The lines of a quote -/

/-- A line as the quote that takes it sees it: without its mark, or as one that only continues a
paragraph. -/
def quoteView (s : Scope) (i : Nat) : Line :=
  if (s.line i).body.head? = some '>' && !s.isOutside i then quoteLine (s.line i)
  else { s.line i with indent := -1 }

/-- A quote takes lines that are not empty. -/
theorem of_quoteLines (s : Scope) (past fuel : Nat) (wasEmpty : Bool) (i : Nat) {k : Nat}
    (h : k < (s.quoteLines past fuel wasEmpty i).1.length) :
    (s.quoteLines past fuel wasEmpty i).1.getD k default = s.quoteView (i + k) ∧
      s.isEmpty (i + k) = false := by
  induction fuel generalizing wasEmpty i k with
  | zero => exact absurd h (Nat.not_lt_zero k)
  | succ fuel ih =>
    -- the first line, or one of those that are taken after it
    have hcons {l : Line} {more : List Line} {wasEmpty' : Bool}
        (hempty : s.isEmpty i = false) (hl : l = s.quoteView i)
        (hmore : more = (s.quoteLines past fuel wasEmpty' (i + 1)).1)
        (hk : k < (l :: more).length) :
        (l :: more).getD k default = s.quoteView (i + k) ∧ s.isEmpty (i + k) = false := by
      cases k with
      | zero => exact ⟨hl, hempty⟩
      | succ k =>
        subst hmore
        have hnext : i + 1 + k = i + (k + 1) := by omega
        rw [← hnext]
        exact ih _ _ (Nat.lt_of_succ_lt_succ hk)
    simp only [quoteLines] at h ⊢
    split at h
    · exact absurd h (Nat.not_lt_zero k)
    · next hend =>
      have hempty : s.isEmpty i = false := by
        rw [Bool.or_eq_true, not_or, Bool.not_eq_true, Bool.not_eq_true] at hend
        exact hend.2
      rw [if_neg hend]
      split at h
      · next hmark =>
        rw [if_pos hmark]
        exact hcons hempty (if_pos hmark).symm rfl h
      · next hmark =>
        rw [if_neg hmark]
        split at h
        · exact absurd h (Nat.not_lt_zero k)
        · next hwas =>
          rw [if_neg hwas]
          split at h
          · exact absurd h (Nat.not_lt_zero k)
          · next hinterrupts =>
            rw [if_neg hinterrupts]
            exact hcons hempty (if_neg hmark).symm rfl h

/-- A block that interrupts a quote begins at a line that is not empty. -/
theorem isEmpty_of_interrupted (s : Scope) (past fuel : Nat) (wasEmpty : Bool) (i : Nat)
    (h : (s.quoteLines past fuel wasEmpty i).2.2) :
    s.isEmpty (s.quoteLines past fuel wasEmpty i).2.1 = false := by
  induction fuel generalizing wasEmpty i with
  | zero => cases h
  | succ fuel ih =>
    simp only [quoteLines] at h ⊢
    split at h
    · cases h
    · next hend =>
      rw [if_neg hend]
      split at h
      · next hmark =>
        rw [if_pos hmark]
        exact ih _ _ h
      · next hmark =>
        rw [if_neg hmark]
        split at h
        · cases h
        · next hwas =>
          rw [if_neg hwas]
          split at h
          · next hinterrupts =>
            rw [if_pos hinterrupts]
            rw [Bool.or_eq_true, not_or, Bool.not_eq_true, Bool.not_eq_true] at hend
            exact hend.2
          · next hinterrupts =>
            rw [if_neg hinterrupts]
            exact ih _ _ h

/-- A line that is not empty is one of the lines there are. -/
theorem lt_size_of_isEmpty {s : Scope} {i : Nat} (h : s.isEmpty i = false) : i < s.lines.size := by
  refine Nat.lt_of_not_le fun hle => ?_
  rw [isEmpty, line_eq_default hle] at h
  cases h

section

variable {s : Scope} {i : Nat} (hquote : s.isQuote i) (past : Nat)
include hquote

/-- A line that begins a quote is not empty. -/
theorem isEmpty_of_isQuote : s.isEmpty i = false := by
  refine Bool.eq_false_iff.2 fun hempty => ?_
  rw [isQuote, body_of_isEmpty hempty] at hquote
  simp at hquote

/-- The lines that a quote takes are not empty. -/
theorem isEmpty_quoteTaken {k : Nat} (hik : i ≤ k) (hk : k < (s.quoteTaken i past).2.1) :
    s.isEmpty k = false := by
  rcases Nat.eq_or_lt_of_le hik with rfl | hlt
  · exact isEmpty_of_isQuote hquote
  · obtain ⟨j, rfl⟩ : ∃ j, k = i + 1 + j := ⟨k - i - 1, by omega⟩
    rw [quoteTaken_stop] at hk
    refine (s.of_quoteLines past (past - i) (quoteLine (s.line i)).isEmpty (i + 1) ?_).2
    simp only [quoteTaken, List.length_cons] at hk
    omega

/-- The lines that the quote sees. -/
theorem line_quote (hin : s.isOutside i = false) (k : Nat) :
    (s.quoteScope i (s.quoteTaken i past)).line k =
      if i ≤ k ∧ k < (s.quoteTaken i past).2.1 then s.quoteView k
      else if (s.quoteTaken i past).2.2 ∧ k = (s.quoteTaken i past).2.1 then
        { s.line k with indent := (s.line k).indent - s.indent }
      else s.line k := by
  rw [line_quoteScope s (s.quoteTaken_stop i past)]
  by_cases htaken : i ≤ k ∧ k < (s.quoteTaken i past).2.1
  · have hempty := isEmpty_quoteTaken hquote past htaken.1 htaken.2
    rw [if_pos ⟨htaken, lt_size_of_isEmpty hempty⟩, if_pos htaken]
    rcases Nat.eq_or_lt_of_le htaken.1 with rfl | hlt
    · have hmark : (s.line i).body.head? = some '>' := by
        simp only [isQuote, Bool.and_eq_true, decide_eq_true_eq] at hquote
        exact hquote.2
      rw [Nat.sub_self, quoteView, if_pos (by rw [hmark, hin]; rfl)]
      rfl
    · obtain ⟨j, rfl⟩ : ∃ j, k = i + 1 + j := ⟨k - i - 1, by omega⟩
      have hj : i + 1 + j - i = j + 1 := by omega
      rw [hj]
      refine (s.of_quoteLines past (past - i) (quoteLine (s.line i)).isEmpty (i + 1) ?_).1
      have hlt := htaken.2
      rw [quoteTaken_stop] at hlt
      simp only [quoteTaken, List.length_cons] at hlt
      omega
  · rw [if_neg fun h => htaken h.1, if_neg htaken]
    by_cases hstop : (s.quoteTaken i past).2.2 ∧ k = (s.quoteTaken i past).2.1
    · have hempty := s.isEmpty_of_interrupted past (past - i) _ (i + 1) hstop.1
      rw [if_pos hstop, if_pos ⟨hstop.1, hstop.2, hstop.2 ▸ lt_size_of_isEmpty hempty⟩]
    · rw [if_neg hstop, if_neg fun h => hstop ⟨h.1, h.2.1⟩]

end

/-- What a container makes of a line: characters go at the front. -/
structure IsCut (l cut : Line) : Prop where
  chars : cut.chars <:+ l.chars
  body : cut.body <:+ l.body
  terminated : cut.terminated = l.terminated

/-- A line without the mark of a quote has lost characters at the front. -/
theorem isCut_quoteLine (l : Line) : IsCut l (quoteLine l) := by
  have hchars : (quoteLine l).chars <:+ l.body := by
    have hrest : l.body.drop 1 <:+ l.body := List.drop_suffix _ _
    simp only [quoteLine]
    split
    · next tail heq => exact (List.suffix_cons ' ' tail).trans (heq ▸ hrest)
    · next tail heq =>
      split
      · exact (List.suffix_cons '\t' tail).trans (heq ▸ hrest)
      · exact hrest
    · exact hrest
  exact ⟨hchars.trans (List.drop_suffix _ _), (List.drop_suffix _ _).trans hchars, rfl⟩

/-- Nothing looks like a definition where lines are only cut. -/
theorem IsPlain.of_isCut {s t : Scope} (h : s.IsPlain)
    (hcut : ∀ i, IsCut (s.line i) (t.line i)) : t.IsPlain := fun i =>
  ⟨fun hpart => (h i).1 (hpart.trans (hcut i).chars.isInfix),
    fun hmem => (h i).2 ((hcut i).chars.subset hmem)⟩

section

variable {s : Scope} {i : Nat} (hquote : s.isQuote i) (past : Nat) (hin : s.isOutside i = false)
include hquote hin

/-- The lines as a quote sees them have lost characters at the front. -/
theorem isCut_quote (k : Nat) :
    IsCut (s.line k) ((s.quoteScope i (s.quoteTaken i past)).line k) := by
  rw [line_quote hquote past hin]
  split
  · rw [quoteView]
    split
    · exact isCut_quoteLine _
    · exact ⟨List.suffix_rfl, List.suffix_rfl, rfl⟩
  · split <;> exact ⟨List.suffix_rfl, List.suffix_rfl, rfl⟩

/-- Behind the lines that it takes, a quote sees what is around it, but for the indentation. -/
theorem body_quote {k : Nat} (h : ¬(i ≤ k ∧ k < (s.quoteTaken i past).2.1)) :
    ((s.quoteScope i (s.quoteTaken i past)).line k).body = (s.line k).body := by
  rw [line_quote hquote past hin, if_neg h]
  split <;> rfl

/-- A quote sees the content of a line that has no mark as it is. -/
theorem body_quote_of_unmarked {k : Nat} (h : (s.line k).body.head? ≠ some '>') :
    ((s.quoteScope i (s.quoteTaken i past)).line k).body = (s.line k).body := by
  by_cases htaken : i ≤ k ∧ k < (s.quoteTaken i past).2.1
  · rw [line_quote hquote past hin, if_pos htaken, quoteView, decide_eq_false h, Bool.false_and,
      if_neg Bool.false_ne_true]
    rfl
  · exact body_quote hquote past hin htaken

/-- A line that the quote does not take is as empty as it was. -/
theorem isEmpty_quote {k : Nat} (h : ¬(i ≤ k ∧ k < (s.quoteTaken i past).2.1)) :
    (s.quoteScope i (s.quoteTaken i past)).isEmpty k = s.isEmpty k := by
  rw [isEmpty, line_quote hquote past hin, if_neg h]
  split <;> rfl

/-- An empty line is empty to a quote. -/
theorem isEmpty_quote_of_isEmpty {k : Nat} (h : s.isEmpty k) :
    (s.quoteScope i (s.quoteTaken i past)).isEmpty k := by
  rw [isEmpty_quote hquote past hin, h]
  rintro ⟨hik, hk⟩
  rw [isEmpty_quoteTaken hquote past hik hk] at h
  cases h

end

section

variable {s : Scope} {i : Nat} (mark : ItemMark) (hfilled : s.isEmpty i = false)
include hfilled

/-- The lines as an item sees them: only its own first line has changed, its mark being taken off.
-/
theorem line_item (k : Nat) :
    (s.itemScope i mark).line k =
      if i = k then
        { s.line i with
          shift := (s.line i).shift + mark.length + (itemSpace (s.line i) mark).1
          indent := (itemSpace (s.line i) mark).2 }
      else s.line k := by
  have hi := lt_size_of_isEmpty hfilled
  rw [line_itemScope]
  by_cases hik : i = k
  · rw [if_pos hik, if_pos ⟨hik, hik ▸ hi⟩]
  · rw [if_neg hik, if_neg fun h => hik h.1]

/-- The lines as an item sees them have lost characters at the front. -/
theorem isCut_item (k : Nat) : IsCut (s.line k) ((s.itemScope i mark).line k) := by
  rw [line_item mark hfilled]
  split
  · next hik =>
    subst hik
    refine ⟨List.suffix_rfl, ?_, rfl⟩
    rw [Line.body, Line.body, Nat.add_assoc, ← List.drop_drop]
    exact List.drop_suffix _ _
  · exact ⟨List.suffix_rfl, List.suffix_rfl, rfl⟩

end

/-- A line that begins the next item is not empty. -/
theorem isEmpty_of_nextItem? {s : Scope} {past i : Nat} {mark m : ItemMark}
    (h : s.nextItem? past mark i = some m) : s.isEmpty i = false := by
  refine Bool.eq_false_iff.2 fun hempty => ?_
  rw [nextItem?, body_of_isEmpty hempty] at h
  split at h <;> cases h

namespace Excerpt

variable {a n stop : Nat} {s s' : Scope} (e : Excerpt a n stop s s')
include e

/-- A quote sees the same content in an excerpt. -/
theorem quoteView {k : Nat} (hk : k < n) : (s.quoteView (a + k)).SameContent (s'.quoteView k) := by
  have hsame := e.same k hk
  rw [Scope.quoteView, Scope.quoteView, hsame.body, e.isOutside hk]
  split
  · exact hsame.quoteLine
  · exact ⟨hsame.chars, hsame.shift, rfl, hsame.column⟩

/-- The quote takes corresponding lines. -/
theorem quoteTaken {k past past' : Nat} (hk : k < n) (hpast : Meets a n past past') :
    Meets a n (s.quoteTaken (a + k) past).2.1 (s'.quoteTaken k past').2.1 ∧
      ((s'.quoteTaken k past').2.1 < n →
        (s'.quoteTaken k past').2.2 = (s.quoteTaken (a + k) past).2.2) := by
  simp only [Scope.quoteTaken]
  rw [(e.same k hk).quoteLine.isEmpty]
  exact e.quoteLines hpast (Meets.here hk).succ (by omega) (by omega) _

section

variable {k past past' : Nat} (hk : k < n) (hpast : Meets a n past past')
  (hquote : s.isQuote (a + k)) (hin : s.isOutside (a + k) = false)
include hk hpast hquote hin

/-- The scope of a quote has the same content in an excerpt. -/
theorem same_quote {j : Nat} (hj : j < n) :
    ((s.quoteScope (a + k) (s.quoteTaken (a + k) past)).line (a + j)).SameContent
      ((s'.quoteScope k (s'.quoteTaken k past')).line j) := by
  obtain ⟨hstop, hinterrupted⟩ := e.quoteTaken hk hpast
  have hquote' := (e.isQuote hk).trans hquote
  have hin' := (e.isOutside hk).trans hin
  rw [line_quote hquote past hin, line_quote hquote' past' hin']
  have htaken : (a + k ≤ a + j ∧ a + j < (s.quoteTaken (a + k) past).2.1) ↔
      (k ≤ j ∧ j < (s'.quoteTaken k past').2.1) := by
    rw [hstop.lt_iff hj, Nat.add_le_add_iff_left]
  have hsame := e.same j hj
  by_cases hview : k ≤ j ∧ j < (s'.quoteTaken k past').2.1
  · rw [if_pos hview, if_pos (htaken.2 hview)]
    exact e.quoteView hj
  · have hlast : (s.quoteTaken (a + k) past).2.2 = true ∧ a + j = (s.quoteTaken (a + k) past).2.1 ↔
        (s'.quoteTaken k past').2.2 = true ∧ j = (s'.quoteTaken k past').2.1 := by
      rcases hstop with ⟨hlt, heq⟩ | ⟨hle', hle⟩
      · rw [hinterrupted hlt, heq, Nat.add_left_cancel_iff]
      · exact ⟨fun h => absurd h.2 (by omega), fun h => absurd h.2 (by omega)⟩
    rw [if_neg hview, if_neg (mt htaken.1 hview)]
    by_cases hend : (s'.quoteTaken k past').2.2 = true ∧ j = (s'.quoteTaken k past').2.1
    · rw [if_pos hend, if_pos (hlast.2 hend), e.indent]
      exact ⟨hsame.chars, hsame.shift, congrArg (· - (s.indent : Int)) hsame.indent, hsame.column⟩
    · rw [if_neg hend, if_neg (mt hlast.1 hend)]
      exact hsame

omit hpast in
/-- The lines in a quote end with a newline where they do in an excerpt, but for the last one. -/
theorem terminated_quote {j : Nat} (hj : j < n) (h : j + 1 < n ∨ s'.isEmpty j) :
    ((s'.quoteScope k (s'.quoteTaken k past')).line j).terminated =
      ((s.quoteScope (a + k) (s.quoteTaken (a + k) past)).line (a + j)).terminated := by
  have hquote' := (e.isQuote hk).trans hquote
  have hin' := (e.isOutside hk).trans hin
  rw [(isCut_quote hquote' past' hin' j).terminated, (isCut_quote hquote past hin _).terminated]
  exact e.terminated j hj h

variable (hi : a + k < past) (hle : past ≤ s.limit) (hle' : past' ≤ s'.limit)
include hi hle hle'

omit hquote hin in
/-- The limits of a quote correspond to those in an excerpt. -/
theorem limit_quote :
    Meets a n (s.quoteScope (a + k) (s.quoteTaken (a + k) past)).limit
      (s'.quoteScope k (s'.quoteTaken k past')).limit := by
  obtain ⟨hstop, hinterrupted⟩ := e.quoteTaken hk hpast
  have hi' : k < past' := (hpast.lt_iff hk).2 hi
  rcases hstop with ⟨hlt, hstop⟩ | ⟨hown, hwhole⟩
  · rw [limit_quoteScope, limit_quoteScope, hinterrupted hlt]
    split
    · exact .inl ⟨hlt, hstop⟩
    · exact e.limit
  · exact .behind (Nat.le_trans hown (quoteTaken_le_limit hi' hle'))
      (Nat.le_trans hwhole (quoteTaken_le_limit hi hle))

/-- The quote sees an excerpt, if it does not end with a line that only it takes for empty. -/
theorem excerpt_quote (hlast : n ≤ (s'.quoteTaken k past').2.1 →
      (s'.quoteScope k (s'.quoteTaken k past')).isEmpty (n - 1) = false) :
    Excerpt a n stop (s.quoteScope (a + k) (s.quoteTaken (a + k) past))
      (s'.quoteScope k (s'.quoteTaken k past')) := by
  have hquote' := (e.isQuote hk).trans hquote
  have hin' := (e.isOutside hk).trans hin
  exact {
    le := e.le
    indent := rfl
    listIndent := e.listIndent
    limit := e.limit_quote hk hpast hi hle hle'
    same := fun j hj => e.same_quote hk hpast hquote hin hj
    terminated := fun j hj h => by
      by_cases hmore : j + 1 < n
      · exact e.terminated_quote hk hquote hin hj (.inl hmore)
      · have hempty := h.resolve_left hmore
        have hview : ¬(k ≤ j ∧ j < (s'.quoteTaken k past').2.1) := fun htaken => by
          have hjn : n - 1 = j := by omega
          have hfilled := hlast (by omega)
          rw [hjn, hempty] at hfilled
          cases hfilled
        exact e.terminated_quote hk hquote hin hj
          (.inr ((isEmpty_quote hquote' past' hin' hview).symm.trans hempty))
    empty := fun j hj hjstop =>
      isEmpty_quote_of_isEmpty hquote past hin (e.empty j hj hjstop)
    empty' := fun j hj => isEmpty_quote_of_isEmpty hquote' past' hin' (e.empty' j hj)
    bar := fun j hj hbar => by
      have hunmarked := e.bar j hj ((isCut_quote hquote past hin _).body.subset hbar)
      rw [body_quote_of_unmarked hquote past hin hunmarked.2]
      exact hunmarked
    plain := e.plain.of_isCut (isCut_quote hquote past hin)
    plain' := e.plain'.of_isCut (isCut_quote hquote' past' hin') }

/-- Without a last line that is empty to it, the quote sees an excerpt in any case. -/
theorem excerpt_quote_pred (hempty : (s'.quoteScope k (s'.quoteTaken k past')).isEmpty (n - 1)) :
    Excerpt a (n - 1) stop (s.quoteScope (a + k) (s.quoteTaken (a + k) past))
      (s'.quoteScope k (s'.quoteTaken k past')) := by
  have hquote' := (e.isQuote hk).trans hquote
  have hin' := (e.isOutside hk).trans hin
  have hn : n - 1 < n := by omega
  have hsame (j : Nat) (hj : j < n) := e.same_quote hk hpast hquote hin hj
  have hemptyWhole : (s.quoteScope (a + k) (s.quoteTaken (a + k) past)).isEmpty (a + (n - 1)) :=
    (hsame _ hn).isEmpty.symm.trans hempty
  exact {
    le := Nat.le_trans (by omega) e.le
    indent := rfl
    listIndent := e.listIndent
    limit := (e.limit_quote hk hpast hi hle hle').weaken (Nat.sub_le n 1)
    same := fun j hj => hsame j (by omega)
    terminated := fun j hj _ =>
      e.terminated_quote hk hquote hin (by omega) (.inl (by omega))
    empty := fun j hj hjstop => by
      rcases Nat.eq_or_lt_of_le hj with rfl | hlt
      · exact hemptyWhole
      · exact isEmpty_quote_of_isEmpty hquote past hin (e.empty j (by omega) hjstop)
    empty' := fun j hj => by
      rcases Nat.eq_or_lt_of_le hj with rfl | hlt
      · exact hempty
      · exact isEmpty_quote_of_isEmpty hquote' past' hin' (e.empty' j (by omega))
    bar := fun j _ _ => by
      rw [body_of_isEmpty hemptyWhole]
      exact ⟨rfl, nofun⟩
    plain := e.plain.of_isCut (isCut_quote hquote past hin)
    plain' := e.plain'.of_isCut (isCut_quote hquote' past' hin') }

/-- The quote sees an excerpt. If the last line is empty to it, it is no part of that. -/
theorem quoteScope :
    let inner := s.quoteScope (a + k) (s.quoteTaken (a + k) past)
    let inner' := s'.quoteScope k (s'.quoteTaken k past')
    ∃ m, Excerpt a m stop inner inner' ∧
      (m = n ∨ m + 1 = n ∧ n ≤ (s'.quoteTaken k past').2.1 ∧
        a + n ≤ (s.quoteTaken (a + k) past).2.1 ∧ inner.isEmpty (a + m) ∧ inner'.isEmpty m) := by
  intro inner inner'
  by_cases hlast : n ≤ (s'.quoteTaken k past').2.1 ∧ inner'.isEmpty (n - 1)
  · have hn : n - 1 < n := by omega
    have hempty : inner.isEmpty (a + (n - 1)) :=
      (e.same_quote hk hpast hquote hin hn).isEmpty.symm.trans hlast.2
    have hbehind : a + n ≤ (s.quoteTaken (a + k) past).2.1 := by
      have hstop := (e.quoteTaken hk hpast).1
      unfold Meets at hstop
      omega
    exact ⟨n - 1, e.excerpt_quote_pred hk hpast hquote hin hi hle hle' hlast.2,
      .inr ⟨by omega, hlast.1, hbehind, hempty, hlast.2⟩⟩
  · refine ⟨n, e.excerpt_quote hk hpast hquote hin hi hle hle' fun hbehind => ?_, .inl rfl⟩
    exact Bool.eq_false_iff.2 fun hempty => hlast ⟨hbehind, hempty⟩

end

/-! ## Items -/

/-- The first line of an item, as the item sees it. -/
theorem same_item (mark : ItemMark) {k j : Nat} (hk : k < n) (hfilled : s.isEmpty (a + k) = false)
    (hj : j < n) :
    ((s.itemScope (a + k) mark).line (a + j)).SameContent ((s'.itemScope k mark).line j) := by
  have hsame := e.same j hj
  rw [line_item mark hfilled, line_item mark ((e.isEmpty hk).trans hfilled)]
  by_cases hkj : k = j
  · subst hkj
    rw [if_pos rfl, if_pos rfl, hsame.itemSpace]
    exact ⟨hsame.chars, by simp only [hsame.shift], rfl, hsame.column⟩
  · rw [if_neg hkj, if_neg (by omega)]
    exact hsame

/-- The item sees an excerpt, unless all that the excerpt has of it is the mark. -/
theorem itemScope (mark : ItemMark) {k : Nat} (hk : k < n) (hfilled : s.isEmpty (a + k) = false)
    (hlast : k + 1 < n ∨ (s'.itemScope k mark).isEmpty k = false) :
    Excerpt a n stop (s.itemScope (a + k) mark) (s'.itemScope k mark) := by
  have hfilled' := (e.isEmpty hk).trans hfilled
  have hsame := e.same k hk
  exact {
    le := e.le
    indent := by
      simp only [Scope.itemScope, hsame.chars, hsame.shift, hsame.indent, hsame.itemSpace]
    listIndent := congrArg some e.indent
    limit := e.limit
    same := fun j hj => e.same_item mark hk hfilled hj
    terminated := fun j hj h => by
      rw [(isCut_item mark hfilled' j).terminated, (isCut_item mark hfilled _).terminated]
      refine e.terminated j hj ?_
      by_cases hkj : k = j
      · subst hkj
        rcases hlast with hnext | hne
        · exact .inl hnext
        · exact .inl (h.resolve_right (by rw [hne]; exact Bool.false_ne_true))
      · refine h.imp id fun hempty => ?_
        rwa [Scope.isEmpty, line_item mark hfilled', if_neg hkj] at hempty
    empty := fun j hj hjstop => by
      rw [Scope.isEmpty, line_item mark hfilled, if_neg (by omega)]
      exact e.empty j hj hjstop
    empty' := fun j hj => by
      rw [Scope.isEmpty, line_item mark hfilled', if_neg (by omega)]
      exact e.empty' j hj
    bar := fun j hj hbar => by
      rw [line_item mark hfilled (a + n), if_neg (by omega)]
      exact e.bar j hj ((isCut_item mark hfilled _).body.subset hbar)
    plain := e.plain.of_isCut (isCut_item mark hfilled)
    plain' := e.plain'.of_isCut (isCut_item mark hfilled') }

end Excerpt

end Scope
end LiveMarkdown.Markdown
