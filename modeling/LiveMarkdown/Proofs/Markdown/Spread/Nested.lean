import LiveMarkdown.Proofs.Markdown.Spread.Ends
import Mathlib.Data.Nat.Find

/-!
# Containers whose lines spread

What a quote or a list item sees of a scope spreads as the scope does (`Spreads.quoteScope`,
`Spreads.itemScope`): a container changes the front of lines, and of the wide ones only the
indentation.

A quote that takes no wide line takes the same lines as before. One that does is only known to take
the first wide line still, so that the two correspond up to that line.
-/

namespace LiveMarkdown.Markdown

variable {wide : List Nat}

/-- A line still opens math in a scope that indents it less. -/
theorem Line.Opens.withIndent {l l' : Line} (h : l.Opens l') (f : Int → Int) :
    Line.Opens { l with indent := f l.indent } { l' with indent := f l'.indent } :=
  ⟨h.body, h.closing, h.body', congrArg f h.indent⟩

/-- A line still holds math in a scope that sees the same of it. -/
theorem Line.Holds.congr {l middle last m middle' last' : Line} (h : l.Holds middle last)
    (hl : m.body = l.body) (hmiddle : middle'.body = middle.body)
    (hmiddleChars : middle'.chars = middle.chars) (hlast : last'.body = last.body)
    (hlastChars : last'.chars = last.chars) : m.Holds middle' last' where
  long := hl ▸ h.long
  formula := by
    rw [hl, hmiddleChars, hlastChars]
    exact h.formula
  middle := hmiddle ▸ h.middle
  last := hlast.trans h.last

namespace Scope

/-- Behind the lines that it takes, a quote sees the characters that are around it. -/
theorem chars_quote {s : Scope} {i k : Nat} (hquote : s.isQuote i) (past : Nat)
    (hin : s.isOutside i = false) (h : ¬(i ≤ k ∧ k < (s.quoteTaken i past).2.1)) :
    ((s.quoteScope i (s.quoteTaken i past)).line k).chars = (s.line k).chars := by
  rw [line_quote hquote past hin, if_neg h]
  split <;> rfl

/-- A quote has no wider limit than its container. -/
theorem limit_quoteScope_le {s : Scope} {i past : Nat} (hi : i < past) (hle : past ≤ s.limit) :
    (s.quoteScope i (s.quoteTaken i past)).limit ≤ s.limit := by
  rw [limit_quoteScope]
  split
  · exact Nat.le_trans (s.quoteTaken_le hi) hle
  · exact Nat.le_refl _

namespace Spreads

variable {a n : Nat} {s s' : Scope} (e : Spreads wide a n s s') {i past past' : Nat} (ha : a ≤ i)
  (hn : i ≤ n)
include e ha hn

/-! ## Quotes -/

section

variable (hpast : Moves wide n past past') (hle : past ≤ s.limit) (hquote : s.isQuote i)
  (hin : s.isOutside i = false) (hi : i < past)

/-- A line that begins a quote is not wide. -/
theorem notMem_of_isQuote (hquote : s.isQuote i) : i ∉ wide := fun hi => by
  obtain ⟨rest, hbody⟩ := (e.opens i ha hn hi).body
  rw [isQuote_of_dollar hbody] at hquote
  cases hquote

include hpast hle hquote hi

/-- A quote without wide lines takes the same lines. -/
theorem quoteTaken_eq (hclear : Clear wide i (s.quoteTaken i past).2.1) :
    (s'.quoteTaken (spread wide i) past').2 =
      (spread wide (s.quoteTaken i past).2.1, (s.quoteTaken i past).2.2) := by
  have hwide := e.notMem_of_isQuote ha hn hquote
  have hnext := spread_succ_of_notMem hwide
  have ha1 : a ≤ i + 1 := Nat.le_succ_of_le ha
  simp only [Scope.quoteTaken] at hclear ⊢
  rw [e.same i ha hn hwide, ← hnext]
  exact e.quoteLines ha1 (e.succ_le hn hwide (by omega)) hpast hle (by omega)
    (by omega) _ hclear.tail

/-- A quote that takes a line, and no wide line before it, takes it still. -/
theorem lt_quoteTaken {m : Nat} (him : i < m) (hclear : Clear wide i m)
    (hlt : m < (s.quoteTaken i past).2.1) :
    spread wide m < (s'.quoteTaken (spread wide i) past').2.1 := by
  have hwide := e.notMem_of_isQuote ha hn hquote
  have hnext := spread_succ_of_notMem hwide
  have ha1 : a ≤ i + 1 := Nat.le_succ_of_le ha
  simp only [Scope.quoteTaken] at hlt ⊢
  rw [e.same i ha hn hwide, ← hnext]
  exact e.lt_quoteLines ha1 (e.succ_le hn hwide (by omega)) hpast hle (by omega)
    (by omega) _ him hclear.tail hlt

end

section

variable (hle : past ≤ s.limit) (hle' : past' ≤ s'.limit) (hquote : s.isQuote i)
  (hin : s.isOutside i = false) (hi : i < past) (hi' : spread wide i < past') {m : Nat} (hm : m ≤ n)
  (hstop : Moves wide m (s.quoteTaken i past).2.1 (s'.quoteTaken (spread wide i) past').2.1)
  (hinterrupted : (s.quoteTaken i past).2.1 ≤ m →
    (s'.quoteTaken (spread wide i) past').2.2 = (s.quoteTaken i past).2.2)
include hquote hin hm hstop hinterrupted

/-- What the quote makes of a line, it makes of the line where that is now. -/
theorem exists_line_quote {j : Nat} (hij : i ≤ j) (hjm : j ≤ m) : ∃ see : Line → Line,
    (s.quoteScope i (s.quoteTaken i past)).line j = see (s.line j) ∧
      (s'.quoteScope (spread wide i) (s'.quoteTaken (spread wide i) past')).line (spread wide j) =
        see (s'.line (spread wide j)) ∧
      ∀ l l' : Line, l.Opens l' → (see l).Opens (see l') := by
  have haj : a ≤ j := Nat.le_trans ha hij
  have hjn : j ≤ n := Nat.le_trans hjm hm
  rw [line_quote hquote past hin, line_quote ((e.isQuote ha hn).trans hquote) past'
    ((e.isOutside ha hn).trans hin)]
  simp only [spread_le_spread, hstop.lt_iff hjm]
  by_cases htaken : i ≤ j ∧ j < (s.quoteTaken i past).2.1
  · rw [if_pos htaken, if_pos htaken]
    refine ⟨fun l => if l.body.head? = some '>' && !s.isOutside j then quoteLine l
      else { l with indent := -1 }, rfl, ?_, fun l l' h => ?_⟩
    · rw [quoteView, e.isOutside haj hjn]
    · obtain ⟨rest, hbody⟩ := h.body
      simp only [hbody, h.body', List.head?_cons, Option.some.injEq]
      exact h.withIndent fun _ => -1
  · rw [if_neg htaken, if_neg htaken]
    have hlast : (s'.quoteTaken (spread wide i) past').2.2 = true ∧
        spread wide j = (s'.quoteTaken (spread wide i) past').2.1 ↔
          (s.quoteTaken i past).2.2 = true ∧ j = (s.quoteTaken i past).2.1 := by
      rcases hstop with ⟨hwithin, heq⟩ | ⟨hbehind, hbehind'⟩
      · rw [hinterrupted hwithin, heq, strictMono_spread.injective.eq_iff]
      · have hmono := spread_mono wide hjm
        exact ⟨fun h => absurd h.2 (by omega), fun h => absurd h.2 (by omega)⟩
    simp only [hlast]
    split
    · exact ⟨fun l => { l with indent := l.indent - s.indent }, rfl, by rw [e.indent],
        fun l l' h => h.withIndent (· - (s.indent : Int))⟩
    · exact ⟨id, rfl, rfl, fun _ _ h => h⟩

include hle hle' hi hi'

omit ha hn hquote hin in
/-- The limits of a quote correspond to those it had. -/
theorem limit_quote : Moves wide m (s.quoteScope i (s.quoteTaken i past)).limit
    (s'.quoteScope (spread wide i) (s'.quoteTaken (spread wide i) past')).limit := by
  rcases hstop with ⟨hwithin, heq⟩ | ⟨hbehind, hbehind'⟩
  · rw [limit_quoteScope, limit_quoteScope, hinterrupted hwithin, heq]
    split
    · exact .here wide m _
    · exact e.limit.weaken hm
  · exact .inr ⟨Nat.lt_of_lt_of_le hbehind (quoteTaken_le_limit hi hle),
      Nat.lt_of_lt_of_le hbehind' (quoteTaken_le_limit hi' hle')⟩

/-- What the quote sees spreads up to line `m`, if it takes no wide line before that. -/
theorem quoteScope (hends : m ∈ wide ∨ s.limit < m)
    (hclear : ∀ j, i ≤ j → j < m → j < (s.quoteTaken i past).2.1 → j ∉ wide) :
    Spreads wide i m (s.quoteScope i (s.quoteTaken i past))
      (s'.quoteScope (spread wide i) (s'.quoteTaken (spread wide i) past')) := by
  have hquote' := (e.isQuote ha hn).trans hquote
  have hin' := (e.isOutside ha hn).trans hin
  have hline {j : Nat} (hij : i ≤ j) (hjm : j ≤ m) :=
    e.exists_line_quote ha hn hquote hin hm hstop hinterrupted hij hjm
  exact {
    indent := rfl
    listIndent := e.listIndent
    limit := e.limit_quote hle hle' hi hi' hm hstop hinterrupted
    same := fun j hij hjm hj => by
      obtain ⟨see, hsee, hsee', -⟩ := hline hij hjm
      rw [hsee, hsee', e.same j (Nat.le_trans ha hij) (Nat.le_trans hjm hm) hj]
    opens := fun j hij hjm hj => by
      obtain ⟨see, hsee, hsee', hopens⟩ := hline hij hjm
      rw [hsee, hsee']
      exact hopens _ _ (e.opens j (Nat.le_trans ha hij) (Nat.le_trans hjm hm) hj)
    holds := fun j hij hjm hj => by
      have hbehind : (s.quoteTaken i past).2.1 ≤ j :=
        Nat.le_of_not_lt fun hlt => hclear j hij hjm hlt hj
      have hbehind' := (hstop.le_iff (Nat.le_of_lt hjm)).2 hbehind
      have hout : ¬(i ≤ j ∧ j < (s.quoteTaken i past).2.1) := by omega
      have hout' (k : Nat) : ¬(spread wide i ≤ spread wide j + k ∧
          spread wide j + k < (s'.quoteTaken (spread wide i) past').2.1) := by omega
      exact (e.holds j (Nat.le_trans ha hij) (Nat.lt_of_lt_of_le hjm hm) hj).congr
        (body_quote hquote past hin hout) (body_quote hquote' past' hin' (hout' 1))
        (chars_quote hquote' past' hin' (hout' 1)) (body_quote hquote' past' hin' (hout' 2))
        (chars_quote hquote' past' hin' (hout' 2))
    bar := fun j hij hjm hj hbar => by
      have hunmarked := e.bar j (Nat.le_trans ha hij) (Nat.le_trans hjm hm) hj
        ((isCut_quote hquote past hin j).body.subset hbar)
      rw [body_quote_of_unmarked hquote past hin hunmarked.2]
      exact hunmarked
    ends := hends.imp_right (Nat.lt_of_le_of_lt (limit_quoteScope_le hi hle))
    plain := e.plain.of_isCut (isCut_quote hquote past hin)
    plain' := e.plain'.of_isCut (isCut_quote hquote' past' hin') }

end

/-- If a quote reads no wide line, what it sees spreads at least as far as it reads. -/
theorem exists_quoteScope (hpast : Moves wide n past past') (hle : past ≤ s.limit)
    (hle' : past' ≤ s'.limit) (hquote : s.isQuote i) (hin : s.isOutside i = false) (hi : i < past)
    {next : Nat} (hnext : next ≤ n) (hclear : Clear wide i next) :
    ∃ m, i ≤ m ∧ next ≤ m ∧
      Moves wide m (s.quoteTaken i past).2.1 (s'.quoteTaken (spread wide i) past').2.1 ∧
      Spreads wide i m (s.quoteScope i (s.quoteTaken i past))
        (s'.quoteScope (spread wide i) (s'.quoteTaken (spread wide i) past')) := by
  have hi' := (hpast.lt_iff hn).2 hi
  have hwide := e.notMem_of_isQuote ha hn hquote
  have hreach := Nat.le_trans (s.quoteTaken_le hi) hle
  by_cases htaken : Clear wide i (s.quoteTaken i past).2.1
  · have heq := e.quoteTaken_eq ha hn hpast hle hquote hi htaken
    have hstop : Moves wide n (s.quoteTaken i past).2.1
        (s'.quoteTaken (spread wide i) past').2.1 := by
      rw [heq]
      exact .here wide n _
    exact ⟨n, hn, hnext, hstop, e.quoteScope ha hn hle hle' hquote hin hi hi' (Nat.le_refl n) hstop
      (fun _ => by rw [heq]) e.ends fun j hij _ hlt => htaken j hij hlt⟩
  · -- the first wide line that the quote takes
    have hex : ∃ j, i ≤ j ∧ j < (s.quoteTaken i past).2.1 ∧ j ∈ wide := by
      simpa [Clear] using htaken
    obtain ⟨hiw, hlt, hw⟩ := Nat.find_spec hex
    have hfirst {j : Nat} (hj : j < Nat.find hex) := Nat.find_min hex hj
    generalize Nat.find hex = w at *
    have hclearW : Clear wide i w := fun j hij hjw hj =>
      hfirst hjw ⟨hij, Nat.lt_trans hjw hlt, hj⟩
    have hwn : w ≤ n := e.le_of_clear hn hclearW (by omega)
    have hiw : i < w := Nat.lt_of_le_of_ne hiw fun heq => hwide (heq ▸ hw)
    have hstop : Moves wide w (s.quoteTaken i past).2.1
        (s'.quoteTaken (spread wide i) past').2.1 :=
      .inr ⟨hlt, e.lt_quoteTaken ha hn hpast hle hquote hi hiw hclearW hlt⟩
    have hnextW : next ≤ w := Nat.le_of_not_lt fun h => hclear w (Nat.le_of_lt hiw) h hw
    exact ⟨w, Nat.le_of_lt hiw, hnextW, hstop, e.quoteScope ha hn hle hle' hquote hin hi hi' hwn hstop
      (fun h => absurd hlt (Nat.not_lt.2 h)) (.inl hw) fun j hij hjw _ => hclearW j hij hjw⟩

/-! ## Items -/

/-- The item that begins at a line sees lines that spread as the scope does. -/
theorem itemScope (mark : ItemMark) (hwide : i ∉ wide) (hfilled : s.isEmpty i = false) :
    Spreads wide i n (s.itemScope i mark) (s'.itemScope (spread wide i) mark) := by
  have hfilled' := (e.isEmpty ha hn).trans hfilled
  have hsame := e.same i ha hn hwide
  have hother {j : Nat} (hij : i < j) : (s.itemScope i mark).line j = s.line j := by
    rw [line_item mark hfilled, if_neg (Nat.ne_of_lt hij)]
  have hother' {k : Nat} (hik : spread wide i < k) :
      (s'.itemScope (spread wide i) mark).line k = s'.line k := by
    rw [line_item mark hfilled', if_neg (Nat.ne_of_lt hik)]
  have hlt {j : Nat} (hij : i ≤ j) (hj : j ∈ wide) : i < j :=
    Nat.lt_of_le_of_ne hij fun heq => hwide (heq ▸ hj)
  exact {
    indent := by simp only [Scope.itemScope, hsame]
    listIndent := congrArg some e.indent
    limit := e.limit
    same := fun j hij hjn hj => by
      rcases Nat.eq_or_lt_of_le hij with rfl | hij
      · rw [line_item mark hfilled, line_item mark hfilled', if_pos rfl, if_pos rfl, hsame]
      · rw [hother hij, hother' (spread_lt wide hij), e.same j (by omega) hjn hj]
    opens := fun j hij hjn hj => by
      rw [hother (hlt hij hj), hother' (spread_lt_spread.2 (hlt hij hj))]
      exact e.opens j (Nat.le_trans ha hij) hjn hj
    holds := fun j hij hjn hj => by
      have hmono := spread_lt wide (hlt hij hj)
      rw [hother (hlt hij hj), hother' (by omega), hother' (by omega)]
      exact e.holds j (Nat.le_trans ha hij) hjn hj
    bar := fun j hij hjn hj hbar => by
      rw [hother (hlt hij hj)] at hbar
      rw [hother (Nat.lt_succ_of_lt (hlt hij hj))]
      exact e.bar j (Nat.le_trans ha hij) hjn hj hbar
    ends := e.ends
    plain := e.plain.of_isCut (isCut_item mark hfilled)
    plain' := e.plain'.of_isCut (isCut_item mark hfilled') }

end Spreads
end Scope
end LiveMarkdown.Markdown
