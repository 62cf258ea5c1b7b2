import LiveMarkdown.Proofs.Block.Partition
import LiveMarkdown.Proofs.Markdown.Excerpt

/-!
# Lines of a document as a document

The lines of a span, as a document of their own, are an excerpt of the document they come from
(`excerpt_linesOf`). Only the last line of a document is special: it has no newline, and it is no
line if nothing but spaces and tabs stand in it.
-/

namespace LiveMarkdown.Markdown

/-! ## Lines of a document -/

/-- The spaces at the front of a line are the longest run of them there. -/
theorem leadingSpace_fst (column : Nat) (t : Text) :
    (leadingSpace column t).1 = (t.takeWhile isSpace).length := by
  induction t generalizing column with
  | nil => rfl
  | cons c rest ih =>
    cases hc : isSpace c with
    | true =>
      rw [leadingSpace, if_pos hc, List.takeWhile_cons_of_pos hc, List.length_cons]
      exact congrArg (· + 1) (ih _)
    | false =>
      rw [leadingSpace, if_neg (by rw [hc]; decide), List.takeWhile_cons_of_neg (by rw [hc]; decide)]
      rfl

/-- The content of a line begins where its spaces and tabs end. -/
theorem body_ofText (terminated : Bool) (t : Text) :
    (Line.ofText terminated t).body = t.dropWhile isSpace := by
  show t.drop (leadingSpace 0 t).1 = _
  rw [leadingSpace_fst]
  nth_rewrite 2 [← List.takeWhile_append_dropWhile (p := isSpace) (l := t)]
  exact List.drop_left

/-- A line of spaces and tabs is empty. -/
theorem isEmpty_ofText (terminated : Bool) (t : Text) :
    (Line.ofText terminated t).isEmpty = t.all isSpace := by
  show decide (t.length ≤ (leadingSpace 0 t).1) = _
  rw [leadingSpace_fst]
  induction t with
  | nil => rfl
  | cons c rest ih =>
    cases hc : isSpace c with
    | true =>
      rw [List.takeWhile_cons_of_pos hc, List.length_cons, List.length_cons, List.all_cons, hc,
        Bool.true_and, ← ih, decide_eq_decide]
      omega
    | false =>
      rw [List.takeWhile_cons_of_neg (by rw [hc]; decide), List.all_cons, hc]
      rfl

/-- The lines of a document: the last one is one only if something stands in it. -/
theorem getElem?_ofLines (ls : List Text) (k : Nat) :
    (Line.ofLines ls)[k]? = ls[k]?.bind fun t =>
      if k + 1 < ls.length then some (Line.ofText true t)
      else if t.all isSpace then none else some (Line.ofText false t) := by
  induction ls using Line.ofLines.induct generalizing k with
  | case1 => rfl
  | case2 t h =>
    rw [Line.ofLines, if_pos h]
    cases k with
    | zero => exact (if_pos h).symm
    | succ k => rfl
  | case3 t h =>
    rw [Line.ofLines, if_neg h]
    cases k with
    | zero => exact (if_neg h).symm
    | succ k => rfl
  | case4 t more h ih =>
    have hpos : 0 + 1 < (t :: more).length := Nat.succ_lt_succ (List.length_pos_iff.2 h)
    rw [Line.ofLines]
    · cases k with
      | zero => rw [List.getElem?_cons_zero, List.getElem?_cons_zero, Option.bind_some, if_pos hpos]
      | succ k => simp only [List.getElem?_cons_succ, ih, List.length_cons, Nat.add_lt_add_iff_right]
    · exact h

/-- A text has no more lines than newlines divide it into. -/
theorem length_ofLines_le (ls : List Text) : (Line.ofLines ls).length ≤ ls.length := by
  refine Nat.le_of_not_lt fun hlt => ?_
  have hget := getElem?_ofLines ls ls.length
  rw [List.getElem?_eq_none (Nat.le_refl _), List.getElem?_eq_getElem hlt] at hget
  cases hget

namespace Scope

/-- The scope of a document with these lines. -/
def ofLines (ls : List Text) : Scope :=
  { lines := (Line.ofLines ls).toArray, limit := (Line.ofLines ls).length }

/-- Line `k` of a document, which is empty past the end. -/
theorem line_ofLines (ls : List Text) (k : Nat) :
    (ofLines ls).line k = ((Line.ofLines ls)[k]?).getD default := by
  rw [line, ofLines, Array.getD_eq_getD_getElem?, List.getElem?_toArray]

section

variable {ls : List Text} {k : Nat} {t : Text} (h : ls[k]? = some t)
include h

/-- A line is as it is written, if it is not the last one or something stands in it. -/
theorem line_of_getElem? (hk : k + 1 < ls.length ∨ t.all isSpace = false) :
    (ofLines ls).line k = Line.ofText (k + 1 < ls.length) t := by
  rw [line_ofLines, getElem?_ofLines, h, Option.bind_some]
  by_cases hlast : k + 1 < ls.length
  · rw [if_pos hlast, decide_eq_true hlast]
    rfl
  · rw [if_neg hlast, hk.resolve_left hlast, decide_eq_false hlast]
    rfl

/-- A line is empty if it is nothing but spaces. -/
theorem isEmpty_of_getElem? : (ofLines ls).isEmpty k = t.all isSpace := by
  by_cases hk : k + 1 < ls.length ∨ t.all isSpace = false
  · rw [isEmpty, line_of_getElem? h hk, isEmpty_ofText]
  · rw [not_or, Bool.not_eq_false] at hk
    rw [isEmpty, line_ofLines, getElem?_ofLines, h, Option.bind_some, if_neg hk.1, if_pos hk.2, hk.2]
    rfl

/-- A line belongs to the text unless it is the last one and empty. -/
theorem lt_length_ofLines : k < (Line.ofLines ls).length ↔
    k + 1 < ls.length ∨ t.all isSpace = false := by
  rw [← Nat.not_le, ← List.getElem?_eq_none_iff, getElem?_ofLines, h, Option.bind_some]
  by_cases hlast : k + 1 < ls.length
  · simp [hlast]
  · cases hall : t.all isSpace <;> simp [hlast]

end

/-- Lines past the end are empty. -/
theorem isEmpty_of_le {ls : List Text} {k : Nat} (h : (Line.ofLines ls).length ≤ k) :
    (ofLines ls).isEmpty k := by
  rw [isEmpty, line_ofLines, List.getElem?_eq_none h]
  rfl

/-- The content of a line, or nothing. -/
theorem body_of_getElem? {ls : List Text} {k : Nat} {t : Text} (h : ls[k]? = some t) :
    ((ofLines ls).line k).body = t.dropWhile isSpace ∨ ((ofLines ls).line k).body = [] := by
  by_cases hk : k + 1 < ls.length ∨ t.all isSpace = false
  · exact .inl (by rw [line_of_getElem? h hk, body_ofText])
  · rw [not_or, Bool.not_eq_false] at hk
    exact .inr (body_of_isEmpty ((isEmpty_of_getElem? h).trans hk.2))

/-- A document without definitions and newlines within its lines is plain. -/
theorem isPlain_ofLines {ls : List Text} (h : ∀ t ∈ ls, ¬[']', ':'] <:+: t ∧ '\n' ∉ t) :
    (ofLines ls).IsPlain := by
  intro k
  have hdefault : ¬[']', ':'] <:+: (default : Line).chars ∧ '\n' ∉ (default : Line).chars := by
    decide
  rw [line_ofLines, getElem?_ofLines]
  cases hk : ls[k]? with
  | none => exact hdefault
  | some t =>
    have ht := h t (List.mem_of_getElem? hk)
    rw [Option.bind_some]
    split
    · exact ht
    · split
      · exact hdefault
      · exact ht

/-- Outside of all containers no line is left of the content. -/
theorem isOutside_ofLines (ls : List Text) (k : Nat) : (ofLines ls).isOutside k = false := by
  refine decide_eq_false (Int.not_lt.2 ?_)
  rw [line_ofLines, getElem?_ofLines]
  have hindent (terminated : Bool) (t : Text) : 0 ≤ (Line.ofText terminated t).indent :=
    Int.natCast_nonneg _
  cases ls[k]? with
  | none => exact Int.le_refl 0
  | some t =>
    rw [Option.bind_some]
    split
    · exact hindent true t
    · split
      · exact Int.le_refl 0
      · exact hindent false t

/-- After the lines from `first` up to `past` comes neither the delimiter row of a table whose header
their last line could be, nor a quote that could begin with one. -/
def EndsClear (ls : List Text) (past : Nat) : Prop :=
  ∀ last ∈ ls[past - 1]?, '|' ∈ last → ∀ next ∈ ls[past]?,
    isDelimiterRow (next.dropWhile isSpace) = false ∧ (next.dropWhile isSpace).head? ≠ some '>'

instance (ls : List Text) (past : Nat) : Decidable (EndsClear ls past) :=
  inferInstanceAs (Decidable (∀ last ∈ ls[past - 1]?, '|' ∈ last → ∀ next ∈ ls[past]?,
    isDelimiterRow (next.dropWhile isSpace) = false ∧ (next.dropWhile isSpace).head? ≠ some '>'))

/-- A line without content is neither. -/
theorem clear_of_nil {s : Scope} {i : Nat} (h : (s.line i).body = []) :
    isDelimiterRow (s.line i).body = false ∧ (s.line i).body.head? ≠ some '>' := by
  rw [h]
  exact ⟨rfl, (Option.some_ne_none '>').symm⟩

/-- Where lines end clear, the line after them continues no table and no quote. -/
theorem EndsClear.line {ls : List Text} {past : Nat} (h : EndsClear ls past) {last : Text}
    (hlast : ls[past - 1]? = some last) (hbar : '|' ∈ last) :
    isDelimiterRow ((ofLines ls).line past).body = false ∧
      ((ofLines ls).line past).body.head? ≠ some '>' := by
  cases hnext : ls[past]? with
  | none =>
    exact clear_of_nil (body_of_isEmpty (isEmpty_of_le
      (Nat.le_trans (length_ofLines_le ls) (List.getElem?_eq_none_iff.1 hnext))))
  | some next =>
    rcases body_of_getElem? hnext with hbody | hbody
    · rw [hbody]
      exact h last hlast hbar next hnext
    · exact clear_of_nil hbody

/-! ## The lines of a span -/

section

variable {ls : List Text} {first past : Nat}

/-- A line of the span, as it stands there and in the whole: neither is the last line, unless
something stands in it. -/
theorem exists_line_linesOf {k : Nat}
    (hk : k < (Line.ofLines (linesOf ls first past)).length) : ∃ t,
    (linesOf ls first past)[k]? = some t ∧ ls[first + k]? = some t ∧
      (k + 1 < (linesOf ls first past).length ∨ t.all isSpace = false) ∧
      (first + k + 1 < ls.length ∨ t.all isSpace = false) := by
  have hlength : (linesOf ls first past).length = min past ls.length - first := by
    rw [linesOf, List.length_drop, List.length_take]
  have hle := length_ofLines_le (linesOf ls first past)
  obtain ⟨t, ht⟩ : ∃ t, (linesOf ls first past)[k]? = some t :=
    ⟨_, List.getElem?_eq_getElem (Nat.lt_of_lt_of_le hk hle)⟩
  have hfilled := (lt_length_ofLines ht).1 hk
  have hpast : first + k < past := by omega
  refine ⟨t, ht, (getElem?_linesOf hpast).symm.trans ht, hfilled, ?_⟩
  rcases hfilled with hmore | hall
  · exact .inl (by omega)
  · exact .inr hall

/-- Lines of the span that are no lines of it as a document are empty. -/
theorem isEmpty_of_linesOf {i : Nat}
    (hi : first + (Line.ofLines (linesOf ls first past)).length ≤ i) (hpast : i < past) :
    (ofLines ls).isEmpty i := by
  cases ht : ls[i]? with
  | none =>
    exact isEmpty_of_le (Nat.le_trans (length_ofLines_le ls) (List.getElem?_eq_none_iff.1 ht))
  | some t =>
    obtain ⟨k, rfl⟩ := Nat.exists_eq_add_of_le (Nat.le_trans (Nat.le_add_right _ _) hi)
    have hk := mt (lt_length_ofLines ((getElem?_linesOf hpast).trans ht)).2 (by omega)
    rw [not_or, Bool.not_eq_false] at hk
    exact (isEmpty_of_getElem? ht).trans hk.2

/-- What comes after the span leaves its last line alone. -/
theorem bar_linesOf (hclear : EndsClear ls past) {k : Nat}
    (hk : k + 1 = (Line.ofLines (linesOf ls first past)).length)
    (hbar : '|' ∈ ((ofLines ls).line (first + k)).body) :
    isDelimiterRow ((ofLines ls).line (first + (k + 1))).body = false ∧
      ((ofLines ls).line (first + (k + 1))).body.head? ≠ some '>' := by
  obtain ⟨t, hown, hwhole, -, hfilled⟩ :=
    exists_line_linesOf (Nat.lt_of_lt_of_eq (Nat.lt_succ_self k) hk)
  rw [line_of_getElem? hwhole hfilled, body_ofText] at hbar
  have hlength := (List.getElem?_eq_some_iff.1 hown).1
  rw [linesOf, List.length_drop, List.length_take] at hlength
  by_cases hlast : first + (k + 1) < past
  · have hend : first + (Line.ofLines (linesOf ls first past)).length ≤ first + (k + 1) :=
      Nat.le_of_eq (congrArg (first + ·) hk.symm)
    exact clear_of_nil (body_of_isEmpty (isEmpty_of_linesOf hend hlast))
  · obtain rfl : first + (k + 1) = past := by omega
    exact hclear.line hwhole ((List.dropWhile_sublist _).subset hbar)

/-- The lines of a span, as a document of their own, are an excerpt. -/
theorem excerpt_linesOf (hplain : ∀ t ∈ ls, ¬[']', ':'] <:+: t ∧ '\n' ∉ t)
    (hclear : EndsClear ls past) (hfirst : first < (Line.ofLines ls).length)
    (hpast : first < past) :
    Excerpt first (Line.ofLines (linesOf ls first past)).length past (ofLines ls)
      (ofLines (linesOf ls first past)) where
  le := by
    have hle := length_ofLines_le (linesOf ls first past)
    rw [linesOf, List.length_drop, List.length_take, ← linesOf] at hle
    omega
  indent := rfl
  listIndent := rfl
  limit := by
    refine .behind (Nat.le_refl _) ?_
    show first + (Line.ofLines (linesOf ls first past)).length ≤ (Line.ofLines ls).length
    cases hn : (Line.ofLines (linesOf ls first past)).length with
    | zero => exact Nat.le_of_lt hfirst
    | succ k =>
      obtain ⟨t, -, hwhole, -, hfilled⟩ :=
        exists_line_linesOf (Nat.lt_of_lt_of_eq (Nat.lt_succ_self k) hn.symm)
      exact (lt_length_ofLines hwhole).2 hfilled
  same k hk := by
    obtain ⟨t, hown, hwhole, hfilled, hfilled'⟩ := exists_line_linesOf hk
    rw [line_of_getElem? hown hfilled, line_of_getElem? hwhole hfilled']
    exact ⟨rfl, rfl, rfl, rfl⟩
  terminated k hk h := by
    obtain ⟨t, hown, hwhole, hfilled, hfilled'⟩ := exists_line_linesOf hk
    have hmore : k + 1 < (linesOf ls first past).length := by
      rcases h with h | h
      · exact Nat.lt_of_lt_of_le h (length_ofLines_le _)
      · refine hfilled.resolve_right fun hall => ?_
        rw [isEmpty_of_getElem? hown, hall] at h
        cases h
    have hmore' : first + k + 1 < ls.length := by
      rw [linesOf, List.length_drop, List.length_take] at hmore
      omega
    rw [line_of_getElem? hown hfilled, line_of_getElem? hwhole hfilled']
    show decide _ = decide _
    rw [decide_eq_true hmore, decide_eq_true hmore']
  empty _ hi hstop := isEmpty_of_linesOf hi hstop
  empty' _ hk := isEmpty_of_le hk
  bar k hk hbar := hk ▸ bar_linesOf hclear hk hbar
  plain := isPlain_ofLines hplain
  plain' := isPlain_ofLines fun t ht =>
    hplain t (List.mem_of_mem_take (List.mem_of_mem_drop ht))

end

end Scope

end LiveMarkdown.Markdown
