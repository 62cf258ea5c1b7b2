import LiveMarkdown.Markdown.Reference

/-!
# Texts without definitions

A definition begins with a label in brackets, and a colon follows its closing bracket. The label may
go on over several lines, but the bracket and the colon stand on one: a scope in none of whose lines
they are next to each other (`IsPlain`) defines nothing (`IsPlain.reference?_eq_none`).
-/

namespace LiveMarkdown.Markdown
namespace Scope

/-- Does nothing in the scope look like a definition? -/
def IsPlain (s : Scope) : Prop :=
  ∀ i, ¬[']', ':'] <:+: (s.line i).chars ∧ '\n' ∉ (s.line i).chars

/-- The text is the end of a line, with a newline after it or without. -/
def IsLineEnd (s : Scope) (t : Text) : Prop :=
  ∃ i, t <:+ (s.line i).chars ++ ['\n'] ∨ t <:+ (s.line i).chars

variable {s : Scope}

/-- A line without its indentation is the end of a line. -/
theorem isLineEnd_body (s : Scope) (i : Nat) :
    s.IsLineEnd ((s.line i).body ++ (if (s.line i).terminated then ['\n'] else [])) := by
  obtain ⟨front, hfront⟩ : (s.line i).body <:+ (s.line i).chars := List.drop_suffix _ _
  refine ⟨i, ?_⟩
  split
  · exact .inl ⟨front, by rw [← List.append_assoc, hfront]⟩
  · exact .inr ⟨front, by rw [List.append_nil, hfront]⟩

/-- The end of the end of a line is one, too. -/
theorem IsLineEnd.tail {c : Char} {t : Text} (h : s.IsLineEnd (c :: t)) : s.IsLineEnd t := by
  obtain ⟨i, h⟩ := h
  exact ⟨i, h.imp (List.suffix_cons c t).trans (List.suffix_cons c t).trans⟩

namespace IsPlain

variable (hs : s.IsPlain)
include hs

/-- A newline ends its line. -/
theorem eq_nil_of_newline {t : Text} (h : s.IsLineEnd ('\n' :: t)) : t = [] := by
  obtain ⟨i, ⟨front, hfront⟩ | ⟨front, hfront⟩⟩ := h
  · rcases List.append_eq_append_iff.1 hfront with ⟨between, hchars, hmore⟩ | ⟨between, -, hmore⟩
    · cases between with
      | nil => exact (List.cons.inj hmore).2
      | cons c between =>
        have hc : '\n' = c := (List.cons.inj hmore).1
        exact absurd (by simp [hchars, ← hc] : '\n' ∈ (s.line i).chars) (hs i).2
    · have hlength := congrArg List.length hmore
      simp only [List.length_append, List.length_cons, List.length_nil] at hlength
      exact List.length_eq_zero_iff.1 (by omega)
  · exact absurd (hfront ▸ by simp : '\n' ∈ (s.line i).chars) (hs i).2

/-- After a newline comes another line, or nothing. -/
theorem isLineEnd_more (front : Text) {t : Text} (h : s.IsLineEnd ('\n' :: t)) (next : Nat) :
    s.IsLineEnd ((Unread.more s ⟨front ++ '\n' :: t, next⟩).text.drop (front.length + 1)) := by
  obtain rfl := hs.eq_nil_of_newline h
  unfold Unread.more
  split
  · next line hline =>
    have hdrop : (front ++ ['\n'] ++ line).drop (front.length + 1) = line := by simp
    simp only [hdrop]
    rw [Scope.continuation?] at hline
    split at hline
    · cases hline
    · split at hline
      · cases hline
      · cases hline
        exact isLineEnd_body s next
  · simp only [List.drop_length_add_append]
    exact h.tail

/-- Where no line has a bracket before a colon, none ends with what begins so. -/
theorem not_isLineEnd (t : Text) : ¬s.IsLineEnd (']' :: ':' :: t) := by
  rintro ⟨i, ⟨front, hfront⟩ | ⟨front, hfront⟩⟩
  · rcases List.append_eq_append_iff.1 hfront with ⟨between, hchars, hmore⟩ | ⟨between, -, hmore⟩
    · match between, hmore with
      | [], hmore => exact absurd (List.cons.inj hmore).1 (by decide)
      | [c], hmore => exact absurd (List.cons.inj (List.cons.inj hmore).2).1 (by decide)
      | c :: d :: between, hmore =>
        have hc : ']' = c := (List.cons.inj hmore).1
        have hd : ':' = d := (List.cons.inj (List.cons.inj hmore).2).1
        exact (hs i).1 ⟨front, between, by simp [hchars, ← hc, ← hd]⟩
    · have hlength := congrArg List.length hmore
      simp only [List.length_append, List.length_cons, List.length_nil] at hlength
      omega
  · exact (hs i).1 ⟨front, t, by simpa using hfront⟩

/-- No colon follows the bracket that closes a label. -/
theorem label?_text {fuel : Nat} {taken label : Text} {u u' : Unread} (hu : s.IsLineEnd u.text)
    (h : u.label? s fuel taken = some (label, u')) (rest : Text) : u'.text ≠ ':' :: rest := by
  induction fuel generalizing taken u with
  | zero => cases h
  | succ fuel ih =>
    obtain ⟨text, next⟩ := u
    rw [Unread.label?] at h
    split at h
    · cases h
    · cases h
    · next tail heq =>
      simp only at heq
      subst heq
      cases h
      rintro rfl
      exact hs.not_isLineEnd _ hu
    · next tail heq =>
      simp only at heq
      subst heq
      exact ih (hs.isLineEnd_more [] hu next) h
    · next tail heq =>
      simp only at heq
      subst heq
      exact ih (hs.isLineEnd_more ['\\'] hu.tail next) h
    · next c tail _ heq =>
      simp only at heq
      subst heq
      exact ih hu.tail.tail h
    · next c tail _ _ _ _ heq =>
      simp only at heq
      subst heq
      exact ih hu.tail h

/-- There are no definitions in a scope where nothing looks like one. -/
theorem reference?_eq_none (i : Nat) : s.reference? i = none := by
  refine Option.eq_none_iff_forall_ne_some.2 fun r h => ?_
  simp only [reference?] at h
  split at h
  · cases h
  · split at h
    · next rest hbody =>
      have hstart := (hbody ▸ isLineEnd_body s i).tail
      simp only [bind, Option.bind_eq_some_iff] at h
      obtain ⟨⟨label, u⟩, hlabel, h⟩ := h
      split at h
      · next htext => exact hs.label?_text hstart hlabel _ htext
      · cases h
    · cases h

end IsPlain
end Scope
end LiveMarkdown.Markdown
