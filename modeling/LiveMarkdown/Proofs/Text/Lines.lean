import LiveMarkdown.Text.Basic

/-!
# Lines that are joined

Joining the lines of a text gives the text back (`Text.unlines_lines`). The other direction needs that
there are lines at all and that none of them has a newline: then cutting gives back the lines that
have been joined (`lines_unlines`), and the lines of a text are such lines.
-/

namespace LiveMarkdown.Text

/-- A piece between occurrences of a character has no occurrence of it. -/
theorem notMem_of_mem_splitAtChar {c : Char} {t piece : Text} (h : piece ∈ splitAtChar c t) :
    c ∉ piece := by
  induction t generalizing piece with
  | nil =>
    rw [splitAtChar, List.mem_singleton] at h
    rw [h]
    exact List.not_mem_nil
  | cons d rest ih =>
    simp only [splitAtChar] at h
    split at h
    · rcases List.mem_cons.1 h with rfl | h
      · exact List.not_mem_nil
      · exact ih h
    · next hne =>
      split at h
      · next heq => exact absurd heq (splitAtChar_ne_nil c rest)
      · next first more heq =>
        rcases List.mem_cons.1 h with rfl | h
        · intro hc
          rcases List.mem_cons.1 hc with hc | hc
          · exact hne hc.symm
          · exact ih (heq ▸ List.mem_cons_self) hc
        · exact ih (heq ▸ List.mem_cons_of_mem _ h)

/-- No line of a text has a newline. -/
theorem newline_notMem_of_mem_lines {t line : Text} (h : line ∈ lines t) : '\n' ∉ line :=
  notMem_of_mem_splitAtChar h

/-- A text without the character is one piece. -/
theorem splitAtChar_of_notMem {c : Char} {t : Text} (h : c ∉ t) : splitAtChar c t = [t] := by
  induction t with
  | nil => rfl
  | cons d rest ih =>
    have hd : d ≠ c := fun heq => h (heq ▸ List.mem_cons_self)
    rw [splitAtChar, if_neg hd, ih fun hmem => h (List.mem_cons_of_mem _ hmem)]

/-- The first occurrence of the character ends the first piece. -/
theorem splitAtChar_append_cons {c : Char} {t : Text} (h : c ∉ t) (rest : Text) :
    splitAtChar c (t ++ c :: rest) = t :: splitAtChar c rest := by
  induction t with
  | nil => rw [List.nil_append, splitAtChar, if_pos rfl]
  | cons d t ih =>
    have hd : d ≠ c := fun heq => h (heq ▸ List.mem_cons_self)
    rw [List.cons_append, splitAtChar, if_neg hd, ih fun hmem => h (List.mem_cons_of_mem _ hmem)]

/-- Cutting gives back the pieces that have been joined. -/
theorem splitAtChar_join {c : Char} {pieces : List Text} (hne : pieces ≠ [])
    (h : ∀ piece ∈ pieces, c ∉ piece) : splitAtChar c (join [c] pieces) = pieces := by
  induction pieces with
  | nil => exact absurd rfl hne
  | cons piece more ih =>
    have hfirst : c ∉ piece := h piece List.mem_cons_self
    cases more with
    | nil => exact splitAtChar_of_notMem hfirst
    | cons next more =>
      have hrest := ih (List.cons_ne_nil _ _) fun p hp => h p (List.mem_cons_of_mem _ hp)
      rw [join, List.append_assoc, List.singleton_append, splitAtChar_append_cons hfirst, hrest]
      exact List.cons_ne_nil _ _

/-- Cutting at newlines gives back the lines that have been joined. -/
theorem lines_unlines {ls : List Text} (hne : ls ≠ []) (h : ∀ line ∈ ls, '\n' ∉ line) :
    lines (unlines ls) = ls := splitAtChar_join hne h

/-- A piece that is joined with others is part of the whole. -/
theorem infix_join {separator piece : Text} {pieces : List Text} (h : piece ∈ pieces) :
    piece <:+: join separator pieces := by
  induction pieces with
  | nil => cases h
  | cons first more ih =>
    cases more with
    | nil =>
      obtain rfl := List.mem_singleton.1 h
      exact List.infix_rfl
    | cons next more =>
      rw [join]
      · rcases List.mem_cons.1 h with rfl | h
        · rw [List.append_assoc]
          exact List.infix_append [] piece _
        · exact (ih h).trans (List.suffix_append ..).isInfix
      · exact List.cons_ne_nil _ _

/-- A line is a part of its text. -/
theorem infix_of_mem_lines {t line : Text} (h : line ∈ lines t) : line <:+: t := by
  have hpart : line <:+: unlines (lines t) := infix_join h
  rwa [unlines_lines] at hpart

/-- A text includes its parts, and nothing else. -/
theorem includes_iff {t part : Text} : includes t part ↔ part <:+: t := by
  induction t with
  | nil => simp [includes]
  | cons c rest ih =>
    rw [includes, Bool.or_eq_true, List.isPrefixOf_iff_prefix, ih]
    exact List.infix_cons_iff.symm

end LiveMarkdown.Text

namespace LiveMarkdown

/-! ## Pieces that are joined -/

/-- Where none of the pieces is longer than its counterpart, the pieces make up the same list exactly
if they are the same. -/
theorem flatMap_eq_flatMap_iff {α β : Type} {f g : α → List β} {l : List α}
    (hle : ∀ a ∈ l, (f a).length ≤ (g a).length) :
    l.flatMap f = l.flatMap g ↔ ∀ a ∈ l, f a = g a := by
  refine ⟨fun h => ?_, fun h => by rw [List.flatMap_def, List.flatMap_def, List.map_congr_left h]⟩
  have hlength : ∀ l : List α, (∀ a ∈ l, (f a).length ≤ (g a).length) →
      (l.flatMap f).length ≤ (l.flatMap g).length := by
    intro l hle
    induction l with
    | nil => exact Nat.le_refl _
    | cons a l ih =>
      obtain ⟨ha, hle⟩ := List.forall_mem_cons.1 hle
      rw [List.flatMap_cons, List.flatMap_cons, List.length_append, List.length_append]
      exact Nat.add_le_add ha (ih hle)
  induction l with
  | nil => exact List.forall_mem_nil _
  | cons a l ih =>
    obtain ⟨ha, hmore⟩ := List.forall_mem_cons.1 hle
    rw [List.flatMap_cons, List.flatMap_cons] at h
    have hsum := congrArg List.length h
    rw [List.length_append, List.length_append] at hsum
    have hfirst : (f a).length = (g a).length := by
      have := hlength l hmore
      omega
    obtain ⟨hhead, htail⟩ := List.append_inj h hfirst
    exact List.forall_mem_cons.2 ⟨hhead, ih hmore htail⟩

end LiveMarkdown
