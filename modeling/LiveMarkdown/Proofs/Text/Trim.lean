import LiveMarkdown.Text.Blank
import Mathlib.Data.List.DropRight

/-!
# Texts without their ends

Blanks around a text make no difference to what is left of it when it is trimmed
(`trim_append_append`), and what is left begins and ends with no blank (`trim_trim`). The first word of a
text is what stands between two blanks, or the ends of the text (`isFirstWord_iff`).
-/

namespace LiveMarkdown.Text

/-- A character that stays at the front stays when the end is dropped. -/
theorem dropEndWhile_cons_of_neg {p : Char → Bool} {c : Char} (h : p c = false) (t : Text) :
    dropEndWhile p (c :: t) = c :: dropEndWhile p t := by
  rw [dropEndWhile, dropEndWhile, List.reverse_cons, List.dropWhile_append,
    List.dropWhile_cons_of_neg (by simp [h])]
  split
  · next hempty => rw [List.isEmpty_iff.1 hempty]; rfl
  · rw [List.reverse_append]; rfl

/-- White space is only taken off the end of a text that begins with something else. -/
theorem trimWhite_cons_of_neg {c : Char} (h : isWhite c = false) (t : Text) :
    trimWhite (c :: t) = c :: dropEndWhile isWhite t := by
  rw [trimWhite, List.dropWhile_cons_of_neg (by simp [h]), dropEndWhile_cons_of_neg h]

/-- Blanks are only taken off the end of a text that begins with something else. -/
theorem trim_cons_of_neg {c : Char} (h : isBlank c = false) (t : Text) :
    trim (c :: t) = c :: dropEndWhile isBlank t := by
  rw [trim, trimStart, List.dropWhile_cons_of_neg (by simp [h]), trimEnd, dropEndWhile_cons_of_neg h]

/-- A text without leading blanks is empty, or begins with a character that is not blank. -/
theorem trimStart_eq_nil_or (t : Text) :
    trimStart t = [] ∨ ∃ c rest, trimStart t = c :: rest ∧ isBlank c = false := by
  cases h : trimStart t with
  | nil => exact .inl rfl
  | cons c rest =>
    refine .inr ⟨c, rest, rfl, ?_⟩
    have hfirst := List.head?_dropWhile_not isBlank t
    rw [show t.dropWhile isBlank = c :: rest from h] at hfirst
    simpa using hfirst

/-- A text is trimmed once and for all. -/
theorem trim_trim (t : Text) : trim (trim t) = trim t := by
  have hidem (u : Text) : dropEndWhile isBlank (dropEndWhile isBlank u) = dropEndWhile isBlank u :=
    List.rdropWhile_idempotent ..
  rcases trimStart_eq_nil_or t with h | ⟨c, rest, h, hc⟩
  · have htrim : trim t = [] := by rw [trim, h]; rfl
    rw [htrim]
    rfl
  · have htrim : trim t = c :: dropEndWhile isBlank rest := by
      rw [trim, h, trimEnd, dropEndWhile_cons_of_neg hc]
    rw [htrim, trim_cons_of_neg hc, hidem]

/-- Blanks around a text are trimmed with it. -/
theorem trim_append_append {before after : Text} (hbefore : ∀ c ∈ before, isBlank c)
    (hafter : ∀ c ∈ after, isBlank c) (t : Text) : trim (before ++ (t ++ after)) = trim t := by
  rw [trim, trim, trimStart, List.dropWhile_append_of_pos hbefore, List.dropWhile_append, ← trimStart]
  split
  · next hempty =>
    rw [List.isEmpty_iff.1 hempty, List.dropWhile_eq_nil_iff.2 hafter]
  · rw [trimEnd, dropEndWhile, List.reverse_append,
      List.dropWhile_append_of_pos fun c hc => hafter c (List.mem_reverse.1 hc)]
    rfl

/-- A text has blanks around what is left of it. -/
theorem exists_trim (t : Text) : ∃ after, t = leadingBlanks t ++ (trim t ++ after) ∧
    ∀ c ∈ after, isBlank c := by
  refine ⟨((trimStart t).reverse.takeWhile isBlank).reverse, ?_, fun c hc => ?_⟩
  · have hend : trim t ++ ((trimStart t).reverse.takeWhile isBlank).reverse = trimStart t := by
      rw [trim, trimEnd, dropEndWhile, ← List.reverse_append, List.takeWhile_append_dropWhile,
        List.reverse_reverse]
    rw [hend]
    exact (List.takeWhile_append_dropWhile).symm
  · exact List.mem_takeWhile_imp (List.mem_reverse.1 hc)

/-- A trimmed text is a part of the text. -/
theorem trim_infix (t : Text) : trim t <:+: t := by
  obtain ⟨after, ht, -⟩ := exists_trim t
  exact ⟨leadingBlanks t, after, by rw [List.append_assoc, ← ht]⟩

/-- The characters before the first that is not blank are blank. -/
theorem isBlank_of_mem_leadingBlanks {t : Text} {c : Char} (h : c ∈ leadingBlanks t) : isBlank c :=
  List.mem_takeWhile_imp h

/-! ## First words -/

/-- The first word of a text: only blanks come before it, and a blank ends it unless the text does. A text
of blanks has the empty one. -/
inductive IsFirstWord : (word t : Text) → Prop
  | none {t : Text} (h : allBlank t) : IsFirstWord [] t
  | some {before word after : Text} (hbefore : ∀ c ∈ before, isBlank c) (hne : word ≠ [])
      (hword : ∀ c ∈ word, isBlank c = false) (hafter : ∀ c ∈ after.head?, isBlank c) :
      IsFirstWord word (before ++ (word ++ after))

/-- The first word is what comes up to a blank, after the blanks at the front. -/
theorem isFirstWord_firstWord (t : Text) : IsFirstWord (firstWord t) t := by
  rcases trimStart_eq_nil_or t with h | ⟨c, rest, h, hc⟩
  · rw [firstWord, h]
    exact .none (List.all_eq_true.2 (List.dropWhile_eq_nil_iff.1 h))
  · have hsplit : leadingBlanks t ++ (firstWord t ++ (trimStart t).dropWhile (!isBlank ·)) = t := by
      rw [firstWord, List.takeWhile_append_dropWhile]
      exact List.takeWhile_append_dropWhile
    have hne : firstWord t ≠ [] := by
      rw [firstWord, h, List.takeWhile_cons_of_pos (by simp [hc])]
      exact List.cons_ne_nil _ _
    have hword : ∀ d ∈ firstWord t, isBlank d = false :=
      fun d hd => by simpa using List.mem_takeWhile_imp hd
    have hafter : ∀ d ∈ ((trimStart t).dropWhile (!isBlank ·)).head?, isBlank d := by
      intro d hd
      have hstop := List.head?_dropWhile_not (!isBlank ·) (trimStart t)
      rw [Option.mem_def.1 hd] at hstop
      simpa using hstop
    have hfirst := IsFirstWord.some (fun _ => isBlank_of_mem_leadingBlanks (t := t)) hne hword hafter
    rwa [hsplit] at hfirst

/-- There is one first word. -/
theorem isFirstWord_iff {word t : Text} : IsFirstWord word t ↔ word = firstWord t := by
  refine ⟨fun h => ?_, fun h => h ▸ isFirstWord_firstWord t⟩
  cases h with
  | none h =>
    rw [firstWord, trimStart, List.dropWhile_eq_nil_iff.2 (List.all_eq_true.1 h)]
    rfl
  | @some before _ after hbefore hne hword hafter =>
    have htrim : trimStart (before ++ (word ++ after)) = word ++ after := by
      obtain ⟨c, rest, rfl⟩ := List.exists_cons_of_ne_nil hne
      rw [trimStart, List.dropWhile_append_of_pos hbefore, List.cons_append,
        List.dropWhile_cons_of_neg (by simp [hword c])]
    have hstop : after.takeWhile (!isBlank ·) = [] := by
      cases after with
      | nil => rfl
      | cons c rest => rw [List.takeWhile_cons_of_neg (by simp [hafter c rfl])]
    rw [firstWord, htrim, List.takeWhile_append_of_pos fun c hc => by simp [hword c hc], hstop,
      List.append_nil]

end LiveMarkdown.Text
