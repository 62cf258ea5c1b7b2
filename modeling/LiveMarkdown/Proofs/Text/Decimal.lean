import LiveMarkdown.Text.Decimal

/-!
# Numbers in front of other text

A text is told from what follows it if a character comes between the two that the text does not
have. Numbers have no hyphens but the sign, so that a number with a hyphen after it can be read back
whatever comes then.
-/

namespace LiveMarkdown.Text

/-- The first of a character's places splits a text in one way. -/
theorem append_cons_injective {c : Char} {x x' y y' : Text} (hx : c ∉ x) (hx' : c ∉ x')
    (h : x ++ c :: y = x' ++ c :: y') : x = x' ∧ y = y' := by
  induction x generalizing x' with
  | nil =>
    cases x' with
    | nil => exact ⟨rfl, (List.cons.inj h).2⟩
    | cons d rest => exact absurd ((List.cons.inj h).1 ▸ List.mem_cons_self) hx'
  | cons d rest ih =>
    cases x' with
    | nil => exact absurd ((List.cons.inj h).1 ▸ List.mem_cons_self) hx
    | cons d' rest' =>
      obtain ⟨hd, hrest⟩ := List.cons.inj h
      obtain ⟨hx, hy⟩ := ih (fun hm => hx (List.mem_cons_of_mem _ hm))
        (fun hm => hx' (List.mem_cons_of_mem _ hm)) hrest
      exact ⟨by rw [hd, hx], hy⟩

/-- A digit is no hyphen. -/
theorem decimalDigit_ne_hyphen {n : Nat} (h : n < 10) : decimalDigit n ≠ '-' := by
  have : ∀ m : Fin 10, decimalDigit m.val ≠ '-' := by decide
  exact this ⟨n, h⟩

/-- The digits of a number have no hyphen. -/
theorem hyphen_notMem_digitsUpTo (fuel n : Nat) : '-' ∉ digitsUpTo fuel n := by
  induction fuel generalizing n with
  | zero => exact List.not_mem_nil
  | succ fuel ih =>
    rw [digitsUpTo]
    split
    · next h => exact fun hm => decimalDigit_ne_hyphen h (List.mem_singleton.1 hm).symm
    · intro hm
      rcases List.mem_append.1 hm with hm | hm
      · exact ih _ hm
      · exact decimalDigit_ne_hyphen (Nat.mod_lt n (by omega)) (List.mem_singleton.1 hm).symm

/-- A number that is not negative is written without a hyphen. -/
theorem hyphen_notMem_ofNat (n : Nat) : '-' ∉ ofNat n := hyphen_notMem_digitsUpTo _ n

/-- A number is written with one digit at least. -/
theorem ofNat_ne_nil (n : Nat) : ofNat n ≠ [] := by
  rw [ofNat, digitsUpTo]
  split
  · exact List.cons_ne_nil _ _
  · exact List.append_ne_nil_of_right_ne_nil _ (List.cons_ne_nil _ _)

/-- A number with a hyphen after it does not begin with a hyphen, unless it is negative. -/
theorem ofNat_append_ne_cons (n : Nat) (x y : Text) : ofNat n ++ x ≠ '-' :: y := by
  intro h
  obtain ⟨c, rest, hc⟩ := List.exists_cons_of_ne_nil (ofNat_ne_nil n)
  rw [hc, List.cons_append] at h
  refine hyphen_notMem_ofNat n ?_
  rw [hc, ← (List.cons.inj h).1]
  exact List.mem_cons_self

/-- A number before a hyphen tells where it ends. -/
theorem ofNat_append_injective {m n : Nat} {x y : Text}
    (h : ofNat m ++ '-' :: x = ofNat n ++ '-' :: y) : m = n ∧ x = y := by
  obtain ⟨hdigits, hrest⟩ :=
    append_cons_injective (hyphen_notMem_ofNat m) (hyphen_notMem_ofNat n) h
  exact ⟨ofNat_injective hdigits, hrest⟩

/-- A whole number can be told from what follows it after a hyphen. -/
theorem ofInt_append_injective {i j : Int} {x y : Text}
    (h : ofInt i ++ '-' :: x = ofInt j ++ '-' :: y) : i = j ∧ x = y := by
  cases i with
  | ofNat m =>
    cases j with
    | ofNat n =>
      obtain ⟨hnum, hrest⟩ := ofNat_append_injective (m := m) (n := n) h
      exact ⟨congrArg Int.ofNat hnum, hrest⟩
    | negSucc n => exact absurd h (ofNat_append_ne_cons m _ _)
  | negSucc m =>
    cases j with
    | ofNat n => exact absurd h.symm (ofNat_append_ne_cons n _ _)
    | negSucc n =>
      obtain ⟨hnum, hrest⟩ := ofNat_append_injective (List.cons.inj h).2
      exact ⟨congrArg Int.negSucc (Nat.succ.inj hnum), hrest⟩

/-- Different numbers are written differently. -/
theorem ofInt_injective {i j : Int} (h : ofInt i = ofInt j) : i = j :=
  (ofInt_append_injective (congrArg (· ++ ['-']) h)).1

end LiveMarkdown.Text
