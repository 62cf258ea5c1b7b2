import LiveMarkdown.Text.Case

/-!
# Small letters of other characters

An equals sign has no small form but itself, and is the small form of nothing else. The runs of
characters with small letters are checked one by one: all begin beyond ASCII, and none leads back to
it. For that, the table of the runs is taken as a list of characters, which can be evaluated.
-/

namespace LiveMarkdown.Text

/-- The numbers of a table that is given character by character. -/
def numbersOf (t : Text) : List Nat :=
  let (done, current) := t.foldl hexNumbers.step ([], none)
  (match current with
    | none => done
    | some n => n :: done).reverse

/-- The numbers of a table are read from its characters. -/
theorem hexNumbers_ofList (t : Text) : hexNumbers (String.ofList t) = numbersOf t := by
  unfold hexNumbers
  rw [String.toList_ofList]
  rfl

/-- What is checked character by character holds of the table. -/
theorem all_caseRunsFrom {p : CaseRun → Bool} {s : String} {t : Text} (hs : s = String.ofList t)
    (h : (caseRunsFrom 0 (numbersOf t)).all p) : (caseRunsFrom 0 (hexNumbers s)).all p := by
  rw [hs, hexNumbers_ofList]
  exact h

/-- The equals sign has one number. -/
theorem eq_of_ofNat_eq_equals {n : Nat} (h : Char.ofNat n = '=') : n = 61 := by
  by_cases hvalid : n.isValidChar
  · have hchar : Char.ofNat n = Char.ofNatAux n hvalid := dif_pos hvalid
    have hnum : (Char.ofNatAux n hvalid).toNat = n := rfl
    rw [← hnum, ← hchar, h]
    rfl
  · have hzero : Char.ofNat n = Char.ofNat 0 := dif_neg hvalid
    exact absurd (hzero.symm.trans h) (by decide)

set_option maxRecDepth 100000 in
/-- No run leads from beyond ASCII to an equals sign. -/
theorem lowerRuns_beyond_equals :
    lowerRuns.all fun run => 61 < run.first &&
      (run.shift % 2 = 0 || 61 + (run.shift + 1) / 2 < run.first) :=
  all_caseRunsFrom rfl (by decide +kernel)

/-- No run of letters has an equals sign among its small letters. -/
theorem image?_ne_equals {run : CaseRun} (hrun : run ∈ lowerRuns) (c : Char) :
    run.image? c ≠ some '=' := by
  intro h
  have hbeyond := List.all_eq_true.1 lowerRuns_beyond_equals run hrun
  simp only [Bool.and_eq_true, Bool.or_eq_true, decide_eq_true_eq] at hbeyond
  obtain ⟨hfirst, hshift⟩ := hbeyond
  unfold CaseRun.image? at h
  dsimp only at h
  split at h
  · next hc =>
    simp only [Bool.and_eq_true, decide_eq_true_eq] at hc
    have hnum := eq_of_ofNat_eq_equals (Option.some.inj h)
    split at hnum
    · omega
    · omega
  · cases h

/-- No other ASCII character becomes an equals sign. -/
theorem lowerAscii_ne_equals {c : Char} (hc : c ≠ '=') : lowerAscii c ≠ '=' := by
  intro h
  unfold lowerAscii at h
  split at h
  · next hcap =>
    have hnum := eq_of_ofNat_eq_equals h
    simp only [Bool.and_eq_true, decide_eq_true_eq] at hcap
    have hlow : 'A'.toNat ≤ c.toNat := hcap.1
    have : 'A'.toNat = 65 := rfl
    omega
  · exact hc h

/-- No other character becomes an equals sign in small letters. -/
theorem equals_notMem_lowerChar {c : Char} (hc : c ≠ '=') : '=' ∉ lowerChar c := by
  intro h
  unfold lowerChar at h
  split at h
  · exact lowerAscii_ne_equals hc (List.mem_singleton.1 h).symm
  · split at h
    · exact absurd h (by decide)
    · have himage := (List.mem_singleton.1 h).symm
      cases hfound : lowerRuns.findSome? (·.image? c) with
      | none => rw [hfound] at himage; exact hc himage
      | some d =>
        rw [hfound] at himage
        obtain ⟨run, hrun, hd⟩ := List.exists_of_findSome?_eq_some hfound
        exact image?_ne_equals hrun c (hd.trans (congrArg some himage))

/-- Every character has a small form. -/
theorem lowerChar_ne_nil (c : Char) : lowerChar c ≠ [] := by
  unfold lowerChar
  split
  · exact List.cons_ne_nil _ _
  · split
    · exact List.cons_ne_nil _ _
    · exact List.cons_ne_nil _ _

/-- An equals sign stays what it is. -/
theorem lowerChar_equals : lowerChar '=' = ['='] := by
  unfold lowerChar
  rw [if_pos (by decide)]
  rfl

/-- What stands for a character in small letters. -/
theorem lowerAfter_cons (before : Text) (c : Char) (rest : Text) :
    ∃ d ds, lowerAfter before (c :: rest) = (d :: ds) ++ lowerAfter (c :: before) rest ∧
      '=' ∉ ds ∧ (c ≠ '=' → d ≠ '=') := by
  rw [lowerAfter]
  split
  · refine ⟨_, [], rfl, List.not_mem_nil, fun _ h => ?_⟩
    have hnum := eq_of_ofNat_eq_equals h
    split at hnum
    · cases hnum
    · cases hnum
  · have hne := equals_notMem_lowerChar (c := c)
    cases hl : lowerChar c with
    | nil => exact absurd hl (lowerChar_ne_nil c)
    | cons d ds =>
      refine ⟨d, ds, rfl, ?_, fun hc h => hne hc (hl ▸ h ▸ List.mem_cons_self)⟩
      by_cases hc : c = '='
      · rw [hc, lowerChar_equals] at hl
        rw [← (List.cons.inj hl).2]
        exact List.not_mem_nil
      · exact fun h => hne hc (hl ▸ List.mem_cons_of_mem _ h)

/-- Small letters bring in no equals sign. -/
theorem equals_notMem_lowerAfter (before : Text) {t : Text} (h : '=' ∉ t) :
    '=' ∉ lowerAfter before t := by
  induction t generalizing before with
  | nil => exact List.not_mem_nil
  | cons c rest ih =>
    obtain ⟨d, ds, hlower, hds, hd⟩ := lowerAfter_cons before c rest
    have hc : c ≠ '=' := fun hc => h (hc ▸ List.mem_cons_self)
    rw [hlower]
    intro hm
    rcases List.mem_append.1 hm with hm | hm
    · rcases List.mem_cons.1 hm with hm | hm
      · exact hd hc hm.symm
      · exact hds hm
    · exact ih (c :: before) (fun hr => h (List.mem_cons_of_mem _ hr)) hm

/-- In small letters, a text with no equals sign after its first character has none there either. -/
theorem equals_notMem_tail_lower {c : Char} {rest : Text} (h : '=' ∉ rest) :
    lower (c :: rest) ≠ [] ∧ '=' ∉ (lower (c :: rest)).tail := by
  obtain ⟨d, ds, hlower, hds, -⟩ := lowerAfter_cons [] c rest
  rw [lower, hlower]
  refine ⟨List.cons_ne_nil _ _, fun hm => ?_⟩
  rcases List.mem_append.1 hm with hm | hm
  · exact hds hm
  · exact equals_notMem_lowerAfter _ h hm

end LiveMarkdown.Text
