import LiveMarkdown.Preview.Render
import LiveMarkdown.Proofs.Math.Stretches

/-!
# Preparing a text twice

A prepared text is prepared again when it is cut into blocks afterwards. That leaves it as it is if
there is nothing in it but lines that are copied (`normalizeDisplay_eq_self_iff` and
`Divides.displayLines_eq_iff`). What was copied the first time is copied again, so it depends on the
lines of the formulas: they come between lines of dollar signs, where they are looked at for the first
time (`Divides.displayLines_shown`). That the lines around them are looked at as before needs that
none of them opens a fence or a region and leaves it open (`Stretch.IsClosed`).
-/

namespace LiveMarkdown.Math

open Text (grave trim leadingBlanks)

/-! ## What stays as it is -/

namespace Stretch

/-- Are the lines of the stretch left as they are? -/
def isCopied : Stretch → Bool
  | copied _ => true
  | _ => false

/-- No stretch gets shorter. -/
theorem length_source_le (s : Stretch) : s.source.length ≤ s.shown.length := by
  cases s with
  | copied lines => exact Nat.le_refl _
  | region opening body closing => simp [source, shown]
  | oneLine line formula => simp [source, shown]

end Stretch

/-- The line of an opening or closing pair is its dollar signs. -/
theorem trim_edge (line : Text) : trim (leadingBlanks line ++ dollars) = dollars := by
  have hbefore : ∀ c ∈ leadingBlanks line, Text.isBlank c := fun _ hc =>
    Text.isBlank_of_mem_leadingBlanks hc
  have hafter : ∀ c ∈ ([] : Text), Text.isBlank c := nofun
  have h := Text.trim_append_append hbefore hafter dollars
  rwa [List.append_nil] at h

/-- What is written for a stretch that is not copied is not what it was. -/
theorem Divides.shown_eq_source_iff {lines : List Text} {stretches : List Stretch}
    (h : Divides lines stretches) : ∀ s ∈ stretches, (s.source = s.shown ↔ s.isCopied) := by
  have hregion {line closing : Text} {body : List Text} (hbracket : trim line = ['\\', '[']) :
      (Stretch.region line body closing).source = (Stretch.region line body closing).shown ↔
        (Stretch.region line body closing).isCopied := by
    refine iff_of_false (fun heq => ?_) Bool.false_ne_true
    have htrim := congrArg trim (List.cons.inj heq).1
    rw [hbracket, trim_edge] at htrim
    cases htrim
  induction h with
  | nil => exact List.forall_mem_nil _
  | fence _ _ _ _ ih | other _ _ _ _ ih =>
    exact List.forall_mem_cons.2 ⟨iff_of_true rfl rfl, ih⟩
  | openFence | openRegion => exact List.forall_mem_cons.2 ⟨iff_of_true rfl rfl, List.forall_mem_nil _⟩
  | region hbracket _ _ _ ih => exact List.forall_mem_cons.2 ⟨hregion hbracket, ih⟩
  | oneLine _ _ ih =>
    refine List.forall_mem_cons.2 ⟨iff_of_false (fun heq => ?_) Bool.false_ne_true, ih⟩
    cases (List.cons.inj heq).2

/-- Lines stay as they are exactly if all their stretches are copied. -/
theorem Divides.displayLines_eq_iff {lines : List Text} {stretches : List Stretch}
    (h : Divides lines stretches) :
    Math.displayLines .outside lines = lines ↔ ∀ s ∈ stretches, s.isCopied := by
  rw [h.displayLines]
  conv_lhs => rw [← h.flatMap_source, eq_comm]
  rw [flatMap_eq_flatMap_iff fun s _ => s.length_source_le]
  exact forall₂_congr fun s hs => h.shown_eq_source_iff s hs

/-! ## Regions left open -/

/-- What the line after this one stands in. -/
def Region.next : Region → Text → Region
  | .outside, line =>
    match fence? (trim line) with
    | some (mark, count) => .fence mark count
    | none => if trim line = ['\\', '['] then .bracket line [] else .outside
  | .fence mark count, line =>
    if closesFence mark count (trim line) then .outside else .fence mark count
  | .bracket opening held, line =>
    if trim line = ['\\', ']'] then .outside else .bracket opening (line :: held)

/-- What the line after these lines stands in. -/
def Region.after (region : Region) (lines : List Text) : Region := lines.foldl Region.next region

/-- After lines that leave nothing open, a text goes on as if it began there. -/
theorem displayLines_append {region : Region} {lines : List Text}
    (h : region.after lines = .outside) (rest : List Text) :
    displayLines region (lines ++ rest) = displayLines region lines ++ displayLines .outside rest := by
  induction lines generalizing region with
  | nil =>
    obtain rfl : region = .outside := h
    rfl
  | cons line lines ih =>
    rw [Region.after, List.foldl_cons, ← Region.after] at h
    rw [List.cons_append]
    cases region with
    | outside =>
      rw [displayLines, displayLines]
      dsimp only
      cases hfence : fence? (trim line) with
      | some fence =>
        obtain ⟨mark, count⟩ := fence
        simp only [Region.next, hfence] at h
        exact congrArg (line :: ·) (ih h)
      | none =>
        simp only [Region.next, hfence] at h
        dsimp only
        split at h
        · next hbracket =>
          rw [if_pos hbracket, if_pos hbracket, ih h]
        · next hbracket =>
          rw [if_neg hbracket, if_neg hbracket]
          cases oneLine? (trim line) with
          | some formula =>
            dsimp only
            rw [ih h]
            rfl
          | none => exact congrArg (line :: ·) (ih h)
    | fence mark count => exact congrArg (line :: ·) (ih h)
    | bracket opening held =>
      rw [displayLines, displayLines]
      rw [Region.next] at h
      split at h
      · next hcloses =>
        rw [if_pos hcloses, if_pos hcloses, ih h]
        simp
      · next hcloses => rw [if_neg hcloses, if_neg hcloses, ih h]

namespace Stretch

/-- The line of dollar signs before and after what is shown as a formula. -/
def edge : Stretch → Text
  | copied _ => []
  | region opening _ _ => leadingBlanks opening ++ dollars
  | oneLine line _ => leadingBlanks line ++ dollars

/-- The lines of the formula that is shown. -/
def inner : Stretch → List Text
  | copied _ => []
  | region _ body _ => body
  | oneLine line formula => [leadingBlanks line ++ trim formula]

/-- The lines that are written if what has been written for a stretch is prepared again, which goes
over the lines of its formula. -/
def shownAgain : Stretch → List Text
  | copied lines => lines
  | s@(region _ _ _) => s.edge :: (displayLines .outside s.inner ++ [s.edge])
  | s@(oneLine _ _) => s.edge :: (displayLines .outside s.inner ++ [s.edge])

/-- The lines of the formula open no fence or region that they leave open. -/
def IsClosed (s : Stretch) : Prop := Region.outside.after s.inner = .outside

instance (s : Stretch) : Decidable s.IsClosed := inferInstanceAs (Decidable (_ = _))

end Stretch

/-- A line of dollar signs stays as it is. -/
theorem displayLines_edge (line : Text) (rest : List Text) :
    displayLines .outside ((leadingBlanks line ++ dollars) :: rest) =
      (leadingBlanks line ++ dollars) :: displayLines .outside rest := by
  rw [displayLines, trim_edge]
  rfl

/-- A formula between lines of dollar signs, and what comes after it. -/
theorem displayLines_formula (line : Text) {inner : List Text} (h : Region.outside.after inner = .outside)
    (rest : List Text) :
    displayLines .outside ((leadingBlanks line ++ dollars) ::
        (inner ++ (leadingBlanks line ++ dollars) :: rest)) =
      (leadingBlanks line ++ dollars) ::
        (displayLines .outside inner ++ (leadingBlanks line ++ dollars) :: displayLines .outside rest) := by
  rw [displayLines_edge, displayLines_append h, displayLines_edge]

/-- To prepare lines that have been prepared goes over what stands in their formulas, if nothing in
these is left open. -/
theorem Divides.displayLines_shown {lines : List Text} {stretches : List Stretch}
    (h : Divides lines stretches) (hclosed : ∀ s ∈ stretches, s.IsClosed) :
    Math.displayLines .outside (stretches.flatMap Stretch.shown) =
      stretches.flatMap Stretch.shownAgain := by
  induction h with
  | nil => rfl
  | @fence line closing body rest mark count stretches hopens hbody hcloses _ ih =>
    rw [List.flatMap_cons, List.flatMap_cons, ← ih (List.forall_mem_cons.1 hclosed).2]
    simp only [Stretch.shown, Stretch.shownAgain, List.cons_append, List.append_assoc,
      List.nil_append]
    rw [displayLines_opensFence hopens, displayLines_fence hbody, Math.displayLines,
      if_pos (closesFence_iff.2 hcloses)]
  | openFence hopens hrest =>
    have hsame := (Divides.openFence hopens hrest).displayLines
    simpa [Stretch.shown, Stretch.shownAgain] using hsame
  | openRegion hopens hrest =>
    have hsame := (Divides.openRegion hopens hrest).displayLines
    simpa [Stretch.shown, Stretch.shownAgain] using hsame
  | @region line closing body rest stretches _ _ _ _ ih =>
    obtain ⟨hs, hclosed⟩ := List.forall_mem_cons.1 hclosed
    rw [List.flatMap_cons, List.flatMap_cons, ← ih hclosed]
    simp only [Stretch.shown, Stretch.shownAgain, Stretch.edge, Stretch.inner, List.cons_append,
      List.append_assoc, List.nil_append]
    exact displayLines_formula line hs _
  | @oneLine line formula rest stretches _ _ ih =>
    obtain ⟨hs, hclosed⟩ := List.forall_mem_cons.1 hclosed
    rw [List.flatMap_cons, List.flatMap_cons, ← ih hclosed]
    simp only [Stretch.shown, Stretch.shownAgain, Stretch.edge, Stretch.inner, List.cons_append,
      List.append_assoc, List.nil_append]
    exact displayLines_formula line hs _
  | other hfence hbracket hformula _ ih =>
    rw [List.flatMap_cons, List.flatMap_cons, ← ih (List.forall_mem_cons.1 hclosed).2]
    exact displayLines_other hfence hbracket hformula _

namespace Stretch

/-- No stretch gets shorter the second time. -/
theorem length_shown_le (s : Stretch) : s.shown.length ≤ s.shownAgain.length := by
  have hinner := length_le_displayLines s.inner
  cases s with
  | copied lines => exact Nat.le_refl _
  | region opening body closing => simpa [shown, shownAgain, inner] using hinner
  | oneLine line formula => simpa [shown, shownAgain, inner] using hinner

/-- A stretch stays as it is the second time exactly if what is in it does. -/
theorem shown_eq_shownAgain_iff (s : Stretch) :
    s.shown = s.shownAgain ↔ displayLines .outside s.inner = s.inner := by
  have hinner (edge : Text) (inner : List Text) :
      edge :: (inner ++ [edge]) = edge :: (displayLines .outside inner ++ [edge]) ↔
        displayLines .outside inner = inner := by
    rw [List.cons_inj_right, List.append_left_inj, eq_comm]
  cases s with
  | copied lines => exact iff_of_true rfl rfl
  | region opening body closing => exact hinner _ body
  | oneLine line formula => exact hinner _ [leadingBlanks line ++ trim formula]

end Stretch

/-- Lines that have been prepared stay as they are exactly if the lines of each formula do, if nothing
in these is left open. -/
theorem Divides.displayLines_shown_eq_iff {lines : List Text} {stretches : List Stretch}
    (h : Divides lines stretches) (hclosed : ∀ s ∈ stretches, s.IsClosed) :
    Math.displayLines .outside (stretches.flatMap Stretch.shown) = stretches.flatMap Stretch.shown ↔
      ∀ s ∈ stretches, Math.displayLines .outside s.inner = s.inner := by
  rw [h.displayLines_shown hclosed, eq_comm, flatMap_eq_flatMap_iff fun s _ => s.length_shown_le]
  exact forall₂_congr fun s _ => s.shown_eq_shownAgain_iff

/-! ## Texts -/

/-- A text stays as it is exactly if its lines do. -/
theorem normalizeDisplay_eq_self_iff {t : Text} :
    normalizeDisplay t = t ↔ displayLines .outside (Text.lines t) = Text.lines t := by
  rw [← lines_normalizeDisplay]
  refine ⟨congrArg Text.lines, fun h => ?_⟩
  rw [← Text.unlines_lines (normalizeDisplay t), h, Text.unlines_lines]

/-- A text that has been prepared stays as it is exactly if there is nothing in it but lines that are
copied. If no formula of the text has a fence or a region in it that it leaves open, this is so exactly
if the lines of each formula, taken for a text of their own, stay as they are. -/
theorem preprocess_twice_iff (t : Text) :
    (preprocess (preprocess t) = preprocess t ↔
      ∀ stretches, Divides (Text.lines (preprocess t)) stretches → ∀ s ∈ stretches, s.isCopied) ∧
    ∀ stretches, Divides (Text.lines t) stretches → (∀ s ∈ stretches, s.IsClosed) →
      (preprocess (preprocess t) = preprocess t ↔
        ∀ s ∈ stretches, displayLines .outside s.inner = s.inner) := by
  unfold preprocess
  rw [normalizeDisplay_eq_self_iff]
  constructor
  · constructor
    · exact fun h stretches hdivides => hdivides.displayLines_eq_iff.1 h
    · intro h
      obtain ⟨stretches, hdivides⟩ := exists_divides (Text.lines (normalizeDisplay t))
      exact hdivides.displayLines_eq_iff.2 (h stretches hdivides)
  · intro stretches hdivides hclosed
    rw [lines_normalizeDisplay, hdivides.displayLines]
    exact hdivides.displayLines_shown_eq_iff hclosed

/-- Code between brackets: its fences are closed, so that dollar signs in it stay as they are. -/
theorem preprocess_twice_code :
    preprocess (preprocess "\\[\n```\n$$x$$\n```\n\\]".toList) =
      preprocess "\\[\n```\n$$x$$\n```\n\\]".toList := by
  have hlines : Text.lines "\\[\n```\n$$x$$\n```\n\\]".toList =
      "\\[".toList :: (["```".toList, "$$x$$".toList, "```".toList] ++ "\\]".toList :: []) := by decide
  have hdivides := @Divides.region "\\[".toList "\\]".toList
    ["```".toList, "$$x$$".toList, "```".toList] [] [] (by decide) (by decide) (by decide) .nil
  rw [← hlines] at hdivides
  exact ((preprocess_twice_iff _).2 _ hdivides (by decide)).2 (by decide)

/-- A formula on one line between brackets: once the brackets are dollar signs, it is taken for one
that stands on its own. -/
theorem formula_in_region_again :
    preprocess "\\[\n$$x$$\n\\]".toList = "$$\n$$x$$\n$$".toList ∧
      preprocess (preprocess "\\[\n$$x$$\n\\]".toList) = "$$\n$$\nx\n$$\n$$".toList ∧
      preprocess (preprocess "\\[\n$$x$$\n\\]".toList) ≠ preprocess "\\[\n$$x$$\n\\]".toList := by
  decide +kernel

end LiveMarkdown.Math
