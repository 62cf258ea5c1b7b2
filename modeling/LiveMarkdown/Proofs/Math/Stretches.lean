import LiveMarkdown.Proofs.Math.OneLine
import LiveMarkdown.Proofs.Text.Lines

/-!
# What is done with the lines of a text

The scanner goes over the lines once and carries what it is in the middle of. What it does can be said
with a look ahead instead: a text is divided into stretches (`Divides`). A fence is a stretch with all
up to the line that closes it, and so is a `\[` with all up to the next `\]`; if no such line comes,
everything to the end is. Each other line is a stretch of its own. Only two kinds of stretches are
changed: between brackets the two outer lines become lines of dollar signs, and a formula on one line
is put on three.

Every text can be divided (`exists_divides`), and the scanner writes what the stretches say, whichever
way it was divided (`Divides.displayLines`). The two put together are `display_described`.

The description has words of its own for what a fence, its end and a formula on one line are. Those of
the scanner mean the same: `fence?_eq_some_iff`, `closesFence_iff` and `oneLine?_eq_some_iff`.
-/

namespace LiveMarkdown.Math

open Text (grave trim leadingBlanks)

/-! ## Lines -/

/-- The line begins with a run of exactly `count` times `mark`, which is long enough for a fence. -/
def OpensFence (mark : Char) (count : Nat) (line : Text) : Prop :=
  (mark = grave ∨ mark = '~') ∧ 3 ≤ count ∧
    ∃ rest, trim line = List.replicate count mark ++ rest ∧ rest.head? ≠ some mark

/-- The line is made of `mark` alone, at least `count` times. -/
def ClosesFence (mark : Char) (count : Nat) (line : Text) : Prop :=
  ∃ length, count ≤ length ∧ trim line = List.replicate length mark

/-- The text holds `count` pairs of dollar signs that do not overlap. -/
def HoldsPairs (count : Nat) (t : Text) : Prop :=
  ∃ (gaps : List Text) (last : Text), gaps.length = count ∧ t = gaps.flatMap (· ++ dollars) ++ last

/-- The line is a formula between two pairs of dollar signs, and has no third pair. -/
def IsOneLine (line formula : Text) : Prop :=
  trim line = dollars ++ (formula ++ dollars) ∧ formula ≠ [] ∧ HoldsPairs 2 (trim line) ∧
    ¬HoldsPairs 3 (trim line)

/-- A line opens a fence if it begins with a run of exactly that many marks, three at least. -/
theorem fence?_eq_some_iff {t : Text} {mark : Char} {count : Nat} :
    fence? t = some (mark, count) ↔ (mark = grave ∨ mark = '~') ∧ 3 ≤ count ∧
      ∃ rest, t = List.replicate count mark ++ rest ∧ rest.head? ≠ some mark := by
  constructor
  · intro h
    cases t with
    | nil => cases h
    | cons c rest =>
      rw [fence?] at h
      split at h
      · next hrun =>
        obtain ⟨rfl, rfl⟩ := Prod.mk.inj (Option.some.inj h)
        simp only [Bool.and_eq_true, Bool.or_eq_true, decide_eq_true_eq] at hrun
        refine ⟨hrun.1, hrun.2, rest.dropWhile (· = c), ?_, fun hhead => ?_⟩
        · have hsame : rest.takeWhile (· = c) =
              List.replicate (rest.takeWhile (· = c)).length c :=
            List.eq_replicate_iff.2 ⟨rfl, fun d hd => by simpa using List.mem_takeWhile_imp hd⟩
          rw [List.replicate_succ, ← hsame, List.cons_append, List.takeWhile_append_dropWhile]
        · have hstop := List.head?_dropWhile_not (· = c) rest
          rw [hhead] at hstop
          simp at hstop
      · cases h
  · rintro ⟨hmark, hcount, rest, rfl, hhead⟩
    obtain ⟨more, rfl⟩ : ∃ more, count = more + 1 := ⟨count - 1, by omega⟩
    have hstop : rest.takeWhile (· = mark) = [] := by
      cases rest with
      | nil => rfl
      | cons d rest => exact List.takeWhile_cons_of_neg fun hd => hhead (by simpa using hd)
    have hrun : (List.replicate more mark ++ rest).takeWhile (· = mark) = List.replicate more mark := by
      rw [List.takeWhile_append_of_pos fun d hd => decide_eq_true (List.eq_of_mem_replicate hd), hstop,
        List.append_nil]
    rw [List.replicate_succ, List.cons_append, fence?]
    rw [hrun, List.length_replicate, if_pos]
    simpa [Bool.or_eq_true] using ⟨hmark, Nat.le_of_succ_le_succ hcount⟩

/-- A line closes a fence exactly if it is made of enough marks. -/
theorem closesFence_iff {mark : Char} {count : Nat} {line : Text} :
    closesFence mark count (trim line) ↔ ClosesFence mark count line := by
  rw [closesFence, Bool.and_eq_true, decide_eq_true_eq, List.all_eq_true]
  constructor
  · rintro ⟨hcount, hall⟩
    exact ⟨_, hcount, List.eq_replicate_iff.2 ⟨rfl, fun c hc => of_decide_eq_true (hall c hc)⟩⟩
  · rintro ⟨length, hcount, heq⟩
    rw [heq, List.length_replicate]
    exact ⟨hcount, fun c hc => decide_eq_true (List.eq_of_mem_replicate hc)⟩

/-- Counting from left to right finds as many pairs as there are. -/
theorem le_countPairs_iff {count : Nat} {t : Text} : count ≤ countPairs t ↔ HoldsPairs count t := by
  have hall (t : Text) : HoldsPairs (countPairs t) t := by
    induction t using countPairs.induct with
    | case1 rest ih =>
      obtain ⟨gaps, last, hlength, heq⟩ := ih
      exact ⟨[] :: gaps, last, congrArg (· + 1) hlength, congrArg (dollars ++ ·) heq⟩
    | case2 c rest hpair ih =>
      obtain ⟨gaps, last, hlength, heq⟩ := ih
      rw [countPairs_cons fun more hc hrest => hpair more hc hrest]
      cases gaps with
      | nil => exact ⟨[], c :: last, hlength, congrArg (List.cons c) heq⟩
      | cons gap gaps => exact ⟨(c :: gap) :: gaps, last, hlength, congrArg (List.cons c) heq⟩
    | case3 => exact ⟨[], [], rfl, rfl⟩
  constructor
  · intro hle
    obtain ⟨gaps, last, hlength, heq⟩ := hall t
    refine ⟨gaps.take count, (gaps.drop count).flatMap (· ++ dollars) ++ last, ?_, ?_⟩
    · rw [List.length_take, hlength, Nat.min_eq_left hle]
    · rw [← List.append_assoc, ← List.flatMap_append, List.take_append_drop]
      exact heq
  · rintro ⟨gaps, last, rfl, rfl⟩
    induction gaps with
    | nil => exact Nat.zero_le _
    | cons gap gaps ih =>
      have hpair : countPairs (dollars ++ (gaps.flatMap (· ++ dollars) ++ last)) =
          countPairs (gaps.flatMap (· ++ dollars) ++ last) + 1 := rfl
      have hgap := countPairs_le_append gap (dollars ++ (gaps.flatMap (· ++ dollars) ++ last))
      rw [List.flatMap_cons, List.append_assoc, List.append_assoc, List.length_cons]
      omega

/-- A line is a formula on one line exactly if it is one between two pairs of dollar signs. -/
theorem oneLine?_eq_some_iff {line formula : Text} :
    oneLine? (trim line) = some formula ↔ IsOneLine line formula := by
  have hpairs : countPairs (trim line) = 2 ↔ HoldsPairs 2 (trim line) ∧ ¬HoldsPairs 3 (trim line) := by
    rw [← le_countPairs_iff, ← le_countPairs_iff]
    omega
  rw [IsOneLine, ← hpairs]
  constructor
  · intro h
    obtain ⟨htrim, hne, -⟩ := of_oneLine? h
    refine ⟨htrim, hne, ?_⟩
    unfold oneLine? at h
    split at h
    · next hcond => exact of_decide_eq_true (Bool.and_eq_true_iff.1 hcond).2
    · cases h
  · rintro ⟨htrim, hne, htwo⟩
    have hlength : 1 ≤ formula.length := List.length_pos_iff.2 hne
    have hslice : Text.slice (dollars ++ (formula ++ dollars)) 2
        ((dollars ++ (formula ++ dollars)).length - 2) = formula := by
      simp [Text.slice]
    have hstart : Text.startsWith (dollars ++ (formula ++ dollars)) dollars :=
      List.isPrefixOf_iff_prefix.2 (List.prefix_append ..)
    have hend : Text.endsWith (dollars ++ (formula ++ dollars)) dollars := by
      rw [← List.append_assoc]
      exact List.isSuffixOf_iff_suffix.2 (List.suffix_append ..)
    rw [htrim] at htwo ⊢
    rw [oneLine?, hslice, if_pos]
    have hlong : 5 ≤ (dollars ++ (formula ++ dollars)).length := by
      simp only [List.length_append, List.length_cons, List.length_nil]
      omega
    rw [hstart, hend, htwo, decide_eq_true hlong]
    rfl

/-! ## Stretches -/

/-- A stretch of lines with the same thing done to them. -/
inductive Stretch where
  /-- Lines that stay as they are. -/
  | copied (lines : List Text)
  /-- The lines `body` between the lines `\[` and `\]`. -/
  | region (opening : Text) (body : List Text) (closing : Text)
  /-- A line with a formula between two pairs of dollar signs. -/
  | oneLine (line formula : Text)

namespace Stretch

/-- The lines of a stretch in the text. -/
def source : Stretch → List Text
  | copied lines => lines
  | region opening body closing => opening :: (body ++ [closing])
  | oneLine line _ => [line]

/-- The lines that are written for a stretch, with the indentation of its first line. -/
def shown : Stretch → List Text
  | copied lines => lines
  | region opening body _ =>
    (leadingBlanks opening ++ dollars) :: (body ++ [leadingBlanks opening ++ dollars])
  | oneLine line formula =>
    [leadingBlanks line ++ dollars, leadingBlanks line ++ trim formula, leadingBlanks line ++ dollars]

/-- Is the stretch a formula on one line? -/
def isOneLine : Stretch → Bool
  | oneLine _ _ => true
  | _ => false

end Stretch

/-- The lines are divided into stretches. -/
inductive Divides : List Text → List Stretch → Prop
  | nil : Divides [] []
  | fence {line closing : Text} {body rest : List Text} {mark : Char} {count : Nat}
      {stretches : List Stretch} :
    OpensFence mark count line → (∀ l ∈ body, ¬ClosesFence mark count l) →
    ClosesFence mark count closing → Divides rest stretches →
    Divides (line :: (body ++ closing :: rest)) (.copied (line :: (body ++ [closing])) :: stretches)
  | openFence {line : Text} {rest : List Text} {mark : Char} {count : Nat} :
    OpensFence mark count line → (∀ l ∈ rest, ¬ClosesFence mark count l) →
    Divides (line :: rest) [.copied (line :: rest)]
  | region {line closing : Text} {body rest : List Text} {stretches : List Stretch} :
    trim line = ['\\', '['] → (∀ l ∈ body, trim l ≠ ['\\', ']']) → trim closing = ['\\', ']'] →
    Divides rest stretches →
    Divides (line :: (body ++ closing :: rest)) (.region line body closing :: stretches)
  | openRegion {line : Text} {rest : List Text} :
    trim line = ['\\', '['] → (∀ l ∈ rest, trim l ≠ ['\\', ']']) →
    Divides (line :: rest) [.copied (line :: rest)]
  | oneLine {line formula : Text} {rest : List Text} {stretches : List Stretch} :
    IsOneLine line formula → Divides rest stretches →
    Divides (line :: rest) (.oneLine line formula :: stretches)
  | other {line : Text} {rest : List Text} {stretches : List Stretch} :
    (∀ mark count, ¬OpensFence mark count line) → trim line ≠ ['\\', '['] →
    (∀ formula, ¬IsOneLine line formula) → Divides rest stretches →
    Divides (line :: rest) (.copied [line] :: stretches)

/-- Lines up to the first one of a kind, if there is one. -/
theorem exists_first (p : Text → Prop) (lines : List Text) :
    (∀ l ∈ lines, ¬p l) ∨
      ∃ body first rest, lines = body ++ first :: rest ∧ (∀ l ∈ body, ¬p l) ∧ p first := by
  induction lines with
  | nil => exact .inl nofun
  | cons line lines ih =>
    by_cases hline : p line
    · exact .inr ⟨[], line, lines, rfl, nofun, hline⟩
    · rcases ih with hnone | ⟨body, first, rest, rfl, hbody, hfirst⟩
      · exact .inl (List.forall_mem_cons.2 ⟨hline, hnone⟩)
      · exact .inr ⟨line :: body, first, rest, rfl, List.forall_mem_cons.2 ⟨hline, hbody⟩, hfirst⟩

/-- Every text can be divided. -/
theorem exists_divides (lines : List Text) : ∃ stretches, Divides lines stretches := by
  induction hn : lines.length using Nat.strongRecOn generalizing lines with
  | ind n ih =>
    subst hn
    cases lines with
    | nil => exact ⟨[], .nil⟩
    | cons line lines =>
      have hrest (rest : List Text) (hle : rest.length ≤ lines.length) :
          ∃ stretches, Divides rest stretches := ih rest.length (Nat.lt_succ_of_le hle) rest rfl
      by_cases hfence : ∃ mark count, OpensFence mark count line
      · obtain ⟨mark, count, hopens⟩ := hfence
        rcases exists_first (ClosesFence mark count) lines with
          hnone | ⟨body, closing, rest, rfl, hbody, hclosing⟩
        · exact ⟨_, .openFence hopens hnone⟩
        · obtain ⟨stretches, h⟩ := hrest rest (by simp; omega)
          exact ⟨_, .fence hopens hbody hclosing h⟩
      by_cases hbracket : trim line = ['\\', '[']
      · rcases exists_first (trim · = ['\\', ']']) lines with
          hnone | ⟨body, closing, rest, rfl, hbody, hclosing⟩
        · exact ⟨_, .openRegion hbracket hnone⟩
        · obtain ⟨stretches, h⟩ := hrest rest (by simp; omega)
          exact ⟨_, .region hbracket hbody hclosing h⟩
      obtain ⟨stretches, h⟩ := hrest lines (Nat.le_refl _)
      by_cases hformula : ∃ formula, IsOneLine line formula
      · obtain ⟨formula, hformula⟩ := hformula
        exact ⟨_, .oneLine hformula h⟩
      · exact ⟨_, .other (fun mark count hopens => hfence ⟨mark, count, hopens⟩) hbracket
          (fun formula hone => hformula ⟨formula, hone⟩) h⟩

/-! ## The scanner -/

section

variable {body : List Text}

/-- Within a fence, lines are copied. -/
theorem displayLines_fence {mark : Char} {count : Nat} (h : ∀ l ∈ body, ¬ClosesFence mark count l)
    (rest : List Text) :
    displayLines (.fence mark count) (body ++ rest) =
      body ++ displayLines (.fence mark count) rest := by
  induction body with
  | nil => rfl
  | cons line body ih =>
    obtain ⟨hline, hbody⟩ := List.forall_mem_cons.1 h
    rw [List.cons_append, displayLines, if_neg fun hcloses => hline (closesFence_iff.1 hcloses), ih hbody]
    rfl

/-- Within a region of brackets, lines are held back. -/
theorem displayLines_bracket (h : ∀ l ∈ body, trim l ≠ ['\\', ']']) (opening : Text)
    (held rest : List Text) :
    displayLines (.bracket opening held) (body ++ rest) =
      displayLines (.bracket opening (body.reverse ++ held)) rest := by
  induction body generalizing held with
  | nil => rfl
  | cons line body ih =>
    obtain ⟨hline, hbody⟩ := List.forall_mem_cons.1 h
    rw [List.cons_append, displayLines, if_neg hline, ih hbody, List.reverse_cons, List.append_assoc]
    rfl

/-- A line that opens a fence is copied, and what comes after it is within the fence. -/
theorem displayLines_opensFence {mark : Char} {count : Nat} {line : Text}
    (h : OpensFence mark count line) (rest : List Text) :
    displayLines .outside (line :: rest) = line :: displayLines (.fence mark count) rest := by
  have hfence : fence? (trim line) = some (mark, count) := fence?_eq_some_iff.2 h
  rw [displayLines]
  simp only [hfence]

/-- A line that opens a region of brackets is held back. -/
theorem displayLines_opensRegion {line : Text} (h : trim line = ['\\', '[']) (rest : List Text) :
    displayLines .outside (line :: rest) = displayLines (.bracket line []) rest := by
  have hfence : fence? ['\\', '['] = none := by decide
  rw [displayLines]
  simp only [h, hfence, if_true]

/-- A formula on one line is written as its three lines. -/
theorem displayLines_oneLine {line formula : Text} (h : IsOneLine line formula) (rest : List Text) :
    displayLines .outside (line :: rest) =
      (Stretch.oneLine line formula).shown ++ displayLines .outside rest := by
  have hformula : oneLine? (trim line) = some formula := oneLine?_eq_some_iff.2 h
  have hfence : fence? (trim line) = none := by
    rw [h.1]
    rfl
  have hbracket : trim line ≠ ['\\', '['] := by
    rw [h.1]
    nofun
  rw [displayLines]
  simp only [hfence, if_neg hbracket, hformula]
  rfl

/-- Any other line is copied. -/
theorem displayLines_other {line : Text} (hfence : ∀ mark count, ¬OpensFence mark count line)
    (hbracket : trim line ≠ ['\\', '[']) (hformula : ∀ formula, ¬IsOneLine line formula)
    (rest : List Text) :
    displayLines .outside (line :: rest) = line :: displayLines .outside rest := by
  have hnone : fence? (trim line) = none := by
    cases hfence' : fence? (trim line) with
    | none => rfl
    | some fence => exact absurd (fence?_eq_some_iff.1 hfence') (hfence fence.1 fence.2)
  have hnone' : oneLine? (trim line) = none := by
    cases hformula' : oneLine? (trim line) with
    | none => rfl
    | some formula => exact absurd (oneLine?_eq_some_iff.1 hformula') (hformula formula)
  rw [displayLines]
  simp only [hnone, if_neg hbracket, hnone']

end

namespace Divides

variable {lines : List Text} {stretches : List Stretch}

/-- The stretches are made of the lines, each in its place. -/
theorem flatMap_source (h : Divides lines stretches) : stretches.flatMap Stretch.source = lines := by
  induction h with
  | nil => rfl
  | fence _ _ _ _ ih | region _ _ _ _ ih =>
    rw [List.flatMap_cons, ih]
    simp [Stretch.source]
  | openFence | openRegion => simp [Stretch.source]
  | oneLine _ _ ih | other _ _ _ _ ih =>
    rw [List.flatMap_cons, ih]
    rfl

/-- The scanner writes what the stretches say. -/
theorem displayLines (h : Divides lines stretches) :
    Math.displayLines .outside lines = stretches.flatMap Stretch.shown := by
  induction h with
  | nil => rfl
  | @fence line closing body rest mark count stretches hopens hbody hcloses _ ih =>
    rw [displayLines_opensFence hopens, displayLines_fence hbody, Math.displayLines,
      if_pos (closesFence_iff.2 hcloses), ih]
    simp [Stretch.shown]
  | @openFence line rest mark count hopens hrest =>
    have hall := displayLines_fence hrest []
    rw [List.append_nil, Math.displayLines, List.append_nil] at hall
    rw [displayLines_opensFence hopens, hall]
    simp [Stretch.shown]
  | @region line closing body rest stretches hopens hbody hcloses _ ih =>
    rw [displayLines_opensRegion hopens, displayLines_bracket hbody, Math.displayLines,
      if_pos hcloses, ih]
    simp [Stretch.shown]
  | @openRegion line rest hopens hrest =>
    have hall := displayLines_bracket hrest line [] []
    rw [List.append_nil, Math.displayLines] at hall
    rw [displayLines_opensRegion hopens, hall]
    simp [Stretch.shown]
  | oneLine hformula _ ih => rw [displayLines_oneLine hformula, ih, List.flatMap_cons]
  | other hfence hbracket hformula _ ih =>
    rw [displayLines_other hfence hbracket hformula, ih]
    rfl

/-- Each formula on one line has two lines more than it had. -/
theorem length_shown (stretches : List Stretch) : (stretches.flatMap Stretch.shown).length =
    (stretches.flatMap Stretch.source).length + 2 * stretches.countP Stretch.isOneLine := by
  induction stretches with
  | nil => rfl
  | cons stretch rest ih =>
    rw [List.flatMap_cons, List.flatMap_cons, List.length_append, List.length_append, ih,
      List.countP_cons]
    cases stretch with
    | copied lines => simp [Stretch.shown, Stretch.source, Stretch.isOneLine]; omega
    | region opening body closing => simp [Stretch.shown, Stretch.source, Stretch.isOneLine]; omega
    | oneLine line formula => simp [Stretch.shown, Stretch.source, Stretch.isOneLine]; omega

/-- No other character than a dollar sign is written that was not there before. -/
theorem notMem_shown {c : Char} (hdollars : c ∉ dollars) (h : Divides lines stretches)
    (hlines : ∀ line ∈ lines, c ∉ line) : ∀ line ∈ stretches.flatMap Stretch.shown, c ∉ line := by
  have hindent {line part : Text} (hline : c ∉ line) (hpart : c ∉ part) :
      c ∉ leadingBlanks line ++ part := fun hmem =>
    (List.mem_append.1 hmem).elim (fun hfirst => hline ((List.takeWhile_sublist _).subset hfirst)) hpart
  induction h with
  | nil => nofun
  | openFence | openRegion => simpa [Stretch.shown] using hlines
  | fence _ _ _ _ ih =>
    simp only [List.forall_mem_cons, List.forall_mem_append] at hlines
    simp only [List.flatMap_cons, Stretch.shown, List.forall_mem_cons, List.forall_mem_append]
    exact ⟨⟨hlines.1, hlines.2.1, hlines.2.2.1, nofun⟩, ih hlines.2.2.2⟩
  | region _ _ _ _ ih =>
    simp only [List.forall_mem_cons, List.forall_mem_append] at hlines
    simp only [List.flatMap_cons, Stretch.shown, List.forall_mem_cons, List.forall_mem_append]
    have hedge := hindent hlines.1 hdollars
    exact ⟨⟨hedge, hlines.2.1, hedge, nofun⟩, ih hlines.2.2.2⟩
  | @oneLine line formula rest stretches hformula _ ih =>
    obtain ⟨hline, hrest⟩ := List.forall_mem_cons.1 hlines
    have hpart : trim formula <:+: line := by
      have hinner : formula <:+: trim line := by
        rw [hformula.1]
        exact ⟨dollars, dollars, List.append_assoc ..⟩
      exact ((Text.trim_infix formula).trans hinner).trans (Text.trim_infix line)
    have hedge := hindent hline hdollars
    have hmiddle := hindent hline fun hmem => hline (hpart.subset hmem)
    simp only [List.flatMap_cons, Stretch.shown, List.forall_mem_cons, List.forall_mem_append]
    exact ⟨⟨hedge, hmiddle, hedge, nofun⟩, ih hrest⟩
  | other _ _ _ _ ih =>
    obtain ⟨hline, hrest⟩ := List.forall_mem_cons.1 hlines
    simp only [List.flatMap_cons, Stretch.shown, List.forall_mem_cons, List.forall_mem_append]
    exact ⟨⟨hline, nofun⟩, ih hrest⟩

end Divides

/-- No line is lost. -/
theorem length_le_displayLines (lines : List Text) :
    lines.length ≤ (displayLines .outside lines).length := by
  obtain ⟨stretches, h⟩ := exists_divides lines
  have hlength := Divides.length_shown stretches
  rw [h.flatMap_source] at hlength
  rw [h.displayLines, hlength]
  exact Nat.le_add_right _ _

/-- The lines that are written are those that become of the lines. -/
theorem lines_normalizeDisplay (t : Text) :
    Text.lines (normalizeDisplay t) = displayLines .outside (Text.lines t) := by
  obtain ⟨stretches, h⟩ := exists_divides (Text.lines t)
  refine Text.lines_unlines (List.ne_nil_of_length_pos ?_) ?_
  · exact Nat.lt_of_lt_of_le (List.length_pos_iff.2 (Text.lines_ne_nil t)) (length_le_displayLines _)
  · rw [h.displayLines]
    exact h.notMem_shown (by decide) fun _ => Text.newline_notMem_of_mem_lines

/-- The scanner does what the description says: the lines of a text can be divided into stretches, and
however they are, the stretches are made of all lines in their order, the lines of the text that is
written are those that are written for the stretches one after the other, and there are two more of
them for each formula on one line. -/
theorem display_described (t : Text) :
    (∃ stretches, Divides (Text.lines t) stretches) ∧
      ∀ stretches, Divides (Text.lines t) stretches →
        stretches.flatMap Stretch.source = Text.lines t ∧
        Text.lines (normalizeDisplay t) = stretches.flatMap Stretch.shown ∧
        (Text.lines (normalizeDisplay t)).length =
          (Text.lines t).length + 2 * stretches.countP Stretch.isOneLine := by
  refine ⟨exists_divides _, fun stretches h => ?_⟩
  have hlength := Divides.length_shown stretches
  rw [h.flatMap_source] at hlength
  have hlines : Text.lines (normalizeDisplay t) = stretches.flatMap Stretch.shown := by
    rw [lines_normalizeDisplay, h.displayLines]
  exact ⟨h.flatMap_source, hlines, hlines ▸ hlength⟩

end LiveMarkdown.Math
