import LiveMarkdown.Proofs.Diagram.Pieces

/-!
# Labels within labels

The marks that are put into a line without quotes are matched, like brackets (`IsMatched`). They take
turns (`Alternates`) as long as no label is marked within another one, and a label is once one shape's
label holds a node whose label a later shape marks: the label is then marked twice, from outside and
from inside. `NeverNested` says that there is no such label, and `marks_alternate_iff` that the marks
alternate exactly then.

The proof follows the shapes. The first one cuts the line into pieces, and the later ones add marks to
each of these on its own (`exists_isMarked_pieces`).
-/

namespace LiveMarkdown.Diagram

open Text (grave)

/-! ## Marks -/

/-- A mark of a label. -/
inductive Mark where
  | opening
  | closing
  deriving DecidableEq, Repr

/-- The mark as it is written. -/
def Mark.text : Mark → Text
  | opening => openMark
  | closing => closeMark

/-- The marks in a text, from left to right and without overlap. -/
def marks : Text → List Mark
  | '"' :: '\x60' :: rest => .opening :: marks rest
  | '\x60' :: '"' :: rest => .closing :: marks rest
  | _ :: rest => marks rest
  | [] => []

/-- `x` is the text `t`, which has no quotes, with the marks `ms` put in. -/
inductive IsMarked : (t : Text) → (ms : List Mark) → (x : Text) → Prop
  | nil : IsMarked [] [] []
  | char {t x : Text} {ms : List Mark} {c : Char} :
    ¬IsQuote c → IsMarked t ms x → IsMarked (c :: t) ms (c :: x)
  | mark {t x : Text} {ms : List Mark} (m : Mark) :
    IsMarked t ms x → IsMarked t (m :: ms) (m.text ++ x)

namespace IsMarked

variable {t t' x x' : Text} {ms ms' : List Mark}

/-- Texts with marks put in, one after the other. -/
theorem append (h : IsMarked t ms x) (h' : IsMarked t' ms' x') :
    IsMarked (t ++ t') (ms ++ ms') (x ++ x') := by
  induction h with
  | nil => exact h'
  | char hc _ ih => exact .char hc ih
  | mark m _ ih =>
    rw [List.append_assoc]
    exact .mark m ih

/-- A text without quotes is itself, with no marks put in. -/
theorem of_isUnquoted (h : IsUnquoted t) : IsMarked t [] t := by
  induction t with
  | nil => exact .nil
  | cons c t ih =>
    obtain ⟨hc, ht⟩ := List.forall_mem_cons.1 h
    exact .char hc (ih ht)

/-- The marks that are found are those that have been put in. -/
theorem marks_eq (h : IsMarked t ms x) : marks x = ms := by
  induction h with
  | nil => rfl
  | @char t x ms c hc _ ih =>
    rw [marks, ih]
    · exact fun rest hquote _ => hc (.inl hquote)
    · exact fun rest hgrave _ => hc (.inr hgrave)
  | mark m _ ih =>
    cases m with
    | opening => exact congrArg (.opening :: ·) ih
    | closing => exact congrArg (.closing :: ·) ih

/-- Every mark adds its two characters. -/
theorem length_eq (h : IsMarked t ms x) : x.length = t.length + 2 * ms.length := by
  induction h with
  | nil => rfl
  | char _ _ ih =>
    rw [List.length_cons, List.length_cons, ih]
    omega
  | mark m _ ih =>
    have hmark : m.text.length = 2 := by cases m <;> rfl
    rw [List.length_append, List.length_cons, ih, hmark]
    omega

/-- A text has no marks put in exactly if it is unchanged. -/
theorem eq_iff (h : IsMarked t ms x) : x = t ↔ ms = [] := by
  constructor
  · rintro rfl
    have hlength := h.length_eq
    exact List.length_eq_zero_iff.1 (by omega)
  · rintro rfl
    generalize hms : ([] : List Mark) = ms at h
    induction h with
    | nil => rfl
    | char _ _ ih => rw [ih hms]
    | mark => cases hms

end IsMarked

/-! ## Alternation -/

/-- Opening and closing marks take turns, an opening one first and a closing one last. -/
def Alternates (ms : List Mark) : Prop :=
  ∃ n, ms = (List.replicate n [Mark.opening, Mark.closing]).flatten

/-- Each opening mark has a closing one, and the marks between them are matched as well. -/
inductive IsMatched : List Mark → Prop
  | nil : IsMatched []
  | pair {inner rest : List Mark} : IsMatched inner → IsMatched rest →
    IsMatched (.opening :: (inner ++ .closing :: rest))

/-- Matched marks next to each other are matched. -/
theorem IsMatched.append {ms ms' : List Mark} (h : IsMatched ms) (h' : IsMatched ms') :
    IsMatched (ms ++ ms') := by
  induction h with
  | nil => exact h'
  | pair hinner _ _ ih =>
    rw [List.cons_append, List.append_assoc, List.cons_append]
    exact .pair hinner ih

/-- No marks take turns. -/
theorem alternates_nil : Alternates [] := ⟨0, rfl⟩

/-- An opening and a closing mark in front do not matter. -/
theorem alternates_pair_iff {ms : List Mark} :
    Alternates (.opening :: .closing :: ms) ↔ Alternates ms := by
  constructor
  · rintro ⟨n, h⟩
    cases n with
    | zero => cases h
    | succ n =>
      rw [List.replicate_succ, List.flatten_cons] at h
      exact ⟨n, (List.cons.inj (List.cons.inj h).2).2⟩
  · rintro ⟨n, rfl⟩
    exact ⟨n + 1, rfl⟩

/-- Marks that are matched alternate exactly if there are none between the first and its match. -/
theorem alternates_matched_iff {inner rest : List Mark} (h : IsMatched inner) :
    Alternates (.opening :: (inner ++ .closing :: rest)) ↔ inner = [] ∧ Alternates rest := by
  cases h with
  | nil => simp [alternates_pair_iff]
  | pair _ _ =>
    refine ⟨?_, fun h => by cases h.1⟩
    rintro ⟨n, h⟩
    cases n with
    | zero => cases h
    | succ n =>
      rw [List.replicate_succ, List.flatten_cons] at h
      cases (List.cons.inj (List.cons.inj h).2).1

/-- Marks after matched ones take turns by themselves. -/
theorem alternates_append_iff {ms ms' : List Mark} (h : IsMatched ms) :
    Alternates (ms ++ ms') ↔ Alternates ms ∧ Alternates ms' := by
  induction h with
  | nil => simp [alternates_nil]
  | pair hinner _ _ ih =>
    rw [List.cons_append, List.append_assoc, List.cons_append, alternates_matched_iff hinner,
      alternates_matched_iff hinner, ih, and_assoc]

/-! ## Labels within labels -/

/-- No label that is marked for one of the shapes holds a label that is marked for a later one. -/
def NeverNested (icons : List Text) : List Shape → Text → Prop
  | [], _ => True
  | s :: later, line =>
    (∀ label ∈ s.marked icons line, wrapAll icons later label = label) ∧
      NeverNested icons later (s.wrap icons line)

section

variable {icons : List Text} {ss : List Shape} (hss : ∀ s ∈ ss, s.IsPlain)
include hss

/-- Labels on the two sides of a quote are nested independently of each other. -/
theorem neverNested_append_quote {q : Char} (hq : IsQuote q) (a b : Text) :
    NeverNested icons ss (a ++ q :: b) ↔ NeverNested icons ss a ∧ NeverNested icons ss b := by
  induction ss generalizing a b with
  | nil => simp [NeverNested]
  | cons s later ih =>
    obtain ⟨hs, hlater⟩ := List.forall_mem_cons.1 hss
    rw [NeverNested, NeverNested, NeverNested, s.wrap_append_quote hs hq,
      s.marked_append_quote hs hq, List.forall_mem_append, ih hlater, and_and_and_comm]

omit hss in
/-- The empty text stays empty. -/
theorem wrapAll_nil : wrapAll icons ss [] = [] := by
  induction ss with
  | nil => rfl
  | cons s ss ih => exact ih

omit hss in
/-- In the empty text no labels are nested. -/
theorem neverNested_nil : NeverNested icons ss [] := by
  induction ss with
  | nil => trivial
  | cons s ss ih => exact ⟨nofun, ih⟩

/-- Texts on the two sides of a mark are wrapped independently of each other. -/
theorem wrapAll_append_mark (m : Mark) (a b : Text) :
    wrapAll icons ss (a ++ (m.text ++ b)) = wrapAll icons ss a ++ (m.text ++ wrapAll icons ss b) := by
  have hmark (q q' : Char) (hq : IsQuote q) (hq' : IsQuote q') :
      wrapAll icons ss (a ++ q :: ([] ++ q' :: b)) =
        wrapAll icons ss a ++ q :: ([] ++ q' :: wrapAll icons ss b) := by
    rw [wrapAll_append_quote hss hq, wrapAll_append_quote hss hq', wrapAll_nil]
  cases m with
  | opening => exact hmark _ _ (.inl rfl) (.inr rfl)
  | closing => exact hmark _ _ (.inr rfl) (.inl rfl)

/-- Labels on the two sides of a mark are nested independently of each other. -/
theorem neverNested_append_mark (m : Mark) (a b : Text) :
    NeverNested icons ss (a ++ (m.text ++ b)) ↔ NeverNested icons ss a ∧ NeverNested icons ss b := by
  have hmark (q q' : Char) (hq : IsQuote q) (hq' : IsQuote q') :
      NeverNested icons ss (a ++ q :: ([] ++ q' :: b)) ↔
        NeverNested icons ss a ∧ NeverNested icons ss b := by
    rw [neverNested_append_quote hss hq, neverNested_append_quote hss hq']
    simp [neverNested_nil]
  cases m with
  | opening => exact hmark _ _ (.inl rfl) (.inr rfl)
  | closing => exact hmark _ _ (.inr rfl) (.inl rfl)

end

/-- What the later shapes add to the pieces of a line, which are those in `ps` after the text `front`:
they leave the labels among them alone or put marks between the marks. -/
theorem exists_isMarked_pieces {icons : List Text} {later : List Shape} (hlater : ∀ s ∈ later, s.IsPlain)
    (ih : ∀ t, IsUnquoted t → ∃ ms, IsMarked t ms (wrapAll icons later t) ∧ IsMatched ms ∧
      (Alternates ms ↔ NeverNested icons later t))
    {front : Text} (hfront : IsUnquoted front) {ps : List Piece} (hps : ∀ p ∈ ps, IsUnquoted p.source) :
    ∃ ms, IsMarked (front ++ ps.flatMap Piece.source) ms
        (wrapAll icons later (front ++ ps.flatMap Piece.written)) ∧ IsMatched ms ∧
      (Alternates ms ↔ (∀ label ∈ ps.filterMap Piece.label?, wrapAll icons later label = label) ∧
        NeverNested icons later (front ++ ps.flatMap Piece.written)) := by
  induction ps generalizing front with
  | nil =>
    obtain ⟨ms, hmarked, hmatched, halternates⟩ := ih front hfront
    refine ⟨ms, ?_, hmatched, ?_⟩
    · simpa using hmarked
    · simpa using halternates
  | cons p ps ihps =>
    obtain ⟨hp, hrest⟩ := List.forall_mem_cons.1 hps
    cases p with
    | text t =>
      have hunquoted : IsUnquoted (front ++ t) := List.forall_mem_append.2 ⟨hfront, hp⟩
      simpa [Piece.source, Piece.written, Piece.label?] using ihps hunquoted hrest
    | label label =>
      obtain ⟨before, hbefore, hbeforeMatched, hbeforeIff⟩ := ih front hfront
      obtain ⟨inner, hinner, hinnerMatched, hinnerIff⟩ := ih label hp
      obtain ⟨after, hafter, hafterMatched, hafterIff⟩ := ihps isUnquoted_nil hrest
      have hwritten : front ++ (Piece.label label :: ps).flatMap Piece.written =
          front ++ (Mark.opening.text ++ (label ++ (Mark.closing.text ++ ps.flatMap Piece.written))) := by
        simp [Piece.written, Mark.text]
      simp only [List.nil_append] at hafter hafterIff
      rw [hwritten, wrapAll_append_mark hlater, wrapAll_append_mark hlater,
        neverNested_append_mark hlater, neverNested_append_mark hlater]
      refine ⟨before ++ .opening :: (inner ++ .closing :: after),
        hbefore.append (.mark .opening (hinner.append (.mark .closing hafter))),
        hbeforeMatched.append (.pair hinnerMatched hafterMatched), ?_⟩
      rw [alternates_append_iff hbeforeMatched, alternates_matched_iff hinnerMatched, hbeforeIff,
        hafterIff, ← hinner.eq_iff]
      have hsettled (h : wrapAll icons later label = label) : NeverNested icons later label :=
        hinnerIff.1 (hinner.eq_iff.1 h ▸ alternates_nil)
      simp only [List.filterMap_cons, Piece.label?, List.forall_mem_cons]
      constructor
      · rintro ⟨hfrontNever, hlabel, hlabels, hrestNever⟩
        exact ⟨⟨hlabel, hlabels⟩, hfrontNever, hsettled hlabel, hrestNever⟩
      · rintro ⟨⟨hlabel, hlabels⟩, hfrontNever, -, hrestNever⟩
        exact ⟨hfrontNever, hlabel, hlabels, hrestNever⟩

/-- The marks that shapes add to a text without quotes are matched, and they alternate exactly if no
label is marked within another one. -/
theorem exists_isMarked_wrapAll {icons : List Text} {ss : List Shape} (hss : ∀ s ∈ ss, s.IsPlain)
    {t : Text} (ht : IsUnquoted t) :
    ∃ ms, IsMarked t ms (wrapAll icons ss t) ∧ IsMatched ms ∧
      (Alternates ms ↔ NeverNested icons ss t) := by
  induction ss generalizing t with
  | nil =>
    exact ⟨[], .of_isUnquoted ht, .nil, iff_of_true alternates_nil trivial⟩
  | cons s later ih =>
    obtain ⟨-, hlater⟩ := List.forall_mem_cons.1 hss
    have hsource : ∀ p ∈ s.pieces icons 0 false t, IsUnquoted p.source := s.isUnquoted_source ht
    have hpieces := exists_isMarked_pieces hlater (fun t ht => ih hlater ht) isUnquoted_nil
      hsource
    rw [List.nil_append, List.nil_append, ← Shape.wrapFrom_eq, Shape.source_pieces,
      List.drop_zero] at hpieces
    exact hpieces

instance decidableNeverNested (icons : List Text) : (ss : List Shape) → (line : Text) →
    Decidable (NeverNested icons ss line)
  | [], _ => inferInstanceAs (Decidable True)
  | s :: later, line =>
    have := decidableNeverNested icons later (s.wrap icons line)
    inferInstanceAs (Decidable (_ ∧ _))

/-- The marks in a line that had no quotes are matched, and they alternate exactly if no label that is
marked holds a node whose label a later shape marks. -/
theorem marks_alternate_iff (icons : List Text) {line : Text} (h : IsUnquoted line) :
    IsMatched (marks (wrapLine icons line)) ∧
      (Alternates (marks (wrapLine icons line)) ↔ NeverNested icons shapes line) := by
  obtain ⟨ms, hmarked, hmatched, halternates⟩ :=
    @exists_isMarked_wrapAll icons shapes isPlain_of_mem_shapes line h
  rw [wrapLine_eq, hmarked.marks_eq]
  exact ⟨hmatched, halternates⟩

/-- A line with nodes of three shapes, one of which is a reference to an icon. -/
theorem marks_alternate_chain :
    IsUnquoted "A[One] --> B(fa:two) --> C\x7bThree\x7d".toList ∧
      Alternates (marks (wrapLine ["fa:".toList] "A[One] --> B(fa:two) --> C\x7bThree\x7d".toList)) :=
  ⟨by decide, (marks_alternate_iff _ (by decide)).2.2 (by decide +kernel)⟩

/-- A label in brackets that reads like a node with its label in parentheses: it is marked, and then
what stands in the parentheses is marked within it. -/
theorem label_within_label :
    IsUnquoted "A[B(x)]".toList ∧
      wrapLine ["fa:".toList] "A[B(x)]".toList = "A[\"\x60B(\"\x60x\x60\")\x60\"]".toList ∧
      ¬Alternates (marks (wrapLine ["fa:".toList] "A[B(x)]".toList)) := by
  have hwritten : wrapLine ["fa:".toList] "A[B(x)]".toList =
      "A[\"\x60B(\"\x60x\x60\")\x60\"]".toList := by decide +kernel
  refine ⟨by decide, hwritten, fun h => ?_⟩
  rw [hwritten] at h
  have hnested : Alternates (.opening :: ([.opening, .closing] ++ .closing :: [])) := h
  cases ((alternates_matched_iff (.pair .nil .nil)).1 hnested).1

end LiveMarkdown.Diagram
