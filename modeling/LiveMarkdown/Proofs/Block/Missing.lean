import LiveMarkdown.Proofs.Heading.Owner

/-!
# Lines that a document does not have

The parser ends a line at a carriage return, too, and so it may place a block behind the last line
that the splitter knows. Splitting fails if there is a gap before such a block (`LacksLines`), and
only then: an end behind the last line does no harm, and neither does a block that begins where
another one has reached already (`blocksFrom_eq_error_iff`).

What asks for blocks fails with it. The table of slugs is empty as a whole then, while the table of
contents and the page do not ask for blocks and are what they always are (`missing_lines_degrade`).
-/

namespace LiveMarkdown

open Markdown (Span topLevelSpans)

/-- In a document of so many lines, one of the spans begins behind the last line, and behind the
beginning and the ends of all spans before it. -/
def LacksLines (size : Nat) (spans : List Span) : Prop :=
  ∃ before s after, spans = before ++ s :: after ∧
    (0 < s.first ∧ size < s.first) ∧ ∀ s' ∈ before, s'.past < s.first

/-! ## Where splitting fails -/

/-- Among the spans after the first one, which reaches up to some line, those that begin behind that
line count. -/
theorem exists_lacking_cons_iff {size covered : Nat} {s : Span} {rest : List Span} :
    (∃ before s' after, s :: rest = before ++ s' :: after ∧
        (covered < s'.first ∧ size < s'.first) ∧ ∀ r ∈ before, r.past < s'.first) ↔
      (covered < s.first ∧ size < s.first) ∨
        ∃ before s' after, rest = before ++ s' :: after ∧
          (max covered s.past < s'.first ∧ size < s'.first) ∧ ∀ r ∈ before, r.past < s'.first := by
  constructor
  · rintro ⟨before, s', after, heq, hlate, hbefore⟩
    cases before with
    | nil =>
      obtain ⟨rfl, -⟩ := List.cons.inj heq
      exact .inl hlate
    | cons r before =>
      obtain ⟨rfl, hrest⟩ := List.cons.inj heq
      obtain ⟨hr, hbefore⟩ := List.forall_mem_cons.1 hbefore
      exact .inr ⟨before, s', after, hrest, ⟨Nat.max_lt.2 ⟨hlate.1, hr⟩, hlate.2⟩, hbefore⟩
  · rintro (hlate | ⟨before, s', after, rfl, hlate, hbefore⟩)
    · exact ⟨[], s, rest, rfl, hlate, List.forall_mem_nil _⟩
    · obtain ⟨hcovered, hr⟩ := Nat.max_lt.1 hlate.1
      exact ⟨s :: before, s', after, rfl, ⟨hcovered, hlate.2⟩,
        List.forall_mem_cons.2 ⟨hr, hbefore⟩⟩

/-- Splitting fails on spans of which one leaves a gap that reaches behind the last line. -/
theorem blocksFrom_eq_error_iff (lines : List Text) (covered : Nat) (spans : List Span) :
    blocksFrom lines covered spans = .error .missingLines ↔
      ∃ before s after, spans = before ++ s :: after ∧
        (covered < s.first ∧ lines.length < s.first) ∧ ∀ r ∈ before, r.past < s.first := by
  induction spans generalizing covered with
  | nil =>
    constructor
    · intro h
      cases h
    · rintro ⟨before, _, _, heq, -⟩
      cases before <;> cases heq
  | cons s rest ih =>
    rw [exists_lacking_cons_iff, ← ih, blocksFrom]
    by_cases hlate : covered < s.first ∧ lines.length < s.first
    · simp [hlate]
    · rw [if_neg (by simpa using hlate), or_iff_right hlate]
      cases blocksFrom lines (max covered s.past) rest with
      | error cause => rfl
      | ok more =>
        constructor
        · intro h
          cases h
        · intro h
          cases h

/-- Blocks cannot be cut from a document exactly if it lacks lines. -/
theorem blocksFrom_zero_eq_error_iff (lines : List Text) (spans : List Span) :
    blocksFrom lines 0 spans = .error .missingLines ↔ LacksLines lines.length spans :=
  blocksFrom_eq_error_iff lines 0 spans

/-- Splitting gives blocks, or there are lines missing. -/
theorem exists_ok_iff_ne_error {α : Type} {r : Except SplitError α} :
    (∃ a, r = .ok a) ↔ r ≠ .error .missingLines := by
  cases r with
  | ok a => exact ⟨fun _ => nofun, fun _ => ⟨a, rfl⟩⟩
  | error cause =>
    cases cause
    exact ⟨nofun, fun h => absurd rfl h⟩

/-! ## What follows from it -/

/-- A text cannot be split exactly if it says something and lacks lines. -/
theorem splitBlocks_eq_error_iff (t : Text) :
    splitBlocks t = .error .missingLines ↔
      Text.allBlank t = false ∧
        LacksLines (Text.lines t).length (topLevelSpans (Markdown.parse t)) := by
  rw [splitBlocks, ← blocksFrom_zero_eq_error_iff, blocksOfTokens]
  cases Text.allBlank t with
  | true =>
    constructor
    · intro h
      cases h
    · intro h
      exact Bool.noConfusion h.1
  | false => exact ⟨fun h => ⟨rfl, h⟩, fun h => h.2⟩

/-- Where a text cannot be split, its blocks cannot be rendered, for the same cause. -/
theorem renderBlocks_of_error {t : Text} {cause : SplitError} (h : splitBlocks t = .error cause)
    (c : Config) : renderBlocks c t = .error (.split cause) := by
  rw [renderBlocks, h]
  rfl

/-- The entries of a text that can be split are those of its headings that say something. -/
theorem forall₂_headings_resolveSlugs {t : Text} {blocks : List BlockSource}
    (h : splitBlocks t = .ok blocks) :
    List.Forall₂ (fun g e => e.level = g.level ∧ e.text = g.text)
      (namedHeadings (Markdown.parse t)) (resolveSlugs t).headings := by
  rw [headings_resolveSlugs h]
  refine (forall₂_entriesFrom (fun _ _ => True) {} [] fun _ _ => trivial).imp fun _ _ he => ?_
  exact ⟨he.1, he.2.1⟩

/-- A document without a slug table is rendered, whatever its blocks are. -/
theorem renderDocument_without_slugs (c : Config) (t : Text) :
    renderDocument c none t = .ok (if Text.allBlank t then []
      else Markdown.render (documentStages c (Markdown.parse (preprocess t)))) := by
  rw [renderDocument]
  split <;> rfl

/-- Splitting fails exactly on spans of which one leaves a gap that reaches behind the last line,
wherever spans end. If a text that says something has such spans, it is neither split nor rendered
as blocks, and no heading has a slug; in any other text each heading that says something has one. In
both cases the contents list these headings, and the page is there. -/
theorem missing_lines_degrade :
    (∀ (lines : List Text) (spans : List Span),
      (blocksFrom lines 0 spans = .error .missingLines ↔ LacksLines lines.length spans) ∧
      ((∃ blocks, blocksFrom lines 0 spans = .ok blocks) ↔ ¬LacksLines lines.length spans)) ∧
    ∀ t : Text,
      let tokens := Markdown.parse t
      let fails := Text.allBlank t = false ∧
        LacksLines (Text.lines t).length (topLevelSpans tokens)
      (fails → splitBlocks t = .error .missingLines ∧
        (∀ c, renderBlocks c t = .error (.split .missingLines)) ∧ resolveSlugs t = {}) ∧
      (¬fails → List.Forall₂ (fun g e => e.level = g.level ∧ e.text = g.text)
        (namedHeadings tokens) (resolveSlugs t).headings) ∧
      Contents.ofText t = Contents.ofTokens tokens ∧
      (Contents.ofText t).map (fun e => (e.level, e.text)) =
        (namedHeadings tokens).map (fun g => ((g.level : Int), Text.trim g.text)) ∧
      ∀ c, renderDocument c none t = .ok (if Text.allBlank t then []
        else Markdown.render (documentStages c (Markdown.parse (preprocess t)))) := by
  refine ⟨fun lines spans => ?_, fun t => ?_⟩
  · have hfails := blocksFrom_zero_eq_error_iff lines spans
    exact ⟨hfails, exists_ok_iff_ne_error.trans (not_congr hfails)⟩
  · intro tokens fails
    have hsplit : splitBlocks t = .error .missingLines ↔ fails := splitBlocks_eq_error_iff t
    have hcontents := Contents.ofText_eq_ofTokens t
    refine ⟨fun h => ?_, fun h => ?_, hcontents, ?_, fun c => renderDocument_without_slugs c t⟩
    · have herror := hsplit.2 h
      refine ⟨herror, renderBlocks_of_error herror, ?_⟩
      exact congrArg SlugTable.mk (headings_resolveSlugs_of_error herror)
    · obtain ⟨blocks, hblocks⟩ := exists_ok_iff_ne_error.2 (mt hsplit.1 h)
      exact forall₂_headings_resolveSlugs hblocks
    · rw [hcontents, Contents.ofTokens, List.map_map]
      have hlength : (namedHeadings tokens).length ≤
          (({} : Slugger).issueAll ((namedHeadings tokens).map (·.text))).length := by
        simp [Slugger.length_issueAll]
      have hfst := congrArg (List.map fun g : Heading => ((g.level : Int), Text.trim g.text))
        (List.map_fst_zip hlength)
      rw [List.map_map] at hfst
      exact hfst

/-- Two headings with carriage returns between them, which are one line to the splitter. -/
theorem missing_lines_degrade_returns :
    LacksLines 1 (topLevelSpans (Markdown.parse "# a\r\r\r# b".toList)) ∧
      splitBlocks "# a\r\r\r# b".toList = .error .missingLines ∧
      resolveSlugs "# a\r\r\r# b".toList = {} ∧
      (Contents.ofText "# a\r\r\r# b".toList).map (fun e => (e.level, e.text)) =
        [(1, ['a']), (1, ['b'])] ∧
      List.Forall₂ (fun (g : Heading) (e : HeadingInfo) => e.level = g.level ∧ e.text = g.text)
        (namedHeadings (Markdown.parse "# a\r# b".toList)) (resolveSlugs "# a\r# b".toList).headings := by
  have hlines : Text.lines "# a\r\r\r# b".toList = ["# a\r\r\r# b".toList] := by decide +kernel
  have hspans : topLevelSpans (Markdown.parse "# a\r\r\r# b".toList) = [⟨0, 1⟩, ⟨3, 4⟩] := by
    decide +kernel
  have hlacks : LacksLines 1 (topLevelSpans (Markdown.parse "# a\r\r\r# b".toList)) := by
    rw [hspans]
    exact ⟨[⟨0, 1⟩], ⟨3, 4⟩, [], rfl, by decide, by decide⟩
  have hnamed : (namedHeadings (Markdown.parse "# a\r\r\r# b".toList)).map
      (fun g => ((g.level : Int), Text.trim g.text)) = [(1, ['a']), (1, ['b'])] := by
    decide +kernel
  obtain ⟨hfails, -, -, hcontents, -⟩ := missing_lines_degrade.2 "# a\r\r\r# b".toList
  obtain ⟨hsplit, -, hslugs⟩ := hfails ⟨by decide +kernel, hlines ▸ hlacks⟩
  have hbeside : ¬LacksLines (Text.lines "# a\r# b".toList).length
      (topLevelSpans (Markdown.parse "# a\r# b".toList)) := by
    refine (missing_lines_degrade.1 _ _).2.1 ?_
    have hsome : (blocksFrom (Text.lines "# a\r# b".toList) 0
        (topLevelSpans (Markdown.parse "# a\r# b".toList))).toOption.isSome := by
      decide +kernel
    cases h : blocksFrom (Text.lines "# a\r# b".toList) 0
        (topLevelSpans (Markdown.parse "# a\r# b".toList)) with
    | ok blocks => exact ⟨blocks, rfl⟩
    | error cause =>
      rw [h] at hsome
      cases hsome
  exact ⟨hlacks, hsplit, hslugs, hcontents.trans hnamed,
    (missing_lines_degrade.2 "# a\r# b".toList).2.1 fun h => hbeside h.2⟩

end LiveMarkdown
