import LiveMarkdown.Preview.Render
import LiveMarkdown.Proofs.Heading.Numbering
import LiveMarkdown.Proofs.Markdown.PlainTokens
import LiveMarkdown.Proofs.Math.Separate
import Mathlib.Data.List.TakeWhile

/-!
# Display math that is shown

`displayed` are the expressions of the display math of a text that is rendered on its own, which is
what a document is in one pass and what each block is in the preview. They are taken from the parsed
tokens; the stages between parsing and writing make one formula of each, so that the formulas in the
page of a document or block are these expressions as they are written (`documentFormulas_eq`,
`blockFormulas_eq`).

The preview cuts a text into blocks before it prepares it for the parser. What has been prepared
before it is cut shows the same, cut or not (`display_of_blocks`), so the preview goes wrong only
where preparing a block makes something else of it than preparing the document.
-/

namespace LiveMarkdown

open Markdown (Kind Token topLevelSpans)
open Markdown.Scope (EndsClear)

/-- The expressions of the display math that a text shows when it is rendered on its own. -/
def displayed (t : Text) : List Text :=
  if Text.allBlank t then [] else displays (Markdown.parse (preprocess t))

/-- The expressions of the display math that blocks show, each rendered on its own. -/
def displayedBlocks (sources : List BlockSource) : List Text :=
  sources.flatMap fun b => displayed b.source

/-- Indented code that looks like a fence: after it, the document does not look for brackets. -/
theorem display_hidden_by_indented_code :
    (renderBlocks (.ofEnvironment {}) "    ```\n\n\\[\nx\n\\]".toList).toOption.isSome ∧
      displayed "    ```\n\n\\[\nx\n\\]".toList = [] ∧
      (splitBlocks "    ```\n\n\\[\nx\n\\]".toList).toOption.map displayedBlocks =
        some [['x']] := by
  decide +kernel

/-! ## Formulas that are written -/

/-- The HTML of a formula that stands on lines of its own. -/
def Markdown.Token.formula? (t : Token) : Option Text :=
  match t.kind with
  | .formula html => some html
  | _ => none

/-- The HTML of the formulas that stand on lines of their own, in order. -/
def formulas (ts : List Token) : List Text := ts.filterMap Markdown.Token.formula?

/-- Display math as it is written. -/
def displayHtml (expression : Text) : Text :=
  Html.escape ('\\' :: '[' :: expression ++ ['\\', ']'])

/-- Display math becomes a formula, and nothing else does. -/
theorem Markdown.Token.formula?_replaced (c : Config) {t : Token} (h : t.kind.isParsed) :
    (t.replaced c).formula? = t.display?.map displayHtml := by
  obtain ⟨kind, attrs, span, content, hidden⟩ := t
  cases kind with
  | fence info =>
    rw [Markdown.Token.replaced_of_fence c rfl]
    split
    · rfl
    · rfl
  | diagram language => cases h
  | formula html => cases h
  | highlighted html cls => cases h
  | _ => rfl

/-- The formulas of a page are those of the display math that has been parsed. -/
theorem formulas_replaceTokens (c : Config) {ts : List Token} (h : ∀ t ∈ ts, t.kind.isParsed) :
    formulas (replaceTokens c ts) = (displays ts).map displayHtml := by
  rw [formulas, displays, replaceTokens, List.filterMap_map, List.map_filterMap]
  exact List.filterMap_congr fun t ht => t.formula?_replaced c (h t ht)

/-- Setting ids changes no formula. -/
theorem formulas_assignIds (s : Slugger) (ts : List Token) :
    formulas (assignIds s ts) = formulas ts := by
  have hmap (ts : List Token) :
      formulas ts = (ts.map Markdown.Token.formula?).filterMap id := by
    rw [List.filterMap_map]
    rfl
  rw [hmap, map_assignIds (fun _ _ => rfl), ← hmap]

/-- Source lines change no formula. -/
theorem formulas_map_withLine (ts : List Token) :
    formulas (ts.map Markdown.Token.withLine) = formulas ts := by
  rw [formulas, List.filterMap_map]
  refine List.filterMap_congr fun t _ => ?_
  show t.withLine.formula? = t.formula?
  unfold Markdown.Token.withLine
  split
  · rfl
  · dsimp only
    split
    · next hkind => simp [Markdown.Token.formula?, hkind]
    · rfl
    · rfl
    · rfl

/-- The formulas of a block are the display math that has been parsed. -/
theorem formulas_blockStages (c : Config) (t : Text) :
    formulas (blockStages c (Markdown.parse t)) =
      (displays (Markdown.parse t)).map displayHtml := by
  rw [blockStages, formulas_map_withLine,
    formulas_replaceTokens c fun tok htok => (Markdown.isPlain_parse t tok htok).kind]

/-- So are those of a document. -/
theorem formulas_documentStages (c : Config) (t : Text) :
    formulas (documentStages c (Markdown.parse t)) =
      (displays (Markdown.parse t)).map displayHtml := by
  rw [documentStages, formulas_map_withLine, formulas_assignIds,
    formulas_replaceTokens c fun tok htok => (Markdown.isPlain_parse t tok htok).kind]

/-! ## What is prepared -/

/-- A line that neither opens a region nor holds a formula. -/
def IsUnmarked (line : Text) : Prop :=
  Text.trim line ≠ ['\\', '['] ∧ Math.oneLine? (Text.trim line) = none

/-- A blank line is written as it is. -/
theorem isUnmarked_of_allBlank {line : Text} (h : Text.allBlank line) : IsUnmarked line := by
  have htrim : Text.trim line = [] := by
    have hstart : line.dropWhile Text.isBlank = [] :=
      List.dropWhile_eq_nil_iff.2 (List.all_eq_true.1 h)
    rw [Text.trim, Text.trimStart, hstart]
    rfl
  rw [IsUnmarked, htrim]
  exact ⟨nofun, rfl⟩

/-- Where nothing is marked as a formula, lines stay as they are. -/
theorem displayLines_eq_self {region : Math.Region} {ls : List Text}
    (hregion : ∀ opening held, region ≠ .bracket opening held) (h : ∀ line ∈ ls, IsUnmarked line) :
    Math.displayLines region ls = ls := by
  induction ls generalizing region with
  | nil => cases region with
    | bracket opening held => exact absurd rfl (hregion opening held)
    | _ => rfl
  | cons line rest ih =>
    have hline := h line List.mem_cons_self
    have hrest {region : Math.Region} (hregion : ∀ opening held, region ≠ .bracket opening held) :=
      ih hregion fun l hl => h l (List.mem_cons_of_mem _ hl)
    cases region with
    | bracket opening held => exact absurd rfl (hregion opening held)
    | fence mark count =>
      rw [Math.displayLines]
      split
      · exact congrArg (line :: ·) (hrest fun _ _ => nofun)
      · exact congrArg (line :: ·) (hrest fun _ _ => nofun)
    | outside =>
      rw [Math.displayLines]
      dsimp only
      split
      · exact congrArg (line :: ·) (hrest fun _ _ => nofun)
      · rw [if_neg hline.1, hline.2]
        exact congrArg (line :: ·) (hrest fun _ _ => nofun)

/-- A text of lines that are written as they are is preprocessed to itself. -/
theorem preprocess_eq_self {t : Text} (h : ∀ line ∈ Text.lines t, IsUnmarked line) :
    preprocess t = t := by
  have hlines : Math.displayLines .outside (Text.lines t) = Text.lines t :=
    displayLines_eq_self (fun _ _ => nofun) h
  rw [preprocess, Math.normalizeDisplay, hlines, Text.unlines_lines]

/-- Preparing a text of blanks makes nothing else of it, and it shows nothing. -/
theorem displayed_eq (t : Text) : displayed t = displays (Markdown.parse (preprocess t)) := by
  unfold displayed
  split
  · next hblank =>
    rw [preprocess_eq_self fun line hline => isUnmarked_of_allBlank ?_]
    · exact (displays_parse_of_allBlank hblank).symm
    · refine List.all_eq_true.2 fun c hc => ?_
      exact List.all_eq_true.1 hblank c ((Text.infix_of_mem_lines hline).subset hc)
  · rfl

/-- The formulas in the page of a document that is rendered in one pass. -/
def documentFormulas (c : Config) (t : Text) : List Text :=
  if Text.allBlank t then [] else formulas (documentStages c (Markdown.parse (preprocess t)))

/-- The formulas in the page of a block. -/
def blockFormulas (c : Config) (source : Text) : List Text :=
  if Text.allBlank source then []
  else formulas (blockStages c (Markdown.parse (preprocess source)))

/-- A document's page has the display math of the document. -/
theorem documentFormulas_eq (c : Config) (t : Text) :
    documentFormulas c t = (displayed t).map displayHtml := by
  unfold documentFormulas displayed
  split
  · rfl
  · exact formulas_documentStages c _

/-- A block's page has the display math of the block. -/
theorem blockFormulas_eq (c : Config) (source : Text) :
    blockFormulas c source = (displayed source).map displayHtml := by
  unfold blockFormulas displayed
  split
  · rfl
  · exact formulas_blockStages c _

/-! ## Before and after cutting -/

/-- Blocks that become the blocks of the prepared text when they are prepared show what these do. -/
theorem displayedBlocks_of_commute {sources prepared : List BlockSource}
    (h : sources.map (preprocess ·.source) = prepared.map (·.source)) :
    displayedBlocks sources = displaysOfBlocks prepared := by
  have hsources : displayedBlocks sources =
      (sources.map (preprocess ·.source)).flatMap fun t => displays (Markdown.parse t) := by
    rw [List.flatMap_map]
    exact List.flatMap_congr fun b _ => displayed_eq b.source
  rw [hsources, h, List.flatMap_map]
  rfl

/-- The pages of blocks have the display math of the blocks. -/
theorem flatMap_blockFormulas (c : Config) (sources : List BlockSource) :
    sources.flatMap (fun b => blockFormulas c b.source) =
      (displayedBlocks sources).map displayHtml := by
  rw [displayedBlocks, List.map_flatMap]
  exact List.flatMap_congr fun b _ => blockFormulas_eq c b.source

/-- A document shows the display math that the blocks of the prepared text show, each parsed on its
own, and its page has one formula for each expression. If the blocks of the text as it is written become
those when they are prepared, they show it as well, and their pages have the same formulas. -/
theorem display_of_blocks {t : Text} (hsimple : IsSimple (preprocess t))
    (hclear : ∀ s ∈ topLevelSpans (Markdown.parse (preprocess t)),
      EndsClear (Text.lines (preprocess t)) s.past) :
    (∀ c, documentFormulas c t = (displayed t).map displayHtml) ∧
      ∃ prepared, splitBlocks (preprocess t) = .ok prepared ∧
        displaysOfBlocks prepared = displayed t ∧
        ∀ sources, splitBlocks t = .ok sources →
          sources.map (preprocess ·.source) = prepared.map (·.source) →
          displayedBlocks sources = displayed t ∧
            ∀ c, sources.flatMap (fun b => blockFormulas c b.source) = documentFormulas c t := by
  obtain ⟨prepared, hsplit, hdisplays⟩ := displaysOfBlocks_splitBlocks hsimple hclear
  rw [← displayed_eq] at hdisplays
  refine ⟨fun c => documentFormulas_eq c t, prepared, hsplit, hdisplays, fun sources _ hcommute => ?_⟩
  have hsources : displayedBlocks sources = displayed t :=
    (displayedBlocks_of_commute hcommute).trans hdisplays
  exact ⟨hsources, fun c => by rw [flatMap_blockFormulas, hsources, documentFormulas_eq]⟩

/-- A list with a region that holds a line with the mark of a list, a formula on one line, and a
quote. -/
theorem display_of_blocks_list :
    displayed "- a\n\n  \\[\n  + x\n  \\]\n\n$$y$$\n> z".toList = [['+', ' ', 'x'], ['y']] ∧
      ∃ sources, splitBlocks "- a\n\n  \\[\n  + x\n  \\]\n\n$$y$$\n> z".toList = .ok sources ∧
        displayedBlocks sources = displayed "- a\n\n  \\[\n  + x\n  \\]\n\n$$y$$\n> z".toList ∧
        sources.flatMap (fun b => blockFormulas {} b.source) =
          ["\\[+ x\\]".toList, "\\[y\\]".toList] := by
  obtain ⟨hformulas, prepared, hprepared, -, hcommute⟩ :=
    display_of_blocks (t := "- a\n\n  \\[\n  + x\n  \\]\n\n$$y$$\n> z".toList)
      ⟨by decide +kernel, by decide +kernel, by decide +kernel⟩ (by decide +kernel)
  have hdisplayed : displayed "- a\n\n  \\[\n  + x\n  \\]\n\n$$y$$\n> z".toList =
      [['+', ' ', 'x'], ['y']] := by
    decide +kernel
  have hsome : (splitBlocks "- a\n\n  \\[\n  + x\n  \\]\n\n$$y$$\n> z".toList).toOption.isSome := by
    decide +kernel
  have hsources :
      (splitBlocks "- a\n\n  \\[\n  + x\n  \\]\n\n$$y$$\n> z".toList).toOption.map
          (·.map (preprocess ·.source)) =
        (splitBlocks (preprocess "- a\n\n  \\[\n  + x\n  \\]\n\n$$y$$\n> z".toList)).toOption.map
          (·.map (·.source)) := by
    decide +kernel
  refine ⟨hdisplayed, ?_⟩
  cases hsplit : splitBlocks "- a\n\n  \\[\n  + x\n  \\]\n\n$$y$$\n> z".toList with
  | error e =>
    rw [hsplit] at hsome
    cases hsome
  | ok sources =>
    rw [hsplit, hprepared] at hsources
    obtain ⟨hblocks, hpages⟩ := hcommute sources hsplit (Option.some.inj hsources)
    refine ⟨sources, rfl, hblocks, ?_⟩
    rw [hpages, hformulas, hdisplayed]
    decide

/-! ## Texts that need not be prepared -/

/-- The blocks of a text where nothing is marked as a formula need not be prepared. -/
theorem preprocess_source {t : Text} {sources : List BlockSource}
    (hunmarked : ∀ line ∈ Text.lines t, IsUnmarked line) (h : splitBlocks t = .ok sources) :
    ∀ b ∈ sources, preprocess b.source = b.source := by
  intro b hb
  unfold splitBlocks at h
  split at h
  · cases h
    cases hb
  · obtain ⟨part, hsource, hpart⟩ := exists_lines_of_mem_blocksFrom h hb
    refine preprocess_eq_self fun line hline => ?_
    cases part with
    | nil =>
      rw [hsource] at hline
      obtain rfl := List.mem_singleton.1 hline
      exact isUnmarked_of_allBlank rfl
    | cons first more =>
      rw [hsource, Text.lines_unlines (List.cons_ne_nil _ _) fun line hline =>
        Text.newline_notMem_of_mem_lines (hpart line hline)] at hline
      exact hunmarked line (hpart line hline)

/-- Where only lines of dollar signs set off formulas, the preview shows the display math of the
document. -/
theorem display_of_unmarked {t : Text} (hunmarked : ∀ line ∈ Text.lines t, IsUnmarked line)
    (hsimple : IsSimple t)
    (hclear : ∀ s ∈ topLevelSpans (Markdown.parse t), EndsClear (Text.lines t) s.past) :
    ∃ sources, splitBlocks t = .ok sources ∧ displayedBlocks sources = displayed t := by
  obtain ⟨sources, hsplit, hdisplays⟩ := displaysOfBlocks_splitBlocks hsimple hclear
  have hsources : sources.map (preprocess ·.source) = sources.map (·.source) :=
    List.map_congr_left (preprocess_source hunmarked hsplit)
  refine ⟨sources, hsplit, ?_⟩
  rw [displayedBlocks_of_commute hsources, hdisplays, displayed_eq, preprocess_eq_self hunmarked]

end LiveMarkdown
