import LiveMarkdown.Preview.Render
import LiveMarkdown.Proofs.Block.Ids

/-!
# Rendered blocks

A document that can be rendered as blocks can be split. Its blocks have the ids of the split, and
each has the HTML that its source gets from the slugs of the document. No two of them have the same id
(`ids_separate_positions`).
-/

namespace LiveMarkdown

/-- The HTML of a block before its headings are given the ids of the document. -/
def bareHtml (c : Config) (source : Text) : Text :=
  if Text.allBlank source then []
  else Markdown.render (blockStages c (Markdown.parse (preprocess source)))

/-- A block is rendered without ids, and then has them injected. -/
theorem renderBlock_eq (c : Config) (s : SlugSource) (source : Text) :
    renderBlock c (some s) source = injectSlugs (bareHtml c source) s.table s.block := by
  unfold renderBlock bareHtml
  split
  · rfl
  · rfl

/-- What is asked for its block, by first and last line, and id. -/
def Block.owned (b : Block) : Int × Int × Text := (b.startLine, b.endLine, b.id)

/-- A block has the lines of its source and the id that is asked for, and the HTML that its source
gets for this id. -/
theorem of_makeBlock {c : Config} {table : SlugTable} {source : BlockSource} {id : Text} {b : Block}
    (h : makeBlock c table source id = .ok b) :
    b.owned = (source.startLine, source.endLine, id) ∧
      injectSlugs (bareHtml c b.source) table b.id = .ok b.html := by
  rw [makeBlock, renderBlock_eq] at h
  cases hhtml : injectSlugs (bareHtml c source.source) table id with
  | error e => rw [hhtml] at h; cases h
  | ok html =>
    rw [hhtml] at h
    cases h
    exact ⟨rfl, hhtml⟩

/-- Blocks are made one by one, with the lines and the ids that are asked for. -/
theorem makeBlocks_eq {c : Config} {table : SlugTable} {sources : List (BlockSource × Text)}
    {blocks : List Block} (h : makeBlocks c table sources = .ok blocks) :
    blocks.map Block.owned = sources.map (fun (s, id) => (s.startLine, s.endLine, id)) ∧
      ∀ b ∈ blocks, injectSlugs (bareHtml c b.source) table b.id = .ok b.html := by
  induction sources generalizing blocks with
  | nil =>
    cases h
    exact ⟨rfl, nofun⟩
  | cons s rest ih =>
    obtain ⟨source, id⟩ := s
    rw [makeBlocks] at h
    cases hfirst : makeBlock c table source id with
    | error e => rw [hfirst] at h; cases h
    | ok b =>
      cases hmore : makeBlocks c table rest with
      | error e => rw [hfirst, hmore] at h; cases h
      | ok more =>
        rw [hfirst, hmore] at h
        cases h
        obtain ⟨howned, hhtml⟩ := of_makeBlock hfirst
        obtain ⟨howneds, hhtmls⟩ := ih hmore
        refine ⟨?_, List.forall_mem_cons.2 ⟨hhtml, hhtmls⟩⟩
        rw [List.map_cons, List.map_cons, howned, howneds]

section

variable {c : Config} {t : Text} {blocks : List Block} (h : renderBlocks c t = .ok blocks)
include h

/-- Rendering the blocks is to split the text and to make a block of each part. -/
theorem exists_split_of_renderBlocks :
    ∃ sources, splitBlocks t = .ok sources ∧
      makeBlocks c (resolveSlugs t) (sources.zip (blockIds sources)) = .ok blocks := by
  unfold renderBlocks at h
  cases hsplit : splitBlocks t with
  | error e =>
    rw [hsplit] at h
    cases h
  | ok sources =>
    rw [hsplit] at h
    have hmapped : (makeBlocks c (resolveSlugs t) (sources.zip (blockIds sources))).mapError
        RenderError.markup = .ok blocks := h
    refine ⟨sources, rfl, ?_⟩
    cases hmade : makeBlocks c (resolveSlugs t) (sources.zip (blockIds sources)) with
    | error e =>
      rw [hmade] at hmapped
      cases hmapped
    | ok made =>
      rw [hmade] at hmapped
      exact congrArg Except.ok (Except.ok.inj hmapped)

/-- A rendered block has the HTML that its source gets from the slugs of the document. -/
theorem injectSlugs_of_mem_renderBlocks {b : Block} (hb : b ∈ blocks) :
    injectSlugs (bareHtml c b.source) (resolveSlugs t) b.id = .ok b.html := by
  obtain ⟨sources, -, hmade⟩ := exists_split_of_renderBlocks h
  exact (makeBlocks_eq hmade).2 b hb

/-- The rendered blocks have the lines and the ids that the slugs of the document go by. -/
theorem owned_renderBlocks {sources : List BlockSource} (hsplit : splitBlocks t = .ok sources) :
    blocks.map Block.owned = ownedLines sources := by
  obtain ⟨sources', hsplit', hmade⟩ := exists_split_of_renderBlocks h
  obtain rfl : sources' = sources := Except.ok.inj (hsplit'.symm.trans hsplit)
  exact (makeBlocks_eq hmade).1

/-- The rendered blocks of a document have different ids. -/
theorem nodup_ids_renderBlocks : (blocks.map (·.id)).Nodup := by
  obtain ⟨sources, hsplit, -⟩ := exists_split_of_renderBlocks h
  have hids : blocks.map (·.id) = blockIds sources := by
    rw [← map_id_ownedLines, ← owned_renderBlocks h hsplit, List.map_map]
    rfl
  rw [hids]
  exact nodup_blockIds sources

end

/-- Blocks have the same id only if they stand at the same position and begin on the same line, whatever
the whole numbers are that these are told by; then only their digests can tell them apart. No id is the
name of no block. So the blocks of a document have different ids, also where their sources are the
same. -/
theorem ids_separate_positions :
    (∀ (source source' : Text) (line line' index index' : Int),
      blockId source line index = blockId source' line' index' ↔
        (line = line' ∧ index = index') ∧ blockDigest source line = blockDigest source' line') ∧
    (∀ (source : Text) (line index : Int), blockId source line index ≠ unknownBlock) ∧
    (∀ sources : List BlockSource, (blockIds sources).Nodup) ∧
    ∀ (c : Config) (t : Text) (blocks : List Block), renderBlocks c t = .ok blocks →
      (blocks.map (·.id)).Nodup :=
  ⟨fun _ _ _ _ _ _ => blockId_eq_iff, blockId_ne_unknownBlock, nodup_blockIds,
    fun _ _ _ h => nodup_ids_renderBlocks h⟩

/-- Two paragraphs that are the same. -/
theorem ids_separate_positions_twice :
    ∃ blocks, renderBlocks {} "x\n\nx".toList = .ok blocks ∧
      blocks.map (fun b => (b.source, b.startLine)) = [(['x'], 1), (['x'], 3)] ∧
      (blocks.map (·.id)).Nodup := by
  have hrendered : (renderBlocks {} "x\n\nx".toList).toOption.map
      (·.map fun b => (b.source, b.startLine)) = some [(['x'], 1), (['x'], 3)] := by decide +kernel
  cases h : renderBlocks {} "x\n\nx".toList with
  | error e =>
    rw [h] at hrendered
    cases hrendered
  | ok blocks =>
    rw [h] at hrendered
    exact ⟨blocks, rfl, Option.some.inj hrendered, ids_separate_positions.2.2.2 {} _ blocks h⟩

end LiveMarkdown
