import LiveMarkdown.Proofs.Block.Partition
import LiveMarkdown.Proofs.Heading.Numbering
import LiveMarkdown.Proofs.Preview.Blocks
import Mathlib.Data.List.Forall2
import Mathlib.Data.List.Nodup

/-!
# The block of a heading

The block that a line stands in is searched among the lines that blocks begin on. What the search
keeps is that the blocks before `low` begin at or before the line, and those from `high` on begin
after it (`IsCut`). When the two meet, the block before them is the only one that can have the line,
since blocks begin after those before them have ended (`owningBlock_cases`).

The blocks of a document are in such an order and have all lines of its nodes, so that each heading
is owned by the block that it stands in (`headings_owned`).
-/

namespace LiveMarkdown

open Markdown (Token topLevelSpans)

/-! ## The search -/

/-- The numbers before `low` are not above `x`; those from `high` on are. -/
structure IsCut (starts : List Int) (x : Int) (low high : Nat) : Prop where
  le : low ≤ high
  le_length : high ≤ starts.length
  below : ∀ i, i < low → starts.getD i 0 ≤ x
  above : ∀ i, high ≤ i → i < starts.length → x < starts.getD i 0

section

variable {starts : List Int} {x : Int} {low high mid : Nat}

/-- Sorted starts are in their order. -/
theorem getD_le_getD (hsorted : starts.Pairwise (· ≤ ·)) {i j : Nat} (hij : i ≤ j)
    (hj : j < starts.length) : starts.getD i 0 ≤ starts.getD j 0 := by
  rcases Nat.lt_or_eq_of_le hij with hlt | rfl
  · have hi : i < starts.length := Nat.lt_trans hlt hj
    rw [← List.getElem_eq_getD (h := hi) 0, ← List.getElem_eq_getD (h := hj) 0]
    exact List.pairwise_iff_getElem.1 hsorted i j hi hj hlt
  · exact Int.le_refl _

/-- If the middle start lies behind the line, the cut lies in the lower half. -/
theorem IsCut.left (h : IsCut starts x low high) (hsorted : starts.Pairwise (· ≤ ·))
    (hlow : low ≤ mid) (hhigh : mid < high) (hx : x < starts.getD mid 0) :
    IsCut starts x low mid where
  le := hlow
  le_length := Nat.le_trans (Nat.le_of_lt hhigh) h.le_length
  below := h.below
  above _ hmid hi := Int.lt_of_lt_of_le hx (getD_le_getD hsorted hmid hi)

/-- If the middle start does not lie behind the line, the cut lies in the upper half. -/
theorem IsCut.right (h : IsCut starts x low high) (hsorted : starts.Pairwise (· ≤ ·))
    (hhigh : mid < high) (hx : starts.getD mid 0 ≤ x) : IsCut starts x (mid + 1) high where
  le := hhigh
  le_length := h.le_length
  below _ hi := Int.le_trans
    (getD_le_getD hsorted (Nat.le_of_lt_succ hi) (Nat.lt_of_lt_of_le hhigh h.le_length)) hx
  above := h.above

/-- The search ends where the numbers begin to be above `x`, if it has fuel for each of those that
it may look at. -/
theorem IsCut.meets (hsorted : starts.Pairwise (· ≤ ·)) {fuel : Nat}
    (h : IsCut starts x low high) (hfuel : high - low ≤ fuel) :
    IsCut starts x (countUpTo starts x fuel low high) (countUpTo starts x fuel low high) := by
  induction fuel generalizing low high with
  | zero =>
    obtain rfl : low = high := Nat.le_antisymm h.le (by omega)
    exact h
  | succ fuel ih =>
    rw [countUpTo]
    split
    · next hle =>
      obtain rfl : low = high := Nat.le_antisymm h.le hle
      exact h
    · next hlt =>
      have hlow : low ≤ (low + high) / 2 := by omega
      have hhigh : (low + high) / 2 < high := by omega
      dsimp only
      split
      · next hx => exact ih (h.left hsorted hlow hhigh hx) (by omega)
      · next hx => exact ih (h.right hsorted hhigh (Int.le_of_not_gt hx)) (by omega)

end

/-! ## Blocks in order -/

/-- Blocks with their first and last lines: none is empty, and each begins after the one before. -/
structure AreSpread (blocks : List (Int × Int × Text)) : Prop where
  le : ∀ b ∈ blocks, b.1 ≤ b.2.1
  chain : blocks.IsChain fun b b' => b.2.1 < b'.1

/-- The line is one of the block's. -/
def HasLine (b : Int × Int × Text) (line : Int) : Prop := b.1 ≤ line ∧ line ≤ b.2.1

instance (b : Int × Int × Text) (line : Int) : Decidable (HasLine b line) :=
  inferInstanceAs (Decidable (b.1 ≤ line ∧ line ≤ b.2.1))

section

variable {blocks : List (Int × Int × Text)} (h : AreSpread blocks)
include h

/-- Each of the blocks ends before any later one begins. -/
theorem AreSpread.pairwise : blocks.Pairwise fun b b' => b.2.1 < b'.1 := by
  have hle := h.le
  have hchain := h.chain
  induction blocks with
  | nil => exact .nil
  | cons b rest ih =>
    have hrest : rest.Pairwise fun b b' => b.2.1 < b'.1 :=
      ih ⟨fun b' hb' => hle b' (List.mem_cons_of_mem _ hb'), hchain.tail⟩
        (fun b' hb' => hle b' (List.mem_cons_of_mem _ hb')) hchain.tail
    refine List.pairwise_cons.2 ⟨?_, hrest⟩
    cases rest with
    | nil => exact List.forall_mem_nil _
    | cons next more =>
      have hnext : b.2.1 < next.1 := (List.isChain_cons_cons.1 hchain).1
      have hlines := hle next (List.mem_cons_of_mem _ List.mem_cons_self)
      refine List.forall_mem_cons.2 ⟨hnext, fun b' hb' => ?_⟩
      have := (List.pairwise_cons.1 hrest).1 b' hb'
      omega

/-- The starts of the blocks are sorted. -/
theorem AreSpread.sorted : (blocks.map (·.1)).Pairwise (· ≤ ·) := by
  refine List.pairwise_map.2 (h.pairwise.imp_of_mem fun {b b'} hb _ hlt => ?_)
  have := h.le b hb
  omega

/-- Only one block has a line. -/
theorem AreSpread.eq_of_hasLine {b b' : Int × Int × Text} {line : Int} (hmem : b ∈ blocks)
    (hmem' : b' ∈ blocks) (hb : HasLine b line) (hb' : HasLine b' line) : b = b' := by
  obtain ⟨i, hi, rfl⟩ := List.getElem_of_mem hmem
  obtain ⟨j, hj, rfl⟩ := List.getElem_of_mem hmem'
  have hpairwise := List.pairwise_iff_getElem.1 h.pairwise
  obtain ⟨⟨hle, hge⟩, hle', hge'⟩ := And.intro hb hb'
  rcases Nat.lt_trichotomy i j with hlt | rfl | hgt
  · have := hpairwise i j hi hj hlt
    omega
  · rfl
  · have := hpairwise j i hj hi hgt
    omega

/-- The answer is the id of a block with the line, or there is no such block. -/
theorem owningBlock_cases (line : Int) :
    (∃ b ∈ blocks, HasLine b line ∧ owningBlock blocks line = b.2.2) ∨
      (∀ b ∈ blocks, ¬HasLine b line) ∧ owningBlock blocks line = unknownBlock := by
  have hlength : (blocks.map (·.1)).length = blocks.length := List.length_map _
  have hstart (i : Nat) (hi : i < blocks.length) : (blocks.map (·.1)).getD i 0 = blocks[i].1 := by
    rw [← List.getElem_eq_getD (h := hlength ▸ hi) 0, List.getElem_map]
  have hcut : IsCut (blocks.map (·.1)) line 0 (blocks.map (·.1)).length :=
    ⟨Nat.zero_le _, Nat.le_refl _, fun i hi => absurd hi (Nat.not_lt_zero i),
      fun i hle hi => absurd hi (Nat.not_lt_of_le hle)⟩
  have hend := hcut.meets h.sorted (Nat.le_refl _)
  unfold owningBlock
  dsimp only
  generalize countUpTo (blocks.map (·.1)) line _ 0 _ = n at hend
  -- the blocks from the `n`-th on begin after the line
  have hafter (i : Nat) (hi : i < blocks.length) (hn : n ≤ i) : ¬HasLine blocks[i] line := by
    have habove := hend.above i hn (hlength ▸ hi)
    rw [hstart i hi] at habove
    exact fun hhas => absurd hhas.1 (Int.not_le_of_gt habove)
  cases n with
  | zero =>
    refine .inr ⟨fun b hb => ?_, rfl⟩
    obtain ⟨i, hi, rfl⟩ := List.getElem_of_mem hb
    exact hafter i hi (Nat.zero_le i)
  | succ n =>
    have hn : n < blocks.length := by have := hend.le_length; omega
    have hbelow := hend.below n (Nat.lt_succ_self n)
    rw [hstart n hn] at hbelow
    simp only [List.getElem?_eq_getElem hn]
    split
    · next hline => exact .inl ⟨blocks[n], List.getElem_mem hn, ⟨hbelow, hline⟩, rfl⟩
    · next hline =>
      refine .inr ⟨fun b hb hhas => ?_, rfl⟩
      obtain ⟨i, hi, rfl⟩ := List.getElem_of_mem hb
      rcases Nat.lt_trichotomy i n with hlt | rfl | hgt
      · have := List.pairwise_iff_getElem.1 h.pairwise i n hi hn hlt
        have := hhas.2
        omega
      · exact hline hhas.2
      · exact hafter i hi hgt hhas

/-- The block that has a line owns it. -/
theorem owningBlock_of_hasLine {b : Int × Int × Text} {line : Int} (hb : b ∈ blocks)
    (hline : HasLine b line) : owningBlock blocks line = b.2.2 := by
  rcases owningBlock_cases h line with ⟨b', hb', hline', howner⟩ | ⟨hnone, -⟩
  · rw [howner, h.eq_of_hasLine hb' hb hline' hline]
  · exact absurd hline (hnone b hb)

/-- A line that no block has is owned by none. -/
theorem owningBlock_of_forall {line : Int} (hnone : ∀ b ∈ blocks, ¬HasLine b line) :
    owningBlock blocks line = unknownBlock := by
  rcases owningBlock_cases h line with ⟨b, hb, hline, -⟩ | ⟨-, howner⟩
  · exact absurd hline (hnone b hb)
  · exact howner

/-- If no block is called unknown, the answer is this exactly if no block has the line. -/
theorem owningBlock_eq_unknownBlock_iff (hids : ∀ b ∈ blocks, b.2.2 ≠ unknownBlock) (line : Int) :
    owningBlock blocks line = unknownBlock ↔ ∀ b ∈ blocks, ¬HasLine b line := by
  refine ⟨fun howner b hb hline => ?_, owningBlock_of_forall h⟩
  exact hids b hb ((owningBlock_of_hasLine h hb hline).symm.trans howner)

end

/-! ## The blocks of a document -/

/-- The blocks of a partition are in order. -/
theorem IsPartition.areSpread {lines : List Text} {nodes : List Markdown.Span}
    {blocks : List BlockSource} (h : IsPartition lines nodes blocks) :
    AreSpread (ownedLines blocks) where
  le b hb := by
    have hmem : (b.1, b.2.1) ∈ blocks.map fun b => (b.startLine, b.endLine) :=
      map_lines_ownedLines blocks ▸ List.mem_map_of_mem hb
    obtain ⟨source, hsource, heq⟩ := List.mem_map.1 hmem
    obtain ⟨hstart, hend⟩ := Prod.mk.inj heq
    have := (h.source source hsource).2.1
    rwa [hstart, hend] at this
  chain := by
    have hordered : (blocks.map fun b => (b.startLine, b.endLine)).IsChain
        fun b b' => b.2 < b'.1 := (List.pairwise_map.2 h.ordered).isChain
    rw [← map_lines_ownedLines] at hordered
    exact (List.isChain_map _).1 hordered

/-! ## The headings of a document -/

/-- The line is owned by one block: it alone has the id, and it alone has the line. -/
def IsOwner (blocks : List (Int × Int × Text)) (line : Int) (id : Text) : Prop :=
  id ≠ unknownBlock ∧ ∃ b ∈ blocks, b.2.2 = id ∧ HasLine b line ∧
    ∀ b' ∈ blocks, b'.2.2 = id ∨ HasLine b' line → b' = b

/-- Each heading begins on a line of a block of the top level. -/
def HaveHeadingsInside (tokens : List Token) : Prop :=
  ∀ token ∈ tokens, token.headingLevel?.isSome → ∃ node ∈ topLevelSpans tokens,
    ∃ span ∈ token.span, node.first ≤ span.first ∧ span.first < node.past

instance (tokens : List Token) : Decidable (HaveHeadingsInside tokens) :=
  inferInstanceAs (Decidable (∀ token ∈ tokens, token.headingLevel?.isSome →
    ∃ node ∈ topLevelSpans tokens,
      ∃ span ∈ token.span, node.first ≤ span.first ∧ span.first < node.past))

/-- A block with the line owns it. -/
theorem isOwner_owningBlock {sources : List BlockSource} {line : Int}
    (hspread : AreSpread (ownedLines sources))
    (hline : ∃ b ∈ ownedLines sources, HasLine b line) :
    IsOwner (ownedLines sources) line (owningBlock (ownedLines sources) line) := by
  obtain ⟨b, hb, hhas⟩ := hline
  have hid : b.2.2 ∈ blockIds sources := map_id_ownedLines sources ▸ List.mem_map_of_mem hb
  have hnodup : ((ownedLines sources).map (·.2.2)).Nodup :=
    (map_id_ownedLines sources).symm ▸ nodup_blockIds sources
  rw [owningBlock_of_hasLine hspread hb hhas]
  refine ⟨fun hunknown => unknownBlock_notMem_blockIds sources (hunknown ▸ hid), b, hb, rfl, hhas,
    ?_⟩
  rintro b' hb' (hsame | hhas')
  · exact List.inj_on_of_nodup_map hnodup hb' hb hsame
  · exact hspread.eq_of_hasLine hb' hb hhas' hhas

/-- A heading is on the line that its token begins on. -/
theorem exists_token_of_mem_headings {tokens : List Token} {g : Heading} (h : g ∈ headings tokens) :
    ∃ token ∈ tokens, token.headingLevel?.isSome ∧ g.line = token.span.elim 0 (·.first + 1) := by
  induction tokens with
  | nil => exact absurd h List.not_mem_nil
  | cons t rest ih =>
    rw [headings] at h
    cases hlevel : t.headingLevel? with
    | none =>
      rw [hlevel] at h
      obtain ⟨token, htoken, hheading⟩ := ih h
      exact ⟨token, List.mem_cons_of_mem _ htoken, hheading⟩
    | some level =>
      rw [hlevel] at h
      rcases List.mem_cons.1 h with rfl | h
      · exact ⟨t, List.mem_cons_self, by rw [hlevel]; rfl, rfl⟩
      · obtain ⟨token, htoken, hheading⟩ := ih h
        exact ⟨token, List.mem_cons_of_mem _ htoken, hheading⟩

/-- The blocks of a partition have the lines of all headings that are inside of its nodes. -/
theorem IsPartition.exists_hasLine {lines : List Text} {tokens : List Token}
    {sources : List BlockSource} (h : IsPartition lines (topLevelSpans tokens) sources)
    (hinside : HaveHeadingsInside tokens) {g : Heading} (hg : g ∈ headings tokens) :
    ∃ b ∈ ownedLines sources, HasLine b g.line := by
  obtain ⟨token, htoken, hlevel, hline⟩ := exists_token_of_mem_headings hg
  obtain ⟨node, hnode, span, hspan, hle, hlt⟩ := hinside token htoken hlevel
  obtain ⟨source, ⟨hsource, hstart, hend⟩, -⟩ := h.node node hnode
  have hmem : (source.startLine, source.endLine) ∈
      (ownedLines sources).map fun b => (b.1, b.2.1) :=
    map_lines_ownedLines sources ▸ List.mem_map_of_mem hsource
  obtain ⟨b, hb, heq⟩ := List.mem_map.1 hmem
  obtain ⟨hfirst, hlast⟩ := Prod.mk.inj heq
  rw [Option.mem_def.1 hspan] at hline
  refine ⟨b, hb, ?_, ?_⟩
  · rw [hfirst, hstart, hline]
    exact Int.add_le_add_right (Int.ofNat_le.2 hle) 1
  · rw [hlast, hend, hline]
    exact Int.ofNat_le.2 hlt

/-- Each entry is that of a heading, and has the block that the heading's line is looked up for. -/
theorem forall₂_entriesFrom {owner : Nat → Text} (owns : Nat → Text → Prop) (s : Slugger)
    (earlier : List HeadingInfo) {hs : List Heading} (h : ∀ g ∈ hs, owns g.line (owner g.line)) :
    List.Forall₂ (fun g e => e.level = g.level ∧ e.text = g.text ∧ owns g.line e.blockId)
      hs (entriesFrom owner s earlier hs) := by
  induction hs generalizing s earlier with
  | nil => exact .nil
  | cons g rest ih =>
    obtain ⟨hg, hrest⟩ := List.forall_mem_cons.1 h
    exact .cons ⟨rfl, rfl, hg⟩ (ih _ _ hrest)

/-- A text whose nodes are in order can be split, into blocks in order that have the lines of all
its headings. -/
theorem exists_areSpread {t : Text}
    (hnodes : AreOrdered (Text.lines t).length (topLevelSpans (Markdown.parse t)))
    (hinside : HaveHeadingsInside (Markdown.parse t)) :
    ∃ sources, splitBlocks t = .ok sources ∧ AreSpread (ownedLines sources) ∧
      ∀ g ∈ headings (Markdown.parse t), ∃ b ∈ ownedLines sources, HasLine b g.line := by
  cases hblank : Text.allBlank t with
  | true =>
    refine ⟨[], by rw [splitBlocks, if_pos hblank], ⟨List.forall_mem_nil _, .nil⟩, ?_⟩
    rw [headings_parse_of_allBlank hblank]
    exact List.forall_mem_nil _
  | false =>
    obtain ⟨pieces, hblocks, hpieces⟩ := exists_blocksOfTokens hnodes
    refine ⟨_, by rw [splitBlocks, if_neg (Bool.eq_false_iff.1 hblank), hblocks],
      hpieces.isPartition.areSpread, fun g hg => hpieces.isPartition.exists_hasLine hinside hg⟩

/-- The block of a line is the one that has it, and unknown exactly if none has it. Each entry of
the slugs of a document is owned by the block that has the line of its heading, among the blocks
that the document is split into and among those that it is rendered as. -/
theorem headings_owned :
    (∀ (blocks : List (Int × Int × Text)) (line : Int), AreSpread blocks →
      (∀ b ∈ blocks, HasLine b line → owningBlock blocks line = b.2.2) ∧
      ((∀ b ∈ blocks, ¬HasLine b line) → owningBlock blocks line = unknownBlock) ∧
      ((∀ b ∈ blocks, b.2.2 ≠ unknownBlock) →
        (owningBlock blocks line = unknownBlock ↔ ∀ b ∈ blocks, ¬HasLine b line))) ∧
    ∀ t : Text, AreOrdered (Text.lines t).length (topLevelSpans (Markdown.parse t)) →
      HaveHeadingsInside (Markdown.parse t) →
      ∃ sources, splitBlocks t = .ok sources ∧
        List.Forall₂ (fun g e => e.level = g.level ∧ e.text = g.text ∧
            IsOwner (ownedLines sources) g.line e.blockId)
          (namedHeadings (Markdown.parse t)) (resolveSlugs t).headings ∧
        ∀ c blocks, renderBlocks c t = .ok blocks →
          List.Forall₂ (fun g e => e.level = g.level ∧ e.text = g.text ∧
              IsOwner (blocks.map Block.owned) g.line e.blockId)
            (namedHeadings (Markdown.parse t)) (resolveSlugs t).headings := by
  refine ⟨fun blocks line h => ⟨fun b hb hline => owningBlock_of_hasLine h hb hline,
    owningBlock_of_forall h, fun hids => owningBlock_eq_unknownBlock_iff h hids line⟩, ?_⟩
  intro t hnodes hinside
  obtain ⟨sources, hsplit, hspread, hlines⟩ := exists_areSpread hnodes hinside
  have howners : List.Forall₂ (fun g e => e.level = g.level ∧ e.text = g.text ∧
      IsOwner (ownedLines sources) g.line e.blockId)
      (namedHeadings (Markdown.parse t)) (resolveSlugs t).headings := by
    rw [headings_resolveSlugs hsplit]
    refine forall₂_entriesFrom (fun line id => IsOwner (ownedLines sources) line id) {} []
      fun g hg => ?_
    exact isOwner_owningBlock hspread (hlines g (List.mem_of_mem_filter hg))
  refine ⟨sources, hsplit, howners, fun c blocks hrender => ?_⟩
  rw [owned_renderBlocks hrender hsplit]
  exact howners

/-- A heading that is repeated after lines of no node, and one in a quotation: the gap counts as a
block, so that the positions in the ids are those of the blocks. -/
theorem headings_owned_repeated :
    owningBlock [(1, 1, ['a']), (3, 4, ['b'])] 4 = ['b'] ∧
      owningBlock [(1, 1, ['a']), (3, 4, ['b'])] 2 = unknownBlock ∧
      ∃ sources, splitBlocks "# A\n\n[a]: /x\n\n# A\n> # B".toList = .ok sources ∧
        sources.map (fun b => (b.startLine, b.endLine)) = [(1, 1), (3, 3), (5, 5), (6, 6)] ∧
        (namedHeadings (Markdown.parse "# A\n\n[a]: /x\n\n# A\n> # B".toList)).map (·.line) =
          [1, 5, 6] ∧
        List.Forall₂ (fun g e => e.level = g.level ∧ e.text = g.text ∧
            IsOwner (ownedLines sources) g.line e.blockId)
          (namedHeadings (Markdown.parse "# A\n\n[a]: /x\n\n# A\n> # B".toList))
          (resolveSlugs "# A\n\n[a]: /x\n\n# A\n> # B".toList).headings := by
  have hspread : AreSpread [(1, 1, ['a']), (3, 4, ['b'])] :=
    ⟨by decide, .cons_cons (by decide) (.singleton _)⟩
  have hlines : (splitBlocks "# A\n\n[a]: /x\n\n# A\n> # B".toList).toOption.map
      (·.map fun b => (b.startLine, b.endLine)) = some [(1, 1), (3, 3), (5, 5), (6, 6)] := by
    decide +kernel
  obtain ⟨hfound, -, -⟩ := headings_owned.1 _ 4 hspread
  obtain ⟨-, hnone, -⟩ := headings_owned.1 _ 2 hspread
  obtain ⟨sources, hsplit, howners, -⟩ :=
    headings_owned.2 "# A\n\n[a]: /x\n\n# A\n> # B".toList (by decide +kernel) (by decide +kernel)
  rw [hsplit] at hlines
  exact ⟨hfound (3, 4, ['b']) (by decide) (by decide), hnone (by decide), sources, hsplit,
    Option.some.inj hlines, by decide +kernel, howners⟩

end LiveMarkdown
