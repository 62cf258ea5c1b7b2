import LiveMarkdown.Heading.Table
import LiveMarkdown.Proofs.Text.Decimal

/-!
# Ids of blocks

The id of a block begins with its position, and a hyphen ends it, since the digits of a number are no
hyphens (`ofInt_append_injective`). Blocks at different positions therefore have different ids,
whatever the digests of their sources are. What comes then is a digest, which may consist of digits
only, but is as long as any other one, so that the line after it can be read back, too
(`blockId_eq_iff`).
-/

namespace LiveMarkdown

/-- A digest has so many digits, whatever it is made from. -/
theorem length_blockDigest (source : Text) (line : Int) :
    (blockDigest source line).length = digestLength := by
  rw [blockDigest, List.length_take, Sha1.hexDigest_length]
  rfl

/-- An id tells the position of its block, its first line and its digest, and nothing else. -/
theorem blockId_eq_iff {source source' : Text} {line line' index index' : Int} :
    blockId source line index = blockId source' line' index' ↔
      (line = line' ∧ index = index') ∧ blockDigest source line = blockDigest source' line' := by
  constructor
  · intro h
    simp only [blockId, List.cons_append, List.append_assoc] at h
    obtain ⟨hindex, hrest⟩ := Text.ofInt_append_injective (List.cons.inj h).2
    -- The digest has no hyphen to end it, but a length that is known.
    obtain ⟨hdigest, hline⟩ := List.append_inj hrest (by simp only [length_blockDigest])
    exact ⟨⟨Text.ofInt_injective (List.cons.inj hline).2, hindex⟩, hdigest⟩
  · rintro ⟨⟨rfl, rfl⟩, hdigest⟩
    rw [blockId, blockId, hdigest]

/-- An id tells the position of its block. -/
theorem index_of_blockId {source source' : Text} {line line' index index' : Int}
    (h : blockId source line index = blockId source' line' index') : index = index' :=
  (blockId_eq_iff.1 h).1.2

/-- No block has the name of no block. -/
theorem blockId_ne_unknownBlock (source : Text) (line index : Int) :
    blockId source line index ≠ unknownBlock := by
  intro h
  have hunknown : unknownBlock = 'u' :: "nknown".toList := by decide
  rw [hunknown] at h
  exact absurd (List.cons.inj h).1 (by decide)

/-- Every block has an id. -/
theorem length_blockIdsFrom (index : Nat) (blocks : List BlockSource) :
    (blockIdsFrom index blocks).length = blocks.length := by
  induction blocks generalizing index with
  | nil => rfl
  | cons b rest ih => exact congrArg (· + 1) (ih (index + 1))

/-- Every id is made from a block and its index. -/
theorem exists_of_mem_blockIdsFrom {id : Text} {index : Nat} {blocks : List BlockSource}
    (h : id ∈ blockIdsFrom index blocks) :
    ∃ (b : BlockSource) (i : Nat), index ≤ i ∧ id = blockId b.source b.startLine i := by
  induction blocks generalizing index with
  | nil => exact absurd h List.not_mem_nil
  | cons b rest ih =>
    rcases List.mem_cons.1 h with rfl | hrest
    · exact ⟨b, index, Nat.le_refl _, rfl⟩
    · obtain ⟨b, i, hi, hid⟩ := ih hrest
      exact ⟨b, i, by omega, hid⟩

/-- No two blocks have one id, since they have different indices. -/
theorem nodup_blockIdsFrom (index : Nat) (blocks : List BlockSource) :
    (blockIdsFrom index blocks).Nodup := by
  induction blocks generalizing index with
  | nil => exact List.nodup_nil
  | cons b rest ih =>
    refine List.nodup_cons.2 ⟨fun h => ?_, ih _⟩
    obtain ⟨b', i, hi, hid⟩ := exists_of_mem_blockIdsFrom h
    have := index_of_blockId hid
    omega

/-- The blocks of a document have different ids, also where their sources are the same. -/
theorem nodup_blockIds (blocks : List BlockSource) : (blockIds blocks).Nodup :=
  nodup_blockIdsFrom 0 blocks

/-- No block has the id that is kept for unknown ones. -/
theorem unknownBlock_notMem_blockIds (blocks : List BlockSource) :
    unknownBlock ∉ blockIds blocks := by
  intro h
  obtain ⟨b, i, -, hid⟩ := exists_of_mem_blockIdsFrom h
  exact blockId_ne_unknownBlock _ _ _ hid.symm

/-- The ids that the blocks of a document are asked for lines by. -/
theorem map_id_ownedLines (blocks : List BlockSource) :
    (ownedLines blocks).map (·.2.2) = blockIds blocks := by
  rw [ownedLines, List.map_map]
  exact List.map_snd_zip (Nat.le_of_eq (length_blockIdsFrom 0 blocks))

/-- The blocks of a document are asked for their own lines. -/
theorem map_lines_ownedLines (blocks : List BlockSource) :
    (ownedLines blocks).map (fun b => (b.1, b.2.1)) =
      blocks.map fun b => (b.startLine, b.endLine) := by
  have hlength : blocks.length ≤ (blockIds blocks).length :=
    Nat.le_of_eq (length_blockIdsFrom 0 blocks).symm
  calc (ownedLines blocks).map (fun b => (b.1, b.2.1))
      = ((blocks.zip (blockIds blocks)).map Prod.fst).map fun b => (b.startLine, b.endLine) := by
        rw [ownedLines, List.map_map, List.map_map]
        rfl
    _ = blocks.map fun b => (b.startLine, b.endLine) := by rw [List.map_fst_zip hlength]

end LiveMarkdown
