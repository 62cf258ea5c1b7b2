import LiveMarkdown.Block.Basic

/-!
# What changed between two renders

Two lists of blocks are compared position by position. A block with the same source is kept, so that
the HTML at hand can be used again; a block that was put in between others is not recognised, and
all positions after it count as updated.
-/

namespace LiveMarkdown

/-- What became of a position: the block to show there, and where the block is that it takes the place
of. -/
inductive Change where
  | keep (block : Block)
  | update (oldIndex : Nat) (block : Block)
  | add (block : Block)
  | remove (oldIndex : Nat)
  deriving DecidableEq, Repr

/-- A position with what became of it. -/
structure Diff where
  index : Nat
  change : Change
  deriving DecidableEq, Repr

/-- What became of the positions from `index` on. -/
def diffFrom : (index : Nat) → (old new : List Block) → List Diff
  | _, [], [] => []
  | index, [], n :: new => ⟨index, .add n⟩ :: diffFrom (index + 1) [] new
  | index, _ :: old, [] => ⟨index, .remove index⟩ :: diffFrom (index + 1) old []
  | index, o :: old, n :: new =>
    ⟨index, if o.source = n.source then .keep n else .update index n⟩ ::
      diffFrom (index + 1) old new

/-- What became of each position between two renders. -/
def diffBlocks (old new : List Block) : List Diff := diffFrom 0 old new

/-- Does anything have to be shown anew? -/
def Change.isChange : Change → Bool
  | .keep _ => false
  | _ => true

/-- Only the positions where something has to be shown anew. -/
def changesOnly (diffs : List Diff) : List Diff := diffs.filter (·.change.isChange)

end LiveMarkdown
