import LiveMarkdown.Block.Split
import LiveMarkdown.Heading.Basic
import LiveMarkdown.Heading.Slug

/-!
# The slugs of a document

A block that is rendered on its own does not know whether its heading is the first of its kind in
the document. The table of slugs does: it has an entry for each heading with its slug and the block
that it stands in. A heading is looked up by its level, block and text, and by how many such
headings its block had up to it.

The table is made from the text as it is written, so that its lines are those of the blocks.
-/

namespace LiveMarkdown

open Markdown (Token)

/-- A heading with its slug and its block. -/
structure HeadingInfo where
  level : Int
  text : Text
  slug : Text
  blockId : Text
  /-- How many headings of the block had the same level and text, up to this one. -/
  occurrenceInBlock : Nat
  /-- How many headings of the document had the same level and text, up to this one. -/
  globalOccurrence : Nat
  deriving DecidableEq, Repr

/-- What headings are looked up by. -/
structure HeadingKey where
  level : Int
  blockId : Text
  text : Text
  deriving DecidableEq, Repr

/-- What a heading is looked up by. -/
def HeadingInfo.key (h : HeadingInfo) : HeadingKey := ⟨h.level, h.blockId, h.text⟩

/-- The headings of a document with their slugs, in order. -/
structure SlugTable where
  headings : List HeadingInfo := []
  deriving DecidableEq, Repr

namespace SlugTable

/-- The table with one more heading. -/
def add (t : SlugTable) (h : HeadingInfo) : SlugTable := ⟨t.headings ++ [h]⟩

/-- The headings with a key. -/
def withKey (t : SlugTable) (k : HeadingKey) : List HeadingInfo := t.headings.filter (·.key = k)

/-- The heading with a key that is the `occurrence`-th one, counted from one. -/
def get? (t : SlugTable) (k : HeadingKey) (occurrence : Int) : Option HeadingInfo :=
  if occurrence < 1 then none else (t.withKey k)[(occurrence - 1).toNat]?

/-- The last heading with a slug. -/
def ofSlug? (t : SlugTable) (slug : Text) : Option HeadingInfo :=
  t.headings.reverse.find? (·.slug = slug)

/-- How many headings the table has. -/
def size (t : SlugTable) : Nat := t.headings.length

end SlugTable

/-! ## The block of a line -/

/-- The name of no block. -/
def unknownBlock : Text := "unknown"

/-- How many of the sorted numbers are not above `x`. The answer is known to be from `low` to
`high`. -/
def countUpTo (starts : List Int) (x : Int) : (fuel low high : Nat) → Nat
  | 0, low, _ => low
  | fuel + 1, low, high =>
    if high ≤ low then low
    else
      let mid := (low + high) / 2
      if x < starts.getD mid 0 then countUpTo starts x fuel low mid
      else countUpTo starts x fuel (mid + 1) high

/-- The block that a line stands in: the last one that begins at or before the line, if it does not
end before. Each block has its first line, its last line and its id. -/
def owningBlock (blocks : List (Int × Int × Text)) (line : Int) : Text :=
  let starts := blocks.map (·.1)
  match countUpTo starts line starts.length 0 starts.length with
  | 0 => unknownBlock
  | n + 1 => match blocks[n]? with
    | none => unknownBlock
    | some (_, last, id) => if line ≤ last then id else unknownBlock

/-- The blocks with their ids, as they are asked for lines. -/
def ownedLines (blocks : List BlockSource) : List (Int × Int × Text) :=
  (blocks.zip (blockIds blocks)).map fun (b, id) => (b.startLine, b.endLine, id)

/-! ## Making the table -/

/-- Entries for headings. `earlier` are the entries before them. -/
def entriesFrom (owner : Nat → Text) :
    Slugger → (earlier : List HeadingInfo) → List Heading → List HeadingInfo
  | _, _, [] => []
  | s, earlier, h :: rest =>
    let (slug, s) := s.issue h.text
    let level : Int := h.level
    let blockId := owner h.line
    let before (p : HeadingInfo → Bool) : Nat := earlier.countP p
    let entry : HeadingInfo :=
      { level, text := h.text, slug, blockId
        occurrenceInBlock := before (·.key = ⟨level, blockId, h.text⟩) + 1
        globalOccurrence := before (fun e => e.level = level && e.text = h.text) + 1 }
    entry :: entriesFrom owner s (entry :: earlier) rest

/-- The slugs of a document with these tokens. -/
def SlugTable.ofTokens (t : Text) (tokens : List Token) : Except SplitError SlugTable := do
  let blocks ← blocksOfTokens t tokens
  let owned := ownedLines blocks
  .ok ⟨entriesFrom (fun line => owningBlock owned line) {} [] (namedHeadings tokens)⟩

/-- The slugs of a document, if it can be parsed and split. -/
def SlugTable.resolve? (parse : Text → Option (List Token)) (t : Text) : Option SlugTable :=
  if Text.allBlank t then some {}
  else (parse t).bind fun tokens => (SlugTable.ofTokens t tokens).toOption

/-- The slugs of a document; none if they could not be found out. Headings then have no id. -/
def resolveSlugs (t : Text) : SlugTable := (SlugTable.resolve? (some ∘ Markdown.parse) t).getD {}

end LiveMarkdown
