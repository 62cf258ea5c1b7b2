import LiveMarkdown.Digest.Sha1
import LiveMarkdown.Text.Decimal
import LiveMarkdown.Text.Utf8

/-!
# Blocks

A block is a piece of a document that is rendered on its own. Its id says where it stands and what
is in it: the position among the blocks, the beginning of a digest of its source and first line, and
that line. Lines are counted from one.
-/

namespace LiveMarkdown

/-- The source of a block, with its first and its last line. -/
structure BlockSource where
  source : Text
  startLine : Int
  endLine : Int
  deriving DecidableEq, Repr

/-- A rendered block. -/
structure Block where
  id : Text
  source : Text
  html : Text
  startLine : Int
  endLine : Int
  deriving DecidableEq, Repr

/-- How much of the digest is part of an id. -/
def digestLength : Nat := 10

/-- The digest of a block's source and first line, as far as it is part of the id. -/
def blockDigest (source : Text) (startLine : Int) : Text :=
  (Sha1.hexDigest (Text.utf8 (source ++ '|' :: Text.ofInt startLine))).take digestLength

/-- The id of a block. -/
def blockId (source : Text) (startLine index : Int) : Text :=
  'b' :: Text.ofInt index ++ '-' :: blockDigest source startLine ++ '-' :: Text.ofInt startLine

/-- The ids of blocks, the first of which stands at position `index`. -/
def blockIdsFrom (index : Nat) : List BlockSource → List Text
  | [] => []
  | b :: rest => blockId b.source b.startLine index :: blockIdsFrom (index + 1) rest

/-- The ids of the blocks of a document. -/
def blockIds (blocks : List BlockSource) : List Text := blockIdsFrom 0 blocks

end LiveMarkdown
