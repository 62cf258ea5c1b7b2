import LiveMarkdown.Heading.Table
import Std.Data.HashMap

/-!
# Looking headings up

A table of slugs is asked for one heading after the other, so its entries are kept in two indices as
well: by what they are looked up by, where entries with the same key stand in the order in which they
were added, and by their slugs, where a later entry takes the place of an earlier one.
-/

namespace LiveMarkdown

instance : Hashable Text where
  hash t := t.foldl (fun h c => mixHash h (hash c.toNat)) 7

deriving instance Hashable for HeadingKey

/-- The entries of a table of slugs, in order and by what they are asked for. -/
structure SlugIndex where
  headings : List HeadingInfo := []
  byKey : Std.HashMap HeadingKey (List HeadingInfo) := {}
  bySlug : Std.HashMap Text HeadingInfo := {}

namespace SlugIndex

/-- The index with one more entry. -/
def add (x : SlugIndex) (e : HeadingInfo) : SlugIndex where
  headings := x.headings ++ [e]
  byKey := x.byKey.alter e.key fun found => some (found.getD [] ++ [e])
  bySlug := x.bySlug.insert e.slug e

/-- The index of entries that are added in order. -/
def ofList (entries : List HeadingInfo) : SlugIndex := entries.foldl add {}

/-- The entry with a key that is the `occurrence`-th one, counted from one. -/
def get? (x : SlugIndex) (k : HeadingKey) (occurrence : Int) : Option HeadingInfo :=
  let found := x.byKey.getD k []
  if found.isEmpty || occurrence < 1 || found.length < occurrence then none
  else found[(occurrence - 1).toNat]?

/-- The last entry with a slug. -/
def ofSlug? (x : SlugIndex) (slug : Text) : Option HeadingInfo := x.bySlug[slug]?

/-- How many entries the index has. -/
def size (x : SlugIndex) : Nat := x.headings.length

end SlugIndex
end LiveMarkdown
