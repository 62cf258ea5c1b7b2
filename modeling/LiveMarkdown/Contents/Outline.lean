import LiveMarkdown.Heading.Basic
import LiveMarkdown.Heading.Slug
import LiveMarkdown.Markdown.Document

/-!
# The table of contents

The headings of a document in order, and the tree that their levels make of them: each heading
stands under the closest heading before it with a lower level.
-/

namespace LiveMarkdown.Contents

open Markdown (Token)

/-- An entry of the table of contents. -/
structure Entry where
  level : Int
  text : Text
  id : Text
  deriving DecidableEq, Repr

/-- The entries of a document with these tokens. -/
def ofTokens (tokens : List Token) : List Entry :=
  let named := namedHeadings tokens
  (named.zip (({} : Slugger).issueAll (named.map (·.text)))).map fun (h, id) =>
    { level := h.level, text := Text.trim h.text, id }

/-- The entries of a document, if it can be parsed. -/
def ofText? (parse : Text → Option (List Token)) (t : Text) : Option (List Entry) :=
  if Text.allBlank t then some [] else (parse t).map ofTokens

/-- The entries of a document. -/
def ofText (t : Text) : List Entry := (ofText? (some ∘ Markdown.parse) t).getD []

/-! ## The tree -/

/-- An entry with the entries under it. -/
structure Node where
  entry : Entry
  children : List Node

/-- The entries as a forest. The trees of the later entries are at hand when an entry is put before
them: those with a higher level, up to the first without, come under it. -/
def tree : List Entry → List Node
  | [] => []
  | e :: rest =>
    let later := tree rest
    let isUnder (n : Node) : Bool := e.level < n.entry.level
    ⟨e, later.takeWhile isUnder⟩ :: later.dropWhile isUnder

end LiveMarkdown.Contents
