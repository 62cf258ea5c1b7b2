import LiveMarkdown.Contents.Outline
import LiveMarkdown.Heading.Table
import LiveMarkdown.Html.Tree
import LiveMarkdown.Math.Formula

/-!
# Headings of a page

The headings of a rendered page, with the text that they are known by: running text, without
formulas. `injectSlugs` gives each of them the id that the table of the document's slugs has for it;
`Contents.ofPage` makes a table of contents from those ids.
-/

namespace LiveMarkdown

open Html (Attributes MarkupError Node)

/-- The level of a heading's element. -/
def elementLevel? : Text → Option Nat
  | ['h', c] => if '1' ≤ c && c ≤ '6' then some (c.toNat - 48) else none
  | _ => none

/-- Is an element a formula? A class that looks like one is the writer's own. -/
def isFormula (name : Text) (attrs : Attributes) : Bool :=
  name == "math".toList || (attrs.get? Math.markAttribute).isSome

mutual

/-- The running text of a node. -/
def nodePlainText : Node → Text
  | .leaf kind t => if kind = .text then t else []
  | .element name attrs children => if isFormula name attrs then [] else plainText children

/-- The running text of nodes. -/
def plainText : List Node → Text
  | [] => []
  | n :: rest => nodePlainText n ++ plainText rest

end

/-- A heading of a page: its level, text and id. -/
structure PageHeading where
  level : Nat
  text : Text
  id : Option Text
  deriving DecidableEq, Repr

mutual

/-- The headings in a node, in order; one comes before those in it. -/
def nodeHeadings : Node → List PageHeading
  | .leaf _ _ => []
  | .element name attrs children =>
    match elementLevel? name with
    | some level => ⟨level, plainText children, attrs.get? ['i', 'd']⟩ :: pageHeadings children
    | none => pageHeadings children

/-- The headings in nodes, in order. -/
def pageHeadings : List Node → List PageHeading
  | [] => []
  | n :: rest => nodeHeadings n ++ pageHeadings rest

end

/-! ## Setting ids -/

mutual

/-- The node with new ids for the headings in it, and the ids that are left over. -/
def setNodeIds : Node → List (Option Text) → Node × List (Option Text)
  | .leaf kind t, ids => (.leaf kind t, ids)
  | .element name attrs children, ids =>
    match elementLevel? name, ids with
    | some _, id :: ids =>
      let attrs := match id with
        | some id => attrs.set ['i', 'd'] id
        | none => attrs
      let (children, ids) := setIds children ids
      (.element name attrs children, ids)
    | _, ids =>
      let (children, ids) := setIds children ids
      (.element name attrs children, ids)

/-- The nodes with new ids for the headings in them, in order, and the ids that are left over. A
heading whose id is none keeps what it has. -/
def setIds : List Node → List (Option Text) → List Node × List (Option Text)
  | [], ids => ([], ids)
  | n :: rest, ids =>
    let (n, ids) := setNodeIds n ids
    let (rest, ids) := setIds rest ids
    (n :: rest, ids)

end

/-- The slugs that a table has for the headings of a block. `earlier` are the headings before
them. -/
def slugsFor (table : SlugTable) (block : Text) :
    (earlier : List PageHeading) → List PageHeading → List (Option Text)
  | _, [] => []
  | earlier, h :: rest =>
    let occurrence := earlier.countP (fun e => e.level = h.level && e.text = h.text) + 1
    ((table.get? ⟨h.level, block, h.text⟩ occurrence).map (·.slug)) ::
      slugsFor table block (h :: earlier) rest

/-- The HTML of a block with the ids of its headings. It stays as it is if none of them is in the
table. -/
def injectSlugs (html : Text) (table : SlugTable) (block : Text) : Except MarkupError Text :=
  if html.isEmpty || table.headings.isEmpty then .ok html
  else do
    let nodes ← Html.pageNodes html
    let ids := slugsFor table block [] (pageHeadings nodes)
    .ok (if ids.any (·.isSome) then Html.pageText (setIds nodes ids).1 else html)

/-- The entries of headings that have an id. -/
def Contents.ofHeadings (headings : List PageHeading) : List Contents.Entry :=
  headings.filterMap fun h =>
    match h.id with
    | none | some [] => none
    | some id => some { level := h.level, text := Text.trim h.text, id }

/-- The entries of the headings of a page that have an id. -/
def Contents.ofPage (html : Text) : Except MarkupError (List Contents.Entry) :=
  (Html.pageNodes html).map fun nodes => Contents.ofHeadings (pageHeadings nodes)

end LiveMarkdown
