import LiveMarkdown.Heading.Page
import LiveMarkdown.Markdown.Render
import LiveMarkdown.Math.Display
import LiveMarkdown.Preview.Transform

/-!
# Rendering

A document is rendered in one pass, or block by block. A block knows nothing of the others; the ids
of its headings come from the table of slugs of the whole document, so that they are those of a
render in one pass.
-/

namespace LiveMarkdown

/-- The source with everything in the form that the parser knows. -/
def preprocess (t : Text) : Text := Math.normalizeDisplay t

/-- Where the ids of headings come from: the slugs of a document, and the block they are looked up
for. -/
structure SlugSource where
  table : SlugTable
  block : Text

open Html (MarkupError)

/-- HTML with the ids of its headings. -/
def postprocess (slugs : Option SlugSource) (html : Text) : Except MarkupError Text :=
  match slugs with
  | none => .ok html
  | some s => injectSlugs html s.table s.block

/-- A block as HTML. -/
def renderBlock (c : Config) (slugs : Option SlugSource) (source : Text) :
    Except MarkupError Text :=
  if Text.allBlank source then .ok []
  else
    let tokens := Markdown.parse (preprocess source)
    postprocess slugs (Markdown.render (blockStages c tokens))

/-- A document as HTML. -/
def renderDocument (c : Config) (slugs : Option SlugSource) (t : Text) : Except MarkupError Text :=
  if Text.allBlank t then .ok []
  else
    let tokens := Markdown.parse (preprocess t)
    postprocess slugs (Markdown.render (documentStages c tokens))

/-- The block with this source and id, rendered. -/
def makeBlock (c : Config) (table : SlugTable) (source : BlockSource) (id : Text) :
    Except MarkupError Block :=
  (renderBlock c (some ⟨table, id⟩) source.source).map fun html =>
    { id, source := source.source, html, startLine := source.startLine, endLine := source.endLine }

/-- The blocks with these sources and ids, rendered. -/
def makeBlocks (c : Config) (table : SlugTable) :
    List (BlockSource × Text) → Except MarkupError (List Block)
  | [] => .ok []
  | (source, id) :: rest => do
    let block ← makeBlock c table source id
    let more ← makeBlocks c table rest
    .ok (block :: more)

/-- Why a document cannot be shown as blocks. -/
inductive RenderError where
  /-- It cannot be split. -/
  | split (cause : SplitError)
  /-- The HTML of a block with headings is refused. -/
  | markup (cause : MarkupError)
  deriving DecidableEq, Repr

/-- The message of an error. -/
def RenderError.message : RenderError → Text
  | .split cause => cause.message
  | .markup cause => cause.message

/-- A document as rendered blocks. -/
def renderBlocks (c : Config) (t : Text) : Except RenderError (List Block) := do
  let sources ← (splitBlocks t).mapError .split
  (makeBlocks c (resolveSlugs t) (sources.zip (blockIds sources))).mapError .markup

end LiveMarkdown
