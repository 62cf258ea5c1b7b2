import LiveMarkdown.Markdown.Blocks
import LiveMarkdown.Markdown.Inlines
import LiveMarkdown.Markdown.Task

/-!
# Documents

`parse` gives the tokens of a document: line ends are made uniform, blocks are read, and then their
running text, now that all definitions are known. Last, boxes become tasks, bare addresses become
links, and what is left of escapes becomes text.
-/

namespace LiveMarkdown.Markdown

/-- The text with newlines for all line ends, and no null characters. -/
def normalizeSource (t : Text) : Text :=
  (Text.uniformNewlines t).map fun c => if c.toNat = 0 then '\uFFFD' else c

/-! ## Bare addresses -/

/-- The text and links that a text with bare addresses consists of; `passed` characters of it are
done with. -/
def linkPieces (t : Text) : (passed : Nat) → List Url.Bare.Link → List Inline
  | passed, [] => if passed < t.length then [.ofText (t.drop passed)] else []
  | passed, l :: more =>
    let url := Url.normalize l.url
    if !Url.isAllowed url then linkPieces t passed more
    else
      let before : List Inline :=
        if passed < l.start then [.ofText (Text.slice t passed l.start)] else []
      before ++ linkTokens [("href", url)] [.ofText (shown l)] ++ linkPieces t l.stop more
where
  /-- The text of the link. A scheme that the writer left out is left out. -/
  shown (l : Url.Bare.Link) : Text :=
    match l.scheme with
    | none =>
      let shown := Url.display ("http://" ++ l.raw)
      if Text.startsWith shown "http://" then shown.drop 7 else shown
    | some .mail =>
      if Text.startsWithFold l.raw "mailto:" then
        let shown := Url.display ("mailto:" ++ l.raw)
        if Text.startsWith shown "mailto:" then shown.drop 7 else shown
      else Url.display l.raw
    | some _ => Url.display l.raw

/-- Inline tokens, last one first, with their bare addresses as links. What stands in a link stays
as it is: `inLink` tells whether a link's opening mark is yet to come, `htmlDepth` counts the tags
of links in raw HTML. -/
def linkAddresses : (inLink : Bool) → (htmlDepth : Nat) → List Inline → List Inline
  | _, _, [] => []
  | inLink, htmlDepth, t :: before =>
    if inLink then
      linkAddresses (t.kind ≠ .opening .link) htmlDepth before ++ [t]
    else match t.kind with
      | .closing .link => linkAddresses true htmlDepth before ++ [t]
      | .html =>
        let htmlDepth := if RawHtml.isLinkOpening t.content then htmlDepth - 1 else htmlDepth
        let htmlDepth := if RawHtml.isLinkClosing t.content then htmlDepth + 1 else htmlDepth
        linkAddresses false htmlDepth before ++ [t]
      | .text =>
        if 0 < htmlDepth then linkAddresses false htmlDepth before ++ [t]
        else
          let links := Url.Bare.links t.content
          let afterEscape := before.head?.any (·.kind = .special)
          let links := match links with
            | l :: more => if l.start = 0 && afterEscape then more else l :: more
            | [] => []
          linkAddresses false htmlDepth before ++
            (if links.isEmpty then [t] else linkPieces t.content 0 links)
      | _ => linkAddresses false htmlDepth before ++ [t]

/-! ## The end of parsing -/

/-- Inline tokens with what is left of escapes as text. -/
def joinSpecial (ts : List Inline) : List Inline :=
  joinText (ts.map fun t => if t.kind = .special then { t with kind := .text } else t)

/-- A token with its running text replaced. -/
def Token.mapChildren (f : Text → List Inline → List Inline) (t : Token) : Token :=
  match t.kind with
  | .inline children => { t with kind := .inline (f t.content children) }
  | _ => t

/-- The running text with its bare addresses, if its source shows any sign of one. -/
def linkChildren (content : Text) (children : List Inline) : List Inline :=
  if Url.Bare.isHinted content then linkAddresses false 0 children.reverse else children

/-- The tokens of a document. -/
def parse (t : Text) : List Token :=
  let (tokens, refs) := blockTokens (normalizeSource t)
  let tokens := tokens.map (·.mapChildren fun content _ => inlines refs content)
  (markTasks 0 tokens).map (·.mapChildren fun content children =>
    joinSpecial (linkChildren content children))

end LiveMarkdown.Markdown
