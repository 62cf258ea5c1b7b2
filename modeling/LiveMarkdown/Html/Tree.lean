import LiveMarkdown.Html.Markup

/-!
# Pages as trees

A page is a list of nodes: elements with their attributes and children, and pieces of text. `toText`
writes them, with the attributes of each element in the order of their names and with no references
but those to the characters that need one. A page that names its character set is written as one in
UTF-8.
-/

namespace LiveMarkdown.Html

/-- The kinds of text in a page. -/
inductive Leaf where
  /-- Running text. -/
  | text
  /-- Text that is not shown where it stands, such as a script or a template. -/
  | aside
  | comment
  | section
  | instruction
  | declaration
  | doctype
  deriving DecidableEq, Repr

/-- A node of a page. -/
inductive Node where
  | element (name : Text) (attrs : Attributes) (children : List Node)
  | leaf (kind : Leaf) (content : Text)

/-! ## Elements by name -/

/-- The elements that have no content. -/
def voidNames : List Text :=
  Text.blankWords (String.toList
    "area base br col embed hr img input keygen link menuitem meta param source track wbr
    basefont bgsound command frame image isindex nextid spacer")

/-- The elements whose text is not shown where it stands. -/
def asideNames : List Text := ["script", "style", "template", "rt", "rp"]

/-- The elements in which white space counts. -/
def spacedNames : List Text := ["pre", "textarea"]

/-- The attributes whose values are lists of words in the elements of a name. -/
def wordLists (name : Text) : List Text :=
  let own (names attrs : List Text) : List Text := if names.contains name then attrs else []
  (["class", "accesskey", "dropzone"] : List Text) ++ own ["a", "link"] ["rel", "rev"] ++
    own ["td", "th"] ["headers"] ++ own ["form"] ["accept-charset"] ++ own ["object"] ["archive"] ++
    own ["area"] ["rel"] ++ own ["icon"] ["sizes"] ++ own ["iframe"] ["sandbox"] ++
    own ["output"] ["for"]

/-- The attributes of a tag: of two values for one name the last one counts, and lists of words have
one space between them. -/
def tagAttributes (name : Text) (attrs : Attributes) : Attributes :=
  attrs.foldl (fun done (attr, value) =>
    let isList := (wordLists name).contains attr
    done.set attr (if isList then Text.join [' '] (Text.blankWords value) else value)) []

/-! ## Writing -/

/-- A character of running text or of a value as it is written. -/
def plainChar (c : Char) : Text :=
  if c = '&' then ['&', 'a', 'm', 'p', ';']
  else if c = '<' then ['&', 'l', 't', ';']
  else if c = '>' then ['&', 'g', 't', ';']
  else [c]

/-- A value in quotes: double ones, unless it has double but no single quotes. -/
def quoteValue (value : Text) : Text :=
  let value := value.flatMap plainChar
  if value.contains '"' then
    if value.contains '\'' then
      '"' :: Text.replaceChar '"' ['&', 'q', 'u', 'o', 't', ';'] value ++ ['"']
    else '\'' :: value ++ ['\'']
  else '"' :: value ++ ['"']

/-- The attributes with another one in the order of names. -/
def insertByName (a : Text × Text) : Attributes → Attributes
  | [] => [a]
  | b :: rest => if b.1 ≤ a.1 then b :: insertByName a rest else a :: b :: rest

/-- The attributes in the order of their names. -/
def sortByName (attrs : Attributes) : Attributes := attrs.foldr insertByName []

/-- What comes before the name of a character set in the content of a page's header. -/
def charsetMark : Pattern :=
  (.lineStart <|> .one fun c => Text.isBlank c || c = ';') ++ .text "charset="

/-- The content of a page's header from a place on, with UTF-8 for the character sets that it names,
at most `fuel` of them. -/
def nameUtf8 : (fuel : Nat) → Place → Text
  | 0, s => s.rest
  | fuel + 1, s =>
    match charsetMark.search? s with
    | none => s.rest
    | some (_, e) =>
      s.upTo e ++ "utf-8" ++ nameUtf8 fuel (e.advance (e.rest.takeWhile (· ≠ ';')).length)

/-- The attributes of an element as they are written. The character set of the page is UTF-8, in
whichever of the two ways a `meta` element names it. -/
def writtenAttributes (name : Text) (attrs : Attributes) : Attributes :=
  if name != "meta".toList then attrs
  else if (attrs.get? "charset").isSome then attrs.set "charset" "utf-8"
  else match attrs.get? "content", attrs.get? "http-equiv" with
    | some content, some kind =>
      if Text.lower kind == "content-type".toList then
        attrs.set "content" (nameUtf8 (content.length + 1) (.start content))
      else attrs
    | _, _ => attrs

/-- The attributes as they are written in a tag. -/
def attributesText (attrs : Attributes) : Text :=
  (sortByName attrs).flatMap fun (name, value) => ' ' :: name ++ '=' :: quoteValue value

/-- Text of a page as it is written; `verbatim` in an element without markup. -/
def leafText (verbatim : Bool) (kind : Leaf) (t : Text) : Text :=
  match kind with
  | .text | .aside => if verbatim then t else t.flatMap plainChar
  | .comment => ['<', '!', '-', '-'] ++ t ++ ['-', '-', '>']
  | .section => "<![CDATA[" ++ t ++ [']', ']', '>']
  | .instruction => ['<', '?'] ++ t ++ ['>']
  | .declaration => ['<', '?'] ++ t ++ ['?', '>']
  | .doctype => "<!DOCTYPE " ++ t ++ ['>', '\n']

mutual

/-- A node as it is written. -/
def nodeText (verbatim : Bool) : Node → Text
  | .leaf kind t => leafText verbatim kind t
  | .element name attrs children =>
    let attrs := attributesText (writtenAttributes name attrs)
    if children.isEmpty && voidNames.contains name then '<' :: name ++ attrs ++ ['/', '>']
    else
      '<' :: name ++ attrs ++ ['>'] ++ nodesText (isVerbatim name) children ++
        ['<', '/'] ++ name ++ ['>']

/-- Nodes as they are written. -/
def nodesText (verbatim : Bool) : List Node → Text
  | [] => []
  | n :: rest => nodeText verbatim n ++ nodesText verbatim rest

end

/-! ## Building -/

/-- An element that is not closed yet; its children so far, last one first. -/
structure OpenElement where
  name : Text
  attrs : Attributes
  children : List Node := []

/-- A page that is being built. -/
structure Builder where
  /-- The finished nodes of the page, last one first. -/
  nodes : List Node := []
  /-- The open elements, innermost first. -/
  stack : List OpenElement := []
  /-- The text since the last other node, last piece first. -/
  pending : List Text := []
  /-- The elements without content that have been closed where they were opened, and whose closing
  tag may yet come. -/
  closed : List Text := []

namespace Builder

/-- Is a character white space that may be joined? -/
def isJoinable (c : Char) : Bool := c = ' ' || c = '\n' || c = '\t' || c = '\x0C' || c = '\r'

/-- White space on its own is one newline if it has any, and one space if not. -/
def joinSpace (t : Text) : Text :=
  if t.all isJoinable then (if t.contains '\n' then ['\n'] else [' ']) else t

/-- Adds a node where the page has got to. -/
def put (b : Builder) (n : Node) : Builder :=
  match b.stack with
  | [] => { b with nodes := n :: b.nodes }
  | e :: outer => { b with stack := { e with children := n :: e.children } :: outer }

/-- Is one of the open elements one of these? -/
def within (b : Builder) (names : List Text) : Bool := b.stack.any fun e => names.contains e.name

/-- Adds the text since the last other node, if there is any, as a node of a kind. -/
def flush (b : Builder) (kind : Leaf := .text) : Builder :=
  if b.pending.isEmpty then b
  else
    let t := b.pending.reverse.flatten
    let t := if b.within spacedNames then t else joinSpace t
    let kind := if kind = .text && b.within asideNames then .aside else kind
    put { b with pending := [] } (.leaf kind t)

/-- Closes the innermost open element. -/
def pop (b : Builder) : Builder :=
  match b.stack with
  | [] => b
  | e :: outer =>
    put { b with stack := outer } (.element e.name e.attrs e.children.reverse)

/-- Closes so many elements. -/
def popTimes (b : Builder) : Nat → Builder
  | 0 => b
  | n + 1 => b.pop.popTimes n

/-- Closes the innermost element of a name with all elements in it, if one is open. -/
def close (b : Builder) (name : Text) : Builder :=
  let b := b.flush
  match b.stack.findIdx? (·.name = name) with
  | none => b
  | some inside => b.popTimes (inside + 1)

/-- A closing tag. The one of an element that has been closed already has no effect. -/
def closingTag (b : Builder) (name : Text) : Builder :=
  if b.closed.contains name then { b with closed := b.closed.erase name } else b.close name

/-- Adds text that is no running text. -/
def special (b : Builder) (kind : Leaf) (t : Text) : Builder :=
  ({ b.flush with pending := [t] } : Builder).flush kind

/-- Adds a piece of the page. -/
def add (b : Builder) : Markup → Builder
  | .text t => { b with pending := t :: b.pending }
  | .opening name attrs closed =>
    let b := b.flush
    let b := { b with stack := { name, attrs := tagAttributes name attrs } :: b.stack }
    if closed then b.close name
    else if voidNames.contains name then { b.close name with closed := b.closed ++ [name] }
    else b
  | .closing name => b.closingTag name
  | .comment t => b.special .comment t
  | .section t => b.special .section t
  | .instruction t => b.special .instruction t
  | .declaration t => b.special .declaration t
  | .doctype t => b.special .doctype t

/-- The finished page. -/
def finish (b : Builder) : List Node :=
  let b := b.flush
  (b.popTimes b.stack.length).nodes.reverse

end Builder

/-- The nodes of a page. Elements that are not closed end with the page, and closing tags of
elements that are not open are left out. -/
def pageNodes (t : Text) : Except MarkupError (List Node) :=
  (markup t).map fun pieces => (pieces.foldl Builder.add {}).finish

/-- A page as it is written. -/
def pageText (nodes : List Node) : Text := nodesText false nodes

end LiveMarkdown.Html
