import LiveMarkdown.Preview.Render
import LiveMarkdown.Proofs.Heading.Listing
import LiveMarkdown.Proofs.Heading.Numbering
import LiveMarkdown.Proofs.Html.Quiet
import LiveMarkdown.Proofs.Markdown.PlainTokens

/-!
# The headings of rendered tokens

If the raw HTML of a document has whole tags, so has all that is rendered from it, and the headings
that the page lists can be told token by token (`lists_renderFrom`): a heading's opening token has its
level and its id, raw HTML has the headings that it lists by itself, and nothing else has any.

The stages between parsing and rendering are shown to change none of this but the ids
(`Token.IsRenderable.replaced`, `shown_withLine`).
-/

namespace LiveMarkdown

open Html (Attributes IsPlainName IsPlainTag Markup PiecesClosed Spelled Tagged)
open Markdown (Container Inline InlineKind Kind Mark Token)

/-! ## Tags -/

/-- A plain name needs no escaping. -/
theorem Html.escape_of_isPlainName {name : Text} (h : IsPlainName name) : escape name = name := by
  have hchar : ∀ c ∈ name, escapeChar c = [c] := by
    intro c hc
    have hmark := (facts_of_isPlainNameChar (List.all_eq_true.1 h.2.1 c hc)).2.2
    simp only [List.mem_cons, List.not_mem_nil, or_false, not_or] at hmark
    obtain ⟨-, -, hgt, hlt, hamp, hquote, -⟩ := hmark
    rw [escapeChar, if_neg hamp, if_neg hlt, if_neg hgt, if_neg hquote]
  unfold escape
  clear h
  induction name with
  | nil => rfl
  | cons c rest ih =>
    rw [List.flatMap_cons, hchar c List.mem_cons_self, ih fun d hd => hchar d (List.mem_cons_of_mem _ hd)]
    rfl

/-- The attributes of tokens are written so that they are read as they are meant. -/
theorem Html.isWritten_attributeText {a : Text × Text} (h : IsPlainName a.1) :
    IsWritten (attributeText a.1 a.2) a := by
  refine ⟨'"', escape a.2, ?_, .inl rfl, quote_notMem_escape a.2,
    decodeAttribute_flatMap decodeFrom_escapeChar a.2⟩
  rw [attributeText, escape_of_isPlainName h]
  simp only [List.cons_append, List.append_assoc, List.nil_append]

/-- A tag is plain if its name and the names of its attributes are, and no text inside it is
verbatim. -/
theorem Html.isPlainTag {name : Text} (hname : IsPlainName name) (hverbatim : isVerbatim name = false)
    {attrs : Attributes} (hattrs : ∀ a ∈ attrs, IsPlainName a.1) : IsPlainTag (name, attrs) :=
  ⟨hname, hverbatim, hattrs⟩

/-- An opening tag is read as one opening piece, with its attributes. -/
theorem spelled_openTag {tag : Text} {attrs : Attributes} (h : IsPlainTag (tag, attrs)) :
    Spelled (Markdown.openTag tag attrs) [.opening tag attrs false] := by
  have := Html.spelled_opening h (fun a ha => Html.isWritten_attributeText (h.attrs a ha)) []
    (List.forall_mem_nil _) false
  rw [Markdown.openTag, List.cons_append, List.cons_append, List.append_assoc]
  exact this

/-- An empty tag is read as one opening piece that closes itself. -/
theorem spelled_emptyTag {tag : Text} {attrs : Attributes} (h : IsPlainTag (tag, attrs)) :
    Spelled (Markdown.emptyTag tag attrs) [.opening tag attrs true] := by
  have hgap : ∀ c ∈ [' '], Html.isTagSpace c :=
    fun c hc => List.mem_singleton.1 hc ▸ Html.isTagSpace_space
  have := Html.spelled_opening h (fun a ha => Html.isWritten_attributeText (h.attrs a ha)) _ hgap true
  rw [Markdown.emptyTag, List.cons_append, List.cons_append, List.append_assoc]
  exact this

/-- A closing tag is read as one closing piece. -/
theorem spelled_closeTag {tag : Text} (h : IsPlainName tag) :
    Spelled (Markdown.closeTag tag) [.closing tag] := by
  rw [Markdown.closeTag, List.cons_append, List.cons_append]
  exact .closing h .nil

/-- A newline is read as text. -/
theorem spelled_newline : Spelled ['\n'] [.text ['\n']] := .char (by decide) (by decide) .nil

/-! ## Listing headings -/

/-- A text in which these headings begin, read as pieces with a property. -/
def ListsWith (P : List Markup → Prop) (t : Text) (hs : List (Nat × Option Text)) : Prop :=
  ∃ pieces, Spelled t pieces ∧ (Html.openings pieces).filterMap readHeading? = hs ∧ P pieces

/-- To list headings is to list them with no property asked of the pieces. -/
theorem lists_iff {t : Text} {hs : List (Nat × Option Text)} :
    Lists t hs ↔ ListsWith (fun _ => True) t hs := by
  constructor
  · rintro ⟨tags, htags, hlists⟩
    obtain ⟨pieces, hspelled, rfl⟩ := htags.exists_spelled
    exact ⟨pieces, hspelled, hlists, trivial⟩
  · rintro ⟨pieces, hspelled, hlists, -⟩
    exact ⟨_, hspelled.tagged, hlists⟩

/-- Attributes that have different names if they are those of a heading. -/
def HeadingsAreNodup (tag : Text × Attributes) : Prop :=
  (elementLevel? tag.1).isSome → (tag.2.map (·.1)).Nodup

/-- A tag that is no heading need not have different attributes. -/
theorem headingsAreNodup_of_level? (tag : Text × Attributes) (h : elementLevel? tag.1 = none) :
    HeadingsAreNodup tag := by
  rw [HeadingsAreNodup, h]
  nofun

/-- A tag with another name than a heading's is no heading. -/
theorem headingOf?_eq_none {tag : Text × Attributes} (h : elementLevel? tag.1 = none) :
    headingOf? tag = none := by
  rw [headingOf?, h]
  rfl

/-- The headings among the openings of a single tag: the one it is, if it is one. -/
theorem filterMap_readHeading? {tag : Text × Attributes} (h : HeadingsAreNodup tag) :
    [tag].filterMap readHeading? = (headingOf? tag).toList := by
  have hread : readHeading? tag = headingOf? tag := by
    cases hlevel : elementLevel? tag.1 with
    | none =>
      have hnone (attrs : Attributes) : headingOf? (tag.1, attrs) = none := headingOf?_eq_none hlevel
      rw [readHeading?, hnone]
      exact (hnone tag.2).symm
    | some level => exact readHeading?_eq (h (by rw [hlevel]; rfl))
  rw [List.filterMap_cons, hread]
  cases headingOf? tag with
  | none => rfl
  | some heading => rfl

namespace Html.PiecesClosed

variable {P : List Markup → Prop} (hP : PiecesClosed P)
include hP

/-- The empty text has no headings. -/
theorem lists_nil : ListsWith P [] [] := ⟨[], .nil, rfl, hP.nil⟩

/-- Headings are listed one text after the other. -/
theorem lists_append {t u : Text} {hs more : List (Nat × Option Text)} (ht : ListsWith P t hs)
    (hu : ListsWith P u more) : ListsWith P (t ++ u) (hs ++ more) := by
  obtain ⟨pieces, hspelled, rfl, hpieces⟩ := ht
  obtain ⟨pieces', hspelled', rfl, hpieces'⟩ := hu
  refine ⟨pieces ++ pieces', hspelled.append hspelled', ?_, hP.append hpieces hpieces'⟩
  rw [openings_append, List.filterMap_append]

/-- Headings of several texts are listed one text after the other. -/
theorem lists_flatMap {α : Type} {l : List α} {f : α → Text} {g : α → List (Nat × Option Text)}
    (h : ∀ a ∈ l, ListsWith P (f a) (g a)) : ListsWith P (l.flatMap f) (l.flatMap g) := by
  induction l with
  | nil => exact hP.lists_nil
  | cons a rest ih =>
    rw [List.flatMap_cons, List.flatMap_cons]
    exact hP.lists_append (h a List.mem_cons_self) (ih fun b hb => h b (List.mem_cons_of_mem _ hb))

/-- Escaped text has no headings. -/
theorem lists_escape (t : Text) : ListsWith P (escape t) [] :=
  ⟨_, spelled_escape t, by rw [openings_charPieces]; rfl, hP.charPieces t⟩

/-- A newline has no headings. -/
theorem lists_newline : ListsWith P ['\n'] [] := ⟨_, spelled_newline, rfl, hP.text _⟩

/-- A tag is a heading with its id if it has the name of one. -/
theorem lists_openTag {tag : Text} {attrs : Attributes} (h : IsPlainTag (tag, attrs))
    (hname : tag ∉ reservedNames) (hnodup : HeadingsAreNodup (tag, attrs)) :
    ListsWith P (Markdown.openTag tag attrs) (headingOf? (tag, attrs)).toList :=
  ⟨_, spelled_openTag h, filterMap_readHeading? hnodup, hP.opening hname attrs⟩

/-- A closing tag is no heading. -/
theorem lists_closeTag {tag : Text} (h : IsPlainName tag) : ListsWith P (Markdown.closeTag tag) [] :=
  ⟨_, spelled_closeTag h, rfl, hP.closing tag⟩

section

variable {tag : Text} {attrs : Attributes} (h : IsPlainTag (tag, attrs))
  (hlevel : elementLevel? tag = none)
include h hlevel

/-- An opening tag with another name than a heading's is no heading. -/
theorem lists_openTag_other (hname : tag ∉ reservedNames) :
    ListsWith P (Markdown.openTag tag attrs) [] := by
  have := hP.lists_openTag h hname (headingsAreNodup_of_level? _ hlevel)
  rwa [headingOf?_eq_none hlevel] at this

/-- An empty tag with another name than a heading's is no heading. -/
theorem lists_emptyTag : ListsWith P (Markdown.emptyTag tag attrs) [] := by
  refine ⟨_, spelled_emptyTag h, ?_, hP.closed tag attrs⟩
  have := filterMap_readHeading? (headingsAreNodup_of_level? (tag, attrs) hlevel)
  rwa [headingOf?_eq_none hlevel] at this

/-- An element that is no heading has the headings of its content. -/
theorem lists_element (hname : tag ∉ voidNames) {content : Text} {hs : List (Nat × Option Text)}
    (hcontent : ListsWith P content hs) : ListsWith P (Markdown.element tag attrs content) hs := by
  obtain ⟨pieces, hspelled, rfl, hpieces⟩ := hcontent
  refine ⟨_, ((spelled_openTag h).append hspelled).append (spelled_closeTag h.name), ?_,
    hP.element hname attrs hpieces⟩
  have hopen := filterMap_readHeading? (headingsAreNodup_of_level? (tag, attrs) hlevel)
  rw [headingOf?_eq_none hlevel] at hopen
  rw [openings_append, openings_append, List.filterMap_append, List.filterMap_append]
  have hopenings : openings [.opening tag attrs false] = [(tag, attrs)] := rfl
  rw [hopenings, hopen]
  exact List.append_nil _

end

end Html.PiecesClosed

/-! ## Names -/

/-- The elements that tokens are rendered as with their content. -/
def elementNames : List Text :=
  [['e', 'm'], "strong", ['s'], ['a'], "code", "span", "div", "pre"]

set_option maxRecDepth 10000 in
/-- The names of elements with content are not those of void ones. -/
theorem elementNames_notMem_voidNames : elementNames.all fun n => !Html.voidNames.contains n :=
  all_notMem_blankWords rfl (by decide +kernel)

/-- No element that has content is void: it is closed by its own tag. -/
theorem notMem_voidNames {name : Text} (h : name ∈ elementNames) : name ∉ Html.voidNames := by
  have := List.all_eq_true.1 elementNames_notMem_voidNames name h
  simpa using this

/-! ## Styled code -/

/-- The tag of a style is plain, whatever its class. -/
theorem isPlainTag_span (cls : Text) : IsPlainTag ("span".toList, [("class".toList, cls)]) := by
  have hclass : IsPlainName "class".toList := by decide
  exact Html.isPlainTag (by decide) (by decide) fun a ha => List.mem_singleton.1 ha ▸ hclass

/-- What begins the element of a style is a tag with its class. -/
theorem openSpan_eq {s : Highlight.Style} (h : s ≠ .plain) :
    Highlight.openSpan s = Markdown.openTag "span" [("class", s.cls)] := by
  have hname : Html.escape "class".toList = "class".toList := by decide
  have hattrs : Attributes.toText [("class", s.cls)] = " class=\"".toList ++ s.cls ++ ['"'] := by
    rw [Attributes.toText, List.flatMap_singleton]
    dsimp only
    rw [Html.attributeText, hname, s.inert]
    rfl
  rw [Highlight.openSpan, if_neg h, Markdown.openTag, hattrs]
  simp

section

variable {P : List Markup → Prop} (hP : PiecesClosed P)
include hP

/-- What begins the element of a style is no heading. -/
theorem lists_openSpan (s : Highlight.Style) : ListsWith P (Highlight.openSpan s) [] := by
  by_cases h : s = .plain
  · rw [h]
    exact hP.lists_nil
  · rw [openSpan_eq h]
    exact hP.lists_openTag_other (isPlainTag_span s.cls) (by decide) (by decide)

/-- What ends the element of a style is no heading. -/
theorem lists_closeSpan (s : Highlight.Style) : ListsWith P (Highlight.closeSpan s) [] := by
  have hname : IsPlainName "span".toList := by decide
  unfold Highlight.closeSpan
  split
  · exact hP.lists_nil
  · exact hP.lists_closeTag hname

/-- Pieces of code in their styles have no headings, whatever the style before them. -/
theorem lists_spansFrom (current : Highlight.Style) (chars : List (Highlight.Style × Char)) :
    ListsWith P (Highlight.spansFrom current chars) [] := by
  induction chars generalizing current with
  | nil => exact lists_closeSpan hP current
  | cons p rest ih =>
    obtain ⟨s, c⟩ := p
    have hclose := lists_closeSpan hP current
    have hchar : ListsWith P (Highlight.escapeChar c) [] :=
      ⟨_, Html.spelled_plainChar c, rfl, hP.text [c]⟩
    rw [Highlight.spansFrom]
    split
    · exact hP.lists_append hclose (hP.lists_append hP.lists_newline (ih .plain))
    · split
      · exact hP.lists_append hchar (ih current)
      · exact hP.lists_append
          (hP.lists_append (hP.lists_append hclose (lists_openSpan hP s)) hchar) (ih s)

/-- Highlighted code has no headings. -/
theorem lists_highlight (h : Highlight.Highlighter) (code : Text) (name : Option Text) (detect : Bool)
    (codeClass : Text) : ListsWith P (Highlight.highlight h code name detect codeClass).1 [] := by
  unfold Highlight.highlight
  dsimp only
  split
  · exact hP.lists_escape code
  · exact lists_spansFrom hP .plain _

end

/-! ## Running text -/

/-- A text with whole tags. -/
def Html.IsWhole (t : Text) : Prop := ∃ tags, Tagged t tags

/-- The headings that raw HTML lists by itself. -/
def rawHeadings (html : Text) : List (Nat × Option Text) := (listHeadings html).toOption.getD []

/-- Raw HTML with whole tags lists the headings it lists by itself. -/
theorem lists_rawHeadings {P : List Markup → Prop} {html : Text}
    (h : ∃ pieces, Spelled html pieces ∧ P pieces) : ListsWith P html (rawHeadings html) := by
  obtain ⟨pieces, hspelled, hpieces⟩ := h
  have hlists : Lists html ((Html.openings pieces).filterMap readHeading?) :=
    ⟨_, hspelled.tagged, rfl⟩
  rw [rawHeadings, hlists.listHeadings]
  exact ⟨pieces, hspelled, rfl, hpieces⟩

/-- The headings of running text: those in its raw HTML. -/
def Markdown.Inline.shown (t : Inline) : List (Nat × Option Text) :=
  match t.kind with
  | .html => rawHeadings t.content
  | _ => []

/-- The raw HTML of running text. -/
def Markdown.Inline.rawHtml (t : Inline) : List Text :=
  match t.kind with
  | .html => [t.content]
  | _ => []

/-- A token of running text whose HTML is read as pieces with a property. -/
structure Markdown.Inline.IsRenderable (P : List Markup → Prop) (t : Inline) : Prop where
  attrs : ∀ a ∈ t.attrs, IsPlainName a.1
  html : ∀ html ∈ t.rawHtml, ListsWith P html (rawHeadings html)
  written : ∀ html ∈ t.kind.written, ListsWith P html []

/-- A mark is rendered as a plain tag that is neither verbatim nor a heading. -/
theorem facts_of_mark (m : Mark) : IsPlainName m.tag ∧ Html.isVerbatim m.tag = false ∧
    elementLevel? m.tag = none ∧ m.tag ∉ Html.reservedNames := by
  cases m <;> decide

/-- A token of running text lists the headings of its raw HTML, and no others. -/
theorem lists_renderInline {P : List Markup → Prop} (hP : PiecesClosed P) {t : Inline}
    (h : t.IsRenderable P) : ListsWith P (Markdown.renderInline t) t.shown := by
  obtain ⟨kind, content, attrs⟩ := t
  have htag {name : Text} (hname : IsPlainName name) (hverbatim : Html.isVerbatim name = false) :
      IsPlainTag (name, attrs) := Html.isPlainTag hname hverbatim h.attrs
  cases kind with
  | text => exact hP.lists_escape content
  | special => exact hP.lists_escape content
  | code =>
    exact hP.lists_element (htag (by decide) (by decide)) (by decide) (notMem_voidNames (by decide))
      (hP.lists_escape content)
  | softBreak => exact hP.lists_newline
  | hardBreak =>
    exact hP.lists_append (hP.lists_emptyTag
      (Html.isPlainTag (by decide) (by decide) fun a ha => by cases ha) (by decide)) hP.lists_newline
  | html => exact h.html content List.mem_cons_self
  | math display => exact hP.lists_escape content
  | formula html =>
    exact hP.lists_element (htag (by decide) (by decide)) (by decide) (notMem_voidNames (by decide))
      (h.written html List.mem_cons_self)
  | opening mark =>
    obtain ⟨hname, hverbatim, hlevel, hreserved⟩ := facts_of_mark mark
    exact hP.lists_openTag_other (htag hname hverbatim) hlevel hreserved
  | closing mark => exact hP.lists_closeTag (facts_of_mark mark).1
  | image => exact hP.lists_emptyTag (htag (by decide) (by decide)) (by decide)

/-! ## Blocks -/

/-- The headings of a token: the one that it opens, or those in its raw HTML. -/
def Markdown.Token.shown (t : Token) : List (Nat × Option Text) :=
  match t.kind with
  | .opening (.heading level) => [(level, t.attrs.get? ['i', 'd'])]
  | .inline children => children.flatMap Markdown.Inline.shown
  | .html => rawHeadings t.content
  | _ => []

/-- The raw HTML that a token is. -/
def Markdown.Token.ownHtml (t : Token) : List Text :=
  match t.kind with
  | .html => [t.content]
  | _ => []

/-- The HTML that has been written for a kind. -/
def Markdown.Kind.written : Kind → List Text
  | .formula shown | .highlighted shown _ => [shown]
  | _ => []

/-- A token whose HTML is read as pieces with a property. -/
structure Markdown.Token.IsRenderable (P : List Markup → Prop) (t : Token) : Prop where
  attrs : ∀ a ∈ t.attrs, IsPlainName a.1
  nodup : t.headingLevel?.isSome → (t.attrs.map (·.1)).Nodup
  level : ∀ level ∈ t.kind.level?, 1 ≤ level ∧ level ≤ 6
  children : ∀ c ∈ t.children, c.IsRenderable P
  html : ∀ html ∈ t.ownHtml, ListsWith P html (rawHeadings html)
  written : ∀ html ∈ t.kind.written, ListsWith P html []
  hidden : t.hidden → t.kind.isParagraph

/-- A container is rendered as a plain tag, and it is a heading's exactly if the container is a
heading. -/
theorem facts_of_container {c : Container} (h : ∀ level ∈ c.level?, 1 ≤ level ∧ level ≤ 6) :
    IsPlainName c.tag ∧ Html.isVerbatim c.tag = false ∧ elementLevel? c.tag = c.level? ∧
      c.tag ∉ Html.reservedNames := by
  cases c with
  | heading level =>
    have hall : ∀ n : Fin 7, 1 ≤ n.val → IsPlainName (Container.heading n).tag ∧
        Html.isVerbatim (Container.heading n).tag = false ∧
          elementLevel? (Container.heading n).tag = some n.val ∧
          (Container.heading n).tag ∉ Html.reservedNames := by
      decide
    obtain ⟨hlow, hhigh⟩ := h level rfl
    exact hall ⟨level, by omega⟩ hlow
  | _ => decide

section

variable {P : List Markup → Prop} (hP : PiecesClosed P)
include hP

/-- Code in its element has no headings. -/
theorem lists_codeElement {attrs : Attributes} (h : ∀ a ∈ attrs, IsPlainName a.1) (cls : Text)
    {content : Text} (hcontent : ListsWith P content []) :
    ListsWith P (Markdown.codeElement attrs cls content) [] := by
  have hclass : ∀ a ∈ (if cls.isEmpty then [] else [("class".toList, cls)] : Attributes),
      IsPlainName a.1 := by
    have hname : IsPlainName "class".toList := by decide
    split
    · nofun
    · exact fun a ha => List.mem_singleton.1 ha ▸ hname
  have hcode : IsPlainName "code".toList := by decide
  have hpre : IsPlainName "pre".toList := by decide
  have hinner := hP.lists_element (Html.isPlainTag hcode (by decide) hclass) (by decide)
    (notMem_voidNames (by decide)) hcontent
  exact hP.lists_append (hP.lists_element (Html.isPlainTag hpre (by decide) h) (by decide)
    (notMem_voidNames (by decide)) hinner) hP.lists_newline

/-- A token lists its headings, wherever it stands. -/
theorem lists_renderToken {t : Token} (h : t.IsRenderable P) (afterHidden : Bool) (rest : List Token) :
    ListsWith P (Markdown.renderToken afterHidden t rest) t.shown := by
  have hgap : ListsWith P (if afterHidden then ['\n'] else []) [] := by
    split
    · exact hP.lists_newline
    · exact hP.lists_nil
  obtain ⟨kind, attrs, span, content, hidden⟩ := t
  have htag {name : Text} (hname : IsPlainName name) (hverbatim : Html.isVerbatim name = false) :
      IsPlainTag (name, attrs) := Html.isPlainTag hname hverbatim h.attrs
  have hdiv {content : Text} (hcontent : ListsWith P content []) :
      ListsWith P (Markdown.element "div" attrs content ++ ['\n']) [] :=
    hP.lists_append (hP.lists_element (htag (by decide) (by decide)) (by decide)
      (notMem_voidNames (by decide)) hcontent) hP.lists_newline
  unfold Markdown.renderToken
  dsimp only
  -- Of hidden tokens, which are all paragraphs, nothing is written.
  cases hidden with
  | true =>
    have hparagraph : kind.isParagraph := h.hidden rfl
    unfold Kind.isParagraph at hparagraph
    split at hparagraph
    · exact hP.lists_nil
    · exact hP.lists_nil
    · cases hparagraph
  | false =>
    rw [if_neg Bool.false_ne_true]
    cases kind with
    | opening c =>
      have htail : ListsWith P (if Markdown.hugsNext c rest then [] else ['\n']) [] := by
        split
        · exact hP.lists_nil
        · exact hP.lists_newline
      obtain ⟨hname, hverbatim, hlevel, hreserved⟩ := facts_of_container (c := c) h.level
      have hopen {hs : List (Nat × Option Text)}
          (hs' : ListsWith P (Markdown.openTag c.tag attrs) hs) :=
        hP.lists_append (hP.lists_append hgap hs') htail
      simp only [List.nil_append, List.append_nil] at hopen
      cases c with
      | heading level =>
        have := hP.lists_openTag (htag hname hverbatim) hreserved fun _ => h.nodup rfl
        rw [headingOf?, hlevel] at this
        exact hopen this
      | _ => exact hopen (hP.lists_openTag_other (htag hname hverbatim) hlevel hreserved)
    | closing c =>
      exact hP.lists_append (hP.lists_closeTag (facts_of_container (c := c) h.level).1) hP.lists_newline
    | inline children => exact hP.lists_flatMap fun c hc => lists_renderInline hP (h.children c hc)
    | indentedCode => exact lists_codeElement hP h.attrs [] (hP.lists_escape content)
    | fence info => exact lists_codeElement hP h.attrs [] (hP.lists_escape content)
    | math label => exact hdiv (hP.lists_escape content)
    | html => exact h.html content List.mem_cons_self
    | rule =>
      exact hP.lists_append (hP.lists_append hgap
        (hP.lists_emptyTag (htag (by decide) (by decide)) (by decide))) hP.lists_newline
    | diagram language => exact hdiv (hP.lists_escape content)
    | formula html => exact hdiv (h.written html List.mem_cons_self)
    | highlighted html cls =>
      exact lists_codeElement hP h.attrs cls (h.written html List.mem_cons_self)

/-- Tokens list their headings one after the other, whatever follows them. -/
theorem exists_lists_renderFrom {ts : List Token} (h : ∀ t ∈ ts, t.IsRenderable P)
    (afterHidden : Bool) (rest : List Token) : ∃ u hidden,
      Markdown.renderFrom afterHidden (ts ++ rest) = u ++ Markdown.renderFrom hidden rest ∧
        ListsWith P u (ts.flatMap Markdown.Token.shown) := by
  induction ts generalizing afterHidden with
  | nil => exact ⟨[], afterHidden, rfl, hP.lists_nil⟩
  | cons t ts ih =>
    obtain ⟨u, hidden, hrender, hlists⟩ :=
      ih (fun u hu => h u (List.mem_cons_of_mem _ hu)) t.hidden
    refine ⟨_, hidden, ?_, hP.lists_append
      (lists_renderToken hP (h t List.mem_cons_self) afterHidden (ts ++ rest)) hlists⟩
    rw [List.cons_append, Markdown.renderFrom, hrender, List.append_assoc]

/-- Tokens list their headings one after the other. -/
theorem lists_renderFrom {ts : List Token} (h : ∀ t ∈ ts, t.IsRenderable P) (afterHidden : Bool) :
    ListsWith P (Markdown.renderFrom afterHidden ts) (ts.flatMap Markdown.Token.shown) := by
  obtain ⟨u, hidden, hrender, hlists⟩ := exists_lists_renderFrom hP h afterHidden []
  have hnil : Markdown.renderFrom hidden [] = [] := rfl
  rw [List.append_nil, hnil, List.append_nil] at hrender
  exact hrender ▸ hlists

end

/-! ## Stages -/

/-- The raw HTML in a token. -/
def Markdown.Token.rawHtml (t : Token) : List Text :=
  t.ownHtml ++ t.children.flatMap Markdown.Inline.rawHtml

/-- Do the languages of diagrams make names of attributes? -/
def Config.HasPlainLanguages (c : Config) : Prop :=
  ∀ language ∈ c.diagramLanguages, IsPlainName ("data-".toList ++ language)

/-- The languages a configuration is read with make names of attributes. -/
theorem hasPlainLanguages_ofEnvironment (env : Config.Environment) :
    (Config.ofEnvironment env).HasPlainLanguages := by
  have hname : IsPlainName ("data-".toList ++ "mermaid".toList) := by decide
  exact fun language hlanguage => List.mem_singleton.1 hlanguage ▸ hname

/-- The attributes of a formula have plain names. -/
theorem isPlainName_formulaAttributes (display : Bool) :
    ∀ a ∈ Math.formulaAttributes display, IsPlainName a.1 := by
  have hclass : IsPlainName "class".toList := by decide
  have hmark : IsPlainName Math.markAttribute := by decide
  intro a ha
  rcases List.mem_cons.1 ha with rfl | ha
  · exact hclass
  · exact List.mem_singleton.1 ha ▸ hmark

/-- A formula has no headings. -/
theorem lists_formulaHtml {P : List Markup → Prop} (hP : PiecesClosed P) (expression : Text)
    (display : Bool) : ListsWith P (Math.formulaHtml expression display) [] := by
  unfold Math.formulaHtml
  dsimp only
  split
  · exact hP.lists_escape _
  · exact hP.lists_escape _

/-- A token of running text is renderable when its math has become a formula. -/
theorem Markdown.Inline.IsPlain.toFormula {P : List Markup → Prop} (hP : PiecesClosed P) {t : Inline}
    (h : t.IsPlain) (hraw : ∀ html ∈ t.rawHtml, ListsWith P html (rawHeadings html)) :
    t.toFormula.IsRenderable P := by
  unfold Markdown.Inline.toFormula
  split
  · next display _ =>
    refine ⟨isPlainName_formulaAttributes display, List.forall_mem_nil _, fun html hhtml => ?_⟩
    rw [List.mem_singleton.1 hhtml]
    exact lists_formulaHtml hP _ _
  · exact ⟨fun a ha => (h.attrs a ha).1, hraw, h.kind ▸ List.forall_mem_nil _⟩

/-- Making formulas leaves the headings of running text as they are. -/
theorem shown_toFormula (t : Inline) : t.toFormula.shown = t.shown := by
  unfold Markdown.Inline.toFormula
  split
  · next h => simp [Markdown.Inline.shown, h]
  · rfl

/-- A token of no heading, without running text and raw HTML, that is not hidden. -/
theorem Markdown.Token.isRenderable_of_kind {P : List Markup → Prop} {t : Token}
    (hlevel : t.kind.level? = none) (hchildren : t.children = []) (hown : t.ownHtml = []) (hhidden : t.hidden = false)
    (hattrs : ∀ a ∈ t.attrs, IsPlainName a.1)
    (hwritten : ∀ html ∈ t.kind.written, ListsWith P html []) : t.IsRenderable P where
  attrs := hattrs
  nodup h := by
    unfold Markdown.Token.headingLevel? at h
    split at h
    · next hk =>
      rw [hk] at hlevel
      cases hlevel
    · cases h
  level level h := by
    rw [hlevel] at h
    cases h
  children := hchildren ▸ List.forall_mem_nil _
  html := hown ▸ List.forall_mem_nil _
  written := hwritten
  hidden h := by
    rw [hhidden] at h
    cases h

/-- Parsed tokens become renderable, if their raw HTML has whole tags. -/
theorem Markdown.Token.IsPlain.replaced {P : List Markup → Prop} (hP : PiecesClosed P) {c : Config}
    (hc : c.HasPlainLanguages) {t : Token} (h : t.IsPlain) (hheading : t.IsPlainHeading)
    (hraw : ∀ html ∈ t.rawHtml, ListsWith P html (rawHeadings html)) :
    (t.replaced c).IsRenderable P := by
  obtain ⟨kind, attrs, span, content, hidden⟩ := t
  have hshown (hparagraph : kind.isParagraph = false) : hidden = false :=
    Bool.eq_false_iff.2 fun hh => Bool.eq_false_iff.1 hparagraph (h.hidden hh)
  -- Diagrams, formulas and highlighted code are made by these stages and not by the parser, so that
  -- the last three kinds do not occur.
  cases kind with
  | opening container =>
    refine ⟨h.attrs, fun hl => ?_, h.level, List.forall_mem_nil _, List.forall_mem_nil _,
      List.forall_mem_nil _, h.hidden⟩
    have hattrs : attrs = [] := hheading hl
    rw [hattrs]
    exact List.nodup_nil
  | closing container =>
    exact ⟨h.attrs, (fun hl => by cases hl), h.level, List.forall_mem_nil _, List.forall_mem_nil _,
      List.forall_mem_nil _, h.hidden⟩
  | inline children =>
    refine ⟨h.attrs, (fun hl => by cases hl), (fun _ hl => by cases hl), fun u hu => ?_,
      List.forall_mem_nil _, List.forall_mem_nil _, h.hidden⟩
    obtain ⟨v, hv, rfl⟩ := List.mem_map.1 hu
    exact (h.children v hv).toFormula hP fun html hhtml =>
      hraw html (List.mem_append_right _ (List.mem_flatMap.2 ⟨v, hv, hhtml⟩))
  | indentedCode =>
    refine Markdown.Token.isRenderable_of_kind rfl rfl rfl (hshown rfl) h.attrs fun html hhtml => ?_
    rw [List.mem_singleton.1 hhtml]
    exact lists_highlight hP c.highlight.highlighter content none c.highlight.detect
      c.highlight.codeClass
  | fence info =>
    rw [Markdown.Token.replaced_of_fence c rfl]
    split
    · next hlanguage =>
      refine Markdown.Token.isRenderable_of_kind rfl rfl rfl (hshown rfl) (fun a ha => ?_)
        (List.forall_mem_nil _)
      have hclass : IsPlainName "class".toList := by decide
      rcases List.mem_cons.1 ha with rfl | ha
      · exact hclass
      · exact List.mem_singleton.1 ha ▸ hc _ hlanguage
    · refine Markdown.Token.isRenderable_of_kind rfl rfl rfl (hshown rfl) h.attrs
        fun html hhtml => ?_
      rw [List.mem_singleton.1 hhtml]
      exact lists_highlight hP c.highlight.highlighter content (some (fenceLanguage info))
        c.highlight.detect c.highlight.codeClass
  | math label =>
    refine Markdown.Token.isRenderable_of_kind rfl rfl rfl (hshown rfl) (fun a ha => ?_)
      fun html hhtml => ?_
    · have hid : IsPlainName "id".toList := by decide
      rcases List.mem_append.1 ha with ha | ha
      · exact isPlainName_formulaAttributes true a ha
      · rcases label with _ | _ | ⟨d, more⟩
        · cases ha
        · cases ha
        · exact List.mem_singleton.1 ha ▸ hid
    · rw [List.mem_singleton.1 hhtml]
      exact lists_formulaHtml hP _ _
  | html =>
    exact ⟨h.attrs, (fun hl => by cases hl), (fun _ hl => by cases hl), List.forall_mem_nil _,
      fun html hhtml => hraw html (List.mem_append_left _ hhtml), List.forall_mem_nil _, h.hidden⟩
  | rule =>
    exact Markdown.Token.isRenderable_of_kind rfl rfl rfl (hshown rfl) h.attrs
      (List.forall_mem_nil _)
  | diagram language => cases h.kind
  | formula html => cases h.kind
  | highlighted html cls => cases h.kind

/-- The stages before the ids leave the headings as they are. -/
theorem shown_replaced (c : Config) {t : Token} (h : t.IsPlain) : (t.replaced c).shown = t.shown := by
  obtain ⟨kind, attrs, span, content, hidden⟩ := t
  cases kind with
  | fence info =>
    rw [Markdown.Token.replaced_of_fence c rfl]
    split
    · rfl
    · rfl
  | inline children =>
    have hchild (cs : List Inline) : (cs.map Markdown.Inline.toFormula).flatMap Markdown.Inline.shown =
        cs.flatMap Markdown.Inline.shown := by
      rw [List.flatMap_map]
      exact List.flatMap_congr fun u _ => shown_toFormula u
    exact hchild children
  | diagram language => cases h.kind
  | formula html => cases h.kind
  | highlighted html cls => cases h.kind
  | opening container => rfl
  | _ => rfl

/-! ## Attributes that stages set -/

/-- Setting an attribute with a plain name leaves a token renderable. -/
theorem Markdown.Token.IsRenderable.set {P : List Markup → Prop} {t : Token} (h : t.IsRenderable P)
    {name : Text}
    (hname : IsPlainName name) (value : Text) :
    Markdown.Token.IsRenderable P { t with attrs := t.attrs.set name value } where
  attrs := Html.forall_names_set h.attrs hname value
  nodup hl := Html.nodup_names_set (h.nodup hl) name value
  level := h.level
  children := h.children
  html := h.html
  written := h.written
  hidden := h.hidden

/-- Setting ids leaves tokens renderable. -/
theorem isRenderable_assignIds {P : List Markup → Prop} (s : Slugger) {ts : List Token}
    (h : ∀ t ∈ ts, t.IsRenderable P) : ∀ t ∈ assignIds s ts, t.IsRenderable P := by
  have hid : IsPlainName "id".toList := by decide
  induction ts generalizing s with
  | nil => exact List.forall_mem_nil _
  | cons u rest ih =>
    have hu := h u List.mem_cons_self
    have hrest (s : Slugger) := ih s fun t ht => h t (List.mem_cons_of_mem _ ht)
    rw [assignIds]
    split
    · intro t ht
      rcases List.mem_cons.1 ht with rfl | ht
      · exact hu.set hid _
      · exact hrest _ t ht
    · intro t ht
      rcases List.mem_cons.1 ht with rfl | ht
      · exact hu
      · exact hrest s t ht

/-- The attribute that holds a source line has a plain name. -/
theorem isPlainName_sourceLine : IsPlainName sourceLineAttribute := by decide

/-- Running text with its source lines is renderable and has the same headings. -/
theorem isRenderable_markInlineLines {P : List Markup → Prop} (line : Nat) {cs : List Inline}
    (h : ∀ c ∈ cs, c.IsRenderable P) : ∀ c ∈ markInlineLines line cs, c.IsRenderable P := by
  induction cs generalizing line with
  | nil => exact List.forall_mem_nil _
  | cons u rest ih =>
    have hu := h u List.mem_cons_self
    have hrest (line : Nat) := ih line fun c hc => h c (List.mem_cons_of_mem _ hc)
    have hset : Markdown.Inline.IsRenderable P
        { u with attrs := u.attrs.set sourceLineAttribute (Text.ofNat line) } :=
      ⟨Html.forall_names_set hu.attrs isPlainName_sourceLine _, hu.html, hu.written⟩
    intro c hc
    rw [markInlineLines] at hc
    split at hc
    · exact (List.mem_cons.1 hc).elim (fun heq => heq ▸ hu) (hrest (line + 1) c)
    · exact (List.mem_cons.1 hc).elim (fun heq => heq ▸ hu) (hrest (line + 1) c)
    · rcases List.mem_cons.1 hc with rfl | hc
      · split
        · exact hset
        · exact hu
      · exact hrest line c hc

/-- Source lines change no heading in running text. -/
theorem shown_markInlineLines (line : Nat) (cs : List Inline) :
    (markInlineLines line cs).flatMap Markdown.Inline.shown = cs.flatMap Markdown.Inline.shown := by
  induction cs generalizing line with
  | nil => rfl
  | cons u rest ih =>
    rw [markInlineLines]
    split
    · rw [List.flatMap_cons, List.flatMap_cons, ih]
    · rw [List.flatMap_cons, List.flatMap_cons, ih]
    · rw [List.flatMap_cons, List.flatMap_cons, ih]
      split
      · rfl
      · rfl

/-- Setting its source line leaves a token renderable. -/
theorem Markdown.Token.IsRenderable.withLine {P : List Markup → Prop} {t : Token}
    (h : t.IsRenderable P) : t.withLine.IsRenderable P := by
  unfold Markdown.Token.withLine
  split
  · exact h
  · next span _ =>
    dsimp only
    split
    · next children hk =>
      have hchildren : ∀ c ∈ children, c.IsRenderable P :=
        Markdown.Token.children_of_kind hk ▸ h.children
      refine ⟨h.attrs, (fun hl => by cases hl), (fun _ hl => by cases hl),
        isRenderable_markInlineLines (span.first + 1) hchildren, List.forall_mem_nil _,
        List.forall_mem_nil _, fun hhidden => ?_⟩
      have hparagraph := h.hidden hhidden
      rw [hk] at hparagraph
      cases hparagraph
    · exact h
    · exact h
    · exact h.set isPlainName_sourceLine _

/-- Source lines leave the headings as they are. -/
theorem shown_withLine (t : Token) : t.withLine.shown = t.shown := by
  unfold Markdown.Token.withLine
  split
  · rfl
  · next span _ =>
    dsimp only
    split
    · next children hk =>
      rw [Markdown.Token.shown, Markdown.Token.shown, hk]
      exact shown_markInlineLines _ _
    · rfl
    · rfl
    · have hne : sourceLineAttribute ≠ ['i', 'd'] := by decide
      rw [Markdown.Token.shown, Markdown.Token.shown]
      dsimp only
      rw [Attributes.get?_set_of_ne _ _ hne]

/-! ## Parsed texts -/

/-- The raw HTML of tokens has whole tags. -/
def HasWholeHtml (ts : List Token) : Prop :=
  ∀ html ∈ ts.flatMap Markdown.Token.rawHtml, Html.IsWhole html

/-- If there is no raw HTML, all of it has whole tags. -/
theorem hasWholeHtml_of_eq_nil {ts : List Token} (h : ts.flatMap Markdown.Token.rawHtml = []) :
    HasWholeHtml ts := by
  rw [HasWholeHtml, h]
  exact List.forall_mem_nil _

section

variable {P : List Markup → Prop} (hP : PiecesClosed P) {c : Config} (hc : c.HasPlainLanguages)
  {t : Text} (h : ∀ html ∈ (Markdown.parse t).flatMap Markdown.Token.rawHtml,
    ListsWith P html (rawHeadings html))
include hP hc h

/-- The tokens of a text are renderable after code, math and diagrams have been replaced. -/
theorem isRenderable_replaceTokens :
    ∀ tok ∈ replaceTokens c (Markdown.parse t), tok.IsRenderable P := by
  intro tok htok
  obtain ⟨u, hu, rfl⟩ := List.mem_map.1 htok
  exact (Markdown.isPlain_parse t u hu).replaced hP hc (Markdown.plainHeadings_parse t u hu)
    fun html hhtml => h html (List.mem_flatMap.2 ⟨u, hu, hhtml⟩)

/-- The tokens of a text are renderable after the stages of a block. -/
theorem isRenderable_blockStages : ∀ tok ∈ blockStages c (Markdown.parse t), tok.IsRenderable P := by
  intro tok htok
  obtain ⟨u, hu, rfl⟩ := List.mem_map.1 htok
  exact (isRenderable_replaceTokens hP hc h u hu).withLine

/-- The tokens of a text are renderable after the stages of a document. -/
theorem isRenderable_documentStages :
    ∀ tok ∈ documentStages c (Markdown.parse t), tok.IsRenderable P := by
  intro tok htok
  obtain ⟨u, hu, rfl⟩ := List.mem_map.1 htok
  exact (isRenderable_assignIds {} (isRenderable_replaceTokens hP hc h) u hu).withLine

end

/-- Raw HTML with whole tags lists its headings. -/
theorem HasWholeHtml.lists {ts : List Token} (h : HasWholeHtml ts) :
    ∀ html ∈ ts.flatMap Markdown.Token.rawHtml, ListsWith (fun _ => True) html (rawHeadings html) := by
  intro html hhtml
  obtain ⟨tags, htags⟩ := h html hhtml
  obtain ⟨pieces, hspelled, -⟩ := htags.exists_spelled
  exact lists_rawHeadings ⟨pieces, hspelled, trivial⟩

/-- A block lists the headings of its tokens. -/
theorem lists_blockStages {c : Config} (hc : c.HasPlainLanguages) {t : Text}
    (h : HasWholeHtml (Markdown.parse t)) : Lists (Markdown.render (blockStages c (Markdown.parse t)))
      ((Markdown.parse t).flatMap Markdown.Token.shown) := by
  have hlists : Lists (Markdown.render (blockStages c (Markdown.parse t)))
      ((blockStages c (Markdown.parse t)).flatMap Markdown.Token.shown) :=
    lists_iff.2 (lists_renderFrom Html.piecesClosed_true
      (isRenderable_blockStages Html.piecesClosed_true hc h.lists) false)
  have hshown : (blockStages c (Markdown.parse t)).flatMap Markdown.Token.shown =
      (Markdown.parse t).flatMap Markdown.Token.shown := by
    rw [blockStages, replaceTokens, List.map_map, List.flatMap_map]
    exact List.flatMap_congr fun u hu =>
      (shown_withLine _).trans (shown_replaced c (Markdown.isPlain_parse t u hu))
  exact hshown ▸ hlists

/-- The headings of tokens with the ids of one numbering; those in raw HTML keep theirs. -/
def numberedTokens : Slugger → List Token → List (Nat × Option Text)
  | _, [] => []
  | s, t :: rest =>
    match t.headingLevel? with
    | some level =>
      if Text.allBlank (headingText rest) then (level, none) :: numberedTokens s rest
      else (level, some (s.issue (headingText rest)).1) ::
        numberedTokens (s.issue (headingText rest)).2 rest
    | none => t.shown ++ numberedTokens s rest

/-- The opening token of a heading shows that heading alone, with the id it has. -/
theorem shown_of_headingLevel? {t : Token} {level : Nat} (h : t.headingLevel? = some level) :
    t.shown = [(level, t.attrs.get? ['i', 'd'])] := by
  unfold Markdown.Token.headingLevel? at h
  split at h
  · next hk =>
    rw [Markdown.Token.shown, hk, Option.some.inj h]
  · cases h

/-- Setting ids numbers the headings, and those in raw HTML keep theirs. -/
theorem shown_assignIds (c : Config) (s : Slugger) {ts : List Token} (hplain : ∀ t ∈ ts, t.IsPlain)
    (hheadings : ∀ t ∈ ts, t.IsPlainHeading) :
    (assignIds s (replaceTokens c ts)).flatMap Markdown.Token.shown = numberedTokens s ts := by
  induction ts generalizing s with
  | nil => rfl
  | cons t rest ih =>
    have hrest (s : Slugger) := ih s (fun u hu => hplain u (List.mem_cons_of_mem _ hu))
      fun u hu => hheadings u (List.mem_cons_of_mem _ hu)
    have hcons : replaceTokens c (t :: rest) = t.replaced c :: replaceTokens c rest := rfl
    have hshown := shown_replaced c (hplain t List.mem_cons_self)
    rw [hcons, assignIds, numberedTokens, headingText_replaceTokens, t.headingLevel?_replaced]
    cases hl : t.headingLevel? with
    | none =>
      rw [if_neg (by simp), List.flatMap_cons, hshown, hrest]
    | some level =>
      have hattrs : t.attrs = [] := hheadings t List.mem_cons_self (by rw [hl]; rfl)
      dsimp only
      by_cases hb : Text.allBlank (headingText rest)
      · have hnone : t.shown = [(level, none)] := by rw [shown_of_headingLevel? hl, hattrs]; rfl
        rw [if_neg (by simp [hb]), if_pos hb, List.flatMap_cons, hshown, hnone, hrest]
        rfl
      · have hlevel (attrs : Attributes) :
            ({ t with attrs } : Token).headingLevel? = some level := hl
        have hsame : t.replaced c = t := t.replaced_of_headingLevel? c (by rw [hl]; rfl)
        have hid (slug : Text) : (t.attrs.set "id" slug).get? ['i', 'd'] = some slug :=
          Attributes.get?_set_self t.attrs "id" slug
        rw [if_pos (by simp [hb]), if_neg hb, List.flatMap_cons, hsame,
          shown_of_headingLevel? (hlevel _), hrest, hid]
        rfl

/-- A document lists the headings of its tokens with the ids of one numbering. -/
theorem lists_documentStages {c : Config} (hc : c.HasPlainLanguages) {t : Text}
    (h : HasWholeHtml (Markdown.parse t)) :
    Lists (Markdown.render (documentStages c (Markdown.parse t))) (numberedTokens {} (Markdown.parse t)) := by
  have hlists : Lists (Markdown.render (documentStages c (Markdown.parse t)))
      ((documentStages c (Markdown.parse t)).flatMap Markdown.Token.shown) :=
    lists_iff.2 (lists_renderFrom Html.piecesClosed_true
      (isRenderable_documentStages Html.piecesClosed_true hc h.lists) false)
  have hshown : (documentStages c (Markdown.parse t)).flatMap Markdown.Token.shown =
      numberedTokens {} (Markdown.parse t) := by
    rw [← shown_assignIds c {} (Markdown.isPlain_parse t) (Markdown.plainHeadings_parse t), documentStages,
      List.flatMap_map]
    exact List.flatMap_congr fun u _ => shown_withLine u
  exact hshown ▸ hlists

end LiveMarkdown
