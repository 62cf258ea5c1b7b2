import LiveMarkdown.Proofs.Markdown.Rendered
import LiveMarkdown.Proofs.Preview.Marked

/-!
# What a writer embeds in a page

Code, diagrams and formulas are text that the writer has others show. Each of them becomes the content of
an element, escaped once: nothing in it begins or ends a tag or a value, and read as a page it is what
the writer has put there (`StandsFor`). The same holds of the value that repeats the source of a diagram,
and of the class that names the language of code.

A page is the tokens of its text, one after the other, so that this can be said token by token
(`Token.Embeds`, `Shows`). The stages after those that replace tokens only set attributes
(`Token.IsDressed`).
-/

namespace LiveMarkdown

open Html (Attributes decodeAttribute escape)
open Markdown (Inline Kind Token element render renderFrom renderToken)

/-! ## Escaped text -/

/-- `x` is written in a page for the text `t`: nothing in it begins or ends a tag or a value, and reading
its references gives `t`. -/
structure StandsFor (x t : Text) : Prop where
  inert : ∀ c ∈ x, c ≠ '<' ∧ c ≠ '>' ∧ c ≠ '"'
  decoded : decodeAttribute x = t

/-- A character is escaped without one that begins or ends a tag or a value. -/
theorem inert_escapeChar (c : Char) : ∀ d ∈ Html.escapeChar c, d ≠ '<' ∧ d ≠ '>' ∧ d ≠ '"' :=
  Html.escapeChar_cases (P := fun _ written => ∀ d ∈ written, d ≠ '<' ∧ d ≠ '>' ∧ d ≠ '"')
    (by simp) (by simp) (by simp) (by simp)
    (fun _ _ hlt hgt hquote => List.forall_mem_singleton.2 ⟨hlt, hgt, hquote⟩) c

/-- Escaped text stands for the text. -/
theorem standsFor_escape (t : Text) : StandsFor (escape t) t where
  inert d hd := by
    obtain ⟨c, -, hc⟩ := List.mem_flatMap.1 hd
    exact inert_escapeChar c d hc
  decoded := Html.decodeAttribute_flatMap Html.decodeFrom_escapeChar t

/-- A tag with these attributes has one of this name, and the first one is written with a value that
stands for `v`. -/
def IsWrittenWith (attrs : Attributes) (name v : Text) : Prop :=
  ∃ (before after : Attributes) (value : Text),
    attrs.toText = before.toText ++ (' ' :: escape name ++ ['=', '"'] ++ value ++ ['"']) ++ after.toText ∧
      (∀ a ∈ before, a.1 ≠ name) ∧ StandsFor value v

/-- An attribute that is looked up is written with its value. -/
theorem isWrittenWith_of_get? {attrs : Attributes} {name v : Text} (h : attrs.get? name = some v) :
    IsWrittenWith attrs name v := by
  obtain ⟨a, ha, rfl⟩ := Option.map_eq_some_iff.1 h
  obtain ⟨hname, before, after, rfl, hbefore⟩ := List.find?_eq_some_iff_append.1 ha
  obtain rfl : a.1 = name := by simpa using hname
  refine ⟨before, after, escape a.2, ?_, fun b hb => by simpa using hbefore b hb, standsFor_escape a.2⟩
  rw [Attributes.toText, List.flatMap_append, List.flatMap_cons, List.append_assoc]
  rfl

/-! ## Elements with embedded content -/

namespace Highlight

/-- Code that is taken for no language is shown as it is. -/
theorem highlight_of_find? {h : Highlighter} {code : Text} {name : Option Text} {detect : Bool}
    (hnone : h.find? code name detect = none) (codeClass : Text) :
    highlight h code name detect codeClass =
      (escape code, (name.filter (!·.isEmpty)).elim [] ("language-".toList ++ ·)) := by
  unfold highlight
  dsimp only
  rw [hnone]

end Highlight

/-- Code as it is shown in a page, with its language if it has one. -/
def IsCode (language code x : Text) : Prop :=
  ∃ attrs classes inner, x = element "pre" attrs (element "code" classes inner) ++ ['\n'] ∧
    StandsFor inner code ∧
    if language = [] then classes = [] else IsWrittenWith classes "class" ("language-".toList ++ language)

/-- A diagram as it is handed to whoever draws it: twice, as the text of an element and as a value, unless
the name of the value is one of those that a later stage sets. -/
def IsDiagram (names : List Text) (language source x : Text) : Prop :=
  ∃ attrs inner, x = element "div" attrs inner ++ ['\n'] ∧ StandsFor inner source ∧
    ("data-".toList ++ language ∉ names → IsWrittenWith attrs ("data-".toList ++ language) source)

/-- A formula as it is handed to the typesetter. -/
def IsFormula (tag formula x : Text) : Prop :=
  ∃ attrs inner, x = element tag attrs inner ∧ StandsFor inner formula

/-- An expression between the delimiters that the typesetter looks for. -/
def Math.delimited (expression : Text) (display : Bool) : Text :=
  if display then '\\' :: '[' :: Text.trim expression ++ ['\\', ']']
  else '\\' :: '(' :: Text.trim expression ++ ['\\', ')']

/-- A formula is the expression between its delimiters, escaped. -/
theorem Math.formulaHtml_eq (expression : Text) (display : Bool) :
    formulaHtml expression display = escape (delimited expression display) := by
  unfold formulaHtml delimited
  dsimp only
  split
  · rfl
  · rfl

/-- Running text in the page: its math is shown as formulas. -/
def Markdown.Inline.Embeds (t : Inline) (x : Text) : Prop :=
  ∀ display, t.kind = .math display → IsFormula "span" (Math.delimited t.content display) x

/-- What becomes of a token in the page, if it embeds something: code that is taken for no language is
shown as it is, a diagram with its labels marked, and math as a formula. Later stages set attributes with
these names. -/
def Markdown.Token.Embeds (c : Config) (names : List Text) (t : Token) (x : Text) : Prop :=
  match t.kind with
  | .fence info =>
    let language := fenceLanguage info
    if language ∈ c.diagramLanguages then
      IsDiagram names language (Diagram.wrap c.icons (Text.dropEndWhile (· = '\n') t.content)) x
    else
      c.highlight.highlighter.find? t.content (some language) c.highlight.detect = none →
        IsCode language t.content x
  | .indentedCode =>
    c.highlight.highlighter.find? t.content none c.highlight.detect = none → IsCode [] t.content x
  | .math _ => ∃ formula, x = formula ++ ['\n'] ∧ IsFormula "div" (Math.delimited t.content true) formula
  | .inline children => ∃ xs : List Text, x = xs.flatten ∧ List.Forall₂ Markdown.Inline.Embeds children xs
  | _ => True

/-- A page has what is written for these tokens, one after the other. -/
def Shows (c : Config) (names : List Text) (ts : List Token) (page : Text) : Prop :=
  ∃ xs : List Text, page = xs.flatten ∧ List.Forall₂ (Markdown.Token.Embeds c names) ts xs

/-- Of these tokens only paragraphs are hidden. -/
def HidesParagraphs (ts : List Token) : Prop := ∀ t ∈ ts, t.hidden → t.kind.isParagraph

instance (ts : List Token) : Decidable (HidesParagraphs ts) :=
  inferInstanceAs (Decidable (∀ t ∈ ts, t.hidden → t.kind.isParagraph))

/-- Of the tokens of a text only paragraphs are hidden. -/
theorem hidesParagraphs_parse (t : Text) : HidesParagraphs (Markdown.parse t) :=
  fun tok htok => (Markdown.isPlain_parse t tok htok).hidden

/-! ## Stages that only set attributes -/

/-- Running text that is the same as other running text but for its attributes. -/
def Markdown.Inline.IsDressed (t' t : Inline) : Prop := t'.kind = t.kind ∧ t'.content = t.content

/-- A token that is the same as another one but for attributes; if it is a diagram, only those with these
names are others. -/
structure Markdown.Token.IsDressed (names : List Text) (t' t : Token) : Prop where
  hidden : t'.hidden = t.hidden
  content : t'.content = t.content
  kind : t'.kind = t.kind ∨ ∃ children' children, t'.kind = .inline children' ∧ t.kind = .inline children ∧
    List.Forall₂ Markdown.Inline.IsDressed children' children
  attrs : ∀ language, t.kind = .diagram language → ∀ name ∉ names, t'.attrs.get? name = t.attrs.get? name

namespace Markdown.Token

/-- A token is dressed as itself. -/
theorem isDressed_self (names : List Text) (t : Token) : IsDressed names t t :=
  ⟨rfl, rfl, .inl rfl, fun _ _ _ _ => rfl⟩

/-- Setting attributes leaves the kind of a token that is no running text. -/
theorem IsDressed.kind_eq {names : List Text} {t' t : Token} (h : IsDressed names t' t)
    (hinline : ∀ children, t.kind ≠ .inline children) : t'.kind = t.kind := by
  rcases h.kind with hkind | ⟨_, children, -, hkind, -⟩
  · exact hkind
  · exact absurd hkind (hinline children)

end Markdown.Token

/-- A token that is marked has other attributes only. -/
theorem Markdown.Token.IsMarked.isDressed {t' t : Token} (h : t'.IsMarked t) :
    t'.IsDressed [sourceLineAttribute] t where
  hidden := h.hidden
  content := h.content
  kind := by
    have hmarked := h.kind
    cases hkind : t.kind with
    | inline children =>
      rw [hkind] at hmarked
      obtain ⟨children', hkind', hchildren⟩ := hmarked
      exact .inr ⟨children', children, hkind', rfl, hchildren.imp fun _ _ hchild =>
        ⟨hchild.kind, hchild.content⟩⟩
    | _ => exact .inl (hkind ▸ hmarked.eq (by rw [hkind]; nofun))
  attrs language hkind name hname :=
    h.attrs name (List.ne_of_not_mem_cons hname) fun _ => by rw [headingLevel?, hkind]

/-- Setting the source line sets one attribute. -/
theorem isDressed_withLine (t : Token) :
    Markdown.Token.IsDressed [sourceLineAttribute] t.withLine t :=
  (isMarked_withLine t.attrs fun _ _ => rfl).isDressed

/-- Ids and source lines only set attributes, and no diagram gets an id. -/
theorem isDressed_assignIds (s : Slugger) (ts : List Token) :
    List.Forall₂ (Markdown.Token.IsDressed [sourceLineAttribute])
      ((assignIds s ts).map Markdown.Token.withLine) ts :=
  (isMarked_assignIds s ts).imp fun _ _ h => h.isDressed

/-! ## Tokens that are replaced -/

namespace Markdown.Token

variable {c : Config} {t : Token}

/-- Replacing code, math and diagrams hides no token. -/
theorem hidden_replaced (c : Config) (t : Token) : (t.replaced c).hidden = t.hidden := by
  obtain ⟨kind, attrs, span, content, hidden⟩ := t
  cases kind with
  | fence info =>
    rw [replaced_of_fence c rfl]
    split
    · rfl
    · rfl
  | _ => rfl

/-- A fence in the language of diagrams becomes a diagram, its labels marked. -/
theorem replaced_diagram {info : Text} (hkind : t.kind = .fence info)
    (h : fenceLanguage info ∈ c.diagramLanguages) : t.replaced c =
      { t with
        kind := .diagram (fenceLanguage info)
        attrs := [("class", fenceLanguage info),
          ("data-" ++ fenceLanguage info,
            Diagram.wrap c.icons (Text.dropEndWhile (· = '\n') t.content))]
        content := Diagram.wrap c.icons (Text.dropEndWhile (· = '\n') t.content) } := by
  rw [replaced_of_fence c hkind, if_pos h]

/-- A fence whose code is taken for no language becomes the code as it is, with the language that
was named. -/
theorem kind_replaced_fence {info : Text} (hkind : t.kind = .fence info)
    (h : fenceLanguage info ∉ c.diagramLanguages)
    (hnone : c.highlight.highlighter.find? t.content (some (fenceLanguage info)) c.highlight.detect =
      none) :
    (t.replaced c).kind = .highlighted (escape t.content)
      (((some (fenceLanguage info)).filter (!·.isEmpty)).elim [] ("language-".toList ++ ·)) := by
  rw [replaced_of_fence c hkind, if_neg h, toHighlighted, hkind]
  dsimp only
  rw [Highlight.highlight_of_find? hnone]

/-- Indented code that is taken for no language becomes the code as it is. -/
theorem kind_replaced_indentedCode (hkind : t.kind = .indentedCode)
    (hnone : c.highlight.highlighter.find? t.content none c.highlight.detect = none) :
    (t.replaced c).kind = .highlighted (escape t.content) [] := by
  obtain ⟨kind, attrs, span, content, hidden⟩ := t
  cases hkind
  unfold replaced toDiagram toFormula toHighlighted
  dsimp only
  rw [Highlight.highlight_of_find? hnone]
  rfl

/-- Display math becomes a formula. -/
theorem kind_replaced_math {label : Option Text} (hkind : t.kind = .math label) :
    (t.replaced c).kind = .formula (escape (Math.delimited t.content true)) := by
  obtain ⟨kind, attrs, span, content, hidden⟩ := t
  cases hkind
  rfl

/-- The math in running text becomes formulas. -/
theorem kind_replaced_inline {children : List Inline} (hkind : t.kind = .inline children) :
    (t.replaced c).kind = .inline (children.map Inline.toFormula) := by
  obtain ⟨kind, attrs, span, content, hidden⟩ := t
  cases hkind
  rfl

end Markdown.Token

/-! ## Pages -/

/-- Escaped code in its element is the code, with its language if one is named. -/
theorem isCode_codeElement (attrs : Attributes) (language code : Text) :
    IsCode language code (Markdown.codeElement attrs
      (((some language).filter (!·.isEmpty)).elim [] ("language-".toList ++ ·)) (escape code)) := by
  refine ⟨attrs, _, escape code, rfl, standsFor_escape code, ?_⟩
  cases language with
  | nil => rfl
  | cons d more => exact isWrittenWith_of_get? rfl

/-- The source of a diagram is looked up under the name of its language. -/
theorem get?_data (cls language source : Text) :
    Attributes.get? [("class", cls), ("data-" ++ language, source)] ("data-".toList ++ language) =
      some source := by
  rw [Attributes.get?, List.find?_cons_of_neg (by simp), List.find?_cons_of_pos (by simp)]
  rfl

/-- Math in running text is shown as a formula, with whatever attributes. -/
theorem embeds_renderInline {t t' : Inline} (h : t'.IsDressed t.toFormula) :
    t.Embeds (Markdown.renderInline t') := by
  intro display hkind
  have hformula : t'.kind = .formula (escape (Math.delimited t.content display)) := by
    rw [h.1, Markdown.Inline.toFormula, hkind]
    dsimp only
    rw [Math.formulaHtml_eq]
  refine ⟨t'.attrs, _, ?_, standsFor_escape _⟩
  rw [Markdown.renderInline, hformula]

/-- Running text embeds its math as formulas. -/
theorem embeds_renderInlines {ts ts' : List Inline}
    (h : List.Forall₂ Markdown.Inline.IsDressed ts' (ts.map Markdown.Inline.toFormula)) :
    ∃ xs : List Text, Markdown.renderInlines ts' = xs.flatten ∧
      List.Forall₂ Markdown.Inline.Embeds ts xs := by
  refine ⟨ts'.map Markdown.renderInline, by rw [Markdown.renderInlines, List.flatMap_def], ?_⟩
  rw [List.forall₂_map_right_iff] at h
  rw [List.forall₂_map_right_iff]
  exact h.flip.imp fun t t' hdressed => embeds_renderInline hdressed

/-- What is written for a token embeds what is to be embedded, whatever attributes are set later. -/
theorem embeds_renderToken {c : Config} {names : List Text} {t t' : Token}
    (hshown : t.hidden → t.kind.isParagraph)
    (h : Markdown.Token.IsDressed names t' (t.replaced c)) (afterHidden : Bool) (rest : List Token) :
    t.Embeds c names (renderToken afterHidden t' rest) := by
  have hvisible (hparagraph : t.kind.isParagraph = false) : t'.hidden = false := by
    rw [h.hidden, t.hidden_replaced c]
    exact Bool.eq_false_iff.2 fun hhidden => Bool.eq_false_iff.1 hparagraph (hshown hhidden)
  unfold Markdown.Token.Embeds
  -- Each kind is followed through the stages: what it is replaced by, that attributes leave this as
  -- it is, and what is written for it.
  cases hkind : t.kind with
  | fence info =>
    have hhidden := hvisible (by rw [hkind]; rfl)
    dsimp only
    split
    · next hlanguage =>
      have hreplaced := Markdown.Token.replaced_diagram hkind hlanguage
      rw [hreplaced] at h
      have hkind' := h.kind_eq nofun
      rw [renderToken, hhidden, if_neg Bool.false_ne_true, hkind', h.content]
      refine ⟨t'.attrs, _, rfl, standsFor_escape _, fun hname => isWrittenWith_of_get? ?_⟩
      rw [h.attrs _ rfl _ hname]
      exact get?_data _ _ _
    · next hlanguage =>
      intro hnone
      have hreplaced := Markdown.Token.kind_replaced_fence hkind hlanguage hnone
      have hkind' := h.kind_eq (by rw [hreplaced]; nofun)
      rw [renderToken, hhidden, if_neg Bool.false_ne_true, hkind', hreplaced]
      exact isCode_codeElement _ _ _
  | indentedCode =>
    have hhidden := hvisible (by rw [hkind]; rfl)
    intro hnone
    have hreplaced := Markdown.Token.kind_replaced_indentedCode hkind hnone
    have hkind' := h.kind_eq (by rw [hreplaced]; nofun)
    rw [renderToken, hhidden, if_neg Bool.false_ne_true, hkind', hreplaced]
    exact isCode_codeElement _ [] _
  | math label =>
    have hhidden := hvisible (by rw [hkind]; rfl)
    have hreplaced : (t.replaced c).kind = _ := Markdown.Token.kind_replaced_math hkind
    have hkind' := h.kind_eq (by rw [hreplaced]; nofun)
    rw [renderToken, hhidden, if_neg Bool.false_ne_true, hkind', hreplaced]
    exact ⟨_, rfl, t'.attrs, _, rfl, standsFor_escape _⟩
  | inline children =>
    have hhidden := hvisible (by rw [hkind]; rfl)
    have hreplaced : (t.replaced c).kind = _ := Markdown.Token.kind_replaced_inline hkind
    obtain ⟨children', hkind', hdressed⟩ : ∃ children', t'.kind = .inline children' ∧
        List.Forall₂ Markdown.Inline.IsDressed children' (children.map Markdown.Inline.toFormula) := by
      rcases h.kind with hsame | ⟨children', old, hkind', hold, hdressed⟩
      · exact ⟨_, hsame.trans hreplaced, List.forall₂_same.2 fun _ _ => ⟨rfl, rfl⟩⟩
      · obtain rfl := Kind.inline.inj (hold.symm.trans hreplaced)
        exact ⟨children', hkind', hdressed⟩
    rw [renderToken, hhidden, if_neg Bool.false_ne_true, hkind']
    exact embeds_renderInlines hdressed
  | _ => trivial

/-- A page is what is written for its tokens, one after the other. -/
theorem shows_renderFrom {c : Config} {names : List Text} {ts ts' : List Token} (hshown : HidesParagraphs ts)
    (h : List.Forall₂ (Markdown.Token.IsDressed names) ts' (replaceTokens c ts)) (afterHidden : Bool) :
    Shows c names ts (renderFrom afterHidden ts') := by
  induction ts generalizing ts' afterHidden with
  | nil =>
    obtain - | - := h
    exact ⟨[], rfl, .nil⟩
  | cons t rest ih =>
    obtain ⟨ht, hrest⟩ := List.forall_mem_cons.1 hshown
    cases h with
    | @cons t' _ more _ hfirst hmore =>
      obtain ⟨xs, hxs, hembeds⟩ := ih hrest hmore t'.hidden
      refine ⟨renderToken afterHidden t' more :: xs, ?_,
        .cons (embeds_renderToken ht hfirst afterHidden more) hembeds⟩
      rw [renderFrom, hxs, List.flatten_cons]

/-- In the page of a block or document, the tokens being written one after the other, each embeds what
the writer has put there: code that is taken for no language, the source of a diagram with its labels
marked, as text and as a value, and formulas between their delimiters. All of this is written without a
character that begins or ends a tag or a value, and is read as it is meant. The stages that come after
those that replace tokens keep it so; they only set the source line, which would be the value of a diagram
in a language of that name. -/
theorem embedded_read_back (c : Config) :
    (∀ t : Text, HidesParagraphs (Markdown.parse t)) ∧
    ∀ ts : List Token, HidesParagraphs ts →
      Shows c [] ts (render (replaceTokens c ts)) ∧
      Shows c [sourceLineAttribute] ts (render (blockStages c ts)) ∧
      Shows c [sourceLineAttribute] ts (render (documentStages c ts)) := by
  refine ⟨hidesParagraphs_parse, fun ts hshown => ⟨?_, ?_, ?_⟩⟩
  · exact shows_renderFrom hshown (List.forall₂_same.2 fun t _ => t.isDressed_self []) false
  · refine shows_renderFrom hshown ?_ false
    rw [blockStages, List.forall₂_map_left_iff]
    exact List.forall₂_same.2 fun t _ => isDressed_withLine t
  · exact shows_renderFrom hshown (isDressed_assignIds {} (replaceTokens c ts)) false

/-- A diagram whose label has a character that begins a tag, and code in a language that is not known. -/
theorem embedded_read_back_label :
    HidesParagraphs [{ kind := .fence "mermaid", content := "A[x<y]\n" },
      { kind := .fence "zz", content := "<b>" }] ∧
    Highlight.Highlighter.known.find? "<b>" (some "zz".toList) true = none ∧
    ∃ x y : Text, render (blockStages {} [{ kind := .fence "mermaid", content := "A[x<y]\n" },
        { kind := .fence "zz", content := "<b>" }]) = x ++ y ∧
      IsDiagram [sourceLineAttribute] "mermaid" "A[\"\x60x<y\x60\"]" x ∧ IsCode "zz" "<b>" y := by
  have hshown : HidesParagraphs [{ kind := .fence "mermaid", content := "A[x<y]\n" },
      { kind := .fence "zz", content := "<b>" }] := by decide
  have hnone : Highlight.Highlighter.known.find? "<b>" (some "zz".toList) true = none := by
    decide +kernel
  have hdiagram : fenceLanguage "mermaid" = "mermaid".toList := by decide +kernel
  have hother : fenceLanguage "zz" = "zz".toList := by decide +kernel
  have hsource : Diagram.wrap ({} : Config).icons (Text.dropEndWhile (· = '\n') "A[x<y]\n") =
      "A[\"\x60x<y\x60\"]".toList := by decide +kernel
  obtain ⟨xs, hpage, hembeds⟩ := ((embedded_read_back {}).2 _ hshown).2.1
  obtain - | ⟨hfirst, - | ⟨hsecond, - | -⟩⟩ := hembeds
  rw [List.flatten_cons, List.flatten_cons, List.flatten_nil, List.append_nil] at hpage
  refine ⟨hshown, hnone, _, _, hpage, ?_, ?_⟩
  · unfold Markdown.Token.Embeds at hfirst
    dsimp only at hfirst
    rw [hdiagram, if_pos (by decide), hsource] at hfirst
    exact hfirst
  · unfold Markdown.Token.Embeds at hsecond
    dsimp only at hsecond
    rw [hother, if_neg (by decide)] at hsecond
    exact hsecond hnone

end LiveMarkdown
