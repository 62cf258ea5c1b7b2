import LiveMarkdown.Contents.Outline
import LiveMarkdown.Heading.Table
import LiveMarkdown.Preview.Render
import LiveMarkdown.Proofs.Markdown.BlockTokens

/-!
# One numbering of headings

Three walks number the headings of a document: the render in one pass sets ids on tokens, the table
of slugs makes entries, and the table of contents makes entries of its own. Each carries a slugger
from heading to heading. `numberedFrom` is that walk on headings alone, and each of the three is
shown to be this one, seen from another side: `headingIds_assignIds` for the render,
`entriesFrom_eq_numbered` for the table, `ofTokens_eq_numbered` for the contents.

The render walks tokens that other stages have changed before. They leave headings alone, and in
running text they turn math into formulas, neither of which is literal text
(`headings_replaceTokens`).
-/

namespace LiveMarkdown

open Html (Attributes)
open Markdown (Inline Token)

/-! ## The walk -/

/-- One id is given to each text. -/
theorem Slugger.length_issueAll (s : Slugger) (texts : List Text) :
    (s.issueAll texts).length = texts.length := by
  induction texts generalizing s with
  | nil => rfl
  | cons t rest ih => simp [Slugger.issueAll, ih]

/-- Headings with the ids that a slugger gives them, one after the other. A heading that says
nothing gets none, and the slugger stays as it is. -/
def numberedFrom : Slugger → List Heading → List (Heading × Option Text)
  | _, [] => []
  | s, h :: rest =>
    if Text.allBlank h.text then (h, none) :: numberedFrom s rest
    else (h, some (s.issue h.text).1) :: numberedFrom (s.issue h.text).2 rest

/-- The walk passes every heading, and leaves without an id those that say nothing. -/
theorem numberedFrom_isNone (s : Slugger) (hs : List Heading) :
    (numberedFrom s hs).map (fun p => (p.1, p.2.isNone)) =
      hs.map fun h => (h, Text.allBlank h.text) := by
  induction hs generalizing s with
  | nil => rfl
  | cons h rest ih =>
    rw [numberedFrom]
    split
    · next hb => simp [ih, hb]
    · next hb => simp [ih, hb]

/-- The headings that the walk numbers, with the slugs that are issued for their texts alone. -/
theorem numberedFrom_named (s : Slugger) (hs : List Heading) :
    (numberedFrom s hs).filterMap (fun p => p.2.map (p.1, ·)) =
      (hs.filter (!Text.allBlank ·.text)).zip
        (s.issueAll ((hs.filter (!Text.allBlank ·.text)).map (·.text))) := by
  induction hs generalizing s with
  | nil => rfl
  | cons h rest ih =>
    rw [numberedFrom]
    split
    · next hb => simp [hb, ih]
    · next hb => simp [hb, ih, Slugger.issueAll]

/-! ## Attributes -/

/-- A name that has been set has its value. -/
theorem Attributes.get?_set_self (attrs : Attributes) (name value : Text) :
    (attrs.set name value).get? name = some value := by
  induction attrs with
  | nil => simp [Attributes.set, Attributes.get?]
  | cons a rest ih =>
    obtain ⟨n, v⟩ := a
    unfold Attributes.get? at ih ⊢
    rw [Attributes.set]
    split
    · next h => simp [h]
    · next h =>
      rw [List.find?_cons_of_neg (by simpa using h)]
      exact ih

/-- Setting a name leaves what the others have. -/
theorem Attributes.get?_set_of_ne (attrs : Attributes) {name other : Text} (value : Text)
    (h : other ≠ name) : (attrs.set other value).get? name = attrs.get? name := by
  induction attrs with
  | nil => simp [Attributes.set, Attributes.get?, h]
  | cons a rest ih =>
    obtain ⟨n, v⟩ := a
    unfold Attributes.get? at ih ⊢
    rw [Attributes.set]
    split
    · next hn =>
      subst hn
      rw [List.find?_cons_of_neg (by simpa using h), List.find?_cons_of_neg (by simpa using h)]
    · simp only [List.find?_cons]
      split
      · rfl
      · exact ih

/-! ## The stages before the ids -/

/-- Math in running text is no literal text, before and after it becomes a formula. -/
theorem Markdown.Inline.literal_toFormula (t : Inline) : t.toFormula.literal = t.literal := by
  unfold Markdown.Inline.toFormula
  split
  · next h => simp [Markdown.Inline.literal, h]
  · rfl

/-- Making formulas leaves the literal text as it is. -/
theorem literalText_map_toFormula (ts : List Inline) :
    literalText (ts.map Markdown.Inline.toFormula) = literalText ts := by
  induction ts with
  | nil => rfl
  | cons t rest ih =>
    simp only [literalText, List.map_cons, List.flatMap_cons] at ih ⊢
    rw [ih, Markdown.Inline.literal_toFormula]

/-- A token as the stages before the ids leave it. -/
def Markdown.Token.replaced (c : Config) (t : Token) : Token :=
  ((t.toDiagram c).toFormula).toHighlighted c.highlight

/-- A token that opens a heading is left as it is. -/
theorem Markdown.Token.replaced_of_headingLevel? (c : Config) {t : Token}
    (h : t.headingLevel?.isSome) : t.replaced c = t := by
  unfold Markdown.Token.headingLevel? at h
  split at h
  · next hk =>
    simp [Markdown.Token.replaced, Markdown.Token.toDiagram, Markdown.Token.toFormula,
      Markdown.Token.toHighlighted, hk]
  · cases h

/-- A fence in a language of diagrams becomes a diagram, and any other fence code. -/
theorem Markdown.Token.replaced_of_fence (c : Config) {t : Token} {info : Text}
    (hkind : t.kind = .fence info) :
    t.replaced c =
      if fenceLanguage info ∈ c.diagramLanguages then
        let source := Diagram.wrap c.icons (Text.dropEndWhile (· = '\n') t.content)
        { t with
          kind := .diagram (fenceLanguage info)
          attrs := [("class", fenceLanguage info), ("data-" ++ fenceLanguage info, source)]
          content := source }
      else t.toHighlighted c.highlight := by
  obtain ⟨kind, attrs, span, content, hidden⟩ := t
  cases hkind
  unfold Markdown.Token.replaced Markdown.Token.toDiagram
  dsimp only
  simp only [List.contains_iff_mem]
  split
  · rfl
  · rfl

/-- No token becomes one that opens a heading. -/
theorem Markdown.Token.headingLevel?_replaced (c : Config) (t : Token) :
    (t.replaced c).headingLevel? = t.headingLevel? := by
  obtain ⟨kind, attrs, span, content, hidden⟩ := t
  cases kind with
  | fence info =>
    rw [Markdown.Token.replaced_of_fence c rfl]
    split
    · rfl
    · rfl
  | _ => rfl

/-- The literal text of a token's running text is left as it is. -/
theorem Markdown.Token.literalText_replaced (c : Config) (t : Token) :
    literalText (t.replaced c).children = literalText t.children := by
  obtain ⟨kind, attrs, span, content, hidden⟩ := t
  cases kind with
  | fence info =>
    rw [Markdown.Token.replaced_of_fence c rfl]
    split
    · rfl
    · rfl
  | inline children => exact literalText_map_toFormula children
  | _ => rfl

/-- Replacing code, math and diagrams leaves the text of headings as it is. -/
theorem headingText_replaceTokens (c : Config) (ts : List Token) :
    headingText (replaceTokens c ts) = headingText ts := by
  cases ts with
  | nil => rfl
  | cons t rest => exact t.literalText_replaced c

/-! ## The walk of the render -/

/-- The levels and ids of the headings that the tokens open, in order. -/
def headingIds : List Token → List (Nat × Option Text)
  | [] => []
  | t :: rest =>
    match t.headingLevel? with
    | some level => (level, t.attrs.get? ['i', 'd']) :: headingIds rest
    | none => headingIds rest

/-- The headings of tokens are that of the first, if it opens one, and those of the others. -/
theorem headingIds_cons (t : Token) (rest : List Token) :
    headingIds (t :: rest) =
      (t.headingLevel?.map fun level => (level, t.attrs.get? ['i', 'd'])).toList ++ headingIds rest := by
  rw [headingIds]
  cases t.headingLevel? <;> rfl

/-- Setting ids changes nothing but attributes. -/
theorem map_assignIds {α : Type} {f : Token → α} (hf : ∀ (t : Token) attrs, f { t with attrs } = f t)
    (s : Slugger) (ts : List Token) : (assignIds s ts).map f = ts.map f := by
  induction ts generalizing s with
  | nil => rfl
  | cons t rest ih =>
    rw [assignIds]
    split
    · rw [List.map_cons, hf, ih, List.map_cons]
    · rw [List.map_cons, ih, List.map_cons]

/-- Setting ids is the walk: the headings that the tokens open get the ids of the walk. -/
theorem headingIds_assignIds (c : Config) (s : Slugger) (ts : List Token)
    (h : ∀ t ∈ ts, t.IsPlainHeading) :
    headingIds (assignIds s (replaceTokens c ts)) =
      (numberedFrom s (headings ts)).map fun p => (p.1.level, p.2) := by
  induction ts generalizing s with
  | nil => rfl
  | cons t rest ih =>
    have ht := h t List.mem_cons_self
    have hrest (s : Slugger) := ih s fun u hu => h u (List.mem_cons_of_mem _ hu)
    have hcons : replaceTokens c (t :: rest) = t.replaced c :: replaceTokens c rest := rfl
    rw [hcons, assignIds, headings, headingText_replaceTokens, t.headingLevel?_replaced]
    cases hl : t.headingLevel? with
    | none => simp [headingIds_cons, t.headingLevel?_replaced, hl, hrest]
    | some level =>
      have hattrs : t.attrs = [] := ht (by rw [hl]; rfl)
      rw [t.replaced_of_headingLevel? c (by rw [hl]; rfl)]
      by_cases hb : Text.allBlank (headingText rest)
      · have hid : t.attrs.get? ['i', 'd'] = none := by rw [hattrs]; rfl
        simp [headingIds_cons, numberedFrom, hb, hl, hid, hrest]
      · have hlevel (attrs : Attributes) : ({ t with attrs } : Token).headingLevel? = some level := hl
        simp [headingIds_cons, numberedFrom, hb, hlevel, Attributes.get?_set_self, hrest]

/-- Marking source lines does not touch the ids. -/
theorem headingIds_map_withLine (ts : List Token) :
    headingIds (ts.map Markdown.Token.withLine) = headingIds ts := by
  induction ts with
  | nil => rfl
  | cons t rest ih =>
    have hline : (t.withLine.headingLevel?.map fun level => (level, t.withLine.attrs.get? ['i', 'd'])) =
        t.headingLevel?.map fun level => (level, t.attrs.get? ['i', 'd']) := by
      unfold Markdown.Token.withLine
      split
      · rfl
      · dsimp only
        split
        · next hk => simp [Markdown.Token.headingLevel?, hk]
        · rfl
        · rfl
        · have hne : sourceLineAttribute ≠ ['i', 'd'] := by decide
          simp [Markdown.Token.headingLevel?, Attributes.get?_set_of_ne _ _ hne]
    rw [List.map_cons, headingIds_cons, headingIds_cons, hline, ih]

/-! ## The walks of the two tables -/

/-- The entries of the table of contents are the headings that the walk numbers. -/
theorem Contents.ofTokens_eq_numbered (ts : List Token) :
    Contents.ofTokens ts = ((numberedFrom {} (headings ts)).filterMap fun p => p.2.map (p.1, ·)).map
      fun (h, id) => { level := h.level, text := Text.trim h.text, id } := by
  rw [numberedFrom_named]
  rfl

/-- The slugs of entries are issued for their texts alone, whatever owns them. -/
theorem entriesFrom_map (owner : Nat → Text) (s : Slugger) (earlier : List HeadingInfo)
    (hs : List Heading) :
    (entriesFrom owner s earlier hs).map (fun e => (e.level, e.text, e.slug)) =
      (hs.zip (s.issueAll (hs.map (·.text)))).map fun (h, slug) =>
        ((h.level : Int), h.text, slug) := by
  induction hs generalizing s earlier with
  | nil => rfl
  | cons h rest ih => simp [entriesFrom, Slugger.issueAll, ih]

/-- The entries of the table of slugs are the headings that the walk numbers. -/
theorem entriesFrom_eq_numbered (owner : Nat → Text) (ts : List Token) :
    (entriesFrom owner {} [] (namedHeadings ts)).map (fun e => (e.level, e.text, e.slug)) =
      ((numberedFrom {} (headings ts)).filterMap fun p => p.2.map (p.1, ·)).map fun (h, slug) =>
        ((h.level : Int), h.text, slug) := by
  rw [entriesFrom_map, numberedFrom_named]
  rfl

/-! ## Whole texts

A text of blanks is not parsed by the two tables. It has no headings, so that nothing is lost. -/

/-- Tokens of which none opens a heading have no headings. -/
theorem headings_eq_nil {ts : List Token} (h : ∀ t ∈ ts, t.headingLevel? = none) :
    headings ts = [] := by
  induction ts with
  | nil => rfl
  | cons t rest ih =>
    rw [headings, h t List.mem_cons_self]
    exact ih fun u hu => h u (List.mem_cons_of_mem _ hu)

/-- A text of blanks has no headings. -/
theorem headings_parse_of_allBlank {t : Text} (h : Text.allBlank t) :
    headings (Markdown.parse t) = [] :=
  headings_eq_nil (Markdown.headingLevel?_parse_of_allBlank h)

/-- The table of contents of a text is that of its tokens. -/
theorem Contents.ofText_eq_ofTokens (t : Text) :
    Contents.ofText t = Contents.ofTokens (Markdown.parse t) := by
  unfold Contents.ofText Contents.ofText?
  split
  · next h => rw [Contents.ofTokens_eq_numbered, headings_parse_of_allBlank h]; rfl
  · rfl

/-- The entries of the table of slugs of a text that can be split. -/
theorem headings_resolveSlugs {t : Text} {blocks : List BlockSource}
    (h : splitBlocks t = .ok blocks) :
    (resolveSlugs t).headings = entriesFrom (fun line => owningBlock (ownedLines blocks) line) {} []
      (namedHeadings (Markdown.parse t)) := by
  unfold splitBlocks at h
  unfold resolveSlugs SlugTable.resolve?
  split at h
  · next hb =>
    rw [if_pos hb, namedHeadings, headings_parse_of_allBlank hb]
    rfl
  · next hb =>
    rw [if_neg hb]
    simp only [Function.comp_apply, Option.bind_some, SlugTable.ofTokens, h]
    rfl

/-- A text that cannot be split has no slugs. -/
theorem headings_resolveSlugs_of_error {t : Text} {cause : SplitError}
    (h : splitBlocks t = .error cause) : (resolveSlugs t).headings = [] := by
  unfold splitBlocks at h
  split at h
  · cases h
  · next hb =>
    simp only [resolveSlugs, SlugTable.resolve?, if_neg hb, Function.comp_apply, Option.bind_some,
      SlugTable.ofTokens, h]
    rfl

/-- The levels and ids of a text's headings as a render in one pass sets them. -/
def renderedIds (c : Config) (t : Text) : List (Nat × Option Text) :=
  headingIds (assignIds {} (replaceTokens c (Markdown.parse t)))

/-- A render in one pass numbers the headings of the text. -/
theorem renderedIds_eq_numbered (c : Config) (t : Text) :
    renderedIds c t =
      (numberedFrom {} (headings (Markdown.parse t))).map fun p => (p.1.level, p.2) :=
  headingIds_assignIds c {} _ (Markdown.plainHeadings_parse t)

end LiveMarkdown
