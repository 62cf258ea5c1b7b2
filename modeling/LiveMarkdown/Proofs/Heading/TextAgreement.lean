import LiveMarkdown.Proofs.Heading.ShownText
import LiveMarkdown.Proofs.Markdown.Nodes

/-!
# When the text of a heading is read back

The text of a heading in the page of a block, or of a document, is what is shown of the stretches of its
running text, and so it is the text that the heading's tokens have exactly if each stretch stays as it
is (`heading_text_agrees_iff`). It does not if there is nothing but white space between two tags, and
more of it than one space (`heading_text_joined`).

What is rendered comes from the parsed tokens one by one (`Token.ComesFrom`): the stages keep the tags
of headings, and of their running text they change neither the stretches nor the marks.
-/

namespace LiveMarkdown

open Html (Attributes IsPlainName)
open Markdown (Inline InlineKind Kind Mark Token)

/-! ## Running text -/

/-- A formula extends stretches as the math it is made from. -/
theorem extend_toFormula (s : List Text × Text) (t : Inline) : t.toFormula.extend s = t.extend s := by
  unfold Markdown.Inline.toFormula
  split
  · next hkind => simp only [Markdown.Inline.extend, hkind]
  · rfl

/-- Formulas leave the stretches of running text as they are. -/
theorem stretches_toFormula (ts : List Inline) :
    stretches (ts.map Markdown.Inline.toFormula) = stretches ts := by
  have hfold (s : List Text × Text) : (ts.map Markdown.Inline.toFormula).foldl Markdown.Inline.extend s =
      ts.foldl Markdown.Inline.extend s := by
    rw [List.foldl_map]
    exact congrArg (fun f => ts.foldl f s) (funext fun s => funext fun t => extend_toFormula s t)
  rw [stretches, stretches, hfold]

/-- Formulas leave the nesting of marks as it is. -/
theorem nests_toFormula (opened : List Mark) (ts : List Inline) :
    nests opened (ts.map Markdown.Inline.toFormula) = nests opened ts := by
  induction ts generalizing opened with
  | nil => rfl
  | cons t rest ih =>
    obtain ⟨kind, content, attrs⟩ := t
    cases kind with
    | special | html => rfl
    | closing mark => exact congrArg (_ && ·) (ih opened.tail)
    | _ => exact ih _

/-- A token of running text with other attributes is cut into the same stretches. -/
theorem stretches_markInlineLines (line : Nat) (ts : List Inline) :
    stretches (markInlineLines line ts) = stretches ts := by
  have hfold (s : List Text × Text) : (markInlineLines line ts).foldl Markdown.Inline.extend s =
      ts.foldl Markdown.Inline.extend s := by
    induction ts generalizing line s with
    | nil => rfl
    | cons t rest ih =>
      rw [markInlineLines]
      split
      · exact ih (line + 1) (t.extend s)
      · exact ih (line + 1) (t.extend s)
      · split
        · exact ih line (t.extend s)
        · exact ih line (t.extend s)
  rw [stretches, stretches, hfold]

/-- Source lines leave the nesting of marks as it is. -/
theorem nests_markInlineLines (line : Nat) (opened : List Mark) (ts : List Inline) :
    nests opened (markInlineLines line ts) = nests opened ts := by
  induction ts generalizing line opened with
  | nil => rfl
  | cons t rest ih =>
    obtain ⟨kind, content, attrs⟩ := t
    cases kind with
    | special | html => rfl
    | closing mark => exact congrArg (_ && ·) (ih line opened.tail)
    | softBreak | hardBreak => exact ih (line + 1) opened
    | _ => exact ih line _

/-! ## Settled tokens -/

/-- After formulas have been made, a plain token is settled. -/
theorem isSettled_toFormula {t : Inline} (h : t.IsPlain) : t.toFormula.IsSettled := by
  unfold Markdown.Inline.toFormula
  split
  · next display hkind =>
    refine ⟨isPlainName_formulaAttributes display, ?_, fun html hhtml => ?_, nofun⟩
    · exact iff_of_true (List.mem_map_of_mem (List.mem_cons_of_mem _ List.mem_cons_self))
        (List.cons_ne_nil _ _)
    · rw [List.mem_singleton.1 hhtml, Math.formulaHtml]
      split
      · exact ⟨_, rfl⟩
      · exact ⟨_, rfl⟩
  · next hkind =>
    refine ⟨fun a ha => (h.attrs a ha).1, ?_, fun html hhtml => ?_, hkind⟩
    · refine iff_of_false (fun hmem => ?_) fun hne => hne h.kind
      obtain ⟨a, ha, hname⟩ := List.mem_map.1 hmem
      exact (h.attrs a ha).2 hname
    · rw [h.kind] at hhtml
      cases hhtml

/-- Source lines leave tokens settled. -/
theorem isSettled_markInlineLines (line : Nat) {ts : List Inline} (h : ∀ t ∈ ts, t.IsSettled) :
    ∀ t ∈ markInlineLines line ts, t.IsSettled := by
  have hset {t : Inline} (ht : t.IsSettled) (value : Text) :
      Markdown.Inline.IsSettled { t with attrs := t.attrs.set sourceLineAttribute value } := by
    have hne : Math.markAttribute ≠ sourceLineAttribute := by decide
    refine ⟨Html.forall_names_set ht.attrs isPlainName_sourceLine value, ?_, ht.written, ht.kind⟩
    exact (Html.mem_names_set.trans (or_iff_right hne)).trans ht.marked
  induction ts generalizing line with
  | nil => exact List.forall_mem_nil _
  | cons t rest ih =>
    obtain ⟨ht, hrest⟩ := List.forall_mem_cons.1 h
    rw [markInlineLines]
    split
    · exact List.forall_mem_cons.2 ⟨ht, ih (line + 1) hrest⟩
    · exact List.forall_mem_cons.2 ⟨ht, ih (line + 1) hrest⟩
    · refine List.forall_mem_cons.2 ⟨?_, ih line hrest⟩
      split
      · exact hset ht _
      · exact ht

/-! ## Stages -/

/-- A token as it is rendered, and the parsed token that it has come from. -/
structure Markdown.Token.ComesFrom (t' t : Token) : Prop where
  levels : t'.shown.map (·.1) = t.shown.map (·.1)
  opening : ∀ container, t.kind = .opening container → t'.kind = t.kind
  closing : ∀ container, t.kind = .closing container → t'.kind = t.kind
  inline : ∀ children, t.kind = .inline children → ∃ children', t'.kind = .inline children' ∧
    (∀ c ∈ children', c.IsSettled) ∧ stretches children' = stretches children ∧
    nests [] children' = nests [] children

namespace Markdown.Token.ComesFrom

variable {t t' : Token}

/-- A plain token that is replaced comes from the token it was. -/
theorem replaced (c : Config) (h : t.IsPlain) : (t.replaced c).ComesFrom t where
  levels := by rw [shown_replaced c h]
  opening container hkind := by
    obtain ⟨kind, attrs, span, content, hidden⟩ := t
    cases hkind
    rfl
  closing container hkind := by
    obtain ⟨kind, attrs, span, content, hidden⟩ := t
    cases hkind
    rfl
  inline children hkind := by
    have hchildren : ∀ c ∈ children, c.IsPlain := Token.children_of_kind hkind ▸ h.children
    obtain ⟨kind, attrs, span, content, hidden⟩ := t
    cases hkind
    refine ⟨_, rfl, fun c hc => ?_, stretches_toFormula children, nests_toFormula [] children⟩
    obtain ⟨u, hu, rfl⟩ := List.mem_map.1 hc
    exact isSettled_toFormula (hchildren u hu)

/-- A token with other attributes comes from the same token. -/
theorem set (h : t'.ComesFrom t) (attrs : Attributes) : ComesFrom { t' with attrs } t where
  levels := by
    refine Eq.trans ?_ h.levels
    obtain ⟨kind, attrs, span, content, hidden⟩ := t'
    cases kind with
    | opening container => cases container <;> rfl
    | _ => rfl
  opening := h.opening
  closing := h.closing
  inline := h.inline

/-- A token with its source line comes from the same token. -/
theorem withLine (h : t'.ComesFrom t) : t'.withLine.ComesFrom t := by
  have hlevels : t'.withLine.shown.map (·.1) = t.shown.map (·.1) := by rw [shown_withLine, h.levels]
  have hset (value : Text) := h.set (t'.attrs.set sourceLineAttribute value)
  unfold Markdown.Token.withLine at hlevels ⊢
  split
  · exact h
  · next span hspan =>
    rw [hspan] at hlevels
    dsimp only at hlevels ⊢
    split
    · next children hkind =>
      rw [hkind] at hlevels
      refine ⟨hlevels, fun container hopening => ?_, fun container hclosing => ?_, fun old hold => ?_⟩
      · have := h.opening container hopening
        rw [hkind, hopening] at this
        cases this
      · have := h.closing container hclosing
        rw [hkind, hclosing] at this
        cases this
      · obtain ⟨children', hchildren, hsettled, hstretches, hnests⟩ := h.inline old hold
        obtain rfl : children = children' := Kind.inline.inj (hkind.symm.trans hchildren)
        exact ⟨_, rfl, isSettled_markInlineLines _ hsettled,
          (stretches_markInlineLines _ _).trans hstretches,
          (nests_markInlineLines _ _ _).trans hnests⟩
    · exact h
    · exact h
    · exact hset _

end Markdown.Token.ComesFrom

/-- Tokens with ids come from the same tokens. -/
theorem comesFrom_assignIds (s : Slugger) {ts' ts : List Token}
    (h : List.Forall₂ Markdown.Token.ComesFrom ts' ts) :
    List.Forall₂ Markdown.Token.ComesFrom (assignIds s ts') ts := by
  induction h generalizing s with
  | nil => exact .nil
  | cons hfirst _ ih =>
    rw [assignIds]
    split
    · exact .cons (hfirst.set _) (ih _)
    · exact .cons hfirst (ih s)

/-- Tokens with source lines come from the same tokens. -/
theorem comesFrom_withLine {ts' ts : List Token} (h : List.Forall₂ Markdown.Token.ComesFrom ts' ts) :
    List.Forall₂ Markdown.Token.ComesFrom (ts'.map Markdown.Token.withLine) ts := by
  induction h with
  | nil => exact .nil
  | cons hfirst _ ih => exact .cons hfirst.withLine ih

/-- The tokens after code, math and diagrams have been replaced come from the parsed ones. -/
theorem comesFrom_replaceTokens (c : Config) (t : Text) : List.Forall₂ Markdown.Token.ComesFrom
    (replaceTokens c (Markdown.parse t)) (Markdown.parse t) := by
  have hall (ts : List Token) (h : ∀ u ∈ ts, u.IsPlain) :
      List.Forall₂ Markdown.Token.ComesFrom (replaceTokens c ts) ts := by
    induction ts with
    | nil => exact .nil
    | cons u rest ih =>
      obtain ⟨hu, hrest⟩ := List.forall_mem_cons.1 h
      exact .cons (.replaced c hu) (ih hrest)
  exact hall _ (Markdown.isPlain_parse t)

/-- The tokens of a rendered block or document come from the parsed ones. -/
theorem comesFrom_stages (c : Config) (t : Text) {tokens : List Token}
    (h : tokens ∈ [blockStages c (Markdown.parse t), documentStages c (Markdown.parse t)]) :
    List.Forall₂ Markdown.Token.ComesFrom tokens (Markdown.parse t) := by
  simp only [List.mem_cons, List.not_mem_nil, or_false] at h
  rcases h with rfl | rfl
  · exact comesFrom_withLine (comesFrom_replaceTokens c t)
  · exact comesFrom_withLine (comesFrom_assignIds {} (comesFrom_replaceTokens c t))

/-- The stages leave each heading in its place. -/
theorem length_shown {ts' ts : List Token} (h : List.Forall₂ Markdown.Token.ComesFrom ts' ts) :
    (ts'.flatMap Markdown.Token.shown).length = (ts.flatMap Markdown.Token.shown).length := by
  induction h with
  | nil => rfl
  | cons hfirst _ ih =>
    have hlevels := congrArg List.length hfirst.levels
    rw [List.length_map, List.length_map] at hlevels
    rw [List.flatMap_cons, List.flatMap_cons, List.length_append, List.length_append, hlevels, ih]

/-! ## The text that is read -/

/-- The raw HTML of tokens has whole tags and leaves no element open in which text is not joined or not
shown. -/
def HasQuietHtml (ts : List Token) : Prop :=
  ∀ html ∈ ts.flatMap Markdown.Token.rawHtml, Html.IsQuiet html

/-- If there is no raw HTML, all of it has whole tags and leaves no element open. -/
theorem hasQuietHtml_of_eq_nil {ts : List Token} (h : ts.flatMap Markdown.Token.rawHtml = []) :
    HasQuietHtml ts := by
  rw [HasQuietHtml, h]
  exact List.forall_mem_nil _

/-- A heading without raw HTML, whose marks are properly nested, in a text whose other raw HTML has
whole tags and leaves open no element in which text is not joined or not shown. In the page of the text
as a block, and in its page as a document, it is a heading after as many as the tokens before it have,
with its level; its text is what is shown of the stretches of its running text; and this is the text
that its tokens have exactly if each stretch stays as it is. -/
theorem heading_text_agrees_iff {c : Config} (hc : c.HasPlainLanguages) {t : Text}
    (hraw : HasQuietHtml (Markdown.parse t)) {before after : List Token} {heading body : Token}
    (hsplit : Markdown.parse t = before ++ heading :: body :: after) {level : Nat}
    (hlevel : heading.headingLevel? = some level) (hnests : nests [] body.children) :
    ∀ tokens ∈ [blockStages c (Markdown.parse t), documentStages c (Markdown.parse t)],
      ∃ nodes earlier g later, Html.pageNodes (Markdown.render tokens) = .ok nodes ∧
        pageHeadings nodes = earlier ++ g :: later ∧
        earlier.length = (before.flatMap Markdown.Token.shown).length ∧ g.level = level ∧
        g.text = (stretches body.children).flatMap shownText ∧
        (g.text = headingText (body :: after) ↔ ∀ s ∈ stretches body.children, Stays s) := by
  intro tokens htokens
  have hheading : heading.kind = .opening (.heading level) := by
    unfold Markdown.Token.headingLevel? at hlevel
    split at hlevel
    · next hkind => rw [hkind, Option.some.inj hlevel]
    · cases hlevel
  obtain ⟨body, closing, after, children, hrest, hbody, hclosing⟩ :=
    Markdown.exists_heading_parse hsplit hheading
  obtain ⟨rfl, rfl⟩ := List.cons.inj hrest
  have hchildren : body.children = children := Markdown.Token.children_of_kind hbody
  have hrenderable : ∀ tok ∈ tokens, tok.IsRenderable Html.AreQuiet := by
    have hlists : ∀ html ∈ (Markdown.parse t).flatMap Markdown.Token.rawHtml,
        ListsWith Html.AreQuiet html (rawHeadings html) :=
      fun html hhtml => lists_rawHeadings (hraw html hhtml)
    simp only [List.mem_cons, List.not_mem_nil, or_false] at htokens
    rcases htokens with rfl | rfl
    · exact isRenderable_blockStages Html.piecesClosed_areQuiet hc hlists
    · exact isRenderable_documentStages Html.piecesClosed_areQuiet hc hlists
  -- The rendered tokens, in the same places as the parsed ones.
  have hstages := comesFrom_stages c t htokens
  rw [hsplit] at hstages
  obtain ⟨earlier', later', rfl, hbefore, hlater⟩ :
      ∃ earlier' later', tokens = earlier' ++ later' ∧
        List.Forall₂ Markdown.Token.ComesFrom earlier' before ∧
        List.Forall₂ Markdown.Token.ComesFrom later' _ :=
    ⟨_, _, (List.take_append_drop before.length tokens).symm,
      List.forall₂_take_append _ _ _ hstages, List.forall₂_drop_append _ _ _ hstages⟩
  obtain - | ⟨hfirst, - | ⟨hsecond, - | ⟨hthird, -⟩⟩⟩ := hlater
  obtain ⟨children', hbody', hsettled, hstretches, hsame⟩ := hsecond.inline children hbody
  rw [hchildren] at hnests
  obtain ⟨nodes, earlier, later, hnodes, hheadings, hlisted⟩ := exists_pageHeadings_render
    ((hfirst.opening _ hheading).trans hheading) hbody' ((hthird.closing _ hclosing).trans hclosing)
    hrenderable hsettled (hsame.trans hnests)
  refine ⟨nodes, earlier, _, later, hnodes, hheadings, ?_, rfl, ?_, ?_⟩
  · rw [← length_shown hbefore, ← hlisted, listed, List.length_map]
  · rw [hchildren, hstretches]
  · have htext : headingText (body :: closing :: after) = (stretches children).flatten := by
      rw [headingText, hchildren, flatten_stretches]
    rw [htext, hchildren, hstretches]
    exact flatMap_shownText_eq_iff

/-- A heading with marks, code and a formula: one space between two tags stays, and so does the text. -/
theorem heading_text_agrees_iff_marks :
    ∃ heading body after, Markdown.parse "# *a* `b` $x$".toList = [] ++ heading :: body :: after ∧
      (∀ s ∈ stretches body.children, Stays s) ∧
      ∃ nodes g later, Html.pageNodes (Markdown.render
          (blockStages (.ofEnvironment {}) (Markdown.parse "# *a* `b` $x$".toList))) = .ok nodes ∧
        pageHeadings nodes = g :: later ∧ g.text = headingText (body :: after) ∧
        headingText (body :: after) = "a b ".toList := by
  have hfound : ∃ heading body after,
      Markdown.parse "# *a* `b` $x$".toList = [] ++ heading :: body :: after ∧
        heading.headingLevel? = some 1 ∧ nests [] body.children ∧
        (∀ s ∈ stretches body.children, Stays s) ∧ headingText (body :: after) = "a b ".toList :=
    ⟨_, (Markdown.parse "# *a* `b` $x$".toList).getD 1 { kind := .rule }, _, rfl,
      by decide +kernel, by decide +kernel, by decide +kernel, by decide +kernel⟩
  obtain ⟨heading, body, after, hsplit, hlevel, hnests, hstays, htext⟩ := hfound
  obtain ⟨nodes, earlier, g, later, hnodes, hheadings, hlength, -, -, hiff⟩ :=
    heading_text_agrees_iff (hasPlainLanguages_ofEnvironment {})
      (hasQuietHtml_of_eq_nil (by decide +kernel)) hsplit hlevel hnests _ List.mem_cons_self
  obtain rfl : earlier = [] := List.length_eq_zero_iff.1 hlength
  exact ⟨heading, body, after, hsplit, hstays, nodes, g, later, hnodes, hheadings, hiff.2 hstays, htext⟩

/-- Two spaces between two tags are one in the page. -/
theorem heading_text_joined :
    (Markdown.parse "# *a*  *b*".toList).flatMap Markdown.Token.rawHtml = [] ∧
      (∀ tok ∈ Markdown.parse "# *a*  *b*".toList, nests [] tok.children) ∧
      (headings (Markdown.parse "# *a*  *b*".toList)).map (·.text) = ["a  b".toList] ∧
      ∃ nodes, Html.pageNodes (Markdown.render
          (blockStages (.ofEnvironment {}) (Markdown.parse "# *a*  *b*".toList))) = .ok nodes ∧
        (pageHeadings nodes).map (·.text) = ["a b".toList] := by
  refine ⟨by decide +kernel, by decide +kernel, by decide +kernel, ?_⟩
  have hread : (Html.pageNodes (Markdown.render
      (blockStages (.ofEnvironment {}) (Markdown.parse "# *a*  *b*".toList)))).toOption.map
        (fun nodes => (pageHeadings nodes).map (·.text)) = some ["a b".toList] := by
    decide +kernel
  cases hnodes : Html.pageNodes (Markdown.render
      (blockStages (.ofEnvironment {}) (Markdown.parse "# *a*  *b*".toList))) with
  | error e => rw [hnodes] at hread; cases hread
  | ok nodes =>
    rw [hnodes] at hread
    exact ⟨nodes, rfl, Option.some.inj hread⟩

end LiveMarkdown
