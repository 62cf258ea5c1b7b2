import LiveMarkdown.Preview.Render
import LiveMarkdown.Proofs.Heading.PageText
import LiveMarkdown.Proofs.Preview.Blocks
import LiveMarkdown.Proofs.Preview.Patch

/-!
# When a kept block is shown right

Two renders keep a block if its source is the same. Its HTML also has the ids that the whole document
gives its headings, and an edit elsewhere can change those. `SameIds` says what has to be the same
for the block's HTML not to change, and it is exact (`html_eq_iff`). So it decides what a preview
shows that goes by the changes alone (`preview_right_iff`).
-/

namespace LiveMarkdown

open Html (MarkupError)

/-- What decides whether a block has the same HTML with the slugs of two documents. If both give some
heading an id, all headings have to end up with the same ids. If only one does, the page as it is
written with its ids has to be the HTML that there was before. -/
def SameIds (c : Config) (source : Text) (old new : SlugSource) : Prop :=
  let html := bareHtml c source
  let used (s : SlugSource) : List HeadingInfo := usedEntries s.table s.block html
  ∀ nodes, Html.pageNodes html = .ok nodes →
    let page (s : SlugSource) := injectedNodes s.table s.block nodes
    (used old ≠ [] → used new ≠ [] →
      (pageHeadings (page old)).map (·.id) = (pageHeadings (page new)).map (·.id)) ∧
    (used old ≠ [] → used new = [] → Html.pageText (page old) = html) ∧
    (used old = [] → used new ≠ [] → Html.pageText (page new) = html)

/-- If a block's page is refused and yet the block is rendered, it is shown as it is. -/
theorem injectSlugs_of_error {table : SlugTable} {block html out : Text} {e : MarkupError}
    (hnodes : Html.pageNodes html = .error e) (h : injectSlugs html table block = .ok out) :
    out = html := by
  unfold injectSlugs at h
  split at h
  · exact (Except.ok.inj h).symm
  · rw [hnodes] at h
    cases h

/-- A block has the same HTML with two tables exactly if they give its headings the same ids. -/
theorem injectSlugs_eq_iff (c : Config) (source : Text) {old new : SlugSource} {html html' : Text}
    (h : injectSlugs (bareHtml c source) old.table old.block = .ok html)
    (h' : injectSlugs (bareHtml c source) new.table new.block = .ok html') :
    html = html' ↔ SameIds c source old new := by
  cases hnodes : Html.pageNodes (bareHtml c source) with
  | error e =>
    rw [injectSlugs_of_error hnodes h, injectSlugs_of_error hnodes h']
    exact ⟨fun _ nodes hok => absurd (hnodes.symm.trans hok) (by simp), fun _ => rfl⟩
  | ok nodes =>
    have htext := pageText_setIds_inj (Html.areProper_of_pageNodes hnodes)
      ((entriesFor old.table old.block [] (pageHeadings nodes)).map (Option.map HeadingInfo.slug))
      ((entriesFor new.table new.block [] (pageHeadings nodes)).map (Option.map HeadingInfo.slug))
    rw [injectSlugs_eq hnodes] at h h'
    rw [← Except.ok.inj h, ← Except.ok.inj h']
    constructor
    · intro hhtml nodes' hnodes'
      obtain rfl := Except.ok.inj (hnodes.symm.trans hnodes')
      refine ⟨fun hold hnew => ?_, fun hold hnew => ?_, fun hold hnew => ?_⟩
      · rw [if_neg hold, if_neg hnew] at hhtml
        exact htext.1 hhtml
      · rw [if_neg hold, if_pos hnew] at hhtml
        exact hhtml
      · rw [if_pos hold, if_neg hnew] at hhtml
        exact hhtml.symm
    · intro hsame
      obtain ⟨hboth, hold, hnew⟩ := hsame nodes hnodes
      by_cases hold' : usedEntries old.table old.block (bareHtml c source) = []
      · by_cases hnew' : usedEntries new.table new.block (bareHtml c source) = []
        · rw [if_pos hold', if_pos hnew']
        · rw [if_pos hold', if_neg hnew', hnew hold' hnew']
      · by_cases hnew' : usedEntries new.table new.block (bareHtml c source) = []
        · rw [if_neg hold', if_pos hnew', hold hold' hnew']
        · rw [if_neg hold', if_neg hnew']
          exact htext.2 (hboth hold' hnew')

/-- Two renders that keep a block give it the same HTML exactly if they give its headings the same
ids. -/
theorem html_eq_iff {c : Config} {t t' : Text} {blocks blocks' : List Block}
    (h : renderBlocks c t = .ok blocks) (h' : renderBlocks c t' = .ok blocks') {o n : Block}
    (ho : o ∈ blocks) (hn : n ∈ blocks') (hs : o.source = n.source) :
    o.html = n.html ↔ SameIds c n.source ⟨resolveSlugs t, o.id⟩ ⟨resolveSlugs t', n.id⟩ := by
  have hold := injectSlugs_of_mem_renderBlocks h ho
  rw [hs] at hold
  exact injectSlugs_eq_iff c n.source hold (injectSlugs_of_mem_renderBlocks h' hn)

/-! ## Versions of a document -/

/-- A version of a document with its rendered blocks. -/
structure Version (c : Config) where
  text : Text
  blocks : List Block
  rendered : renderBlocks c text = .ok blocks

/-- Each block that is kept from one version to the next has headings with the same ids. -/
def KeepsIds {c : Config} (old new : Version c) : Prop :=
  ∀ (i : Nat) (b : Block), ⟨i, .keep b⟩ ∈ diffBlocks old.blocks new.blocks →
    ∃ o, old.blocks[i]? = some o ∧
      SameIds c b.source ⟨resolveSlugs old.text, o.id⟩ ⟨resolveSlugs new.text, b.id⟩

/-- The HTML of kept blocks is as it was exactly if their ids are. -/
theorem keepsHtml_iff {c : Config} (old new : Version c) :
    KeepsHtml old.blocks new.blocks ↔ KeepsIds old new := by
  constructor
  · intro h i b hb
    obtain ⟨o, ho, hn, hs⟩ := keep_mem_diffBlocks.1 hb
    refine ⟨o, ho, ?_⟩
    exact (html_eq_iff old.rendered new.rendered (List.mem_of_getElem? ho)
      (List.mem_of_getElem? hn) hs).1 (h i o b ho hn hs)
  · intro h i o n ho hn hs
    obtain ⟨o', ho', hsame⟩ := h i n (keep_mem_diffBlocks.2 ⟨o, ho, hn, hs⟩)
    obtain rfl := Option.some.inj (ho.symm.trans ho')
    exact (html_eq_iff old.rendered new.rendered (List.mem_of_getElem? ho)
      (List.mem_of_getElem? hn) hs).2 hsame

/-- When going by the changes alone is right. A block that is kept at a position has the HTML that it
had there exactly if the two versions give its headings the same ids; and a preview that begins with
the first version, shows old HTML where a block is kept and new HTML where one is added or updated,
and drops what is removed, shows each later version exactly if this holds for all blocks that are
kept from one version to the next. -/
theorem preview_right_iff (c : Config) :
    (∀ (old new : Version c) (i : Nat) (b : Block),
      ⟨i, .keep b⟩ ∈ diffBlocks old.blocks new.blocks →
      ∃ o, old.blocks[i]? = some o ∧ (o.html = b.html ↔
        SameIds c b.source ⟨resolveSlugs old.text, o.id⟩ ⟨resolveSlugs new.text, b.id⟩)) ∧
    ∀ (first : Version c) (rest : List (Version c)),
      previews (first.blocks.map (·.html)) first.blocks (rest.map (·.blocks)) =
          rest.map (·.blocks.map (·.html)) ↔
        (first :: rest).IsChain KeepsIds := by
  refine ⟨fun old new i b hb => ?_, fun first rest => ?_⟩
  · obtain ⟨o, ho, hn, hs⟩ := keep_mem_diffBlocks.1 hb
    exact ⟨o, ho, html_eq_iff old.rendered new.rendered (List.mem_of_getElem? ho)
      (List.mem_of_getElem? hn) hs⟩
  · have hchain := previews_eq_iff first.blocks (rest.map (·.blocks))
    rw [List.map_map] at hchain
    refine hchain.trans ?_
    have hmap : first.blocks :: rest.map (·.blocks) = (first :: rest).map (·.blocks) := rfl
    rw [hmap, List.isChain_map]
    exact ⟨fun h => h.imp fun old new => (keepsHtml_iff old new).1,
      fun h => h.imp fun old new => (keepsHtml_iff old new).2⟩

/-- A result that is there is the one that is read with any default. -/
theorem eq_ok_of_toOption_isSome {ε α : Type} {e : Except ε α} (default : α)
    (h : e.toOption.isSome) : e = .ok (e.toOption.getD default) := by
  cases e with
  | error cause => cases h
  | ok value => rfl

/-- The version with a text that can be rendered. -/
def Version.ofText (c : Config) (t : Text) (h : (renderBlocks c t).toOption.isSome) : Version c :=
  ⟨t, (renderBlocks c t).toOption.getD [], eq_ok_of_toOption_isSome [] h⟩

/-- A document with two headings. -/
def twoHeadings : Version {} := .ofText {} "# A\n\n# B".toList (by decide +kernel)

/-- The document after its first heading has become the same as the second one. -/
def sameHeadings : Version {} := .ofText {} "# B\n\n# B".toList (by decide +kernel)

/-- The second block of the two versions is kept, and yet has another id from then on, which a preview
that keeps the HTML does not show. -/
theorem keep_with_other_html :
    twoHeadings.text = "# A\n\n# B".toList ∧ sameHeadings.text = "# B\n\n# B".toList ∧
      (∃ o b, twoHeadings.blocks[1]? = some o ∧
        ⟨1, .keep b⟩ ∈ diffBlocks twoHeadings.blocks sameHeadings.blocks ∧
        o.html = "<h1 data-source-line=\"1\" id=\"b\">B</h1>\n".toList ∧
        b.html = "<h1 data-source-line=\"1\" id=\"b-1\">B</h1>\n".toList) ∧
      previews (twoHeadings.blocks.map (·.html)) twoHeadings.blocks [sameHeadings.blocks] ≠
        [sameHeadings.blocks.map (·.html)] := by
  have hold : twoHeadings.blocks[1]?.map (fun b => (b.source, b.html)) =
      some ("# B".toList, "<h1 data-source-line=\"1\" id=\"b\">B</h1>\n".toList) := by
    decide +kernel
  have hnew : sameHeadings.blocks[1]?.map (fun b => (b.source, b.html)) =
      some ("# B".toList, "<h1 data-source-line=\"1\" id=\"b-1\">B</h1>\n".toList) := by
    decide +kernel
  obtain ⟨o, ho, hold⟩ := Option.map_eq_some_iff.1 hold
  obtain ⟨n, hn, hnew⟩ := Option.map_eq_some_iff.1 hnew
  obtain ⟨hosource, hohtml⟩ := Prod.mk.inj hold
  obtain ⟨hnsource, hnhtml⟩ := Prod.mk.inj hnew
  have hs : o.source = n.source := hosource.trans hnsource.symm
  refine ⟨rfl, rfl, ⟨o, n, ho, keep_mem_diffBlocks.2 ⟨o, ho, hn, hs⟩, hohtml, hnhtml⟩, fun h => ?_⟩
  have hkeeps := (List.isChain_cons_cons.1 ((previews_eq_iff _ [_]).1 h)).1
  have hhtml := hkeeps 1 o n ho hn hs
  rw [hohtml, hnhtml] at hhtml
  exact absurd hhtml (by decide)

end LiveMarkdown
