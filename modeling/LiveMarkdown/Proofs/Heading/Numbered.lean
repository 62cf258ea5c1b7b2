import LiveMarkdown.Proofs.Preview.Agreement

/-!
# The three numberings agree

The render in one pass, the table of slugs and the table of contents number the headings of a text
alike (`numbering_agrees`): each of them is read off `numberedHeadings`, one walk over the headings
that leaves out those that say nothing. What a page lists is read from the page itself
(`listHeadings`); where no heading comes from raw HTML it is the same numbering once more
(`exists_page_listed`).
-/

namespace LiveMarkdown

/-! ## The one walk -/

/-- The headings of a text that say something, with the ids of the one numbering. -/
def numberedHeadings (t : Text) : List (Heading × Text) :=
  (numberedFrom {} (headings (Markdown.parse t))).filterMap fun p => p.2.map (p.1, ·)

/-- The numbering leaves out no heading that says something, and no other one has an id. -/
theorem map_fst_numberedHeadings (t : Text) :
    (numberedHeadings t).map (·.1) = namedHeadings (Markdown.parse t) := by
  rw [numberedHeadings, numberedFrom_named, List.map_fst_zip (by simp [Slugger.length_issueAll])]
  rfl

/-- In a render, a heading has no id exactly if it says nothing. -/
theorem renderedIds_isNone (c : Config) (t : Text) :
    (renderedIds c t).map (fun p => (p.1, p.2.isNone)) =
      (headings (Markdown.parse t)).map (fun h => (h.level, Text.allBlank h.text)) := by
  have hblank := congrArg (List.map fun p : Heading × Bool => (p.1.level, p.2))
    (numberedFrom_isNone {} (headings (Markdown.parse t)))
  rw [List.map_map, List.map_map] at hblank
  rw [renderedIds_eq_numbered, List.map_map]
  exact hblank

/-- The ids that a render sets are those of the numbered headings. -/
theorem filterMap_renderedIds (c : Config) (t : Text) :
    (renderedIds c t).filterMap (fun p => p.2.map ((p.1 : Int), ·)) =
      (numberedHeadings t).map fun p => ((p.1.level : Int), p.2) := by
  rw [renderedIds_eq_numbered, numberedHeadings, List.filterMap_map, List.map_filterMap]
  congr 1
  funext ⟨h, id⟩
  cases id <;> rfl

/-- The contents list the numbered headings, without blanks around their texts. -/
theorem Contents.ofText_eq_numbered (t : Text) :
    Contents.ofText t = (numberedHeadings t).map fun p =>
      { level := p.1.level, text := Text.trim p.1.text, id := p.2 } :=
  (Contents.ofText_eq_ofTokens t).trans (Contents.ofTokens_eq_numbered _)

/-- Whatever is read of the levels, texts and slugs in the table of slugs is read of the numbered
headings, if the text can be split. -/
theorem map_headings_resolveSlugs {t : Text} {blocks : List BlockSource}
    (h : splitBlocks t = .ok blocks) {β : Type} (f : Int × Text × Text → β) :
    (resolveSlugs t).headings.map (fun e => f (e.level, e.text, e.slug)) =
      (numberedHeadings t).map fun p => f ((p.1.level : Int), p.1.text, p.2) := by
  have hentries := congrArg (List.map f) (entriesFrom_eq_numbered
    (fun line => owningBlock (ownedLines blocks) line) (Markdown.parse t))
  rwa [← headings_resolveSlugs h, List.map_map, List.map_map] at hentries

/-! ## The page -/

/-- A text that preparing does not change, and whose raw HTML has whole tags and no headings, has a page
that lists its headings with the ids of the render's tokens. -/
theorem exists_page_listed {c : Config} {t : Text} (hc : c.HasPlainLanguages) (hsame : preprocess t = t)
    (hwhole : HasWholeHtml (Markdown.parse t)) (hraw : HasNoRawHeadings (Markdown.parse t)) :
    ∃ page, renderDocument c none t = .ok page ∧ listHeadings page = .ok (renderedIds c t) := by
  obtain ⟨page, hpage⟩ := exists_page c t
  have hlists := (lists_document hc hpage (hsame.symm ▸ hwhole)).listHeadings
  have hids : documentHeadings t = renderedIds c t := by
    rw [renderedIds_eq_numbered, documentHeadings, hsame]
    split
    · next hblank => rw [headings_parse_of_allBlank hblank]; rfl
    · exact numberedTokens_eq {} hraw
  exact ⟨page, hpage, hlists.trans (congrArg Except.ok hids)⟩

/-- The render in one pass, the table of slugs and the table of contents number the headings of a
text alike. A heading has no id exactly if it says nothing; the headings that have one are the
entries of both tables, in order, with the same levels and ids, and the contents show the text of
the slug table's entry without blanks around it. The table of slugs is there if the text can be
split. If preparing the text does not change it, these are the ids of the tokens that the page is
written from, and if its raw HTML has whole tags and no headings, the page lists them. -/
theorem numbering_agrees (c : Config) (t : Text) :
    (renderedIds c t).map (fun p => (p.1, p.2.isNone)) =
        (headings (Markdown.parse t)).map (fun h => (h.level, Text.allBlank h.text)) ∧
      (Contents.ofText t).map (fun e => (e.level, e.id)) =
        (renderedIds c t).filterMap (fun p => p.2.map ((p.1 : Int), ·)) ∧
      (Contents.ofText t).map (fun e => (e.level, e.text)) =
        (namedHeadings (Markdown.parse t)).map (fun h => ((h.level : Int), Text.trim h.text)) ∧
      (∀ blocks, splitBlocks t = .ok blocks →
        (resolveSlugs t).headings.map (fun e => (e.level, e.slug)) =
            (renderedIds c t).filterMap (fun p => p.2.map ((p.1 : Int), ·)) ∧
          (resolveSlugs t).headings.map (fun e => (e.level, e.text)) =
            (namedHeadings (Markdown.parse t)).map (fun h => ((h.level : Int), h.text)) ∧
          (resolveSlugs t).headings.map (fun e => (e.level, Text.trim e.text, e.slug)) =
            (Contents.ofText t).map (fun e => (e.level, e.text, e.id))) ∧
      (preprocess t = t →
        headingIds (documentStages c (Markdown.parse (preprocess t))) = renderedIds c t) ∧
      (c.HasPlainLanguages → preprocess t = t → HasWholeHtml (Markdown.parse t) →
        HasNoRawHeadings (Markdown.parse t) →
        ∃ page, renderDocument c none t = .ok page ∧ listHeadings page = .ok (renderedIds c t)) := by
  refine ⟨renderedIds_isNone c t, ?_, ?_, fun blocks hsplit => ⟨?_, ?_, ?_⟩, fun hsame => ?_,
    exists_page_listed⟩
  · rw [filterMap_renderedIds, Contents.ofText_eq_numbered, List.map_map]
    rfl
  · rw [← map_fst_numberedHeadings, Contents.ofText_eq_numbered, List.map_map, List.map_map]
    rfl
  · rw [filterMap_renderedIds]
    exact map_headings_resolveSlugs hsplit fun e => (e.1, e.2.2)
  · rw [← map_fst_numberedHeadings, List.map_map]
    exact map_headings_resolveSlugs hsplit fun e => (e.1, e.2.1)
  · rw [Contents.ofText_eq_numbered, List.map_map]
    exact map_headings_resolveSlugs hsplit fun e => (e.1, Text.trim e.2.1, e.2.2)
  · rw [hsame, documentStages, headingIds_map_withLine]
    rfl

/-- Two headings that say the same: the second has a number in all three, and on the page. -/
theorem numbering_agrees_twice :
    (splitBlocks "# A\n\n## A\n".toList).toOption.isSome ∧
      preprocess "# A\n\n## A\n".toList = "# A\n\n## A\n".toList ∧
      headingIds (documentStages {} (Markdown.parse (preprocess "# A\n\n## A\n".toList))) =
        [(1, some ['a']), (2, some ['a', '-', '1'])] ∧
      (Contents.ofText "# A\n\n## A\n".toList).map (fun e => (e.level, e.id)) =
        [(1, ['a']), (2, ['a', '-', '1'])] ∧
      ∃ page, renderDocument {} none "# A\n\n## A\n".toList = .ok page ∧
        listHeadings page = .ok [(1, some ['a']), (2, some ['a', '-', '1'])] := by
  have hids : renderedIds {} "# A\n\n## A\n".toList =
      [(1, some ['a']), (2, some ['a', '-', '1'])] := by
    decide +kernel
  have hsame : preprocess "# A\n\n## A\n".toList = "# A\n\n## A\n".toList := by decide +kernel
  have hraw : (Markdown.parse "# A\n\n## A\n".toList).flatMap Markdown.Token.rawHtml = [] := by
    decide +kernel
  obtain ⟨-, hcontents, -, -, htokens, hpage⟩ := numbering_agrees {} "# A\n\n## A\n".toList
  refine ⟨by decide +kernel, hsame, ?_, ?_, ?_⟩
  · rw [htokens hsame, hids]
  · rw [hcontents, hids]
    rfl
  · rw [← hids]
    exact hpage (hasPlainLanguages_ofEnvironment {}) hsame (hasWholeHtml_of_eq_nil hraw)
      (hasNoRawHeadings_of_eq_nil hraw)

end LiveMarkdown
