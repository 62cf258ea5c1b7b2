import LiveMarkdown.Proofs.Heading.Lookup
import LiveMarkdown.Proofs.Markdown.Rendered
import LiveMarkdown.Proofs.Preview.Blocks

/-!
# When the two renders agree

A document is rendered in one pass, where one numbering gives its headings their ids, or block by
block, where each block looks its headings up in the table of slugs. Both lists of headings are
found (`lists_document`, `lists_block`), so that the two agree exactly if each lookup finds what the
numbering gives.

A lookup goes by what the block's page shows. If all headings are Markdown and say something, and
preparing the text leaves them alone, the two agree exactly if the pages of the blocks show what the
table has been made from: the same levels and texts, in the same blocks (`found_eq_iff`).
-/

namespace LiveMarkdown

open Html (MarkupError Node)
open Markdown (Token)

/-! ## Both lists -/

/-- The headings of a document that is rendered in one pass. -/
def documentHeadings (t : Text) : List (Nat × Option Text) :=
  if Text.allBlank t then [] else numberedTokens {} (Markdown.parse (preprocess t))

/-- The headings of a block before they are looked up. -/
def bareHeadings (c : Config) (source : Text) : List PageHeading :=
  ((Html.pageNodes (bareHtml c source)).map pageHeadings).toOption.getD []

/-- The headings of a block with the ids that a table has for them. -/
def foundHeadings (c : Config) (table : SlugTable) (b : Block) : List (Nat × Option Text) :=
  let hs := bareHeadings c b.source
  listed (withIds hs (slugsFor table b.id [] hs))

/-- Without a table to take ids from, every document has a page. -/
theorem exists_page (c : Config) (t : Text) : ∃ page, renderDocument c none t = .ok page := by
  unfold renderDocument
  split
  · exact ⟨_, rfl⟩
  · exact ⟨_, rfl⟩

section

variable {c : Config} (hc : c.HasPlainLanguages)
include hc

/-- The page of a document lists its headings. -/
theorem lists_document {t page : Text} (hpage : renderDocument c none t = .ok page)
    (h : HasWholeHtml (Markdown.parse (preprocess t))) : Lists page (documentHeadings t) := by
  unfold renderDocument at hpage
  unfold documentHeadings
  split at hpage
  · next hblank =>
    rw [if_pos hblank, ← Except.ok.inj hpage]
    exact lists_nil
  · next hblank =>
    rw [if_neg hblank, ← Except.ok.inj hpage]
    exact lists_documentStages hc h

/-- The HTML of a block without ids lists the headings of its tokens. -/
theorem lists_bareHtml {source : Text} (h : HasWholeHtml (Markdown.parse (preprocess source))) :
    Lists (bareHtml c source) (if Text.allBlank source then []
      else (Markdown.parse (preprocess source)).flatMap Markdown.Token.shown) := by
  unfold bareHtml
  split
  · exact lists_nil
  · exact lists_blockStages hc h

end

/-- Headings keep their ids where nothing is found. -/
theorem withIds_of_forall_none {ids : List (Option Text)} (h : ∀ id ∈ ids, id = none)
    (hs : List PageHeading) : withIds hs ids = hs := by
  induction hs generalizing ids with
  | nil => rfl
  | cons g rest ih =>
    cases ids with
    | nil => rfl
    | cons id ids =>
      rw [withIds, h id List.mem_cons_self, ih fun i hi => h i (List.mem_cons_of_mem _ hi)]
      rfl

/-- A rendered block lists its headings with the ids that are found. -/
theorem lists_block {c : Config} {table : SlugTable} {b : Block} {hs : List (Nat × Option Text)}
    (hbare : Lists (bareHtml c b.source) hs)
    (hb : injectSlugs (bareHtml c b.source) table b.id = .ok b.html) :
    Lists b.html (foundHeadings c table b) := by
  obtain ⟨nodes, hnodes, hreadable, rfl⟩ := hbare.exists_page
  have hheadings : bareHeadings c b.source = pageHeadings nodes := by rw [bareHeadings, hnodes]; rfl
  rw [injectSlugs_eq hnodes] at hb
  rw [foundHeadings, hheadings, slugsFor_eq_map, ← Except.ok.inj hb]
  by_cases hused : usedEntries table b.id (bareHtml c b.source) = []
  · rw [if_pos hused]
    rw [usedEntries_eq hnodes, List.filterMap_eq_nil_iff] at hused
    refine (withIds_of_forall_none (fun id hid => ?_) (pageHeadings nodes)).symm ▸ hbare
    obtain ⟨e, he, rfl⟩ := List.mem_map.1 hid
    exact (congrArg (Option.map HeadingInfo.slug) (hused e he))
  · rw [if_neg hused, injectedNodes, ← pageHeadings_setIds]
    exact lists_pageText (hreadable.setIds _)

/-! ## Headings that are all Markdown -/

/-- The raw HTML of tokens has no headings. -/
def HasNoRawHeadings (ts : List Token) : Prop :=
  ∀ html ∈ ts.flatMap Markdown.Token.rawHtml, rawHeadings html = []

/-- Where there is no raw HTML, it has no headings. -/
theorem hasNoRawHeadings_of_eq_nil {ts : List Token} (h : ts.flatMap Markdown.Token.rawHtml = []) :
    HasNoRawHeadings ts := by
  rw [HasNoRawHeadings, h]
  exact List.forall_mem_nil _

/-- Without headings in raw HTML, a token that opens none has none. -/
theorem shown_eq_nil {t : Token} (h : ∀ html ∈ t.rawHtml, rawHeadings html = [])
    (hl : t.headingLevel? = none) : t.shown = [] := by
  obtain ⟨kind, attrs, span, content, hidden⟩ := t
  cases kind with
  | opening container =>
    cases container with
    | heading level => cases hl
    | _ => rfl
  | inline children =>
    refine List.flatMap_eq_nil_iff.2 fun u hu => ?_
    have hchild : ∀ html ∈ u.rawHtml, rawHeadings html = [] :=
      fun html hhtml => h html (List.mem_flatMap.2 ⟨u, hu, hhtml⟩)
    obtain ⟨kind, content, attrs⟩ := u
    cases kind with
    | html => exact hchild content List.mem_cons_self
    | _ => rfl
  | html => exact h _ List.mem_cons_self
  | _ => rfl

/-- Without headings in raw HTML, the headings of tokens are those that are numbered. -/
theorem numberedTokens_eq (s : Slugger) {ts : List Token} (h : HasNoRawHeadings ts) :
    numberedTokens s ts = (numberedFrom s (headings ts)).map fun p => (p.1.level, p.2) := by
  induction ts generalizing s with
  | nil => rfl
  | cons t rest ih =>
    have hrest (s : Slugger) := ih s fun html hhtml => h html (List.mem_append_right _ hhtml)
    rw [numberedTokens, headings]
    cases hl : t.headingLevel? with
    | none =>
      have hnone : t.shown = [] := shown_eq_nil (fun html hhtml => h html (List.mem_append_left _ hhtml)) hl
      dsimp only
      rw [hnone, List.nil_append, hrest]
    | some level =>
      dsimp only
      rw [numberedFrom]
      split
      · rw [List.map_cons, hrest]
      · rw [List.map_cons, hrest]

/-- The headings of a block that are Markdown have no ids of their own. -/
theorem id_eq_none_of_mem_shown {ts : List Token} (h : HasNoRawHeadings ts)
    (hheadings : ∀ t ∈ ts, t.IsPlainHeading) : ∀ p ∈ ts.flatMap Markdown.Token.shown, p.2 = none := by
  intro p hp
  obtain ⟨t, ht, hp⟩ := List.mem_flatMap.1 hp
  cases hl : t.headingLevel? with
  | none =>
    rw [shown_eq_nil (fun html hhtml => h html (List.mem_flatMap.2 ⟨t, ht, hhtml⟩)) hl] at hp
    cases hp
  | some level =>
    have hattrs : t.attrs = [] := hheadings t ht (by rw [hl]; rfl)
    rw [shown_of_headingLevel? hl, hattrs] at hp
    rw [List.mem_singleton.1 hp]
    rfl

/-- Without headings in raw HTML, the headings of a block have no ids of their own. -/
theorem id_eq_none_of_mem_bareHeadings {c : Config} (hc : c.HasPlainLanguages) {source : Text}
    (h : HasWholeHtml (Markdown.parse (preprocess source)))
    (hraw : HasNoRawHeadings (Markdown.parse (preprocess source))) :
    ∀ g ∈ bareHeadings c source, g.id = none := by
  obtain ⟨nodes, hnodes, -, hlisted⟩ := (lists_bareHtml hc h).exists_page
  have hheadings : bareHeadings c source = pageHeadings nodes := by rw [bareHeadings, hnodes]; rfl
  intro g hg
  have hmem : (g.level, g.id) ∈ listed (pageHeadings nodes) :=
    List.mem_map_of_mem (f := fun g : PageHeading => (g.level, g.id)) (hheadings ▸ hg)
  rw [hlisted] at hmem
  split at hmem
  · cases hmem
  · exact id_eq_none_of_mem_shown hraw (Markdown.plainHeadings_parse _) _ hmem

/-- The walk goes by levels and texts alone. -/
theorem numberedFrom_congr (s : Slugger) {hs hs' : List Heading}
    (h : hs.map (fun h => (h.level, h.text)) = hs'.map fun h => (h.level, h.text)) :
    (numberedFrom s hs).map (fun p => (p.1.level, p.2)) =
      (numberedFrom s hs').map fun p => (p.1.level, p.2) := by
  induction hs generalizing s hs' with
  | nil => rw [List.map_eq_nil_iff.1 h.symm]
  | cons g rest ih =>
    obtain ⟨g', rest', rfl, hsame, hrest⟩ := List.map_eq_cons_iff.1 h.symm
    obtain ⟨hlevel, htext⟩ := Prod.mk.inj hsame
    rw [numberedFrom, numberedFrom, htext]
    split
    · rw [List.map_cons, List.map_cons, hlevel, ih s hrest.symm]
    · rw [List.map_cons, List.map_cons, hlevel, ih _ hrest.symm]

/-- Headings that all say something have the slugs of their texts, in order. -/
theorem numberedFrom_of_named (s : Slugger) {hs : List Heading}
    (h : ∀ h ∈ hs, Text.allBlank h.text = false) :
    (numberedFrom s hs).map (fun p => (p.1.level, p.2)) =
      (hs.zip (s.issueAll (hs.map (·.text)))).map fun p => (p.1.level, some p.2) := by
  induction hs generalizing s with
  | nil => rfl
  | cons g rest ih =>
    have hnamed : ¬Text.allBlank g.text := Bool.eq_false_iff.1 (h g List.mem_cons_self)
    rw [numberedFrom, if_neg hnamed, List.map_cons, ih _ fun h' hmem => h h' (List.mem_cons_of_mem _ hmem)]
    rfl

/-- A document whose headings are all Markdown and say something has the slugs of the table, in
order, if preparing the text leaves the headings alone. -/
theorem documentHeadings_eq {t : Text} {sources : List BlockSource}
    (hsplit : splitBlocks t = .ok sources) (hraw : HasNoRawHeadings (Markdown.parse (preprocess t)))
    (hsame : (headings (Markdown.parse (preprocess t))).map (fun h => (h.level, h.text)) =
      (headings (Markdown.parse t)).map fun h => (h.level, h.text))
    (hnamed : ∀ h ∈ headings (Markdown.parse t), Text.allBlank h.text = false) :
    documentHeadings t = (resolveSlugs t).headings.map fun e => (e.level.toNat, some e.slug) := by
  have hall : namedHeadings (Markdown.parse t) = headings (Markdown.parse t) :=
    List.filter_eq_self.2 fun h hmem => by rw [hnamed h hmem]; rfl
  have hentries := congrArg (List.map fun e : Int × Text × Text => (e.1.toNat, some e.2.2))
    (entriesFrom_map (fun line => owningBlock (ownedLines sources) line) {} []
      (namedHeadings (Markdown.parse t)))
  rw [List.map_map, List.map_map, ← headings_resolveSlugs hsplit, hall] at hentries
  refine Eq.trans ?_ hentries.symm
  unfold documentHeadings
  split
  · next hblank =>
    rw [headings_parse_of_allBlank hblank]
    rfl
  · rw [numberedTokens_eq {} hraw, numberedFrom_congr {} hsame, numberedFrom_of_named {} hnamed]
    rfl

/-! ## What the blocks look up -/

/-- The headings that the blocks look up, for each block. -/
def lookups (c : Config) (blocks : List Block) : List (Text × List PageHeading) :=
  blocks.map fun b => (b.id, bareHeadings c b.source)

/-- Headings without ids have the ids that are set. -/
theorem listed_withIds {hs : List PageHeading} (h : ∀ g ∈ hs, g.id = none) {ids : List (Option Text)}
    (hlength : hs.length = ids.length) :
    listed (withIds hs ids) = (hs.map (·.level)).zip ids := by
  induction hs generalizing ids with
  | nil => rfl
  | cons g rest ih =>
    cases ids with
    | nil => cases hlength
    | cons id ids =>
      have hrest := ih (fun g' hmem => h g' (List.mem_cons_of_mem _ hmem)) (Nat.succ.inj hlength)
      rw [withIds, h g List.mem_cons_self, Option.or_none, List.map_cons, List.zip_cons_cons, ← hrest]
      rfl

/-- The blocks list their levels with the slugs that are found. -/
theorem flatMap_foundHeadings {c : Config} (table : SlugTable) {blocks : List Block}
    (h : ∀ b ∈ blocks, ∀ g ∈ bareHeadings c b.source, g.id = none) :
    blocks.flatMap (foundHeadings c table) =
      ((keysOf (lookups c blocks)).map (·.level.toNat)).zip
        ((entriesOf table (lookups c blocks)).map (Option.map (·.slug))) := by
  induction blocks with
  | nil => rfl
  | cons b rest ih =>
    have hlength : (bareHeadings c b.source).length =
        ((entriesFor table b.id [] (bareHeadings c b.source)).map (Option.map (·.slug))).length := by
      rw [List.length_map, length_entriesFor]
    have hfirst := listed_withIds (h b List.mem_cons_self) hlength
    rw [List.flatMap_cons, ih fun b' hb' => h b' (List.mem_cons_of_mem _ hb'), foundHeadings,
      slugsFor_eq_map, hfirst]
    simp only [lookups, keysOf, entriesOf, List.map_cons, List.flatMap_cons, List.map_append,
      List.map_map]
    rw [List.zip_append (by rw [List.length_map, List.length_map, length_entriesFor])]
    rfl

/-- Where the document has the slugs of the table, the blocks list the same exactly if they look up
what the table has. -/
theorem found_eq_iff {c : Config} {table : SlugTable}
    (hslugs : (table.headings.map (·.slug)).Nodup) {blocks : List Block}
    (hids : (blocks.map (·.id)).Nodup)
    (h : ∀ b ∈ blocks, ∀ g ∈ bareHeadings c b.source, g.id = none) :
    (table.headings.map fun e => (e.level.toNat, some e.slug)) = blocks.flatMap (foundHeadings c table) ↔
      keysOf (lookups c blocks) = table.headings.map (·.key) := by
  have hblocks : ((lookups c blocks).map (·.1)).Nodup := by
    rw [lookups, List.map_map]
    exact hids
  have hlength : (keysOf (lookups c blocks)).length = (entriesOf table (lookups c blocks)).length :=
    (forall₂_entriesOf table (lookups c blocks)).length_eq.symm
  have hsplit : (table.headings.map fun e => (e.level.toNat, some e.slug)) =
      (table.headings.map (·.level.toNat)).zip (table.headings.map fun e => some e.slug) :=
    List.zip_map'.symm
  rw [flatMap_foundHeadings table h, hsplit]
  constructor
  · intro heq
    have := congrArg (List.map (·.2)) heq
    rw [List.map_snd_zip (by simp), List.map_snd_zip (by simp [hlength])] at this
    exact (slugs_eq_iff hslugs hblocks).1 this.symm
  · intro hkeys
    rw [(slugs_eq_iff hslugs hblocks).2 hkeys, hkeys, List.map_map]
    rfl

/-! ## The agreement -/

/-- What the render in one pass and the blocks of a document list, if its raw HTML has whole tags, and
when this is the same: exactly if each block finds what the one numbering gives. If all headings are
Markdown and say something, and preparing the text leaves them alone, this is exactly if the blocks
look up what the table has: the same levels and texts, in the same blocks and in order. -/
theorem renders_agree_iff (env : Config.Environment) {t : Text} {blocks : List Block}
    (hrender : renderBlocks (.ofEnvironment env) t = .ok blocks)
    (hdocument : HasWholeHtml (Markdown.parse (preprocess t)))
    (hblocks : ∀ b ∈ blocks, HasWholeHtml (Markdown.parse (preprocess b.source))) :
    let c := Config.ofEnvironment env
    let table := resolveSlugs t
    ∃ page, renderDocument c none t = .ok page ∧
      listHeadings page = .ok (documentHeadings t) ∧
      listHeadings (blocks.flatMap (·.html)) = .ok (blocks.flatMap (foundHeadings c table)) ∧
      (listHeadings page = listHeadings (blocks.flatMap (·.html)) ↔
        documentHeadings t = blocks.flatMap (foundHeadings c table)) ∧
      (HasNoRawHeadings (Markdown.parse (preprocess t)) →
        (∀ b ∈ blocks, HasNoRawHeadings (Markdown.parse (preprocess b.source))) →
        (headings (Markdown.parse (preprocess t))).map (fun h => (h.level, h.text)) =
          (headings (Markdown.parse t)).map (fun h => (h.level, h.text)) →
        (∀ h ∈ headings (Markdown.parse t), Text.allBlank h.text = false) →
        (listHeadings page = listHeadings (blocks.flatMap (·.html)) ↔
          keysOf (lookups c blocks) = table.headings.map (·.key))) := by
  intro c table
  have hc : c.HasPlainLanguages := hasPlainLanguages_ofEnvironment env
  obtain ⟨page, hpage⟩ := exists_page c t
  have hleft := (lists_document hc hpage hdocument).listHeadings
  have hright : listHeadings (blocks.flatMap (·.html)) =
      .ok (blocks.flatMap (foundHeadings c table)) := by
    refine Lists.listHeadings (Lists.flatMap fun b hb => ?_)
    exact lists_block (lists_bareHtml hc (hblocks b hb)) (injectSlugs_of_mem_renderBlocks hrender hb)
  have hiff : listHeadings page = listHeadings (blocks.flatMap (·.html)) ↔
      documentHeadings t = blocks.flatMap (foundHeadings c table) := by
    rw [hleft, hright, Except.ok.injEq]
  refine ⟨page, hpage, hleft, hright, hiff, fun hraw hrawBlocks hsame hnamed => hiff.trans ?_⟩
  obtain ⟨sources, hsplit, -⟩ := exists_split_of_renderBlocks hrender
  rw [documentHeadings_eq hsplit hraw hsame hnamed]
  refine found_eq_iff (nodup_slugs_resolveSlugs hsplit) (nodup_ids_renderBlocks hrender)
    fun b hb g hg => ?_
  exact id_eq_none_of_mem_bareHeadings hc (hblocks b hb) (hrawBlocks b hb) g hg

/-- Two headings that say the same: each finds its own entry, so that the renders agree. -/
theorem renders_agree_twice :
    ∃ page blocks, renderDocument (.ofEnvironment {}) none "# A\n\n# A\n".toList = .ok page ∧
      renderBlocks (.ofEnvironment {}) "# A\n\n# A\n".toList = .ok blocks ∧
      listHeadings (blocks.flatMap (·.html)) = .ok [(1, some ['a']), (1, some ['a', '-', '1'])] ∧
      listHeadings page = listHeadings (blocks.flatMap (·.html)) := by
  have hopt : (renderBlocks (.ofEnvironment {}) "# A\n\n# A\n".toList).toOption.map (fun blocks =>
      (blocks.map (·.source), keysOf (lookups (.ofEnvironment {}) blocks))) =
        some (["# A".toList, "# A".toList],
          (resolveSlugs "# A\n\n# A\n".toList).headings.map (·.key)) := by
    decide +kernel
  cases hrender : renderBlocks (.ofEnvironment {}) "# A\n\n# A\n".toList with
  | error e => rw [hrender] at hopt; cases hopt
  | ok blocks =>
    rw [hrender] at hopt
    obtain ⟨hsources, hkeys⟩ := Prod.mk.inj (Option.some.inj hopt)
    have hsource : ∀ b ∈ blocks, b.source = "# A".toList := by
      intro b hb
      have : b.source ∈ ["# A".toList, "# A".toList] := hsources ▸ List.mem_map_of_mem hb
      simpa using this
    have hraw : (Markdown.parse (preprocess "# A\n\n# A\n".toList)).flatMap
        Markdown.Token.rawHtml = [] := by
      decide +kernel
    have hrawBlock : (Markdown.parse (preprocess "# A".toList)).flatMap
        Markdown.Token.rawHtml = [] := by
      decide +kernel
    obtain ⟨page, hpage, hleft, -, -, hiff⟩ := renders_agree_iff {} hrender
      (hasWholeHtml_of_eq_nil hraw) fun b hb => hsource b hb ▸ hasWholeHtml_of_eq_nil hrawBlock
    have hagree := (hiff (hasNoRawHeadings_of_eq_nil hraw)
      (fun b hb => hsource b hb ▸ hasNoRawHeadings_of_eq_nil hrawBlock)
      (by decide +kernel) (by decide +kernel)).2 hkeys
    refine ⟨page, blocks, hpage, rfl, ?_, hagree⟩
    rw [← hagree, hleft]
    decide +kernel

/-- A block of its own does not know what is defined elsewhere: the heading of the first block has no
link, so that its text is another one and it is not found. -/
theorem heading_without_definition :
    (∀ line ∈ Text.lines "# [a]\n\n[a]: /x".toList, Text.trim line ≠ ['\\', '[']) ∧
      ∃ page blocks, renderDocument (.ofEnvironment {}) none "# [a]\n\n[a]: /x".toList = .ok page ∧
        renderBlocks (.ofEnvironment {}) "# [a]\n\n[a]: /x".toList = .ok blocks ∧
        listHeadings page = .ok [(1, some ['a'])] ∧
        listHeadings (blocks.flatMap (·.html)) = .ok [(1, none)] := by
  refine ⟨by decide, ?_⟩
  have hpage : (renderDocument (.ofEnvironment {}) none "# [a]\n\n[a]: /x".toList).toOption.map
      listHeadings = some (.ok [(1, some ['a'])]) := by
    decide +kernel
  have hblocks : (renderBlocks (.ofEnvironment {}) "# [a]\n\n[a]: /x".toList).toOption.map
      (fun blocks => listHeadings (blocks.flatMap (·.html))) = some (.ok [(1, none)]) := by
    decide +kernel
  cases hdocument : renderDocument (.ofEnvironment {}) none "# [a]\n\n[a]: /x".toList with
  | error e => rw [hdocument] at hpage; cases hpage
  | ok page =>
    cases hrender : renderBlocks (.ofEnvironment {}) "# [a]\n\n[a]: /x".toList with
    | error e => rw [hrender] at hblocks; cases hblocks
    | ok blocks =>
      rw [hdocument] at hpage
      rw [hrender] at hblocks
      exact ⟨page, blocks, rfl, rfl, Option.some.inj hpage, Option.some.inj hblocks⟩

end LiveMarkdown
