import LiveMarkdown.Proofs.Heading.Lookup
import LiveMarkdown.Proofs.Heading.PageText

/-!
# Slugs come back in the order of the table

A table of slugs is asked for a level, a block and a text, and for how many such headings there have
been. The page of a block counts its own headings for that. Here the two ways of counting are put
together: headings that the table does not know get nothing and do not count (`filter_entriesFor`),
and if those that it knows are the block's entries, in order, each of them gets the slug of its own
entry (`injection_restores_order`).

What else injection does to a page is said by leaving out what it may change: without the ids of the
headings that the table knows, the page is what it was (`eraseIds_setIds`).
-/

namespace LiveMarkdown

open Html (Attributes Node)

/-- Do the entries have a heading of this level and text? -/
def isKnown (own : List HeadingInfo) (level : Nat) (text : Text) : Bool :=
  own.any fun e => e.level = level && e.text = text

/-- The heading is one that the entries have. -/
def PageHeading.isKnownIn (own : List HeadingInfo) (h : PageHeading) : Bool :=
  isKnown own h.level h.text

/-! ## Pages without ids -/

mutual

/-- The node without the ids of known headings. -/
def eraseNodeIds (known : Nat → Text → Bool) : Node → Node
  | .leaf kind t => .leaf kind t
  | .element name attrs children =>
    let attrs := match elementLevel? name with
      | some level =>
        if known level (plainText children) then attrs.filter (·.1 ≠ ['i', 'd']) else attrs
      | none => attrs
    .element name attrs (eraseIds known children)

/-- The nodes without the ids of known headings. -/
def eraseIds (known : Nat → Text → Bool) : List Node → List Node
  | [] => []
  | n :: rest => eraseNodeIds known n :: eraseIds known rest

end

/-- There are ids for known headings only. -/
def FitKnown (known : Nat → Text → Bool) (hs : List PageHeading) (ids : List (Option Text)) :
    Prop :=
  ∀ (i : Nat) (h : PageHeading), hs[i]? = some h → known h.level h.text = false →
    ids[i]?.join = none

/-- Ids that fit known headings fit the first of them. -/
theorem FitKnown.left {known : Nat → Text → Bool} {hs hs' : List PageHeading}
    {ids : List (Option Text)} (h : FitKnown known (hs ++ hs') ids) : FitKnown known hs ids := by
  intro i g hg hknown
  have hlt := (List.getElem?_eq_some_iff.1 hg).1
  exact h i g ((List.getElem?_append_left hlt).trans hg) hknown

/-- Ids that fit known headings fit the last of them. -/
theorem FitKnown.right {known : Nat → Text → Bool} {hs hs' : List PageHeading}
    {ids : List (Option Text)} (h : FitKnown known (hs ++ hs') ids) :
    FitKnown known hs' (ids.drop hs.length) := by
  intro i g hg hknown
  rw [List.getElem?_drop]
  refine h (hs.length + i) g ?_ hknown
  rw [List.getElem?_append_right (Nat.le_add_right _ _), Nat.add_sub_cancel_left, hg]

/-- Ids that fit known headings fit all but the first of them. -/
theorem FitKnown.tail {known : Nat → Text → Bool} {g : PageHeading} {hs : List PageHeading}
    {ids : List (Option Text)} (h : FitKnown known (g :: hs) ids) : FitKnown known hs ids.tail := by
  rw [← List.drop_one]
  have hsplit : FitKnown known ([g] ++ hs) ids := h
  exact hsplit.right

/-- Setting an attribute leaves those with other names. -/
theorem filter_set (attrs : Attributes) (name value : Text) :
    (attrs.set name value).filter (·.1 ≠ name) = attrs.filter (·.1 ≠ name) := by
  induction attrs with
  | nil => simp [Attributes.set]
  | cons a rest ih =>
    obtain ⟨n, v⟩ := a
    rw [Attributes.set]
    split
    · next hn => simp [hn]
    · next hn => rw [List.filter_cons, List.filter_cons, ih]

/-- Setting an id leaves the other attributes. -/
theorem filter_withId (attrs : Attributes) (id : Option Text) :
    (withId attrs id).filter (·.1 ≠ ['i', 'd']) = attrs.filter (·.1 ≠ ['i', 'd']) := by
  cases id with
  | none => rfl
  | some id => exact filter_set attrs _ id

mutual

/-- Setting ids of known headings changes nothing but those ids. -/
theorem eraseNodeIds_setNodeIds {known : Nat → Text → Bool} : ∀ (n : Node)
    {ids : List (Option Text)}, FitKnown known (nodeHeadings n) ids →
    eraseNodeIds known (setNodeIds n ids).1 = eraseNodeIds known n
  | .leaf _ _, _, _ => by rw [setNodeIds]
  | .element name attrs children, ids, h => by
    cases hlevel : elementLevel? name with
    | none =>
      simp only [nodeHeadings, hlevel] at h
      rw [setNodeIds_other hlevel]
      simp only [eraseNodeIds, hlevel, eraseIds_setIds children h]
    | some level =>
      simp only [nodeHeadings, hlevel] at h
      rw [setNodeIds_heading hlevel]
      simp only [eraseNodeIds, hlevel, plainText_setIds, eraseIds_setIds children h.tail]
      cases hknown : known level (plainText children) with
      | true => simp only [if_true, filter_withId]
      | false =>
        have hnone := h 0 _ rfl hknown
        rw [← List.head?_eq_getElem?] at hnone
        rw [hnone]
        rfl

/-- Setting ids of known headings changes nothing but these. -/
theorem eraseIds_setIds {known : Nat → Text → Bool} : ∀ (nodes : List Node)
    {ids : List (Option Text)}, FitKnown known (pageHeadings nodes) ids →
    eraseIds known (setIds nodes ids).1 = eraseIds known nodes
  | [], _, _ => by rw [setIds]
  | n :: rest, ids, h => by
    rw [pageHeadings] at h
    have hrest := h.right
    rw [← (nodeHeadings_setNodeIds n ids).2] at hrest
    rw [setIds]
    simp only [eraseIds, eraseNodeIds_setNodeIds n h.left, eraseIds_setIds rest hrest]

end

/-! ## The entries of one block -/

/-- The entries of a block. -/
def ownEntries (infos : List HeadingInfo) (block : Text) : List HeadingInfo :=
  infos.filter (·.blockId = block)

/-- The entries are added behind those that were there. -/
theorem headings_foldl_add (infos : List HeadingInfo) (table : SlugTable) :
    (infos.foldl SlugTable.add table).headings = table.headings ++ infos := by
  induction infos generalizing table with
  | nil => rw [List.foldl_nil, List.append_nil]
  | cons e rest ih =>
    rw [List.foldl_cons, ih, SlugTable.add, List.append_assoc, List.singleton_append]

/-- Only the entries of its block are looked at for a key. -/
theorem withKey_eq_own (table : SlugTable) {block : Text} {k : HeadingKey}
    (hk : k.blockId = block) :
    table.withKey k = (⟨ownEntries table.headings block⟩ : SlugTable).withKey k := by
  rw [SlugTable.withKey, SlugTable.withKey, ownEntries, List.filter_filter]
  refine List.filter_congr fun e _ => ?_
  rw [← Bool.decide_and, decide_eq_decide]
  refine ⟨fun hkey => ⟨hkey, ?_⟩, And.left⟩
  rw [← hk, ← hkey]
  rfl

/-- The entries for the headings of a block come from its own entries. -/
theorem entriesFor_eq_own (table : SlugTable) (block : Text) (earlier hs : List PageHeading) :
    entriesFor table block earlier hs =
      entriesFor ⟨ownEntries table.headings block⟩ block earlier hs := by
  induction hs generalizing earlier with
  | nil => rfl
  | cons h rest ih =>
    rw [entriesFor, entriesFor, ih, SlugTable.get?_succ, SlugTable.get?_succ,
      withKey_eq_own table rfl]

/-- The headings like a known one are known. -/
theorem countP_filter_isKnownIn {own : List HeadingInfo} {h : PageHeading}
    (hknown : h.isKnownIn own) (earlier : List PageHeading) :
    (earlier.filter (·.isKnownIn own)).countP (fun e => e.level = h.level && e.text = h.text) =
      earlier.countP fun e => e.level = h.level && e.text = h.text := by
  rw [List.countP_filter]
  refine List.countP_congr fun e _ => ?_
  simp only [Bool.and_eq_true, decide_eq_true_eq, and_iff_left_iff_imp]
  rintro ⟨hlevel, htext⟩
  rwa [PageHeading.isKnownIn, hlevel, htext]

/-- The known headings find what they would find without the others. -/
theorem filter_entriesFor (own : List HeadingInfo) (block : Text) (earlier hs : List PageHeading) :
    (hs.zip (entriesFor ⟨own⟩ block earlier hs)).filter (fun p => p.1.isKnownIn own) =
      (hs.filter (·.isKnownIn own)).zip (entriesFor ⟨own⟩ block (earlier.filter (·.isKnownIn own))
        (hs.filter (·.isKnownIn own))) := by
  induction hs generalizing earlier with
  | nil => rfl
  | cons h rest ih =>
    have hrest := ih (h :: earlier)
    rw [entriesFor, List.zip_cons_cons, List.filter_cons, hrest]
    cases hknown : h.isKnownIn own with
    | true =>
      rw [List.filter_cons_of_pos hknown, List.filter_cons_of_pos hknown, entriesFor,
        List.zip_cons_cons, countP_filter_isKnownIn hknown]
      rfl
    | false =>
      rw [List.filter_cons_of_neg (Bool.eq_false_iff.1 hknown),
        List.filter_cons_of_neg (Bool.eq_false_iff.1 hknown)]
      rfl

section

variable {own : List HeadingInfo} {block : Text} (hown : ∀ e ∈ own, e.blockId = block)
include hown

/-- A heading is known exactly if there is an entry with its key. -/
theorem isKnownIn_iff {h : PageHeading} : h.isKnownIn own ↔ ∃ e ∈ own, e.key = h.keyIn block := by
  simp only [PageHeading.isKnownIn, isKnown, List.any_eq_true, Bool.and_eq_true, decide_eq_true_eq]
  refine exists_congr fun e => and_congr_right fun he => ?_
  rw [HeadingInfo.key, PageHeading.keyIn, HeadingKey.mk.injEq, hown e he]
  simp only [true_and]

/-- There are entries for known headings only. -/
theorem fitKnown_entriesFor (earlier hs : List PageHeading) :
    FitKnown (isKnown own) hs
      ((entriesFor ⟨own⟩ block earlier hs).map (Option.map HeadingInfo.slug)) := by
  intro i h hh hknown
  rw [List.getElem?_map]
  cases hentry : (entriesFor ⟨own⟩ block earlier hs)[i]? with
  | none => rfl
  | some e? =>
    cases e? with
    | none => rfl
    | some e =>
      obtain ⟨hlt, hentry⟩ := List.getElem?_eq_some_iff.1 hentry
      obtain ⟨hlt', hh⟩ := List.getElem?_eq_some_iff.1 hh
      have hfound := (forall₂_entriesFor ⟨own⟩ block earlier hs).get hlt hlt'
      simp only [List.get_eq_getElem, hentry, hh] at hfound
      have hisKnown := (isKnownIn_iff hown).2 ⟨e, hfound e rfl⟩
      rw [PageHeading.isKnownIn, hknown] at hisKnown
      cases hisKnown

/-- Headings that are those of the entries find these. -/
theorem entriesFor_eq_map_some {hs : List PageHeading}
    (hsame : hs.map (fun h => ((h.level : Int), h.text)) = own.map fun e => (e.level, e.text)) :
    entriesFor ⟨own⟩ block [] hs = own.map some := by
  have hkeys : own.map (·.key) = hs.map (·.keyIn block) := by
    have := congrArg (List.map fun p : Int × Text => HeadingKey.mk p.1 block p.2) hsame
    rw [List.map_map, List.map_map] at this
    refine Eq.trans (List.map_congr_left fun e he => ?_) this.symm
    rw [HeadingInfo.key, hown e he]
    rfl
  have htable : (⟨own⟩ : SlugTable).headings = [] ++ (own ++ []) := by
    rw [List.append_nil, List.nil_append]
  exact entriesFor_eq htable hkeys fun _ => rfl

/-- Some heading finds an entry if one is known and there has been none like it. -/
theorem exists_entry_of_isKnownIn {earlier hs : List PageHeading} {h : PageHeading} (hmem : h ∈ hs)
    (hknown : h.isKnownIn own)
    (hnone : earlier.countP (fun e => e.level = h.level && e.text = h.text) = 0) :
    ∃ e, some e ∈ entriesFor ⟨own⟩ block earlier hs := by
  induction hs generalizing earlier with
  | nil => exact absurd hmem List.not_mem_nil
  | cons g rest ih =>
    by_cases hsame : g.level = h.level ∧ g.text = h.text
    · obtain ⟨e, he, hkey⟩ := (isKnownIn_iff hown).1 hknown
      have hin : e ∈ (⟨own⟩ : SlugTable).withKey (h.keyIn block) :=
        List.mem_filter.2 ⟨he, decide_eq_true hkey⟩
      rw [entriesFor, SlugTable.get?_succ, hsame.1, hsame.2, hnone]
      have hfirst := List.getElem?_eq_getElem (List.length_pos_of_mem hin)
      exact ⟨_, List.mem_cons.2 (.inl hfirst.symm)⟩
    · rcases List.mem_cons.1 hmem with rfl | hmem
      · exact absurd ⟨rfl, rfl⟩ hsame
      · have hnone' : (g :: earlier).countP (fun e => e.level = h.level && e.text = h.text) = 0 := by
          rw [List.countP_cons_of_neg (by simpa using hsame), hnone]
        obtain ⟨e, he⟩ := ih hmem hnone'
        exact ⟨e, List.mem_cons_of_mem _ he⟩

/-- Entries are found exactly if some heading is known. -/
theorem exists_entry_iff {hs : List PageHeading} :
    (∃ e, some e ∈ entriesFor ⟨own⟩ block [] hs) ↔ hs.any (·.isKnownIn own) := by
  rw [List.any_eq_true]
  constructor
  · rintro ⟨e, he⟩
    obtain ⟨h, hh, m, -, hplace⟩ := exists_place_of_mem_entriesFor he
    obtain ⟨hmem, hkey⟩ := SlugTable.key_of_mem_withKey (List.mem_of_getElem? hplace)
    exact ⟨h, hh, (isKnownIn_iff hown).2 ⟨e, hmem, hkey⟩⟩
  · rintro ⟨h, hh, hknown⟩
    exact exists_entry_of_isKnownIn hown hh hknown rfl

end

/-! ## The page of a block -/

/-- Where there is an answer for each heading, each has its new id, or else its own. -/
theorem withIds_eq_map {hs : List PageHeading} {ids : List (Option Text)}
    (h : hs.length = ids.length) :
    withIds hs ids = (hs.zip ids).map fun p => { p.1 with id := p.2.or p.1.id } := by
  induction hs generalizing ids with
  | nil => rfl
  | cons g rest ih =>
    cases ids with
    | nil => cases h
    | cons id ids => rw [withIds, ih (Nat.succ.inj h)]; rfl

/-- The known headings, one by one, have the slugs of the entries. -/
theorem map_zip_own {own : List HeadingInfo} {hs : List PageHeading}
    (hsame : hs.map (fun h => ((h.level : Int), h.text)) = own.map fun e => (e.level, e.text)) :
    (hs.zip (own.map some)).map (fun p : PageHeading × Option HeadingInfo =>
        ((p.1.level : Int), p.1.text, (p.2.map (·.slug)).or p.1.id)) =
      own.map fun e => (e.level, e.text, some e.slug) := by
  induction own generalizing hs with
  | nil =>
    rw [List.map_nil, List.zip_nil_right]
    rfl
  | cons e rest ih =>
    obtain ⟨h, hs', rfl, hfirst, hrest⟩ := List.map_eq_cons_iff.1 hsame
    obtain ⟨hlevel, htext⟩ := Prod.mk.inj hfirst
    simp only [List.map_cons, List.zip_cons_cons, ih hrest, hlevel, htext, Option.map_some,
      Option.some_or]

/-- If the known headings are those of the entries, each gets the slug of its own entry. -/
theorem filter_withIds {own : List HeadingInfo} {block : Text} (hown : ∀ e ∈ own, e.blockId = block)
    {hs : List PageHeading}
    (hsame : (hs.filter (·.isKnownIn own)).map (fun h => ((h.level : Int), h.text)) =
      own.map fun e => (e.level, e.text)) :
    ((withIds hs ((entriesFor ⟨own⟩ block [] hs).map (Option.map HeadingInfo.slug))).filter
        (·.isKnownIn own)).map (fun h => ((h.level : Int), h.text, h.id)) =
      own.map fun e => (e.level, e.text, some e.slug) := by
  have hlength : hs.length =
      ((entriesFor ⟨own⟩ block [] hs).map (Option.map HeadingInfo.slug)).length := by
    rw [List.length_map, length_entriesFor]
  have hknown := filter_entriesFor own block [] hs
  rw [List.filter_nil, entriesFor_eq_map_some hown hsame] at hknown
  rw [withIds_eq_map hlength, List.zip_map_right, List.map_map, List.filter_map, List.map_map,
    ← map_zip_own hsame, ← hknown]
  rfl

/-- New ids leave the levels and texts of headings. -/
theorem map_withIds (hs : List PageHeading) (ids : List (Option Text)) :
    (withIds hs ids).map (fun h => (h.level, h.text)) = hs.map fun h => (h.level, h.text) := by
  induction hs generalizing ids with
  | nil => rfl
  | cons h rest ih =>
    cases ids with
    | nil => rfl
    | cons id ids => rw [withIds, List.map_cons, List.map_cons, ih]

/-- The slugs for a block are those of its own entries. -/
theorem slugsFor_foldl_add (infos : List HeadingInfo) (block : Text) (hs : List PageHeading) :
    slugsFor (infos.foldl SlugTable.add {}) block [] hs =
      (entriesFor ⟨ownEntries infos block⟩ block [] hs).map (Option.map HeadingInfo.slug) := by
  rw [slugsFor_eq_map, entriesFor_eq_own, headings_foldl_add, List.nil_append]

/-- A page is written anew if some heading is known, and stays the text that it was if not. -/
theorem injectSlugs_foldl_add (infos : List HeadingInfo) (block : Text) {html : Text}
    {nodes : List Node} (hnodes : Html.pageNodes html = .ok nodes) :
    injectSlugs html (infos.foldl SlugTable.add {}) block =
      .ok (if (pageHeadings nodes).any (·.isKnownIn (ownEntries infos block)) then
        Html.pageText (setIds nodes
          (slugsFor (infos.foldl SlugTable.add {}) block [] (pageHeadings nodes))).1
        else html) := by
  have hown : ∀ e ∈ ownEntries infos block, e.blockId = block := fun e he =>
    of_decide_eq_true (List.mem_filter.1 he).2
  have hentries : entriesFor (infos.foldl SlugTable.add {}) block [] (pageHeadings nodes) =
      entriesFor ⟨ownEntries infos block⟩ block [] (pageHeadings nodes) := by
    rw [entriesFor_eq_own, headings_foldl_add, List.nil_append]
  have hunused : usedEntries (infos.foldl SlugTable.add {}) block html = [] ↔
      ¬(pageHeadings nodes).any (·.isKnownIn (ownEntries infos block)) := by
    rw [usedEntries_eq hnodes, hentries, List.filterMap_eq_nil_iff, ← exists_entry_iff hown]
    refine ⟨fun hnone ⟨e, he⟩ => Option.some_ne_none e (hnone _ he), fun hnone e? he => ?_⟩
    exact Option.eq_none_iff_forall_ne_some.2 fun e heq => hnone ⟨e, heq ▸ he⟩
  rw [injectSlugs_eq hnodes, injectedNodes, ← slugsFor_eq_map]
  simp only [hunused, ite_not]

/-- A table is built from entries of any blocks in any order, and asked for a page. If the headings
that the block's entries know are, in order, those of the entries, each gets the slug of its own
entry. Whatever they are, the page is what it was but for the ids of known headings; it is written
anew if it has such a heading, and stays the text that it was if not. Only the block's own entries
matter for all this. -/
theorem injection_restores_order (infos : List HeadingInfo) (block : Text) (nodes : List Node) :
    let table := infos.foldl SlugTable.add {}
    let own := ownEntries infos block
    let after := (setIds nodes (slugsFor table block [] (pageHeadings nodes))).1
    (((pageHeadings nodes).filter (·.isKnownIn own)).map (fun h => ((h.level : Int), h.text)) =
        own.map (fun e => (e.level, e.text)) →
      ((pageHeadings after).filter (·.isKnownIn own)).map
          (fun h => ((h.level : Int), h.text, h.id)) =
        own.map fun e => (e.level, e.text, some e.slug)) ∧
    (pageHeadings after).map (fun h => (h.level, h.text)) =
      (pageHeadings nodes).map (fun h => (h.level, h.text)) ∧
    eraseIds (isKnown own) after = eraseIds (isKnown own) nodes ∧
    (∀ html, Html.pageNodes html = .ok nodes → injectSlugs html table block =
      .ok (if (pageHeadings nodes).any (·.isKnownIn own) then Html.pageText after else html)) ∧
    ∀ infos', ownEntries infos' block = own →
      (setIds nodes (slugsFor (infos'.foldl SlugTable.add {}) block [] (pageHeadings nodes))).1 =
        after ∧
      ∀ html, Html.pageNodes html = .ok nodes →
        injectSlugs html (infos'.foldl SlugTable.add {}) block = injectSlugs html table block := by
  intro table own after
  have hown : ∀ e ∈ own, e.blockId = block := fun e he => of_decide_eq_true (List.mem_filter.1 he).2
  have hslugs := slugsFor_foldl_add infos block (pageHeadings nodes)
  have hafter : pageHeadings after = withIds (pageHeadings nodes)
      ((entriesFor ⟨own⟩ block [] (pageHeadings nodes)).map (Option.map HeadingInfo.slug)) := by
    rw [pageHeadings_setIds, hslugs]
  refine ⟨fun hsame => ?_, ?_, ?_, fun html hnodes => injectSlugs_foldl_add infos block hnodes,
    fun infos' hsame => ?_⟩
  · rw [hafter]
    exact filter_withIds hown hsame
  · rw [hafter, map_withIds]
  · refine eraseIds_setIds nodes ?_
    rw [hslugs]
    exact fitKnown_entriesFor hown [] _
  · have hslugs' := slugsFor_foldl_add infos' block (pageHeadings nodes)
    rw [hsame, ← hslugs] at hslugs'
    refine ⟨by rw [hslugs'], fun html hnodes => ?_⟩
    rw [injectSlugs_foldl_add infos' block hnodes, injectSlugs_foldl_add infos block hnodes,
      hslugs', hsame]

/-- The entries of two blocks by turns, with a heading that is repeated. -/
def mixedEntries : List HeadingInfo :=
  [⟨1, ['A'], ['a'], ['x'], 1, 1⟩, ⟨1, ['A'], ['a', '-', '1'], ['y'], 1, 2⟩,
    ⟨2, ['B'], ['b'], ['x'], 1, 1⟩, ⟨1, ['A'], ['a', '-', '2'], ['x'], 2, 3⟩]

/-- A page with a heading that is not in the table, and one that is inside of another element. -/
def mixedPage : Text :=
  "<h1>A</h1><h2 id=\"z\">Z</h2><h2 id=\"old\">B</h2><div><h1 class=\"k\">A</h1></div>"

/-- Each heading of the block gets its own slug, past the entries of the other block and the heading
that is not known. -/
theorem injection_restores_order_mixed :
    ∃ nodes, Html.pageNodes mixedPage = .ok nodes ∧
      ((pageHeadings (setIds nodes (slugsFor (mixedEntries.foldl SlugTable.add {}) ['x'] []
          (pageHeadings nodes))).1).filter (·.isKnownIn (ownEntries mixedEntries ['x']))).map
            (fun h => ((h.level : Int), h.text, h.id)) =
        [(1, ['A'], some ['a']), (2, ['B'], some ['b']), (1, ['A'], some ['a', '-', '2'])] ∧
      injectSlugs mixedPage (mixedEntries.foldl SlugTable.add {}) ['x'] =
        .ok (Html.pageText (setIds nodes (slugsFor (mixedEntries.foldl SlugTable.add {}) ['x'] []
          (pageHeadings nodes))).1) := by
  have hopt : (Html.pageNodes mixedPage).toOption.map pageHeadings =
      some [⟨1, ['A'], none⟩, ⟨2, ['Z'], some ['z']⟩, ⟨2, ['B'], some "old".toList⟩,
        ⟨1, ['A'], none⟩] := by decide +kernel
  cases hnodes : Html.pageNodes mixedPage with
  | error e => rw [hnodes] at hopt; cases hopt
  | ok nodes =>
    rw [hnodes] at hopt
    have hheadings : pageHeadings nodes = [⟨1, ['A'], none⟩, ⟨2, ['Z'], some ['z']⟩,
        ⟨2, ['B'], some "old".toList⟩, ⟨1, ['A'], none⟩] := Option.some.inj hopt
    obtain ⟨horder, -, -, hhtml, -⟩ := injection_restores_order mixedEntries ['x'] nodes
    have hknown : (pageHeadings nodes).any (·.isKnownIn (ownEntries mixedEntries ['x'])) := by
      rw [hheadings]
      decide
    refine ⟨nodes, rfl, (horder ?_).trans (by decide), ?_⟩
    · rw [hheadings]
      decide
    · rw [hhtml mixedPage hnodes, if_pos hknown]

end LiveMarkdown
