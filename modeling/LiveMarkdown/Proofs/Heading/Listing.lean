import LiveMarkdown.Proofs.Heading.PageText
import LiveMarkdown.Proofs.Html.Rewritten

/-!
# The headings that a page lists

A page lists its headings with their levels and ids. In a text with whole tags they are told by the
tags that open (`Lists`), so that the lists of two texts one after the other are one after the other,
too. Writing a page with new ids gives a text that lists the headings with these ids
(`lists_pageText`), whatever else is changed by writing it.
-/

namespace LiveMarkdown

open Html (Attributes MarkupError Node Part Tagged ArePlain tagsOf nodeParts nodesParts)

/-- The level and the id of each heading. -/
def listed (hs : List PageHeading) : List (Nat × Option Text) := hs.map fun h => (h.level, h.id)

/-- The headings of a page as it is written, in order, with their levels and ids. -/
def listHeadings (html : Text) : Except MarkupError (List (Nat × Option Text)) :=
  (Html.pageNodes html).map fun nodes => listed (pageHeadings nodes)

/-- The heading that an element is, if it is one. -/
def headingOf? (tag : Text × Attributes) : Option (Nat × Option Text) :=
  (elementLevel? tag.1).map (·, tag.2.get? ['i', 'd'])

mutual

/-- The headings of a node are the headings among its tags. -/
theorem listed_nodeHeadings : ∀ (n : Node),
    listed (nodeHeadings n) = (tagsOf (nodeParts n)).filterMap headingOf?
  | .leaf _ _ => rfl
  | .element name attrs children => by
    have hchildren := listed_pageHeadings children
    have htags : tagsOf (nodeParts (.element name attrs children)) =
        (name, attrs) :: tagsOf (nodesParts children) := rfl
    rw [htags]
    cases hlevel : elementLevel? name with
    | none => simp only [nodeHeadings, hlevel, headingOf?, Option.map_none, List.filterMap_cons, hchildren]
    | some level =>
      simp only [nodeHeadings, hlevel, headingOf?, Option.map_some, List.filterMap_cons, ← hchildren]
      rfl

/-- The headings of a page are those of its elements, in order. -/
theorem listed_pageHeadings : ∀ (nodes : List Node),
    listed (pageHeadings nodes) = (tagsOf (nodesParts nodes)).filterMap headingOf?
  | [] => rfl
  | n :: rest => by
    have hfirst := listed_nodeHeadings n
    have hrest := listed_pageHeadings rest
    rw [nodesParts, Html.tagsOf_append, List.filterMap_append, ← hfirst, ← hrest, pageHeadings]
    exact List.map_append

end

/-! ## Ids that are read -/

/-- No list of words is an id. -/
theorem id_notMem_wordLists (name : Text) : ['i', 'd'] ∉ Html.wordLists name := by
  have hown {names attrs : List Text} (h : ['i', 'd'] ∉ attrs) :
      ['i', 'd'] ∉ (if names.contains name then attrs else []) := by
    split
    · exact h
    · exact List.not_mem_nil
  simp only [Html.wordLists, List.mem_append, not_or]
  refine ⟨⟨⟨⟨⟨⟨⟨⟨?_, hown ?_⟩, hown ?_⟩, hown ?_⟩, hown ?_⟩, hown ?_⟩, hown ?_⟩, hown ?_⟩, hown ?_⟩
  all_goals decide

/-- Reading a tag whose attributes have different names finds their values, but for lists of words. -/
theorem get?_foldl_set {attrs : Attributes} (h : (attrs.map (·.1)).Nodup) {key : Text}
    {read : Text × Text → Text} (hread : ∀ a ∈ attrs, a.1 = key → read a = a.2) (done : Attributes) :
    (attrs.foldl (fun done a => done.set a.1 (read a)) done).get? key =
      (attrs.get? key).or (done.get? key) := by
  induction attrs generalizing done with
  | nil => rfl
  | cons a rest ih =>
    obtain ⟨hname, hrest⟩ := List.nodup_cons.1 h
    rw [List.foldl_cons, ih hrest fun b hb => hread b (List.mem_cons_of_mem _ hb)]
    by_cases hkey : a.1 = key
    · have hnone : Attributes.get? rest key = none := by
        cases hvalue : Attributes.get? rest key with
        | none => rfl
        | some value =>
          have hmem := (Html.get?_eq_some_iff_mem hrest).1 hvalue
          exact absurd (List.mem_map.2 ⟨_, hmem, hkey.symm⟩) hname
      have hfirst : Attributes.get? (a :: rest) key = some a.2 := by
        unfold Attributes.get?
        rw [List.find?_cons_of_pos (by simpa using hkey)]
        rfl
      rw [hnone, hfirst, ← hkey, Attributes.get?_set_self, hread a List.mem_cons_self hkey]
      rfl
    · have hfirst : Attributes.get? (a :: rest) key = Attributes.get? rest key := by
        unfold Attributes.get?
        rw [List.find?_cons_of_neg (by simpa using hkey)]
      rw [hfirst, Attributes.get?_set_of_ne done (read a) hkey]

/-- The id of an element is the one its tag has, if no name is there twice. -/
theorem get?_id_tagAttributes (name : Text) {attrs : Attributes} (h : (attrs.map (·.1)).Nodup) :
    (Html.tagAttributes name attrs).get? ['i', 'd'] = attrs.get? ['i', 'd'] := by
  have hread (a : Text × Text) (ha : a.1 = ['i', 'd']) : (if (Html.wordLists name).contains a.1 then
      Text.join [' '] (Text.blankWords a.2) else a.2) = a.2 := by
    refine if_neg fun hlist => id_notMem_wordLists name ?_
    exact ha ▸ List.contains_iff_mem.1 hlist
  exact (get?_foldl_set h (fun a _ => hread a) []).trans (Option.or_none)

/-- The heading of a tag as it is read. -/
def readHeading? (tag : Text × Attributes) : Option (Nat × Option Text) :=
  headingOf? (tag.1, Html.tagAttributes tag.1 tag.2)

/-- A tag is read as the heading it is, if no name is there twice. -/
theorem readHeading?_eq {tag : Text × Attributes} (h : (tag.2.map (·.1)).Nodup) :
    readHeading? tag = headingOf? tag := by
  rw [readHeading?, headingOf?, headingOf?, get?_id_tagAttributes tag.1 h]

/-- Inserting an attribute by its name puts it among the others. -/
theorem perm_insertByName (a : Text × Text) (attrs : Attributes) :
    (Html.insertByName a attrs).Perm (a :: attrs) := by
  induction attrs with
  | nil => exact List.Perm.refl _
  | cons b rest ih =>
    rcases Html.insertByName_cons a b rest with h | h
    · rw [h]
      exact (ih.cons b).trans (List.Perm.swap a b rest)
    · rw [h]

/-- Sorting changes nothing but the order. -/
theorem perm_sortByName (attrs : Attributes) : (Html.sortByName attrs).Perm attrs := by
  induction attrs with
  | nil => exact List.Perm.refl _
  | cons a rest ih => exact (perm_insertByName a _).trans (ih.cons a)

/-- The heading of a tag that is written and read again. -/
theorem readHeading?_writtenTag {tag : Text × Attributes} (h : (tag.2.map (·.1)).Nodup) :
    readHeading? (Html.writtenTag tag) = headingOf? tag := by
  cases hlevel : elementLevel? tag.1 with
  | none => rw [readHeading?, headingOf?, headingOf?, Html.writtenTag, hlevel]; rfl
  | some level =>
    have hmeta : ∀ n ∈ headingNames, (n != "meta".toList) = true := by decide
    have hsame : Html.writtenTag tag = (tag.1, Html.sortByName tag.2) := by
      rw [Html.writtenTag, Html.writtenAttributes, if_pos (hmeta _ (mem_headingNames hlevel))]
    have hperm := perm_sortByName tag.2
    have hnodup : ((Html.sortByName tag.2).map (·.1)).Nodup := (hperm.map (·.1)).nodup_iff.2 h
    rw [hsame, readHeading?_eq hnodup, headingOf?, headingOf?]
    refine congrArg (fun id => Option.map (·, id) (elementLevel? tag.1)) (Option.ext fun value => ?_)
    rw [Html.get?_eq_some_iff_mem hnodup, Html.get?_eq_some_iff_mem h, Html.mem_sortByName]

/-! ## Texts that list headings -/

/-- A text with whole tags, in which these headings begin. -/
def Lists (t : Text) (hs : List (Nat × Option Text)) : Prop :=
  ∃ tags, Tagged t tags ∧ tags.filterMap readHeading? = hs

/-- Headings are listed one text after the other. -/
theorem Lists.append {t u : Text} {hs more : List (Nat × Option Text)} (ht : Lists t hs)
    (hu : Lists u more) : Lists (t ++ u) (hs ++ more) := by
  obtain ⟨tags, htags, rfl⟩ := ht
  obtain ⟨tags', htags', rfl⟩ := hu
  exact ⟨tags ++ tags', htags.append htags', List.filterMap_append⟩

/-- The empty text has no headings. -/
theorem lists_nil : Lists [] [] := ⟨[], .nil, rfl⟩

/-- Headings of several texts are listed one text after the other. -/
theorem Lists.flatMap {α : Type} {l : List α} {f : α → Text} {g : α → List (Nat × Option Text)}
    (h : ∀ a ∈ l, Lists (f a) (g a)) : Lists (l.flatMap f) (l.flatMap g) := by
  induction l with
  | nil => exact lists_nil
  | cons a rest ih =>
    rw [List.flatMap_cons, List.flatMap_cons]
    exact (h a List.mem_cons_self).append (ih fun b hb => h b (List.mem_cons_of_mem _ hb))

/-! ## Pages with new ids -/

/-- Plain nodes, in which no element has two attributes with one name. -/
structure AreReadable (parts : List Part) : Prop extends ArePlain parts where
  nodup : ∀ tag ∈ tagsOf parts, (tag.2.map (·.1)).Nodup

/-- Readable nodes are written so that the same headings begin. -/
theorem lists_pageText {nodes : List Node} (h : AreReadable (nodesParts nodes)) :
    Lists (Html.pageText nodes) (listed (pageHeadings nodes)) := by
  refine ⟨_, Html.tagged_nodesText nodes h.toArePlain, ?_⟩
  rw [List.filterMap_map, listed_pageHeadings]
  refine List.filterMap_congr fun tag htag => ?_
  exact readHeading?_writtenTag (h.nodup tag htag)

/-- The tags among parts are those parts that are tags. -/
theorem mem_tagsOf {parts : List Part} {tag : Text × Attributes} :
    tag ∈ tagsOf parts ↔ .tag tag.1 tag.2 ∈ parts := by
  obtain ⟨name, attrs⟩ := tag
  induction parts with
  | nil => exact ⟨nofun, nofun⟩
  | cons part rest ih =>
    cases part with
    | tag n as =>
      have hcons : tagsOf (.tag n as :: rest) = (n, as) :: tagsOf rest := rfl
      rw [hcons, List.mem_cons, ih, List.mem_cons, Prod.mk.injEq, Part.tag.injEq]
    | leaf kind =>
      have hcons : tagsOf (.leaf kind :: rest) = tagsOf rest := rfl
      rw [hcons, ih, List.mem_cons]
      exact ⟨.inr, fun h => h.resolve_left nofun⟩

/-- A part, or the same element with an id. -/
def IsWithId (part original : Part) : Prop :=
  part = original ∨ ∃ name attrs id, original = .tag name attrs ∧ part = .tag name (withId attrs id)

mutual

/-- Setting ids changes nothing but ids. -/
theorem exists_of_mem_setNodeIds : ∀ (n : Node) (ids : List (Option Text)),
    ∀ part ∈ nodeParts (setNodeIds n ids).1, ∃ original ∈ nodeParts n, IsWithId part original
  | .leaf kind t, ids, part, hpart => by
    rw [setNodeIds] at hpart
    exact ⟨part, hpart, .inl rfl⟩
  | .element name attrs children, ids, part, hpart => by
    have hinner {ids : List (Option Text)} (h : part ∈ nodesParts (setIds children ids).1) :
        ∃ original ∈ nodeParts (.element name attrs children), IsWithId part original := by
      obtain ⟨original, hmem, hsame⟩ := exists_of_mem_setIds children ids part h
      exact ⟨original, List.mem_cons_of_mem _ hmem, hsame⟩
    cases hlevel : elementLevel? name with
    | none =>
      rw [setNodeIds_other hlevel] at hpart
      rcases List.mem_cons.1 hpart with rfl | hpart
      · exact ⟨_, List.mem_cons_self, .inl rfl⟩
      · exact hinner hpart
    | some level =>
      rw [setNodeIds_heading hlevel] at hpart
      rcases List.mem_cons.1 hpart with rfl | hpart
      · exact ⟨_, List.mem_cons_self, .inr ⟨name, attrs, _, rfl, rfl⟩⟩
      · exact hinner hpart

/-- Setting ids changes nothing but the ids of elements. -/
theorem exists_of_mem_setIds : ∀ (nodes : List Node) (ids : List (Option Text)),
    ∀ part ∈ nodesParts (setIds nodes ids).1, ∃ original ∈ nodesParts nodes, IsWithId part original
  | [], ids, part, hpart => by
    rw [setIds] at hpart
    cases hpart
  | n :: rest, ids, part, hpart => by
    rw [setIds] at hpart
    rcases List.mem_append.1 hpart with hpart | hpart
    · obtain ⟨original, hmem, hsame⟩ := exists_of_mem_setNodeIds n ids part hpart
      exact ⟨original, List.mem_append_left _ hmem, hsame⟩
    · obtain ⟨original, hmem, hsame⟩ := exists_of_mem_setIds rest _ part hpart
      exact ⟨original, List.mem_append_right _ hmem, hsame⟩

end

/-- A plain tag with an id is still plain. -/
theorem isPlainTag_withId {name : Text} {attrs : Attributes} (h : Html.IsPlainTag (name, attrs))
    (id : Option Text) : Html.IsPlainTag (name, withId attrs id) where
  name := h.name
  verbatim := h.verbatim
  attrs := by
    cases id with
    | none => exact h.attrs
    | some id => exact Html.forall_names_set h.attrs (by decide) id

/-- Setting an id brings in no name twice. -/
theorem nodup_withId {attrs : Attributes} (h : (attrs.map (·.1)).Nodup) (id : Option Text) :
    ((withId attrs id).map (·.1)).Nodup := by
  cases id with
  | none => exact h
  | some id => exact Html.nodup_names_set h _ id

/-- Readable nodes are readable with other ids. -/
theorem AreReadable.setIds {nodes : List Node} (h : AreReadable (nodesParts nodes))
    (ids : List (Option Text)) : AreReadable (nodesParts (setIds nodes ids).1) := by
  have hback (part : Part) (hpart : part ∈ nodesParts (LiveMarkdown.setIds nodes ids).1) :=
    exists_of_mem_setIds nodes ids part hpart
  have htag {tag : Text × Attributes}
      (htag : tag ∈ tagsOf (nodesParts (LiveMarkdown.setIds nodes ids).1)) :
      ∃ attrs id, (tag.1, attrs) ∈ tagsOf (nodesParts nodes) ∧ tag.2 = withId attrs id := by
    obtain ⟨original, hmem, rfl | ⟨name, attrs, id, rfl, heq⟩⟩ := hback _ (mem_tagsOf.1 htag)
    · exact ⟨tag.2, none, mem_tagsOf.2 hmem, rfl⟩
    · obtain ⟨hname, hattrs⟩ := Part.tag.inj heq
      exact ⟨attrs, id, mem_tagsOf.2 (hname ▸ hmem), hattrs⟩
  refine ⟨⟨fun tag hmem => ?_, fun k hk => ?_⟩, fun tag hmem => ?_⟩
  · obtain ⟨attrs, id, hold, hattrs⟩ := htag hmem
    obtain ⟨name, attrs'⟩ := tag
    obtain rfl : attrs' = withId attrs id := hattrs
    exact isPlainTag_withId (h.tags _ hold) id
  · obtain ⟨original, hmem, rfl | ⟨name, attrs, id, -, heq⟩⟩ := hback _ hk
    · exact h.leaves k hmem
    · cases heq
  · obtain ⟨attrs, id, hold, hattrs⟩ := htag hmem
    rw [hattrs]
    exact nodup_withId (h.nodup _ hold) id

/-- A plain name is a name. -/
theorem isName_of_isPlainName {name : Text} (h : Html.IsPlainName name) : Html.IsName name := by
  obtain ⟨c, cs, rfl, -, hchars⟩ := h.exists_cons
  refine ⟨List.cons_ne_nil _ _, fun hmem => ?_⟩
  have hmark := (Html.facts_of_isPlainNameChar (hchars '=' (List.mem_cons_of_mem _ hmem))).2.2
  exact hmark (by decide)

/-- The page of a text with whole tags is readable, and lists the headings that begin in it. -/
theorem Lists.exists_page {t : Text} {hs : List (Nat × Option Text)} (h : Lists t hs) :
    ∃ nodes, Html.pageNodes t = .ok nodes ∧ AreReadable (nodesParts nodes) ∧
      listed (pageHeadings nodes) = hs := by
  obtain ⟨tags, htags, rfl⟩ := h
  obtain ⟨nodes, hnodes, hplain, helements⟩ := Html.exists_plainPage htags
  refine ⟨nodes, hnodes, ⟨hplain, fun tag htag => ?_⟩, ?_⟩
  · rw [helements] at htag
    obtain ⟨tag, hmem, rfl⟩ := List.mem_map.1 htag
    have hnames := (htags.isPlainTag tag hmem).attrs
    exact (Html.areProper_tagAttributes tag.1 fun a ha => isName_of_isPlainName (hnames a ha)).nodup
  · rw [listed_pageHeadings, helements, List.filterMap_map]
    rfl

/-- What a page of a text lists is what begins in the text. -/
theorem Lists.listHeadings {t : Text} {hs : List (Nat × Option Text)} (h : Lists t hs) :
    listHeadings t = .ok hs := by
  obtain ⟨nodes, hnodes, -, hlisted⟩ := h.exists_page
  rw [LiveMarkdown.listHeadings, hnodes]
  exact congrArg Except.ok hlisted

end LiveMarkdown
