import LiveMarkdown.Heading.Page
import LiveMarkdown.Proofs.Block.Ids
import LiveMarkdown.Proofs.Heading.Numbering
import LiveMarkdown.Proofs.Heading.Slugs
import Mathlib.Data.List.Nodup

/-!
# Injected slugs

A block is given the slugs that the table has for its headings. Here the entries behind the slugs are
followed (`entriesFor`), since slugs that are the same could still come from two entries.

No entry is used twice. Within a block, the `m`-th heading with a key uses the entry at place `m` of
those with the key (`exists_place_of_mem_entriesFor`), and headings with other keys use other
entries. Between blocks, the ids differ, which are part of the key. As the table never has two
entries with one slug, no slug is written twice either.
-/

namespace LiveMarkdown

open Html (Attributes MarkupError Node)

/-! ## What setting ids does to headings -/

/-- Headings with new ids, in order. A heading for which there is none keeps what it has. -/
def withIds : List PageHeading → List (Option Text) → List PageHeading
  | [], _ => []
  | h :: rest, [] => h :: rest
  | h :: rest, id :: ids => { h with id := id.or h.id } :: withIds rest ids

/-- Without new ids headings keep theirs. -/
theorem withIds_nil (hs : List PageHeading) : withIds hs [] = hs := by
  cases hs <;> rfl

/-- New ids are given to the first headings first. -/
theorem withIds_append (hs hs' : List PageHeading) (ids : List (Option Text)) :
    withIds (hs ++ hs') ids = withIds hs ids ++ withIds hs' (ids.drop hs.length) := by
  induction hs generalizing ids with
  | nil => rfl
  | cons h rest ih =>
    cases ids with
    | nil => simp [withIds, withIds_nil]
    | cons id ids => simp [withIds, ih]

/-- Setting ids keeps the number of headings. -/
theorem length_withIds (hs : List PageHeading) (ids : List (Option Text)) :
    (withIds hs ids).length = hs.length := by
  induction hs generalizing ids with
  | nil => rfl
  | cons h rest ih =>
    cases ids with
    | nil => rfl
    | cons id ids => simp [withIds, ih]

/-- An id does not make an element a formula. -/
theorem isFormula_set_id (name : Text) (attrs : Attributes) (id : Text) :
    isFormula name (attrs.set ['i', 'd'] id) = isFormula name attrs := by
  have hne : ['i', 'd'] ≠ Math.markAttribute := by decide
  rw [isFormula, isFormula, Attributes.get?_set_of_ne attrs id hne]

mutual

/-- Setting ids leaves the text of a node as it is. -/
theorem nodePlainText_setNodeIds : ∀ (n : Node) (ids : List (Option Text)),
    nodePlainText (setNodeIds n ids).1 = nodePlainText n
  | .leaf _ _, _ => by rw [setNodeIds]
  | .element name attrs children, ids => by
    have hchildren := plainText_setIds children
    cases hlevel : elementLevel? name with
    | none => simp only [setNodeIds, hlevel, nodePlainText, hchildren]
    | some level =>
      cases ids with
      | nil => simp only [setNodeIds, hlevel, nodePlainText, hchildren]
      | cons id ids =>
        cases id with
        | none => simp only [setNodeIds, hlevel, nodePlainText, hchildren]
        | some id => simp only [setNodeIds, hlevel, nodePlainText, hchildren, isFormula_set_id]

/-- Setting ids leaves the running text as it is. -/
theorem plainText_setIds : ∀ (nodes : List Node) (ids : List (Option Text)),
    plainText (setIds nodes ids).1 = plainText nodes
  | [], _ => by rw [setIds]
  | n :: rest, ids => by
    rw [setIds]
    simp only [plainText, nodePlainText_setNodeIds n ids, plainText_setIds rest]

end

mutual

/-- Setting ids in a node sets those of its headings, and leaves the rest for the nodes after it. -/
theorem nodeHeadings_setNodeIds : ∀ (n : Node) (ids : List (Option Text)),
    nodeHeadings (setNodeIds n ids).1 = withIds (nodeHeadings n) ids ∧
      (setNodeIds n ids).2 = ids.drop (nodeHeadings n).length
  | .leaf _ _, _ => by
    rw [setNodeIds]
    exact ⟨rfl, rfl⟩
  | .element name attrs children, ids => by
    have hchildren ids := (pageHeadings_setIds_and_left children ids).1
    have hleft ids := (pageHeadings_setIds_and_left children ids).2
    cases hlevel : elementLevel? name with
    | none => simp only [setNodeIds, hlevel, nodeHeadings, hchildren, hleft, and_self]
    | some level =>
      cases ids with
      | nil =>
        simp only [setNodeIds, hlevel, nodeHeadings, hchildren, hleft, plainText_setIds,
          withIds_nil, List.drop_nil, and_self]
      | cons id ids =>
        refine ⟨?_, by simp only [setNodeIds, hlevel, nodeHeadings, hleft, List.length_cons,
          List.drop_succ_cons]⟩
        cases id with
        | none =>
          simp only [setNodeIds, hlevel, nodeHeadings, hchildren, plainText_setIds, withIds,
            Option.none_or]
        | some id =>
          simp only [setNodeIds, hlevel, nodeHeadings, hchildren, plainText_setIds, withIds,
            Option.some_or, Attributes.get?_set_self]

/-- The headings after setting ids, and the ids that are left over. -/
theorem pageHeadings_setIds_and_left : ∀ (nodes : List Node) (ids : List (Option Text)),
    pageHeadings (setIds nodes ids).1 = withIds (pageHeadings nodes) ids ∧
      (setIds nodes ids).2 = ids.drop (pageHeadings nodes).length
  | [], _ => by
    rw [setIds]
    exact ⟨rfl, rfl⟩
  | n :: rest, ids => by
    obtain ⟨hfirst, hleft⟩ := nodeHeadings_setNodeIds n ids
    obtain ⟨hrest, hleft'⟩ := pageHeadings_setIds_and_left rest (setNodeIds n ids).2
    rw [setIds]
    simp only [pageHeadings]
    refine ⟨?_, ?_⟩
    · rw [hfirst, hrest, hleft, withIds_append]
    · rw [hleft', hleft, List.drop_drop, List.length_append]

end

/-- Setting ids changes the ids of the headings and nothing else about them. -/
theorem pageHeadings_setIds (nodes : List Node) (ids : List (Option Text)) :
    pageHeadings (setIds nodes ids).1 = withIds (pageHeadings nodes) ids :=
  (pageHeadings_setIds_and_left nodes ids).1

/-! ## The entries behind the slugs -/

/-- The entries that a table has for the headings of a block. `earlier` are the headings before
them. -/
def entriesFor (table : SlugTable) (block : Text) :
    (earlier : List PageHeading) → List PageHeading → List (Option HeadingInfo)
  | _, [] => []
  | earlier, h :: rest =>
    let occurrence := earlier.countP (fun e => e.level = h.level && e.text = h.text) + 1
    table.get? ⟨h.level, block, h.text⟩ occurrence :: entriesFor table block (h :: earlier) rest

/-- The slugs that are injected are those of the entries. -/
theorem slugsFor_eq_map (table : SlugTable) (block : Text) (earlier hs : List PageHeading) :
    slugsFor table block earlier hs =
      (entriesFor table block earlier hs).map (Option.map HeadingInfo.slug) := by
  induction hs generalizing earlier with
  | nil => rfl
  | cons h rest ih => simp [slugsFor, entriesFor, ih]

/-- The entry for the occurrence after `n` others is the one at place `n` of those with the key. -/
theorem SlugTable.get?_succ (table : SlugTable) (k : HeadingKey) (n : Nat) :
    table.get? k (n + 1 : Nat) = (table.withKey k)[n]? := by
  have hpos : ¬((n + 1 : Nat) : Int) < 1 := by omega
  have hplace : (((n + 1 : Nat) : Int) - 1).toNat = n := by omega
  rw [SlugTable.get?, if_neg hpos, hplace]

/-- The entries with a key are entries of the table, and have the key. -/
theorem SlugTable.key_of_mem_withKey {table : SlugTable} {k : HeadingKey} {e : HeadingInfo}
    (h : e ∈ table.withKey k) : e ∈ table.headings ∧ e.key = k := by
  obtain ⟨hmem, hkey⟩ := List.mem_filter.1 h
  exact ⟨hmem, of_decide_eq_true hkey⟩

/-- An entry for a heading stands among those with the heading's key, at a place that is not before
the number of such headings so far. -/
theorem exists_place_of_mem_entriesFor {table : SlugTable} {block : Text}
    {earlier hs : List PageHeading} {e : HeadingInfo}
    (he : some e ∈ entriesFor table block earlier hs) :
    ∃ h ∈ hs, ∃ m, earlier.countP (fun e => e.level = h.level && e.text = h.text) ≤ m ∧
      (table.withKey ⟨h.level, block, h.text⟩)[m]? = some e := by
  induction hs generalizing earlier with
  | nil => exact absurd he List.not_mem_nil
  | cons h rest ih =>
    rcases List.mem_cons.1 he with hfirst | hrest
    · rw [SlugTable.get?_succ] at hfirst
      exact ⟨h, List.mem_cons_self, _, Nat.le_refl _, hfirst.symm⟩
    · obtain ⟨h', hmem, m, hm, hplace⟩ := ih hrest
      refine ⟨h', List.mem_cons_of_mem _ hmem, m, Nat.le_trans ?_ hm, hplace⟩
      exact (List.sublist_cons_self h earlier).countP_le

/-- The entries for a block are entries of the table, and belong to the block. -/
theorem mem_of_mem_entriesFor {table : SlugTable} {block : Text} {earlier hs : List PageHeading}
    {e : HeadingInfo} (he : some e ∈ entriesFor table block earlier hs) :
    e ∈ table.headings ∧ e.blockId = block := by
  obtain ⟨h, -, m, -, hplace⟩ := exists_place_of_mem_entriesFor he
  obtain ⟨hmem, hkey⟩ := SlugTable.key_of_mem_withKey (List.mem_of_getElem? hplace)
  exact ⟨hmem, congrArg HeadingKey.blockId hkey⟩

/-- Of the headings of one block, no two have the same entry. -/
theorem nodup_entriesFor {table : SlugTable} (htable : table.headings.Nodup) (block : Text)
    (earlier hs : List PageHeading) : ((entriesFor table block earlier hs).filterMap id).Nodup := by
  induction hs generalizing earlier with
  | nil => exact List.nodup_nil
  | cons h rest ih =>
    rw [entriesFor, SlugTable.get?_succ]
    cases hfirst : (table.withKey ⟨h.level, block, h.text⟩)[earlier.countP
        (fun e => e.level = h.level && e.text = h.text)]? with
    | none => exact ih (h :: earlier)
    | some e =>
      refine List.nodup_cons.2 ⟨fun hmem => ?_, ih (h :: earlier)⟩
      have hlater : some e ∈ entriesFor table block (h :: earlier) rest := by
        obtain ⟨_, hmem, rfl⟩ := List.mem_filterMap.1 hmem
        exact hmem
      obtain ⟨h', -, m, hm, hplace⟩ := exists_place_of_mem_entriesFor hlater
      have hkey := (SlugTable.key_of_mem_withKey (List.mem_of_getElem? hfirst)).2
      have hkey' := (SlugTable.key_of_mem_withKey (List.mem_of_getElem? hplace)).2
      rw [hkey] at hkey'
      obtain ⟨hlevel, -, htext⟩ := HeadingKey.mk.inj hkey'
      have hlevel : h.level = h'.level := Int.ofNat.inj hlevel
      rw [← hlevel, ← htext] at hm hplace
      have hlt := (List.getElem?_eq_some_iff.1 hfirst).1
      have hplaces := (List.getElem?_inj hlt (htable.filter _)).1 (hfirst.trans hplace.symm)
      rw [List.countP_cons_of_pos (by simp)] at hm
      omega

/-- The entries that the headings of a block get their slugs from, in order; none if the block's
HTML is refused. -/
def usedEntries (table : SlugTable) (block html : Text) : List HeadingInfo :=
  match Html.pageNodes html with
  | .ok nodes => (entriesFor table block [] (pageHeadings nodes)).filterMap id
  | .error _ => []

/-- The entries that are used are entries of the block. -/
theorem mem_of_mem_usedEntries {table : SlugTable} {block html : Text} {e : HeadingInfo}
    (he : e ∈ usedEntries table block html) : e ∈ table.headings ∧ e.blockId = block := by
  unfold usedEntries at he
  split at he
  · obtain ⟨_, hmem, rfl⟩ := List.mem_filterMap.1 he
    exact mem_of_mem_entriesFor hmem
  · exact absurd he List.not_mem_nil

/-- No entry is used twice, if the table has none twice. -/
theorem nodup_usedEntries {table : SlugTable} (htable : table.headings.Nodup) (block html : Text) :
    (usedEntries table block html).Nodup := by
  unfold usedEntries
  split
  · exact nodup_entriesFor htable block [] _
  · exact List.nodup_nil

/-- The entries that are used are those for the headings of the page. -/
theorem usedEntries_eq {table : SlugTable} {block html : Text} {nodes : List Node}
    (hnodes : Html.pageNodes html = .ok nodes) :
    usedEntries table block html = (entriesFor table block [] (pageHeadings nodes)).filterMap id := by
  rw [usedEntries, hnodes]

/-- Some slug is injected if some entry is used. -/
theorem any_isSome_slugsFor {table : SlugTable} {block html : Text} {nodes : List Node}
    (hnodes : Html.pageNodes html = .ok nodes) :
    (slugsFor table block [] (pageHeadings nodes)).any (·.isSome) =
      !(usedEntries table block html).isEmpty := by
  rw [usedEntries_eq hnodes, slugsFor_eq_map]
  induction entriesFor table block [] (pageHeadings nodes) with
  | nil => rfl
  | cons e rest ih =>
    cases e with
    | none => simpa using ih
    | some e => rfl

/-- The page with the slugs of the entries for its headings. -/
def injectedNodes (table : SlugTable) (block : Text) (nodes : List Node) : List Node :=
  (setIds nodes
    ((entriesFor table block [] (pageHeadings nodes)).map (Option.map HeadingInfo.slug))).1

/-- The page with its slugs is written, or the HTML stays as it is if no entry is used. -/
theorem injectSlugs_eq {table : SlugTable} {block html : Text} {nodes : List Node}
    (hnodes : Html.pageNodes html = .ok nodes) :
    injectSlugs html table block = .ok (if usedEntries table block html = [] then html
      else Html.pageText (injectedNodes table block nodes)) := by
  unfold injectSlugs
  split
  · next hguard =>
    have hnone : usedEntries table block html = [] := by
      rcases Bool.or_eq_true_iff.1 hguard with hhtml | htable
      · rw [List.isEmpty_iff.1 hhtml]
        rfl
      · refine List.eq_nil_iff_forall_not_mem.2 fun e he => ?_
        have hmem := (mem_of_mem_usedEntries he).1
        rw [List.isEmpty_iff.1 htable] at hmem
        exact absurd hmem List.not_mem_nil
    rw [if_pos hnone]
  · have hany : (slugsFor table block [] (pageHeadings nodes)).any (·.isSome) =
        !(usedEntries table block html).isEmpty := any_isSome_slugsFor hnodes
    rw [hnodes]
    simp only [bind, Except.bind, hany, injectedNodes, ← slugsFor_eq_map]
    cases usedEntries table block html with
    | nil => rfl
    | cons e rest => rfl

/-! ## The blocks of a document -/

/-- The first parts of pairs come in their order. -/
theorem map_fst_zip_sublist {α β : Type} : ∀ (as : List α) (bs : List β),
    ((as.zip bs).map (·.1)).Sublist as
  | [], _ => List.Sublist.refl _
  | _ :: _, [] => List.nil_sublist _
  | a :: as, _ :: bs => (map_fst_zip_sublist as bs).cons_cons a

/-- Pieces of HTML for blocks with different ids never use an entry twice. -/
theorem nodup_usedEntries_flatMap {table : SlugTable} (htable : table.headings.Nodup)
    {calls : List (Text × Text)} (hids : (calls.map (·.1)).Nodup) :
    (calls.flatMap fun (block, html) => usedEntries table block html).Nodup := by
  refine List.pairwise_flatMap.2 ⟨fun (block, html) _ => nodup_usedEntries htable block html, ?_⟩
  refine (List.pairwise_map.1 hids).imp fun hne e he e' he' heq => hne ?_
  rw [← (mem_of_mem_usedEntries he).2, heq]
  exact (mem_of_mem_usedEntries he').2

/-- The slugs of entries are all different, whatever owns them. -/
theorem nodup_slugs_entriesFrom (owner : Nat → Text) (hs : List Heading) :
    ((entriesFrom owner {} [] hs).map (·.slug)).Nodup := by
  have hslugs := congrArg (List.map fun e : Int × Text × Text => e.2.2)
    (entriesFrom_map owner {} [] hs)
  rw [List.map_map, List.map_map] at hslugs
  have hissued : (entriesFrom owner {} [] hs).map (·.slug) =
      Slugger.issueAll {} (hs.map (·.text)) := by
    refine hslugs.trans ?_
    exact List.map_snd_zip (by simp [Slugger.length_issueAll])
  rw [hissued]
  exact (Slugger.nodup_issueAll {} _).2

/-- The slugs of a document are all different. -/
theorem nodup_slugs_resolveSlugs {t : Text} {sources : List BlockSource}
    (hsplit : splitBlocks t = .ok sources) : ((resolveSlugs t).headings.map (·.slug)).Nodup := by
  rw [headings_resolveSlugs hsplit]
  exact nodup_slugs_entriesFrom _ _

/-- Whatever HTML the blocks of a document have: over all of them, the headings that get a slug get
it from different entries of the table, and all these slugs are different. An entry that belongs to
no block is not used. The entries that are used are those that are written: a block's headings have
their slugs as ids, and keep what they have where there is no entry. -/
theorem injected_once {t : Text} {sources : List BlockSource} (hsplit : splitBlocks t = .ok sources)
    (htmls : List Text) :
    let table := resolveSlugs t
    let calls := (blockIds sources).zip htmls
    let used := calls.flatMap fun (block, html) => usedEntries table block html
    used.Nodup ∧ (used.map (·.slug)).Nodup ∧
      (∀ e ∈ used, e ∈ table.headings ∧ e.blockId ∈ blockIds sources ∧ e.blockId ≠ unknownBlock) ∧
      ∀ block html nodes, (block, html) ∈ calls → Html.pageNodes html = .ok nodes →
        injectSlugs html table block = .ok (if usedEntries table block html = [] then html
          else Html.pageText (injectedNodes table block nodes)) ∧
        pageHeadings (injectedNodes table block nodes) =
          withIds (pageHeadings nodes)
            ((entriesFor table block [] (pageHeadings nodes)).map (Option.map (·.slug))) := by
  intro table calls used
  have hslugs : (table.headings.map (·.slug)).Nodup := nodup_slugs_resolveSlugs hsplit
  have hcalls : (calls.map (·.1)).Nodup :=
    (nodup_blockIds sources).sublist (map_fst_zip_sublist _ _)
  have hused : used.Nodup := nodup_usedEntries_flatMap hslugs.of_map hcalls
  have hmem : ∀ e ∈ used, e ∈ table.headings ∧ e.blockId ∈ blockIds sources := by
    intro e he
    obtain ⟨⟨block, html⟩, hcall, he⟩ := List.mem_flatMap.1 he
    obtain ⟨htable, hblock⟩ := mem_of_mem_usedEntries he
    exact ⟨htable, hblock ▸ (List.of_mem_zip hcall).1⟩
  refine ⟨hused, ?_, fun e he => ?_, fun block html nodes _ hnodes => ?_⟩
  · refine hused.map_on fun e he e' he' heq => ?_
    exact List.inj_on_of_nodup_map hslugs (hmem e he).1 (hmem e' he').1 heq
  · obtain ⟨htable, hblock⟩ := hmem e he
    refine ⟨htable, hblock, fun hunknown => ?_⟩
    exact unknownBlock_notMem_blockIds sources (hunknown ▸ hblock)
  · exact ⟨injectSlugs_eq hnodes, pageHeadings_setIds _ _⟩

/-- Two blocks with one source and one HTML are given two slugs. -/
theorem injected_once_twice :
    ∃ sources, splitBlocks "# A\n\n# A\n".toList = .ok sources ∧
      sources.map (·.source) = ["# A".toList, "# A".toList] ∧
      let used := ((blockIds sources).zip ["<h1>A</h1>".toList, "<h1>A</h1>".toList]).flatMap
        fun (block, html) => usedEntries (resolveSlugs "# A\n\n# A\n".toList) block html
      used.map (·.slug) = [['a'], ['a', '-', '1']] ∧ (used.map (·.slug)).Nodup := by
  have hopt : (splitBlocks "# A\n\n# A\n".toList).toOption =
      some [⟨"# A".toList, 1, 1⟩, ⟨"# A".toList, 3, 3⟩] := by decide +kernel
  cases hsplit : splitBlocks "# A\n\n# A\n".toList with
  | error e => rw [hsplit] at hopt; cases hopt
  | ok sources =>
    rw [hsplit] at hopt
    cases hopt
    obtain ⟨-, hnodup, -⟩ := injected_once hsplit ["<h1>A</h1>".toList, "<h1>A</h1>".toList]
    exact ⟨_, rfl, rfl, by decide +kernel, hnodup⟩

end LiveMarkdown
