import LiveMarkdown.Heading.Index
import LiveMarkdown.Proofs.Heading.Injection
import Mathlib.Data.List.Induction

/-!
# The indices of the table of slugs

However entries are added, the index by key finds the entries with a key in the order in which they
were added, and the index by slug the last one with a slug (`getD_byKey_ofList`,
`getElem?_bySlug_ofList`). Both are what the table itself gives.

The entries of a document are numbered as they are made: each has one number among those with its
key and one among those that say the same anywhere (`numbers_entriesFrom`). So the number among those
with the key is the place at which the index finds the entry, and since no slug is issued twice the
last entry with a slug is the only one (`lookups_coherent`).
-/

namespace LiveMarkdown

/-! ## What the indices find -/

namespace SlugIndex

/-- One more entry at the end is added last. -/
theorem ofList_append_singleton (entries : List HeadingInfo) (e : HeadingInfo) :
    ofList (entries ++ [e]) = (ofList entries).add e := by
  rw [ofList, List.foldl_append]
  rfl

/-- The entries with a key, in the order in which they were added. -/
theorem getD_byKey_ofList (entries : List HeadingInfo) (k : HeadingKey) :
    (ofList entries).byKey.getD k [] = entries.filter (·.key = k) := by
  induction entries using List.reverseRecOn with
  | nil => exact Std.HashMap.getD_empty
  | append_singleton entries e ih =>
    rw [ofList_append_singleton, List.filter_append]
    by_cases hkey : e.key = k
    · subst hkey
      rw [← ih]
      simp [add, Std.HashMap.getD_eq_getD_getElem?]
    · rw [← ih]
      simp [add, Std.HashMap.getD_alter, hkey]

/-- The last entry with a slug. -/
theorem getElem?_bySlug_ofList (entries : List HeadingInfo) (slug : Text) :
    (ofList entries).bySlug[slug]? = (entries.filter (·.slug = slug)).getLast? := by
  induction entries using List.reverseRecOn with
  | nil => exact Std.HashMap.getElem?_empty
  | append_singleton entries e ih =>
    rw [ofList_append_singleton, List.filter_append]
    by_cases hslug : e.slug = slug
    · subst hslug
      simp [add]
    · simp [add, Std.HashMap.getElem?_insert, hslug, ih]

/-- The lookup by key, in terms of the entries that were added. -/
theorem get?_ofList (entries : List HeadingInfo) (k : HeadingKey) (occurrence : Int) :
    (ofList entries).get? k occurrence =
      if occurrence < 1 then none else (entries.filter (·.key = k))[(occurrence - 1).toNat]? := by
  simp only [get?, getD_byKey_ofList]
  generalize entries.filter (·.key = k) = found
  by_cases hlow : occurrence < 1
  · simp [hlow]
  · rw [if_neg hlow]
    split
    · next hend =>
      refine (List.getElem?_eq_none ?_).symm
      simp only [Bool.or_eq_true, List.isEmpty_iff, decide_eq_true_eq] at hend
      rcases hend with (rfl | hend) | hend
      · exact Nat.zero_le _
      · exact absurd hend hlow
      · omega
    · rfl

/-- The index finds by key what the table finds. -/
theorem get?_ofList_headings (table : SlugTable) (k : HeadingKey) (occurrence : Int) :
    (ofList table.headings).get? k occurrence = table.get? k occurrence :=
  get?_ofList table.headings k occurrence

/-- The index finds by slug what the table finds. -/
theorem ofSlug?_ofList_headings (table : SlugTable) (slug : Text) :
    (ofList table.headings).ofSlug? slug = table.ofSlug? slug := by
  rw [ofSlug?, getElem?_bySlug_ofList, SlugTable.ofSlug?, ← List.head?_filter, List.filter_reverse,
    List.head?_reverse]

end SlugIndex

/-! ## The numbers of entries -/

/-- How many entries say the same as `e` at the same level. -/
def countAlike (e : HeadingInfo) (entries : List HeadingInfo) : Nat :=
  entries.countP fun d => d.level = e.level && d.text = e.text

/-- An entry is numbered among those before it with the same key, and among those before it that say
the same. -/
theorem numbers_entriesFrom {owner : Nat → Text} {s : Slugger} {earlier : List HeadingInfo}
    {hs : List Heading} {before after : List HeadingInfo} {e : HeadingInfo}
    (h : entriesFrom owner s earlier hs = before ++ e :: after) :
    e.occurrenceInBlock = before.countP (·.key = e.key) + earlier.countP (·.key = e.key) + 1 ∧
      e.globalOccurrence = countAlike e before + countAlike e earlier + 1 := by
  induction hs generalizing s earlier before with
  | nil => cases before <;> cases h
  | cons g rest ih =>
    rw [entriesFrom] at h
    cases before with
    | nil =>
      obtain ⟨rfl, -⟩ := List.cons.inj h
      refine ⟨?_, ?_⟩
      · rw [List.countP_nil, Nat.zero_add]
        rfl
      · rw [countAlike, List.countP_nil, Nat.zero_add]
        rfl
    | cons first before =>
      obtain ⟨hfirst, hrest⟩ := List.cons.inj h
      rw [hfirst] at hrest
      obtain ⟨hblock, hglobal⟩ := ih hrest
      refine ⟨hblock.trans ?_, hglobal.trans ?_⟩
      · rw [List.countP_cons, List.countP_cons]
        omega
      · rw [countAlike, countAlike, List.countP_cons, countAlike, countAlike, List.countP_cons]
        omega

/-- Entries that are numbered as they come: among those with the same key, and among those that say
the same. -/
def AreNumbered (entries : List HeadingInfo) : Prop :=
  ∀ before e after, entries = before ++ e :: after →
    e.occurrenceInBlock = before.countP (·.key = e.key) + 1 ∧
      e.globalOccurrence = countAlike e before + 1

/-- The entries of a document are made for headings, with nothing before them. -/
theorem exists_entriesFrom (t : Text) : ∃ owner hs,
    (resolveSlugs t).headings = entriesFrom owner {} [] hs := by
  cases hsplit : splitBlocks t with
  | ok blocks => exact ⟨_, _, headings_resolveSlugs hsplit⟩
  | error cause => exact ⟨fun _ => [], [], headings_resolveSlugs_of_error hsplit⟩

/-- The entries of a document are numbered as they come. -/
theorem areNumbered_resolveSlugs (t : Text) : AreNumbered (resolveSlugs t).headings := by
  obtain ⟨owner, hs, hentries⟩ := exists_entriesFrom t
  intro before e after h
  exact numbers_entriesFrom (hentries.symm.trans h)

/-! ## Finding entries -/

/-- An entry is where its number says, among those with its key. -/
theorem getElem?_filter_key {before after : List HeadingInfo} {e : HeadingInfo} :
    ((before ++ e :: after).filter (·.key = e.key))[before.countP (·.key = e.key)]? = some e := by
  have hfilter : (e :: after).filter (·.key = e.key) = e :: after.filter (·.key = e.key) :=
    List.filter_cons_of_pos (decide_eq_true rfl)
  rw [List.filter_append, List.countP_eq_length_filter, List.getElem?_append_right (Nat.le_refl _),
    Nat.sub_self, hfilter]
  rfl

namespace SlugIndex

/-- The lookup by key and a number from one on. -/
theorem get?_ofList_succ (entries : List HeadingInfo) (k : HeadingKey) (n : Nat) :
    (ofList entries).get? k (n + 1 : Nat) = (entries.filter (·.key = k))[n]? :=
  (get?_ofList entries k _).trans (SlugTable.get?_succ ⟨entries⟩ k n)

section

variable {entries : List HeadingInfo} (hnumbered : AreNumbered entries)
include hnumbered

/-- An entry is found by its key and number. -/
theorem get?_of_mem {e : HeadingInfo} (he : e ∈ entries) :
    (ofList entries).get? e.key e.occurrenceInBlock = some e := by
  obtain ⟨before, after, rfl⟩ := List.append_of_mem he
  rw [(hnumbered before e after rfl).1, get?_ofList_succ]
  exact getElem?_filter_key

/-- What is found by a key and a number has both. -/
theorem of_get?_eq_some (hnodup : entries.Nodup) {k : HeadingKey} {occurrence : Int} {e : HeadingInfo}
    (h : (ofList entries).get? k occurrence = some e) :
    e ∈ entries ∧ e.key = k ∧ (e.occurrenceInBlock : Int) = occurrence := by
  rw [get?_ofList] at h
  split at h
  · cases h
  · next hlow =>
    obtain ⟨he, hkey⟩ := List.mem_filter.1 (List.mem_of_getElem? h)
    obtain rfl := of_decide_eq_true hkey
    obtain ⟨before, after, rfl⟩ := List.append_of_mem he
    -- no entry stands in two places, so that it is found where its number says only
    have hplace : (occurrence - 1).toNat = before.countP (·.key = e.key) :=
      (List.getElem?_inj (List.getElem?_eq_some_iff.1 h).1 (hnodup.filter _)).1
        (h.trans getElem?_filter_key.symm)
    refine ⟨he, rfl, ?_⟩
    rw [(hnumbered before e after rfl).1]
    omega

end

/-- Nothing is found by a number that no entry with the key has. -/
theorem get?_eq_none_iff (entries : List HeadingInfo) (k : HeadingKey) (occurrence : Int) :
    (ofList entries).get? k occurrence = none ↔
      occurrence < 1 ∨ (entries.countP (·.key = k) : Int) < occurrence := by
  rw [get?_ofList, List.countP_eq_length_filter]
  split
  · next hlow => simp [hlow]
  · next hlow =>
    rw [List.getElem?_eq_none_iff]
    omega

end SlugIndex

/-- Among entries with different slugs one with a given slug is the last one. -/
theorem getLast?_filter_slug {entries : List HeadingInfo} (hslugs : (entries.map (·.slug)).Nodup)
    {e : HeadingInfo} (he : e ∈ entries) :
    (entries.filter (·.slug = e.slug)).getLast? = some e := by
  obtain ⟨last, hlast⟩ : ∃ last, (entries.filter (·.slug = e.slug)).getLast? = some last := by
    refine Option.ne_none_iff_exists'.1 fun hnone => ?_
    have hmem : e ∈ entries.filter (·.slug = e.slug) :=
      List.mem_filter.2 ⟨he, decide_eq_true rfl⟩
    rw [List.getLast?_eq_none_iff.1 hnone] at hmem
    cases hmem
  obtain ⟨hmem, hslug⟩ := List.mem_filter.1 (List.mem_of_getLast? hlast)
  rw [hlast, List.inj_on_of_nodup_map hslugs hmem he (of_decide_eq_true hslug)]

/-- What an entry is found by: its key and its number among those with the key. -/
def HeadingInfo.fullKey (e : HeadingInfo) : HeadingKey × Nat := (e.key, e.occurrenceInBlock)

/-- Entries and lookups of a document's slugs. Each entry is found by its key and number, and by its
slug; what is found by a key and a number has them, and nothing is found exactly by a number below one
or above the count of the entries with the key. The other number of an entry is one more than the
count of entries before it at the same level with the same text. However entries are added in
general, lookups find by a key the entries with it in order, and by a slug the last entry with it; so
do the lookups in the table of these entries. -/
theorem lookups_coherent :
    (∀ t : Text,
      let entries := (resolveSlugs t).headings
      let index := SlugIndex.ofList entries
      (∀ e ∈ entries, index.get? e.key e.occurrenceInBlock = some e ∧
        index.ofSlug? e.slug = some e) ∧
      (∀ k occurrence e, index.get? k occurrence = some e →
        e ∈ entries ∧ e.key = k ∧ (e.occurrenceInBlock : Int) = occurrence) ∧
      (∀ k occurrence, index.get? k occurrence = none ↔
        occurrence < 1 ∨ (entries.countP (·.key = k) : Int) < occurrence) ∧
      (∀ before e after, entries = before ++ e :: after →
        e.globalOccurrence = countAlike e before + 1) ∧
      (entries.map HeadingInfo.fullKey).Nodup ∧ (entries.map (·.slug)).Nodup) ∧
    ∀ entries : List HeadingInfo,
      let index := SlugIndex.ofList entries
      (∀ k (n : Nat), index.get? k (n + 1 : Nat) = (entries.filter (·.key = k))[n]?) ∧
      (∀ k occurrence, occurrence < 1 → index.get? k occurrence = none) ∧
      (∀ slug, index.ofSlug? slug = (entries.filter (·.slug = slug)).getLast?) ∧
      (∀ k occurrence, (⟨entries⟩ : SlugTable).get? k occurrence = index.get? k occurrence) ∧
      ∀ slug, (⟨entries⟩ : SlugTable).ofSlug? slug = index.ofSlug? slug := by
  constructor
  · intro t entries index
    -- For a document, numbers and slugs tell entries apart, so that each lookup finds the entry
    -- itself.
    have hnumbered : AreNumbered entries := areNumbered_resolveSlugs t
    have hslugs : (entries.map (·.slug)).Nodup := by
      obtain ⟨owner, hs, hentries⟩ := exists_entriesFrom t
      show ((resolveSlugs t).headings.map _).Nodup
      rw [hentries]
      exact nodup_slugs_entriesFrom owner hs
    have hfound {e : HeadingInfo} (he : e ∈ entries) := SlugIndex.get?_of_mem hnumbered he
    refine ⟨fun e he => ⟨hfound he, ?_⟩, fun _ _ _ => SlugIndex.of_get?_eq_some hnumbered hslugs.of_map,
      SlugIndex.get?_eq_none_iff entries, fun before e after h => (hnumbered before e after h).2, ?_,
      hslugs⟩
    · exact (SlugIndex.getElem?_bySlug_ofList entries e.slug).trans (getLast?_filter_slug hslugs he)
    · refine hslugs.of_map.map_on fun e he e' he' heq => ?_
      obtain ⟨hkey, hnumber⟩ := Prod.mk.inj heq
      have h := hfound he
      rw [hkey, hnumber, hfound he'] at h
      exact (Option.some.inj h).symm
  · intro entries index
    refine ⟨SlugIndex.get?_ofList_succ entries, fun k occurrence hlow => ?_,
      SlugIndex.getElem?_bySlug_ofList entries,
      fun k occurrence => (SlugIndex.get?_ofList_headings ⟨entries⟩ k occurrence).symm,
      fun slug => (SlugIndex.ofSlug?_ofList_headings ⟨entries⟩ slug).symm⟩
    exact (SlugIndex.get?_eq_none_iff entries k occurrence).2 (.inl hlow)

/-- A heading that comes twice in one block and once more in another: the second is found by its
block and number, and by its slug. -/
theorem lookups_coherent_repeated :
    (∃ e ∈ (resolveSlugs "> # A\n> # A\n\n# A".toList).headings,
      e.occurrenceInBlock = 2 ∧ e.globalOccurrence = 2 ∧ e.slug = ['a', '-', '1'] ∧
        (SlugIndex.ofList (resolveSlugs "> # A\n> # A\n\n# A".toList).headings).get? e.key 2 =
          some e ∧
        (SlugIndex.ofList (resolveSlugs "> # A\n> # A\n\n# A".toList).headings).ofSlug?
          ['a', '-', '1'] = some e) ∧
      (0 : Int) < 1 ∧ (SlugIndex.ofList []).get? ⟨1, ['b'], ['A']⟩ 0 = none := by
  obtain ⟨e, he, hnumbers⟩ : ∃ e ∈ (resolveSlugs "> # A\n> # A\n\n# A".toList).headings,
      e.occurrenceInBlock = 2 ∧ e.globalOccurrence = 2 ∧ e.slug = ['a', '-', '1'] := by
    decide +kernel
  obtain ⟨hkey, hslug⟩ := (lookups_coherent.1 "> # A\n> # A\n\n# A".toList).1 e he
  rw [hnumbers.1] at hkey
  rw [hnumbers.2.2] at hslug
  exact ⟨⟨e, he, hnumbers.1, hnumbers.2.1, hnumbers.2.2, hkey, hslug⟩, by decide,
    (lookups_coherent.2 []).2.1 ⟨1, ['b'], ['A']⟩ 0 (by decide)⟩

end LiveMarkdown
