import LiveMarkdown.Proofs.Heading.Injection

/-!
# Looking up all headings

Blocks look up their headings one by one. Together they find all entries of the table, in order and
without a miss, exactly if the headings that they look up are those of the table: the same levels and
texts, in the same blocks (`slugs_eq_iff`).

That the counting of occurrences starts anew in each block does no harm, as a block's id is part of
what is looked up.
-/

namespace LiveMarkdown

/-- What a heading of a block is looked up by. -/
def PageHeading.keyIn (block : Text) (h : PageHeading) : HeadingKey := ⟨h.level, block, h.text⟩

/-- Headings of one block have the same key if they have the same level and text. -/
theorem keyIn_eq_iff {block : Text} {g h : PageHeading} :
    g.keyIn block = h.keyIn block ↔ g.level = h.level ∧ g.text = h.text := by
  rw [PageHeading.keyIn, PageHeading.keyIn, HeadingKey.mk.injEq, Int.ofNat_inj]
  simp only [true_and]

/-- A heading that is found is the one that was looked up. -/
theorem forall₂_entriesFor (table : SlugTable) (block : Text) (earlier hs : List PageHeading) :
    List.Forall₂ (fun e? h => ∀ e ∈ e?, e ∈ table.headings ∧ e.key = h.keyIn block)
      (entriesFor table block earlier hs) hs := by
  induction hs generalizing earlier with
  | nil => exact .nil
  | cons h rest ih =>
    refine .cons (fun e he => ?_) (ih (h :: earlier))
    rw [SlugTable.get?_succ] at he
    exact SlugTable.key_of_mem_withKey (List.mem_of_getElem? he)

/-- There is an answer for each heading, an entry or none. -/
theorem length_entriesFor (table : SlugTable) (block : Text) (earlier hs : List PageHeading) :
    (entriesFor table block earlier hs).length = hs.length :=
  (forall₂_entriesFor table block earlier hs).length_eq

/-- Headings that stand in the table one after the other are found one after the other, if as many
are counted before them as there are. -/
theorem entriesFor_eq {table : SlugTable} {block : Text} {earlier hs : List PageHeading}
    {before entries after : List HeadingInfo}
    (htable : table.headings = before ++ (entries ++ after))
    (hkeys : entries.map (·.key) = hs.map (·.keyIn block))
    (hcount : ∀ h : PageHeading, before.countP (·.key = h.keyIn block) =
      earlier.countP (fun e => e.level = h.level && e.text = h.text)) :
    entriesFor table block earlier hs = entries.map some := by
  induction hs generalizing earlier before entries with
  | nil =>
    rw [List.map_eq_nil_iff.1 hkeys]
    rfl
  | cons h rest ih =>
    obtain ⟨e, more, rfl, hfirst, hmore⟩ := List.map_eq_cons_iff.1 hkeys
    have hkey : e.key = h.keyIn block := hfirst
    have hfound : (table.withKey (h.keyIn block))[earlier.countP
        (fun e => e.level = h.level && e.text = h.text)]? = some e := by
      rw [← hcount h, SlugTable.withKey, htable, List.filter_append, List.countP_eq_length_filter,
        List.getElem?_append_right (Nat.le_refl _), Nat.sub_self, List.cons_append,
        List.filter_cons_of_pos (by exact decide_eq_true hkey)]
      rfl
    have htable' : table.headings = (before ++ [e]) ++ (more ++ after) := by
      rw [htable, List.append_assoc]
      rfl
    have hrest : entriesFor table block (h :: earlier) rest = more.map some := by
      refine ih htable' hmore fun g => ?_
      have hsame : decide (e.key = g.keyIn block) = (h.level = g.level && h.text = g.text) := by
        rw [hkey, ← Bool.decide_and]
        exact decide_eq_decide.2 keyIn_eq_iff
      rw [List.countP_append, List.countP_singleton, hcount g, List.countP_cons, hsame]
    rw [entriesFor, SlugTable.get?_succ, List.map_cons, ← hrest]
    exact congrArg (· :: _) hfound

/-- What is looked up for some blocks, each with its headings. -/
def keysOf (calls : List (Text × List PageHeading)) : List HeadingKey :=
  calls.flatMap fun call => call.2.map (·.keyIn call.1)

/-- What is found for some blocks. -/
def entriesOf (table : SlugTable) (calls : List (Text × List PageHeading)) :
    List (Option HeadingInfo) :=
  calls.flatMap fun call => entriesFor table call.1 [] call.2

/-- A table finds, block by block, the entries it was given for them. -/
theorem entriesOf_eq {table : SlugTable} {calls : List (Text × List PageHeading)}
    {before after : List HeadingInfo} (htable : table.headings = before ++ after)
    (hblocks : (calls.map (·.1)).Nodup) (hbefore : ∀ e ∈ before, e.blockId ∉ calls.map (·.1))
    (hkeys : after.map (·.key) = keysOf calls) : entriesOf table calls = after.map some := by
  induction calls generalizing before after with
  | nil =>
    rw [List.map_eq_nil_iff.1 hkeys]
    rfl
  | cons call rest ih =>
    obtain ⟨block, hs⟩ := call
    obtain ⟨hblock, hrest⟩ := List.nodup_cons.1 hblocks
    obtain ⟨entries, more, rfl, hown, hmore⟩ := List.map_eq_append_iff.1 hkeys
    have hentries : entries.map (·.key) = hs.map (·.keyIn block) := hown
    have hcount (h : PageHeading) : before.countP (·.key = h.keyIn block) = 0 := by
      refine List.countP_eq_zero.2 fun e he hkey => hbefore e he ?_
      have hid : e.blockId = block := congrArg HeadingKey.blockId (of_decide_eq_true hkey)
      exact hid ▸ List.mem_cons_self
    have hfirst : entriesFor table block [] hs = entries.map some :=
      entriesFor_eq htable hentries fun h => hcount h
    have htable' : table.headings = (before ++ entries) ++ more := by
      rw [htable, List.append_assoc]
    have hlater : entriesOf table rest = more.map some := by
      refine ih htable' hrest (fun e he hmem => ?_) hmore
      rcases List.mem_append.1 he with he | he
      · exact hbefore e he (List.mem_cons_of_mem _ hmem)
      · have hkey : e.key ∈ hs.map (·.keyIn block) := hentries ▸ List.mem_map_of_mem he
        obtain ⟨h, -, hkey⟩ := List.mem_map.1 hkey
        have hid : block = e.blockId := congrArg HeadingKey.blockId hkey
        exact hblock (hid ▸ hmem)
    rw [List.map_append, ← hfirst, ← hlater]
    rfl

/-- What is found for a key has this key. -/
theorem forall₂_entriesOf (table : SlugTable) (calls : List (Text × List PageHeading)) :
    List.Forall₂ (fun e? k => ∀ e ∈ e?, e ∈ table.headings ∧ e.key = k)
      (entriesOf table calls) (keysOf calls) := by
  induction calls with
  | nil => exact .nil
  | cons call rest ih =>
    obtain ⟨block, hs⟩ := call
    refine List.rel_append (List.forall₂_map_right_iff.2 ?_) ih
    exact forall₂_entriesFor table block [] hs

/-- If the slugs that are found are those of entries of the table, so are the keys. -/
theorem keys_eq_of_slugs {table : SlugTable} (hslugs : (table.headings.map (·.slug)).Nodup)
    {found : List (Option HeadingInfo)} {keys : List HeadingKey}
    (h : List.Forall₂ (fun e? k => ∀ e ∈ e?, e ∈ table.headings ∧ e.key = k) found keys)
    {entries : List HeadingInfo} (hentries : ∀ e ∈ entries, e ∈ table.headings)
    (heq : found.map (Option.map (·.slug)) = entries.map fun e => some e.slug) :
    keys = entries.map (·.key) := by
  induction h generalizing entries with
  | nil =>
    rw [List.map_eq_nil_iff.1 heq.symm]
    rfl
  | cons hfirst _ ih =>
    obtain ⟨e, more, rfl, hslug, hmore⟩ := List.map_eq_cons_iff.1 heq.symm
    obtain ⟨e', rfl, hslug'⟩ := Option.map_eq_some_iff.1 hslug.symm
    obtain ⟨hmem, hkey⟩ := hfirst e' rfl
    have hsame : e' = e := List.inj_on_of_nodup_map hslugs hmem (hentries e List.mem_cons_self) hslug'
    rw [← hkey, hsame, List.map_cons, ih (fun d hd => hentries d (List.mem_cons_of_mem _ hd)) hmore.symm]

/-- Lookups find the slugs of the table, in order and without a miss, exactly if what is looked up is
what the table has. -/
theorem slugs_eq_iff {table : SlugTable} (hslugs : (table.headings.map (·.slug)).Nodup)
    {calls : List (Text × List PageHeading)} (hblocks : (calls.map (·.1)).Nodup) :
    (entriesOf table calls).map (Option.map (·.slug)) = table.headings.map (fun e => some e.slug) ↔
      keysOf calls = table.headings.map (·.key) := by
  constructor
  · exact keys_eq_of_slugs hslugs (forall₂_entriesOf table calls) fun e he => he
  · intro hkeys
    have htable : table.headings = [] ++ table.headings := rfl
    rw [entriesOf_eq htable hblocks (List.forall_mem_nil _) hkeys.symm, List.map_map]
    rfl

end LiveMarkdown
