import LiveMarkdown.Heading.Slug

/-!
# No slug is issued twice

A slugger looks for a free slug among finitely many candidates. They are all different, and one more
than the slugs that are taken, so one of them is free (`isTaken_freeAfter`). What is issued is then
free before and taken after (`isTaken_issueBase`), and a whole run issues different slugs
(`nodup_issueAll`).
-/

namespace LiveMarkdown

/-- Slugs with different numbers are different. -/
theorem Slug.numbered_injective {base : Text} {m n : Nat}
    (h : Slug.numbered base m = Slug.numbered base n) : m = n := by
  have htails := List.append_cancel_left h
  exact Text.ofNat_injective (List.cons.inj htails).2

namespace Slugger

/-! ## Counts -/

/-- A count that is set is found, and the others stay. -/
theorem lookup_setCount (slug : Text) (k : Nat) (counts : List (Text × Nat)) (t : Text) :
    (setCount slug k counts).lookup t = if t = slug then some k else counts.lookup t := by
  induction counts with
  | nil =>
    rw [setCount, List.lookup_cons]
    by_cases h : t = slug
    · simp [h]
    · simp [h, beq_false_of_ne h]
  | cons c rest ih =>
    obtain ⟨s, n⟩ := c
    rw [setCount]
    split
    · next hs =>
      subst hs
      by_cases h : t = s
      · simp [h]
      · simp [h, List.lookup_cons, beq_false_of_ne h]
    · next hs =>
      rw [List.lookup_cons, List.lookup_cons, ih]
      by_cases ht : t = s
      · subst ht
        simp [hs]
      · simp [beq_false_of_ne ht]

/-- A slug is taken if it has a count. -/
theorem mem_keys_of_isTaken {s : Slugger} {slug : Text} (h : s.isTaken slug) :
    slug ∈ s.counts.map (·.1) := by
  obtain ⟨k, hk⟩ := Option.isSome_iff_exists.1 h
  obtain ⟨before, after, hsplit, -⟩ := List.lookup_eq_some_iff.1 hk
  rw [hsplit]
  simp

/-! ## The search -/

/-- If the search runs out of fuel, all numbers it has tried are taken. -/
theorem freeAfter_taken (s : Slugger) (base : Text) (fuel k : Nat) :
    s.isTaken (Slug.numbered base (s.freeAfter base fuel k)) = false ∨
      s.freeAfter base fuel k = k + fuel + 1 ∧
        ∀ i, i < fuel → s.isTaken (Slug.numbered base (k + i + 1)) := by
  induction fuel generalizing k with
  | zero => exact .inr ⟨rfl, fun i hi => absurd hi (Nat.not_lt_zero i)⟩
  | succ fuel ih =>
    rw [freeAfter]
    split
    · next htaken =>
      rcases ih (k + 1) with hfree | ⟨hlast, hall⟩
      · exact .inl hfree
      · refine .inr ⟨by omega, fun i hi => ?_⟩
        cases i with
        | zero => exact htaken
        | succ i =>
          have := hall i (by omega)
          rwa [show k + 1 + i + 1 = k + (i + 1) + 1 by omega] at this
    · next hfree => exact .inl (Bool.eq_false_iff.2 hfree)

/-- The slugs with as many numbers as there are taken slugs and one more cannot all be taken. -/
theorem isTaken_freeAfter (s : Slugger) (base : Text) (k : Nat) :
    s.isTaken (Slug.numbered base (s.freeAfter base s.counts.length k)) = false := by
  rcases s.freeAfter_taken base s.counts.length k with hfree | ⟨hlast, hall⟩
  · exact hfree
  · refine Bool.eq_false_iff.2 fun htaken => ?_
    rw [hlast] at htaken
    let tried := (List.range (s.counts.length + 1)).map fun i => Slug.numbered base (k + i + 1)
    have hnodup : tried.Nodup := by
      refine List.pairwise_map.2 (List.nodup_range.imp fun hne h => hne ?_)
      have := Slug.numbered_injective h
      omega
    have hkeys : tried ⊆ s.counts.map (·.1) := by
      intro slug hslug
      obtain ⟨i, hi, rfl⟩ := List.mem_map.1 hslug
      rw [List.mem_range] at hi
      refine mem_keys_of_isTaken ?_
      rcases Nat.lt_or_ge i s.counts.length with hlt | hge
      · exact hall i hlt
      · have hi : i = s.counts.length := by omega
        exact hi ▸ htaken
    have := hnodup.length_le_of_subset hkeys
    simp only [tried, List.length_map, List.length_range] at this
    omega

/-! ## Issuing -/

/-- What is issued was free. -/
theorem isTaken_issueBase (s : Slugger) (base : Text) :
    s.isTaken (s.issueBase base).1 = false := by
  unfold issueBase
  split
  · next hcount => rw [isTaken, hcount]; rfl
  · exact s.isTaken_freeAfter base _

/-- What is issued is taken from then on, and nothing else is. -/
theorem isTaken_of_issueBase (s : Slugger) (base slug : Text) :
    (s.issueBase base).2.isTaken slug = (s.isTaken slug || slug = (s.issueBase base).1) := by
  unfold issueBase
  split
  · by_cases h : slug = base
    · simp [isTaken, count?, lookup_setCount, h]
    · simp [isTaken, count?, lookup_setCount, h]
  · next k hcount =>
    simp only [isTaken, count?, lookup_setCount]
    split
    · next h => simp [h]
    · next h =>
      rw [decide_eq_false h, Bool.or_false]
      split
      · next hbase => rw [hbase, show s.counts.lookup base = some k from hcount]; rfl
      · rfl

/-- The slugs of a run were free before it, and are all different. -/
theorem nodup_issueAll (s : Slugger) (texts : List Text) :
    (∀ slug ∈ s.issueAll texts, s.isTaken slug = false) ∧ (s.issueAll texts).Nodup := by
  induction texts generalizing s with
  | nil => exact ⟨fun slug h => absurd h List.not_mem_nil, List.nodup_nil⟩
  | cons t rest ih =>
    obtain ⟨hfree, hnodup⟩ := ih (s.issue t).2
    have hfirst : s.isTaken (s.issue t).1 = false := s.isTaken_issueBase _
    have hlater (slug : Text) (h : slug ∈ (s.issue t).2.issueAll rest) :
        s.isTaken slug = false ∧ slug ≠ (s.issue t).1 := by
      have := hfree slug h
      rw [issue, isTaken_of_issueBase, Bool.or_eq_false_iff] at this
      exact ⟨this.1, of_decide_eq_false this.2⟩
    refine ⟨fun slug h => ?_, List.nodup_cons.2 ⟨fun h => (hlater _ h).2 rfl, hnodup⟩⟩
    rcases List.mem_cons.1 h with rfl | hrest
    · exact hfirst
    · exact (hlater slug hrest).1

end Slugger
end LiveMarkdown
