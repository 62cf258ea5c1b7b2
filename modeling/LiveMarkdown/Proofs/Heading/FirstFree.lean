import LiveMarkdown.Proofs.Heading.Slugs

/-!
# Repeats get the first free number

A slugger keeps a count for each slug and looks for a free number above it. It could as well begin
with one each time: all numbers up to the count are taken (`IsCounted`), so that what is issued is
the base if that is free, and else the base with the first free number (`isFirstFree_issueBase`). It
depends on the base and on which slugs are taken, and on nothing else.

The search is a loop that raises the count of the base by one until the slug with that number is
free (`Search`). It would fail if the base had no count, but it is only entered if the base is taken;
and it ends with what the slugger issues and the counts that it has then (`search_issueBase`).
-/

namespace LiveMarkdown

/-- Of the slugs that `base` may get, the first one that is not taken. -/
def IsFirstFree (taken : Text → Prop) (base slug : Text) : Prop :=
  ¬taken base ∧ slug = base ∨
    taken base ∧ ∃ k, 1 ≤ k ∧ slug = Slug.numbered base k ∧ ¬taken (Slug.numbered base k) ∧
      ∀ j, 1 ≤ j → j < k → taken (Slug.numbered base j)

/-- Which slug is the first free one is told by the base and the slugs that are taken. -/
theorem IsFirstFree.unique {taken : Text → Prop} {base slug slug' : Text}
    (h : IsFirstFree taken base slug) (h' : IsFirstFree taken base slug') : slug = slug' := by
  rcases h with ⟨hfree, rfl⟩ | ⟨htaken, k, hk, rfl, hfree, hbelow⟩
  · rcases h' with ⟨-, rfl⟩ | ⟨htaken, -⟩
    · rfl
    · exact absurd htaken hfree
  · rcases h' with ⟨hbase, -⟩ | ⟨-, k', hk', rfl, hfree', hbelow'⟩
    · exact absurd htaken hbase
    · rcases Nat.lt_trichotomy k k' with hlt | rfl | hlt
      · exact absurd (hbelow' k hk hlt) hfree
      · rfl
      · exact absurd (hbelow k' hk' hlt) hfree'

namespace Slugger

/-! ## The numbers that are passed -/

/-- The search goes up from `k` and passes only numbers that are taken. -/
theorem lt_freeAfter (s : Slugger) (base : Text) (fuel k : Nat) :
    k < s.freeAfter base fuel k ∧
      ∀ j, k < j → j < s.freeAfter base fuel k → s.isTaken (Slug.numbered base j) := by
  induction fuel generalizing k with
  | zero =>
    rw [freeAfter]
    exact ⟨Nat.lt_succ_self k, fun j hlow hhigh => by omega⟩
  | succ fuel ih =>
    rw [freeAfter]
    split
    · next htaken =>
      obtain ⟨hlt, hpassed⟩ := ih (k + 1)
      refine ⟨by omega, fun j hlow hhigh => ?_⟩
      rcases Nat.eq_or_lt_of_le hlow with rfl | hlow
      · exact htaken
      · exact hpassed j hlow hhigh
    · exact ⟨Nat.lt_succ_self k, fun j hlow hhigh => by omega⟩

/-- All numbers up to the count of a slug are taken. -/
def IsCounted (s : Slugger) : Prop :=
  ∀ base k, s.count? base = some k → ∀ j, 1 ≤ j → j ≤ k → s.isTaken (Slug.numbered base j)

/-- Before any slug has been issued there is nothing to count. -/
theorem isCounted_empty : IsCounted {} := fun _ _ h => by cases h

/-- The first free number is the one that a search from one finds. -/
theorem freeAfter_eq_of_isCounted {s : Slugger} (h : s.IsCounted) {base : Text} {k : Nat}
    (hk : s.count? base = some k) :
    s.freeAfter base s.counts.length k = s.freeAfter base s.counts.length 0 := by
  obtain ⟨hlt, hpassed⟩ := s.lt_freeAfter base s.counts.length k
  obtain ⟨hlt₀, hpassed₀⟩ := s.lt_freeAfter base s.counts.length 0
  have hfree := s.isTaken_freeAfter base k
  have hfree₀ := s.isTaken_freeAfter base 0
  rcases Nat.lt_trichotomy (s.freeAfter base s.counts.length k)
    (s.freeAfter base s.counts.length 0) with hless | heq | hless
  · rw [hpassed₀ _ (by omega) hless] at hfree
    cases hfree
  · exact heq
  · rcases Nat.lt_or_ge k (s.freeAfter base s.counts.length 0) with hbehind | hwithin
    · rw [hpassed _ hbehind hless] at hfree₀
      cases hfree₀
    · rw [h base k hk _ hlt₀ hwithin] at hfree₀
      cases hfree₀

/-- What is issued is the first free slug. -/
theorem isFirstFree_issueBase {s : Slugger} (h : s.IsCounted) (base : Text) :
    IsFirstFree (s.isTaken ·) base (s.issueBase base).1 := by
  unfold issueBase
  split
  · next hnone => exact .inl ⟨by simp [isTaken, hnone], rfl⟩
  · next k hk =>
    obtain ⟨hlt, hpassed⟩ := s.lt_freeAfter base s.counts.length k
    have hfree := s.isTaken_freeAfter base k
    refine .inr ⟨by simp [isTaken, hk], _, Nat.one_le_of_lt hlt, rfl, by simp [hfree],
      fun j hj hbelow => ?_⟩
    rcases Nat.lt_or_ge k j with hbehind | hwithin
    · exact hpassed j hbehind hbelow
    · exact h base k hk j hj hwithin

/-- Issuing a slug keeps the counts right. -/
theorem IsCounted.issueBase {s : Slugger} (h : s.IsCounted) (base : Text) :
    (s.issueBase base).2.IsCounted := by
  intro b m hm j hj hle
  rw [isTaken_of_issueBase, Bool.or_eq_true, decide_eq_true_eq]
  unfold Slugger.issueBase at hm ⊢
  split at hm
  · rw [count?, lookup_setCount] at hm
    split at hm
    · cases hm
      omega
    · exact .inl (h b m hm j hj hle)
  · next k hk =>
    simp only [count?, lookup_setCount] at hm
    split at hm
    · cases hm
      omega
    · split at hm
      · next hb =>
        cases hm
        subst hb
        obtain ⟨-, hpassed⟩ := s.lt_freeAfter b s.counts.length k
        rcases Nat.eq_or_lt_of_le hle with rfl | hlt
        · exact .inr rfl
        · rcases Nat.lt_or_ge k j with hbehind | hwithin
          · exact .inl (hpassed j hbehind hlt)
          · exact .inl (h b k hk j hj hwithin)
      · exact .inl (h b m hm j hj hle)

/-! ## The search as a loop -/

/-- The loop that looks for a free slug, when it has got to `slug`, and what it comes to: the slug with
the counts then, or nothing if the count of the base is missing when it is to be raised. -/
inductive Search (base : Text) : Slugger → Text → Option (Text × Slugger) → Prop
  | done {s : Slugger} {slug : Text} : s.isTaken slug = false →
    Search base s slug (some (slug, ⟨setCount slug 0 s.counts⟩))
  | again {s : Slugger} {slug : Text} {k : Nat} {outcome : Option (Text × Slugger)} :
    s.isTaken slug → s.count? base = some k →
    Search base ⟨setCount base (k + 1) s.counts⟩ (Slug.numbered base (k + 1)) outcome →
    Search base s slug outcome
  | missing {s : Slugger} {slug : Text} : s.isTaken slug → s.count? base = none →
    Search base s slug none

/-- The loop comes to one thing. -/
theorem Search.unique {base slug : Text} {s : Slugger} {outcome outcome' : Option (Text × Slugger)}
    (h : Search base s slug outcome) (h' : Search base s slug outcome') : outcome = outcome' := by
  induction h with
  | done hfree =>
    cases h' with
    | done => rfl
    | again htaken => rw [hfree] at htaken; cases htaken
    | missing htaken => rw [hfree] at htaken; cases htaken
  | again htaken hk _ ih =>
    cases h' with
    | done hfree => rw [hfree] at htaken; cases htaken
    | again _ hk' hnext =>
      rw [hk] at hk'
      cases hk'
      exact ih hnext
    | missing _ hnone => rw [hk] at hnone; cases hnone
  | missing htaken hnone =>
    cases h' with
    | done hfree => rw [hfree] at htaken; cases htaken
    | again _ hk => rw [hk] at hnone; cases hnone
    | missing => rfl

/-- A count that is set again replaces the one before. -/
theorem setCount_setCount (slug : Text) (k m : Nat) (counts : List (Text × Nat)) :
    setCount slug m (setCount slug k counts) = setCount slug m counts := by
  induction counts with
  | nil => simp [setCount]
  | cons c rest ih =>
    obtain ⟨t, n⟩ := c
    by_cases h : t = slug
    · rw [setCount, if_pos h, setCount, if_pos h, setCount, if_pos h]
    · rw [setCount, if_neg h, setCount, if_neg h, setCount, if_neg h, ih]

/-- A count that is raised makes no slug taken. -/
theorem isTaken_setCount {s : Slugger} {base : Text} {k : Nat} (h : s.count? base = some k) (m : Nat)
    (slug : Text) : isTaken ⟨setCount base m s.counts⟩ slug = s.isTaken slug := by
  rw [isTaken, isTaken, count?, lookup_setCount]
  split
  · next heq => rw [heq, h]; rfl
  · rfl

/-- The loop goes up to the first free number. -/
theorem search_numbered {base : Text} {n : Nat} {s : Slugger} {slug : Text} {k : Nat}
    (hk : s.count? base = some k) (htaken : s.isTaken slug) (hlt : k < n)
    (hpassed : ∀ j, k < j → j < n → s.isTaken (Slug.numbered base j))
    (hfree : s.isTaken (Slug.numbered base n) = false) :
    Search base s slug (some (Slug.numbered base n,
      ⟨setCount (Slug.numbered base n) 0 (setCount base n s.counts)⟩)) := by
  induction hd : n - (k + 1) generalizing s slug k with
  | zero =>
    obtain rfl : n = k + 1 := by omega
    exact .again htaken hk (.done (by rwa [isTaken_setCount hk]))
  | succ d ih =>
    have hnext : s.isTaken (Slug.numbered base (k + 1)) := hpassed _ (by omega) (by omega)
    have hcount : count? ⟨setCount base (k + 1) s.counts⟩ base = some (k + 1) := by
      rw [count?, lookup_setCount, if_pos rfl]
    have hrest := ih hcount (by rwa [isTaken_setCount hk]) (by omega)
      (fun j hlow hhigh => by rw [isTaken_setCount hk]; exact hpassed j (by omega) hhigh)
      (by rwa [isTaken_setCount hk]) (by omega)
    rw [setCount_setCount] at hrest
    exact .again htaken hk hrest

/-- The loop ends, and it comes to what is issued. -/
theorem search_issueBase (s : Slugger) (base : Text) :
    Search base s base (some (s.issueBase base)) := by
  unfold issueBase
  split
  · next hnone => exact .done (by rw [isTaken, hnone]; rfl)
  · next k hk =>
    obtain ⟨hlt, hpassed⟩ := s.lt_freeAfter base s.counts.length k
    exact search_numbered hk (by rw [isTaken, hk]; rfl) hlt hpassed (s.isTaken_freeAfter base k)

/-! ## A run -/

/-- The slugger after it has issued slugs for texts. -/
def after (s : Slugger) (texts : List Text) : Slugger := texts.foldl (fun s t => (s.issue t).2) s

/-- However many slugs are issued, all numbers up to a count stay taken. -/
theorem isCounted_after {s : Slugger} (h : s.IsCounted) (texts : List Text) :
    (s.after texts).IsCounted := by
  induction texts generalizing s with
  | nil => exact h
  | cons t rest ih => exact ih (h.issueBase (Slug.ofText t))

/-- After a run those slugs are taken that were taken before, and those that have been issued. -/
theorem isTaken_after (s : Slugger) (texts : List Text) (slug : Text) :
    (s.after texts).isTaken slug ↔ s.isTaken slug ∨ slug ∈ s.issueAll texts := by
  induction texts generalizing s with
  | nil => simp [after, issueAll]
  | cons t rest ih =>
    have hafter : s.after (t :: rest) = (s.issue t).2.after rest := rfl
    rw [hafter, ih, issue, isTaken_of_issueBase, issueAll, List.mem_cons, Bool.or_eq_true,
      decide_eq_true_eq, or_assoc]
    rfl

/-- Slugs are issued one after the other, and the later ones depend on the earlier only through what
is left. -/
theorem issueAll_append (s : Slugger) (texts more : List Text) :
    s.issueAll (texts ++ more) = s.issueAll texts ++ (s.after texts).issueAll more := by
  induction texts generalizing s with
  | nil => rfl
  | cons t rest ih => exact congrArg (List.cons (s.issue t).1) (ih (s.issue t).2)

/-- Each slug that a slugger issues after it has been reset is the first free one. Whatever texts came
before it: the loop that looks for it ends and finds the count that it has to raise; the slug is the
base if that has not been issued, and else the base with the first number from one on that makes a
slug that has not been issued, so that a search from one finds it, too; and it is different from all
before it. -/
theorem slugs_first_free (s : Slugger) (texts : List Text) (t : Text) :
    let issued := s.reset.issueAll texts
    let now := s.reset.after texts
    let base := Slug.ofText t
    s.reset.issueAll (texts ++ [t]) = issued ++ [(now.issue t).1] ∧
      (issued ++ [(now.issue t).1]).Nodup ∧
      (∀ outcome, Search base now base outcome ↔ outcome = some (now.issue t)) ∧
      (∀ slug, slug = (now.issue t).1 ↔ IsFirstFree (· ∈ issued) base slug) ∧
      (base ∈ issued → (now.issue t).1 =
        Slug.numbered base (now.freeAfter base now.counts.length 0)) := by
  intro issued now base
  have hcounted : now.IsCounted := isCounted_after isCounted_empty texts
  have htaken (slug : Text) : now.isTaken slug ↔ slug ∈ issued := by
    have hnone : (s.reset.isTaken slug) = false := rfl
    rw [isTaken_after, hnone]
    simp [issued]
  have hall : s.reset.issueAll (texts ++ [t]) = issued ++ [(now.issue t).1] := issueAll_append _ _ _
  have hfirst : IsFirstFree (· ∈ issued) base (now.issue t).1 := by
    have hset : (fun slug => now.isTaken slug = true) = (· ∈ issued) :=
      funext fun slug => propext (htaken slug)
    exact hset ▸ isFirstFree_issueBase hcounted base
  have hsearch : Search base now base (some (now.issue t)) := search_issueBase now base
  refine ⟨hall, ?_, fun outcome => ?_, fun slug => ?_, fun hbase => ?_⟩
  · rw [← hall]
    exact (nodup_issueAll s.reset (texts ++ [t])).2
  · constructor
    · exact fun h => h.unique hsearch
    · rintro rfl
      exact hsearch
  · constructor
    · rintro rfl
      exact hfirst
    · exact fun h => h.unique hfirst
  · obtain ⟨k, hk⟩ := Option.isSome_iff_exists.1 ((htaken base).2 hbase)
    have hissue : (now.issue t).1 =
        Slug.numbered base (now.freeAfter base now.counts.length k) := by
      rw [issue, Slugger.issueBase, hk]
    rw [hissue, freeAfter_eq_of_isCounted hcounted hk]

end Slugger
end LiveMarkdown
