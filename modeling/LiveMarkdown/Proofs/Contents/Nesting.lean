import LiveMarkdown.Contents.Loose
import Mathlib.Data.List.Basic
import Mathlib.Data.List.Induction
import Mathlib.Data.List.TakeWhile

/-!
# Which entry an entry stands under

A forest lists its entries, each before those under it (`entriesOf`), and tells for each which entry it
stands directly under (`parentsOf`). `Outlines` says that the entries are those given, in their order,
and that each stands under the closest one before it with a lower level, if there is one. The two lists
determine a forest (`eq_of_parentsOf`), so that at most one forest outlines given entries, and the tree
of contents does (`outlines_tree`).

The tree is made from the last entry to the first. It can as well be made in the order of the entries
(`readAll_eq`): whoever reads them keeps the levels of the entries that are still open, which are those
on the way to the last one (`spine`). An entry closes those that are not lower and comes under the one
that is left.
-/

namespace LiveMarkdown.Contents

/-! ## Forests -/

/-- The entries of a forest, each before those under it. -/
def entriesOf : List Node → List Entry
  | [] => []
  | ⟨e, children⟩ :: rest => e :: (entriesOf children ++ entriesOf rest)

/-- Which entry each entry of a forest stands directly under, in the same order. Entries go by their
place among all: the first one of the forest has the place `place`, and the forest stands under the
one at `parent`, if it stands under one. -/
def parentsOf (parent : Option Nat) (place : Nat) : List Node → List (Option Nat)
  | [] => []
  | ⟨_, children⟩ :: rest =>
    parent :: (parentsOf (some place) (place + 1) children ++
      parentsOf parent (place + 1 + (entriesOf children).length) rest)

/-- Entries have higher levels than what they stand under, and next to each other levels never
increase. -/
def IsGraded : List Node → Prop
  | [] => True
  | ⟨e, children⟩ :: rest =>
    (∀ n ∈ children, e.level < n.entry.level) ∧ (∀ n ∈ rest, n.entry.level ≤ e.level) ∧
      IsGraded children ∧ IsGraded rest

/-- No trees have no entries. -/
@[simp] theorem entriesOf_nil : entriesOf [] = [] := by rw [entriesOf]

/-- An entry comes first, then those under it, then those of the trees after it. -/
@[simp] theorem entriesOf_cons (n : Node) (rest : List Node) :
    entriesOf (n :: rest) = n.entry :: (entriesOf n.children ++ entriesOf rest) := by
  obtain ⟨e, children⟩ := n
  rw [entriesOf]

/-- No trees stand under nothing. -/
@[simp] theorem parentsOf_nil (parent : Option Nat) (place : Nat) : parentsOf parent place [] = [] := by
  rw [parentsOf]

/-- What stands under an entry has its place, and the trees after it stand where it does. -/
@[simp] theorem parentsOf_cons (parent : Option Nat) (place : Nat) (n : Node) (rest : List Node) :
    parentsOf parent place (n :: rest) =
      parent :: (parentsOf (some place) (place + 1) n.children ++
        parentsOf parent (place + 1 + (entriesOf n.children).length) rest) := by
  obtain ⟨e, children⟩ := n
  rw [parentsOf]

/-- No trees are graded. -/
@[simp] theorem isGraded_nil : IsGraded [] := by
  rw [IsGraded]
  trivial

/-- Trees are graded if the first is higher than what stands under it and not lower than what comes
next, and both parts are graded. -/
@[simp] theorem isGraded_cons (n : Node) (rest : List Node) :
    IsGraded (n :: rest) ↔
      (∀ m ∈ n.children, n.entry.level < m.entry.level) ∧
        (∀ m ∈ rest, m.entry.level ≤ n.entry.level) ∧ IsGraded n.children ∧ IsGraded rest := by
  obtain ⟨e, children⟩ := n
  rw [IsGraded]

/-- The entries of trees come one after the other. -/
theorem entriesOf_append (f g : List Node) : entriesOf (f ++ g) = entriesOf f ++ entriesOf g := by
  induction f with
  | nil => simp
  | cons n rest ih => simp [ih]

/-- Trees further on count on from the entries before them. -/
theorem parentsOf_append (parent : Option Nat) (place : Nat) (f g : List Node) :
    parentsOf parent place (f ++ g) =
      parentsOf parent place f ++ parentsOf parent (place + (entriesOf f).length) g := by
  induction f generalizing place with
  | nil => simp
  | cons n rest ih =>
    simp only [List.cons_append, parentsOf_cons, entriesOf_cons, List.length_cons, List.length_append,
      ih, List.append_assoc]
    congr 4
    omega

/-- Every entry stands somewhere. -/
theorem length_parentsOf (parent : Option Nat) (place : Nat) (f : List Node) :
    (parentsOf parent place f).length = (entriesOf f).length := by
  induction f using entriesOf.induct generalizing parent place with
  | case1 => simp
  | case2 e children rest ihc ihr => simp [ihc, ihr]

/-- Further on, and under another entry, everything stands under the same entries as before. -/
theorem parentsOf_eq_map (outer parent : Option Nat) (place shift : Nat) (f : List Node) :
    parentsOf (parent.elim outer fun j => some (j + shift)) (place + shift) f =
      (parentsOf parent place f).map fun p => p.elim outer fun j => some (j + shift) := by
  induction f using entriesOf.induct generalizing parent place with
  | case1 => simp
  | case2 e children rest ihc ihr =>
    simp only [parentsOf_cons, List.map_cons, List.map_append, ← ihc, ← ihr]
    rw [Nat.add_right_comm place shift 1,
      Nat.add_right_comm (place + 1) shift (entriesOf children).length]
    rfl

/-! ## One forest at most -/

/-- The first tree stands where the forest does. -/
theorem head?_parentsOf (parent : Option Nat) (place : Nat) (f : List Node) :
    ∀ p ∈ (parentsOf parent place f).head?, p = parent := by
  cases f with
  | nil => simp
  | cons n rest => simp

/-- Every entry stands where the forest does, or under an entry of the forest. -/
theorem mem_parentsOf {parent : Option Nat} {place : Nat} {f : List Node} {p : Option Nat}
    (h : p ∈ parentsOf parent place f) : p = parent ∨ ∃ j, place ≤ j ∧ p = some j := by
  induction f using entriesOf.induct generalizing parent place with
  | case1 => simp at h
  | case2 e children rest ihc ihr =>
    simp only [parentsOf_cons, List.mem_cons, List.mem_append] at h
    rcases h with rfl | h | h
    · exact .inl rfl
    · rcases ihc h with rfl | ⟨j, hj, rfl⟩
      · exact .inr ⟨place, Nat.le_refl _, rfl⟩
      · exact .inr ⟨j, by omega, rfl⟩
    · rcases ihr h with rfl | ⟨j, hj, rfl⟩
      · exact .inl rfl
      · exact .inr ⟨j, by omega, rfl⟩

/-- What stands under an entry ends where something stands under an earlier one. -/
theorem takeWhile_parentsOf {parent : Option Nat} {place : Nat} (hparent : ∀ j ∈ parent, j < place)
    (children rest : List Node) (place' : Nat) :
    (parentsOf (some place) (place + 1) children ++ parentsOf parent place' rest).takeWhile
      (·.any (place ≤ ·)) = parentsOf (some place) (place + 1) children := by
  have hunder : ∀ p ∈ parentsOf (some place) (place + 1) children, p.any (place ≤ ·) := by
    intro p hp
    rcases mem_parentsOf hp with rfl | ⟨j, hj, rfl⟩
    · simp
    · simp only [Option.any_some, decide_eq_true_eq]
      omega
  rw [List.takeWhile_append_of_pos hunder]
  have hhead := head?_parentsOf parent place' rest
  cases hrest : parentsOf parent place' rest with
  | nil => simp
  | cons p more =>
    rw [hrest] at hhead
    obtain rfl : p = parent := hhead p rfl
    rw [List.takeWhile_cons_of_neg, List.append_nil]
    cases p with
    | none => simp
    | some j => simpa using hparent j rfl

/-- Entries and what they stand under determine a forest. -/
theorem eq_of_parentsOf {parent : Option Nat} {place : Nat} (hparent : ∀ j ∈ parent, j < place)
    {f g : List Node} (hentries : entriesOf f = entriesOf g)
    (hparents : parentsOf parent place f = parentsOf parent place g) : f = g := by
  induction f using entriesOf.induct generalizing parent place g with
  | case1 =>
    cases g with
    | nil => rfl
    | cons n rest => simp at hentries
  | case2 e children rest ihc ihr =>
    cases g with
    | nil => simp at hentries
    | cons n rest' =>
      obtain ⟨e', children'⟩ := n
      simp only [entriesOf_cons, List.cons.injEq] at hentries
      obtain ⟨rfl, hentries⟩ := hentries
      simp only [parentsOf_cons, List.cons.injEq, true_and] at hparents
      have hunder := congrArg (List.takeWhile (·.any (place ≤ ·))) hparents
      rw [takeWhile_parentsOf hparent, takeWhile_parentsOf hparent] at hunder
      have hlength : (entriesOf children).length = (entriesOf children').length := by
        rw [← length_parentsOf (some place) (place + 1), hunder, length_parentsOf]
      obtain ⟨hchildren, hrest⟩ := List.append_inj hentries hlength
      rw [hunder, List.append_cancel_left_eq, hlength] at hparents
      have hlater (j : Nat) (hj : j ∈ parent) :
          j < place + 1 + (entriesOf children').length := by
        have := hparent j hj
        omega
      rw [ihc (fun j hj => by cases hj; omega) hchildren hunder, ihr hlater hrest hparents]

/-! ## The closest lower entry -/

/-- The entry at `i` has a lower level than the one at `k`. -/
def IsLower (es : List Entry) (i k : Nat) : Prop :=
  ∃ a b, es[i]? = some a ∧ es[k]? = some b ∧ a.level < b.level

/-- The closest entry before the one at `k` with a lower level, if there is one. -/
def IsClosestLower (es : List Entry) (k : Nat) : Option Nat → Prop
  | some j => j < k ∧ IsLower es j k ∧ ∀ i, j < i → i < k → ¬IsLower es i k
  | none => ∀ i < k, ¬IsLower es i k

/-- There is one closest lower entry at most. -/
theorem IsClosestLower.unique {es : List Entry} {k : Nat} {p q : Option Nat}
    (hp : IsClosestLower es k p) (hq : IsClosestLower es k q) : p = q := by
  cases p with
  | none =>
    cases q with
    | none => rfl
    | some j => exact absurd hq.2.1 (hp j hq.1)
  | some i =>
    cases q with
    | none => exact absurd hp.2.1 (hq i hp.1)
    | some j =>
      rcases Nat.lt_trichotomy i j with hlt | rfl | hlt
      · exact absurd hq.2.1 (hp.2.2 j hlt hq.1)
      · rfl
      · exact absurd hp.2.1 (hq.2.2 i hlt hp.1)

/-- Where no entry before is lower, none is higher than those before. -/
theorem IsClosestLower.le_of_none {es : List Entry} {i k : Nat} {a x : Entry}
    (h : IsClosestLower es k none) (hi : i ≤ k) (ha : es[i]? = some a) (hx : es[k]? = some x) :
    x.level ≤ a.level := by
  rcases Nat.eq_or_lt_of_le hi with rfl | hlt
  · exact Int.le_of_eq (congrArg Entry.level (Option.some.inj (hx.symm.trans ha)))
  · exact Int.not_lt.1 fun hlower => h i hlt ⟨a, x, ha, hx, hlower⟩

/-- One more entry in front leaves the order of levels as it is. -/
theorem isLower_cons_succ {e : Entry} {es : List Entry} {i k : Nat} :
    IsLower (e :: es) (i + 1) (k + 1) ↔ IsLower es i k := by
  simp [IsLower]

/-- One more entry in front is the closest lower one where there was none and it is lower. -/
theorem IsClosestLower.cons {e x : Entry} {es : List Entry} {k : Nat} {p : Option Nat}
    (hx : es[k]? = some x) (h : IsClosestLower es k p) :
    IsClosestLower (e :: es) (k + 1)
      (p.elim (if e.level < x.level then some 0 else none) fun j => some (j + 1)) := by
  have hfirst : IsLower (e :: es) 0 (k + 1) ↔ e.level < x.level := by
    simp [IsLower, hx]
  cases p with
  | some j =>
    refine ⟨Nat.succ_lt_succ h.1, isLower_cons_succ.2 h.2.1, fun i hlow hhigh => ?_⟩
    cases i with
    | zero => exact absurd hlow (Nat.not_lt_zero _)
    | succ i =>
      exact fun hi => h.2.2 i (Nat.lt_of_succ_lt_succ hlow) (Nat.lt_of_succ_lt_succ hhigh)
        (isLower_cons_succ.1 hi)
  | none =>
    have hlater (i : Nat) (hi : i < k) : ¬IsLower (e :: es) (i + 1) (k + 1) := fun hlower =>
      h i hi (isLower_cons_succ.1 hlower)
    rw [Option.elim_none]
    split
    · next hlower =>
      refine ⟨Nat.succ_pos k, hfirst.2 hlower, fun i hlow hhigh => ?_⟩
      obtain ⟨i, rfl⟩ := Nat.exists_eq_add_of_le' hlow
      exact hlater i (Nat.lt_of_succ_lt_succ hhigh)
    · next hlower =>
      intro i hi
      cases i with
      | zero => exact fun h => hlower (hfirst.1 h)
      | succ i => exact hlater i (Nat.lt_of_succ_lt_succ hi)

/-- The forest has the entries in their order, each under the closest lower one before it. -/
structure Outlines (f : List Node) (es : List Entry) : Prop where
  entries : entriesOf f = es
  parents : ∀ k p, (parentsOf none 0 f)[k]? = some p → IsClosestLower es k p

/-- There is one forest at most that outlines the entries. -/
theorem Outlines.unique {f g : List Node} {es : List Entry} (hf : Outlines f es)
    (hg : Outlines g es) : f = g := by
  have hnone : ∀ j ∈ (none : Option Nat), j < 0 := nofun
  refine eq_of_parentsOf hnone (hf.entries.trans hg.entries.symm) ?_
  have hlength : (parentsOf none 0 f).length = (parentsOf none 0 g).length := by
    rw [length_parentsOf, length_parentsOf, hf.entries, hg.entries]
  refine List.ext_getElem hlength fun k hk hk' => ?_
  exact (hf.parents k _ (List.getElem?_eq_getElem hk)).unique
    (hg.parents k _ (List.getElem?_eq_getElem hk'))

/-! ## The tree of contents -/

/-- Both parts of graded trees are graded. -/
theorem isGraded_append {f g : List Node} (h : IsGraded (f ++ g)) : IsGraded f ∧ IsGraded g := by
  induction f with
  | nil => exact ⟨isGraded_nil, h⟩
  | cons n rest ih =>
    rw [List.cons_append, isGraded_cons] at h
    obtain ⟨hchildren, hrest, hgraded, hmore⟩ := h
    obtain ⟨hfirst, hsecond⟩ := ih hmore
    exact ⟨(isGraded_cons ..).2
      ⟨hchildren, fun n hn => hrest n (List.mem_append_left _ hn), hgraded, hfirst⟩, hsecond⟩

/-- Where levels never increase, all entries after one that is not higher are not higher. -/
theorem IsGraded.le_of_head? {f : List Node} (h : IsGraded f) {level : Int}
    (hhead : ∀ n ∈ f.head?, n.entry.level ≤ level) : ∀ n ∈ f, n.entry.level ≤ level := by
  cases f with
  | nil => nofun
  | cons n rest =>
    obtain ⟨hrest⟩ := ((isGraded_cons ..).1 h).2
    have hn := hhead n rfl
    exact List.forall_mem_cons.2 ⟨hn, fun m hm => Int.le_trans (hrest m hm) hn⟩

/-- What is lower than the trees of a forest is lower than all its entries. -/
theorem IsGraded.lt_of_mem {f : List Node} (h : IsGraded f) {level : Int}
    (hroots : ∀ n ∈ f, level < n.entry.level) : ∀ e ∈ entriesOf f, level < e.level := by
  induction f using entriesOf.induct generalizing level with
  | case1 => simp
  | case2 e children rest ihc ihr =>
    obtain ⟨hchildren, -, hgraded, hmore⟩ := (isGraded_cons ..).1 h
    obtain ⟨he, hrest⟩ := List.forall_mem_cons.1 hroots
    rw [entriesOf_cons, List.forall_mem_cons, List.forall_mem_append]
    exact ⟨he, ihc hgraded fun n hn => Int.lt_trans he (hchildren n hn), ihr hmore hrest⟩

/-- One more entry in front takes the trees of the later ones up to the first that is not higher. -/
theorem tree_cons {e : Entry} {es : List Entry} {under after : List Node}
    (hlater : tree es = under ++ after) (hunder : ∀ n ∈ under, e.level < n.entry.level)
    (hafter : ∀ n ∈ after.head?, n.entry.level ≤ e.level) : tree (e :: es) = ⟨e, under⟩ :: after := by
  have hall : ∀ n ∈ under, decide (e.level < n.entry.level) := fun n hn => decide_eq_true (hunder n hn)
  rw [tree, hlater, List.takeWhile_append_of_pos hall, List.dropWhile_append_of_pos hall]
  cases after with
  | nil => simp
  | cons n rest =>
    have hstop : ¬decide (e.level < n.entry.level) := by simpa using hafter n rfl
    rw [List.takeWhile_cons, if_neg hstop, List.dropWhile_cons, if_neg hstop, List.append_nil]

/-- One more entry in front divides the trees of the later ones: those up to the first that is not
higher stand under it. -/
theorem exists_tree_cons (e : Entry) (es : List Entry) : ∃ under after,
    tree (e :: es) = ⟨e, under⟩ :: after ∧ tree es = under ++ after ∧
      (∀ n ∈ under, e.level < n.entry.level) ∧ ∀ n ∈ after.head?, n.entry.level ≤ e.level := by
  refine ⟨_, _, rfl, (List.takeWhile_append_dropWhile ..).symm, fun n hn => ?_, fun n hn => ?_⟩
  · simpa using List.mem_takeWhile_imp hn
  · have hstop := List.head?_dropWhile_not (fun n : Node => decide (e.level < n.entry.level)) (tree es)
    rw [Option.mem_def.1 hn] at hstop
    simpa using hstop

/-- The tree of contents is graded. -/
theorem isGraded_tree (es : List Entry) : IsGraded (tree es) := by
  induction es with
  | nil => exact isGraded_nil
  | cons e es ih =>
    obtain ⟨under, after, htree, hlater, hunder, hafter⟩ := exists_tree_cons e es
    rw [hlater] at ih
    obtain ⟨hgraded, hmore⟩ := isGraded_append ih
    rw [htree, isGraded_cons]
    exact ⟨hunder, hmore.le_of_head? hafter, hgraded, hmore⟩

/-- The tree of contents outlines its entries. -/
theorem outlines_tree (es : List Entry) : Outlines (tree es) es := by
  induction es with
  | nil => exact ⟨entriesOf_nil, fun k p hp => by simp [tree] at hp⟩
  | cons e es ih =>
    have hgraded := isGraded_tree es
    obtain ⟨under, after, htree, hlater, hunder, hafter⟩ := exists_tree_cons e es
    obtain ⟨hentries, hparents⟩ := ih
    rw [hlater] at hentries hparents hgraded
    rw [entriesOf_append] at hentries
    obtain ⟨hunderGraded, hafterGraded⟩ := isGraded_append hgraded
    refine ⟨by rw [htree, entriesOf_cons, hentries], fun k p hp => ?_⟩
    cases k with
    | zero =>
      rw [htree, parentsOf_cons] at hp
      obtain rfl : p = none := by simpa using hp.symm
      exact fun i hi => absurd hi (Nat.not_lt_zero _)
    | succ k =>
      rw [htree, parentsOf_cons, List.getElem?_cons_succ] at hp
      -- The trees of the later entries are known with places of their own, from zero and under
      -- nothing. Here they begin one place further on, and some of them stand under the new entry.
      have hshift (outer : Option Nat) (place : Nat) (f : List Node) :
          parentsOf outer (place + 1) f =
            (parentsOf none place f).map fun q => q.elim outer fun j => some (j + 1) :=
        parentsOf_eq_map outer none place 1 f
      rw [hshift (some 0) 0, Nat.add_comm (0 + 1), hshift none] at hp
      rw [parentsOf_append, Nat.zero_add] at hparents
      have hlength := length_parentsOf none 0 under
      rcases Nat.lt_or_ge k (entriesOf under).length with hk | hk
      · rw [List.getElem?_append_left (by rwa [List.length_map, hlength]), List.getElem?_map] at hp
        obtain ⟨q, hq, rfl⟩ := Option.map_eq_some_iff.1 hp
        have hclosest := hparents k q (by rwa [List.getElem?_append_left (by rwa [hlength])])
        have hx : es[k]? = some (entriesOf under)[k] := by
          rw [← hentries, List.getElem?_append_left hk, List.getElem?_eq_getElem hk]
        have hlower : e.level < (entriesOf under)[k].level :=
          hunderGraded.lt_of_mem hunder _ (List.getElem_mem hk)
        have hcons := hclosest.cons (e := e) hx
        rwa [if_pos hlower] at hcons
      · rw [List.getElem?_append_right (by rwa [List.length_map, hlength]), List.getElem?_map,
          List.length_map, hlength] at hp
        obtain ⟨q, hq, rfl⟩ := Option.map_eq_some_iff.1 hp
        have hclosest := hparents k q (by rwa [List.getElem?_append_right (by rwa [hlength]), hlength])
        have hk' : k < es.length := by
          have hbound := (List.getElem?_eq_some_iff.1 hq).1
          rw [length_parentsOf] at hbound
          rw [← hentries, List.length_append]
          omega
        have hx := List.getElem?_eq_getElem hk'
        have hcons := hclosest.cons (e := e) hx
        cases q with
        | some j => exact hcons
        -- No entry before is lower. Then this one is no deeper than the first tree after the new
        -- entry's own, which is not deeper than the new entry.
        | none =>
          cases after with
          | nil => simp at hq
          | cons n more =>
            have hfirst : es[(entriesOf under).length]? = some n.entry := by
              rw [← hentries, List.getElem?_append_right (Nat.le_refl _), Nat.sub_self,
                entriesOf_cons]
              rfl
            have hle := Int.le_trans (hclosest.le_of_none hk hfirst hx) (hafter n rfl)
            rwa [Option.elim_none, if_neg (Int.not_lt.2 hle)] at hcons

/-! ## In the order of the entries -/

/-- The levels on the way to the last entry, from the outside in. -/
def spine : List Node → List Int
  | [] => []
  | ⟨e, children⟩ :: rest => if rest.isEmpty then e.level :: spine children else spine rest

/-- The forest with one more tree, which comes last under the entry that is `depth` deep on the way to
the last entry. -/
def addAt : (depth : Nat) → Node → List Node → List Node
  | 0, n, f => f ++ [n]
  | depth + 1, n, f =>
    match f.getLast? with
    | none => [n]
    | some last => f.dropLast ++ [⟨last.entry, addAt depth n last.children⟩]

/-- What has been made of the entries read so far: their forest, and the levels of those that are
open, the innermost first. -/
structure Reading where
  forest : List Node := []
  levels : List Int := []

/-- One more entry closes the open ones that are not lower. -/
def Reading.read (r : Reading) (e : Entry) : Reading :=
  let levels := r.levels.dropWhile (e.level ≤ ·)
  { forest := addAt levels.length ⟨e, []⟩ r.forest, levels := e.level :: levels }

/-- The entries, read one after the other. -/
def readAll (es : List Entry) : Reading := es.foldl Reading.read {}

/-- Nothing is on the way in no trees. -/
@[simp] theorem spine_nil : spine [] = [] := by rw [spine]

/-- The way to the last entry leads through the last tree. -/
theorem spine_concat (f : List Node) (n : Node) : spine (f ++ [n]) = n.entry.level :: spine n.children := by
  induction f with
  | nil =>
    obtain ⟨e, children⟩ := n
    rw [List.nil_append, spine]
    exact if_pos rfl
  | cons m rest ih =>
    obtain ⟨e, children⟩ := m
    rw [List.cons_append, spine, if_neg (by simp), ih]

/-- The way to the last entry leads through the last trees, whatever comes before them. -/
theorem spine_append (f : List Node) {g : List Node} (hg : g ≠ []) : spine (f ++ g) = spine g := by
  obtain ⟨g, last, rfl⟩ := List.eq_nil_or_concat' g |>.resolve_left hg
  rw [← List.append_assoc, spine_concat, spine_concat]

/-- To go deeper is to go into the last tree. -/
theorem addAt_succ_concat (depth : Nat) (n last : Node) (f : List Node) :
    addAt (depth + 1) n (f ++ [last]) = f ++ [⟨last.entry, addAt depth n last.children⟩] := by
  rw [addAt, List.getLast?_concat, List.dropLast_concat]

/-- What is added last is added to the last trees, whatever comes before them. -/
theorem addAt_append (depth : Nat) (n : Node) (f : List Node) {g : List Node} (hg : g ≠ []) :
    addAt depth n (f ++ g) = f ++ addAt depth n g := by
  obtain ⟨g, last, rfl⟩ := List.eq_nil_or_concat' g |>.resolve_left hg
  cases depth with
  | zero => exact List.append_assoc ..
  | succ depth =>
    rw [← List.append_assoc, addAt_succ_concat, addAt_succ_concat, List.append_assoc]

/-- After an entry has been added, it is the last one, and the way to it goes on only as deep as it
was added. -/
theorem spine_addAt {depth : Nat} {f : List Node} (e : Entry) (h : depth ≤ (spine f).length) :
    spine (addAt depth ⟨e, []⟩ f) = (spine f).take depth ++ [e.level] := by
  induction depth generalizing f with
  | zero => rw [addAt, spine_concat, spine_nil, List.take_zero, List.nil_append]
  | succ depth ih =>
    rcases List.eq_nil_or_concat' f with rfl | ⟨f, last, rfl⟩
    · simp at h
    · rw [spine_concat] at h
      rw [addAt_succ_concat, spine_concat, spine_concat, ih (Nat.le_of_succ_le_succ h)]
      rfl

/-- The levels of the trees are those that were there, and that of the new tree. -/
theorem exists_of_mem_addAt {depth : Nat} {n m : Node} {f : List Node} (h : m ∈ addAt depth n f) :
    m.entry = n.entry ∨ ∃ m' ∈ f, m.entry = m'.entry := by
  rcases List.eq_nil_or_concat' f with rfl | ⟨f, last, rfl⟩
  · cases depth with
    | zero => exact .inl (congrArg Node.entry (List.mem_singleton.1 h))
    | succ depth => exact .inl (congrArg Node.entry (List.mem_singleton.1 h))
  · cases depth with
    | zero =>
      rcases List.mem_append.1 h with h | h
      · exact .inr ⟨m, h, rfl⟩
      · exact .inl (congrArg Node.entry (List.mem_singleton.1 h))
    | succ depth =>
      rw [addAt_succ_concat] at h
      rcases List.mem_append.1 h with h | h
      · exact .inr ⟨m, List.mem_append_left _ h, rfl⟩
      · rw [List.mem_singleton.1 h]
        exact .inr ⟨last, by simp, rfl⟩

/-- Adding an entry at the end leaves the entry of the first tree as it is. -/
theorem exists_of_mem_head?_addAt {depth : Nat} {n m : Node} {f : List Node} (hf : f ≠ [])
    (h : m ∈ (addAt depth n f).head?) : ∃ m' ∈ f.head?, m.entry = m'.entry := by
  obtain ⟨first, rest, rfl⟩ := List.exists_cons_of_ne_nil hf
  refine ⟨first, rfl, ?_⟩
  cases rest with
  | nil =>
    cases depth with
    | zero =>
      obtain rfl : first = m := Option.some.inj h
      rfl
    | succ depth =>
      obtain rfl := Option.some.inj h
      rfl
  | cons second rest =>
    rw [← List.singleton_append, addAt_append _ _ _ (List.cons_ne_nil _ _)] at h
    obtain rfl : first = m := Option.some.inj h
    rfl

/-- The entries on the way to the last one are entries of the forest. -/
theorem exists_of_mem_spine {f : List Node} {level : Int} (h : level ∈ spine f) :
    ∃ e ∈ entriesOf f, e.level = level := by
  induction f using entriesOf.induct with
  | case1 => simp at h
  | case2 e children rest ihc ihr =>
    rw [spine] at h
    split at h
    · rcases List.mem_cons.1 h with rfl | h
      · exact ⟨e, by simp, rfl⟩
      · obtain ⟨x, hx, rfl⟩ := ihc h
        exact ⟨x, by simp [hx], rfl⟩
    · obtain ⟨x, hx, rfl⟩ := ihr h
      exact ⟨x, by simp [hx], rfl⟩

/-- Levels increase on the way to the last entry. -/
theorem IsGraded.pairwise_spine {f : List Node} (h : IsGraded f) : (spine f).Pairwise (· < ·) := by
  induction f using entriesOf.induct with
  | case1 => simp
  | case2 e children rest ihc ihr =>
    obtain ⟨hchildren, -, hgraded, hmore⟩ := (isGraded_cons ..).1 h
    rw [spine]
    split
    · refine List.pairwise_cons.2 ⟨fun level hlevel => ?_, ihc hgraded⟩
      obtain ⟨x, hx, rfl⟩ := exists_of_mem_spine hlevel
      exact hgraded.lt_of_mem hchildren x hx
    · exact ihr hmore

/-- Of increasing levels, the last ones are closed. -/
theorem dropWhile_reverse {levels : List Int} (h : levels.Pairwise (· < ·)) (level : Int) :
    levels.reverse.dropWhile (level ≤ ·) = (levels.takeWhile (· < level)).reverse := by
  have hlower : ∀ l ∈ levels.takeWhile (· < level), l < level := fun l hl => by
    simpa using List.mem_takeWhile_imp hl
  have hclosed : ∀ l ∈ levels.dropWhile (· < level), level ≤ l := by
    have hstop := List.head?_dropWhile_not (fun l => decide (l < level)) levels
    have hrest := h.sublist (List.dropWhile_sublist (fun l => decide (l < level)))
    cases hdrop : levels.dropWhile (· < level) with
    | nil => nofun
    | cons first rest =>
      rw [hdrop] at hstop hrest
      have hfirst : level ≤ first := by simpa using hstop
      exact List.forall_mem_cons.2 ⟨hfirst, fun l hl =>
        Int.le_trans hfirst (Int.le_of_lt ((List.pairwise_cons.1 hrest).1 l hl))⟩
  have hsplit : levels.reverse =
      (levels.dropWhile (· < level)).reverse ++ (levels.takeWhile (· < level)).reverse := by
    rw [← List.reverse_append, List.takeWhile_append_dropWhile]
  rw [hsplit, List.dropWhile_append_of_pos fun l hl => by
    simpa using hclosed l (List.mem_reverse.1 hl)]
  cases hrev : (levels.takeWhile (· < level)).reverse with
  | nil => rfl
  | cons first rest =>
    have hfirst := hlower first (List.mem_reverse.1 (hrev ▸ List.mem_cons_self))
    rw [List.dropWhile_cons, if_neg (by simpa using hfirst)]

/-- One more entry at the end comes under the last one on the way to the last entry that is lower. -/
theorem tree_concat (es : List Entry) (e : Entry) : tree (es ++ [e]) =
    addAt ((spine (tree es)).takeWhile (· < e.level)).length ⟨e, []⟩ (tree es) := by
  induction es with
  | nil => simp [tree, addAt]
  | cons x es ih =>
    obtain ⟨under, after, htree, hlater, hunder, hafter⟩ := exists_tree_cons x es
    have hgraded := isGraded_tree es
    rw [hlater] at ih hgraded
    rw [List.cons_append, htree]
    -- Either the first tree is the last one too, and the way to the last entry leads through it, or
    -- the new entry goes into the trees after it.
    by_cases hnil : after = []
    · subst hnil
      rw [List.append_nil] at ih hgraded
      have hspine : spine [⟨x, under⟩] = x.level :: spine under := spine_concat [] ⟨x, under⟩
      rw [hspine, List.takeWhile_cons]
      split
      · next hlower =>
        have hroots : ∀ n ∈ tree (es ++ [e]), x.level < n.entry.level := by
          intro n hn
          rw [ih] at hn
          rcases exists_of_mem_addAt hn with heq | ⟨m, hm, heq⟩
          · rw [heq]
            simpa using hlower
          · rw [heq]
            exact hunder m hm
        rw [tree_cons (List.append_nil _).symm hroots nofun, List.length_cons, ih]
        exact (addAt_succ_concat _ _ ⟨x, under⟩ []).symm
      · next hlower =>
        have hnone : (spine under).takeWhile (· < e.level) = [] := by
          cases hunderSpine : spine under with
          | nil => rfl
          | cons level rest =>
            obtain ⟨y, hy, rfl⟩ := exists_of_mem_spine (hunderSpine ▸ List.mem_cons_self)
            have hx := hgraded.lt_of_mem hunder y hy
            rw [List.takeWhile_cons, if_neg]
            simp only [decide_eq_true_eq] at hlower ⊢
            omega
        rw [hnone] at ih
        exact tree_cons ih hunder fun n hn => by
          obtain rfl : ⟨e, []⟩ = n := Option.some.inj hn
          simpa using hlower
    · rw [spine_append _ hnil, addAt_append _ _ _ hnil] at ih
      rw [← @List.singleton_append _ _ after, spine_append _ hnil, addAt_append _ _ _ hnil]
      refine tree_cons ih hunder fun n hn => ?_
      obtain ⟨m, hm, heq⟩ := exists_of_mem_head?_addAt hnil hn
      exact heq ▸ hafter m hm

/-- To read the entries one after the other makes the tree of contents, and leaves open what is on the
way to the last entry. -/
theorem readAll_eq (es : List Entry) :
    readAll es = { forest := tree es, levels := (spine (tree es)).reverse } := by
  induction es using List.reverseRecOn with
  | nil => simp [readAll, tree]
  | append_singleton es e ih =>
    have hopen := dropWhile_reverse (isGraded_tree es).pairwise_spine e.level
    have hdepth : ((spine (tree es)).takeWhile (· < e.level)).length ≤ (spine (tree es)).length :=
      (List.takeWhile_sublist _).length_le
    have htake : (spine (tree es)).take ((spine (tree es)).takeWhile (· < e.level)).length =
        (spine (tree es)).takeWhile (· < e.level) :=
      (List.prefix_iff_eq_take.1 (List.takeWhile_prefix _)).symm
    rw [readAll, List.foldl_append, ← readAll, ih, List.foldl_cons, List.foldl_nil, Reading.read]
    simp only [hopen, List.length_reverse]
    rw [tree_concat, spine_addAt e hdepth, htake, List.reverse_concat]

/-! ## The tree of contents -/

/-- An entry as a record. -/
def Entry.fields (e : Entry) : List (Text × Loose) :=
  [("level", .int e.level), (['i', 'd'], .text e.id), ("text", .text e.text)]

/-- Entries that come as records are read as they are. -/
theorem looseTree_fields (es : List Entry) : looseTree (es.map Entry.fields) = .ok (tree es) := by
  have hread : (es.map Entry.fields).mapM Entry.ofFields = .ok es := by
    induction es with
    | nil => rfl
    | cons e es ih =>
      rw [List.map_cons, List.mapM_cons, ih]
      rfl
  rw [looseTree, hread]
  rfl

/-- The tree of contents is the one forest that has the entries in their order, each under the closest
one before it with a lower level. In it levels increase downwards, and next to each other they never
increase. It is what becomes of the entries as they are read one after the other, and of records that
hold them. -/
theorem tree_nests (es : List Entry) :
    (∀ f, Outlines f es ↔ f = tree es) ∧ IsGraded (tree es) ∧ (readAll es).forest = tree es ∧
      looseTree (es.map Entry.fields) = .ok (tree es) := by
  refine ⟨fun f => ⟨fun h => h.unique (outlines_tree es), fun h => ?_⟩, isGraded_tree es, ?_,
    looseTree_fields es⟩
  · exact h ▸ outlines_tree es
  · rw [readAll_eq]

/-- Levels that jump up and down, from an entry that is deeper than later ones. -/
example : parentsOf none 0 (tree ([3, 1, 4, 2, 4].map fun level => ⟨level, [], []⟩)) =
    [none, none, some 1, some 1, some 3] := by
  cbv

end LiveMarkdown.Contents
