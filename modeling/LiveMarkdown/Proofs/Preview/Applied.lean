import LiveMarkdown.Preview.Diff
import Mathlib.Data.List.ReduceOption

/-!
# Changes as a patch

Changes can be applied to what is shown for the blocks that they were found from (`applyAll`): to the
blocks themselves, or to their HTML. Each change names a position, and positions stay what they are
until all changes are applied: a removed one is empty (`putAt`), and the empty ones are dropped at the
end. So it makes no difference that a removed block shifts those after it, and a position that no
change names is left in place.

What becomes of a position depends on the two blocks there alone (`getElem?_diffFrom`). Applying the
changes, with the kept positions among them or without, gives the new blocks with old ones in the places
where the source is the same (`merged`, `applyAll_diffBlocks`).
-/

namespace LiveMarkdown

/-! ## One position -/

/-- What becomes of a position, given the old and the new block there. -/
def changeAt (i : Nat) : (old new : Option Block) → Option Change
  | none, none => none
  | none, some n => some (.add n)
  | some _, none => some (.remove i)
  | some o, some n => some (if o.source = n.source then .keep n else .update i n)

section

variable {i j : Nat} {o n : Option Block} {b : Block}

/-- There is nothing to say of a position that neither list has. -/
theorem changeAt_eq_none_iff : changeAt i o n = none ↔ o = none ∧ n = none := by
  unfold changeAt
  split
  · simp
  · simp
  · simp
  · simp

/-- A position is kept if both lists have a block there, with the same source. -/
theorem changeAt_eq_keep_iff : changeAt i o n = some (.keep b) ↔
    ∃ o', o = some o' ∧ n = some b ∧ o'.source = b.source := by
  unfold changeAt
  split
  · simp
  · simp
  · simp
  · next o n =>
    split
    · next h =>
      constructor
      · rintro ⟨⟩
        exact ⟨o, rfl, rfl, h⟩
      · rintro ⟨-, -, ⟨⟩, -⟩
        rfl
    · next h =>
      constructor
      · rintro ⟨⟩
      · rintro ⟨o', ho, hb, hs⟩
        cases ho
        cases hb
        exact absurd hs h

/-- It is updated if both lists have a block there, with different sources. The block that gives way is
the one at the same position. -/
theorem changeAt_eq_update_iff : changeAt i o n = some (.update j b) ↔
    j = i ∧ ∃ o', o = some o' ∧ n = some b ∧ o'.source ≠ b.source := by
  unfold changeAt
  split
  · simp
  · simp
  · simp
  · next o n =>
    split
    · next h =>
      constructor
      · rintro ⟨⟩
      · rintro ⟨-, o', ho, hb, hs⟩
        cases ho
        cases hb
        exact absurd h hs
    · next h =>
      constructor
      · rintro ⟨⟩
        exact ⟨rfl, o, rfl, rfl, h⟩
      · rintro ⟨rfl, -, -, ⟨⟩, -⟩
        rfl

/-- A block is added where only the new list has one. -/
theorem changeAt_eq_add_iff : changeAt i o n = some (.add b) ↔ o = none ∧ n = some b := by
  unfold changeAt
  split
  · simp
  · simp
  · simp
  · split
    · simp
    · simp

/-- A block is removed where only the old list has one. -/
theorem changeAt_eq_remove_iff :
    changeAt i o n = some (.remove j) ↔ j = i ∧ o ≠ none ∧ n = none := by
  unfold changeAt
  split
  · simp
  · simp
  · simp [eq_comm]
  · split
    · simp
    · simp

end

/-- The changes from a position on, one by one. -/
theorem getElem?_diffFrom (index : Nat) (old new : List Block) (i : Nat) :
    (diffFrom index old new)[i]? =
      (changeAt (index + i) old[i]? new[i]?).map (⟨index + i, ·⟩) := by
  have hplace (index i : Nat) : index + 1 + i = index + (i + 1) := by omega
  induction index, old, new using diffFrom.induct generalizing i with
  | case1 index => rw [diffFrom]; rfl
  | case2 index n new ih =>
    rw [diffFrom]
    cases i with
    | zero => rfl
    | succ i => rw [List.getElem?_cons_succ, ih, hplace, List.getElem?_cons_succ]; rfl
  | case3 index o old ih =>
    rw [diffFrom]
    cases i with
    | zero => rfl
    | succ i => rw [List.getElem?_cons_succ, ih, hplace, List.getElem?_cons_succ]; rfl
  | case4 index o old n new ih =>
    rw [diffFrom]
    cases i with
    | zero => rfl
    | succ i =>
      rw [List.getElem?_cons_succ, ih, hplace, List.getElem?_cons_succ, List.getElem?_cons_succ]

/-- The changes, one by one. -/
theorem getElem?_diffBlocks (old new : List Block) (i : Nat) :
    (diffBlocks old new)[i]? = (changeAt i old[i]? new[i]?).map (⟨i, ·⟩) := by
  rw [diffBlocks, getElem?_diffFrom, Nat.zero_add]

/-- A position is among the changes with what becomes of it, and with nothing else. -/
theorem mem_diffBlocks_iff {old new : List Block} {i : Nat} {c : Change} :
    ⟨i, c⟩ ∈ diffBlocks old new ↔ changeAt i old[i]? new[i]? = some c := by
  rw [List.mem_iff_getElem?]
  constructor
  · rintro ⟨j, hj⟩
    rw [getElem?_diffBlocks] at hj
    obtain ⟨c', hc', heq⟩ := Option.map_eq_some_iff.1 hj
    cases heq
    exact hc'
  · intro h
    exact ⟨i, by rw [getElem?_diffBlocks, h]; rfl⟩

/-- Where a position is kept, both lists have a block with one source. -/
theorem keep_mem_diffBlocks {i : Nat} {old new : List Block} {b : Block} :
    ⟨i, .keep b⟩ ∈ diffBlocks old new ↔
      ∃ o, old[i]? = some o ∧ new[i]? = some b ∧ o.source = b.source := by
  rw [mem_diffBlocks_iff, changeAt_eq_keep_iff]

/-- Every position of either list has its entry, in order. -/
theorem map_index_diffFrom (index : Nat) (old new : List Block) :
    (diffFrom index old new).map (·.index) = List.range' index (max old.length new.length) := by
  induction index, old, new using diffFrom.induct with
  | case1 index => rw [diffFrom]; rfl
  | case2 index n new ih =>
    rw [diffFrom, List.map_cons, ih, List.length_nil, Nat.zero_max, Nat.zero_max, List.length_cons,
      List.range'_succ]
  | case3 index o old ih =>
    rw [diffFrom, List.map_cons, ih, List.length_nil, Nat.max_zero, Nat.max_zero, List.length_cons,
      List.range'_succ]
  | case4 index o old n new ih =>
    rw [diffFrom, List.map_cons, ih, List.length_cons, List.length_cons, Nat.succ_max_succ,
      List.range'_succ]

/-- What counts as a change is all but a kept position. -/
theorem Change.isChange_iff {c : Change} : c.isChange ↔ ∀ b, c ≠ .keep b := by
  cases c with
  | keep b => exact ⟨nofun, fun h => absurd rfl (h b)⟩
  | update i b | add b | remove i => exact ⟨fun _ => nofun, fun _ => rfl⟩

/-- Of changes only the kept positions are left out. -/
theorem mem_changesOnly_iff {diffs : List Diff} {d : Diff} :
    d ∈ changesOnly diffs ↔ d ∈ diffs ∧ ∀ b, d.change ≠ .keep b :=
  List.mem_filter.trans (and_congr_right fun _ => Change.isChange_iff)

/-! ## Applying changes -/

section

variable {α : Type}

/-- The positions with something put at one of them, or with that one emptied. -/
def putAt : (index : Nat) → Option α → List (Option α) → List (Option α)
  | 0, b, [] => [b]
  | 0, b, _ :: rest => b :: rest
  | index + 1, b, [] => none :: putAt index b []
  | index + 1, b, p :: rest => p :: putAt index b rest

/-- The positions after a change, where `view` is what is shown for a block. What an update or a removal
takes away is at the position that it names for that. -/
def Diff.applyTo (view : Block → α) (positions : List (Option α)) (d : Diff) : List (Option α) :=
  match d.change with
  | .keep _ => positions
  | .update oldIndex b => putAt d.index (some (view b)) (putAt oldIndex none positions)
  | .add b => putAt d.index (some (view b)) positions
  | .remove oldIndex => putAt oldIndex none positions

/-- What is shown after changes. -/
def applyAll (view : Block → α) (shown : List α) (diffs : List Diff) : List α :=
  (diffs.foldl (Diff.applyTo view) (shown.map some)).reduceOption

/-- The first position after others is the one that is as many places on. -/
theorem putAt_append (before : List (Option α)) (b : Option α) (rest : List (Option α)) :
    putAt before.length b (before ++ rest) = before ++ putAt 0 b rest := by
  induction before with
  | nil => rfl
  | cons p before ih => exact congrArg (List.cons p) ih

/-- Kept positions say nothing that has to be applied. -/
theorem applyAll_changesOnly (view : Block → α) (shown : List α) (diffs : List Diff) :
    applyAll view shown (changesOnly diffs) = applyAll view shown diffs := by
  have hfold (positions : List (Option α)) :
      (changesOnly diffs).foldl (Diff.applyTo view) positions =
        diffs.foldl (Diff.applyTo view) positions := by
    induction diffs generalizing positions with
    | nil => rfl
    | cons d rest ih =>
      obtain ⟨i, c⟩ := d
      cases c with
      | keep b => exact ih positions
      | update j b | add b | remove j => exact ih _
  rw [applyAll, hfold, applyAll]

end

/-! ## The blocks that changes lead to -/

/-- A new block, or the old one in its place if that has the same source. -/
def keptOr (old : Option Block) (new : Block) : Block :=
  (old.filter (·.source = new.source)).getD new

/-- The new blocks, with the old one wherever it has the same source. -/
def merged : (old new : List Block) → List Block
  | _, [] => []
  | [], n :: new => n :: merged [] new
  | o :: old, n :: new => keptOr (some o) n :: merged old new

/-- An old block with the same source is kept. -/
theorem keptOr_of_eq {o n : Block} (h : o.source = n.source) : keptOr (some o) n = o := by
  rw [keptOr, Option.filter_some, decide_eq_true h]
  rfl

/-- An old block with another source is not. -/
theorem keptOr_of_ne {o n : Block} (h : o.source ≠ n.source) : keptOr (some o) n = n := by
  rw [keptOr, Option.filter_some, decide_eq_false h]
  rfl

/-- A block has the source of the new one, also if it is the old one. -/
theorem source_keptOr (old : Option Block) (new : Block) : (keptOr old new).source = new.source := by
  cases old with
  | none => rfl
  | some o =>
    by_cases h : o.source = new.source
    · rw [keptOr_of_eq h, h]
    · rw [keptOr_of_ne h]

/-- The blocks, one by one. -/
theorem getElem?_merged (old new : List Block) (i : Nat) :
    (merged old new)[i]? = new[i]?.map (keptOr old[i]?) := by
  induction old, new using merged.induct generalizing i with
  | case1 old => rw [merged]; rfl
  | case2 n new ih | case3 o old n new ih =>
    rw [merged]
    cases i with
    | zero => rfl
    | succ i => exact ih i

/-- The blocks that changes lead to have the new sources. -/
theorem map_source_merged (old new : List Block) :
    (merged old new).map (·.source) = new.map (·.source) := by
  refine List.ext_getElem? fun i => ?_
  rw [List.getElem?_map, List.getElem?_map, getElem?_merged, Option.map_map]
  exact congrArg (Option.map · new[i]?) (funext (source_keptOr old[i]?))

/-- Applying the changes from a position on, where those before it are done with: behind the blocks that
they lead to, what was removed has left empty positions. -/
theorem foldl_applyTo_diffFrom {α : Type} (view : Block → α) (index : Nat) (old new : List Block) :
    ∀ before : List (Option α), before.length = index →
      (diffFrom index old new).foldl (Diff.applyTo view) (before ++ old.map (some ∘ view)) =
        before ++ ((merged old new).map (some ∘ view) ++
          List.replicate (old.length - new.length) none) := by
  -- What is done with one position, the rest is done with it among the positions before.
  have hstep {before rest : List (Option α)} {b : Option α} {diffs : List Diff}
      {positions : List (Option α)} (hput : positions = before ++ b :: rest) {after : List (Option α)}
      (hrest : diffs.foldl (Diff.applyTo view) ((before ++ [b]) ++ rest) = (before ++ [b]) ++ after) :
      diffs.foldl (Diff.applyTo view) positions = before ++ b :: after := by
    rw [hput, List.append_cons, hrest, List.append_cons before b after]
  induction index, old, new using diffFrom.induct with
  | case1 index =>
    intro before _
    rw [diffFrom, merged]
    rfl
  | case2 index n new ih =>
    rintro before rfl
    rw [diffFrom, merged, List.foldl_cons, List.length_nil, Nat.zero_sub]
    have hrest := ih (before ++ [some (view n)]) List.length_append
    rw [List.length_nil, Nat.zero_sub] at hrest
    exact hstep (putAt_append before (some (view n)) []) hrest
  | case3 index o old ih =>
    rintro before rfl
    rw [diffFrom, merged, List.foldl_cons]
    have hrest := ih (before ++ [none]) List.length_append
    rw [merged] at hrest
    exact hstep (putAt_append before none _) hrest
  | case4 index o old n new ih =>
    rintro before rfl
    rw [diffFrom, merged, List.foldl_cons, List.length_cons, List.length_cons, Nat.add_sub_add_right]
    refine hstep ?_ (ih _ List.length_append)
    split
    · next h =>
      rw [keptOr_of_eq h]
      rfl
    · next h =>
      rw [keptOr_of_ne h]
      exact (congrArg (putAt _ _) (putAt_append before none _)).trans (putAt_append before _ _)

/-- Following the changes, whatever is shown for a block: the new blocks are shown, with the old one
wherever it has the same source. -/
theorem applyAll_diffBlocks {α : Type} (view : Block → α) (old new : List Block) :
    applyAll view (old.map view) (diffBlocks old new) = (merged old new).map view := by
  have hall := foldl_applyTo_diffFrom view 0 old new [] rfl
  rw [List.nil_append, List.nil_append] at hall
  rw [applyAll, List.map_map, diffBlocks, hall, List.reduceOption_append,
    List.reduceOption_replicate_none, List.append_nil, ← List.map_map, List.reduceOption]
  simp

/-- A position that no change names has the block that it had. -/
theorem getElem?_merged_of_unnamed {old new : List Block} {i : Nat}
    (h : ∀ d ∈ changesOnly (diffBlocks old new), d.index ≠ i) : (merged old new)[i]? = old[i]? := by
  rw [getElem?_merged]
  cases hchange : changeAt i old[i]? new[i]? with
  | none =>
    obtain ⟨ho, hn⟩ := changeAt_eq_none_iff.1 hchange
    rw [ho, hn]
    rfl
  | some c =>
    -- Whatever else became of the position, a change would name it.
    obtain ⟨b, rfl⟩ : ∃ b, c = .keep b := by
      by_contra hno
      have hmem := mem_changesOnly_iff.2 ⟨mem_diffBlocks_iff.2 hchange, fun b hb => hno ⟨b, hb⟩⟩
      exact h ⟨i, c⟩ hmem rfl
    obtain ⟨o, ho, hn, hs⟩ := changeAt_eq_keep_iff.1 hchange
    rw [ho, hn, Option.map_some, keptOr_of_eq hs]

/-- The changes between two lists of blocks are a patch. There is one for each position of either
list, in order; a position is kept or updated if both lists have it, as its sources are the same or
not, added behind the old blocks, and removed behind the new ones, so that one patch never does both.
What an update or a removal takes away is the block at its own position.

Where only what has to be shown anew is wanted, exactly the kept positions are left out, and the order
stays. Applying all changes, or only these, gives the sources of the new blocks: at each position the
old block if it has the same source, and else the new one. In particular a position that no change names
has the block that it had. -/
theorem diff_is_patch (old new : List Block) :
    ((diffBlocks old new).map (·.index) = List.range (max old.length new.length) ∧
      ∀ (i j : Nat) (b : Block),
        (⟨i, .keep b⟩ ∈ diffBlocks old new ↔
          ∃ o, old[i]? = some o ∧ new[i]? = some b ∧ o.source = b.source) ∧
        (⟨i, .update j b⟩ ∈ diffBlocks old new ↔
          j = i ∧ ∃ o, old[i]? = some o ∧ new[i]? = some b ∧ o.source ≠ b.source) ∧
        (⟨i, .add b⟩ ∈ diffBlocks old new ↔ old.length ≤ i ∧ new[i]? = some b) ∧
        (⟨i, .remove j⟩ ∈ diffBlocks old new ↔ j = i ∧ new.length ≤ i ∧ i < old.length)) ∧
      (∀ (i j k : Nat) (b : Block),
        ¬(⟨i, .add b⟩ ∈ diffBlocks old new ∧ ⟨j, .remove k⟩ ∈ diffBlocks old new)) ∧
      ((changesOnly (diffBlocks old new)).Sublist (diffBlocks old new) ∧
        ∀ d, d ∈ changesOnly (diffBlocks old new) ↔
          d ∈ diffBlocks old new ∧ ∀ b, d.change ≠ .keep b) ∧
      (∀ diffs ∈ [diffBlocks old new, changesOnly (diffBlocks old new)],
        (applyAll id old diffs).map (·.source) = new.map (·.source) ∧
        ∀ i : Nat, (applyAll id old diffs)[i]? = new[i]?.map (keptOr old[i]?)) ∧
      ∀ i : Nat, (∀ d ∈ changesOnly (diffBlocks old new), d.index ≠ i) →
        (applyAll id old (changesOnly (diffBlocks old new)))[i]? = old[i]? := by
  have hadd (i : Nat) (b : Block) :
      ⟨i, .add b⟩ ∈ diffBlocks old new ↔ old.length ≤ i ∧ new[i]? = some b := by
    rw [mem_diffBlocks_iff, changeAt_eq_add_iff, List.getElem?_eq_none_iff]
  have hremove (i j : Nat) :
      ⟨i, .remove j⟩ ∈ diffBlocks old new ↔ j = i ∧ new.length ≤ i ∧ i < old.length := by
    rw [mem_diffBlocks_iff, changeAt_eq_remove_iff, ne_eq, List.getElem?_eq_none_iff,
      List.getElem?_eq_none_iff, Nat.not_le, and_comm (a := i < old.length)]
  have hall : applyAll id old (diffBlocks old new) = merged old new := by
    have := applyAll_diffBlocks id old new
    rwa [List.map_id, List.map_id] at this
  have honly : applyAll id old (changesOnly (diffBlocks old new)) = merged old new := by
    rw [applyAll_changesOnly, hall]
  have hmerged : (merged old new).map (·.source) = new.map (·.source) ∧
      ∀ i : Nat, (merged old new)[i]? = new[i]?.map (keptOr old[i]?) :=
    ⟨map_source_merged old new, getElem?_merged old new⟩
  refine ⟨⟨?_, fun i j b => ⟨keep_mem_diffBlocks, ?_, hadd i b, hremove i j⟩⟩, ?_,
    ⟨List.filter_sublist, fun _ => mem_changesOnly_iff⟩, ?_, fun i hi => ?_⟩
  · rw [diffBlocks, map_index_diffFrom, List.range_eq_range']
  · rw [mem_diffBlocks_iff, changeAt_eq_update_iff]
  · rintro i j k b ⟨hi, hj⟩
    obtain ⟨hold, hnew⟩ := (hadd i b).1 hi
    obtain ⟨-, hnew', hold'⟩ := (hremove j k).1 hj
    have hlt : i < new.length := (List.getElem?_eq_some_iff.1 hnew).1
    omega
  · intro diffs hdiffs
    rcases List.mem_pair.1 hdiffs with rfl | rfl
    · rwa [hall]
    · rwa [honly]
  · rw [honly, getElem?_merged_of_unnamed hi]

/-- Three blocks. -/
def threeBlocks : List Block :=
  [⟨[], ['a'], ['1'], 1, 1⟩, ⟨[], ['b'], ['2'], 3, 3⟩, ⟨[], ['c'], ['3'], 5, 5⟩]

/-- The blocks after the second one has been taken out. -/
def twoBlocks : List Block := [⟨[], ['a'], ['4'], 1, 1⟩, ⟨[], ['c'], ['5'], 3, 3⟩]

/-- No change names the first position, which shows what it showed before. -/
theorem diff_is_patch_shorter :
    (∀ d ∈ changesOnly (diffBlocks threeBlocks twoBlocks), d.index ≠ 0) ∧
      (applyAll id threeBlocks (changesOnly (diffBlocks threeBlocks twoBlocks)))[0]? =
        threeBlocks[0]? ∧
      changesOnly (diffBlocks threeBlocks twoBlocks) =
        [⟨1, .update 1 ⟨[], ['c'], ['5'], 3, 3⟩⟩, ⟨2, .remove 2⟩] ∧
      (applyAll id threeBlocks (changesOnly (diffBlocks threeBlocks twoBlocks))).map (·.source) =
        [['a'], ['c']] := by
  have hchanges : changesOnly (diffBlocks threeBlocks twoBlocks) =
      [⟨1, .update 1 ⟨[], ['c'], ['5'], 3, 3⟩⟩, ⟨2, .remove 2⟩] := by
    simp [changesOnly, diffBlocks, diffFrom, threeBlocks, twoBlocks, Change.isChange]
  have hunnamed : ∀ d ∈ changesOnly (diffBlocks threeBlocks twoBlocks), d.index ≠ 0 := by
    rw [hchanges]
    decide
  obtain ⟨-, -, -, happlied, hunchanged⟩ := diff_is_patch threeBlocks twoBlocks
  exact ⟨hunnamed, hunchanged 0 hunnamed, hchanges, (happlied _ (.tail _ (.head _))).1⟩

end LiveMarkdown
