import LiveMarkdown.Proofs.Preview.Applied
import Mathlib.Data.List.Chain

/-!
# Following the changes

A preview holds the HTML of the blocks. After a render it is brought up to date with the changes
alone (`patch`): what is kept is not looked at, so that it shows what the block had before. What a
preview shows is therefore right exactly if no kept block has new HTML (`patch_eq_iff`), and along
a row of versions it is right throughout exactly if this holds for each version and the next one
(`previews_eq_iff`).
-/

namespace LiveMarkdown

/-- The HTML that is shown after changes. -/
def patch (shown : List Text) (diffs : List Diff) : List Text := applyAll (·.html) shown diffs

/-- No block that is kept has new HTML. -/
def KeepsHtml (old new : List Block) : Prop :=
  ∀ (i : Nat) (o n : Block), old[i]? = some o → new[i]? = some n → o.source = n.source →
    o.html = n.html

/-! ## One render -/

/-- Where old blocks stay, the HTML is new exactly if no kept block has new HTML. -/
theorem map_html_merged_iff (old new : List Block) :
    (merged old new).map (·.html) = new.map (·.html) ↔ KeepsHtml old new := by
  have hplace (i : Nat) : ((merged old new).map (·.html))[i]? =
      new[i]?.map fun n => (keptOr old[i]? n).html := by
    rw [List.getElem?_map, getElem?_merged, Option.map_map]
    rfl
  constructor
  · intro h i o n ho hn hs
    have hhtml := hplace i
    rw [h, List.getElem?_map, ho, hn, Option.map_some, Option.map_some, keptOr_of_eq hs] at hhtml
    exact (Option.some.inj hhtml).symm
  · intro h
    refine List.ext_getElem? fun i => ?_
    rw [hplace, List.getElem?_map]
    refine Option.map_congr fun n hn => ?_
    cases ho : old[i]? with
    | none => rfl
    | some o =>
      by_cases hs : o.source = n.source
      · rw [keptOr_of_eq hs]
        exact h i o n ho hn hs
      · rw [keptOr_of_ne hs]

/-- A preview of the old blocks that follows the changes shows the new blocks exactly if no block that
is kept has new HTML. -/
theorem patch_eq_iff (old new : List Block) :
    patch (old.map (·.html)) (diffBlocks old new) = new.map (·.html) ↔ KeepsHtml old new := by
  rw [patch, applyAll_diffBlocks, map_html_merged_iff]

/-! ## A row of versions -/

/-- What a preview shows after each of the versions that come after `blocks`. -/
def previews (shown : List Text) (blocks : List Block) : List (List Block) → List (List Text)
  | [] => []
  | next :: rest =>
    patch shown (diffBlocks blocks next) :: previews (patch shown (diffBlocks blocks next)) next rest

/-- A preview that begins with the first version shows each later one exactly if no block that is kept
from one version to the next has new HTML. -/
theorem previews_eq_iff (first : List Block) (rest : List (List Block)) :
    previews (first.map (·.html)) first rest = rest.map (·.map (·.html)) ↔
      (first :: rest).IsChain KeepsHtml := by
  induction rest generalizing first with
  | nil => exact ⟨fun _ => .singleton first, fun _ => rfl⟩
  | cons next rest ih =>
    rw [List.isChain_cons_cons, ← ih next, ← patch_eq_iff, previews, List.map_cons]
    constructor
    · intro h
      obtain ⟨hnext, hrest⟩ := List.cons.inj h
      rw [hnext] at hrest
      exact ⟨hnext, hrest⟩
    · rintro ⟨hnext, hrest⟩
      rw [hnext, hrest]

end LiveMarkdown
