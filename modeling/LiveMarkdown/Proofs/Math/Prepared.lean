import LiveMarkdown.Preview.Render
import LiveMarkdown.Proofs.Markdown.Spread.Parse
import LiveMarkdown.Proofs.Math.OneLine

/-!
# Prepared texts

To prepare a text moves its blocks apart: a formula on one line takes three lines then. Where each of
these lines is a block of its own, in a list or an item perhaps (`StandsApart`), the prepared text
parses to the tokens of the text, with their lines where they are now
(`StandsApart.moved_preprocess`). Among them are the fences, so that code stays as it is
(`samples_preprocess`).

In other texts code may change, although fences are looked for: what is looked at is the line, whereas
a fence may stand behind the mark of an item (`sample_in_item_rewritten`).
-/

namespace LiveMarkdown

open Markdown (Line Moved Scope Span Token parse spread)
open Markdown.Scope (EndsClear)

/-- The lines of a text that are taken for a formula on one line when the text is prepared. -/
def formulaLines (t : Text) : List Nat := Math.formulaLines .outside (Text.lines t)

/-- The formulas on one line stand apart from everything else in a text that has no brackets. -/
structure StandsApart (t : Text) : Prop where
  unbracketed : ∀ line ∈ Text.lines t, Text.trim line ≠ ['\\', '[']
  /-- Where there are formulas, nothing looks like a definition. -/
  simple : formulaLines t = [] ∨ IsSimple t
  /-- Nothing but spaces and tabs stands before a formula. -/
  spaced : ∀ i ∈ formulaLines t, ∀ line ∈ (Text.lines t)[i]?,
    (Text.leadingBlanks line).all Markdown.isSpace
  /-- A formula is not the header of a table. -/
  clear : ∀ i ∈ formulaLines t, EndsClear (Text.lines t) (i + 1)
  /-- Each of the lines is display math of its own, in lists and items at most. -/
  avoids : ∀ tok ∈ parse t, tok.Avoids (formulaLines t)

instance (t : Text) : Decidable (StandsApart t) :=
  decidable_of_iff ((∀ line ∈ Text.lines t, Text.trim line ≠ ['\\', '[']) ∧
      (formulaLines t = [] ∨ IsSimple t) ∧
      (∀ i ∈ formulaLines t, ∀ line ∈ (Text.lines t)[i]?,
        (Text.leadingBlanks line).all Markdown.isSpace) ∧
      (∀ i ∈ formulaLines t, EndsClear (Text.lines t) (i + 1)) ∧
      ∀ tok ∈ parse t, tok.Avoids (formulaLines t))
    ⟨fun ⟨hbracket, hsimple, hspace, hclear, havoids⟩ => ⟨hbracket, hsimple, hspace, hclear, havoids⟩,
      fun h => ⟨h.unbracketed, h.simple, h.spaced, h.clear, h.avoids⟩⟩

/-- A text without brackets and without formulas on one line is one of these. -/
theorem standsApart_of_formulaLines_eq_nil {t : Text}
    (hbracket : ∀ line ∈ Text.lines t, Text.trim line ≠ ['\\', '[']) (hnone : formulaLines t = []) :
    StandsApart t where
  unbracketed := hbracket
  simple := .inl hnone
  spaced i hi := by
    rw [hnone] at hi
    cases hi
  clear i hi := by
    rw [hnone] at hi
    cases hi
  avoids tok _ span _ := by
    rw [hnone]
    exact .inr (.inr fun _ _ _ => List.not_mem_nil)

/-- Where no line is wide, every line stays where it is. -/
theorem Markdown.spread_nil (i : Nat) : spread [] i = i := by
  simp [spread]

/-- Where no line is wide, every token stays where it is. -/
theorem Markdown.Token.moved_nil (t : Token) : t.moved [] = t := by
  obtain ⟨kind, attrs, span, content, hidden⟩ := t
  cases span with
  | none => rfl
  | some span => simp [Token.moved, Span.moved, spread_nil]

/-- Where no line is wide, there are the same lines. -/
theorem Widens.eq_of_nil {ls ls' : List Text} (h : Widens [] ls ls') : ls' = ls := by
  refine List.ext_getElem? fun i => ?_
  cases hline : ls[i]? with
  | none =>
    rw [List.getElem?_eq_none_iff] at hline ⊢
    rw [h.length, Markdown.spread_nil]
    exact hline
  | some t =>
    have hkept := h.kept i t hline List.not_mem_nil
    rwa [Markdown.spread_nil] at hkept

/-- The block reader makes the same of lines some of which have become three. -/
theorem Widens.spreads_reader {wide : List Nat} {ls ls' : List Text} (h : Widens wide ls ls')
    (hsimple : ∀ line ∈ ls, IsSimpleLine line)
    (hspace : ∀ i ∈ wide, ∀ line ∈ ls[i]?, (Text.leadingBlanks line).all Markdown.isSpace)
    (hclear : ∀ i ∈ wide, EndsClear ls (i + 1)) (depth : Nat) :
    let r := Scope.reader depth (Scope.ofLines ls) 0 (Line.ofLines ls).length []
    (∀ tok ∈ r.tokens, tok.Avoids wide) →
      r.Spreads wide [] []
        (Scope.reader depth (Scope.ofLines ls') 0 (Line.ofLines ls').length []) := by
  intro r havoids
  -- up to a line that lies behind the last one and behind what has been read
  have hbehind : (Line.ofLines ls).length < max ((Line.ofLines ls).length + 1) r.next :=
    Nat.lt_of_lt_of_le (Nat.lt_succ_self _) (Nat.le_max_left _ _)
  have e := h.spreads_ofLines hsimple hspace hclear hbehind
  exact (Scope.follows_reader depth).spreads e [] [] (Nat.le_refl 0) (Nat.zero_le _) e.limit
    (Nat.le_refl _) (Nat.le_refl _) havoids (Nat.le_max_right _ _)

namespace StandsApart

variable {t : Text} (h : StandsApart t)
include h

/-- Preparing a text widens the lines with formulas. -/
theorem widens : Widens (formulaLines t) (Text.lines t) (Math.displayLines .outside (Text.lines t)) :=
  widens_displayLines (fun _ _ => nofun) h.unbracketed

/-- The prepared text parses to the tokens of the text, with their lines where they are now. -/
theorem moved_preprocess : Moved (formulaLines t) (parse t) (parse (preprocess t)) := by
  have hwidens := h.widens
  rcases h.simple with hnone | hsimple
  · rw [hnone] at hwidens ⊢
    rw [preprocess, Math.normalizeDisplay, hwidens.eq_of_nil, Text.unlines_lines]
    refine .of_eq ?_
    rw [funext Token.moved_nil, List.map_id']
  · have hne : Text.lines t ≠ [] := Text.splitAtChar_ne_nil '\n' t
    have hne' : Math.displayLines .outside (Text.lines t) ≠ [] := by
      refine List.ne_nil_of_length_pos ?_
      rw [hwidens.length]
      exact Nat.lt_of_lt_of_le (List.length_pos_iff.2 hne) (Nat.le_add_right _ _)
    have hlines (line : Text) (hline : line ∈ Text.lines t) := hsimple.line hline
    have hread := blockTokens_unlines hne hlines
    have hread' := blockTokens_unlines hne' (hwidens.isSimpleLine hlines)
    rw [Text.unlines_lines] at hread
    have havoids := Markdown.avoids_parse h.avoids
    rw [hread] at havoids
    have hspreads := hwidens.spreads_reader hlines h.spaced h.clear Markdown.maxNesting havoids
    refine Markdown.moved_parse ?_ ?_
    · rw [hread, preprocess, Math.normalizeDisplay, hread']
      exact hspreads.tokens
    · rw [hread, preprocess, Math.normalizeDisplay, hread']
      exact hspreads.refs'.trans hspreads.refs.symm

end StandsApart

/-! ## Code samples -/

/-- The content of code between fences. -/
def Markdown.Token.sample? (t : Token) : Option Text :=
  match t.kind with
  | .fence _ => some t.content
  | _ => none

/-- The contents of the code between fences, in order. -/
def samples (ts : List Token) : List Text := ts.filterMap Markdown.Token.sample?

/-- A fence that begins on the line of an item: to prepare the text is to look at whole lines, where
the item's mark hides it, and takes the line between the fences for a formula. -/
theorem sample_in_item_rewritten :
    (∀ line ∈ Text.lines "- ```zz\n  $$x$$\n  ```".toList, Text.trim line ≠ ['\\', '[']) ∧
      samples (parse "- ```zz\n  $$x$$\n  ```".toList) = ["$$x$$\n".toList] ∧
      samples (parse (preprocess "- ```zz\n  $$x$$\n  ```".toList)) = ["$$\nx\n$$\n".toList] := by
  decide +kernel

/-- Tokens that have moved hold the same samples of code. -/
theorem samples_of_moved {wide : List Nat} {ts ts' : List Token} (h : Moved wide ts ts') :
    samples ts' = samples ts := by
  have hpick (f : Span → Span) (t : Token) :
      (t.reframe (Option.map f)).sample? = t.sample?.map id := by
    obtain ⟨kind, attrs, span, content, hidden⟩ := t
    cases kind <;> rfl
  rw [samples, h.filterMap hpick rfl, List.map_id, samples]

/-- Where formulas on one line stand apart, to prepare a text puts them on three lines each, which
moves everything after them, and leaves code as it is. -/
theorem samples_preprocess {t : Text} (h : StandsApart t) :
    Moved (formulaLines t) (parse t) (parse (preprocess t)) ∧
      samples (parse (preprocess t)) = samples (parse t) := by
  have hmoved := h.moved_preprocess
  exact ⟨hmoved, samples_of_moved hmoved⟩

/-- Formulas on one line before a fence and in an item with a fence, and dollar signs in code. -/
theorem samples_preprocess_item :
    formulaLines "$$a$$\n\n```\n$$x$$\n```\n\n- b\n\n  $$c$$\n\n  ~~~\n  d\n  ~~~".toList = [0, 8] ∧
      samples (parse (preprocess
        "$$a$$\n\n```\n$$x$$\n```\n\n- b\n\n  $$c$$\n\n  ~~~\n  d\n  ~~~".toList)) =
      samples (parse "$$a$$\n\n```\n$$x$$\n```\n\n- b\n\n  $$c$$\n\n  ~~~\n  d\n  ~~~".toList) ∧
      samples (parse "$$a$$\n\n```\n$$x$$\n```\n\n- b\n\n  $$c$$\n\n  ~~~\n  d\n  ~~~".toList) =
        ["$$x$$\n".toList, "d\n".toList] :=
  ⟨by decide +kernel,
    (samples_preprocess (by decide +kernel)).2, by decide +kernel⟩

end LiveMarkdown
