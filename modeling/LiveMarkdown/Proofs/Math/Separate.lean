import LiveMarkdown.Proofs.Markdown.Slice
import LiveMarkdown.Proofs.Math.Reading
import Mathlib.Data.List.Infix

/-!
# Display math of blocks that are read alone

The blocks of a text, each parsed on its own, show the display math that the whole text shows
(`displaysOfBlocks_splitBlocks`). The lines of a block are an excerpt of the document, so that the
reader finds there what it has found in the document (`displays_linesOf`); what it finds later is
behind the excerpt. By induction on the blocks that are left, the splitter cuts along what the reader
has found (`showsApart_blocks`).
-/

namespace LiveMarkdown

open Markdown (Span Token Parsed topLevelSpans Scope parse blockTokens normalizeSource)
open Markdown.Scope (EndsClear)

/-! ## Line ends -/

namespace Text

/-- A text without carriage returns has uniform newlines. -/
theorem uniformNewlinesAfter_of_notMem {t : Text} (h : '\r' ∉ t) :
    uniformNewlinesAfter false t = t := by
  induction t with
  | nil => rfl
  | cons c rest ih =>
    rw [List.mem_cons, not_or] at h
    rw [uniformNewlinesAfter, if_neg (Ne.symm h.1), Bool.and_false, if_neg Bool.false_ne_true,
      ih h.2]

end Text

/-- A text that the parser reads as it is: it ends its lines with newlines only, and has no null
characters. -/
def IsUniform (t : Text) : Prop := '\r' ∉ t ∧ '\x00' ∉ t

instance (t : Text) : Decidable (IsUniform t) :=
  inferInstanceAs (Decidable ('\r' ∉ t ∧ '\x00' ∉ t))

/-- A uniform text is parsed as it is. -/
theorem normalizeSource_of_isUniform {t : Text} (h : IsUniform t) : normalizeSource t = t := by
  rw [normalizeSource, Text.uniformNewlines, Text.uniformNewlinesAfter_of_notMem h.1]
  refine (List.map_congr_left fun c hc => if_neg fun hnull => ?_).trans (List.map_id t)
  obtain rfl : c = '\x00' := Char.toNat_inj.1 hnull
  exact h.2 hc

/-- A text in which nothing looks like a definition, and which the parser reads as it is. -/
structure IsSimple (t : Text) : Prop where
  plain : ¬[']', ':'] <:+: t
  uniform : IsUniform t

instance (t : Text) : Decidable (IsSimple t) :=
  decidable_of_iff (¬[']', ':'] <:+: t ∧ IsUniform t) ⟨fun h => ⟨h.1, h.2⟩, fun h => ⟨h.1, h.2⟩⟩

/-- A line of such a text. -/
structure IsSimpleLine (line : Text) : Prop extends IsSimple line where
  newline : '\n' ∉ line

/-- The lines of a simple text are simple. -/
theorem IsSimple.line {t line : Text} (h : IsSimple t) (hline : line ∈ Text.lines t) :
    IsSimpleLine line where
  plain hlooks := h.plain (hlooks.trans (Text.infix_of_mem_lines hline))
  uniform := ⟨fun hmem => h.uniform.1 ((Text.infix_of_mem_lines hline).subset hmem),
    fun hmem => h.uniform.2 ((Text.infix_of_mem_lines hline).subset hmem)⟩
  newline := Text.newline_notMem_of_mem_lines hline

/-- Joining lines brings in newlines only. -/
theorem Text.notMem_unlines {c : Char} {ls : List Text} (hc : c ≠ '\n')
    (h : ∀ line ∈ ls, c ∉ line) :
    c ∉ unlines ls := by
  induction ls with
  | nil => exact List.not_mem_nil
  | cons line more ih =>
    have hline := h line List.mem_cons_self
    cases more with
    | nil => exact hline
    | cons next more =>
      have hmore := ih fun l hl => h l (List.mem_cons_of_mem _ hl)
      show c ∉ line ++ ['\n'] ++ unlines (next :: more)
      rw [List.mem_append, List.mem_append, List.mem_singleton]
      exact fun hmem => hmem.elim (fun hmem => hmem.elim hline hc) hmore

/-- Simple lines make a uniform text. -/
theorem isUniform_unlines {ls : List Text} (h : ∀ line ∈ ls, IsSimpleLine line) :
    IsUniform (Text.unlines ls) :=
  ⟨Text.notMem_unlines (by decide) fun line hline => (h line hline).uniform.1,
    Text.notMem_unlines (by decide) fun line hline => (h line hline).uniform.2⟩

/-- What is read of lines that are joined is what the block reader finds in them. -/
theorem blockTokens_unlines {ls : List Text} (hne : ls ≠ []) (h : ∀ line ∈ ls, IsSimpleLine line) :
    blockTokens (normalizeSource (Text.unlines ls)) =
      let r := Scope.reader Markdown.maxNesting (Scope.ofLines ls) 0
        (Markdown.Line.ofLines ls).length []
      (r.tokens, r.refs) := by
  rw [normalizeSource_of_isUniform (isUniform_unlines h)]
  have hlines : Markdown.Line.ofSource (Text.unlines ls) = Markdown.Line.ofLines ls := by
    rw [Markdown.Line.ofSource, Text.lines_unlines hne fun line hline => (h line hline).newline]
  simp only [blockTokens, hlines]
  rfl

/-- The display math of simple lines is what the block reader finds in them. -/
theorem displays_parse_unlines {ls : List Text} (hne : ls ≠ [])
    (h : ∀ line ∈ ls, IsSimpleLine line) :
    displays (parse (Text.unlines ls)) =
      displays (Scope.reader Markdown.maxNesting (Scope.ofLines ls) 0
        (Markdown.Line.ofLines ls).length []).tokens := by
  rw [Markdown.displays_parse, blockTokens_unlines hne h]

/-- A text of blanks shows nothing. -/
theorem displays_parse_of_allBlank {t : Text} (h : Text.allBlank t) : displays (parse t) = [] := by
  rw [Markdown.displays_parse]
  refine displays_eq_nil fun tok htok => ?_
  have hkind := (Markdown.blockTokens_of_allBlank h tok htok).2
  unfold Markdown.Token.display?
  split
  · next label heq => exact absurd heq (hkind label)
  · rfl

/-! ## One block -/

section

variable {ls : List Text} (hsimple : ∀ line ∈ ls, IsSimpleLine line)
include hsimple

/-- The lines of a block, parsed on their own, show the display math of the block. -/
theorem displays_linesOf (depth : Nat) {first : Nat} (refs : Markdown.References)
    (hfirst : first < (Markdown.Line.ofLines ls).length)
    (hfilled : (Scope.ofLines ls).isEmpty first = false)
    (hin : (Scope.ofLines ls).isOutside first = false) :
    let b := (Scope.ofLines ls).block (Scope.reader (depth + 1)) (Scope.reader depth) first
      (Markdown.Line.ofLines ls).length refs
    let sub := linesOf ls first b.next
    EndsClear ls b.next →
    displays (Scope.reader (depth + 2) (Scope.ofLines sub) 0 (Markdown.Line.ofLines sub).length
      []).tokens = displays b.tokens := by
  intro b sub hclear
  have hquote := Scope.isLocal_reader (depth + 1)
  have hitem := Scope.isLocal_reader depth
  have hlt : first < b.next :=
    Scope.lt_next_block hquote.toPasses hitem.toPasses refs hfirst (Nat.le_refl _)
  have e : Scope.Excerpt first (Markdown.Line.ofLines sub).length b.next (Scope.ofLines ls)
      (Scope.ofLines sub) := Scope.excerpt_linesOf
      (fun line hline => ⟨(hsimple line hline).plain, (hsimple line hline).newline⟩) hclear hfirst
      hlt
  have hpos : 0 < (Markdown.Line.ofLines sub).length := by
    have hline := List.getElem?_eq_getElem
      (Nat.lt_of_lt_of_le hfirst (Markdown.length_ofLines_le ls))
    have hfirstLine : sub[0]? = ls[first]? := getElem?_linesOf (k := 0) hlt
    rw [Scope.isEmpty_of_getElem? hline] at hfilled
    exact (Scope.lt_length_ofLines (hfirstLine.trans hline)).2 (.inr hfilled)
  have hagrees : Markdown.Agrees first _ b _ :=
    Scope.agrees_block hquote hitem e e.limit (Nat.le_refl _) (Nat.le_refl _) (k := 0) refs [] hpos
      hfirst hfilled hin (Nat.le_refl _)
  have hfilled' : (Scope.ofLines sub).isEmpty 0 = false := (e.isEmpty hpos).trans hfilled
  have hstep := Scope.step_blocks (Scope.reader (depth + 1)) (Scope.reader depth)
    (Scope.ofLines sub) (Markdown.Line.ofLines sub).length ((Markdown.Line.ofLines sub).length - 0) false true 0 []
  rw [Scope.skipEmpty_eq_self _ hfilled'] at hstep
  -- The block is the first thing that is read of its lines, and it leaves none of them.
  cases hstep with
  | stop hend =>
    rw [e.isOutside hpos, show (Scope.ofLines ls).isOutside (first + 0) = false from hin] at hend
    exact hend.elim (fun h => absurd hpos (Nat.not_lt.2 h)) Bool.noConfusion
  | more b' rest _ _ _ _ hb hrest htokens =>
    rw [show (Scope.ofLines sub).limit = (Markdown.Line.ofLines sub).length from rfl, hb] at hagrees
    have hnext : (Markdown.Line.ofLines sub).length ≤ b'.next := by
      have hle := e.le
      have hmeets := hagrees.next
      unfold Markdown.Meets at hmeets
      omega
    have hnone : rest.tokens = [] := by
      rw [← hrest, Scope.blocksAfter, if_pos (Nat.le_trans hnext (Scope.le_pastGap ..))]
    show displays (Scope.blocks ..).tokens = _
    rw [htokens, hnone, List.append_nil, hagrees.displays]

/-- So the source of a block, parsed on its own, shows the display math of the block. -/
theorem displays_parse_linesOf {first : Nat} (refs : Markdown.References)
    (hfirst : first < (Markdown.Line.ofLines ls).length)
    (hfilled : (Scope.ofLines ls).isEmpty first = false) :
    let b := (Scope.ofLines ls).block (Scope.reader 19) (Scope.reader 18) first
      (Markdown.Line.ofLines ls).length refs
    EndsClear ls b.next →
    displays (parse (Text.unlines (linesOf ls first b.next))) = displays b.tokens := by
  intro b hclear
  have hlt : first < b.next := Scope.lt_next_block (Scope.passes_reader 19) (Scope.passes_reader 18)
    refs hfirst (Nat.le_refl _)
  have hne : linesOf ls first b.next ≠ [] := by
    refine List.ne_nil_of_length_pos ?_
    have hsize := Markdown.length_ofLines_le ls
    rw [linesOf, List.length_drop, List.length_take]
    omega
  rw [displays_parse_unlines hne fun line hline =>
    hsimple line (List.mem_of_mem_take (List.mem_of_mem_drop hline))]
  exact displays_linesOf hsimple 18 refs hfirst hfilled (Scope.isOutside_ofLines ls first) hclear

end

/-! ## All blocks -/

/-- Blank lines have no runs. -/
theorem runsFrom_eq_nil {number : Nat} {ls : List Text} (h : ∀ line ∈ ls, Text.allBlank line) :
    runsFrom number [] ls = [] := by
  induction ls generalizing number with
  | nil => rfl
  | cons line rest ih =>
    rw [runsFrom, if_pos (h line List.mem_cons_self),
      ih fun line hline => h line (List.mem_cons_of_mem _ hline)]
    rfl

/-- Empty lines are no blocks. -/
theorem gapBlocks_eq_nil {ls : List Text} {start stop : Nat}
    (h : ∀ k, start ≤ k → (Scope.ofLines ls).isEmpty k ∨ stop ≤ k) :
    gapBlocks ls start stop = [] := by
  refine runsFrom_eq_nil fun line hline => ?_
  obtain ⟨k, hk⟩ := List.mem_iff_getElem?.1 hline
  have hlt : start + k < stop := by
    have hlength := (List.getElem?_eq_some_iff.1 hk).1
    rw [linesOf, List.length_drop, List.length_take] at hlength
    omega
  rw [getElem?_linesOf hlt] at hk
  have hempty := (h (start + k) (Nat.le_add_right _ _)).resolve_right (Nat.not_le.2 hlt)
  rw [Scope.isEmpty_of_getElem? hk] at hempty
  refine List.all_eq_true.2 fun c hc => ?_
  have hspace := List.all_eq_true.1 hempty c hc
  rw [Markdown.isSpace, Bool.or_eq_true, decide_eq_true_eq, decide_eq_true_eq] at hspace
  rcases hspace with rfl | rfl <;> rfl

/-- The display math of blocks, each parsed on its own as it is. -/
def displaysOfBlocks (blocks : List BlockSource) : List Text :=
  blocks.flatMap fun b => displays (parse b.source)

/-- Cut along the spans of tokens, the lines from `covered` on show, block by block, what the tokens
show. -/
def ShowsApart (ls : List Text) (covered : Nat) (ts : List Token) : Prop :=
  (∀ s ∈ topLevelSpans ts, EndsClear ls s.past) →
    ∃ blocks, blocksFrom ls covered (topLevelSpans ts) = .ok blocks ∧
      displaysOfBlocks blocks = displays ts

/-- Empty lines show nothing. -/
theorem showsApart_nil {ls : List Text} {covered : Nat}
    (h : ∀ k, covered ≤ k → (Scope.ofLines ls).isEmpty k) : ShowsApart ls covered [] :=
  fun _ => ⟨[], congrArg _ (gapBlocks_eq_nil fun k hk => .inl (h k hk)), rfl⟩

section

variable {ls : List Text} (hsimple : ∀ line ∈ ls, IsSimpleLine line)
include hsimple

/-- A block that comes after empty lines, and what comes after the block. -/
theorem ShowsApart.block {covered j : Nat} {refs : Markdown.References} {ts : List Token}
    (hcovered : covered ≤ j) (hempty : ∀ k, covered ≤ k → (Scope.ofLines ls).isEmpty k ∨ j ≤ k)
    (hj : j < (Markdown.Line.ofLines ls).length) (hfilled : (Scope.ofLines ls).isEmpty j = false) :
    let b := (Scope.ofLines ls).block (Scope.reader 19) (Scope.reader 18) j
      (Markdown.Line.ofLines ls).length refs
    ShowsApart ls b.next ts → ShowsApart ls covered (b.tokens ++ ts) := by
  intro b hrest hclear
  have hlt : j < b.next := Scope.lt_next_block (Scope.passes_reader 19) (Scope.passes_reader 18)
    refs hj (Nat.le_refl _)
  have hplain : (Scope.ofLines ls).IsPlain := Scope.isPlain_ofLines fun line hline =>
    ⟨(hsimple line hline).plain, (hsimple line hline).newline⟩
  have hnode : Markdown.IsNode ⟨j, b.next⟩ b.tokens := Markdown.isNode_block
    (Markdown.balanced_reader 19) (Markdown.balanced_reader 18) _ refs
    (hplain.reference?_eq_none j)
  have hspans : topLevelSpans (b.tokens ++ ts) = ⟨j, b.next⟩ :: topLevelSpans ts := by
    rw [topLevelSpans, hnode ts]
    rfl
  rw [hspans, List.forall_mem_cons] at hclear
  obtain ⟨blocks, hblocks, hdisplays⟩ := hrest hclear.2
  have hthere : ¬ls.length < j := by
    have hsize := Markdown.length_ofLines_le ls
    omega
  have hmax : max covered b.next = b.next := by omega
  have hown : displays (parse (spanBlock ls ⟨j, b.next⟩).source) = displays b.tokens :=
    displays_parse_linesOf hsimple refs hj hfilled hclear.1
  refine ⟨spanBlock ls ⟨j, b.next⟩ :: blocks, ?_, ?_⟩
  · rw [hspans, blocksFrom, decide_eq_false hthere, Bool.and_false, if_neg Bool.false_ne_true,
      hmax, hblocks, gapBlocks_eq_nil hempty]
    rfl
  · rw [displays_append, ← hdisplays, ← hown]
    rfl

/-- The blocks that are read from line `i` on show apart what they show together, if all lines are
empty that come before it and have not been covered. -/
theorem showsApart_blocks (fuel : Nat) (hasGap tight : Bool) {covered i : Nat}
    (refs : Markdown.References) (hle : covered ≤ i)
    (hcovered : ∀ k, covered ≤ k → (Scope.ofLines ls).isEmpty k ∨ i ≤ k)
    (hfuel : (Markdown.Line.ofLines ls).length - i < fuel) :
    ShowsApart ls covered ((Scope.ofLines ls).blocks (Scope.reader 19) (Scope.reader 18)
      (Markdown.Line.ofLines ls).length fuel hasGap tight i refs).tokens := by
  induction fuel generalizing hasGap tight covered i refs with
  | zero => exact absurd hfuel (Nat.not_lt_zero _)
  | succ fuel ih =>
    have hstep := Scope.step_blocks (Scope.reader 19) (Scope.reader 18) (Scope.ofLines ls)
      (Markdown.Line.ofLines ls).length fuel hasGap tight i refs
    have hstops := (Scope.ofLines ls).skipEmpty_stops (Nat.le_refl ((Scope.ofLines ls).limit - i))
    have hskip := (Scope.ofLines ls).le_skipEmpty ((Scope.ofLines ls).limit - i) i
    have hempty (k : Nat) (hk : covered ≤ k) : (Scope.ofLines ls).isEmpty k ∨
        (Scope.ofLines ls).skipEmpty ((Scope.ofLines ls).limit - i) i ≤ k := by
      refine (hcovered k hk).elim .inl fun hik => ?_
      rw [or_iff_not_imp_right, Nat.not_le]
      exact Scope.isEmpty_of_lt_skipEmpty _ hik
    generalize (Scope.ofLines ls).skipEmpty ((Scope.ofLines ls).limit - i) i = j at *
    cases hstep with
    | stop hend htokens =>
      rw [Scope.isOutside_ofLines] at hend
      rw [htokens]
      refine showsApart_nil fun k hk => (hempty k hk).elim id fun hjk => Scope.isEmpty_of_le ?_
      exact Nat.le_trans (hend.resolve_right Bool.false_ne_true) hjk
    | more b rest hasGap tight hj _ hb hrest htokens =>
      have hfilled := hstops.resolve_left (Nat.not_le.2 hj)
      have hgap := (Scope.ofLines ls).le_pastGap (Markdown.Line.ofLines ls).length b.next
      have hlt : j < b.next := hb ▸ Scope.lt_next_block (Scope.passes_reader 19)
        (Scope.passes_reader 18) refs hj (Nat.le_refl _)
      have hcovered' (k : Nat) (hk : b.next ≤ k) : (Scope.ofLines ls).isEmpty k ∨
          (Scope.ofLines ls).pastGap (Markdown.Line.ofLines ls).length b.next ≤ k := by
        rw [or_iff_not_imp_right, Nat.not_le]
        exact Scope.isEmpty_of_lt_pastGap hk
      have hafter : ShowsApart ls b.next rest.tokens := by
        rw [← hrest, Scope.blocksAfter]
        split
        · next hlast =>
          exact showsApart_nil fun k hk => (hcovered' k hk).elim id fun hle =>
            Scope.isEmpty_of_le (Nat.le_trans hlast hle)
        · exact ih _ _ _ hgap hcovered' (by omega)
      subst hb
      exact htokens ▸ .block hsimple (Nat.le_trans hle hskip) hempty hj hfilled hafter

end

/-- What is shown of a text is shown of its blocks, each parsed on its own. -/
theorem displaysOfBlocks_splitBlocks {t : Text} (hsimple : IsSimple t)
    (hclear : ∀ s ∈ topLevelSpans (parse t), EndsClear (Text.lines t) s.past) :
    ∃ blocks, splitBlocks t = .ok blocks ∧ displaysOfBlocks blocks = displays (parse t) := by
  unfold splitBlocks
  split
  · next hblank => exact ⟨[], rfl, (displays_parse_of_allBlank hblank).symm⟩
  · have hsource := normalizeSource_of_isUniform hsimple.uniform
    rw [blocksOfTokens, Markdown.displays_parse, Markdown.topLevelSpans_parse, hsource]
    rw [Markdown.topLevelSpans_parse, hsource] at hclear
    exact showsApart_blocks (fun line hline => hsimple.line hline) _ false true []
      (Nat.le_refl 0) (fun k _ => .inr (Nat.zero_le k)) (Nat.lt_succ_self _) hclear

end LiveMarkdown
