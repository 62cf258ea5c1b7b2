import LiveMarkdown.Proofs.Markdown.Nested
import LiveMarkdown.Proofs.Markdown.Nodes

/-!
# Display math in lines that are read on their own

Reading an excerpt gives the display math that reading the whole gives, up to the same line.
-/

namespace LiveMarkdown

open Markdown (Token)

/-- The expressions of the display math among tokens, in order. -/
def displays (ts : List Token) : List Text := ts.filterMap Token.display?

/-- The display math of tokens comes in their order. -/
theorem displays_append (ts us : List Token) : displays (ts ++ us) = displays ts ++ displays us :=
  List.filterMap_append

/-- A token that is no display math adds none. -/
theorem displays_cons {t : Token} (h : t.display? = none) (ts : List Token) :
    displays (t :: ts) = displays ts := List.filterMap_cons_none h

/-- Tokens of which none is display math show none. -/
theorem displays_eq_nil {ts : List Token} (h : ∀ t ∈ ts, t.display? = none) : displays ts = [] :=
  List.filterMap_eq_nil_iff.2 h

namespace Markdown

open Scope (hideParagraphs)

/-- A container shows what is in it. -/
theorem filterMap_box {α : Type} {f : Token → Option α} (hf : ∀ t, t.display? = none → f t = none)
    (c : Container) (attrs : Html.Attributes) (span : Option Span) (ts : List Token) :
    List.filterMap f ({ kind := .opening c, attrs, span } :: ts ++ [{ kind := .closing c }]) =
      ts.filterMap f := by
  rw [List.filterMap_append, List.filterMap_cons_none (hf _ rfl), List.filterMap_cons_none (hf _ rfl)]
  exact List.append_nil _

/-- A container shows the display math of its content. -/
theorem displays_box (c : Container) (attrs : Html.Attributes) (span : Option Span)
    (ts : List Token) :
    displays ({ kind := .opening c, attrs, span } :: ts ++ [{ kind := .closing c }]) =
      displays ts :=
  filterMap_box (fun _ h => h) c attrs span ts

/-- The shape of tokens tells the display math among them. -/
theorem displays_congr {ts us : List Token} (h : ts.map Token.shape = us.map Token.shape) :
    displays ts = displays us := by
  have hshape (ts : List Token) : displays ts = (ts.map Token.shape).filterMap (·.2.2) := by
    rw [List.filterMap_map]
    rfl
  rw [hshape, h, hshape]

/-- The display math of a text is what the block reader has read. -/
theorem displays_parse (t : Text) :
    displays (parse t) = displays (blockTokens (normalizeSource t)).1 :=
  displays_congr (shape_parse t)

namespace Scope

/-- A row of a table shows no display math. -/
theorem displays_row (cell : Container) (alignments : List (Option Alignment)) (cells : List Text)
    (i : Nat) : displays (row cell alignments cells i) = [] := by
  refine displays_eq_nil fun t ht => ?_
  simp only [row, List.cons_append, List.mem_cons, List.mem_append, List.mem_flatMap,
    List.not_mem_nil, or_false] at ht
  rcases ht with rfl | ⟨_, -, rfl | rfl | rfl⟩ | rfl <;> rfl

/-- The rows of a table show no display math. -/
theorem displays_rows (s : Scope) (alignments : List (Option Alignment)) (past fuel : Nat)
    (filled : Int) (i : Nat) : displays (s.rows alignments past fuel filled i).1 = [] := by
  induction fuel generalizing filled i with
  | zero => rfl
  | succ fuel ih =>
    simp only [rows]
    split
    · rfl
    · split
      · rfl
      · rw [displays_append, displays_row, ih, List.append_nil]

/-- A table shows no display math. -/
theorem displays_tableTokens (s : Scope) (i past : Nat) (header : List Text)
    (alignments : List (Option Alignment)) :
    displays (s.tableTokens i past header alignments).1 = [] := by
  have hrows := s.displays_rows alignments past (past - i) 0 (i + 2)
  have hrow := displays_row .headerCell alignments header i
  have hbody {next : Nat} {ts : List Token} (h : displays ts = []) :
      displays (if ts.isEmpty then []
        else { kind := .opening .tableBody, span := some ⟨i + 2, next⟩ } :: ts ++
          [{ kind := .closing .tableBody }]) = [] := by
    split
    · rfl
    · rw [displays_append, displays_cons rfl, h]
      rfl
  simp only [tableTokens]
  rw [displays_append, List.cons_append, displays_cons rfl, List.cons_append, displays_cons rfl,
    displays_append, hrow, displays_cons rfl, hbody hrows]
  rfl

end Scope

/-- Two readings get to corresponding lines and show the same display math. -/
structure Agrees (a n : Nat) (r r' : Parsed) : Prop where
  next : Meets a n r.next r'.next
  displays : displays r.tokens = displays r'.tokens

/-- A reader that makes of an excerpt what it makes of the whole, if it gets no further than where
something comes after the excerpt. -/
structure Reader.IsLocal (read : Reader) : Prop extends read.Passes where
  agrees {a n stop : Nat} {s s' : Scope} (e : Scope.Excerpt a n stop s s')
    {first first' past past' : Nat} (refs refs' : References) : Meets a n first first' →
    Meets a n past past' → past ≤ s.limit → past' ≤ s'.limit →
    (read s first past refs).next ≤ stop →
    Agrees a n (read s first past refs) (read s' first' past' refs')

namespace Scope

section

variable {a n stop : Nat} {s s' : Scope} (e : Excerpt a n stop s s') {k past past' : Nat}
  (hk : k < n) (hpast : Meets a n past past') (hle : past ≤ s.limit) (hle' : past' ≤ s'.limit)
  (hi : a + k < past) (refs refs' : References)
include e hk hpast hle hle' hi

/-- A quote shows the same in an excerpt as in the whole. -/
theorem agrees_quote {read : Reader} (hread : read.IsLocal) (hquote : s.isQuote (a + k))
    (hin : s.isOutside (a + k) = false) (hstop : (s.quote read (a + k) past refs).next ≤ stop) :
    Agrees a n (s.quote read (a + k) past refs) (s'.quote read k past' refs') := by
  have hi' : k < past' := (hpast.lt_iff hk).2 hi
  have htaken := (e.quoteTaken hk hpast).1
  obtain ⟨m, inner, hm⟩ := e.quoteScope hk hpast hquote hin hi hle hle'
  have hmn : m ≤ n := by omega
  have hlimit := quoteTaken_le_limit hi hle
  have hlimit' := quoteTaken_le_limit hi' hle'
  rw [quote_eq] at hstop ⊢
  rw [quote_eq]
  have hr := hread.agrees inner refs refs' ((Meets.here hk).weaken hmn) (htaken.weaken hmn) hlimit
    hlimit' hstop
  refine ⟨?_, by rw [displays_box, displays_box, hr.displays]⟩
  rcases hm with rfl | ⟨hlast, hown, hwhole, hempty, hempty'⟩
  · exact hr.next
  · -- neither reading rests at the last line, which is empty to the quote
    refine hr.next.extend hlast (fun heq => ?_) fun heq => ?_
    · have hrest := hread.rests (a + k) refs hlimit
      rw [show _ = a + m from heq, hempty] at hrest
      exact hrest.elim (fun h => by omega) Bool.noConfusion
    · have hrest := hread.rests k refs' hlimit'
      rw [show _ = m from heq, hempty'] at hrest
      exact hrest.elim (fun h => by omega) Bool.noConfusion

/-- So does the item of a list. -/
theorem agrees_readItem {read : Reader} (hread : read.IsLocal) (mark : ItemMark)
    (hfilled : s.isEmpty (a + k) = false)
    (hstop : (s.readItem read past mark (a + k) refs).next ≤ stop) :
    Agrees a n (s.readItem read past mark (a + k) refs)
      (s'.readItem read past' mark k refs') := by
  have hi' : k < past' := (hpast.lt_iff hk).2 hi
  have hfirst : (s'.itemScope k mark).isEmpty k = (s.itemScope (a + k) mark).isEmpty (a + k) :=
    (e.same_item mark hk hfilled hk).isEmpty
  by_cases hlast : k + 1 < n ∨ (s'.itemScope k mark).isEmpty k = false
  · have inner := e.itemScope mark hk hfilled hlast
    have hnext : ((s.itemScope (a + k) mark).isEmpty (a + k) &&
          (s.itemScope (a + k) mark).isEmpty (a + k + 1)) =
        ((s'.itemScope k mark).isEmpty k && (s'.itemScope k mark).isEmpty (k + 1)) := by
      rcases hlast with hlast | hfull
      · rw [inner.isEmpty hk, inner.isEmpty hlast, Nat.add_assoc]
      · rw [← hfirst, hfull, Bool.false_and, Bool.false_and]
    simp only [readItem] at hstop ⊢
    rw [hnext] at hstop ⊢
    split
    · refine ⟨?_, rfl⟩
      show Meets a n (min (a + k + 2) past) (min (k + 2) past')
      unfold Meets at hpast ⊢
      omega
    · next hread' =>
      rw [if_neg hread'] at hstop
      exact hread.agrees inner refs refs' (Meets.here hk) hpast hle hle' hstop
  · -- nothing of the item is left but its mark, and only empty lines come after it
    rw [not_or, Bool.not_eq_false] at hlast
    have hn : k + 1 = n := by omega
    have hown : s'.readItem read past' mark k refs' =
        { next := min (k + 2) past', refs := refs' } := by
      have hafter : (s'.itemScope k mark).isEmpty (k + 1) := by
        rw [isEmpty, line_item mark ((e.isEmpty hk).trans hfilled), if_neg (by omega)]
        exact e.empty' _ (Nat.le_of_eq hn.symm)
      rw [readItem, hlast.2, hafter]
      rfl
    have hwhole : (s.readItem read past mark (a + k) refs).tokens = [] := by
      simp only [readItem] at hstop ⊢
      split
      · rfl
      · next hread' =>
        rw [if_neg hread'] at hstop
        refine hread.silent refs hle (fun j hj hjstop => ?_) hstop
        rcases Nat.eq_or_lt_of_le hj with rfl | hlt
        · exact hfirst.symm.trans hlast.2
        · rw [isEmpty, line_item mark hfilled, if_neg (Nat.ne_of_lt hlt)]
          exact e.empty j (by omega) hjstop
    have hnext := lt_next_readItem hread.toPasses mark refs hi hle
    rw [hown]
    exact ⟨.behind (Nat.le_min.2 ⟨by omega, by omega⟩) (by omega), congrArg _ hwhole⟩

end

/-- The display math of items. -/
def displaysOfItems (items : List (List Token × Span)) : List Text := items.flatMap (displays ·.1)

/-- The display math of items comes in their order. -/
theorem displaysOfItems_cons (item : List Token × Span) (items : List (List Token × Span)) :
    displaysOfItems (item :: items) = displays item.1 ++ displaysOfItems items := rfl

/-- What is in a list is what is in its items, whether their paragraphs are hidden or not. -/
theorem filterMap_list {α : Type} {f : Token → Option α} (hf : ∀ t, t.display? = none → f t = none)
    (hhidden : ∀ t hidden, f { t with hidden } = f t) (read : Reader) (s : Scope) (mark : ItemMark)
    (i past : Nat) (refs : References) :
    (s.list read mark i past refs).tokens.filterMap f =
      (s.items read past (past - i) false mark i refs).1.flatMap (·.1.filterMap f) := by
  have hhide (ts : List Token) : (hideParagraphs 0 ts).filterMap f = ts.filterMap f := by
    have hmap (ts : List Token) : ts.filterMap f = (ts.map f).filterMap id := by
      rw [List.filterMap_map, Function.id_comp]
    rw [hmap, map_hideParagraphs hhidden, hmap]
  simp only [list]
  rw [filterMap_box hf, List.filterMap_flatMap]
  refine congrArg (List.flatMap · _) (funext fun item => ?_)
  rw [filterMap_box hf]
  split
  · exact hhide item.1
  · rfl

/-- A list shows the display math of its items. -/
theorem displays_list (read : Reader) (s : Scope) (mark : ItemMark) (i past : Nat)
    (refs : References) :
    displays (s.list read mark i past refs).tokens =
      displaysOfItems (s.items read past (past - i) false mark i refs).1 :=
  filterMap_list (fun _ h => h) (fun _ _ => rfl) ..

section

variable {a n stop : Nat} {s s' : Scope} (e : Excerpt a n stop s s') {past past' : Nat}
  (hpast : Meets a n past past') (hle : past ≤ s.limit) (hle' : past' ≤ s'.limit)
include e hpast

/-- An item that belongs to the list goes on in the excerpt as it does in the whole. -/
theorem nextItem?_eq (mark : ItemMark) {i i' : Nat} (hi : Meets a n i i')
    (hstop : ∀ m, s.nextItem? past mark i = some m → i < stop) :
    s'.nextItem? past' mark i' = s.nextItem? past mark i := by
  rcases hi with ⟨hk, rfl⟩ | ⟨hown, hwhole⟩
  · rw [nextItem?, nextItem?, e.isOutside hk, e.isCode hk, e.interrupts _ hk hpast, e.body hk,
      hpast.decide_le hk]
  · have hnone : s.nextItem? past mark i = none := by
      refine Option.eq_none_iff_forall_ne_some.2 fun m hm => ?_
      have hempty := e.empty i hwhole (hstop m hm)
      rw [isEmpty_of_nextItem? hm] at hempty
      cases hempty
    rw [hnone]
    refine Option.eq_none_iff_forall_ne_some.2 fun m hm => ?_
    have hempty := e.empty' i' hown
    rw [isEmpty_of_nextItem? hm] at hempty
    cases hempty

include hle hle'

/-- The items of a list show the same display math in an excerpt, given enough fuel. -/
theorem agrees_items {read : Reader} (hread : read.IsLocal) {fuel fuel' : Nat} {wasLoose : Bool}
    (wasLoose' : Bool) {mark : ItemMark} {k : Nat} {refs : References} (refs' : References)
    (hk : k < n)
    (hi : a + k < past) (hfilled : s.isEmpty (a + k) = false) (hfuel : past - (a + k) ≤ fuel)
    (hfuel' : past' - k ≤ fuel')
    (hstop : (s.items read past fuel wasLoose mark (a + k) refs).2.1 ≤ stop) :
    Meets a n (s.items read past fuel wasLoose mark (a + k) refs).2.1
        (s'.items read past' fuel' wasLoose' mark k refs').2.1 ∧
      displaysOfItems (s.items read past fuel wasLoose mark (a + k) refs).1 =
        displaysOfItems (s'.items read past' fuel' wasLoose' mark k refs').1 := by
  have hi' : k < past' := (hpast.lt_iff hk).2 hi
  induction fuel generalizing fuel' wasLoose wasLoose' mark k refs refs' with
  | zero => omega
  | succ fuel ih =>
    obtain ⟨fuel', rfl⟩ : ∃ f, fuel' = f + 1 := ⟨fuel' - 1, by omega⟩
    have hr := agrees_readItem e hk hpast hle hle' hi refs refs' hread mark hfilled
    have hlt := lt_next_readItem hread.toPasses mark refs hi hle
    have hlt' := lt_next_readItem hread.toPasses mark refs' hi' hle'
    rw [items_succ] at hstop ⊢
    rw [items_succ]
    simp only at hstop ⊢
    generalize s.readItem read past mark (a + k) refs = r at *
    generalize s'.readItem read past' mark k refs' = r' at *
    have hmore {m : ItemMark} (hm : s.nextItem? past mark r.next = some m) (wasLoose : Bool) :
        r.next < (s.items read past fuel wasLoose m r.next r.refs).2.1 := by
      have hnext := lt_of_nextItem? hm
      obtain ⟨fuel, rfl⟩ : ∃ f, fuel = f + 1 := ⟨fuel - 1, by omega⟩
      exact lt_items hread.toPasses fuel wasLoose m r.refs hnext hle
    have hend : r.next ≤ stop := by
      split at hstop
      · exact hstop
      · next m hm => exact Nat.le_trans (Nat.le_of_lt (hmore hm _)) hstop
    obtain ⟨hnext, hdisplays⟩ := hr hend
    have hmark := nextItem?_eq e hpast mark hnext fun m hm => by
      rw [hm] at hstop
      exact Nat.lt_of_lt_of_le (hmore hm _) hstop
    rw [hmark]
    split
    · exact ⟨hnext, congrArg (· ++ []) hdisplays⟩
    · next m hm =>
      rw [hm] at hstop
      have hpastNext := lt_of_nextItem? hm
      have hfilledNext := isEmpty_of_nextItem? hm
      have hfilledNext' := isEmpty_of_nextItem? (hmark.trans hm)
      -- The next item begins on a line of the excerpt, since behind it all lines are empty.
      rcases hnext with ⟨hkNext, heq⟩ | ⟨hown, -⟩
      · rw [heq] at hlt hstop hpastNext hfilledNext ⊢
        have hfuelNext' : past' - r'.next ≤ fuel' := by omega
        have hrest (wasLoose' : Bool) := ih wasLoose' r'.refs hkNext hpastNext hfilledNext (by omega)
          hfuelNext' hstop ((hpast.lt_iff hkNext).2 hpastNext)
        refine ⟨(hrest _).1, ?_⟩
        rw [displaysOfItems_cons, displaysOfItems_cons, hdisplays, (hrest _).2]
      · rw [e.empty' _ hown] at hfilledNext'
        cases hfilledNext'

/-- So does a whole list. -/
theorem agrees_list {read : Reader} (hread : read.IsLocal) (mark : ItemMark) {k : Nat}
    (refs refs' : References) (hk : k < n) (hi : a + k < past)
    (hfilled : s.isEmpty (a + k) = false) (hstop : (s.list read mark (a + k) past refs).next ≤ stop) :
    Agrees a n (s.list read mark (a + k) past refs) (s'.list read mark k past' refs') := by
  have hitems := agrees_items e hpast hle hle' hread false refs' hk hi hfilled
    (Nat.le_refl (past - (a + k))) (Nat.le_refl (past' - k)) hstop
  refine ⟨hitems.1, ?_⟩
  rw [displays_list, displays_list]
  exact hitems.2

end

/-! ## One block, and all blocks -/

section

variable {readQuote readItem : Reader} (hquote : readQuote.IsLocal) (hitem : readItem.IsLocal)
  {a n stop : Nat} {s s' : Scope} (e : Excerpt a n stop s s') {past past' : Nat}
  (hpast : Meets a n past past') (hle : past ≤ s.limit) (hle' : past' ≤ s'.limit)
include hquote hitem e hpast hle hle'

/-- A block that begins at a line of the excerpt shows the same there as in the whole. -/
theorem agrees_block {k : Nat} (refs refs' : References) (hk : k < n) (hi : a + k < past)
    (hfilled : s.isEmpty (a + k) = false) (hin : s.isOutside (a + k) = false)
    (hstop : (s.block readQuote readItem (a + k) past refs).next ≤ stop) :
    Agrees a n (s.block readQuote readItem (a + k) past refs)
      (s'.block readQuote readItem k past' refs') := by
  have hnext : Meets a n (a + k + 1) (k + 1) := (Meets.here hk).succ
  have hfuel : past - (a + k + 1) ≤ past - (a + k) := Nat.sub_le_sub_left (Nat.le_succ _) _
  have hfuel' : past' - (k + 1) ≤ past' - k := Nat.sub_le_sub_left (Nat.le_succ _) _
  rw [block_eq] at hstop
  have hstart := e.startAt hk hpast (endsBy_of_next_le hstop)
  have hbegins := s.begins_startAt (a + k) past
  rw [block_eq, block_eq, hstart]
  rw [hstart] at hstop hbegins
  generalize s'.startAt k past' = start at hstop hbegins ⊢
  cases start with
  | table header alignments =>
    refine ⟨e.rows hpast hnext.succ (by omega) (by omega) alignments 0, ?_⟩
    exact (displays_tableTokens ..).trans (displays_tableTokens ..).symm
  | code => exact ⟨e.codeEnd hpast hnext hfuel hfuel' hnext hstop, rfl⟩
  | math content label next => exact ⟨.add a n next, rfl⟩
  | fence mark length info =>
    obtain ⟨hend, hclosed⟩ := e.fenceEnd hpast hnext hfuel hfuel' mark length
    exact ⟨hend.fence hclosed, rfl⟩
  | quote => exact agrees_quote e hk hpast hle hle' hi refs refs' hquote hbegins hin hstop
  | rule => exact ⟨hnext, rfl⟩
  | list mark =>
    exact agrees_list e hpast hle hle' hitem mark refs refs' hk hi hfilled hstop
  | definition => exact absurd hbegins (by simp [Start.moved, Begins, e.plain.reference?_eq_none])
  | html ending =>
    refine ⟨?_, rfl⟩
    simp only [Start.moved, blockFrom, e.body hk]
    split
    · exact hnext
    · exact e.htmlEnd hpast hnext hfuel hfuel' ending
  | heading => exact ⟨hnext, rfl⟩
  | underlined last level => exact ⟨(Meets.add a n last).succ, rfl⟩
  | paragraph => exact ⟨e.paragraphEnd hnext (by omega) (by omega), rfl⟩

omit hquote hitem hle hle' in
/-- Gaps after corresponding lines end at corresponding lines. -/
theorem pastGap_meets {i i' : Nat} (hi : Meets a n i i') :
    Meets a n (s.pastGap past i) (s'.pastGap past' i') := by
  rcases hi with ⟨hk, rfl⟩ | ⟨hown, hwhole⟩
  · rw [pastGap, pastGap, hpast.decide_lt hk, e.isEmpty hk]
    split
    · exact (Meets.here hk).succ
    · exact .here hk
  · exact .behind (Nat.le_trans hown (s'.le_pastGap past' i'))
      (Nat.le_trans hwhole (s.le_pastGap past i))

omit hpast in
/-- Behind the excerpt neither reading shows anything. -/
theorem agrees_blocksAfter_of_behind {fuel fuel' : Nat} {hasGap tight hasGap' tight' : Bool}
    {i i' : Nat} {refs refs' : References} (hown : n ≤ i') (hwhole : a + n ≤ i)
    (hstop : (s.blocksAfter readQuote readItem past fuel hasGap tight i refs).next ≤ stop) :
    Agrees a n (s.blocksAfter readQuote readItem past fuel hasGap tight i refs)
      (s'.blocksAfter readQuote readItem past' fuel' hasGap' tight' i' refs') := by
  have hpasses := hquote.toPasses
  have hpasses' := hitem.toPasses
  refine ⟨.behind (Nat.le_trans hown (le_next_blocksAfter hpasses hpasses' hle' ..))
    (Nat.le_trans hwhole (le_next_blocksAfter hpasses hpasses' hle ..)), ?_⟩
  rw [silent_blocksAfter hpasses hpasses' hle (fun j hj => e.empty j (Nat.le_trans hwhole hj)) hstop,
    silent_blocksAfter hpasses hpasses' hle' (fun j hj _ => e.empty' j (Nat.le_trans hown hj))
      (Nat.le_refl _)]

/-- What comes after corresponding blocks shows the same, if it does when there is more to read. -/
theorem agrees_blocksAfter {fuel fuel' : Nat} {hasGap tight hasGap' tight' : Bool} {i i' : Nat}
    {refs refs' : References} (hi : Meets a n i i')
    (hstop : (s.blocksAfter readQuote readItem past fuel hasGap tight i refs).next ≤ stop)
    (hmore : i < past → i' < past' →
      (s.blocks readQuote readItem past fuel hasGap tight i refs).next ≤ stop →
      Agrees a n (s.blocks readQuote readItem past fuel hasGap tight i refs)
        (s'.blocks readQuote readItem past' fuel' hasGap' tight' i' refs')) :
    Agrees a n (s.blocksAfter readQuote readItem past fuel hasGap tight i refs)
      (s'.blocksAfter readQuote readItem past' fuel' hasGap' tight' i' refs') := by
  by_cases hregion : i' < n
  · have hlast : past' ≤ i' ↔ past ≤ i := by
      unfold Meets at hi hpast
      omega
    rw [blocksAfter] at hstop ⊢
    rw [blocksAfter]
    by_cases hend : past ≤ i
    · rw [if_pos hend, if_pos (hlast.2 hend)]
      exact ⟨hi, rfl⟩
    · have hend' := mt hlast.1 hend
      rw [if_neg hend] at hstop ⊢
      rw [if_neg hend']
      exact hmore (Nat.lt_of_not_le hend) (Nat.lt_of_not_le hend') hstop
  · refine agrees_blocksAfter_of_behind hquote hitem e hle hle' (Nat.le_of_not_lt hregion) ?_ hstop
    unfold Meets at hi
    omega

/-- Blocks that are read one after the other show the same in an excerpt as in the whole. -/
theorem agrees_blocks {fuel fuel' : Nat} {hasGap tight : Bool} (hasGap' tight' : Bool) {i i' : Nat}
    {refs : References} (refs' : References) (hi : Meets a n i i') (hfuel : past - i < fuel)
    (hfuel' : past' - i' < fuel')
    (hstop : (s.blocks readQuote readItem past fuel hasGap tight i refs).next ≤ stop) :
    Agrees a n (s.blocks readQuote readItem past fuel hasGap tight i refs)
      (s'.blocks readQuote readItem past' fuel' hasGap' tight' i' refs') := by
  induction fuel generalizing fuel' hasGap tight hasGap' tight' i i' refs refs' with
  | zero => exact absurd hfuel (Nat.not_lt_zero _)
  | succ fuel ih =>
    obtain ⟨fuel', rfl⟩ : ∃ f, fuel' = f + 1 := ⟨fuel' - 1, by omega⟩
    have hstep := step_blocks readQuote readItem s past fuel hasGap tight i refs
    have hstep' := step_blocks readQuote readItem s' past' fuel' hasGap' tight' i' refs'
    have hskip := e.skipEmpty hi (Nat.le_refl _) (Nat.le_refl _)
    have hfrom := s.le_skipEmpty (s.limit - i) i
    have hfrom' := s'.le_skipEmpty (s'.limit - i') i'
    have hstops := s.skipEmpty_stops (Nat.le_refl (s.limit - i))
    have hstops' := s'.skipEmpty_stops (Nat.le_refl (s'.limit - i'))
    generalize s.blocks readQuote readItem past (fuel + 1) hasGap tight i refs = r at *
    generalize s'.blocks readQuote readItem past' (fuel' + 1) hasGap' tight' i' refs' = r' at *
    generalize s.skipEmpty (s.limit - i) i = j at *
    generalize s'.skipEmpty (s'.limit - i') i' = j' at *
    rcases hskip with ⟨hk, rfl⟩ | ⟨hown, hwhole⟩
    · have hends : past' ≤ j' ∨ s'.isOutside j' ↔ past ≤ a + j' ∨ s.isOutside (a + j') := by
        rw [hpast.le_iff hk, e.isOutside hk]
      cases hstep with
      | stop hend htokens hnext =>
        cases hstep' with
        | stop _ htokens' hnext' =>
          exact ⟨by rw [hnext, hnext']; exact .here hk, by rw [htokens, htokens']⟩
        | more _ _ _ _ hj' hin' =>
          rw [← hends, hin'] at hend
          exact absurd hend (by simpa using hj')
      | more b rest hasGap tight hj hin hb hrest htokens hnext =>
        cases hstep' with
        | stop hend' =>
          rw [hends, hin] at hend'
          exact absurd hend' (by simpa using hj)
        | more b' rest' hasGap' tight' hj' hin' hb' hrest' htokens' hnext' =>
          have hfilled := hstops.resolve_left (by omega)
          have hlt := hb ▸ lt_next_block hquote.toPasses hitem.toPasses refs hj hle
          have hlt' := hb' ▸ lt_next_block hquote.toPasses hitem.toPasses refs' hj' hle'
          have hgap := s.le_pastGap past b.next
          have hgap' := s'.le_pastGap past' b'.next
          have hrestNext := hrest ▸ le_next_blocksAfter hquote.toPasses hitem.toPasses hle fuel hasGap
            tight (s.pastGap past b.next) b.refs
          have hblock : Agrees a n b b' := by
            have hagrees := agrees_block hquote hitem e hpast hle hle' refs refs' hk hj hfilled hin
            rw [hb, hb'] at hagrees
            exact hagrees (by omega)
          have hafter : Agrees a n rest rest' := by
            have hmeets := pastGap_meets e hpast hblock.next
            subst hrest hrest'
            exact agrees_blocksAfter hquote hitem e hpast hle hle' hmeets (by omega)
              fun hmore hmore' => ih _ _ _ hmeets (by omega) (by omega)
          refine ⟨by rw [hnext, hnext']; exact hafter.next, ?_⟩
          rw [htokens, htokens', displays_append, displays_append, hblock.displays, hafter.displays]
    · -- behind the excerpt there is nothing up to `stop`
      have hnone := hstep.silent hquote.toPasses hitem.toPasses hle hstops (e.empty j hwhole) hstop
      have hnone' := hstep'.silent hquote.toPasses hitem.toPasses hle' hstops'
        (fun _ => e.empty' j' hown) (Nat.le_refl _)
      exact ⟨hnone.2 ▸ hnone'.2 ▸ .behind hown hwhole, by rw [hnone.1, hnone'.1]⟩

end

/-- Blocks are read locally, if what is in quotes and items is. -/
theorem isLocal_blocks {readQuote readItem : Reader} (hquote : readQuote.IsLocal)
    (hitem : readItem.IsLocal) : Reader.IsLocal fun s first past refs =>
      s.blocks readQuote readItem past (past - first + 1) false true first refs where
  toPasses := passes_blocks hquote.toPasses hitem.toPasses
  agrees e _ _ _ _ _ refs' hfirst hpast hle hle' hstop :=
    agrees_blocks hquote hitem e hpast hle hle' false true refs' hfirst (Nat.lt_succ_self _)
      (Nat.lt_succ_self _) hstop

/-- A reader that reads nothing is local. -/
theorem isLocal_reader_zero : (reader 0).IsLocal where
  toPasses := passes_reader_zero
  agrees {a n stop s s'} e {first first' past past'} refs refs' hfirst hpast _ _ _ := by
    refine ⟨?_, by rw [tokens_reader_zero, tokens_reader_zero]⟩
    have hskip := e.skipEmpty hfirst (Nat.le_refl _) (Nat.le_refl _)
    have hle := s.le_next_reader_zero first past refs
    have hle' := s'.le_next_reader_zero first' past' refs'
    rcases hskip with ⟨hk, heq⟩ | ⟨hown, hwhole⟩
    · simp only [reader]
      rw [heq, hpast.decide_le hk, e.isOutside hk]
      split
      · exact .here hk
      · exact hpast
    · exact .behind (Nat.le_trans hown hle') (Nat.le_trans hwhole hle)

/-- However deep containers may nest, a reader makes of an excerpt what it makes of the whole. -/
theorem isLocal_reader (depth : Nat) : (reader depth).IsLocal :=
  reader_induction isLocal_reader_zero isLocal_blocks depth

end Scope
end Markdown
end LiveMarkdown
