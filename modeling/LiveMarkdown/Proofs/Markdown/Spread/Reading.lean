import LiveMarkdown.Proofs.Markdown.Spread.Nested

/-!
# Reading lines that spread

The block reader makes the same of lines that have spread (`Scope.follows_reader`): the same tokens,
with their lines where they are now, and with the same display math, although what stands around that
when it is trimmed may differ. The condition is on what it makes of the lines as they were: each of
the tokens is of lines that are not wide, or it is display math that is one line, or a list or an
item, in which wide lines may stand (`Token.Avoids`).

The induction is on how deep containers nest, and follows the reader: items of a list and blocks are
read one after the other, and from each the reader goes on at corresponding lines.
-/

namespace LiveMarkdown.Markdown

variable {wide : List Nat}

/-! ## Tokens -/

instance (wide : List Nat) (i m : Nat) : Decidable (Clear wide i m) :=
  decidable_of_iff (∀ r ∈ wide, ¬(i ≤ r ∧ r < m))
    ⟨fun h j hij hjm hj => h j hj ⟨hij, hjm⟩, fun h r hr hin => h r hin.1 hin.2 hr⟩

/-- Does a list or an item begin with the token? -/
def Kind.isList : Kind → Bool
  | .opening .bulletList | .opening .orderedList | .opening .listItem => true
  | _ => false

/-- Is the token display math? -/
def Kind.isMath : Kind → Bool
  | .math _ => true
  | _ => false

/-- No wide line is one of the token's lines, unless it is all of them and display math, or a list or
an item holds it. -/
def Token.Avoids (wide : List Nat) (t : Token) : Prop :=
  ∀ span ∈ t.span, t.kind.isList ∨ (t.kind.isMath ∧ span.past = span.first + 1) ∨
    Clear wide span.first span.past

instance (wide : List Nat) (t : Token) : Decidable (t.Avoids wide) :=
  inferInstanceAs (Decidable (∀ span ∈ t.span, _))

/-- The token with its display math trimmed. -/
def Token.trimmed (t : Token) : Token :=
  match t.kind with
  | .math _ => { t with content := Text.trim t.content }
  | _ => t

/-- Trimming display math leaves the kind of a token. -/
theorem Token.kind_trimmed (t : Token) : t.trimmed.kind = t.kind := by
  unfold Token.trimmed
  split <;> rfl

/-- The tokens are the same, with their lines where they are now. -/
def Moved (wide : List Nat) (ts ts' : List Token) : Prop :=
  ts'.map Token.trimmed = ts.map fun t => (t.moved wide).trimmed

/-- No tokens have moved to no tokens. -/
theorem Moved.nil : Moved wide [] [] := rfl

/-- One more token in front that has moved. -/
theorem Moved.cons {t t' : Token} {ts ts' : List Token} (h : t'.trimmed = (t.moved wide).trimmed)
    (hs : Moved wide ts ts') : Moved wide (t :: ts) (t' :: ts') := by
  rw [Moved, List.map_cons, List.map_cons, h, hs]

/-- Tokens have moved if both of their parts have. -/
theorem Moved.append {ts ts' us us' : List Token} (h : Moved wide ts ts') (h' : Moved wide us us') :
    Moved wide (ts ++ us) (ts' ++ us') := by
  rw [Moved, List.map_append, List.map_append, h, h']

/-- Tokens that are the same but for their lines have moved. -/
theorem Moved.of_eq {ts ts' : List Token} (h : ts' = ts.map (Token.moved wide)) :
    Moved wide ts ts' := by
  rw [Moved, h, List.map_map]
  rfl

/-- Tokens of a container that have moved, between its own. -/
theorem Moved.box (c : Container) (attrs : Html.Attributes) (span : Span) {ts ts' : List Token}
    (h : Moved wide ts ts') :
    Moved wide ({ kind := .opening c, attrs, span := some span } :: ts ++ [{ kind := .closing c }])
      ({ kind := .opening c, attrs, span := some (span.moved wide) } :: ts' ++
        [{ kind := .closing c }]) :=
  .append (.cons rfl h) (.cons rfl .nil)

/-- Paragraphs are hidden by their kind and their place alone, whatever else is done with tokens. -/
theorem hideParagraphs_map {f : Token → Token} (hkind : ∀ t, (f t).kind = t.kind)
    (hhidden : ∀ t, { f t with hidden := true } = f { t with hidden := true }) (depth : Nat)
    (ts : List Token) :
    Scope.hideParagraphs depth (ts.map f) = (Scope.hideParagraphs depth ts).map f := by
  have hhide (t : Token) : { f t with kind := t.kind, hidden := true } = f { t with hidden := true } :=
    (congrArg (fun kind => { f t with kind, hidden := true }) (hkind t).symm).trans (hhidden t)
  induction ts generalizing depth with
  | nil => rfl
  | cons t rest ih =>
    rw [List.map_cons, Scope.hideParagraphs, Scope.hideParagraphs, hkind]
    split
    · rw [List.map_cons, ih]
      split
      · exact congrArg (· :: _) (hhide t)
      · rfl
    · rw [List.map_cons, ih]
      split
      · exact congrArg (· :: _) (hhide t)
      · rfl
    · rw [List.map_cons, ih]

/-- Hiding paragraphs is the same before and after the lines have moved. -/
theorem Moved.hide {ts ts' : List Token} (h : Moved wide ts ts') (depth : Nat) :
    Moved wide (Scope.hideParagraphs depth ts) (Scope.hideParagraphs depth ts') := by
  have hhidden (t : Token) : { t.trimmed with hidden := true } =
      Token.trimmed { t with hidden := true } := by
    obtain ⟨kind, attrs, span, content, hidden⟩ := t
    cases kind <;> rfl
  have hkind (t : Token) : (t.moved wide).trimmed.kind = t.kind := Token.kind_trimmed _
  rw [Moved, ← hideParagraphs_map Token.kind_trimmed hhidden, h,
    hideParagraphs_map hkind fun t => hhidden (t.moved wide)]

/-- What can be said of tokens is not changed when paragraphs are hidden. -/
theorem avoids_of_hideParagraphs {depth : Nat} {ts : List Token}
    (h : ∀ t ∈ Scope.hideParagraphs depth ts, t.Avoids wide) : ∀ t ∈ ts, t.Avoids wide := by
  have hview (depth : Nat) (ts : List Token) :
      (Scope.hideParagraphs depth ts).map (fun t => (t.kind, t.span)) =
        ts.map fun t => (t.kind, t.span) := by
    induction ts generalizing depth with
    | nil => rfl
    | cons t rest ih =>
      rw [Scope.hideParagraphs]
      split
      · rw [List.map_cons, List.map_cons, ih]
        split <;> rfl
      · rw [List.map_cons, List.map_cons, ih]
        split <;> rfl
      · rw [List.map_cons, List.map_cons, ih]
  intro t ht
  have hmem : (t.kind, t.span) ∈ ts.map fun t => (t.kind, t.span) :=
    List.mem_map_of_mem (f := fun t : Token => (t.kind, t.span)) ht
  rw [← hview depth] at hmem
  obtain ⟨u, hu, heq⟩ := List.mem_map.1 hmem
  obtain ⟨hkind, hspan⟩ := Prod.mk.inj heq
  have havoids := h u hu
  unfold Token.Avoids at havoids ⊢
  rwa [hkind, hspan] at havoids

/-! ## What is read -/

/-- The same has been read, and it has moved. -/
structure Parsed.Spreads (wide : List Nat) (refs refs' : References) (r r' : Parsed) : Prop where
  tokens : Moved wide r.tokens r'.tokens
  next : r'.next = spread wide r.next
  tight : r'.tight = r.tight
  refs : r.refs = refs
  refs' : r'.refs = refs'

/-- A reader that makes the same of lines that have spread. -/
structure Reader.Follows (read : Reader) : Prop extends read.Passes where
  spreads {wide : List Nat} {a n : Nat} {s s' : Scope} (e : Scope.Spreads wide a n s s')
    {first past past' : Nat} (refs refs' : References) : a ≤ first → first ≤ n →
    Moves wide n past past' → past ≤ s.limit → past' ≤ s'.limit →
    (∀ t ∈ (read s first past refs).tokens, t.Avoids wide) → (read s first past refs).next ≤ n →
    (read s first past refs).Spreads wide refs refs' (read s' (spread wide first) past' refs')

namespace Scope

variable {a n : Nat} {s s' : Scope}

/-! ## Containers -/

section

variable (e : Spreads wide a n s s') {i past past' : Nat} (ha : a ≤ i) (hn : i ≤ n)
  (hpast : Moves wide n past past') (hle : past ≤ s.limit) (hle' : past' ≤ s'.limit) (hi : i < past)
  (refs refs' : References) {read : Reader} (hread : read.Follows)
include e ha hn hpast hle hle' hi hread

/-- What is read of a quote has moved. -/
theorem spreads_quote (hquote : s.isQuote i) (hin : s.isOutside i = false)
    (havoids : ∀ t ∈ (s.quote read i past refs).tokens, t.Avoids wide)
    (hnext : (s.quote read i past refs).next ≤ n) :
    (s.quote read i past refs).Spreads wide refs refs'
      (s'.quote read (spread wide i) past' refs') := by
  have hi' := (hpast.lt_iff hn).2 hi
  rw [quote_eq] at havoids hnext ⊢
  rw [quote_eq]
  dsimp only at havoids hnext ⊢
  generalize hr : read (s.quoteScope i (s.quoteTaken i past)) i (s.quoteTaken i past).2.1 refs = r at *
  have hclear : Clear wide i r.next := by
    have hspan := havoids _ List.mem_cons_self _ rfl
    exact (hspan.resolve_left Bool.false_ne_true).resolve_left fun h => Bool.false_ne_true h.1
  obtain ⟨m, him, hnextM, hstop, inner⟩ :=
    e.exists_quoteScope ha hn hpast hle hle' hquote hin hi hnext hclear
  have hinner : ∀ t ∈ r.tokens, t.Avoids wide := fun t ht =>
    havoids t (List.mem_cons_of_mem _ (List.mem_append_left _ ht))
  subst hr
  have hspreads := hread.spreads inner refs refs' (Nat.le_refl i) him hstop
    (quoteTaken_le_limit hi hle) (quoteTaken_le_limit hi' hle') hinner hnextM
  refine ⟨?_, hspreads.next, hspreads.tight, hspreads.refs, hspreads.refs'⟩
  rw [hspreads.next]
  exact .box .blockquote [] ⟨i, _⟩ hspreads.tokens

/-- What is read of an item has moved. -/
theorem spreads_readItem (mark : ItemMark) (hwide : i ∉ wide) (hfilled : s.isEmpty i = false)
    (havoids : ∀ t ∈ (s.readItem read past mark i refs).tokens, t.Avoids wide)
    (hnext : (s.readItem read past mark i refs).next ≤ n) :
    (s.readItem read past mark i refs).Spreads wide refs refs'
      (s'.readItem read past' mark (spread wide i) refs') := by
  have hi' := (hpast.lt_iff hn).2 hi
  have hn1 := e.succ_le hn hwide (Nat.lt_of_lt_of_le hi hle)
  have ha1 : i ≤ i + 1 := Nat.le_succ i
  have hsucc := spread_succ_of_notMem hwide
  have inner := e.itemScope ha hn mark hwide hfilled
  simp only [readItem] at havoids hnext ⊢
  rw [← hsucc, inner.isEmpty (Nat.le_refl i) hn, inner.isEmpty ha1 hn1]
  split
  · next hempty =>
    rw [if_pos hempty] at hnext
    rw [Bool.and_eq_true] at hempty
    refine ⟨.nil, ?_, rfl, rfl, rfl⟩
    show min (spread wide i + 2) past' = spread wide (min (i + 2) past)
    have hsucc2 := spread_succ_of_notMem (inner.notMem_of_isEmpty ha1 hn1 hempty.2)
    rcases Nat.lt_or_ge (i + 1) past with hlt | hge
    · have hlt' := (hpast.lt_iff hn1).2 hlt
      rw [hsucc] at hlt' hsucc2
      rw [Nat.min_eq_left hlt', Nat.min_eq_left hlt, hsucc2]
    · have hend : past = i + 1 := Nat.le_antisymm hge hi
      have hend' : past' = spread wide (i + 1) := hend ▸ hpast.eq (hend ▸ hn1)
      rw [Nat.min_eq_right (Nat.le_succ_of_le hge), hend', hend, hsucc,
        Nat.min_eq_right (Nat.le_succ _)]
  · next hfull =>
    rw [if_neg hfull] at havoids hnext
    exact hread.spreads inner refs refs' (Nat.le_refl i) hn hpast hle hle' havoids hnext

end

/-- The content of an item has moved, and the item with it. -/
def MovedItem (wide : List Nat) (item item' : List Token × Span) : Prop :=
  Moved wide item.1 item'.1 ∧ item'.2 = item.2.moved wide

/-- The items of a list have moved, and the same comes after them. -/
structure SpreadItems (wide : List Nat) (refs refs' : References)
    (r r' : List (List Token × Span) × Nat × Bool × References) : Prop where
  items : List.Forall₂ (MovedItem wide) r.1 r'.1
  next : r'.2.1 = spread wide r.2.1
  tight : r'.2.2.1 = r.2.2.1
  refs : r.2.2.2 = refs
  refs' : r'.2.2.2 = refs'

/-- The items of a list, as its content, have moved. -/
theorem moved_content {items items' : List (List Token × Span)} (tight : Bool)
    (h : List.Forall₂ (MovedItem wide) items items') :
    let content := fun (item : List Token × Span) =>
      { kind := .opening .listItem, span := some item.2 } ::
        (if tight then hideParagraphs 0 item.1 else item.1) ++ [{ kind := .closing .listItem }]
    Moved wide (items.flatMap content) (items'.flatMap content) := by
  intro content
  induction h with
  | nil => exact .nil
  | @cons item item' more more' hitem _ ih =>
    rw [List.flatMap_cons, List.flatMap_cons]
    refine .append ?_ ih
    have hinner : Moved wide (if tight then hideParagraphs 0 item.1 else item.1)
        (if tight then hideParagraphs 0 item'.1 else item'.1) := by
      split
      · exact hitem.1.hide 0
      · exact hitem.1
    simp only [content, hitem.2]
    exact .box .listItem [] item.2 hinner

section

variable (e : Spreads wide a n s s') {past past' : Nat} (hpast : Moves wide n past past')
  (hle : past ≤ s.limit)
include e hpast

omit hpast in
/-- Whether the line before a corresponding one is empty. -/
theorem isEmpty_pred {i : Nat} (ha : a < i) (hn : i ≤ n) :
    s'.isEmpty (spread wide i - 1) = s.isEmpty (i - 1) := by
  obtain ⟨k, rfl⟩ := Nat.exists_eq_add_of_le' (Nat.lt_of_le_of_lt (Nat.zero_le a) ha)
  by_cases hk : k ∈ wide
  · -- the last of the three lines has dollar signs on it, and so had the one line
    obtain ⟨rest, hbody⟩ := (e.opens k (by omega) (by omega) hk).body
    rw [spread_succ_of_mem hk, Nat.add_sub_cancel, isEmpty_eq, isEmpty_eq, hbody,
      show spread wide k + 3 - 1 = spread wide k + 2 by omega, (e.holds k (by omega) hn hk).last]
    rfl
  · rw [spread_succ_of_notMem hk, Nat.add_sub_cancel, Nat.add_sub_cancel,
      e.isEmpty (by omega) (by omega)]

include hle

/-- The next item is the one it was. -/
theorem spreads_nextItem? (mark : ItemMark) {i : Nat} (ha : a ≤ i) (hn : i ≤ n) :
    s'.nextItem? past' mark (spread wide i) = s.nextItem? past mark i := by
  rw [nextItem?, nextItem?, e.isOutside ha hn, e.isCode ha hn, e.interrupts ha hn _ hpast hle,
    e.itemMark? ha hn, hpast.decide_le hn]

omit hpast hle in
/-- A line that begins the next item is not wide. -/
theorem notMem_of_nextItem? {mark m : ItemMark} {i : Nat} (ha : a ≤ i) (hn : i ≤ n)
    (h : s.nextItem? past mark i = some m) : i ∉ wide := by
  rw [nextItem?] at h
  split at h
  · cases h
  · obtain ⟨m', hm', -⟩ := Option.bind_eq_some_iff.1 h
    exact e.notMem_of_itemMark? ha hn hm'

variable (hle' : past' ≤ s'.limit)
include hle'

/-- What is read of the items of a list has moved, given enough fuel. -/
theorem spreads_items {read : Reader} (hread : read.Follows) {fuel fuel' : Nat} (wasLoose : Bool)
    (mark : ItemMark) {i : Nat} (refs refs' : References) (ha : a ≤ i) (hn : i ≤ n) (hi : i < past)
    (hwide : i ∉ wide) (hfilled : s.isEmpty i = false) (hfuel : past - i ≤ fuel)
    (hfuel' : past' - spread wide i ≤ fuel')
    (havoids : ∀ item ∈ (s.items read past fuel wasLoose mark i refs).1, ∀ t ∈ item.1, t.Avoids wide)
    (hnext : (s.items read past fuel wasLoose mark i refs).2.1 ≤ n) :
    SpreadItems wide refs refs' (s.items read past fuel wasLoose mark i refs)
      (s'.items read past' fuel' wasLoose mark (spread wide i) refs') := by
  -- By induction on the fuel, as for blocks: each item takes a line, on both sides.
  induction fuel generalizing fuel' wasLoose mark i with
  | zero => omega
  | succ fuel ih =>
    have hi' := (hpast.lt_iff hn).2 hi
    obtain ⟨fuel', rfl⟩ : ∃ f, fuel' = f + 1 := ⟨fuel' - 1, by omega⟩
    have hr := spreads_readItem e ha hn hpast hle hle' hi refs refs' hread mark hwide hfilled
    have hlt := lt_next_readItem hread.toPasses mark refs hi hle
    have inner := e.itemScope ha hn mark hwide hfilled
    rw [items_succ] at havoids hnext ⊢
    rw [items_succ]
    simp only at havoids hnext ⊢
    generalize s.readItem read past mark i refs = r at *
    generalize s'.readItem read past' mark (spread wide i) refs' = r' at *
    have hend : r.next ≤ n := by
      split at hnext
      · exact hnext
      · next m hm =>
        exact Nat.le_trans (le_items hread.toPasses hle fuel _ m _
          (Nat.le_of_lt (lt_of_nextItem? hm))) hnext
    have hitem : ∀ t ∈ r.tokens, t.Avoids wide := by
      split at havoids
      · exact havoids _ List.mem_cons_self
      · exact havoids _ List.mem_cons_self
    have hspreads := hr hitem hend
    have haNext : a ≤ r.next := by omega
    have hlong : decide (1 < r'.next - spread wide i) = decide (1 < r.next - i) := by
      have hsucc := spread_succ_of_notMem hwide
      have hmono : spread wide (i + 1) ≤ spread wide r.next ↔ i + 1 ≤ r.next := spread_le_spread
      have hmono' : spread wide (i + 1) < spread wide r.next ↔ i + 1 < r.next := spread_lt_spread
      rw [hspreads.next, decide_eq_decide]
      omega
    have hmoved : MovedItem wide (r.tokens, ⟨i, r.next⟩)
        (r'.tokens, ⟨spread wide i, spread wide r.next⟩) := ⟨hspreads.tokens, rfl⟩
    have hempty : (s'.itemScope (spread wide i) mark).isEmpty (r'.next - 1) =
        (s.itemScope i mark).isEmpty (r.next - 1) := by
      rw [hspreads.next]
      exact isEmpty_pred inner hlt hend
    rw [hlong, hempty, hspreads.tight, hspreads.next,
      spreads_nextItem? e hpast hle mark haNext hend]
    split
    · exact ⟨.cons hmoved .nil, rfl, rfl, hspreads.refs, hspreads.refs'⟩
    · next m hm =>
      rw [hm] at havoids hnext
      have hnextWide := notMem_of_nextItem? e haNext hend hm
      have hmono := spread_lt wide hlt
      have hfuelNext : past' - spread wide r.next ≤ fuel' := by omega
      rw [hspreads.refs] at havoids hnext ⊢
      rw [hspreads.refs']
      have hrest := ih _ m haNext hend (lt_of_nextItem? hm) hnextWide (isEmpty_of_nextItem? hm)
        (by omega) hfuelNext (fun item hitem => havoids item (List.mem_cons_of_mem _ hitem)) hnext
      exact ⟨.cons hmoved hrest.items, hrest.next, by rw [hrest.tight], hrest.refs, hrest.refs'⟩

/-- What is read of a list has moved. -/
theorem spreads_list {read : Reader} (hread : read.Follows) (mark : ItemMark) {i : Nat}
    (refs refs' : References) (ha : a ≤ i) (hn : i ≤ n) (hi : i < past) (hwide : i ∉ wide)
    (hfilled : s.isEmpty i = false)
    (havoids : ∀ t ∈ (s.list read mark i past refs).tokens, t.Avoids wide)
    (hnext : (s.list read mark i past refs).next ≤ n) :
    (s.list read mark i past refs).Spreads wide refs refs'
      (s'.list read mark (spread wide i) past' refs') := by
  simp only [list] at havoids hnext ⊢
  have hspreads : SpreadItems wide refs refs' (s.items read past (past - i) false mark i refs)
      (s'.items read past' (past' - spread wide i) false mark (spread wide i) refs') := by
    refine spreads_items e hpast hle hle' hread false mark refs refs' ha hn hi hwide hfilled
      (Nat.le_refl _) (Nat.le_refl _) (fun item hitem => ?_) hnext
    generalize (s.items read past (past - i) false mark i refs).2.2.1 = tight at havoids
    have hinner : ∀ t ∈ (if tight = true then hideParagraphs 0 item.1 else item.1),
        t.Avoids wide := fun t ht => by
      refine havoids t (List.mem_cons_of_mem _ (List.mem_append_left _ ?_))
      exact List.mem_flatMap.2 ⟨item, hitem, List.mem_append_left _ (List.mem_cons_of_mem _ ht)⟩
    split at hinner
    · exact avoids_of_hideParagraphs hinner
    · exact hinner
  refine ⟨?_, hspreads.next, rfl, hspreads.refs, hspreads.refs'⟩
  rw [hspreads.next, hspreads.tight]
  exact .box _ _ ⟨i, _⟩ (moved_content _ hspreads.items)

end

/-! ## Blocks without containers -/

/-- A fence is not made of dollar signs. -/
theorem fence?_ne_dollar {i : Nat} {mark : Char} {length : Nat} {info : Text}
    (h : s.fence? i = some (mark, length, info)) : mark ≠ '$' := by
  rw [Scope.fence?] at h
  split at h
  · cases h
  · split at h
    · cases h
    · dsimp only at h
      split at h
      · next hcond =>
        cases h
        rintro rfl
        simp [Text.grave] at hcond
      · cases h

/-- A token of lines from one that is not wide to `m`, if it is no list and no item, is of no wide
lines. -/
theorem clear_of_avoids {t : Token} (h : t.Avoids wide) {i m : Nat} (hspan : t.span = some ⟨i, m⟩)
    (hlist : t.kind.isList = false) (hi : i ∉ wide) : Clear wide i m := by
  rcases h _ hspan with hkind | ⟨-, hone⟩ | hclear
  · rw [hlist] at hkind
    cases hkind
  · intro j hij hjm
    obtain rfl : j = i := by
      dsimp only at hone
      omega
    exact hi
  · exact hclear

/-- No line of a block that avoids wide lines is wide, if its first one is not. -/
theorem isClear_of_avoids {readQuote readItem : Reader} {s : Scope} {i past : Nat}
    {refs : References} {start : Start}
    (havoids : ∀ t ∈ (s.blockFrom readQuote readItem i past refs start).tokens, t.Avoids wide)
    (hi : i ∉ wide) : start.IsClear wide s i := by
  cases start with
  | math | underlined | paragraph =>
    exact clear_of_avoids (havoids _ List.mem_cons_self) rfl rfl hi
  | _ => trivial

section

variable (refs refs' : References)

/-- A block that is one token. -/
theorem spreads_leaf (kind : Kind) (content : Text) {i next next' : Nat}
    (h : next' = spread wide next) :
    Parsed.Spreads wide refs refs'
      { tokens := [{ kind, content, span := some ⟨i, next⟩ }], next, refs }
      { tokens := [{ kind, content, span := some ⟨spread wide i, next'⟩ }], next := next'
        refs := refs' } := by
  subst h
  exact ⟨.cons rfl .nil, rfl, rfl, rfl, rfl⟩

/-- A block with running text. -/
theorem spreads_textBlock (c : Container) (content : Text) {i next textPast next' textPast' : Nat}
    (h : next' = spread wide next) (htext : textPast' = spread wide textPast) :
    Parsed.Spreads wide refs refs'
      { tokens := textBlock c content i next textPast, next, refs }
      { tokens := textBlock c content (spread wide i) next' textPast', next := next', refs := refs' } := by
  subst h htext
  exact ⟨.cons rfl (.cons rfl (.cons rfl .nil)), rfl, rfl, rfl, rfl⟩

variable (e : Spreads wide a n s s') {i past past' : Nat} (ha : a ≤ i) (hn : i ≤ n)
  (hpast : Moves wide n past past') (hle : past ≤ s.limit) (hle' : past' ≤ s'.limit) (hi : i < past)
include e ha hn hpast hle hi

/-- Code between fences. -/
theorem spreads_fence (hwide : i ∉ wide) {mark : Char} (hmark : mark ≠ '$') (length : Nat)
    (info : Text) (columns : Nat) :
    let r := s.fenceEnd mark length past (past - i) (i + 1)
    let r' := s'.fenceEnd mark length past' (past' - spread wide i) (spread wide (i + 1))
    let next := if r.2 then r.1 + 1 else r.1
    let next' := if r'.2 then r'.1 + 1 else r'.1
    Clear wide i next → next ≤ n → Parsed.Spreads wide refs refs'
      { tokens := [{ kind := .fence info, content := cutLines columns true (s.range (i + 1) r.1)
                     span := some ⟨i, next⟩ }], next, refs }
      { tokens := [{ kind := .fence info
                     content := cutLines columns true (s'.range (spread wide (i + 1)) r'.1)
                     span := some ⟨spread wide i, next'⟩ }], next := next', refs := refs' } := by
  intro r r' next next' hclear hnext
  have hn1 := e.succ_le hn hwide (Nat.lt_of_lt_of_le hi hle)
  have ha1 : a ≤ i + 1 := Nat.le_succ_of_le ha
  have hsucc := spread_succ_of_notMem hwide
  have hlast : i + 1 ≤ r.1 := s.le_fenceEnd mark length past (past - i) (i + 1)
  have hwithin : r.1 ≤ next := by
    show r.1 ≤ if r.2 = true then r.1 + 1 else r.1
    split <;> omega
  have hpart : Clear wide i r.1 := fun j hij hlt => hclear j hij (Nat.lt_of_lt_of_le hlt hwithin)
  have hr : r' = (spread wide r.1, r.2) :=
    e.fenceEnd ha1 hn1 hpast hle (by omega) (by omega) hmark length hpart.tail
  have hend : next' = spread wide next := by
    show (if r'.2 = true then r'.1 + 1 else r'.1) = spread wide next
    rw [hr]
    show (if r.2 = true then spread wide r.1 + 1 else spread wide r.1) =
      spread wide (if r.2 = true then r.1 + 1 else r.1)
    split
    · next hclosed =>
      have hnextEq : next = r.1 + 1 := if_pos hclosed
      rw [spread_succ_of_notMem (hclear r.1 (by omega) (by omega))]
    · rfl
  have hrange := e.range ha1 (Nat.le_succ_of_le (Nat.le_trans hwithin hnext)) hpart.tail
  rw [hr]
  dsimp only
  rw [hrange]
  exact spreads_leaf refs refs' _ _ hend

/-- Display math on a wide line is a block. -/
theorem spreads_block_of_mem {readQuote readItem : Reader} (hquote : readQuote.Passes)
    (hitem : readItem.Passes) (hwide : i ∈ wide)
    (havoids : ∀ t ∈ (s.block readQuote readItem i past refs).tokens, t.Avoids wide)
    (hnext : (s.block readQuote readItem i past refs).next ≤ n) :
    (s.block readQuote readItem i past refs).Spreads wide refs refs'
      (s'.block readQuote readItem (spread wide i) past' refs') := by
  have htable : s.table? i past = none := table?_eq_none fun hmem => (e.bar i ha hn hwide hmem).1
  have hin : i + 1 ≤ n := Nat.le_trans (lt_next_block hquote hitem refs hi hle) hnext
  have hcode : s.isCode i = false := Bool.eq_false_iff.2 fun hcode => by
    rw [block_eq, startAt_of_isCode htable hcode] at havoids
    have hlt := s.le_codeEnd past (past - i) (Nat.le_refl (i + 1))
    rcases havoids _ List.mem_cons_self _ rfl with hlist | ⟨hmath, -⟩ | hclear
    · cases hlist
    · cases hmath
    · exact hclear i (Nat.le_refl i) hlt hwide
  obtain ⟨formula, formula', hmath, hmath', htrim⟩ := e.math?_of_mem ha hn hpast hwide hin hi hcode
  rw [block_eq, block_eq, startAt_of_math? htable hcode hmath,
    startAt_of_math? ((e.table? ha hn hpast hle).trans htable) ((e.isCode ha hn).trans hcode) hmath']
  exact ⟨.cons (by simp [Token.trimmed, Token.moved, Span.moved, htrim]) .nil, rfl, rfl, rfl, rfl⟩

/-- A block that does not begin on a wide line. -/
theorem spreads_block_of_notMem {readQuote readItem : Reader} (hquote : readQuote.Follows)
    (hitem : readItem.Follows) (hle' : past' ≤ s'.limit) (hwide : i ∉ wide)
    (hfilled : s.isEmpty i = false) (hin : s.isOutside i = false)
    (havoids : ∀ t ∈ (s.block readQuote readItem i past refs).tokens, t.Avoids wide)
    (hnext : (s.block readQuote readItem i past refs).next ≤ n) :
    (s.block readQuote readItem i past refs).Spreads wide refs refs'
      (s'.block readQuote readItem (spread wide i) past' refs') := by
  have hn1 := e.succ_le hn hwide (Nat.lt_of_lt_of_le hi hle)
  have ha1 : a ≤ i + 1 := Nat.le_succ_of_le ha
  have hsucc := spread_succ_of_notMem hwide
  have hfuel : past - (i + 1) ≤ past - i := Nat.sub_le_sub_left (Nat.le_succ i) past
  have hfuel' : past' - spread wide (i + 1) ≤ past' - spread wide i := by omega
  rw [block_eq] at havoids hnext ⊢
  have hstart := e.startAt ha hn hpast hle hwide hi (isClear_of_avoids havoids hwide)
  have hbegins := s.begins_startAt i past
  rw [block_eq, hstart]
  generalize s.startAt i past = start at havoids hnext hbegins ⊢
  -- the first token of a block that is not a list has all lines of the block
  cases start with
  | table header alignments =>
    have hclear := clear_of_avoids (havoids _ List.mem_cons_self) rfl rfl hwide
    simp only [Start.moved, blockFrom] at hnext ⊢
    rw [e.tableTokens ha hpast hle header alignments hclear hnext]
    exact ⟨.of_eq rfl, rfl, rfl, rfl, rfl⟩
  | code =>
    have hclear := clear_of_avoids (havoids _ List.mem_cons_self) rfl rfl hwide
    simp only [Start.moved, blockFrom] at hnext ⊢
    rw [← hsucc, e.codeEnd ha1 hn1 hpast hle hfuel hfuel' hclear.tail, e.indent,
      e.range ha (Nat.le_succ_of_le hnext) hclear]
    exact spreads_leaf refs refs' _ _ rfl
  | math content label next => exact spreads_leaf refs refs' _ _ rfl
  | fence mark length info =>
    have hclear := clear_of_avoids (havoids _ List.mem_cons_self) rfl rfl hwide
    simp only [Start.moved, blockFrom, e.same i ha hn hwide, ← hsucc]
    exact spreads_fence refs refs' e ha hn hpast hle hi hwide (fence?_ne_dollar hbegins) length info _
      hclear hnext
  | quote => exact spreads_quote e ha hn hpast hle hle' hi refs refs' hquote hbegins hin havoids hnext
  | rule => exact spreads_leaf refs refs' _ _ hsucc.symm
  | list mark =>
    exact spreads_list e hpast hle hle' hitem mark refs refs' ha hn hi hwide hfilled havoids hnext
  | definition => exact absurd hbegins (by simp [Begins, e.plain.reference?_eq_none])
  | html ending =>
    have hclear := clear_of_avoids (havoids _ List.mem_cons_self) rfl rfl hwide
    simp only [Start.moved, blockFrom, e.same i ha hn hwide, e.indent, ← hsucc] at hclear hnext ⊢
    have hend : (if ending.isReached (s.line i).body then spread wide (i + 1)
          else s'.htmlEnd ending past' (past' - spread wide i) (spread wide (i + 1))) =
        spread wide (if ending.isReached (s.line i).body then i + 1
          else s.htmlEnd ending past (past - i) (i + 1)) := by
      split
      · rfl
      · next hreached =>
        rw [if_neg hreached] at hclear
        exact e.htmlEnd ha1 hn1 hpast hle hfuel hfuel' ending hclear.tail
    rw [hend, e.range ha (Nat.le_succ_of_le hnext) hclear]
    exact spreads_leaf refs refs' _ _ rfl
  | heading level content => exact spreads_textBlock refs refs' _ _ hsucc.symm hsucc.symm
  | underlined last level =>
    have hclear := clear_of_avoids (havoids _ List.mem_cons_self) rfl rfl hwide
    have hfrom := (of_underlined? hbegins).1
    have hlast := spread_succ_of_notMem (hclear last (by omega) (Nat.lt_succ_self last))
    have htext : Clear wide i last := fun j hij hlt => hclear j hij (Nat.lt_succ_of_lt hlt)
    simp only [Start.moved, blockFrom,
      e.paragraphText ha (Nat.le_succ_of_le (Nat.le_of_succ_le hnext)) htext]
    exact spreads_textBlock refs refs' _ _ hlast.symm rfl
  | paragraph =>
    have hclear := clear_of_avoids (havoids _ List.mem_cons_self) rfl rfl hwide
    simp only [Start.moved, blockFrom] at hnext ⊢
    rw [← hsucc, e.paragraphEnd ha1 hn1 (by omega) (by omega) hclear.tail,
      e.paragraphText ha (Nat.le_succ_of_le hnext) hclear]
    exact spreads_textBlock refs refs' _ _ rfl rfl

end

/-! ## All blocks -/

section

variable {readQuote readItem : Reader} (hquote : readQuote.Follows) (hitem : readItem.Follows)
  (e : Spreads wide a n s s') {past past' : Nat} (hpast : Moves wide n past past')
  (hle : past ≤ s.limit) (hle' : past' ≤ s'.limit)

/-- A gap is as long as it was. -/
theorem spreads_pastGap (e : Spreads wide a n s s') (hpast : Moves wide n past past') {i : Nat}
    (ha : a ≤ i) (hn : i ≤ n) : s'.pastGap past' (spread wide i) = spread wide (s.pastGap past i) := by
  rw [pastGap, pastGap, hpast.decide_lt hn, e.isEmpty ha hn]
  split
  · next hgap =>
    rw [Bool.and_eq_true] at hgap
    rw [spread_succ_of_notMem (e.notMem_of_isEmpty ha hn hgap.2)]
  · rfl

/-- Whether a block ends with an empty line. -/
theorem gapBefore_eq (e : Spreads wide a n s s') (hpast : Moves wide n past past') {i : Nat}
    (ha : a < i) (hn : i ≤ n) :
    (decide (spread wide i - 1 < past') && s'.isEmpty (spread wide i - 1)) =
      (decide (i - 1 < past) && s.isEmpty (i - 1)) := by
  rw [isEmpty_pred e ha hn]
  cases hempty : s.isEmpty (i - 1) with
  | false => rw [Bool.and_false, Bool.and_false]
  | true =>
    have hwide := e.notMem_of_isEmpty (by omega) (by omega) hempty
    have hsucc := spread_succ_of_notMem hwide
    rw [Nat.sub_add_cancel (by omega)] at hsucc
    rw [hsucc, Nat.add_sub_cancel, hpast.decide_lt (by omega)]

include hquote hitem e hpast hle hle'

/-- Blocks that are read one after the other. -/
theorem spreads_blocks {fuel fuel' : Nat} (hasGap tight : Bool) {i : Nat} (refs refs' : References)
    (ha : a ≤ i) (hn : i ≤ n) (hfuel : past - i < fuel) (hfuel' : past' - spread wide i < fuel')
    (havoids : ∀ t ∈ (s.blocks readQuote readItem past fuel hasGap tight i refs).tokens,
      t.Avoids wide)
    (hnext : (s.blocks readQuote readItem past fuel hasGap tight i refs).next ≤ n) :
    (s.blocks readQuote readItem past fuel hasGap tight i refs).Spreads wide refs refs'
      (s'.blocks readQuote readItem past' fuel' hasGap tight (spread wide i) refs') := by
  -- By induction on the fuel of the one reader. The other may have more or less of it, but each has
  -- enough for the lines that are left to it, so that neither runs out.
  induction fuel generalizing fuel' hasGap tight i with
  | zero => exact absurd hfuel (Nat.not_lt_zero _)
  | succ fuel ih =>
    obtain ⟨fuel', rfl⟩ : ∃ f, fuel' = f + 1 := ⟨fuel' - 1, by omega⟩
    obtain ⟨hskip, hskipN⟩ := e.skipEmpty ha hn (Nat.le_refl _) (Nat.le_refl _)
    have hfrom := s.le_skipEmpty (s.limit - i) i
    have hstops := s.skipEmpty_stops (Nat.le_refl (s.limit - i))
    rw [blocks_succ] at havoids hnext ⊢
    rw [blocks_succ]
    dsimp only at havoids hnext ⊢
    rw [hskip]
    generalize s.skipEmpty (s.limit - i) i = j at *
    have haj : a ≤ j := Nat.le_trans ha hfrom
    rw [hpast.decide_le hskipN, e.isOutside haj hskipN]
    split
    · exact ⟨.nil, rfl, rfl, rfl, rfl⟩
    · next hmore =>
      rw [if_neg hmore] at havoids hnext
      rw [Bool.or_eq_true, decide_eq_true_eq, not_or, Nat.not_le, Bool.not_eq_true] at hmore
      obtain ⟨hj, hin⟩ := hmore
      have hfilled := hstops.resolve_left (by omega)
      have hlt := lt_next_block hquote.toPasses hitem.toPasses refs hj hle
      have hblock : (∀ t ∈ (s.block readQuote readItem j past refs).tokens, t.Avoids wide) →
          (s.block readQuote readItem j past refs).next ≤ n →
          (s.block readQuote readItem j past refs).Spreads wide refs refs'
            (s'.block readQuote readItem (spread wide j) past' refs') := by
        intro havoids hnext
        -- Only display math begins on a wide line; anything else begins on one that has stayed.
        by_cases hwide : j ∈ wide
        · exact spreads_block_of_mem refs refs' e haj hskipN hpast hle hj hquote.toPasses
            hitem.toPasses hwide havoids hnext
        · exact spreads_block_of_notMem refs refs' e haj hskipN hpast hle hj hquote hitem hle' hwide
            hfilled hin havoids hnext
      generalize s.block readQuote readItem j past refs = b at *
      generalize s'.block readQuote readItem (spread wide j) past' refs' = b' at *
      have hgap := s.le_pastGap past b.next
      have hgapN : s.pastGap past b.next ≤ n := by
        split at hnext
        · exact hnext
        · exact Nat.le_trans (le_next_blocks hquote.toPasses hitem.toPasses hle _ _ _ _ _) hnext
      have hbn := Nat.le_trans hgap hgapN
      have hb : b.Spreads wide refs refs' b' := by
        split at havoids
        · exact hblock havoids hbn
        · exact hblock (fun t ht => havoids t (List.mem_append_left _ ht)) hbn
      have haNext : a ≤ b.next := by omega
      have hbefore := gapBefore_eq e hpast (Nat.lt_of_le_of_lt haj hlt) hbn
      rw [hb.next, hb.refs', spreads_pastGap e hpast haNext hbn, hbefore, hpast.decide_lt hbn,
        e.isEmpty haNext hbn]
      rw [hb.refs] at havoids hnext ⊢
      simp only [hpast.le_iff hgapN]
      split
      · exact ⟨hb.tokens, rfl, rfl, rfl, rfl⟩
      · next hmore =>
        rw [if_neg hmore] at havoids hnext
        have hj' := (hpast.lt_iff hskipN).2 hj
        have hmono := spread_lt wide hlt
        have hmono' := spread_mono wide hfrom
        have hmono'' := spread_mono wide hgap
        have hrest := ih _ (!hasGap) (Nat.le_trans haNext hgap) hgapN (by omega)
          (show past' - spread wide (s.pastGap past b.next) < fuel' by omega)
          (fun t ht => havoids t (List.mem_append_right _ ht)) hnext
        exact ⟨hb.tokens.append hrest.tokens, hrest.next, hrest.tight, hrest.refs, hrest.refs'⟩

end

/-- Blocks follow lines that spread, if what is read in quotes and items does. -/
theorem follows_blocks {readQuote readItem : Reader} (hquote : readQuote.Follows)
    (hitem : readItem.Follows) : Reader.Follows fun s first past refs =>
      s.blocks readQuote readItem past (past - first + 1) false true first refs where
  toPasses := passes_blocks hquote.toPasses hitem.toPasses
  spreads e _ _ _ refs refs' ha hn hpast hle hle' havoids hnext :=
    spreads_blocks hquote hitem e hpast hle hle' false true refs refs' ha hn (Nat.lt_succ_self _)
      (Nat.lt_succ_self _) havoids hnext

/-- Where containers nest too deep, a reader follows lines that spread: it reads nothing. -/
theorem follows_reader_zero : (reader 0).Follows where
  toPasses := passes_reader_zero
  spreads {wide a n s s'} e {first past past'} refs refs' ha hn hpast _ _ _ hnext := by
    obtain ⟨hskip, hskipN⟩ := e.skipEmpty ha hn (Nat.le_refl _) (Nat.le_refl _)
    have haSkip := Nat.le_trans ha (s.le_skipEmpty (s.limit - first) first)
    simp only [reader] at hnext ⊢
    rw [hskip, hpast.decide_le hskipN, e.isOutside haSkip hskipN]
    split
    · exact ⟨.nil, rfl, rfl, rfl, rfl⟩
    · next hmore =>
      rw [if_neg hmore] at hnext
      exact ⟨.nil, hpast.eq hnext, rfl, rfl, rfl⟩

/-- However deep containers may nest, a reader makes the same of lines that have spread. -/
theorem follows_reader (depth : Nat) : (reader depth).Follows :=
  reader_induction follows_reader_zero follows_blocks depth

end Scope
end LiveMarkdown.Markdown
