import LiveMarkdown.Proofs.Markdown.Slice
import LiveMarkdown.Proofs.Math.Reading

/-!
# Where display math stands

`places` are the expressions of display math with the lines they stand on. In what is read of a
document they come in order, each on lines of its own (`ArePlaced`). What else can be said of them
depends on the scopes that they are read in: the reader begins with the scope of the document and
hands on those of quotes and items. A `MathInvariant` is something that scopes keep when they are
handed on, and what it says of the display math that a line in such a scope begins; by induction on
how deep containers nest, it then says so of all that is read (`respects_reader`).
-/

namespace LiveMarkdown

open Markdown (Parsed Reader Scope Span Token)

/-- The lines of a token that is display math, and its expression. -/
def Markdown.Token.place? (t : Token) : Option (Span × Text) :=
  t.display?.bind fun expression => t.span.map (·, expression)

/-- The display math among tokens, in order: the lines that it stands on, and its expression. -/
def places (ts : List Token) : List (Span × Text) := ts.filterMap Token.place?

/-- A token that is no display math has no place. -/
theorem Markdown.Token.place?_eq_none {t : Token} (h : t.display? = none) : t.place? = none := by
  rw [place?, h]
  rfl

/-- The display math of tokens comes in their order. -/
theorem places_append (ts us : List Token) : places (ts ++ us) = places ts ++ places us :=
  List.filterMap_append

/-- Where there is no display math, there are no places. -/
theorem places_eq_nil {ts : List Token} (h : displays ts = []) : places ts = [] :=
  List.filterMap_eq_nil_iff.2 fun t ht => Token.place?_eq_none (List.filterMap_eq_nil_iff.1 h t ht)

/-- The expressions are those of the display math. -/
theorem map_snd_places_sublist (ts : List Token) : ((places ts).map (·.2)).Sublist (displays ts) := by
  induction ts with
  | nil => exact .slnil
  | cons t rest ih =>
    cases hdisplay : t.display? with
    | none =>
      rw [displays_cons hdisplay, places, List.filterMap_cons_none (Token.place?_eq_none hdisplay)]
      exact ih
    | some expression =>
      have hrest : displays (t :: rest) = expression :: displays rest :=
        List.filterMap_cons_some hdisplay
      rw [hrest]
      cases hspan : t.span with
      | none =>
        have hnone : t.place? = none := by rw [Token.place?, hdisplay, hspan]; rfl
        rw [places, List.filterMap_cons_none hnone]
        exact ih.cons expression
      | some span =>
        have hsome : t.place? = some (span, expression) := by rw [Token.place?, hdisplay, hspan]; rfl
        rw [places, List.filterMap_cons_some hsome]
        exact ih.cons_cons expression

namespace Markdown

/-- The display math of a text has its places from the block reader. -/
theorem places_parse (t : Text) : places (parse t) = places (blockTokens (normalizeSource t)).1 := by
  have hshape (ts : List Token) : places ts =
      (ts.map Token.shape).filterMap fun shape => shape.2.2.bind fun e => shape.2.1.map (·, e) := by
    rw [List.filterMap_map]
    rfl
  rw [hshape, shape_parse, hshape]

/-- The display math of a quote is that of its content. -/
theorem places_quote (read : Reader) (s : Scope) (i past : Nat) (refs : References) :
    places (s.quote read i past refs).tokens =
      places (read (s.quoteScope i (s.quoteTaken i past)) i (s.quoteTaken i past).2.1 refs).tokens :=
  filterMap_box (fun _ => Token.place?_eq_none) ..

/-- The display math of a list is that of its items. -/
theorem places_list (read : Reader) (s : Scope) (mark : Scope.ItemMark) (i past : Nat)
    (refs : References) : places (s.list read mark i past refs).tokens =
      (s.items read past (past - i) false mark i refs).1.flatMap (places ·.1) :=
  Scope.filterMap_list (fun _ => Token.place?_eq_none) (fun _ _ => rfl) ..

/-- Places in order, which do not overlap, between two lines; and something that holds of each. -/
structure ArePlaced (P : Span → Text → Prop) (first past : Nat) (l : List (Span × Text)) : Prop where
  le : first ≤ past
  ordered : l.Pairwise fun p q => p.1.past ≤ q.1.first
  within : ∀ p ∈ l, first ≤ p.1.first ∧ p.1.first < p.1.past ∧ p.1.past ≤ past
  holds : ∀ p ∈ l, P p.1 p.2

namespace ArePlaced

variable {P : Span → Text → Prop} {a b c : Nat} {l m : List (Span × Text)}

/-- Nothing is placed between any two lines. -/
theorem nil (h : a ≤ b) : ArePlaced P a b [] := ⟨h, .nil, nofun, nofun⟩

/-- One place, between its own lines. -/
theorem singleton {expression : Text} (h : a < b) (hP : P ⟨a, b⟩ expression) :
    ArePlaced P a b [(⟨a, b⟩, expression)] where
  le := Nat.le_of_lt h
  ordered := List.pairwise_singleton ..
  within p hp := by
    rw [List.mem_singleton.1 hp]
    exact ⟨Nat.le_refl a, h, Nat.le_refl b⟩
  holds p hp := by
    rw [List.mem_singleton.1 hp]
    exact hP

/-- Places of one part, and of the part after it. -/
theorem append (h : ArePlaced P a b l) (h' : ArePlaced P b c m) : ArePlaced P a c (l ++ m) where
  le := Nat.le_trans h.le h'.le
  ordered := List.pairwise_append.2 ⟨h.ordered, h'.ordered, fun p hp q hq =>
    Nat.le_trans (h.within p hp).2.2 (h'.within q hq).1⟩
  within p hp := by
    have hle := h.le
    have hle' := h'.le
    rcases List.mem_append.1 hp with hp | hp
    · have := h.within p hp
      omega
    · have := h'.within p hp
      omega
  holds p hp := (List.mem_append.1 hp).elim (h.holds p) (h'.holds p)

/-- Places lie also between lines further apart. -/
theorem earlier (h : ArePlaced P b c l) (hle : a ≤ b) : ArePlaced P a c l :=
  (nil hle).append h

end ArePlaced

/-- Something that holds of a scope and the lines that are read in it, and holds again when a quote or
an item reads its own; it says `P` of all display math that is read. -/
structure MathInvariant (Fits : Scope → (first past : Nat) → Prop) (P : Span → Text → Prop) :
    Prop where
  later {s : Scope} {i j past : Nat} : Fits s i past → i ≤ j → Fits s j past
  math {s : Scope} {i past next : Nat} {content : Text} {label : Option Text} : Fits s i past →
    i < past → s.isOutside i = false → s.math? i past = some (content, label, next) →
    P ⟨i, next⟩ (Text.trim content)
  quote {s : Scope} {i past : Nat} : Fits s i past → i < past → s.isOutside i = false → s.isQuote i →
    Fits (s.quoteScope i (s.quoteTaken i past)) i (s.quoteTaken i past).2.1
  item {s : Scope} {i past : Nat} {mark : Scope.ItemMark} : Fits s i past → s.isOutside i = false →
    Scope.itemMark? (s.line i).body = some mark → Fits (s.itemScope i mark) i past

/-- A reader that finds display math only as `P` says, in order, where it reads what fits. -/
structure Reader.Respects (Fits : Scope → (first past : Nat) → Prop) (P : Span → Text → Prop)
    (read : Reader) : Prop extends read.Passes where
  placed {s : Scope} {first past : Nat} (refs : References) : past ≤ s.limit → Fits s first past →
    ArePlaced P first (read s first past refs).next (places (read s first past refs).tokens)

namespace Scope

/-- Only four kinds of blocks matter for display math: those without any, display math itself, and
the two containers. -/
theorem block_cases (readQuote readItem : Reader) (s : Scope) (i past : Nat) (refs : References) :
    displays (s.block readQuote readItem i past refs).tokens = [] ∨
    (∃ content label next, s.math? i past = some (content, label, next) ∧
      s.block readQuote readItem i past refs =
        { tokens := [{ kind := .math label, content, span := some ⟨i, next⟩ }], next, refs }) ∨
    (s.isQuote i ∧ s.block readQuote readItem i past refs = s.quote readQuote i past refs) ∨
    ∃ mark, s.listItem? false i = some mark ∧
      s.block readQuote readItem i past refs = s.list readItem mark i past refs := by
  obtain ⟨start, hbegins, hblock⟩ := s.exists_begins readQuote readItem i past refs
  rw [hblock]
  cases start with
  | table => exact .inl (displays_tableTokens ..)
  | math content label next => exact .inr (.inl ⟨content, label, next, hbegins, rfl⟩)
  | quote => exact .inr (.inr (.inl ⟨hbegins, rfl⟩))
  | list mark => exact .inr (.inr (.inr ⟨mark, hbegins, rfl⟩))
  | code | fence | rule | definition | html | heading | underlined | paragraph => exact .inl rfl

/-- A line that begins an item has the mark of the item. -/
theorem itemMark?_of_listItem? {s : Scope} {inParagraph : Bool} {i : Nat} {mark : ItemMark}
    (h : s.listItem? inParagraph i = some mark) : itemMark? (s.line i).body = some mark := by
  simp only [listItem?] at h
  split at h
  · cases h
  · split at h
    · cases h
    · split at h
      · cases h
      · next m hmark =>
        split at h
        · cases h
        · rw [hmark]
          exact h

/-- An item that follows begins on a line of the container, with its mark. -/
theorem of_nextItem? {s : Scope} {past i : Nat} {mark m : ItemMark}
    (h : s.nextItem? past mark i = some m) :
    s.isOutside i = false ∧ itemMark? (s.line i).body = some m := by
  rw [nextItem?] at h
  split at h
  · cases h
  · next hcond =>
    simp only [Bool.or_eq_true, not_or, Bool.not_eq_true] at hcond
    obtain ⟨m', hm', h⟩ := Option.bind_eq_some_iff.1 h
    split at h
    · cases h
      exact ⟨hcond.1.1.2, hm'⟩
    · cases h

section

variable {Fits : Scope → (first past : Nat) → Prop} {P : Span → Text → Prop}
  (h : MathInvariant Fits P)
include h

/-- The display math of items is placed, item by item. -/
theorem placed_items {read : Reader} (hread : read.Respects Fits P) {s : Scope} {past : Nat}
    (hpast : past ≤ s.limit) (fuel : Nat) (wasLoose : Bool) (mark : ItemMark) {i : Nat}
    (refs : References) (hi : i < past) (hin : s.isOutside i = false)
    (hmark : itemMark? (s.line i).body = some mark) (hfits : Fits s i past) :
    ArePlaced P i (s.items read past fuel wasLoose mark i refs).2.1
      ((s.items read past fuel wasLoose mark i refs).1.flatMap (places ·.1)) := by
  induction fuel generalizing wasLoose mark i refs with
  | zero => exact .nil (Nat.le_refl i)
  | succ fuel ih =>
    have hitem : ArePlaced P i (s.readItem read past mark i refs).next
        (places (s.readItem read past mark i refs).tokens) := by
      have hle := le_next_readItem hread.toPasses mark refs (Nat.le_of_lt hi) hpast
      simp only [readItem] at hle ⊢
      split
      · next hempty =>
        rw [if_pos hempty] at hle
        exact .nil hle
      · exact hread.placed refs hpast (h.item hfits hin hmark)
    rw [items_succ]
    simp only
    generalize s.readItem read past mark i refs = r at hitem ⊢
    split
    · simpa using hitem
    · next m hm =>
      obtain ⟨hin', hmark'⟩ := of_nextItem? hm
      rw [List.flatMap_cons]
      exact hitem.append (ih _ m _ (lt_of_nextItem? hm) hin' hmark' (h.later hfits hitem.le))

variable {readQuote readItem : Reader} (hquote : readQuote.Respects Fits P)
  (hitem : readItem.Respects Fits P) {s : Scope} {past : Nat} (hpast : past ≤ s.limit)
include hquote hitem hpast

/-- The display math of a block is placed on the lines of the block. -/
theorem placed_block {i : Nat} (refs : References) (hi : i < past) (hin : s.isOutside i = false)
    (hfits : Fits s i past) : ArePlaced P i (s.block readQuote readItem i past refs).next
      (places (s.block readQuote readItem i past refs).tokens) := by
  have hlt := lt_next_block hquote.toPasses hitem.toPasses refs hi hpast
  rcases s.block_cases readQuote readItem i past refs with
    hnone | ⟨content, label, next, hmath, heq⟩ | ⟨hmark, heq⟩ | ⟨mark, hmark, heq⟩
  · rw [places_eq_nil hnone]
    exact .nil (Nat.le_of_lt hlt)
  · rw [heq] at hlt ⊢
    exact .singleton hlt (h.math hfits hi hin hmath)
  · rw [heq, places_quote]
    exact hquote.placed refs (quoteTaken_le_limit hi hpast) (h.quote hfits hi hin hmark)
  · rw [heq, places_list]
    exact placed_items h hitem hpast _ false mark refs hi hin (itemMark?_of_listItem? hmark) hfits

/-- The display math of blocks is placed, block by block. -/
theorem placed_blocks (fuel : Nat) (hasGap tight : Bool) {i : Nat} (refs : References)
    (hfits : Fits s i past) :
    ArePlaced P i (s.blocks readQuote readItem past fuel hasGap tight i refs).next
      (places (s.blocks readQuote readItem past fuel hasGap tight i refs).tokens) := by
  induction fuel generalizing hasGap tight i refs with
  | zero => exact .nil (Nat.le_refl i)
  | succ fuel ih =>
    have hskip := s.le_skipEmpty (s.limit - i) i
    refine ArePlaced.earlier ?_ hskip
    have hstep := step_blocks readQuote readItem s past fuel hasGap tight i refs
    have hfits := h.later hfits hskip
    generalize s.blocks readQuote readItem past (fuel + 1) hasGap tight i refs = r at hstep ⊢
    generalize s.skipEmpty (s.limit - i) i = j at hstep hfits ⊢
    cases hstep with
    | stop _ htokens hnext =>
      rw [htokens, hnext]
      exact .nil (Nat.le_refl j)
    | more b rest hasGap tight hj hin hb hrest htokens hnext =>
      have hblock : ArePlaced P j b.next (places b.tokens) :=
        hb ▸ placed_block h hquote hitem hpast refs hj hin hfits
      have hgap := s.le_pastGap past b.next
      have hafter : ArePlaced P (s.pastGap past b.next) rest.next (places rest.tokens) := by
        rw [← hrest, blocksAfter]
        split
        · exact .nil (Nat.le_refl _)
        · exact ih _ _ _ (h.later hfits (Nat.le_trans hblock.le hgap))
      rw [htokens, hnext, places_append]
      exact hblock.append (hafter.earlier hgap)

end

section

variable {Fits : Scope → (first past : Nat) → Prop} {P : Span → Text → Prop}
  (h : MathInvariant Fits P)
include h

/-- Blocks respect what quotes and items respect. -/
theorem respects_blocks {readQuote readItem : Reader} (hquote : readQuote.Respects Fits P)
    (hitem : readItem.Respects Fits P) : Reader.Respects Fits P fun s first past refs =>
      s.blocks readQuote readItem past (past - first + 1) false true first refs where
  toPasses := passes_blocks hquote.toPasses hitem.toPasses
  placed refs hpast hfits := placed_blocks h hquote hitem hpast _ false true refs hfits

omit h in
/-- A reader that reads nothing respects everything. -/
theorem respects_reader_zero : (reader 0).Respects Fits P where
  toPasses := passes_reader_zero
  placed refs hpast _ := by
    rw [tokens_reader_zero]
    exact .nil (passes_reader_zero.le_next _ refs hpast)

/-- However deep containers may nest, a reader finds display math only as the invariant says. -/
theorem respects_reader (depth : Nat) : (reader depth).Respects Fits P :=
  reader_induction respects_reader_zero (respects_blocks h) depth

/-- So it does in a document, if the invariant holds of the document's own lines. -/
theorem arePlaced_blockTokens (source : Text)
    (hfits : Fits (ofLines (Text.lines source)) 0 (Line.ofLines (Text.lines source)).length) :
    ∃ past, ArePlaced P 0 past (places (blockTokens source).1) :=
  ⟨_, (respects_reader h maxNesting).placed [] (Nat.le_refl _) hfits⟩

end

end Scope

/-- The display math of a text stands in order, each on lines of its own. -/
theorem ordered_places (t : Text) :
    (places (parse t)).Pairwise (fun p q => p.1.past ≤ q.1.first) ∧
      ∀ p ∈ places (parse t), p.1.first < p.1.past := by
  have hall : MathInvariant (fun _ _ _ => True) (fun _ _ => True) :=
    ⟨fun _ _ => trivial, fun _ _ _ _ => trivial, fun _ _ _ _ => trivial, fun _ _ _ => trivial⟩
  obtain ⟨past, hplaced⟩ := Scope.arePlaced_blockTokens hall (normalizeSource t) trivial
  rw [places_parse]
  exact ⟨hplaced.ordered, fun p hp => (hplaced.within p hp).2.1⟩

end Markdown
end LiveMarkdown
