import LiveMarkdown.Markdown.Document
import LiveMarkdown.Proofs.Markdown.Start

/-!
# What the tokens of blocks have in common

The reader of blocks calls itself for the content of quotes and list items. `BlockClosed` collects
what a property of token lists needs so that it survives every step of the reader, and
`Scope.reader_closed` is the induction: a property that is closed holds of all that is read.

Two uses of it are here. The opening tokens of headings have no attributes (`plainHeadings_parse`),
so that an id on one is one that a later stage has put there. A text of blanks has no headings at
all (`headings_parse_of_allBlank`); this one is about the lines rather than the tokens and needs no
nesting, since blanks open no container.
-/

namespace LiveMarkdown.Markdown

open Html (Attributes)

/-- The kinds of blocks that have neither content of their own kind nor running text. -/
def Kind.isLeaf : Kind → Bool
  | .indentedCode | .fence _ | .math _ | .html | .rule => true
  | _ => false

/-- The containers that hold other blocks, rows or cells. -/
def Container.isBox : Container → Bool
  | .paragraph | .heading _ | .headerCell | .dataCell => false
  | _ => true

/-- A property that a list of block tokens has if the lists that it is put together from have it. -/
structure BlockClosed (Q : List Token → Prop) : Prop where
  nil : Q []
  append {ts us : List Token} : Q ts → Q us → Q (ts ++ us)
  /-- A block that is one token. -/
  leaf {t : Token} : t.kind.isLeaf → t.attrs = [] → t.hidden = false → Q [t]
  paragraph (content : Text) (i j k : Nat) : Q (textBlock .paragraph content i j k)
  heading (level : Nat) (content : Text) (i j k : Nat) :
    1 ≤ level → level ≤ 6 → Q (textBlock (.heading level) content i j k)
  /-- A cell of a table. -/
  cell (c : Container) (attrs : Attributes) (content : Text) (span : Option Span) :
    c = .headerCell ∨ c = .dataCell → (∀ a ∈ attrs, a.1 = "style".toList) →
    Q [{ kind := .opening c, attrs }, { kind := .inline [], content, span },
       { kind := .closing c }]
  /-- A container around blocks. -/
  box {ts : List Token} (c : Container) (attrs : Attributes) (span : Option Span) :
    c.isBox → (∀ a ∈ attrs, a.1 = "start".toList) → Q ts →
    Q ({ kind := .opening c, attrs, span } :: ts ++ [{ kind := .closing c }])
  /-- The item of a tight list. -/
  hide {ts : List Token} : Q ts → Q (Scope.hideParagraphs 0 ts)

namespace BlockClosed

variable {Q : List Token → Prop} (h : BlockClosed Q)
include h

/-- A closed property of the parts of a list of lists is one of their concatenation. -/
theorem flatMap {α : Type} {f : α → List Token} {l : List α} (hf : ∀ a ∈ l, Q (f a)) :
    Q (l.flatMap f) := by
  induction l with
  | nil => exact h.nil
  | cons a rest ih =>
    rw [List.flatMap_cons]
    exact h.append (hf a (by simp)) (ih fun b hb => hf b (by simp [hb]))

/-- The rows of a table have a closed property. -/
theorem row (cell : Container) (hc : cell = .headerCell ∨ cell = .dataCell)
    (alignments : List (Option Scope.Alignment)) (cells : List Text) (i : Nat) :
    Q (Scope.row cell alignments cells i) := by
  have hstyle (alignment : Option Scope.Alignment) :
      ∀ a ∈ Scope.row.style alignment, a.1 = "style".toList := by
    intro a ha
    unfold Scope.row.style at ha
    split at ha
    · cases ha
    · exact List.mem_singleton.1 ha ▸ rfl
    · exact List.mem_singleton.1 ha ▸ rfl
    · exact List.mem_singleton.1 ha ▸ rfl
  unfold Scope.row
  exact h.box .tableRow [] _ rfl nofun (h.flatMap fun _ _ => h.cell cell _ _ _ hc (hstyle _))

/-- The rows of a table have the property. -/
theorem rows (s : Scope) (alignments : List (Option Scope.Alignment)) (past fuel : Nat)
    (filled : Int) (i : Nat) : Q (s.rows alignments past fuel filled i).1 := by
  induction fuel generalizing filled i with
  | zero => exact h.nil
  | succ fuel ih =>
    simp only [Scope.rows]
    split
    · exact h.nil
    · split
      · exact h.nil
      · exact h.append (h.row .dataCell (.inr rfl) ..) (ih ..)

/-- What stands in a table has every closed property. -/
theorem exists_table (s : Scope) (i past : Nat) (header : List Text)
    (alignments : List (Option Scope.Alignment)) : ∃ inner, Q inner ∧
      (s.tableTokens i past header alignments).1 =
        { kind := .opening .table
          span := some ⟨i, (s.tableTokens i past header alignments).2⟩ } :: inner ++
          [{ kind := .closing .table }] := by
  have hbody := h.rows s alignments past (past - i) 0 (i + 2)
  simp only [Scope.tableTokens]
  generalize s.rows alignments past (past - i) 0 (i + 2) = r at hbody
  have hhead := h.box .tableHead [] (some ⟨i, i + 1⟩) rfl nofun
    (h.row .headerCell (.inl rfl) alignments header i)
  have htail : Q (if r.1.isEmpty then []
      else { kind := .opening .tableBody, span := some ⟨i + 2, r.2⟩ } :: r.1 ++
        [{ kind := .closing .tableBody }]) := by
    split
    · exact h.nil
    · exact h.box .tableBody [] _ rfl nofun hbody
  exact ⟨_, h.append hhead htail, by simp⟩

/-- A table has the property. -/
theorem tableTokens (s : Scope) (i past : Nat) (header : List Text)
    (alignments : List (Option Scope.Alignment)) :
    Q (s.tableTokens i past header alignments).1 := by
  obtain ⟨inner, hinner, htokens⟩ := h.exists_table s i past header alignments
  rw [htokens]
  exact h.box .table [] _ rfl nofun hinner

/-- A quote has a closed property if what is read in it has. -/
theorem quote {read : Reader} (hr : ∀ s first past refs, Q (read s first past refs).tokens)
    (s : Scope) (i past : Nat) (refs : References) : Q (s.quote read i past refs).tokens := by
  simp only [Scope.quote]
  exact h.box .blockquote [] _ rfl nofun (hr ..)

/-- The content of each item has the property, if what is read in it has. -/
theorem items {read : Reader} (hr : ∀ s first past refs, Q (read s first past refs).tokens)
    (s : Scope) (past fuel : Nat) (wasLoose : Bool) (mark : Scope.ItemMark) (i : Nat)
    (refs : References) :
    ∀ item ∈ (s.items read past fuel wasLoose mark i refs).1, Q item.1 := by
  induction fuel generalizing wasLoose mark i refs with
  | zero => simp [Scope.items]
  | succ fuel ih =>
    have hitem : Q (if (s.itemScope i mark).isEmpty i && (s.itemScope i mark).isEmpty (i + 1) then
        ({ next := min (i + 2) past, refs } : Parsed)
        else read (s.itemScope i mark) i past refs).tokens := by
      split
      · exact h.nil
      · exact hr ..
    simp only [Scope.items]
    split
    · simpa using hitem
    · intro item hmem
      rcases List.mem_cons.1 hmem with rfl | hmem
      · exact hitem
      · exact ih _ _ _ _ item hmem

/-- What stands in a list has a closed property if what is read in its items has. -/
theorem exists_list {read : Reader} (hr : ∀ s first past refs, Q (read s first past refs).tokens)
    (s : Scope) (mark : Scope.ItemMark) (i past : Nat) (refs : References) :
    ∃ (c : Container) (attrs : Attributes) (inner : List Token),
      (c.isBox ∧ (∀ a ∈ attrs, a.1 = "start".toList) ∧ Q inner) ∧
      (s.list read mark i past refs).tokens =
        { kind := .opening c, attrs
          span := some ⟨i, (s.list read mark i past refs).next⟩ } :: inner ++
          [{ kind := .closing c }] := by
  have hitems := h.items hr s past (past - i) false mark i refs
  simp only [Scope.list]
  refine ⟨_, _, _, ⟨by split <;> rfl, fun a ha => ?_, h.flatMap fun item hmem => ?_⟩, rfl⟩
  · split at ha
    · cases ha
    · split at ha
      · cases ha
      · exact List.mem_singleton.1 ha ▸ rfl
  refine h.box .listItem [] _ rfl nofun ?_
  split
  · exact h.hide (hitems item hmem)
  · exact hitems item hmem

/-- A list has a closed property if what is read in its items has. -/
theorem list {read : Reader} (hr : ∀ s first past refs, Q (read s first past refs).tokens)
    (s : Scope) (mark : Scope.ItemMark) (i past : Nat) (refs : References) :
    Q (s.list read mark i past refs).tokens := by
  obtain ⟨c, attrs, inner, ⟨hc, hattrs, hinner⟩, htokens⟩ := h.exists_list hr s mark i past refs
  rw [htokens]
  exact h.box c attrs _ hc hattrs hinner

end BlockClosed

/-! ## The levels of headings -/

/-- Number signs make headings of the levels one to six. -/
theorem Scope.heading?_level {s : Scope} {i level : Nat} {content : Text}
    (h : s.heading? i = some (level, content)) : 1 ≤ level ∧ level ≤ 6 := by
  unfold Scope.heading? at h
  split at h
  · cases h
  · simp only at h
    split at h
    · next hl =>
      simp only [Bool.and_eq_true, decide_eq_true_eq] at hl
      cases h
      exact hl.1
    · cases h

/-- An underline makes a heading of a level from one to six. -/
theorem Scope.underline?_level {body : Text} {level : Nat} (h : Scope.underline? body = some level) :
    1 ≤ level ∧ level ≤ 6 := by
  unfold Scope.underline? at h
  split at h
  · cases h
  · split at h
    · cases h; split <;> simp
    · cases h

/-- Underlining makes headings of the levels one and two. -/
theorem Scope.underlined?_level {s : Scope} {past fuel i last level : Nat}
    (h : s.underlined? past fuel i = some (last, level)) : 1 ≤ level ∧ level ≤ 6 :=
  Scope.underline?_level (Scope.of_underlined? h).2.2

/-! ## The induction -/

section
variable {Q : List Token → Prop} (h : BlockClosed Q)
include h

/-- One block has a closed property if what is read in it has. -/
theorem Scope.block_closed {readQuote readItem : Reader}
    (hq : ∀ s first past refs, Q (readQuote s first past refs).tokens)
    (hi : ∀ s first past refs, Q (readItem s first past refs).tokens)
    (s : Scope) (i past : Nat) (refs : References) :
    Q (s.block readQuote readItem i past refs).tokens := by
  obtain ⟨start, hbegins, hblock⟩ := s.exists_begins readQuote readItem i past refs
  rw [hblock]
  cases start with
  | table => exact h.tableTokens ..
  | code | math | fence | rule | html => exact h.leaf rfl rfl rfl
  | quote => exact h.quote hq ..
  | list => exact h.list hi ..
  | definition => exact h.nil
  | heading =>
    have hlevel := Scope.heading?_level hbegins
    exact h.heading _ _ _ _ _ hlevel.1 hlevel.2
  | underlined =>
    have hlevel := Scope.underlined?_level hbegins
    exact h.heading _ _ _ _ _ hlevel.1 hlevel.2
  | paragraph => exact h.paragraph ..

/-- Blocks have the property, if what is read in quotes and items has. -/
theorem Scope.blocks_closed {readQuote readItem : Reader}
    (hq : ∀ s first past refs, Q (readQuote s first past refs).tokens)
    (hi : ∀ s first past refs, Q (readItem s first past refs).tokens)
    (s : Scope) (past fuel : Nat) (hasGap tight : Bool) (i : Nat) (refs : References) :
    Q (s.blocks readQuote readItem past fuel hasGap tight i refs).tokens := by
  induction fuel generalizing hasGap tight i refs with
  | zero => exact h.nil
  | succ fuel ih =>
    have hb := Scope.block_closed h hq hi s (s.skipEmpty (s.limit - i) i) past refs
    simp only [Scope.blocks]
    split
    · exact h.nil
    · split <;> split
      · exact hb
      · exact h.append hb (ih ..)
      · exact hb
      · exact h.append hb (ih ..)

/-- What a reader reads has every closed property. -/
theorem Scope.reader_closed (depth : Nat) (s : Scope) (first past : Nat) (refs : References) :
    Q (Scope.reader depth s first past refs).tokens := by
  refine Scope.reader_induction (P := fun read => ∀ s first past refs,
    Q (read s first past refs).tokens) ?_ ?_ depth s first past refs
  · intro s first past refs
    simp only [Scope.reader]
    split <;> exact h.nil
  · intro readQuote readItem hq hi s first past refs
    exact Scope.blocks_closed h hq hi ..

/-- The blocks of a source have every closed property. -/
theorem blockTokens_closed (source : Text) : Q (blockTokens source).1 :=
  Scope.reader_closed h ..

end

/-! ## Headings are plain -/

/-- A heading's opening token has no attributes. -/
def Token.IsPlainHeading (t : Token) : Prop := t.headingLevel?.isSome → t.attrs = []

/-- Hiding paragraphs changes nothing but which paragraphs are hidden. -/
theorem Scope.mem_hideParagraphs {depth : Nat} {ts : List Token} {t : Token}
    (h : t ∈ Scope.hideParagraphs depth ts) : ∃ u ∈ ts, t = u ∨ t = { u with hidden := true } ∧
      (u.kind = .opening .paragraph ∨ u.kind = .closing .paragraph) := by
  induction ts generalizing depth with
  | nil => cases h
  | cons u rest ih =>
    have hrest {d : Nat} (h : t ∈ Scope.hideParagraphs d rest) : ∃ v ∈ u :: rest,
        t = v ∨ t = { v with hidden := true } ∧
          (v.kind = .opening .paragraph ∨ v.kind = .closing .paragraph) := by
      obtain ⟨v, hv, hvt⟩ := ih h
      exact ⟨v, List.mem_cons_of_mem _ hv, hvt⟩
    simp only [Scope.hideParagraphs] at h
    split at h
    · next c hk =>
      rcases List.mem_cons.1 h with h | h
      · refine ⟨u, List.mem_cons_self, ?_⟩
        split at h
        · next hp =>
          have hc : c = .paragraph := (by simpa using hp : depth = 0 ∧ _).2
          exact .inr ⟨h, .inl (hc ▸ hk)⟩
        · exact .inl h
      · exact hrest h
    · next c hk =>
      rcases List.mem_cons.1 h with h | h
      · refine ⟨u, List.mem_cons_self, ?_⟩
        split at h
        · next hp =>
          have hc : c = .paragraph := (by simpa using hp : depth = 1 ∧ _).2
          exact .inr ⟨h, .inr (hc ▸ hk)⟩
        · exact .inl h
      · exact hrest h
    · rcases List.mem_cons.1 h with h | h
      · exact ⟨u, List.mem_cons_self, .inl h⟩
      · exact hrest h

/-- Having plain headings is passed on from the parts of a block to the block. -/
theorem blockClosed_plainHeadings : BlockClosed fun ts => ∀ t ∈ ts, t.IsPlainHeading where
  nil := by simp
  append h₁ h₂ t ht := (List.mem_append.1 ht).elim (h₁ t) (h₂ t)
  leaf _ ha _ t ht := by rw [List.mem_singleton.1 ht]; exact fun _ => ha
  paragraph _ _ _ _ t ht := by
    simp only [textBlock, List.mem_cons, List.not_mem_nil, or_false] at ht
    rcases ht with rfl | rfl | rfl <;> exact fun _ => rfl
  heading _ _ _ _ _ _ _ t ht := by
    simp only [textBlock, List.mem_cons, List.not_mem_nil, or_false] at ht
    rcases ht with rfl | rfl | rfl <;> exact fun _ => rfl
  cell c _ _ _ hc _ t ht := by
    simp only [List.mem_cons, List.not_mem_nil, or_false] at ht
    rcases ht with rfl | rfl | rfl
    · rcases hc with rfl | rfl <;> exact nofun
    · exact nofun
    · exact nofun
  box c _ _ hc _ h t ht := by
    simp only [List.cons_append, List.mem_cons, List.mem_append, List.not_mem_nil, or_false] at ht
    rcases ht with rfl | ht | rfl
    · cases c <;> simp_all [Container.isBox, Token.IsPlainHeading, Token.headingLevel?]
    · exact h t ht
    · exact nofun
  hide h t ht := by
    obtain ⟨u, hu, rfl | ⟨rfl, -⟩⟩ := Scope.mem_hideParagraphs ht
    · exact h t hu
    · exact fun hl => h u hu hl

/-- A token whose running text is replaced opens the heading that it opened. -/
theorem Token.headingLevel?_mapChildren (f : Text → List Inline → List Inline) (t : Token) :
    (t.mapChildren f).headingLevel? = t.headingLevel? := by
  unfold Token.mapChildren
  split
  · next hk => simp [Token.headingLevel?, hk]
  · rfl

/-- Replacing children leaves attributes alone. -/
theorem Token.attrs_mapChildren (f : Text → List Inline → List Inline) (t : Token) :
    (t.mapChildren f).attrs = t.attrs := by
  unfold Token.mapChildren
  split <;> rfl

/-- Tasks are no headings: a heading that is left when tasks are marked was there before. -/
theorem mem_of_mem_markTasks {distance : Nat} {ts : List Token} {t : Token}
    (h : t ∈ markTasks distance ts) (hl : t.headingLevel?.isSome) : t ∈ ts := by
  induction ts generalizing distance with
  | nil => cases h
  | cons u rest ih =>
    simp only [markTasks] at h
    generalize hv : (if distance = 1 then u.withCheckbox else u) = v at h
    have hbox (hl : v.headingLevel?.isSome) : v = u := by
      split at hv
      · unfold Token.withCheckbox at hv
        split at hv
        · rw [← hv] at hl; cases hl
        · exact hv.symm
      · exact hv.symm
    split at h
    · next hlist =>
      rcases List.mem_cons.1 h with rfl | h
      · rw [hbox hl] at hl
        simp only [Bool.and_eq_true, Bool.or_eq_true, decide_eq_true_eq] at hlist
        rcases hlist.1 with hk | hk <;> simp [Token.headingLevel?, hk] at hl
      · exact List.mem_cons_of_mem _ (ih h)
    · split at h
      · next hs =>
        rcases List.mem_cons.1 h with rfl | h
        · unfold startsTask at hs
          split at hs
          · next heq =>
            cases heq
            simp only [Bool.and_eq_true, decide_eq_true_eq] at hs
            simp [Token.headingLevel?, hs.1.1] at hl
          · cases hs
        · exact List.mem_cons_of_mem _ (ih h)
      · rcases List.mem_cons.1 h with rfl | h
        · rw [hbox hl]; exact List.mem_cons_self
        · exact List.mem_cons_of_mem _ (ih h)

/-- Every heading of a parsed text comes from one that the block reader has read, with its level and
its attributes. -/
theorem exists_blockToken_of_mem_parse {t : Text} {tok : Token} (h : tok ∈ parse t)
    (hl : tok.headingLevel?.isSome) :
    ∃ u ∈ (blockTokens (normalizeSource t)).1,
      u.headingLevel? = tok.headingLevel? ∧ u.attrs = tok.attrs := by
  simp only [parse, List.mem_map] at h
  obtain ⟨u, hu, rfl⟩ := h
  rw [Token.headingLevel?_mapChildren] at hl
  have hu := mem_of_mem_markTasks hu hl
  simp only [List.mem_map] at hu
  obtain ⟨v, hv, rfl⟩ := hu
  exact ⟨v, hv, by simp only [Token.headingLevel?_mapChildren],
    by simp only [Token.attrs_mapChildren]⟩

/-- The headings of a parsed text have no attributes: their ids are all yet to be set. -/
theorem plainHeadings_parse (t : Text) : ∀ tok ∈ parse t, tok.IsPlainHeading := by
  intro tok htok hl
  obtain ⟨u, hu, hlevel, hattrs⟩ := exists_blockToken_of_mem_parse htok hl
  rw [← hattrs]
  exact blockTokens_closed blockClosed_plainHeadings _ u hu (hlevel ▸ hl)

/-! ## Blanks are no headings -/

/-- No digit is blank. -/
theorem isDigit_eq_false_of_isBlank {c : Char} (h : Text.isBlank c) : Text.isDigit c = false := by
  refine Bool.eq_false_iff.2 fun hd => ?_
  simp only [Text.isDigit, Bool.and_eq_true, decide_eq_true_eq, Char.le_def,
    UInt32.le_iff_toNat_le] at hd
  have hd : 48 ≤ c.toNat ∧ c.toNat ≤ 57 := hd
  unfold Text.isBlank at h
  rw [if_pos (by omega)] at h
  simp only [Bool.or_eq_true, Bool.and_eq_true, decide_eq_true_eq] at h
  rcases h with (rfl | h) | h
  · exact absurd hd (by decide)
  · omega
  · omega

/-- No line has a character that is not blank. -/
def Scope.IsBlank (s : Scope) : Prop := ∀ i, ∀ c ∈ (s.line i).chars, Text.isBlank c

namespace Scope

variable {s : Scope} (hs : s.IsBlank)
include hs

/-- Without its indentation, a blank line is blank. -/
theorem IsBlank.body (i : Nat) : ∀ c ∈ (s.line i).body, Text.isBlank c :=
  fun c hc => hs i c (List.mem_of_mem_drop hc)

/-- A character that is not blank does not begin a line. -/
theorem IsBlank.body_ne_cons {c : Char} (hc : Text.isBlank c = false) (i : Nat) (rest : Text) :
    (s.line i).body ≠ c :: rest := by
  intro h
  have := hs.body i c (by simp [h])
  rw [hc] at this
  cases this

/-- No table begins on a blank line. -/
theorem IsBlank.table? (i past : Nat) : s.table? i past = none := by
  have hrow : isDelimiterRow (s.line (i + 1)).body = false := by
    unfold isDelimiterRow
    split
    · next c d rest heq =>
      have hc : ∀ x, Text.isBlank x = false → c ≠ x := by
        rintro x hx rfl
        exact hs.body_ne_cons hx _ _ heq
      simp [hc '|' (by decide), hc '-' (by decide), hc ':' (by decide)]
    · rfl
  simp [Scope.table?, hrow]

/-- A blank line begins no quote. -/
theorem IsBlank.isQuote (i : Nat) : s.isQuote i = false := by
  unfold Scope.isQuote
  cases hb : (s.line i).body with
  | nil => simp
  | cons c rest =>
    have : c ≠ '>' := by
      rintro rfl
      exact hs.body_ne_cons (by decide) _ _ hb
    simp [this]

/-- A blank line begins no item. -/
theorem IsBlank.listItem? (inParagraph : Bool) (i : Nat) : s.listItem? inParagraph i = none := by
  have hmark : itemMark? (s.line i).body = none := by
    unfold itemMark?
    split
    · rfl
    · next c rest heq =>
      have hblank := hs.body i c (by simp [heq])
      have hc : ∀ x, Text.isBlank x = false → c ≠ x := by
        rintro x hx rfl
        rw [hx] at hblank
        cases hblank
      simp [isDigit_eq_false_of_isBlank hblank, hc '*' (by decide), hc '-' (by decide),
        hc '+' (by decide)]
  simp [Scope.listItem?, hmark]

/-- A blank line is no heading. -/
theorem IsBlank.heading? (i : Nat) : s.heading? i = none := by
  have hrun : ((s.line i).body.takeWhile (· = '#')).length = 0 := by
    cases hb : (s.line i).body with
    | nil => rfl
    | cons c rest =>
      have : c ≠ '#' := by
        rintro rfl
        exact hs.body_ne_cons (by decide) _ _ hb
      simp [this]
  simp [Scope.heading?, hrun]

/-- A blank line has no underline below it. -/
theorem IsBlank.underlined? (past fuel i : Nat) : s.underlined? past fuel i = none := by
  have hline (i : Nat) : underline? (s.line i).body = none := by
    unfold underline?
    split
    · rfl
    · next c rest heq =>
      have hc : ∀ x, Text.isBlank x = false → c ≠ x := by
        rintro x hx rfl
        exact hs.body_ne_cons hx _ _ heq
      simp [hc '=' (by decide), hc '-' (by decide)]
  refine Option.eq_none_iff_forall_ne_some.2 fun r hr => ?_
  have hunderline := (Scope.of_underlined? hr).2.2
  rw [hline] at hunderline
  cases hunderline

/-- No math begins on a blank line. -/
theorem IsBlank.math? (i past : Nat) : s.math? i past = none := by
  simp only [Scope.math?]
  split
  · rfl
  · split
    · next rest heq => exact absurd heq (hs.body_ne_cons (by decide) i _)
    · rfl

/-- A block of blank lines is neither a heading nor display math, and holds none. -/
theorem IsBlank.block (readQuote readItem : Reader) (i past : Nat) (refs : References) :
    ∀ t ∈ (s.block readQuote readItem i past refs).tokens,
      t.headingLevel? = none ∧ ∀ label, t.kind ≠ .math label := by
  obtain ⟨start, hbegins, hblock⟩ := s.exists_begins readQuote readItem i past refs
  rw [hblock]
  cases start with
  | table => exact absurd hbegins (by simp [Scope.Begins, hs.table?])
  | math => exact absurd hbegins (by simp [Scope.Begins, hs.math?])
  | quote => exact absurd hbegins (by simp [Scope.Begins, hs.isQuote])
  | list => exact absurd hbegins (by simp [Scope.Begins, hs.listItem?])
  | heading => exact absurd hbegins (by simp [Scope.Begins, hs.heading?])
  | underlined => exact absurd hbegins (by simp [Scope.Begins, hs.underlined?])
  | code | fence | rule | html | definition | paragraph =>
    simp [Scope.blockFrom, textBlock, Token.headingLevel?]

/-- Blank lines hold neither headings nor math. -/
theorem IsBlank.blocks (readQuote readItem : Reader) (past fuel : Nat) (hasGap tight : Bool)
    (i : Nat) (refs : References) :
    ∀ t ∈ (s.blocks readQuote readItem past fuel hasGap tight i refs).tokens,
      t.headingLevel? = none ∧ ∀ label, t.kind ≠ .math label := by
  induction fuel generalizing hasGap tight i refs with
  | zero => simp [Scope.blocks]
  | succ fuel ih =>
    have hb := hs.block readQuote readItem (s.skipEmpty (s.limit - i) i) past refs
    intro t ht
    simp only [Scope.blocks] at ht
    split at ht
    · cases ht
    · split at ht <;> split at ht
      · exact hb t ht
      · exact (List.mem_append.1 ht).elim (hb t) (ih _ _ _ _ t)
      · exact hb t ht
      · exact (List.mem_append.1 ht).elim (hb t) (ih _ _ _ _ t)

end Scope

/-- The pieces of a text that is split have its characters. -/
theorem mem_of_mem_splitAtChar {c d : Char} {t line : Text} (hl : line ∈ Text.splitAtChar c t)
    (hd : d ∈ line) : d ∈ t := by
  induction t generalizing line with
  | nil =>
    rw [Text.splitAtChar, List.mem_singleton] at hl
    exact hl ▸ hd
  | cons e rest ih =>
    simp only [Text.splitAtChar] at hl
    split at hl
    · rcases List.mem_cons.1 hl with rfl | hl
      · cases hd
      · exact List.mem_cons_of_mem _ (ih hl hd)
    · split at hl
      · next heq => exact absurd heq (Text.splitAtChar_ne_nil c rest)
      · next first more heq =>
        rcases List.mem_cons.1 hl with rfl | hl
        · rcases List.mem_cons.1 hd with rfl | hd
          · exact List.mem_cons_self
          · exact List.mem_cons_of_mem _ (ih (heq ▸ List.mem_cons_self) hd)
        · exact List.mem_cons_of_mem _ (ih (heq ▸ List.mem_cons_of_mem _ hl) hd)

/-- The characters of a document's lines are characters of the document. -/
theorem mem_of_mem_ofSource {t : Text} {l : Line} {c : Char} (hl : l ∈ Line.ofSource t)
    (hc : c ∈ l.chars) : c ∈ t := by
  have hline (ls : List Text) (hl : l ∈ Line.ofLines ls) : ∃ line ∈ ls, l.chars = line := by
    induction ls using Line.ofLines.induct with
    | case1 => cases hl
    | case2 line h => simp [Line.ofLines, h] at hl
    | case3 line h =>
      rw [Line.ofLines, if_neg h, List.mem_singleton] at hl
      exact ⟨line, by simp, by rw [hl]; rfl⟩
    | case4 line more h ih =>
      rw [Line.ofLines, List.mem_cons] at hl
      · rcases hl with rfl | hl
        · exact ⟨line, by simp, rfl⟩
        · obtain ⟨line', hmem, h⟩ := ih hl
          exact ⟨line', List.mem_cons_of_mem _ hmem, h⟩
      · exact h
  obtain ⟨line, hmem, h⟩ := hline _ hl
  exact mem_of_mem_splitAtChar hmem (h ▸ hc)

/-- Making line ends uniform brings in nothing but newlines. -/
theorem mem_uniformNewlinesAfter {after : Bool} {t : Text} {c : Char}
    (h : c ∈ Text.uniformNewlinesAfter after t) : c = '\n' ∨ c ∈ t := by
  induction t generalizing after with
  | nil => cases h
  | cons d rest ih =>
    simp only [Text.uniformNewlinesAfter] at h
    split at h
    · rcases List.mem_cons.1 h with rfl | h
      · exact .inl rfl
      · exact (ih h).imp_right (List.mem_cons_of_mem _)
    · split at h
      · exact (ih h).imp_right (List.mem_cons_of_mem _)
      · rcases List.mem_cons.1 h with rfl | h
        · exact .inr List.mem_cons_self
        · exact (ih h).imp_right (List.mem_cons_of_mem _)

/-- A character of the text that the parser reads is a newline or was there before, if there was no
null character to be replaced. -/
theorem mem_normalizeSource {t : Text} {c : Char} (h0 : '\x00' ∉ t) (h : c ∈ normalizeSource t) :
    c = '\n' ∨ c ∈ t := by
  simp only [normalizeSource, List.mem_map] at h
  obtain ⟨d, hd, rfl⟩ := h
  have hd := mem_uniformNewlinesAfter hd
  split
  · next hnull =>
    have : d = '\x00' := Char.toNat_inj.1 hnull
    subst this
    exact absurd (hd.resolve_left (by decide)) h0
  · exact hd

/-- In a text of blanks the block reader finds neither headings nor display math. -/
theorem blockTokens_of_allBlank {t : Text} (h : Text.allBlank t) :
    ∀ tok ∈ (blockTokens (normalizeSource t)).1,
      tok.headingLevel? = none ∧ ∀ label, tok.kind ≠ .math label := by
  have hblank : ∀ c ∈ t, Text.isBlank c := List.all_eq_true.1 h
  have hlines : Scope.IsBlank
      { lines := (Line.ofSource (normalizeSource t)).toArray
        limit := (Line.ofSource (normalizeSource t)).toArray.size } := by
    intro i c hc
    simp only [Scope.line, Array.getD_eq_getD_getElem?, List.getElem?_toArray] at hc
    cases hget : (Line.ofSource (normalizeSource t))[i]? with
    | none => rw [hget] at hc; cases hc
    | some l =>
      rw [hget] at hc
      have h0 : '\x00' ∉ t := fun hmem => absurd (hblank _ hmem) (by decide)
      rcases mem_normalizeSource h0 (mem_of_mem_ofSource (List.mem_of_getElem? hget) hc) with
        rfl | hc
      · rfl
      · exact hblank c hc
  exact hlines.blocks (Scope.reader 19) (Scope.reader 18) _ _ false true 0 []

/-- A text of blanks has no headings. -/
theorem headingLevel?_parse_of_allBlank {t : Text} (h : Text.allBlank t) :
    ∀ tok ∈ parse t, tok.headingLevel? = none := by
  intro tok htok
  cases hl : tok.headingLevel? with
  | none => rfl
  | some level =>
    obtain ⟨u, hu, hlevel, -⟩ := exists_blockToken_of_mem_parse htok (by rw [hl]; rfl)
    rw [hl, (blockTokens_of_allBlank h u hu).1] at hlevel
    cases hlevel

end LiveMarkdown.Markdown
