import LiveMarkdown.Proofs.Diagram.Marks
import Mathlib.Data.List.Chain
import Mathlib.Data.List.Infix

/-!
# The text of edges

An edge has its text between bars: `-->|yes|`. The exception that is made for it looks at labels only:
one in round brackets is left alone if there is a bar in it. The bars of an edge stand around its text,
so where this text has a node in it the node's label is marked (`node_in_edge_text`).

The marks cut a line into parts (`unmarkedParts`), and what has no quotes is found in the marked line
exactly if it is found in one of these parts (`infix_wrapAll_iff`). Marks stand right after a name with
an opening bracket, or right before a closing bracket (`Shape.Surrounds`). So nothing is cut apart that
has no bracket after a word and closes no bracket but its own (`IsAside`): then the text of an edge is
kept wherever the edge stands (`edge_kept_iff`).
-/

namespace LiveMarkdown.Diagram

open Text (isWord)

/-! ## Where a part of a text lies -/

/-- A part of two texts that follow each other lies in one of them, or it has its beginning in the first
and its end in the second. -/
theorem infix_append_cases {e a b : Text} (h : e <:+: a ++ b) :
    e <:+: a ∨ e <:+: b ∨
      ∃ x y, e = x ++ y ∧ x ≠ [] ∧ y ≠ [] ∧ x <:+ a ∧ y <+: b := by
  obtain ⟨before, after, h⟩ := h
  rcases List.append_eq_append_iff.1 h with ⟨rest, ha, -⟩ | ⟨y, hy, hb⟩
  · exact .inl ⟨before, rest, ha.symm⟩
  · rcases List.append_eq_append_iff.1 hy with ⟨x, ha, he⟩ | ⟨between, -, hy⟩
    · by_cases hx : x = []
      · have hpre : e <+: b := ⟨after, by rw [he, hx, List.nil_append, hb]⟩
        exact .inr (.inl hpre.isInfix)
      · by_cases hyne : y = []
        · have hsuf : e <:+ a := ⟨before, by rw [he, hyne, List.append_nil, ha]⟩
          exact .inl hsuf.isInfix
        · exact .inr (.inr ⟨x, y, he, hx, hyne, ⟨before, ha.symm⟩, ⟨after, hb.symm⟩⟩)
    · exact .inr (.inl ⟨between, after, by rw [hb, hy]⟩)

/-- What a text does not have cuts it apart. -/
theorem infix_append_cons_iff {e : Text} {q : Char} (hq : q ∉ e) (a b : Text) :
    e <:+: a ++ q :: b ↔ e <:+: a ∨ e <:+: b := by
  constructor
  · intro h
    rcases infix_append_cases h with ha | hb | ⟨x, y, rfl, -, hy, -, hpre⟩
    · exact .inl ha
    · rcases List.infix_cons_iff.1 hb with hpre | hb
      · rcases List.prefix_cons_iff.1 hpre with rfl | ⟨more, rfl, -⟩
        · exact .inl (List.nil_infix)
        · exact absurd List.mem_cons_self hq
      · exact .inr hb
    · rcases List.prefix_cons_iff.1 hpre with rfl | ⟨more, rfl, -⟩
      · exact absurd rfl hy
      · exact absurd (List.mem_append_right _ List.mem_cons_self) hq
  · rintro (ha | hb)
    · exact ha.trans (List.prefix_append ..).isInfix
    · exact hb.trans ((List.suffix_cons ..).trans (List.suffix_append ..)).isInfix

/-- A text without quotes lies on one side of a mark. -/
theorem infix_append_mark_iff {e : Text} (he : IsUnquoted e) (m : Mark) (a b : Text) :
    e <:+: a ++ (m.text ++ b) ↔ e <:+: a ∨ e <:+: b := by
  have hquote {q : Char} (hq : IsQuote q) : q ∉ e := fun hmem => he q hmem hq
  have hmark {q q' : Char} (hq : IsQuote q) (hq' : IsQuote q') :
      e <:+: a ++ q :: ([] ++ q' :: b) ↔ e <:+: a ∨ e <:+: b := by
    rw [infix_append_cons_iff (hquote hq), infix_append_cons_iff (hquote hq')]
    refine ⟨?_, fun h => h.imp_right .inr⟩
    rintro (ha | hnil | hb)
    · exact .inl ha
    · exact .inl (hnil.trans List.nil_infix)
    · exact .inr hb
  cases m with
  | opening => exact hmark (.inl rfl) (.inr rfl)
  | closing => exact hmark (.inr rfl) (.inl rfl)

/-! ## Parts between marks -/

/-- The labels among the pieces, and the texts between them; `front` is what comes before the pieces. -/
def partsFrom : (front : Text) → List Piece → List Text
  | front, [] => [front]
  | front, .text t :: ps => partsFrom (front ++ t) ps
  | front, .label label :: ps => front :: label :: partsFrom [] ps

/-- The parts of a line between the marks that several shapes, one after the other, put into it. -/
def unmarkedParts (icons : List Text) : List Shape → Text → List Text
  | [], line => [line]
  | s :: later, line => (partsFrom [] (s.pieces icons 0 false line)).flatMap (unmarkedParts icons later)

/-- The parts between labels are put together to the line they are from. -/
theorem flatten_partsFrom (front : Text) (ps : List Piece) :
    (partsFrom front ps).flatten = front ++ ps.flatMap Piece.source := by
  induction ps generalizing front with
  | nil => simp [partsFrom]
  | cons p ps ih => cases p <;> simp [partsFrom, ih, Piece.source]

/-- The parts of a line are the line. -/
theorem flatten_unmarkedParts (icons : List Text) (ss : List Shape) (line : Text) :
    (unmarkedParts icons ss line).flatten = line := by
  induction ss generalizing line with
  | nil => exact List.append_nil line
  | cons s later ih =>
    have hparts (parts : List Text) : (parts.flatMap (unmarkedParts icons later)).flatten = parts.flatten := by
      induction parts with
      | nil => rfl
      | cons part more ihparts =>
        rw [List.flatMap_cons, List.flatten_append, List.flatten_cons, ih, ihparts]
    rw [unmarkedParts, hparts, flatten_partsFrom, Shape.source_pieces]
    rfl

section

variable {icons : List Text} {later : List Shape} (hlater : ∀ s ∈ later, s.IsPlain) {e : Text}
  (he : IsUnquoted e)
include hlater he

/-- What the later shapes make of the pieces of a line, one part after the other. -/
theorem infix_wrapAll_pieces_iff
    (ih : ∀ line, e <:+: wrapAll icons later line ↔ ∃ part ∈ unmarkedParts icons later line, e <:+: part)
    (front : Text) (ps : List Piece) :
    e <:+: wrapAll icons later (front ++ ps.flatMap Piece.written) ↔
      ∃ part ∈ (partsFrom front ps).flatMap (unmarkedParts icons later), e <:+: part := by
  induction ps generalizing front with
  | nil => simpa [partsFrom] using ih front
  | cons p ps ihps =>
    cases p with
    | text t => simpa [partsFrom, Piece.written] using ihps (front ++ t)
    | label label =>
      have hwritten : front ++ (Piece.label label :: ps).flatMap Piece.written =
          front ++ (Mark.opening.text ++ (label ++ (Mark.closing.text ++ ps.flatMap Piece.written))) := by
        simp [Piece.written, Mark.text]
      have hrest := ihps []
      rw [List.nil_append] at hrest
      rw [hwritten, wrapAll_append_mark hlater, wrapAll_append_mark hlater, infix_append_mark_iff he,
        infix_append_mark_iff he, ih, ih, hrest, partsFrom, List.flatMap_cons, List.flatMap_cons]
      simp only [List.mem_append, or_and_right, exists_or]

end

/-- What has no quotes is in the marked line exactly if it is in one of the parts. -/
theorem infix_wrapAll_iff {icons : List Text} {ss : List Shape} (hss : ∀ s ∈ ss, s.IsPlain) {e : Text}
    (he : IsUnquoted e) (line : Text) :
    e <:+: wrapAll icons ss line ↔ ∃ part ∈ unmarkedParts icons ss line, e <:+: part := by
  induction ss generalizing line with
  | nil => simp [wrapAll, unmarkedParts]
  | cons s later ih =>
    obtain ⟨-, hlater⟩ := List.forall_mem_cons.1 hss
    have hpieces := infix_wrapAll_pieces_iff hlater he (ih hlater) [] (s.pieces icons 0 false line)
    rwa [List.nil_append, ← Shape.wrapFrom_eq] at hpieces

/-! ## What stands around a label -/

/-- The opening and closing brackets that nodes are written with. -/
def bracketPairs : List (Char × Char) := [('(', ')'), ('[', ']'), ('\x7b', '\x7d')]

/-- The shape has brackets around its labels, and a label has none of the kind that ends it. -/
structure Shape.IsBracketed (s : Shape) : Prop where
  ne_nil : s.opening ≠ []
  opening : ∀ c ∈ s.opening, ∃ p ∈ bracketPairs, c = p.1
  closing : ∃ p ∈ bracketPairs, s.closing.head? = some p.2 ∧ p.1 ∈ s.brackets

/-- All shapes have brackets that are no characters of words. -/
theorem isBracketed_of_mem_shapes : ∀ s ∈ shapes, s.IsBracketed := by
  have h : ∀ s ∈ shapes, s.opening ≠ [] ∧ (∀ c ∈ s.opening, ∃ p ∈ bracketPairs, c = p.1) ∧
      ∃ p ∈ bracketPairs, s.closing.head? = some p.2 ∧ p.1 ∈ s.brackets := by simp [shapes, bracketPairs]
  exact fun s hs => ⟨(h s hs).1, (h s hs).2.1, (h s hs).2.2⟩

/-- Each label among the pieces stands between a word with an opening bracket and a closing bracket;
`front` is what comes before the pieces. -/
inductive Shape.Surrounds (s : Shape) : (front : Text) → List Piece → Prop
  | nil {front : Text} : s.Surrounds front []
  | text {front t : Text} {ps : List Piece} :
    s.Surrounds (front ++ t) ps → s.Surrounds front (.text t :: ps)
  | label {before label : Text} {w : Char} {ps : List Piece} :
    isWord w → (∀ c ∈ label, s.isLabelChar c) → s.Surrounds [] (.text s.closing :: ps) →
    s.Surrounds (before ++ w :: s.opening) (.label label :: .text s.closing :: ps)

/-- The name of a node is the word at the front. -/
theorem Shape.name_of_node? {s : Shape} {t name label : Text} (h : s.node? t = some (name, label)) :
    name = t.takeWhile isWord := by
  unfold Shape.node? at h
  dsimp only at h
  split at h
  · cases h
  · split at h
    · cases h
    · split at h
      · cases h
      · exact (Prod.mk.inj (Option.some.inj h)).1.symm

/-- Every label of a line stands between the brackets of its shape. -/
theorem Shape.surrounds_pieces (s : Shape) (icons : List Text) (skip : Nat) (afterWord : Bool)
    (t front : Text) : s.Surrounds front (s.pieces icons skip afterWord t) := by
  induction skip, afterWord, t using Shape.pieces.induct s generalizing front with
  | case1 skip afterWord => rw [pieces]; exact .nil
  | case2 afterWord skip c rest ih => rw [pieces]; exact ih front
  | case3 afterWord c rest hnode ih =>
    rw [pieces, hnode]
    exact .text (ih _)
  | case4 afterWord c rest name label hnode length ih =>
    rw [pieces, hnode]
    dsimp only
    split
    · exact .text (ih _)
    · have hboth : isWord c ∧ s.node? (c :: rest) = some (name, label) := by
        split at hnode
        · next hbegin => exact ⟨(Bool.and_eq_true_iff.1 hbegin).1, hnode⟩
        · cases hnode
      obtain ⟨hword, hnode⟩ := hboth
      have hname := name_of_node? hnode
      obtain ⟨before, w, hlast⟩ : ∃ before w, name = before ++ [w] := by
        rcases List.eq_nil_or_concat' name with hnil | h
        · rw [List.takeWhile_cons_of_pos hword, hnil] at hname
          cases hname
        · exact h
      have hw : isWord w := by
        have hmem : w ∈ (c :: rest).takeWhile isWord := by
          rw [← hname, hlast]
          exact List.mem_append_right _ List.mem_cons_self
        exact List.mem_takeWhile_imp hmem
      have hfront : front ++ (name ++ s.opening) = front ++ before ++ w :: s.opening := by
        rw [hlast, List.append_assoc, List.append_assoc, List.singleton_append]
      refine .text ?_
      rw [hfront]
      exact .label hw (of_node? hnode).2.1 (.text (ih _))

/-! ## Text that is not cut apart -/

/-- Brackets in the text are asides: none is opened right after a word, and none is closed before one of
its kind has been opened. -/
structure IsAside (t : Text) : Prop where
  apart : t.IsChain fun c d => isWord c → ∀ p ∈ bracketPairs, d ≠ p.1
  closed : ∀ p ∈ bracketPairs, p.2 ∉ t.takeWhile (· ≠ p.1)

instance (t : Text) : Decidable (IsAside t) :=
  decidable_of_iff ((t.IsChain fun c d => isWord c → ∀ p ∈ bracketPairs, d ≠ p.1) ∧
    ∀ p ∈ bracketPairs, p.2 ∉ t.takeWhile (· ≠ p.1)) ⟨fun h => ⟨h.1, h.2⟩, fun h => ⟨h.1, h.2⟩⟩

section

variable {s : Shape} (hs : s.IsBracketed) {e : Text} (he : IsAside e)
  (hhead : ∀ p ∈ bracketPairs, e.head? ≠ some p.1)
include hs he

include hhead in
/-- It does not begin before a label and go on in it: there is an opening bracket between, and before
that a word. -/
theorem not_straddles_opening {before x y : Text} {w : Char} (hw : isWord w) (hxy : e = x ++ y)
    (hx : x ≠ []) (hends : x <:+ before ++ w :: s.opening) : False := by
  obtain ⟨o, more, hopening⟩ := List.exists_cons_of_ne_nil hs.ne_nil
  have hopened : s.opening <:+ before ++ w :: s.opening :=
    (List.suffix_cons ..).trans (List.suffix_append ..)
  by_cases hlength : x.length ≤ s.opening.length
  · obtain ⟨c, rest, hcons⟩ := List.exists_cons_of_ne_nil hx
    have hc : c ∈ s.opening :=
      (List.suffix_of_suffix_length_le hends hopened hlength).subset (hcons ▸ List.mem_cons_self)
    obtain ⟨p, hp, hcp⟩ := hs.opening c hc
    exact hhead p hp (by rw [hxy, hcons, hcp]; rfl)
  · have hlong : w :: s.opening <:+ x :=
      List.suffix_of_suffix_length_le (List.suffix_append ..) hends (by
        rw [List.length_cons]
        omega)
    have hpair : [w, o] <:+: e := by
      obtain ⟨first, hfirst⟩ := hlong
      exact ⟨first, more ++ y, by rw [hxy, ← hfirst, hopening]; simp⟩
    obtain ⟨p, hp, hop⟩ := hs.opening o (hopening ▸ List.mem_cons_self)
    have hchain := he.apart.infix hpair
    exact List.isChain_pair.1 hchain hw p hp hop

/-- It does not begin in a label and go on after it: there is a closing bracket between, and the label
does not have an opening one of its kind. -/
theorem not_straddles_closing {label more x y : Text} (hlabel : ∀ c ∈ label, s.isLabelChar c)
    (hxy : e = x ++ y) (hy : y ≠ []) (hends : x <:+ label) (hstarts : y <+: s.closing ++ more) :
    False := by
  obtain ⟨p, hp, hclosing, hbracket⟩ := hs.closing
  obtain ⟨rest, hrest⟩ : ∃ rest, y = p.2 :: rest := by
    obtain ⟨c, rest, rfl⟩ := List.exists_cons_of_ne_nil hy
    obtain ⟨tail, htail⟩ := List.head?_eq_some_iff.1 hclosing
    rw [htail, List.cons_append, List.cons_prefix_cons] at hstarts
    exact ⟨rest, by rw [hstarts.1]⟩
  have hbefore : ∀ c ∈ x, (decide (c ≠ p.1)) = true := by
    intro c hc
    have hchar := hlabel c (hends.subset hc)
    refine decide_eq_true fun hcp => ?_
    simp [Shape.isLabelChar, hcp, hbracket] at hchar
  have hne : p.2 ≠ p.1 := by
    have hall : ∀ p ∈ bracketPairs, p.2 ≠ p.1 := by decide
    exact hall p hp
  refine he.closed p hp ?_
  rw [hxy, List.takeWhile_append_of_pos hbefore, hrest, List.takeWhile_cons, if_pos (decide_eq_true hne)]
  exact List.mem_append_right _ List.mem_cons_self

include hhead

/-- It lies in one part between the labels of a shape. -/
theorem exists_part {front : Text} {ps : List Piece} (h : s.Surrounds front ps)
    (hin : e <:+: front ++ ps.flatMap Piece.source) : ∃ part ∈ partsFrom front ps, e <:+: part := by
  induction h with
  | @nil front =>
    rw [List.flatMap_nil, List.append_nil] at hin
    exact ⟨front, List.mem_cons_self, hin⟩
  | text _ ih =>
    rw [List.flatMap_cons, ← List.append_assoc] at hin
    exact ih hin
  | @label before label w ps hw hlabel _ ih =>
    rw [List.flatMap_cons, Piece.source] at hin
    rcases infix_append_cases hin with hfront | hrest | ⟨x, y, hxy, hx, -, hends, -⟩
    · exact ⟨_, List.mem_cons_self, hfront⟩
    · rcases infix_append_cases hrest with hinside | hmore | ⟨x, y, hxy, -, hy, hends, hstarts⟩
      · exact ⟨label, List.mem_cons_of_mem _ List.mem_cons_self, hinside⟩
      · obtain ⟨part, hpart, hin⟩ := ih hmore
        exact ⟨part, List.mem_cons_of_mem _ (List.mem_cons_of_mem _ hpart), hin⟩
      · exact (not_straddles_closing hs he hlabel hxy hy hends hstarts).elim
    · exact (not_straddles_opening hs he hhead hw hxy hx hends).elim

end

/-- It lies in one part between the marks of all shapes. -/
theorem exists_unmarkedPart (icons : List Text) {ss : List Shape} (hss : ∀ s ∈ ss, s.IsBracketed)
    {e : Text} (he : IsAside e) (hhead : ∀ p ∈ bracketPairs, e.head? ≠ some p.1) {line : Text}
    (h : e <:+: line) : ∃ part ∈ unmarkedParts icons ss line, e <:+: part := by
  induction ss generalizing line with
  | nil => exact ⟨line, List.mem_cons_self, h⟩
  | cons s later ih =>
    obtain ⟨hs, hlater⟩ := List.forall_mem_cons.1 hss
    have hpieces : e <:+: [] ++ (s.pieces icons 0 false line).flatMap Piece.source := by
      rwa [List.nil_append, Shape.source_pieces]
    obtain ⟨part, hpart, hin⟩ := exists_part hs he hhead (s.surrounds_pieces icons 0 false line []) hpieces
    obtain ⟨small, hsmall, hin⟩ := ih hlater hin
    exact ⟨small, List.mem_flatMap.2 ⟨part, hpart, hsmall⟩, hin⟩

/-! ## Edges -/

/-- An edge with a text. -/
def edge (t : Text) : Text := ['-', '-', '>', '|'] ++ t ++ ['|']

/-- What lies in a run at the front lies in the part of the run that is in the first text, or in the
second text. -/
theorem mem_takeWhile_append {f : Char → Bool} {c : Char} {a b : Text}
    (h : c ∈ (a ++ b).takeWhile f) : c ∈ a.takeWhile f ∨ c ∈ b := by
  rw [List.takeWhile_append] at h
  split at h
  · next hall =>
    rw [(List.takeWhile_prefix f).eq_of_length hall]
    exact (List.mem_append.1 h).imp_right fun hb => (List.takeWhile_prefix f).subset hb
  · exact .inl h

/-- The text of an edge stands aside, if its label does. -/
theorem isAside_edge {t : Text} (h : IsAside t) : IsAside (edge t) where
  apart := by
    have hword : isWord '|' = false := by decide +kernel
    have hbar : ∀ p ∈ bracketPairs, '|' ≠ p.1 := by decide
    have hfirst : (['-', '-', '>', '|'] : Text).IsChain
        fun c d => isWord c → ∀ p ∈ bracketPairs, d ≠ p.1 := by decide
    refine List.isChain_append.2 ⟨List.isChain_append.2 ⟨hfirst, h.apart, fun c hc d _ hc' => ?_⟩,
      .singleton _, fun c _ d hd _ => ?_⟩
    · obtain rfl : '|' = c := Option.some.inj hc
      rw [hword] at hc'
      cases hc'
    · obtain rfl : '|' = d := Option.some.inj hd
      exact hbar
  closed p hp hmem := by
    have hfacts : ∀ p ∈ bracketPairs, (∀ c ∈ (['-', '-', '>', '|'] : Text), decide (c ≠ p.1) = true) ∧
        p.2 ∉ (['-', '-', '>', '|'] : Text) ∧ p.2 ∉ (['|'] : Text) := by simp [bracketPairs]
    obtain ⟨hfirst, hdashes, hbar⟩ := hfacts p hp
    rw [edge, List.append_assoc, List.takeWhile_append_of_pos hfirst] at hmem
    rcases List.mem_append.1 hmem with hmem | hmem
    · exact hdashes hmem
    · exact (mem_takeWhile_append hmem).elim (h.closed p hp) hbar

/-- The text of an edge is kept exactly if the edge lies in one of the parts between the marks, that is,
if no label that is marked begins or ends in it. So it is wherever the edge stands, if the brackets in
the text are asides. -/
theorem edge_kept_iff (icons : List Text) {line t : Text} (hline : IsUnquoted line)
    (hedge : edge t <:+: line) :
    (unmarkedParts icons shapes line).flatten = line ∧
      (edge t <:+: wrapLine icons line ↔ ∃ part ∈ unmarkedParts icons shapes line, edge t <:+: part) ∧
      (IsAside t → edge t <:+: wrapLine icons line) := by
  have hunquoted : IsUnquoted (edge t) := fun c hc => hline c (hedge.subset hc)
  have hiff : edge t <:+: wrapLine icons line ↔ ∃ part ∈ unmarkedParts icons shapes line, edge t <:+: part :=
    infix_wrapAll_iff isPlain_of_mem_shapes hunquoted line
  refine ⟨flatten_unmarkedParts icons shapes line, hiff, fun haside => hiff.2 ?_⟩
  have hhead : ∀ p ∈ bracketPairs, (edge t).head? ≠ some p.1 := by
    have hdash : ∀ p ∈ bracketPairs, some '-' ≠ some p.1 := by decide
    exact hdash
  exact exists_unmarkedPart icons isBracketed_of_mem_shapes (isAside_edge haside) hhead hedge

/-- An edge with an aside in round brackets, and a node after it. -/
theorem edge_kept_iff_aside :
    IsUnquoted "A -->|yes (see [1])| B(Go)".toList ∧
      edge "yes (see [1])".toList <:+: "A -->|yes (see [1])| B(Go)".toList ∧
      edge "yes (see [1])".toList <:+: wrapLine ["fa:".toList] "A -->|yes (see [1])| B(Go)".toList :=
  ⟨by decide, by decide, (edge_kept_iff _ (by decide) (by decide)).2.2 (by decide +kernel)⟩

/-- The text of an edge that reads like a node with its label in round brackets: there is a bar on
either side of it, but none in the label, and so the label is marked. -/
theorem node_in_edge_text :
    IsUnquoted "A -->|f(x)| B".toList ∧ edge "f(x)".toList <:+: "A -->|f(x)| B".toList ∧
      wrapLine ["fa:".toList] "A -->|f(x)| B".toList = "A -->|f(\"\x60x\x60\")| B".toList ∧
      ¬edge "f(x)".toList <:+: wrapLine ["fa:".toList] "A -->|f(x)| B".toList := by
  have hwritten : wrapLine ["fa:".toList] "A -->|f(x)| B".toList =
      "A -->|f(\"\x60x\x60\")| B".toList := by decide +kernel
  refine ⟨by decide, by decide, hwritten, ?_⟩
  rw [hwritten]
  decide

end LiveMarkdown.Diagram
