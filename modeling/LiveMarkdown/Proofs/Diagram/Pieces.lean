import LiveMarkdown.Diagram.Labels
import Mathlib.Data.List.Basic
import Mathlib.Data.List.TakeWhile

/-!
# A line of a diagram in parts

To mark the labels of one shape is to cut the line into `pieces`: labels, and the text around them.
The pieces together are the line (`source_pieces`), and with marks around the labels they are what is
written (`wrapFrom_eq`).

No node has a quote in it, neither the double quote nor the grave accent that marks are made of. So
what comes before a quote and what comes after it are cut apart on their own (`pieces_append_quote`),
and all that the shapes do to a line with marks in it they do between the marks
(`wrapAll_append_quote`).
-/

namespace LiveMarkdown.Diagram

open Text (grave isWord)

/-! ## Quotes -/

/-- The characters that marks are made of. -/
def IsQuote (c : Char) : Prop := c = '"' ∨ c = grave

instance (c : Char) : Decidable (IsQuote c) := inferInstanceAs (Decidable (_ ∨ _))

/-- The text has no quotes. -/
def IsUnquoted (t : Text) : Prop := ∀ c ∈ t, ¬IsQuote c

instance (t : Text) : Decidable (IsUnquoted t) := List.decidableBAll _ t

/-- The empty text has no quotes. -/
theorem isUnquoted_nil : IsUnquoted [] := List.forall_mem_nil _

/-- A quote is no character of a word. -/
theorem isWord_of_isQuote {c : Char} (h : IsQuote c) : isWord c = false := by
  rcases h with rfl | rfl
  · decide +kernel
  · decide +kernel

/-- The brackets of the shape are no quotes. -/
structure Shape.IsPlain (s : Shape) : Prop where
  opening : IsUnquoted s.opening
  closing : IsUnquoted s.closing
  notBefore : ∀ c ∈ s.notBefore, ¬IsQuote c

/-- The brackets of all shapes are no quotes. -/
theorem isPlain_of_mem_shapes : ∀ s ∈ shapes, s.IsPlain := by
  have h : ∀ s ∈ shapes, IsUnquoted s.opening ∧ IsUnquoted s.closing ∧
      IsUnquoted s.notBefore.toList := by decide
  exact fun s hs => ⟨(h s hs).1, (h s hs).2.1, fun c hc => (h s hs).2.2 c (Option.mem_toList.2 hc)⟩

/-! ## Pieces -/

/-- A part of a line: text that stays as it is, or a label that is marked. -/
inductive Piece where
  | text (t : Text)
  | label (t : Text)

/-- The part of the line. -/
def Piece.source : Piece → Text
  | text t => t
  | label t => t

/-- What is written for it. -/
def Piece.written : Piece → Text
  | text t => t
  | label t => openMark ++ (t ++ closeMark)

/-- The label, if it is one. -/
def Piece.label? : Piece → Option Text
  | text _ => none
  | label t => some t

namespace Shape

variable {s : Shape} {icons : List Text}

/-- The pieces that the text is cut into. The first `skip` characters belong to what comes before;
`afterWord` tells whether the character before the text is one of a word. -/
def pieces (s : Shape) (icons : List Text) : (skip : Nat) → (afterWord : Bool) → Text → List Piece
  | _, _, [] => []
  | skip + 1, _, c :: rest => s.pieces icons skip (isWord c) rest
  | 0, afterWord, c :: rest =>
    match (if isWord c && !afterWord then s.node? (c :: rest) else none) with
    | none => .text [c] :: s.pieces icons 0 (isWord c) rest
    | some (name, label) =>
      let length := name.length + s.opening.length + label.length + s.closing.length
      (if s.keeps icons label then [.text (name ++ s.opening ++ label ++ s.closing)]
        else [.text (name ++ s.opening), .label label, .text s.closing]) ++
        s.pieces icons (length - 1) (isWord c) rest

/-- A node is a name and, in brackets, a label that is not empty. -/
theorem of_node? {t name label : Text} (h : s.node? t = some (name, label)) :
    label ≠ [] ∧ (∀ c ∈ label, s.isLabelChar c) ∧
      ∃ rest, t = name ++ s.opening ++ label ++ s.closing ++ rest := by
  unfold node? at h
  dsimp only at h
  split at h
  · cases h
  · next hopening =>
    split at h
    · cases h
    · next hclosing =>
      split at h
      · cases h
      · cases h
        simp only [Bool.not_eq_true', Bool.not_eq_false, Bool.or_eq_true, not_or, Bool.not_eq_true,
          List.isEmpty_eq_false_iff, List.isPrefixOf_iff_prefix] at hopening hclosing
        obtain ⟨hlabel, hclosing⟩ := hclosing
        obtain ⟨rest, hrest⟩ := hclosing
        refine ⟨hlabel, fun c hc => List.mem_takeWhile_imp hc, rest, ?_⟩
        rw [List.append_assoc, List.append_assoc, List.append_assoc, hrest,
          List.prefix_iff_eq_append.1 (List.takeWhile_prefix _),
          List.prefix_iff_eq_append.1 hopening, List.prefix_iff_eq_append.1 (List.takeWhile_prefix _)]

/-! ## Nodes and quotes -/

/-- A quote stands in no label. -/
theorem isLabelChar_of_isQuote {c : Char} (h : IsQuote c) : s.isLabelChar c = false := by
  rcases h with rfl | rfl <;> simp [isLabelChar]

/-- What begins a text without quotes lies before the first quote. -/
theorem isPrefixOf_append_quote {p : Text} (hp : IsUnquoted p) {q : Char} (hq : IsQuote q)
    (a b : Text) : p.isPrefixOf (a ++ q :: b) = p.isPrefixOf a := by
  induction p generalizing a with
  | nil => simp
  | cons c p ih =>
    obtain ⟨hc, hp⟩ := List.forall_mem_cons.1 hp
    cases a with
    | nil =>
      have hne : c ≠ q := fun h => hc (h ▸ hq)
      simp [List.isPrefixOf, hne]
    | cons d a => simp [List.isPrefixOf, ih hp]

/-- A run of characters that are no quotes ends before the first quote. -/
theorem takeWhile_append_quote {p : Char → Bool} {q : Char} (hq : p q = false) (a b : Text) :
    (a ++ q :: b).takeWhile p = a.takeWhile p := by
  induction a with
  | nil => rw [List.nil_append, List.takeWhile_cons, hq, List.takeWhile_nil, if_neg Bool.false_ne_true]
  | cons c a ih => rw [List.cons_append, List.takeWhile_cons, List.takeWhile_cons, ih]

/-- What comes from a quote on has no part in a node before it. -/
theorem node?_append_quote (hs : s.IsPlain) {q : Char} (hq : IsQuote q) (a b : Text) :
    s.node? (a ++ q :: b) = s.node? a := by
  unfold node?
  dsimp only
  rw [takeWhile_append_quote (isWord_of_isQuote hq),
    List.drop_append_of_le_length (List.takeWhile_prefix _).length_le,
    isPrefixOf_append_quote hs.opening hq]
  split
  · rfl
  · next hopening =>
    simp only [Bool.not_eq_true', Bool.not_eq_false, List.isPrefixOf_iff_prefix] at hopening
    rw [List.drop_append_of_le_length hopening.length_le,
      takeWhile_append_quote (isLabelChar_of_isQuote hq),
      List.drop_append_of_le_length (List.takeWhile_prefix _).length_le,
      isPrefixOf_append_quote hs.closing hq]
    split
    · rfl
    · next hclosing =>
      simp only [Bool.or_eq_true, Bool.not_eq_true', not_or, Bool.not_eq_true,
        Bool.not_eq_false, List.isPrefixOf_iff_prefix] at hclosing
      rw [List.drop_append_of_le_length hclosing.2.length_le]
      have hnext (after : Text) : (s.notBefore.isSome && decide ((after ++ q :: b).head? = s.notBefore)) =
          (s.notBefore.isSome && decide (after.head? = s.notBefore)) := by
        cases after with
        | nil =>
          cases hnot : s.notBefore with
          | none => rfl
          | some c =>
            have hne : q ≠ c := fun h => hs.notBefore c hnot (h ▸ hq)
            simp [hne]
        | cons c after => rfl
      rw [hnext]

/-! ## What is done to a line -/

/-- The text that begins with a node is the node and what is left after it. -/
theorem drop_node {afterWord : Bool} {c : Char} {rest name label : Text}
    (h : (if isWord c && !afterWord then s.node? (c :: rest) else none) = some (name, label)) :
    let size := name.length + s.opening.length + label.length + s.closing.length
    size - 1 ≤ rest.length ∧
      name ++ s.opening ++ label ++ s.closing ++ rest.drop (size - 1) = c :: rest := by
  intro size
  have hnode : s.node? (c :: rest) = some (name, label) := by
    split at h
    · exact h
    · cases h
  obtain ⟨hlabel, -, after, heq⟩ := of_node? hnode
  have hsize : (name ++ s.opening ++ label ++ s.closing).length = size := by
    simp only [List.length_append, size]
  obtain ⟨more, hmore⟩ : ∃ more, size = more + 1 := by
    have hpos := List.length_pos_iff.2 hlabel
    exact ⟨size - 1, by omega⟩
  have hafter : rest.drop (size - 1) = after := by
    have hdrop := congrArg (List.drop size) heq
    rwa [List.drop_left' hsize, hmore, List.drop_succ_cons, ← Nat.add_sub_cancel more 1,
      ← hmore] at hdrop
  refine ⟨?_, hafter.symm ▸ heq.symm⟩
  have hlength := congrArg List.length heq
  rw [List.length_append, hsize, List.length_cons] at hlength
  omega

/-- What comes after a quote is cut apart on its own. -/
theorem pieces_append_quote (hs : s.IsPlain) {q : Char} (hq : IsQuote q) {skip : Nat} {a : Text}
    (hskip : skip ≤ a.length) (afterWord : Bool) (b : Text) :
    s.pieces icons skip afterWord (a ++ q :: b) =
      s.pieces icons skip afterWord a ++ .text [q] :: s.pieces icons 0 false b := by
  induction skip, afterWord, a using pieces.induct s with
  | case1 skip afterWord =>
    obtain rfl : skip = 0 := Nat.le_zero.1 hskip
    rw [List.nil_append, pieces, pieces, isWord_of_isQuote hq]
    rfl
  | case2 afterWord skip c rest ih =>
    rw [List.cons_append, pieces, pieces, ih (Nat.le_of_succ_le_succ hskip)]
  | case3 afterWord c rest hnode ih =>
    rw [List.cons_append, pieces, pieces, ← List.cons_append, node?_append_quote hs hq, hnode]
    dsimp only
    rw [ih (Nat.zero_le _), List.cons_append]
  | case4 afterWord c rest name label hnode length ih =>
    rw [List.cons_append, pieces, pieces, ← List.cons_append, node?_append_quote hs hq, hnode]
    dsimp only
    rw [ih (drop_node hnode).1]
    exact (List.append_assoc ..).symm

/-- What is written for a text is what is written for its pieces. -/
theorem wrapFrom_eq (s : Shape) (icons : List Text) (skip : Nat) (afterWord : Bool) (t : Text) :
    s.wrapFrom icons skip afterWord t = (s.pieces icons skip afterWord t).flatMap Piece.written := by
  induction skip, afterWord, t using pieces.induct s with
  | case1 skip afterWord => rw [wrapFrom, pieces, List.flatMap_nil]
  | case2 afterWord skip c rest ih => rw [wrapFrom, pieces, ih]
  | case3 afterWord c rest hnode ih =>
    rw [wrapFrom, pieces, hnode]
    dsimp only
    rw [ih, List.flatMap_cons]
    rfl
  | case4 afterWord c rest name label hnode length ih =>
    rw [wrapFrom, pieces, hnode]
    dsimp only
    rw [ih, List.flatMap_append, write]
    congr 1
    split
    · simp [Piece.written]
    · simp [Piece.written]

/-- The pieces are the text. -/
theorem source_pieces (s : Shape) (icons : List Text) (skip : Nat) (afterWord : Bool) (t : Text) :
    (s.pieces icons skip afterWord t).flatMap Piece.source = t.drop skip := by
  induction skip, afterWord, t using pieces.induct s with
  | case1 skip afterWord => rw [pieces, List.drop_nil, List.flatMap_nil]
  | case2 afterWord skip c rest ih => rw [pieces, ih, List.drop_succ_cons]
  | case3 afterWord c rest hnode ih =>
    rw [pieces, hnode]
    dsimp only
    rw [List.flatMap_cons, ih]
    rfl
  | case4 afterWord c rest name label hnode length ih =>
    rw [pieces, hnode]
    dsimp only
    rw [List.flatMap_append, ih, List.drop_zero]
    refine .trans ?_ (drop_node hnode).2
    congr 1
    split
    · simp [Piece.source]
    · simp [Piece.source]

/-- The text with the labels of the shape marked. -/
def wrap (s : Shape) (icons : List Text) (t : Text) : Text := s.wrapFrom icons 0 false t

/-- The labels of the shape that are marked. -/
def marked (s : Shape) (icons : List Text) (t : Text) : List Text :=
  (s.pieces icons 0 false t).filterMap Piece.label?

/-- Texts on the two sides of a quote are wrapped independently of each other. -/
theorem wrap_append_quote (hs : s.IsPlain) {q : Char} (hq : IsQuote q) (a b : Text) :
    s.wrap icons (a ++ q :: b) = s.wrap icons a ++ q :: s.wrap icons b := by
  rw [wrap, wrapFrom_eq, pieces_append_quote hs hq (Nat.zero_le _), List.flatMap_append,
    List.flatMap_cons, ← wrapFrom_eq, ← wrapFrom_eq]
  rfl

/-- Labels on the two sides of a quote are marked independently of each other. -/
theorem marked_append_quote (hs : s.IsPlain) {q : Char} (hq : IsQuote q) (a b : Text) :
    s.marked icons (a ++ q :: b) = s.marked icons a ++ s.marked icons b := by
  rw [marked, pieces_append_quote hs hq (Nat.zero_le _), List.filterMap_append]
  rfl

/-- The pieces of a text without quotes have none. -/
theorem isUnquoted_source {skip : Nat} {afterWord : Bool} {t : Text} (h : IsUnquoted t) :
    ∀ p ∈ s.pieces icons skip afterWord t, IsUnquoted p.source := by
  intro p hp c hc
  refine h c (List.mem_of_mem_drop (i := skip) ?_)
  rw [← source_pieces s icons skip afterWord t]
  exact List.mem_flatMap.2 ⟨p, hp, hc⟩

end Shape

/-! ## All shapes -/

/-- The text with the labels of several shapes marked, one shape after the other. -/
def wrapAll (icons : List Text) (ss : List Shape) (t : Text) : Text :=
  ss.foldl (fun t s => s.wrap icons t) t

/-- A line is wrapped for one shape after the other. -/
theorem wrapLine_eq (icons : List Text) (line : Text) :
    wrapLine icons line = wrapAll icons shapes line := rfl

/-- For several shapes, too, texts on the two sides of a quote are wrapped independently of each
other. -/
theorem wrapAll_append_quote {icons : List Text} {ss : List Shape} (hss : ∀ s ∈ ss, s.IsPlain)
    {q : Char} (hq : IsQuote q) (a b : Text) :
    wrapAll icons ss (a ++ q :: b) = wrapAll icons ss a ++ q :: wrapAll icons ss b := by
  induction ss generalizing a b with
  | nil => rfl
  | cons s ss ih =>
    obtain ⟨hs, hss⟩ := List.forall_mem_cons.1 hss
    show wrapAll icons ss (s.wrap icons (a ++ q :: b)) = _
    rw [s.wrap_append_quote hs hq, ih hss]
    rfl

end LiveMarkdown.Diagram
