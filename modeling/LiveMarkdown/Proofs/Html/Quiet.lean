import LiveMarkdown.Proofs.Html.Events

/-!
# What is left open

Text is joined and shown in one way in most elements, but not in those in which white space counts or
whose text is not shown. Which of these are open where a piece is added depends on the pieces before.
Pieces are quiet (`AreQuiet`) if none of these elements is open after them that was not open before:
any text, any tag that closes, any tag that opens another element, and each of these elements as a
whole (`AreQuiet.element`).
-/

namespace LiveMarkdown.Html

/-- The elements in which text is not joined or not shown. -/
def reservedNames : List Text := spacedNames ++ asideNames

/-- A closing tag closes the innermost open element of its name, and those in it. -/
theorem exists_closedBy {name : Text} {names : List Text} (h : name ∈ names) :
    ∃ inner outer, names = inner ++ name :: outer ∧ name ∉ inner ∧
      closedBy name names = inner.length + 1 := by
  obtain ⟨inner, outer, rfl, hinner⟩ := List.eq_append_cons_of_mem h
  refine ⟨inner, outer, rfl, hinner, ?_⟩
  have hnone : inner.findIdx? (· = name) = none :=
    List.findIdx?_eq_none_iff.2 fun n hn => decide_eq_false fun heq => hinner (heq ▸ hn)
  rw [closedBy, List.findIdx?_append, hnone, List.findIdx?_cons, if_pos (by simp)]
  simp

namespace Builder

/-- The names of the open elements in which text is not joined or not shown, innermost first. -/
def reserved (b : Builder) : List Text := b.names.filter reservedNames.contains

/-- Closing tags that may yet come are those of elements without content. -/
def ClosedAreVoid (b : Builder) : Prop := ∀ name ∈ b.closed, name ∈ voidNames

variable {b : Builder}

/-- Text that is no running text leaves the same closing tags to come. -/
theorem closed_special (kind : Leaf) (t : Text) : (b.special kind t).closed = b.closed := by
  rw [special, closed_flush]
  exact b.closed_flush .text

/-- An element that is closed at once leaves the same closing tags to come. -/
theorem closed_close_push (name : Text) (attrs : Attributes) :
    ((b.flush.push name attrs).close name).closed = b.closed := by
  rw [closed_close]
  exact b.closed_flush .text

/-- A tag that opens an element with content. -/
theorem add_push (b : Builder) {name : Text} (h : name ∉ voidNames) (attrs : Attributes) :
    b.add (.opening name attrs false) = b.flush.push name (tagAttributes name attrs) := by
  rw [add_opening, if_neg Bool.false_ne_true, if_neg fun hmem => h (List.contains_iff_mem.1 hmem)]

/-- A closing tag that is read. -/
theorem add_close (b : Builder) {name : Text} (h : b.closed.contains name = false) :
    b.add (.closing name) = b.close name := by
  rw [add, closingTag, h, if_neg Bool.false_ne_true]

/-- An opened element has the innermost name. -/
theorem names_push (name : Text) (attrs : Attributes) : (b.push name attrs).names = name :: b.names :=
  rfl

/-- A tag that opens an element adds its name, or none if the element is closed at once. -/
theorem names_add_opening (name : Text) (attrs : Attributes) (closed : Bool) :
    (b.add (.opening name attrs closed)).names =
      if closed || voidNames.contains name then b.names else name :: b.names := by
  have hclose : ((b.flush.push name (tagAttributes name attrs)).close name).names = b.names := by
    rw [names_close, names_push, closedBy_cons_self, names_flush]
    rfl
  rw [add_opening]
  cases closed with
  | true => exact hclose
  | false =>
    cases hvoid : voidNames.contains name with
    | true => exact hclose
    | false => exact congrArg (name :: ·) (b.names_flush .text)

/-- A closing tag takes the names up to its own, unless its element has been closed already. -/
theorem names_add_closing (name : Text) :
    (b.add (.closing name)).names =
      if b.closed.contains name then b.names else b.names.drop (closedBy name b.names) := by
  unfold add closingTag
  dsimp only
  split
  · rfl
  · exact b.names_close name

/-- The closing tags to come stay those of void elements. -/
theorem ClosedAreVoid.add (h : b.ClosedAreVoid) (m : Markup) : (b.add m).ClosedAreVoid := by
  have hsame {c : Builder} (hc : c.closed = b.closed) : c.ClosedAreVoid :=
    fun name hname => h name (hc ▸ hname)
  cases m with
  | text t => exact h
  | opening name attrs closed =>
    have hclose := hsame (b.closed_close_push name (tagAttributes name attrs))
    rw [add_opening]
    dsimp only
    split
    · exact hclose
    · split
      · next hvoid =>
        intro n hn
        rcases List.mem_append.1 hn with hn | hn
        · exact hclose n hn
        · exact List.mem_singleton.1 hn ▸ List.contains_iff_mem.1 hvoid
      · exact hsame (b.closed_flush .text)
  | closing name =>
    unfold Builder.add closingTag
    dsimp only
    split
    · exact fun n hn => h n (List.mem_of_mem_erase hn)
    · exact hsame (b.closed_close name)
  | comment t | «section» t | instruction t | declaration t | doctype t =>
    exact hsame (closed_special _ t)

/-- In an empty page no closing tags are to come. -/
theorem closedAreVoid_empty : ClosedAreVoid {} := List.forall_mem_nil _

/-- The closing tags to come stay those of void elements, however many pieces are added. -/
theorem ClosedAreVoid.foldl_add (h : b.ClosedAreVoid) (pieces : List Markup) :
    (pieces.foldl Builder.add b).ClosedAreVoid := by
  induction pieces generalizing b with
  | nil => exact h
  | cons m rest ih => exact ih (h.add m)

/-- The closing tag of an element with content is read. -/
theorem ClosedAreVoid.contains_eq_false (h : b.ClosedAreVoid) {name : Text} (hname : name ∉ voidNames) :
    b.closed.contains name = false :=
  Bool.eq_false_iff.2 fun hmem => hname (h name (List.contains_iff_mem.1 hmem))

end Builder

/-- Pieces after which no element is open in which text is not joined or not shown, but those that were
open before. -/
def AreQuiet (pieces : List Markup) : Prop :=
  ∀ b : Builder, b.ClosedAreVoid → (pieces.foldl Builder.add b).reserved <:+ b.reserved

namespace AreQuiet

/-- No pieces are quiet. -/
theorem nil : AreQuiet [] := fun _ _ => List.suffix_refl _

/-- Quiet pieces next to each other are quiet. -/
theorem append {pieces more : List Markup} (h : AreQuiet pieces) (hmore : AreQuiet more) :
    AreQuiet (pieces ++ more) := by
  intro b hb
  rw [List.foldl_append]
  exact (hmore _ (hb.foldl_add pieces)).trans (h b hb)

/-- A piece that adds no name is quiet. -/
theorem of_names {m : Markup} (h : ∀ b : Builder, (b.add m).names <:+ b.names) : AreQuiet [m] :=
  fun b _ => (h b).filter _

/-- Text is quiet. -/
theorem text (t : Text) : AreQuiet [.text t] := of_names fun _ => List.suffix_refl _

/-- A closing tag is quiet. -/
theorem closing (name : Text) : AreQuiet [.closing name] := by
  refine of_names fun b => ?_
  rw [Builder.names_add_closing]
  split
  · exact List.suffix_refl _
  · exact List.drop_suffix _ _

/-- A tag that closes itself is quiet. -/
theorem closed (name : Text) (attrs : Attributes) : AreQuiet [.opening name attrs true] :=
  of_names fun _ => by rw [Builder.names_add_opening]; exact List.suffix_refl _

/-- A tag is quiet that opens an element with joined and shown text. -/
theorem opening {name : Text} (h : name ∉ reservedNames) (attrs : Attributes) :
    AreQuiet [.opening name attrs false] := by
  intro b _
  have hnames : (b.add (.opening name attrs false)).names = b.names ∨
      (b.add (.opening name attrs false)).names = name :: b.names := by
    rw [Builder.names_add_opening]
    split
    · exact .inl rfl
    · exact .inr rfl
  have hreserved : (b.add (.opening name attrs false)).reserved = b.reserved := by
    rcases hnames with hnames | hnames
    · rw [Builder.reserved, hnames]
      rfl
    · rw [Builder.reserved, hnames,
        List.filter_cons_of_neg fun hmem => h (List.contains_iff_mem.1 hmem), Builder.reserved]
  rw [List.foldl_cons, List.foldl_nil]
  exact ⟨[], (List.nil_append _).trans hreserved⟩

/-- An element whose content is quiet is quiet, whichever it is. -/
theorem element {name : Text} (h : name ∉ voidNames) (attrs : Attributes) {content : List Markup}
    (hcontent : AreQuiet content) :
    AreQuiet (.opening name attrs false :: (content ++ [.closing name])) := by
  by_cases hreserved : reservedNames.contains name
  · intro b hb
    have hvoid : (false || voidNames.contains name) = false := by simpa using h
    have hopened : (b.add (.opening name attrs false)).reserved = name :: b.reserved := by
      rw [Builder.reserved, Builder.names_add_opening, hvoid, if_neg Bool.false_ne_true,
        List.filter_cons_of_pos hreserved]
      rfl
    have hinner := hcontent _ (hb.add (.opening name attrs false))
    have hclosed := (hb.add (.opening name attrs false)).foldl_add content
    rw [List.foldl_cons, List.foldl_append]
    generalize content.foldl Builder.add (b.add (.opening name attrs false)) = inner at hinner hclosed
    rw [hopened] at hinner
    rcases List.suffix_cons_iff.1 hinner with hsame | hless
    · -- The element is still open: its closing tag closes it with all that is open in it.
      have hmem : name ∈ inner.names :=
        (List.mem_filter.1 (by rw [← Builder.reserved, hsame]; exact List.mem_cons_self)).1
      obtain ⟨deeper, outer, hnames, hnone, hcount⟩ := exists_closedBy hmem
      have hdeeper : deeper.filter reservedNames.contains = [] := by
        rw [Builder.reserved, hnames, List.filter_append, List.filter_cons_of_pos hreserved] at hsame
        cases hfilter : deeper.filter reservedNames.contains with
        | nil => rfl
        | cons n more =>
          rw [hfilter] at hsame
          have hn : n ∈ deeper := (List.mem_filter.1 (hfilter ▸ List.mem_cons_self)).1
          exact absurd ((List.cons.inj hsame).1 ▸ hn) hnone
      have houter : outer.filter reservedNames.contains = b.reserved := by
        rw [Builder.reserved, hnames, List.filter_append, hdeeper,
          List.filter_cons_of_pos hreserved] at hsame
        exact (List.cons.inj hsame).2
      have hdrop : inner.names.drop (closedBy name inner.names) = outer := by
        rw [hcount, hnames, ← List.drop_drop, List.drop_left]
        rfl
      have hlast : (inner.add (.closing name)).reserved = b.reserved := by
        rw [Builder.reserved, Builder.names_add_closing, hclosed.contains_eq_false h,
          if_neg Bool.false_ne_true, hdrop, houter]
      exact hlast ▸ List.suffix_refl _
    · exact (closing name inner hclosed).trans hless
  · have hname : name ∉ reservedNames := fun hmem => hreserved (List.contains_iff_mem.2 hmem)
    exact (opening hname attrs).append (hcontent.append (closing name))

end AreQuiet

/-- A property of pieces that elements have whose content has it, and that tags have by themselves if
they open no element in which text is not joined or not shown. -/
structure PiecesClosed (P : List Markup → Prop) : Prop where
  nil : P []
  append {pieces more : List Markup} : P pieces → P more → P (pieces ++ more)
  text (t : Text) : P [.text t]
  closing (name : Text) : P [.closing name]
  closed (name : Text) (attrs : Attributes) : P [.opening name attrs true]
  opening {name : Text} : name ∉ reservedNames → ∀ attrs, P [.opening name attrs false]
  element {name : Text} : name ∉ voidNames → ∀ (attrs : Attributes) {content : List Markup},
    P content → P (.opening name attrs false :: (content ++ [.closing name]))

/-- What holds of single texts holds of a text in single characters. -/
theorem PiecesClosed.charPieces {P : List Markup → Prop} (hP : PiecesClosed P) (t : Text) :
    P (charPieces t) := by
  induction t with
  | nil => exact hP.nil
  | cons c rest ih => exact hP.append (hP.text [c]) ih

/-- Every property is closed that holds of all pieces. -/
theorem piecesClosed_true : PiecesClosed fun _ => True :=
  ⟨trivial, fun _ _ => trivial, fun _ => trivial, fun _ => trivial, fun _ _ => trivial,
    fun _ _ => trivial, fun _ _ _ _ => trivial⟩

/-- To be quiet is such a property. -/
theorem piecesClosed_areQuiet : PiecesClosed AreQuiet where
  nil := .nil
  append := .append
  text := .text
  closing := .closing
  closed := .closed
  opening := .opening
  element := .element

/-- A text with whole tags that leaves no element open in which text is not joined or not shown. -/
def IsQuiet (t : Text) : Prop := ∃ pieces, Spelled t pieces ∧ AreQuiet pieces

end LiveMarkdown.Html
