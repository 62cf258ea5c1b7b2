import LiveMarkdown.Proofs.Html.Order

/-!
# Pages that are written again

What is written from a plain page is text with whole tags again: values are written so that reading
gives them back (`decodeAttribute_flatMap`), and all names stay as they are. Reading what has been
written therefore finds the elements of the page (`tagged_nodesText`), each with its attributes in
the order of their names.
-/

namespace LiveMarkdown.Html

/-! ## Text -/

/-- Text that is written character by character has no tags if no character has. -/
theorem tagged_flatMap {code : Char → Text} (h : ∀ c, Tagged (code c) []) (t : Text) :
    Tagged (t.flatMap code) [] := by
  induction t with
  | nil => exact .nil
  | cons c rest ih => exact (h c).append ih

/-- A reference to a character is read as the character. -/
theorem spelled_reference (name : Text) {c : Char}
    (h : name.head?.any Text.isLetter ∧ name.all Text.isLetterOrDigit ∧ entity? name = some [c]) :
    Spelled ('&' :: (name ++ [';'])) [.text [c]] := by
  have := Spelled.reference h.1 h.2.1 .nil
  rwa [h.2.2] at this

/-- A character of running text is read as it is meant. -/
theorem spelled_plainChar (c : Char) : Spelled (plainChar c) [.text [c]] :=
  plainChar_cases (P := fun c written => Spelled written [.text [c]])
    (spelled_reference ['a', 'm', 'p'] ⟨by decide, by decide, rfl⟩)
    (spelled_reference ['l', 't'] ⟨by decide, by decide, rfl⟩)
    (spelled_reference ['g', 't'] ⟨by decide, by decide, rfl⟩)
    (fun _ hamp hlt _ => .char hlt hamp .nil) c

/-- A character of running text has no tags. -/
theorem tagged_plainChar (c : Char) : Tagged (plainChar c) [] := (spelled_plainChar c).tagged

/-- An escaped character is read as it is. -/
theorem spelled_escapeChar (c : Char) : Spelled (escapeChar c) [.text [c]] :=
  escapeChar_cases (P := fun c written => Spelled written [.text [c]])
    (spelled_reference ['a', 'm', 'p'] ⟨by decide, by decide, rfl⟩)
    (spelled_reference ['l', 't'] ⟨by decide, by decide, rfl⟩)
    (spelled_reference ['g', 't'] ⟨by decide, by decide, rfl⟩)
    (spelled_reference ['q', 'u', 'o', 't'] ⟨by decide, by decide, rfl⟩)
    (fun _ hamp hlt _ _ => .char hlt hamp .nil) c

/-- An escaped text is read as its characters. -/
theorem spelled_escape (t : Text) : Spelled (escape t) (charPieces t) := by
  induction t with
  | nil => exact .nil
  | cons c rest ih => exact (spelled_escapeChar c).append ih

/-! ## Values -/

/-- A text that is written character by character is read back if each character is. -/
theorem decodeAttribute_flatMap {code : Char → Text}
    (h : ∀ c rest, decodeFrom 0 (code c ++ rest) = c :: decodeFrom 0 rest) (t : Text) :
    decodeAttribute (t.flatMap code) = t := by
  induction t with
  | nil => rfl
  | cons c rest ih =>
    rw [List.flatMap_cons, decodeAttribute, h]
    exact congrArg (List.cons c) ih

/-- A character that begins no reference is decoded as itself. -/
theorem decodeFrom_cons {c : Char} (h : c ≠ '&') (rest : Text) :
    decodeFrom 0 (c :: rest) = c :: decodeFrom 0 rest := by
  rw [decodeFrom, if_neg h]

/-- A character of running text is decoded as it is meant. -/
theorem decodeFrom_plainChar (c : Char) (rest : Text) :
    decodeFrom 0 (plainChar c ++ rest) = c :: decodeFrom 0 rest :=
  plainChar_cases (P := fun c written => decodeFrom 0 (written ++ rest) = c :: decodeFrom 0 rest)
    rfl rfl rfl (fun _ hamp _ _ => decodeFrom_cons hamp rest) c

/-- An escaped character is decoded as it is meant. -/
theorem decodeFrom_escapeChar (c : Char) (rest : Text) :
    decodeFrom 0 (escapeChar c ++ rest) = c :: decodeFrom 0 rest :=
  escapeChar_cases (P := fun c written => decodeFrom 0 (written ++ rest) = c :: decodeFrom 0 rest)
    rfl rfl rfl rfl (fun _ hamp _ _ _ => decodeFrom_cons hamp rest) c

/-- An attribute that is written so that it is read as it is meant. -/
def IsWritten (written : Text) (a : Text × Text) : Prop :=
  ∃ q raw, written = ' ' :: (a.1 ++ '=' :: q :: (raw ++ [q])) ∧ (q = '"' ∨ q = '\'') ∧ q ∉ raw ∧
    decodeAttribute raw = a.2

/-- An attribute that is written is read as it is meant. -/
theorem isWritten_attributeWritten (a : Text × Text) : IsWritten (attributeWritten a) a := by
  rcases quoteValue_cases a.2 with h | ⟨h, hquote⟩
  · refine ⟨'"', escape a.2, ?_, .inl rfl, quote_notMem_escape a.2,
      decodeAttribute_flatMap decodeFrom_escapeChar a.2⟩
    rw [attributeWritten, h]
    rfl
  · refine ⟨'\'', a.2.flatMap plainChar, ?_, .inr rfl, hquote,
      decodeAttribute_flatMap decodeFrom_plainChar a.2⟩
    rw [attributeWritten, h]
    rfl

/-! ## Tags -/

/-- A space is space between the parts of a tag. -/
theorem isTagSpace_space : isTagSpace ' ' := by decide

/-- Attributes that are written one after the other, up to the end of their tag. -/
theorem exists_inner {write : Text × Text → Text} {attrs : Attributes}
    (hwrite : ∀ a ∈ attrs, IsWritten (write a) a) (hnames : ∀ a ∈ attrs, IsPlainName a.1)
    {gap : Text} (hgap : ∀ c ∈ gap, isTagSpace c) (closed : Bool) :
    ∃ space inner, attrs.flatMap write ++ (gap ++ endText closed) = space ++ inner ∧
      (∀ c ∈ space, isTagSpace c) ∧ (space ≠ [] ∨ attrs = []) ∧ Inner inner attrs closed := by
  induction attrs with
  | nil =>
    refine ⟨gap, endText closed, rfl, hgap, .inr rfl, ?_⟩
    cases closed with
    | false => exact .opens
    | true => exact .closes
  | cons a rest ih =>
    obtain ⟨space, inner, htext, hspace, hne, hinner⟩ :=
      ih (fun b hb => hwrite b (List.mem_cons_of_mem _ hb))
        (fun b hb => hnames b (List.mem_cons_of_mem _ hb))
    obtain ⟨q, raw, hwritten, hq, hraw, hvalue⟩ := hwrite a List.mem_cons_self
    have hnamed := Inner.named (hnames a List.mem_cons_self) hq hraw hspace hne hinner
    rw [hvalue] at hnamed
    refine ⟨[' '], _, ?_, fun c hc => List.mem_singleton.1 hc ▸ isTagSpace_space,
      .inl (List.cons_ne_nil _ _), hnamed⟩
    rw [List.flatMap_cons, List.append_assoc, htext, hwritten]
    simp only [List.cons_append, List.append_assoc, List.nil_append]

/-- A tag that can be written and read. -/
structure IsPlainTag (tag : Text × Attributes) : Prop where
  name : IsPlainName tag.1
  verbatim : isVerbatim tag.1 = false
  attrs : ∀ a ∈ tag.2, IsPlainName a.1

/-- A plain tag that opens an element, as it is written. -/
theorem spelled_opening {name : Text} {attrs : Attributes} (h : IsPlainTag (name, attrs))
    {write : Text × Text → Text} (hwrite : ∀ a ∈ attrs, IsWritten (write a) a)
    (gap : Text) (hgap : ∀ c ∈ gap, isTagSpace c) (closed : Bool) :
    Spelled ('<' :: (name ++ (attrs.flatMap write ++ (gap ++ endText closed))))
      [.opening name attrs closed] := by
  obtain ⟨space, inner, htext, hspace, hne, hinner⟩ := exists_inner hwrite h.attrs hgap closed
  have := Spelled.opening h.name h.verbatim hspace hne hinner .nil
  rwa [List.append_nil, ← htext] at this

/-- A plain tag that closes an element, as it is written. -/
theorem tagged_closing {name : Text} (h : IsPlainName name) :
    Tagged ('<' :: '/' :: (name ++ ['>'])) [] := .closing h .nil

/-! ## Nodes -/

/-- The tag of an element as it is written. -/
def writtenTag (tag : Text × Attributes) : Text × Attributes :=
  (tag.1, sortByName (writtenAttributes tag.1 tag.2))

/-- The attributes that are written have plain names. -/
theorem isPlainName_writtenAttributes (name : Text) {attrs : Attributes}
    (h : ∀ a ∈ attrs, IsPlainName a.1) : ∀ a ∈ writtenAttributes name attrs, IsPlainName a.1 := by
  unfold writtenAttributes
  split
  · exact h
  · split
    · exact forall_names_set h (by decide) _
    · split
      · split
        · exact forall_names_set h (by decide) _
        · exact h
      · exact h

/-- A plain tag is still plain when it is written. -/
theorem IsPlainTag.written {tag : Text × Attributes} (h : IsPlainTag tag) :
    IsPlainTag (writtenTag tag) where
  name := h.name
  verbatim := h.verbatim
  attrs a ha := isPlainName_writtenAttributes tag.1 h.attrs a (mem_sortByName.1 ha)

/-- Nodes with plain tags, and with no leaves but text. -/
structure ArePlain (parts : List Part) : Prop where
  tags : ∀ tag ∈ tagsOf parts, IsPlainTag tag
  leaves : ∀ k, .leaf k ∈ parts → k.IsRunning

/-- The first of plain nodes are plain. -/
theorem ArePlain.left {parts more : List Part} (h : ArePlain (parts ++ more)) : ArePlain parts where
  tags tag htag := h.tags tag (tagsOf_append parts more ▸ List.mem_append_left _ htag)
  leaves k hk := h.leaves k (List.mem_append_left _ hk)

/-- The last of plain nodes are plain. -/
theorem ArePlain.right {parts more : List Part} (h : ArePlain (parts ++ more)) : ArePlain more where
  tags tag htag := h.tags tag (tagsOf_append parts more ▸ List.mem_append_right _ htag)
  leaves k hk := h.leaves k (List.mem_append_right _ hk)

/-- Running text has no tags. -/
theorem tagged_leafText {kind : Leaf} (h : kind.IsRunning) (t : Text) :
    Tagged (leafText false kind t) [] := by
  rcases h with rfl | rfl
  · exact tagged_flatMap tagged_plainChar t
  · exact tagged_flatMap tagged_plainChar t

mutual

/-- A plain node is written with the tags of its elements. -/
theorem tagged_nodeText : ∀ (n : Node), ArePlain (nodeParts n) →
    Tagged (nodeText false n) ((tagsOf (nodeParts n)).map writtenTag)
  | .leaf kind t, h => tagged_leafText (h.leaves kind List.mem_cons_self) t
  | .element name attrs children, h => by
    have htag := (h.tags (name, attrs) List.mem_cons_self).written
    have hboth : ArePlain ([.tag name attrs] ++ nodesParts children) := h
    have hchildren := tagged_nodesText children hboth.right
    have hopening (closed : Bool) :=
      (spelled_opening htag (fun a _ => isWritten_attributeWritten a) [] nofun closed).tagged
    have htags : tagsOf (nodeParts (.element name attrs children)) =
        (name, attrs) :: tagsOf (nodesParts children) := rfl
    rw [nodeText, htags]
    split
    · next hvoid =>
      have hempty : children = [] := List.isEmpty_iff.1 (Bool.and_eq_true_iff.1 hvoid).1
      have := hopening true
      rw [hempty]
      simp only [List.cons_append, List.append_assoc]
      exact this
    · have hverbatim : isVerbatim name = false := htag.verbatim
      have := (hopening false).append (hchildren.append (tagged_closing htag.name))
      rw [hverbatim]
      simp only [List.cons_append, List.append_assoc, List.nil_append, List.append_nil] at this ⊢
      exact this

/-- Plain nodes are written as text with whole tags: those of their elements, in order. -/
theorem tagged_nodesText : ∀ (nodes : List Node), ArePlain (nodesParts nodes) →
    Tagged (nodesText false nodes) ((tagsOf (nodesParts nodes)).map writtenTag)
  | [], _ => .nil
  | n :: rest, h => by
    have hfirst := tagged_nodeText n h.left
    have hrest := tagged_nodesText rest h.right
    rw [nodesText, nodesParts, tagsOf_append, List.map_append]
    exact hfirst.append hrest

end

/-! ## Plain pages -/

/-- The attributes of a tag have plain names. -/
theorem Inner.isPlainName {t : Text} {attrs : Attributes} {closed : Bool}
    (h : Inner t attrs closed) : ∀ a ∈ attrs, IsPlainName a.1 := by
  induction h with
  | opens => nofun
  | closes => nofun
  | named hname _ _ _ _ _ ih =>
    intro a ha
    rcases List.mem_cons.1 ha with rfl | ha
    · exact hname
    · exact ih a ha

/-- The tags of a text with whole tags are plain. -/
theorem Tagged.isPlainTag {t : Text} {tags : List (Text × Attributes)} (h : Tagged t tags) :
    ∀ tag ∈ tags, IsPlainTag tag := by
  induction h with
  | nil => nofun
  | char _ _ _ ih => exact ih
  | ampersand _ _ _ ih => exact ih
  | reference _ _ _ ih => exact ih
  | opening hname hverbatim _ _ hinner _ ih =>
    intro tag htag
    rcases List.mem_cons.1 htag with rfl | htag
    · exact ⟨hname, hverbatim, hinner.isPlainName⟩
    · exact ih tag htag
  | closing _ _ ih => exact ih

/-- The attributes that an element gets from its tag have plain names. -/
theorem isPlainName_tagAttributes (name : Text) {attrs : Attributes}
    (h : ∀ a ∈ attrs, IsPlainName a.1) : ∀ a ∈ tagAttributes name attrs, IsPlainName a.1 :=
  tagAttributes_induction (P := fun written => ∀ a ∈ written, IsPlainName a.1) nofun
    fun ha hdone value => forall_names_set hdone (h _ ha) value

/-- The page of a text with whole tags is plain, and its elements are those of the tags. -/
theorem exists_plainPage {t : Text} {tags : List (Text × Attributes)} (h : Tagged t tags) :
    ∃ nodes, pageNodes t = .ok nodes ∧ ArePlain (nodesParts nodes) ∧
      tagsOf (nodesParts nodes) = tags.map fun tag => (tag.1, tagAttributes tag.1 tag.2) := by
  obtain ⟨nodes, hnodes, htags, hleaves⟩ := pageNodes_of_tagged h
  refine ⟨nodes, hnodes, ⟨fun tag htag => ?_, hleaves⟩, htags⟩
  rw [htags] at htag
  obtain ⟨tag, hmem, rfl⟩ := List.mem_map.1 htag
  obtain ⟨hname, hverbatim, hattrs⟩ := h.isPlainTag tag hmem
  exact ⟨hname, hverbatim, isPlainName_tagAttributes tag.1 hattrs⟩

end LiveMarkdown.Html
