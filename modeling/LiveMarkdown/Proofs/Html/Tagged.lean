import LiveMarkdown.Proofs.Html.Spelled

/-!
# Text with whole tags

`Tagged t tags` says that `t` is text with references and plain tags, and that `tags` are those which
open, in order. Such texts can be put one after the other, and the reader of pages finds these tags
and no others in them (`markup_of_tagged`).
-/

namespace LiveMarkdown.Html

/-- A text made of characters, references and plain tags, with the tags that open. An ampersand may
stand for itself where no reference can begin. -/
inductive Tagged : Text → List (Text × Attributes) → Prop
  | nil : Tagged [] []
  | char {c : Char} {t : Text} {tags : List (Text × Attributes)} :
    c ≠ '<' → c ≠ '&' → Tagged t tags → Tagged (c :: t) tags
  | ampersand {c : Char} {t : Text} {tags : List (Text × Attributes)} :
    Text.isLetter c = false → c ≠ '#' → Tagged (c :: t) tags → Tagged ('&' :: c :: t) tags
  | reference {name t : Text} {tags : List (Text × Attributes)} :
    name.head?.any Text.isLetter → name.all Text.isLetterOrDigit → Tagged t tags →
    Tagged ('&' :: (name ++ ';' :: t)) tags
  | opening {name space inner t : Text} {attrs : Attributes} {closed : Bool}
      {tags : List (Text × Attributes)} :
    IsPlainName name → isVerbatim name = false → (∀ c ∈ space, isTagSpace c) →
    space ≠ [] ∨ attrs = [] → Inner inner attrs closed → Tagged t tags →
    Tagged ('<' :: (name ++ (space ++ (inner ++ t)))) ((name, attrs) :: tags)
  | closing {name t : Text} {tags : List (Text × Attributes)} :
    IsPlainName name → Tagged t tags → Tagged ('<' :: '/' :: (name ++ '>' :: t)) tags

/-! ## Reading -/

/-- What is spelled has whole tags. -/
theorem Spelled.tagged {t : Text} {pieces : List Markup} (h : Spelled t pieces) :
    Tagged t (openings pieces) := by
  induction h with
  | nil => exact .nil
  | char hlt hamp _ ih => exact .char hlt hamp ih
  | ampersand hletter hsign _ ih => exact .ampersand hletter hsign ih
  | reference hletter hname _ ih => exact .reference hletter hname ih
  | opening hname hverbatim hspace hgap hinner _ ih =>
    exact .opening hname hverbatim hspace hgap hinner ih
  | closing hname _ ih => exact .closing hname ih

/-- A text with whole tags is read as something, in which these tags open. -/
theorem Tagged.exists_spelled {t : Text} {tags : List (Text × Attributes)} (h : Tagged t tags) :
    ∃ pieces, Spelled t pieces ∧ openings pieces = tags := by
  induction h with
  | nil => exact ⟨_, .nil, rfl⟩
  | char hlt hamp _ ih =>
    obtain ⟨pieces, hspelled, rfl⟩ := ih
    exact ⟨_, .char hlt hamp hspelled, rfl⟩
  | ampersand hletter hsign _ ih =>
    obtain ⟨pieces, hspelled, rfl⟩ := ih
    exact ⟨_, .ampersand hletter hsign hspelled, rfl⟩
  | reference hletter hname _ ih =>
    obtain ⟨pieces, hspelled, rfl⟩ := ih
    exact ⟨_, .reference hletter hname hspelled, rfl⟩
  | opening hname hverbatim hspace hgap hinner _ ih =>
    obtain ⟨pieces, hspelled, rfl⟩ := ih
    exact ⟨_, .opening hname hverbatim hspace hgap hinner hspelled, rfl⟩
  | closing hname _ ih =>
    obtain ⟨pieces, hspelled, rfl⟩ := ih
    exact ⟨_, .closing hname hspelled, rfl⟩

/-- Text with whole tags after text with whole tags is text with whole tags. -/
theorem Tagged.append {t u : Text} {tags more : List (Text × Attributes)} (ht : Tagged t tags)
    (hu : Tagged u more) : Tagged (t ++ u) (tags ++ more) := by
  obtain ⟨pieces, hpieces, rfl⟩ := ht.exists_spelled
  obtain ⟨rest, hrest, rfl⟩ := hu.exists_spelled
  rw [← openings_append]
  exact (hpieces.append hrest).tagged

/-- The pieces of a text with whole tags are text and tags, and the tags that open are those. -/
theorem markup_of_tagged {t : Text} {tags : List (Text × Attributes)} (h : Tagged t tags) :
    ∃ pieces, markup t = .ok pieces ∧ openings pieces = tags ∧ ∀ m ∈ pieces, m.IsRunning := by
  obtain ⟨fine, hspelled, rfl⟩ := h.exists_spelled
  obtain ⟨pieces, hpieces, hjoined⟩ := markup_of_spelled hspelled
  exact ⟨pieces, hpieces, hjoined.openings_eq, hjoined.isRunning hspelled.isRunning⟩

end LiveMarkdown.Html
