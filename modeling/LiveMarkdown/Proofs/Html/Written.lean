import LiveMarkdown.Html.Tree
import LiveMarkdown.Proofs.Text.Decimal

/-!
# Attributes can be read off what is written

The characters of a value are written by a prefix code, so that a value in quotes can be told from
what follows it (`quoteValue_append_injective`). A name ends at the first equals sign after its first
character, if it is a name that a reader of pages finds (`IsName`). The attributes of a tag are then
told by the text of the tag, up to their order (`attributesText_append_injective`).
-/

namespace LiveMarkdown.Html

/-! ## Characters -/

/-- What holds of the three characters that are written as references, and of all others as they are,
holds of every character. -/
theorem plainChar_cases {P : Char → Text → Prop} (amp : P '&' ['&', 'a', 'm', 'p', ';'])
    (lt : P '<' ['&', 'l', 't', ';']) (gt : P '>' ['&', 'g', 't', ';'])
    (self : ∀ c, c ≠ '&' → c ≠ '<' → c ≠ '>' → P c [c]) (c : Char) : P c (plainChar c) := by
  unfold plainChar
  split
  · next h => exact h ▸ amp
  · next hamp =>
    split
    · next h => exact h ▸ lt
    · next hlt =>
      split
      · next h => exact h ▸ gt
      · next hgt => exact self c hamp hlt hgt

/-- So does what holds of the double quote as a reference, too, if that is escaped. -/
theorem escapeChar_cases {P : Char → Text → Prop} (amp : P '&' ['&', 'a', 'm', 'p', ';'])
    (lt : P '<' ['&', 'l', 't', ';']) (gt : P '>' ['&', 'g', 't', ';'])
    (quote : P '"' ['&', 'q', 'u', 'o', 't', ';'])
    (self : ∀ c, c ≠ '&' → c ≠ '<' → c ≠ '>' → c ≠ '"' → P c [c]) (c : Char) :
    P c (escapeChar c) := by
  by_cases hquote : c = '"'
  · exact hquote ▸ quote
  · have heq : escapeChar c = plainChar c := by
      rw [escapeChar, plainChar, if_neg hquote]
    rw [heq]
    revert hquote
    exact plainChar_cases (P := fun c written => c ≠ '"' → P c written) (fun _ => amp)
      (fun _ => lt) (fun _ => gt) self c

/-- The character that a written text begins with. -/
def firstChar : Text → Option Char
  | '&' :: 'a' :: _ => some '&'
  | '&' :: 'l' :: _ => some '<'
  | '&' :: 'g' :: _ => some '>'
  | '&' :: 'q' :: _ => some '"'
  | c :: _ => some c
  | [] => none

/-- A character that is no ampersand is what a text begins with. -/
theorem firstChar_cons {c : Char} (h : c ≠ '&') (x : Text) : firstChar (c :: x) = some c := by
  unfold firstChar
  split
  all_goals first | rfl | exact absurd (List.cons.inj ‹_›).1 h | skip
  · next heq => rw [(List.cons.inj heq).1]
  · next heq => cases heq

/-- What is written for a character of running text tells the character. -/
theorem firstChar_plainChar (c : Char) (x : Text) : firstChar (plainChar c ++ x) = some c :=
  plainChar_cases (P := fun c written => firstChar (written ++ x) = some c) rfl rfl rfl
    (fun _ hamp _ _ => firstChar_cons hamp x) c

/-- An escaped character tells the character. -/
theorem firstChar_escapeChar (c : Char) (x : Text) : firstChar (escapeChar c ++ x) = some c :=
  escapeChar_cases (P := fun c written => firstChar (written ++ x) = some c) rfl rfl rfl rfl
    (fun _ hamp _ _ _ => firstChar_cons hamp x) c

/-- Texts that are written character by character, so that the first one can be told, are the same
if what is written is the same. -/
theorem flatMap_injective_of_firstChar {code : Char → Text}
    (hcode : ∀ c x, firstChar (code c ++ x) = some c) {s t : Text}
    (h : s.flatMap code = t.flatMap code) : s = t := by
  induction s generalizing t with
  | nil =>
    cases t with
    | nil => rfl
    | cons d t =>
      have hfirst := congrArg firstChar h
      rw [List.flatMap_cons, hcode] at hfirst
      cases hfirst
  | cons c s ih =>
    have hfirst := congrArg firstChar h
    rw [List.flatMap_cons, hcode] at hfirst
    cases t with
    | nil => cases hfirst
    | cons d t =>
      rw [List.flatMap_cons, hcode] at hfirst
      obtain rfl := Option.some.inj hfirst
      rw [List.flatMap_cons, List.flatMap_cons] at h
      rw [ih (List.append_cancel_left h)]

/-! ## Values -/

/-- A text in which double quotes are references, too, is escaped. -/
theorem replaceChar_flatMap_plainChar (t : Text) :
    Text.replaceChar '"' ['&', 'q', 'u', 'o', 't', ';'] (t.flatMap plainChar) = escape t := by
  rw [Text.replaceChar, List.flatMap_assoc, escape]
  congr 1
  funext c
  refine escapeChar_cases (P := fun c written => (plainChar c).flatMap _ = written) rfl rfl rfl rfl
    (fun c hamp hlt hgt hquote => ?_) c
  rw [plainChar, if_neg hamp, if_neg hlt, if_neg hgt]
  simp [hquote]

/-- Escaped text has no quote in it. -/
theorem quote_notMem_escape (t : Text) : '"' ∉ escape t := by
  intro h
  obtain ⟨c, -, hc⟩ := List.mem_flatMap.1 h
  exact escapeChar_cases (P := fun _ written => '"' ∉ written) (by decide) (by decide) (by decide)
    (by decide) (fun c _ _ _ hne hmem => hne (List.mem_singleton.1 hmem).symm) c hc

/-- Where a text has no double quotes, there is nothing to escape about them. -/
theorem flatMap_plainChar_eq_escape {t : Text} (h : '"' ∉ t.flatMap plainChar) :
    t.flatMap plainChar = escape t := by
  rw [← replaceChar_flatMap_plainChar, Text.replaceChar]
  revert h
  generalize t.flatMap plainChar = written
  intro h
  induction written with
  | nil => rfl
  | cons c rest ih =>
    have hne : c ≠ '"' := fun hc => h (hc ▸ List.mem_cons_self)
    rw [List.flatMap_cons, if_neg hne, ← ih fun hm => h (List.mem_cons_of_mem _ hm)]
    rfl

/-- The two ways in which a value is written. -/
theorem quoteValue_cases (v : Text) :
    quoteValue v = '"' :: escape v ++ ['"'] ∨
      quoteValue v = '\'' :: v.flatMap plainChar ++ ['\''] ∧ '\'' ∉ v.flatMap plainChar := by
  unfold quoteValue
  dsimp only
  split
  · split
    · rw [replaceChar_flatMap_plainChar]
      exact .inl rfl
    · next hsingle =>
      refine .inr ⟨rfl, fun hm => hsingle ?_⟩
      exact List.contains_iff_mem.2 hm
  · next hdouble =>
    rw [flatMap_plainChar_eq_escape fun hm => hdouble (List.contains_iff_mem.2 hm)]
    exact .inl rfl

/-- A value in quotes is told from what follows it. -/
theorem quoteValue_append_injective {v w x y : Text} (h : quoteValue v ++ x = quoteValue w ++ y) :
    v = w ∧ x = y := by
  rcases quoteValue_cases v with hv | ⟨hv, hv'⟩
  · rcases quoteValue_cases w with hw | ⟨hw, -⟩
    · rw [hv, hw, List.append_assoc, List.append_assoc] at h
      obtain ⟨hvw, hxy⟩ := Text.append_cons_injective (quote_notMem_escape v)
        (quote_notMem_escape w) (List.cons.inj h).2
      exact ⟨flatMap_injective_of_firstChar firstChar_escapeChar hvw, hxy⟩
    · rw [hv, hw] at h
      exact absurd (List.cons.inj h).1 (by decide)
  · rcases quoteValue_cases w with hw | ⟨hw, hw'⟩
    · rw [hv, hw] at h
      exact absurd (List.cons.inj h).1 (by decide)
    · rw [hv, hw, List.append_assoc, List.append_assoc] at h
      obtain ⟨hvw, hxy⟩ := Text.append_cons_injective hv' hw' (List.cons.inj h).2
      exact ⟨flatMap_injective_of_firstChar firstChar_plainChar hvw, hxy⟩

/-! ## Attributes -/

/-- The name of an attribute that a page can have: not empty, and with no equals sign but as its
first character. -/
structure IsName (name : Text) : Prop where
  ne_nil : name ≠ []
  tail : '=' ∉ name.tail

/-- A name before an equals sign tells where it ends. -/
theorem IsName.append_injective {m n x y : Text} (hm : IsName m) (hn : IsName n)
    (h : m ++ '=' :: x = n ++ '=' :: y) : m = n ∧ x = y := by
  obtain ⟨c, m, rfl⟩ := List.exists_cons_of_ne_nil hm.ne_nil
  obtain ⟨d, n, rfl⟩ := List.exists_cons_of_ne_nil hn.ne_nil
  obtain ⟨hcd, hrest⟩ := List.cons.inj h
  obtain ⟨hmn, hxy⟩ := Text.append_cons_injective hm.tail hn.tail hrest
  exact ⟨congr (congrArg List.cons hcd) hmn, hxy⟩

/-- An attribute that is inserted comes first, or after what was first. -/
theorem insertByName_cons (a b : Text × Text) (rest : Attributes) :
    insertByName a (b :: rest) = b :: insertByName a rest ∨
      insertByName a (b :: rest) = a :: b :: rest := by
  change (if _ then _ else _) = _ ∨ (if _ then _ else _) = _
  split
  · exact .inl rfl
  · exact .inr rfl

/-- Inserting an attribute by its name adds that one. -/
theorem mem_insertByName {a b : Text × Text} {attrs : Attributes} :
    b ∈ insertByName a attrs ↔ b = a ∨ b ∈ attrs := by
  induction attrs with
  | nil => exact List.mem_cons
  | cons c rest ih =>
    rcases insertByName_cons a c rest with h | h
    · rw [h, List.mem_cons, ih, List.mem_cons]
      exact or_left_comm
    · rw [h, List.mem_cons]

/-- Sorting keeps all attributes. -/
theorem mem_sortByName {b : Text × Text} {attrs : Attributes} :
    b ∈ sortByName attrs ↔ b ∈ attrs := by
  induction attrs with
  | nil => rfl
  | cons a rest ih =>
    have hcons : sortByName (a :: rest) = insertByName a (sortByName rest) := rfl
    rw [hcons, mem_insertByName, ih, List.mem_cons]

/-- An attribute as it is written. -/
def attributeWritten (a : Text × Text) : Text := ' ' :: a.1 ++ '=' :: quoteValue a.2

/-- Attributes that are written one after the other are told by the text up to the bracket that ends
the tag. -/
theorem flatMap_attributeWritten_injective {as bs : Attributes} {x y : Text}
    (ha : ∀ p ∈ as, IsName p.1) (hb : ∀ p ∈ bs, IsName p.1)
    (h : as.flatMap attributeWritten ++ '>' :: x = bs.flatMap attributeWritten ++ '>' :: y) :
    as = bs ∧ x = y := by
  induction as generalizing bs with
  | nil =>
    cases bs with
    | nil => exact ⟨rfl, (List.cons.inj h).2⟩
    | cons b bs => exact absurd (List.cons.inj h).1 (by decide)
  | cons a as ih =>
    cases bs with
    | nil => exact absurd (List.cons.inj h).1 (by decide)
    | cons b bs =>
      simp only [List.flatMap_cons, attributeWritten, List.cons_append, List.append_assoc] at h
      obtain ⟨hname, hrest⟩ := (ha a List.mem_cons_self).append_injective
        (hb b List.mem_cons_self) (List.cons.inj h).2
      obtain ⟨hvalue, hrest⟩ := quoteValue_append_injective hrest
      obtain ⟨has, hxy⟩ := ih (fun p hp => ha p (List.mem_cons_of_mem _ hp))
        (fun p hp => hb p (List.mem_cons_of_mem _ hp)) hrest
      exact ⟨by rw [Prod.ext hname hvalue, has], hxy⟩

/-- The attributes of a tag, in the order of their names, are told by its text. -/
theorem attributesText_append_injective {a b : Attributes} {x y : Text}
    (ha : ∀ p ∈ a, IsName p.1) (hb : ∀ p ∈ b, IsName p.1)
    (h : attributesText a ++ '>' :: x = attributesText b ++ '>' :: y) :
    sortByName a = sortByName b ∧ x = y :=
  flatMap_attributeWritten_injective (fun p hp => ha p (mem_sortByName.1 hp))
    (fun p hp => hb p (mem_sortByName.1 hp)) h

/-! ## Attributes with different names -/

/-- If no two attributes have one name, the value of a name is that of any attribute with it. -/
theorem get?_eq_some_iff_mem {attrs : Attributes} (hnodup : (attrs.map (·.1)).Nodup)
    {name value : Text} : attrs.get? name = some value ↔ (name, value) ∈ attrs := by
  induction attrs with
  | nil => simp [Attributes.get?]
  | cons a rest ih =>
    obtain ⟨n, v⟩ := a
    obtain ⟨hn, hrest⟩ := List.nodup_cons.1 hnodup
    unfold Attributes.get? at ih ⊢
    by_cases h : n = name
    · subst h
      rw [List.find?_cons_of_pos (by simp), List.mem_cons]
      constructor
      · intro hv
        exact .inl (by rw [← Option.some.inj hv])
      · rintro (hv | hv)
        · rw [(Prod.mk.inj hv).2]; rfl
        · exact absurd (List.mem_map_of_mem hv) hn
    · rw [List.find?_cons_of_neg (by simpa using h), ih hrest, List.mem_cons]
      constructor
      · exact .inr
      · rintro (hv | hv)
        · exact absurd (Prod.mk.inj hv).1.symm h
        · exact hv

/-- The attributes in the order of their names tell each value. -/
theorem get?_eq_of_sortByName_eq {a b : Attributes} (ha : (a.map (·.1)).Nodup)
    (hb : (b.map (·.1)).Nodup) (h : sortByName a = sortByName b) (name : Text) :
    a.get? name = b.get? name := by
  refine Option.ext fun value => ?_
  rw [get?_eq_some_iff_mem ha, get?_eq_some_iff_mem hb, ← mem_sortByName, h, mem_sortByName]

end LiveMarkdown.Html
