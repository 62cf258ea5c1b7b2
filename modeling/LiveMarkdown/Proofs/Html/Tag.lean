import LiveMarkdown.Html.Markup
import LiveMarkdown.Proofs.Text.Pattern
import LiveMarkdown.Proofs.Text.Preference

/-!
# Plain tags

A tag is plain if its names are made of the letters, digits and marks that every reader knows, and
its values stand in quotes. The reader finds such a tag as it is meant: `openingTag?_of_inner` for
tags that open, `closingTag?_of_name` for those that close. The pattern of a tag has many choices,
but at each of them the text of a plain tag decides for the first one that fits.
-/

namespace LiveMarkdown.Html

open Pattern

/-! ## Names -/

/-- A character of a plain name. -/
def isPlainNameChar (c : Char) : Bool := Text.isLetterOrDigit c || "-.:_".toList.contains c

/-- A plain name: it begins with a letter, and is written in small letters. -/
def IsPlainName (name : Text) : Prop :=
  name.head?.any Text.isLetter ∧ name.all isPlainNameChar ∧ Text.lower name = name

instance (name : Text) : Decidable (IsPlainName name) :=
  inferInstanceAs (Decidable (_ ∧ _ ∧ _))

/-- Space between the parts of a tag. -/
def isTagSpace (c : Char) : Bool := Text.isBlank c && !isNameChar c

/-- What holds of the first 128 characters holds of every one with a lower number. -/
theorem of_toNat_lt {p : Char → Prop} (h : ∀ n : Fin 128, p (Char.ofNat n)) {c : Char}
    (hc : c.toNat < 128) : p c := by
  have := h ⟨c.toNat, hc⟩
  rwa [Char.ofNat_toNat] at this

/-- The characters of plain names are ASCII characters. -/
theorem toNat_lt_of_isPlainNameChar {c : Char} (h : isPlainNameChar c) : c.toNat < 128 := by
  have hle {d e : Char} (hde : d ≤ e) : d.toNat ≤ e.toNat := hde
  simp only [isPlainNameChar, Text.isLetterOrDigit, Text.isLetter, Text.isDigit, Bool.or_eq_true,
    Bool.and_eq_true, decide_eq_true_eq] at h
  rcases h with ((⟨-, h⟩ | ⟨-, h⟩) | ⟨-, h⟩) | h
  · exact Nat.lt_of_le_of_lt (hle h) (by decide)
  · exact Nat.lt_of_le_of_lt (hle h) (by decide)
  · exact Nat.lt_of_le_of_lt (hle h) (by decide)
  · have hall : "-.:_".toList.all (·.toNat < 128) := rfl
    exact of_decide_eq_true (List.all_eq_true.1 hall c (List.contains_iff_mem.1 h))

/-- The characters of plain names have no meaning in a tag. -/
theorem facts_of_isPlainNameChar {c : Char} (h : isPlainNameChar c) :
    isNameChar c ∧ Text.isBlank c = false ∧ c ∉ ['/', '=', '>', '<', '&', '"', '\''] := by
  have hall : ∀ n : Fin 128, isPlainNameChar (Char.ofNat n) →
      isNameChar (Char.ofNat n) ∧ Text.isBlank (Char.ofNat n) = false ∧
        Char.ofNat n ∉ ['/', '=', '>', '<', '&', '"', '\''] := by
    decide
  exact of_toNat_lt (p := fun c => isPlainNameChar c → isNameChar c ∧ Text.isBlank c = false ∧
    c ∉ ['/', '=', '>', '<', '&', '"', '\'']) hall (toNat_lt_of_isPlainNameChar h) h

/-- A plain name begins with a letter. -/
theorem IsPlainName.exists_cons {name : Text} (h : IsPlainName name) :
    ∃ c cs, name = c :: cs ∧ Text.isLetter c ∧ ∀ d ∈ c :: cs, isPlainNameChar d := by
  obtain ⟨hletter, hchars, -⟩ := h
  cases name with
  | nil => cases hletter
  | cons c cs => exact ⟨c, cs, rfl, hletter, List.all_eq_true.1 hchars⟩

/-! ## The inside of a tag -/

/-- The text of a tag from its first attribute, or else its end, on; with the attributes, and whether
the tag closes its element. -/
inductive Inner : Text → Attributes → Bool → Prop
  | opens : Inner ['>'] [] false
  | closes : Inner ['/', '>'] [] true
  | named {name raw space rest : Text} {q : Char} {attrs : Attributes} {closed : Bool} :
    IsPlainName name → q = '"' ∨ q = '\'' → q ∉ raw →
    (∀ c ∈ space, isTagSpace c) → space ≠ [] ∨ attrs = [] → Inner rest attrs closed →
    Inner (name ++ '=' :: q :: (raw ++ q :: (space ++ rest))) ((name, decodeAttribute raw) :: attrs)
      closed

/-- What the inside of a tag begins with. -/
theorem Inner.head {t : Text} {attrs : Attributes} {closed : Bool} (h : Inner t attrs closed) :
    ∃ c rest, t = c :: rest ∧ Text.isBlank c = false ∧ (c = '/' → rest = ['>']) ∧
      (attrs = [] → isNameChar c = false) := by
  cases h with
  | opens => exact ⟨_, _, rfl, by decide, nofun, fun _ => by decide⟩
  | closes => exact ⟨_, _, rfl, by decide, fun _ => rfl, fun _ => by decide⟩
  | named hname =>
    obtain ⟨c, cs, rfl, -, hchars⟩ := hname.exists_cons
    obtain ⟨-, hblank, hmark⟩ := facts_of_isPlainNameChar (hchars c List.mem_cons_self)
    exact ⟨c, _, rfl, hblank, fun hc => absurd (hc ▸ List.mem_cons_self) hmark, nofun⟩

section

variable {t space p : Text} {attrs : Attributes} {closed : Bool}

/-- Space in a tag is blank. -/
theorem isBlank_of_isTagSpace {c : Char} (h : isTagSpace c) : Text.isBlank c :=
  (Bool.and_eq_true_iff.1 h).1

/-- Space in a tag is no part of a name. -/
theorem isNameChar_of_isTagSpace {c : Char} (h : isTagSpace c) : isNameChar c = false := by
  have := (Bool.and_eq_true_iff.1 h).2
  rwa [Bool.not_eq_true'] at this

/-- After space in a tag, the character before is a blank. -/
theorem any_isBlank_last (hspace : ∀ c ∈ space, isTagSpace c) (hne : space ≠ [])
    (before : Option Char) : (space.getLast?.or before).any Text.isBlank := by
  rw [List.getLast?_eq_some_getLast hne]
  exact isBlank_of_isTagSpace (hspace _ (List.getLast_mem hne))

/-- The space before the inside of a tag is passed up to there. -/
theorem takes_gap (hspace : ∀ c ∈ space, isTagSpace c) (h : Inner t attrs closed)
    (before : Option Char) :
    Takes gap ⟨before, space ++ (t ++ p)⟩ ⟨space.getLast?.or before, t ++ p⟩ := by
  refine takes_many_run (fun c hc before more => .first ?_) (fun before => ?_) before
  · exact takes_one (isBlank_of_isTagSpace (hspace c hc))
  · obtain ⟨c, rest, rfl, hblank, hslash, -⟩ := h.head
    refine .alt (fails_one fun d hd => ?_) (fails_one_seq fun d more hd hslash' => ?_)
    · cases hd
      exact hblank
    · obtain ⟨rfl, rfl⟩ := List.cons.inj hd
      rw [hslash (of_decide_eq_true hslash')]
      exact takes_char.notAhead

/-! ## One attribute -/

variable {name raw rest : Text} {q : Char} {before : Option Char}

/-- The pattern for names takes a plain name up to the equals sign. -/
theorem takes_attributeName (hname : IsPlainName name) (hbefore : before.any Text.isBlank)
    (rest : Text) :
    ∃ last, Takes attributeName ⟨before, name ++ '=' :: rest⟩ ⟨last, '=' :: rest⟩ := by
  obtain ⟨c, cs, rfl, -, hchars⟩ := hname.exists_cons
  have hplain {d : Char} (hd : d ∈ c :: cs) :
      Text.isBlank d = false ∧ d ≠ '/' ∧ d ≠ '=' ∧ d ≠ '>' := by
    obtain ⟨-, hblank, hmark⟩ := facts_of_isPlainNameChar (hchars d hd)
    refine ⟨hblank, ?_, ?_, ?_⟩
    · rintro rfl
      exact hmark (by decide)
    · rintro rfl
      exact hmark (by decide)
    · rintro rfl
      exact hmark (by decide)
  refine ⟨_, ((takes_preceded ?_).seq (takes_one ?_)).seq (takes_many_one (fun d hd => ?_) ?_ _)⟩
  · obtain ⟨b, rfl⟩ := Option.isSome_iff_exists.1 (Option.isSome_of_any hbefore)
    simp only [Option.any_some] at hbefore ⊢
    simp [hbefore]
  · obtain ⟨hblank, hslash, -, hbracket⟩ := hplain List.mem_cons_self
    simp [hblank, hslash, hbracket]
  · obtain ⟨hblank, hslash, hequals, hbracket⟩ := hplain (List.mem_cons_of_mem _ hd)
    simp [hblank, hslash, hequals, hbracket]
  · intro d hd
    cases hd
    decide

/-- An equals sign before a quote is taken. -/
theorem takes_equals (hq : q = '"' ∨ q = '\'') (before : Option Char) (rest : Text) :
    Takes equals ⟨before, '=' :: q :: rest⟩ ⟨some '=', q :: rest⟩ := by
  have hblank : Text.isBlank q = false := by
    rcases hq with rfl | rfl
    · decide
    · decide
  have hequals : q ≠ '=' := by
    rcases hq with rfl | rfl
    · decide
    · decide
  have hfirst : Takes (many none blank) ⟨before, '=' :: q :: rest⟩ ⟨before, '=' :: q :: rest⟩ :=
    takes_many_stop (fails_one fun d hd => by cases hd; decide)
  have hsign : Takes (several (char '=')) ⟨before, '=' :: q :: rest⟩ ⟨some '=', q :: rest⟩ :=
    takes_char.seq (takes_many_stop (fails_char fun d hd => by cases hd; exact hequals))
  have hlast : Takes (many none blank) ⟨some '=', q :: rest⟩ ⟨some '=', q :: rest⟩ :=
    takes_many_stop (fails_one fun d hd => by cases hd; exact hblank)
  exact (hfirst.seq hsign).seq hlast

/-- A quoted value is taken with its quotes. -/
theorem takes_quoted (hraw : q ∉ raw) :
    Takes (char q ++ many none (one (· ≠ q)) ++ char q) ⟨before, q :: (raw ++ q :: rest)⟩
      ⟨some q, rest⟩ := by
  refine (takes_char.seq (takes_many_one (fun c hc => ?_) (fun c hc => ?_) _)).seq takes_char
  · exact decide_eq_true fun h => hraw (h ▸ hc)
  · cases hc
    exact decide_eq_false fun h => h rfl

/-- The pattern for values takes a quoted value. -/
theorem takes_attributeValue (hq : q = '"' ∨ q = '\'') (hraw : q ∉ raw) (before : Option Char)
    (rest : Text) :
    Takes attributeValue ⟨before, q :: (raw ++ q :: rest)⟩ ⟨some q, rest⟩ := by
  rcases hq with rfl | rfl
  · refine Takes.second (Fails.seq (Fails.seq (fails_char fun d hd => ?_))) (takes_quoted hraw).first
    cases hd
    decide
  · exact (takes_quoted hraw).first

/-! ## The whole tag -/

/-- An attribute with what comes after it, as it stands in the pattern of a tag. -/
def attributeTurn : Pattern :=
  attributeName ++ optional (equals ++ attributeValue ++ many none blank) ++ gap

/-- What a character of the inside's beginning is not. -/
theorem Inner.fails_blank (h : Inner t attrs closed) (before : Option Char) :
    Fails blank ⟨before, t ++ p⟩ := by
  obtain ⟨c, rest, rfl, hblank, -, -⟩ := h.head
  refine fails_one fun d hd => ?_
  cases hd
  exact hblank

/-- The bracket that ends a tag, or the slash before it. -/
theorem fails_attributeTurn {c : Char} (hc : c = '>' ∨ c = '/') :
    Fails attributeTurn ⟨before, c :: rest⟩ := by
  refine Fails.seq (Fails.seq (Fails.seq (Fails.preceded_seq (fails_one fun d hd => ?_))))
  cases hd
  rcases hc with rfl | rfl
  · decide
  · decide

/-- The attributes of a tag are turns of the pattern, up to the tag's end. -/
theorem Inner.turns (h : Inner t attrs closed) :
    ∀ before : Option Char, (attrs ≠ [] → before.any Text.isBlank) →
      ∃ last stop, Turns attributeTurn attrs.length ⟨before, t ++ p⟩ ⟨last, stop ++ p⟩ ∧
        (stop = ['>'] ∨ stop = ['/', '>']) := by
  induction h with
  | opens => exact fun before _ => ⟨before, _, .stop (fails_attributeTurn (.inl rfl)), .inl rfl⟩
  | closes => exact fun before _ => ⟨before, _, .stop (fails_attributeTurn (.inr rfl)), .inr rfl⟩
  | @named name raw space rest q attrs closed hname hq hraw hspace hgap hrest ih =>
    intro before hbefore
    have hlast (hne : attrs ≠ []) : (space.getLast?.or (some q)).any Text.isBlank :=
      any_isBlank_last hspace (hgap.resolve_right hne) _
    obtain ⟨last, stop, hturns, hstop⟩ := ih _ hlast
    refine ⟨last, stop, .turn ?_ hturns, hstop⟩
    obtain ⟨afterName, hturn⟩ := takes_attributeName hname (hbefore (List.cons_ne_nil _ _))
      (q :: (raw ++ q :: (space ++ (rest ++ p))))
    have hblanks : Takes (many none blank) ⟨some q, space ++ (rest ++ p)⟩
        ⟨space.getLast?.or (some q), rest ++ p⟩ :=
      takes_many_run (fun c hc _ _ => takes_one (isBlank_of_isTagSpace (hspace c hc)))
        hrest.fails_blank _
    have hvalue := ((takes_equals hq afterName _).seq
      (takes_attributeValue hq hraw _ (space ++ (rest ++ p)))).seq hblanks
    have hnone : ∀ c ∈ ([] : Text), isTagSpace c := nofun
    have hstay := takes_gap (p := p) hnone hrest (space.getLast?.or (some q))
    simp only [List.append_assoc, List.cons_append]
    exact (hturn.seq (hvalue.optional (List.cons_ne_nil _ _))).seq hstay

/-- A tag has no more attributes than characters. -/
theorem Inner.length_attrs_le (h : Inner t attrs closed) : attrs.length ≤ t.length := by
  induction h with
  | opens => exact Nat.zero_le _
  | closes => exact Nat.zero_le _
  | named _ _ _ _ _ _ ih =>
    simp only [List.length_cons, List.length_append]
    omega

/-- What comes after a tag's name in its pattern: space and slashes, and then the attributes. -/
theorem Inner.takes_afterName (h : Inner t attrs closed) (hspace : ∀ c ∈ space, isTagSpace c)
    (hgap : space ≠ [] ∨ attrs = []) (before : Option Char) :
    ∃ mid last stop, Takes (many none (alt blank (char '/'))) ⟨before, space ++ (t ++ p)⟩ mid ∧
      Takes (many none attributeTurn) mid ⟨last, stop ++ p⟩ ∧
      (stop = ['>'] ∨ stop = ['/', '>']) := by
  have hblank {c : Char} (hc : c ∈ space) (b : Option Char) (more : Text) :
      Takes (alt blank (char '/')) ⟨b, c :: more⟩ ⟨some c, more⟩ :=
    (takes_one (isBlank_of_isTagSpace (hspace c hc))).first
  have hbracket (b : Option Char) : Fails (alt blank (char '/')) ⟨b, '>' :: p⟩ :=
    .alt (fails_one fun d hd => by cases hd; decide) (fails_char fun d hd => by cases hd; decide)
  have hstop (b : Option Char) : Takes (many none attributeTurn) ⟨b, '>' :: p⟩ ⟨b, '>' :: p⟩ :=
    takes_many_stop (fails_attributeTurn (.inl rfl))
  have hturns := h.turns (p := p)
  have hlength := h.length_attrs_le
  cases h with
  | opens =>
    exact ⟨_, _, _, takes_many_run (fun c hc => hblank hc) hbracket _, hstop _, .inl rfl⟩
  | closes =>
    have hrun : Takes (many none (alt blank (char '/'))) ⟨before, (space ++ ['/']) ++ '>' :: p⟩ _ :=
      takes_many_run (fun c hc b more => ?_) hbracket _
    · rw [List.append_assoc] at hrun
      exact ⟨_, _, _, hrun, hstop _, .inl rfl⟩
    · rcases List.mem_append.1 hc with hc | hc
      · exact hblank hc b more
      · obtain rfl := List.mem_singleton.1 hc
        exact .second (fails_one fun d hd => by cases hd; decide) takes_char
  | named hname hq hraw hspace' hgap' hrest =>
    obtain ⟨last, stop, hturns, hstop⟩ := hturns _ fun _ =>
      any_isBlank_last hspace (hgap.resolve_right (List.cons_ne_nil _ _)) before
    refine ⟨_, last, stop, takes_many_run (fun c hc => hblank hc) (fun b => ?_) _,
      hturns.takes ?_, hstop⟩
    · obtain ⟨c, cs, rfl, -, hchars⟩ := hname.exists_cons
      obtain ⟨-, hnone, hmark⟩ := facts_of_isPlainNameChar (hchars c List.mem_cons_self)
      refine .alt (fails_one fun d hd => ?_) (fails_char fun d hd => ?_)
      · cases hd
        exact hnone
      · cases hd
        exact fun hc => hmark (hc ▸ List.mem_cons_self)
    · simp only [List.length_append]
      simp only [List.length_append] at hlength
      omega

/-- The pattern of a tag leads to the tag's end. -/
theorem takes_tagBody (hname : IsPlainName name) (hspace : ∀ c ∈ space, isTagSpace c)
    (hgap : space ≠ [] ∨ attrs = []) (h : Inner t attrs closed) (before : Option Char) :
    ∃ last stop, Takes tagBody ⟨before, '<' :: (name ++ (space ++ (t ++ p)))⟩ ⟨last, stop ++ p⟩ ∧
      (stop = ['>'] ∨ stop = ['/', '>']) := by
  obtain ⟨c, cs, rfl, hletter, hchars⟩ := hname.exists_cons
  have hname : Takes (many none (one isNameChar)) ⟨some c, cs ++ (space ++ (t ++ p))⟩
      ⟨cs.getLast?.or (some c), space ++ (t ++ p)⟩ := by
    refine takes_many_one (fun d hd => ?_) (fun d hd => ?_) _
    · exact (facts_of_isPlainNameChar (hchars d (List.mem_cons_of_mem _ hd))).1
    · cases space with
      | nil =>
        obtain ⟨e, rest, rfl, -, -, hmark⟩ := h.head
        cases hd
        exact hmark (hgap.resolve_left fun hne => hne rfl)
      | cons _ space =>
        cases hd
        exact isNameChar_of_isTagSpace (hspace _ List.mem_cons_self)
  obtain ⟨mid, last, stop, hgap, hattrs, hstop⟩ :=
    h.takes_afterName (p := p) hspace hgap (cs.getLast?.or (some c))
  refine ⟨last, stop, ?_, hstop⟩
  have hstay : Takes (many none blank) ⟨last, stop ++ p⟩ ⟨last, stop ++ p⟩ := by
    refine takes_many_stop (fails_one fun d hd => ?_)
    rcases hstop with rfl | rfl
    · cases hd
      decide
    · cases hd
      decide
  exact ((((takes_char.seq (takes_one hletter)).seq hname).seq hgap).seq hattrs).seq hstay

/-- A tag ends where its text says. -/
theorem tagEnd?_of_inner (hname : IsPlainName name) (hspace : ∀ c ∈ space, isTagSpace c)
    (hgap : space ≠ [] ∨ attrs = []) (h : Inner t attrs closed) :
    tagEnd? ⟨before, '<' :: (name ++ (space ++ (t ++ p)))⟩ = some ⟨some '>', p⟩ := by
  obtain ⟨last, stop, htakes, hstop⟩ := takes_tagBody (p := p) hname hspace hgap h before
  rw [tagEnd?, htakes.after?]
  rcases hstop with rfl | rfl
  · rfl
  · rfl

/-- The end of a tag as it is written. -/
def endText (closed : Bool) : Text := if closed then ['/', '>'] else ['>']

/-- An equals sign and a quoted value are taken apart. -/
theorem parts?_value (hq : q = '"' ∨ q = '\'') (hraw : q ∉ raw) :
    parts? [equals, attributeValue] ⟨before, '=' :: q :: (raw ++ q :: rest)⟩ =
      some ([['='], q :: (raw ++ [q])], ⟨some q, rest⟩) := by
  have hequals : Place.upTo ⟨before, '=' :: q :: (raw ++ q :: rest)⟩
      ⟨some '=', q :: (raw ++ q :: rest)⟩ = ['='] := Place.upTo_of_append rfl
  have hvalue : Place.upTo ⟨some '=', q :: (raw ++ q :: rest)⟩ ⟨some q, rest⟩ =
      q :: (raw ++ [q]) := Place.upTo_of_append (by simp)
  have hlast := (takes_attributeValue hq hraw (some '=') rest).parts?_one
  have := (takes_equals hq before (raw ++ q :: rest)).parts?_cons hlast
  rwa [hequals, hvalue] at this

/-- A quoted value is what stands between the quotes. -/
theorem unquote_quoted (hq : q = '"' ∨ q = '\'') : unquote (q :: (raw ++ [q])) = raw := by
  rcases hq with rfl | rfl
  · exact List.dropLast_concat
  · exact List.dropLast_concat

/-- The attributes of a tag are read as they are meant. -/
theorem Inner.attributesFrom (h : Inner t attrs closed) {stop : Place} (hstop : stop.rest = p) :
    ∀ (before : Option Char) (fuel : Nat), (attrs ≠ [] → before.any Text.isBlank) →
      attrs.length ≤ fuel → ∃ last, attributesFrom stop fuel ⟨before, t ++ p⟩ =
        (attrs, ⟨last, endText closed ++ p⟩) := by
  have hnone {c : Char} {before : Option Char} {rest : Text} (hc : c = '>' ∨ c = '/')
      (fuel : Nat) : Html.attributesFrom stop fuel ⟨before, c :: rest⟩ = ([], ⟨before, c :: rest⟩) := by
    have hfails : Fails attributeName ⟨before, c :: rest⟩ := by
      refine Fails.seq (Fails.preceded_seq (fails_one fun d hd => ?_))
      cases hd
      rcases hc with rfl | rfl
      · decide
      · decide
    cases fuel with
    | zero => rfl
    | succ fuel =>
      rw [Html.attributesFrom, hfails.after?]
      split
      · rfl
      · rfl
  induction h with
  | opens => exact fun before fuel _ _ => ⟨before, hnone (.inl rfl) fuel⟩
  | closes => exact fun before fuel _ _ => ⟨before, hnone (.inr rfl) fuel⟩
  | @named name raw space rest q attrs closed hname hq hraw hspace hgap hrest ih =>
    intro before fuel hbefore hfuel
    obtain ⟨fuel, rfl⟩ := Nat.exists_eq_succ_of_ne_zero (Nat.ne_of_gt (Nat.lt_of_lt_of_le
      (Nat.succ_pos attrs.length) hfuel))
    have hlast (hne : attrs ≠ []) : (space.getLast?.or (some q)).any Text.isBlank :=
      any_isBlank_last hspace (hgap.resolve_right hne) _
    obtain ⟨last, hmore⟩ := ih _ fuel hlast (Nat.le_of_succ_le_succ hfuel)
    obtain ⟨afterName, htakes⟩ := takes_attributeName hname (hbefore (List.cons_ne_nil _ _))
      (q :: (raw ++ q :: (space ++ (rest ++ p))))
    have hread : Place.upTo ⟨before, name ++ '=' :: q :: (raw ++ q :: (space ++ (rest ++ p)))⟩
        ⟨afterName, '=' :: q :: (raw ++ q :: (space ++ (rest ++ p)))⟩ = name :=
      Place.upTo_of_append rfl
    refine ⟨last, ?_⟩
    simp only [List.append_assoc, List.cons_append]
    rw [Html.attributesFrom, if_neg (by simp [hstop]; omega), htakes.after?]
    simp only [parts?_value hq hraw, (takes_gap hspace hrest _).after?, unquote_quoted hq, hread,
      hname.2.2, Option.getD_some, hmore]

/-- The name of a tag ends with its characters. -/
theorem takeWhile_isNameChar (hname : IsPlainName name) (hspace : ∀ c ∈ space, isTagSpace c)
    (hgap : space ≠ [] ∨ attrs = []) (h : Inner t attrs closed) :
    (name ++ (space ++ (t ++ p))).takeWhile isNameChar = name := by
  obtain ⟨c, cs, rfl, -, hchars⟩ := hname.exists_cons
  rw [List.takeWhile_append_of_pos fun d hd => (facts_of_isPlainNameChar (hchars d hd)).1]
  have hstop : (space ++ (t ++ p)).takeWhile isNameChar = [] := by
    cases space with
    | nil =>
      obtain ⟨d, rest, rfl, -, -, hmark⟩ := h.head
      exact List.takeWhile_cons_of_neg
        (Bool.eq_false_iff.1 (hmark (hgap.resolve_left fun hne => hne rfl)))
    | cons d space =>
      exact List.takeWhile_cons_of_neg
        (Bool.eq_false_iff.1 (isNameChar_of_isTagSpace (hspace d List.mem_cons_self)))
  rw [hstop, List.append_nil]

/-- A plain tag that opens an element is read as it is meant. -/
theorem openingTag?_of_inner (hname : IsPlainName name) (hverbatim : isVerbatim name = false)
    (hspace : ∀ c ∈ space, isTagSpace c) (hgap : space ≠ [] ∨ attrs = [])
    (h : Inner t attrs closed) :
    openingTag? ⟨before, '<' :: (name ++ (space ++ (t ++ p)))⟩ =
      some ⟨[.opening name attrs closed], none, ⟨some '>', p⟩⟩ := by
  have hlast : attrs ≠ [] →
      (space.getLast?.or (name.getLast?.or (some '<'))).any Text.isBlank :=
    fun hne => any_isBlank_last hspace (hgap.resolve_right hne) _
  have hlength : attrs.length ≤ ('<' :: (name ++ (space ++ (t ++ p)))).length := by
    have := h.length_attrs_le
    simp only [List.length_cons, List.length_append]
    omega
  have hrest : Place.rest ⟨some '>', p⟩ = p := rfl
  obtain ⟨last, hattrs⟩ := h.attributesFrom hrest _ _ hlast hlength
  have hafter : Place.advance ⟨before, '<' :: (name ++ (space ++ (t ++ p)))⟩ (name.length + 1) =
      ⟨name.getLast?.or (some '<'), space ++ (t ++ p)⟩ :=
    Place.advance_append (some '<') name (space ++ (t ++ p))
  have htail : Place.upTo ⟨last, endText closed ++ p⟩ ⟨some '>', p⟩ = endText closed :=
    Place.upTo_of_append rfl
  rw [openingTag?, tagEnd?_of_inner hname hspace hgap h]
  simp only [Option.map_some, List.drop_succ_cons, List.drop_zero,
    takeWhile_isNameChar hname hspace hgap h, hafter, (takes_gap hspace h _).after?,
    Option.getD_some, hattrs, htail, hname.2.2, hverbatim]
  cases closed with
  | true => rfl
  | false => rfl

/-- A plain tag that closes an element is read as it is meant. -/
theorem closingTag?_of_name (hname : IsPlainName name) :
    closingTag? none ⟨before, '<' :: '/' :: (name ++ '>' :: p)⟩ =
      some ⟨[.closing name], none, ⟨some '>', p⟩⟩ := by
  obtain ⟨c, cs, rfl, hletter, hchars⟩ := hname.exists_cons
  have hblank (b : Option Char) (d : Char) (rest : Text) (hd : Text.isBlank d = false) :
      Takes (many none blank) ⟨b, d :: rest⟩ ⟨b, d :: rest⟩ :=
    takes_many_stop (fails_one fun e he => by cases he; exact hd)
  have hstart : Takes (text ['<', '/'] ++ many none blank)
      ⟨before, '<' :: '/' :: (c :: cs ++ '>' :: p)⟩ ⟨some '/', c :: cs ++ '>' :: p⟩ :=
    (takes_char.seq takes_char).seq
      (hblank _ _ _ (facts_of_isPlainNameChar (hchars c List.mem_cons_self)).2.1)
  have hmiddle : Takes (one Text.isLetter ++ many none (one fun c =>
      Text.isLetterOrDigit c || "-.:_".toList.contains c)) ⟨some '/', c :: cs ++ '>' :: p⟩
      ⟨cs.getLast?.or (some c), '>' :: p⟩ := by
    refine (takes_one hletter).seq (takes_many_one (fun d hd => ?_) (fun d hd => ?_) _)
    · exact hchars d (List.mem_cons_of_mem _ hd)
    · cases hd
      decide
  have hend : Takes (many none blank ++ char '>') ⟨cs.getLast?.or (some c), '>' :: p⟩
      ⟨some '>', p⟩ := (hblank _ _ _ (by decide)).seq takes_char
  have hparts := hstart.parts?_cons (hmiddle.parts?_cons hend.parts?_one)
  have hread : Place.upTo ⟨some '/', c :: cs ++ '>' :: p⟩ ⟨cs.getLast?.or (some c), '>' :: p⟩ =
      c :: cs := Place.upTo_of_append rfl
  rw [closingTag?, closingName, hparts]
  simp only [hread, hname.2.2]

end

end LiveMarkdown.Html
