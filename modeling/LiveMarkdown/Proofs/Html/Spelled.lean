import LiveMarkdown.Html.Tree
import LiveMarkdown.Proofs.Html.Tag

/-!
# How a text is spelled

`Spelled t pieces` says that `t` is text with references and plain tags, and what it is read as,
piece by piece and with each character a piece of its own. Such texts can be put one after the other.

The reader of pages puts characters that follow each other into one piece. Up to that (`Joined`) it
reads what is spelled (`markup_of_spelled`).
-/

namespace LiveMarkdown.Html

open Pattern

/-- A text made of characters, references and plain tags, with what each of them is read as. An
ampersand may stand for itself where no reference can begin. -/
inductive Spelled : Text → List Markup → Prop
  | nil : Spelled [] []
  | char {c : Char} {t : Text} {pieces : List Markup} :
    c ≠ '<' → c ≠ '&' → Spelled t pieces → Spelled (c :: t) (.text [c] :: pieces)
  | ampersand {c : Char} {t : Text} {pieces : List Markup} :
    Text.isLetter c = false → c ≠ '#' → Spelled (c :: t) pieces →
    Spelled ('&' :: c :: t) (.text ['&'] :: pieces)
  | reference {name t : Text} {pieces : List Markup} :
    name.head?.any Text.isLetter → name.all Text.isLetterOrDigit → Spelled t pieces →
    Spelled ('&' :: (name ++ ';' :: t)) (.text ((entity? name).getD ('&' :: name)) :: pieces)
  | opening {name space inner t : Text} {attrs : Attributes} {closed : Bool}
      {pieces : List Markup} :
    IsPlainName name → isVerbatim name = false → (∀ c ∈ space, isTagSpace c) →
    space ≠ [] ∨ attrs = [] → Inner inner attrs closed → Spelled t pieces →
    Spelled ('<' :: (name ++ (space ++ (inner ++ t)))) (.opening name attrs closed :: pieces)
  | closing {name t : Text} {pieces : List Markup} :
    IsPlainName name → Spelled t pieces →
    Spelled ('<' :: '/' :: (name ++ '>' :: t)) (.closing name :: pieces)

/-- Texts one after the other are read one after the other. -/
theorem Spelled.append {t u : Text} {pieces more : List Markup} (ht : Spelled t pieces)
    (hu : Spelled u more) : Spelled (t ++ u) (pieces ++ more) := by
  induction ht with
  | nil => exact hu
  | char hlt hamp _ ih => exact .char hlt hamp ih
  | ampersand hletter hsign _ ih => exact .ampersand hletter hsign ih
  | reference hletter hname _ ih =>
    simp only [List.cons_append, List.append_assoc]
    exact .reference hletter hname ih
  | opening hname hverbatim hspace hgap hinner _ ih =>
    simp only [List.cons_append, List.append_assoc]
    exact .opening hname hverbatim hspace hgap hinner ih
  | closing hname _ ih =>
    simp only [List.cons_append, List.append_assoc]
    exact .closing hname ih

/-! ## Pieces -/

/-- The characters of a text, each as a piece. -/
def charPieces (u : Text) : List Markup := u.map fun c => .text [c]

/-- The pieces on the left are those on the right, with some characters joined. -/
inductive Joined : List Markup → List Markup → Prop
  | nil : Joined [] []
  | piece (m : Markup) {pieces fine : List Markup} :
    Joined pieces fine → Joined (m :: pieces) (m :: fine)
  | run {u : Text} {pieces fine : List Markup} :
    u ≠ [] → Joined pieces fine → Joined (.text u :: pieces) (charPieces u ++ fine)

/-- The tags that open elements among the pieces. -/
def openings (pieces : List Markup) : List (Text × Attributes) :=
  pieces.filterMap fun m => match m with
    | .opening name attrs _ => some (name, attrs)
    | _ => none

/-- The openings of pieces come one after the other. -/
theorem openings_append (pieces more : List Markup) :
    openings (pieces ++ more) = openings pieces ++ openings more := List.filterMap_append

/-- Characters open nothing. -/
theorem openings_charPieces (u : Text) : openings (charPieces u) = [] := by
  induction u with
  | nil => rfl
  | cons c rest ih => exact ih

/-- A piece that is text or a tag. -/
def Markup.IsRunning : Markup → Prop
  | .text _ | .opening _ _ _ | .closing _ => True
  | _ => False

/-- What is spelled is text and tags. -/
theorem Spelled.isRunning {t : Text} {pieces : List Markup} (h : Spelled t pieces) :
    ∀ m ∈ pieces, m.IsRunning := by
  induction h with
  | nil => exact List.forall_mem_nil _
  | char _ _ _ ih | ampersand _ _ _ ih | reference _ _ _ ih | opening _ _ _ _ _ _ ih | closing _ _ ih =>
    exact List.forall_mem_cons.2 ⟨trivial, ih⟩

namespace Joined

variable {pieces fine : List Markup} (h : Joined pieces fine)
include h

/-- Joining characters leaves the openings. -/
theorem openings_eq : openings pieces = openings fine := by
  induction h with
  | nil => rfl
  | @piece m pieces fine _ ih =>
    have hcons (rest : List Markup) : openings (m :: rest) = openings [m] ++ openings rest :=
      openings_append [m] rest
    rw [hcons pieces, hcons fine, ih]
  | run _ _ ih =>
    rw [openings_append, openings_charPieces, ← ih]
    rfl

/-- Joining characters makes text and tags of text and tags. -/
theorem isRunning (hfine : ∀ m ∈ fine, m.IsRunning) : ∀ m ∈ pieces, m.IsRunning := by
  induction h with
  | nil => exact hfine
  | piece m _ ih =>
    obtain ⟨hm, hrest⟩ := List.forall_mem_cons.1 hfine
    exact List.forall_mem_cons.2 ⟨hm, ih hrest⟩
  | run _ _ ih =>
    exact List.forall_mem_cons.2 ⟨trivial, ih (List.forall_mem_append.1 hfine).2⟩

end Joined

/-- Nothing comes of nothing. -/
theorem Joined.eq_nil {pieces fine : List Markup} (h : Joined pieces fine) (hfine : fine = []) :
    pieces = [] := by
  cases h with
  | nil => rfl
  | piece => cases hfine
  | run hne => exact absurd (List.map_eq_nil_iff.1 (List.append_eq_nil_iff.1 hfine).1) hne

/-! ## Reading on from the next markup -/

/-- A reading that comes to the end of the page, with these pieces. -/
structure Reading.IsWhole (r : Reading) (fine : List Markup) : Prop where
  verbatim : r.verbatim = none
  atEnd : r.next.rest = []
  pieces : Joined r.pieces fine

section

variable {u more : Text} {before : Option Char} {final : Bool} {fuel : Nat} {last : Reading}
  {m : Markup} {next : Place} {fine : List Markup}

/-- Text up to the next bracket or ampersand is no markup. -/
theorem nextMarkup?_none {t : Text} (hu : ∀ c ∈ u, c ≠ '<' ∧ c ≠ '&')
    (ht : ∀ c ∈ t.head?, c = '<' ∨ c = '&') (before : Option Char) :
    nextMarkup? none ⟨before, u ++ t⟩ = some ⟨u.getLast?.or before, t⟩ := by
  have hrun : (u ++ t).takeWhile (fun c => c ≠ '<' && c ≠ '&') = u := by
    rw [List.takeWhile_append_of_pos fun c hc => by simpa using hu c hc]
    cases t with
    | nil => exact List.append_nil u
    | cons c t =>
      have hstop : ¬(decide (c ≠ '<') && decide (c ≠ '&')) = true := by
        rcases ht c rfl with rfl | rfl
        · decide
        · decide
      rw [List.takeWhile_cons, if_neg hstop, List.append_nil]
  rw [nextMarkup?, hrun, Place.advance_append]

/-- The text before the next markup, as pieces. -/
def textBefore (u : Text) (before : Option Char) (t : Text) : List Markup :=
  if t.length < (u ++ t).length then
    [.text (Place.upTo ⟨before, u ++ t⟩ ⟨u.getLast?.or before, t⟩)]
  else []

/-- Where no text is before the markup, there is no piece for it. -/
theorem textBefore_nil (before : Option Char) (t : Text) : textBefore [] before t = [] :=
  if_neg (Nat.lt_irrefl _)

/-- The text before the next markup is joined. -/
theorem Joined.after {pieces : List Markup} (h : Joined pieces fine) (u : Text)
    (before : Option Char) (t : Text) :
    Joined (textBefore u before t ++ pieces) (charPieces u ++ fine) := by
  cases u with
  | nil =>
    rw [textBefore_nil]
    exact h
  | cons c u =>
    have hread : Place.upTo ⟨before, c :: u ++ t⟩ ⟨(c :: u).getLast?.or before, t⟩ = c :: u :=
      Place.upTo_of_append rfl
    rw [textBefore, if_pos (by simp only [List.length_append, List.length_cons]; omega), hread]
    exact .run (List.cons_ne_nil _ _) h

/-- Text, one more piece, and what is read after it. -/
theorem Reading.IsWhole.after (h : last.IsWhole fine) (m : Markup) (u : Text) (before : Option Char)
    (t : Text) : Reading.IsWhole { last with pieces := textBefore u before t ++ [m] ++ last.pieces }
      (charPieces u ++ m :: fine) where
  verbatim := h.verbatim
  atEnd := h.atEnd
  pieces := by
    rw [List.append_assoc]
    exact (Joined.piece m h.pieces).after u before t

/-- Reading passes a tag. -/
theorem readFrom_tag (hu : ∀ c ∈ u, c ≠ '<' ∧ c ≠ '&') (hmore : more ≠ [])
    (htag : tag? none ⟨u.getLast?.or before, '<' :: more⟩ = .ok (some ⟨[m], none, next⟩))
    (hlast : readFrom final fuel none next = .ok last) (h : last.IsWhole fine) :
    ∃ r, readFrom final (fuel + 1) none ⟨before, u ++ '<' :: more⟩ = .ok r ∧
      r.IsWhole (charPieces u ++ m :: fine) := by
  have hmarkup := nextMarkup?_none (t := '<' :: more) hu (fun c hc => .inl (by cases hc; rfl)) before
  refine ⟨_, ?_, h.after m u before ('<' :: more)⟩
  rw [readFrom, hmarkup]
  simp only [htag, hlast, List.isEmpty_eq_false_iff.2 hmore]
  rfl

/-- Reading passes a reference. -/
theorem readFrom_reference (hu : ∀ c ∈ u, c ≠ '<' ∧ c ≠ '&')
    (hreference : reference final ⟨u.getLast?.or before, '&' :: more⟩ = .inl ⟨[m], none, next⟩)
    (hlast : readFrom final fuel none next = .ok last) (h : last.IsWhole fine) :
    ∃ r, readFrom final (fuel + 1) none ⟨before, u ++ '&' :: more⟩ = .ok r ∧
      r.IsWhole (charPieces u ++ m :: fine) := by
  have hmarkup := nextMarkup?_none (t := '&' :: more) hu (fun c hc => .inr (by cases hc; rfl)) before
  refine ⟨_, ?_, h.after m u before ('&' :: more)⟩
  rw [readFrom, hmarkup]
  simp only [hreference, hlast]
  rfl

/-- At the end of the page there is nothing but text. -/
theorem readFrom_end (hu : ∀ c ∈ u, c ≠ '<' ∧ c ≠ '&') :
    ∃ r, readFrom final (fuel + 1) none ⟨before, u⟩ = .ok r ∧ r.IsWhole (charPieces u) := by
  have hmarkup := nextMarkup?_none (t := []) hu nofun before
  have hpieces := Joined.nil.after u before []
  rw [List.append_nil] at hmarkup hpieces
  rw [List.append_nil] at hpieces
  refine ⟨⟨textBefore u before [], none, ⟨u.getLast?.or before, []⟩⟩, ?_, rfl, rfl, hpieces⟩
  rw [readFrom, hmarkup]
  simp only [textBefore, List.append_nil]

end

/-! ## Tags and references -/

/-- An opening tag is read as it is spelled. -/
theorem tag?_opening {name space inner t : Text} {attrs : Attributes} {closed : Bool}
    {before : Option Char} (hname : IsPlainName name) (hverbatim : isVerbatim name = false)
    (hspace : ∀ c ∈ space, isTagSpace c) (hgap : space ≠ [] ∨ attrs = [])
    (h : Inner inner attrs closed) :
    tag? none ⟨before, '<' :: (name ++ (space ++ (inner ++ t)))⟩ =
      .ok (some ⟨[.opening name attrs closed], none, ⟨some '>', t⟩⟩) := by
  have hopening : openingTag? ⟨before, '<' :: (name ++ (space ++ (inner ++ t)))⟩ =
      some ⟨[.opening name attrs closed], none, ⟨some '>', t⟩⟩ :=
    openingTag?_of_inner hname hverbatim hspace hgap h
  obtain ⟨c, cs, rfl, hletter, -⟩ := hname.exists_cons
  have hne (d : Char) (hd : Text.isLetter d = false) : c ≠ d :=
    fun hc => by rw [hc, hd] at hletter; cases hletter
  rw [tag?]
  simp only [List.drop_succ_cons, List.drop_zero, List.cons_append]
  split
  · next heq => exact absurd (List.cons.inj heq).1 (hne _ (by decide))
  · next heq => exact absurd (List.cons.inj heq).1 (hne _ (by decide))
  · next heq => exact absurd (List.cons.inj heq).1 (hne _ (by decide))
  · next heq =>
    rw [← (List.cons.inj heq).1, if_pos hletter]
    exact congrArg Except.ok hopening
  · next heq => cases heq

/-- A closing tag is read as it is spelled. -/
theorem tag?_closing {name t : Text} {before : Option Char} (hname : IsPlainName name) :
    tag? none ⟨before, '<' :: '/' :: (name ++ '>' :: t)⟩ =
      .ok (some ⟨[.closing name], none, ⟨some '>', t⟩⟩) :=
  congrArg Except.ok (closingTag?_of_name hname)

/-- A name with a semicolon after it is a reference. -/
theorem reference_named {name t : Text} {before : Option Char} (final : Bool)
    (hletter : name.head?.any Text.isLetter) (hname : name.all Text.isLetterOrDigit) :
    reference final ⟨before, '&' :: (name ++ ';' :: t)⟩ =
      .inl ⟨[.text ((entity? name).getD ('&' :: name))], none, ⟨some ';', t⟩⟩ := by
  cases name with
  | nil => cases hletter
  | cons c cs =>
    have hchars := List.all_eq_true.1 hname
    have hname : Takes (one Text.isLetter ++ many none (one fun c =>
        Text.isLetterOrDigit c || c = '-' || c = '.')) ⟨some '&', c :: cs ++ ';' :: t⟩
        ⟨cs.getLast?.or (some c), ';' :: t⟩ := by
      refine (takes_one hletter).seq (takes_many_one (fun d hd => ?_) (fun d hd => ?_) _)
      · rw [hchars d (List.mem_cons_of_mem _ hd)]
        rfl
      · cases hd
        decide
    have hend : Takes (one fun c => !Text.isLetterOrDigit c) ⟨cs.getLast?.or (some c), ';' :: t⟩
        ⟨some ';', t⟩ := takes_one (by decide)
    have hstart : Takes (char '&') ⟨before, '&' :: (c :: cs ++ ';' :: t)⟩
        ⟨some '&', c :: cs ++ ';' :: t⟩ := takes_char
    have hparts := hstart.parts?_cons (hname.parts?_cons hend.ahead.parts?_one)
    have hsign : c ≠ '#' := fun hc => by
      have hletter : Text.isLetter c := hletter
      rw [hc] at hletter
      exact absurd hletter (by decide)
    have hread : Place.upTo ⟨some '&', c :: cs ++ ';' :: t⟩ ⟨cs.getLast?.or (some c), ';' :: t⟩ =
        c :: cs := Place.upTo_of_append rfl
    rw [reference, if_neg (by simpa using hsign), named?, hparts]
    simp only [hread]
    rfl

/-- An ampersand before a character that is no letter stands for itself. -/
theorem reference_ampersand {c : Char} {t : Text} {before : Option Char} (final : Bool)
    (hletter : Text.isLetter c = false) (hsign : c ≠ '#') :
    reference final ⟨before, '&' :: c :: t⟩ = .inl ⟨[.text ['&']], none, ⟨some '&', c :: t⟩⟩ := by
  have hnone : named? ⟨before, '&' :: c :: t⟩ = none := by
    have hfails : Fails (one Text.isLetter ++ many none (one fun c =>
        Text.isLetterOrDigit c || c = '-' || c = '.')) ⟨some '&', c :: t⟩ :=
      Fails.seq (fails_one fun d hd => by cases hd; exact hletter)
    have hparts : parts? [char '&', one Text.isLetter ++ many none (one fun c =>
        Text.isLetterOrDigit c || c = '-' || c = '.'), ahead (one fun c => !Text.isLetterOrDigit c)]
        ⟨before, '&' :: c :: t⟩ = none := by
      rw [parts?, char, follow_one (by decide), parts?, hfails]
      rfl
    rw [named?, hparts]
  rw [reference, if_neg (by simpa using hsign), hnone]
  simp only [List.drop_succ_cons, List.drop_zero, hletter]
  rfl

/-! ## Whole pages -/

/-- What is spelled, after any text, is read to its end. -/
theorem Spelled.readFrom {t : Text} {pieces : List Markup} (h : Spelled t pieces) (final : Bool) :
    ∀ (u : Text) (before : Option Char) (fuel : Nat), (∀ c ∈ u, c ≠ '<' ∧ c ≠ '&') →
      t.length < fuel → ∃ r, Html.readFrom final fuel none ⟨before, u ++ t⟩ = .ok r ∧
        r.IsWhole (charPieces u ++ pieces) := by
  -- The reader takes text in one piece up to the next markup. So characters are collected in `u`,
  -- and only at markup, or at the end, a turn is made.
  induction h with
  | nil =>
    intro u before fuel hu hfuel
    obtain ⟨fuel, rfl⟩ := Nat.exists_eq_succ_of_ne_zero (Nat.ne_of_gt hfuel)
    rw [List.append_nil, List.append_nil]
    exact readFrom_end hu
  | @char c t pieces hlt hamp _ ih =>
    intro u before fuel hu hfuel
    have hmore := ih (u ++ [c]) before fuel (fun d hd => ?_) (Nat.lt_of_succ_lt hfuel)
    · rwa [List.append_assoc, charPieces, List.map_append, List.append_assoc] at hmore
    · rcases List.mem_append.1 hd with hd | hd
      · exact hu d hd
      · exact List.mem_singleton.1 hd ▸ ⟨hlt, hamp⟩
  | ampersand hletter hsign _ ih =>
    intro u before fuel hu hfuel
    obtain ⟨fuel, rfl⟩ := Nat.exists_eq_succ_of_ne_zero (Nat.ne_of_gt (Nat.zero_lt_of_lt hfuel))
    obtain ⟨last, hlast, hwhole⟩ := ih [] (some '&') fuel nofun (Nat.lt_of_succ_lt_succ hfuel)
    exact readFrom_reference hu (reference_ampersand final hletter hsign) hlast hwhole
  | reference hletter hname _ ih =>
    intro u before fuel hu hfuel
    obtain ⟨fuel, rfl⟩ := Nat.exists_eq_succ_of_ne_zero (Nat.ne_of_gt (Nat.zero_lt_of_lt hfuel))
    obtain ⟨last, hlast, hwhole⟩ := ih [] (some ';') fuel nofun (by
      simp only [List.length_cons, List.length_append] at hfuel
      omega)
    exact readFrom_reference hu (reference_named final hletter hname) hlast hwhole
  | opening hname hverbatim hspace hgap hinner _ ih =>
    intro u before fuel hu hfuel
    obtain ⟨fuel, rfl⟩ := Nat.exists_eq_succ_of_ne_zero (Nat.ne_of_gt (Nat.zero_lt_of_lt hfuel))
    obtain ⟨last, hlast, hwhole⟩ := ih [] (some '>') fuel nofun (by
      simp only [List.length_cons, List.length_append] at hfuel
      omega)
    have hne {name rest : Text} (hname : IsPlainName name) : name ++ rest ≠ [] := by
      obtain ⟨c, cs, rfl, -, -⟩ := hname.exists_cons
      exact List.cons_ne_nil _ _
    exact readFrom_tag hu (hne hname) (tag?_opening hname hverbatim hspace hgap hinner) hlast hwhole
  | closing hname _ ih =>
    intro u before fuel hu hfuel
    obtain ⟨fuel, rfl⟩ := Nat.exists_eq_succ_of_ne_zero (Nat.ne_of_gt (Nat.zero_lt_of_lt hfuel))
    obtain ⟨last, hlast, hwhole⟩ := ih [] (some '>') fuel nofun (by
      simp only [List.length_cons, List.length_append] at hfuel
      omega)
    exact readFrom_tag hu (List.cons_ne_nil _ _) (tag?_closing hname) hlast hwhole

/-- A page is read as it is spelled. -/
theorem markup_of_spelled {t : Text} {fine : List Markup} (h : Spelled t fine) :
    ∃ pieces, markup t = .ok pieces ∧ Joined pieces fine := by
  obtain ⟨first, hfirst, hwhole⟩ := h.readFrom false [] none (t.length + 1) nofun (Nat.lt_succ_self _)
  obtain ⟨⟨before, rest⟩, hnext⟩ : ∃ s, first.next = s := ⟨_, rfl⟩
  obtain rfl : rest = [] := by
    have := hwhole.atEnd
    rwa [hnext] at this
  obtain ⟨second, hsecond, hend⟩ := Spelled.nil.readFrom true [] before (t.length + 1) nofun
    (Nat.succ_pos _)
  have hnone : second.pieces = [] := hend.pieces.eq_nil rfl
  refine ⟨first.pieces, ?_, hwhole.pieces⟩
  have hfirst : Html.readFrom false (t.length + 1) none (.start t) = .ok first := hfirst
  have hsecond : Html.readFrom true (t.length + 1) none ⟨before, []⟩ = .ok second := hsecond
  simp only [markup, hfirst, hwhole.verbatim, hnext, hsecond, hend.atEnd, hnone, bind, Except.bind]
  simp

end LiveMarkdown.Html
