import LiveMarkdown.Text.Pattern

/-!
# Where patterns lead

`Leads p s e` says that the pattern `p`, from the place `s` on, can match up to the place `e`,
whichever choices are preferred. What `follow` finds is such a match (`leads_of_follow`).
-/

namespace LiveMarkdown

/-- The text up to a later place is what stands between the two. -/
theorem Place.upTo_of_append {s e : Place} {t : Text} (h : s.rest = t ++ e.rest) :
    s.upTo e = t := by
  rw [Place.upTo, h, List.length_append, Nat.add_sub_cancel, List.take_left]

/-- To go on by the length of a text is to pass the text. -/
theorem Place.advance_append (before : Option Char) (t rest : Text) :
    Place.advance ⟨before, t ++ rest⟩ t.length = ⟨t.getLast?.or before, rest⟩ := by
  induction t generalizing before with
  | nil => rfl
  | cons c t ih =>
    have hlast : (c :: t).getLast?.or before = t.getLast?.or (some c) := by
      rw [List.getLast?_cons]
      cases t.getLast? <;> rfl
    rw [hlast]
    exact ih (some c)

namespace Pattern

/-- A pattern can match from one place up to another. -/
inductive Leads : Pattern → Place → Place → Prop where
  | empty (s : Place) : Leads .empty s s
  | one {test : Char → Bool} {before : Option Char} {c : Char} {rest : Text} :
    test c → Leads (.one test) ⟨before, c :: rest⟩ ⟨some c, rest⟩
  | run {part : Char → Bool} {accept : Text → Bool} {s : Place} {last : Char} :
    (s.rest.takeWhile part).getLast? = some last → accept (s.rest.takeWhile part) →
    Leads (.run part accept) s ⟨some last, s.rest.drop (s.rest.takeWhile part).length⟩
  | seq {p q : Pattern} {s m e : Place} : Leads p s m → Leads q m e → Leads (.seq p q) s e
  | first {p q : Pattern} {s e : Place} : Leads p s e → Leads (.alt p q) s e
  | second {p q : Pattern} {s e : Place} : Leads q s e → Leads (.alt p q) s e
  | manyStop {bound : Option Nat} {p : Pattern} (s : Place) : Leads (.many bound p) s s
  | manyTurn {bound : Option Nat} {p : Pattern} {s m e : Place} :
    Leads p s m → Leads (.many bound p) m e → Leads (.many bound p) s e
  | fewStop {p : Pattern} (s : Place) : Leads (.few p) s s
  | fewTurn {p : Pattern} {s m e : Place} :
    Leads p s m → Leads (.few p) m e → Leads (.few p) s e
  | ahead {p : Pattern} {s e : Place} : Leads p s e → Leads (.ahead p) s s
  | notAhead {p : Pattern} (s : Place) : Leads (.notAhead p) s s
  | preceded {test : Option Char → Bool} {s : Place} : test s.before → Leads (.preceded test) s s
  | atStart {s : Place} : s.before = none → Leads .atStart s s
  | atEnd {s : Place} : s.rest = [] → Leads .atEnd s s
  | boundary (s : Place) : Leads .boundary s s

/-- What one of two choices answers is the answer of the first or of the second. -/
theorem orElse_eq_some {α : Type} {first : Option α} {second : Unit → Option α} {a : α}
    (h : orElse first second = some a) : first = some a ∨ second () = some a := by
  cases first with
  | some b => exact .inl h
  | none => exact .inr h

section

variable {α : Type} {turn : Place → Next α → Option α} {p : Pattern}

/-- A match of a repetition that takes as much as it can is one of its matches. -/
theorem leads_of_runMany
    (hturn : ∀ s next a, turn s next = some a → ∃ e, Leads p s e ∧ next e = some a)
    (bound : Option Nat) {fuel : Nat} {s : Place} {next : Next α} {a : α}
    (h : runMany turn fuel s next = some a) : ∃ e, Leads (.many bound p) s e ∧ next e = some a := by
  induction fuel generalizing s with
  | zero => exact ⟨s, .manyStop s, h⟩
  | succ fuel ih =>
    rcases orElse_eq_some h with hfirst | hstop
    · obtain ⟨m, hm, hrest⟩ := hturn _ _ _ hfirst
      obtain ⟨e, he, ha⟩ := ih hrest
      exact ⟨e, .manyTurn hm he, ha⟩
    · exact ⟨s, .manyStop s, hstop⟩

/-- A match of a repetition that takes as little as it can is one of its matches. -/
theorem leads_of_runFew
    (hturn : ∀ s next a, turn s next = some a → ∃ e, Leads p s e ∧ next e = some a)
    {fuel : Nat} {s : Place} {next : Next α} {a : α}
    (h : runFew turn fuel s next = some a) : ∃ e, Leads (.few p) s e ∧ next e = some a := by
  induction fuel generalizing s with
  | zero => exact ⟨s, .fewStop s, h⟩
  | succ fuel ih =>
    rcases orElse_eq_some h with hstop | hturns
    · exact ⟨s, .fewStop s, hstop⟩
    · obtain ⟨m, hm, hrest⟩ := hturn _ _ _ hturns
      obtain ⟨e, he, ha⟩ := ih hrest
      exact ⟨e, .fewTurn hm he, ha⟩

end

/-- An answer is given for a place that the pattern leads to. -/
theorem leads_of_follow {α : Type} {p : Pattern} {s : Place} {next : Next α} {a : α}
    (h : follow p s next = some a) : ∃ e, Leads p s e ∧ next e = some a := by
  -- The answer type changes in the induction: the first of two patterns in sequence is asked for
  -- whatever the second one and what comes after it answer.
  induction p generalizing α s next a with
  | empty => exact ⟨s, .empty s, h⟩
  | one test =>
    unfold follow at h
    obtain ⟨before, rest⟩ := s
    cases rest with
    | nil => cases h
    | cons c rest =>
      dsimp only at h
      split at h
      · next hc => exact ⟨_, .one hc, h⟩
      · cases h
  | run part accept =>
    unfold follow at h
    dsimp only at h
    split at h
    · cases h
    · next last hlast =>
      split at h
      · next haccept => exact ⟨_, .run hlast haccept, h⟩
      · cases h
  | seq p q ihp ihq =>
    obtain ⟨m, hm, hrest⟩ := ihp h
    obtain ⟨e, he, ha⟩ := ihq hrest
    exact ⟨e, .seq hm he, ha⟩
  | alt p q ihp ihq =>
    rcases orElse_eq_some h with hfirst | hsecond
    · obtain ⟨e, he, ha⟩ := ihp hfirst
      exact ⟨e, .first he, ha⟩
    · obtain ⟨e, he, ha⟩ := ihq hsecond
      exact ⟨e, .second he, ha⟩
  | many bound p ih => exact leads_of_runMany (fun _ _ _ => ih) bound h
  | few p ih => exact leads_of_runFew (fun _ _ _ => ih) h
  | ahead p ih =>
    unfold follow at h
    split at h
    · next hsome =>
      obtain ⟨u, hu⟩ := Option.isSome_iff_exists.1 hsome
      obtain ⟨e, he, -⟩ := ih hu
      exact ⟨s, .ahead he, h⟩
    · cases h
  | notAhead p ih =>
    unfold follow at h
    split at h
    · cases h
    · exact ⟨s, .notAhead s, h⟩
  | preceded test =>
    unfold follow at h
    split at h
    · next htest => exact ⟨s, .preceded htest, h⟩
    · cases h
  | atStart =>
    unfold follow at h
    split at h
    · next hstart => exact ⟨s, .atStart (Option.isNone_iff_eq_none.1 hstart), h⟩
    · cases h
  | atEnd =>
    unfold follow at h
    split at h
    · next hend => exact ⟨s, .atEnd (List.isEmpty_iff.1 hend), h⟩
    · cases h
  | boundary =>
    unfold follow at h
    split at h
    · exact ⟨s, .boundary s, h⟩
    · cases h

/-- What is found after a match is where the pattern can lead. -/
theorem leads_of_after? {p : Pattern} {s e : Place} (h : p.after? s = some e) : Leads p s e := by
  obtain ⟨e', hleads, heq⟩ := leads_of_follow h
  exact Option.some.inj heq ▸ hleads

/-- What is left after a match is the end of what there was. -/
theorem Leads.suffix {p : Pattern} {s e : Place} (h : Leads p s e) : e.rest <:+ s.rest := by
  induction h with
  | one _ => exact List.suffix_cons _ _
  | run _ _ => exact List.drop_suffix _ _
  | seq _ _ ih ih' => exact ih'.trans ih
  | first _ ih => exact ih
  | second _ ih => exact ih
  | manyTurn _ _ ih ih' => exact ih'.trans ih
  | fewTurn _ _ ih ih' => exact ih'.trans ih
  | _ => exact List.suffix_rfl

/-- A run of characters has only characters that satisfy the test. -/
theorem Leads.run_of_one {bound : Option Nat} {test : Char → Bool} {s e : Place}
    (h : Leads (.many bound (.one test)) s e) :
    ∃ t, s.rest = t ++ e.rest ∧ ∀ c ∈ t, test c := by
  generalize hp : Pattern.many bound (.one test) = p at h
  induction h with
  | manyStop s => exact ⟨[], rfl, fun c hc => absurd hc List.not_mem_nil⟩
  | manyTurn hturn _ _ ih =>
    obtain ⟨rfl, rfl⟩ := Pattern.many.inj hp
    obtain ⟨t, ht, hall⟩ := ih rfl
    cases hturn with
    | one hc =>
      refine ⟨_ :: t, congrArg (List.cons _) ht, fun d hd => ?_⟩
      rcases List.mem_cons.1 hd with rfl | hd
      · exact hc
      · exact hall d hd
  | _ => cases hp

end Pattern
end LiveMarkdown
