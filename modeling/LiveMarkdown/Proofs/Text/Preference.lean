import LiveMarkdown.Text.Pattern

/-!
# The preferred match

`Takes p s e` says that the pattern `p`, from the place `s` on, first tries the place `e`: if what
comes after it accepts `e`, no other match is looked for. `Fails p s` says that there is no match at
all. Where a text is written so that each choice of a pattern is the right one at once, the match is
found by composing these two along the pattern.
-/

namespace LiveMarkdown.Pattern

variable {p q : Pattern} {s m e : Place} {before : Option Char} {c : Char} {rest : Text}
  {test : Char → Bool} {bound : Option Nat}

/-- The place that is tried first. -/
def Takes (p : Pattern) (s e : Place) : Prop :=
  ∀ (α : Type) (next : Next α) (a : α), next e = some a → p.follow s next = some a

/-- There is no match from the place on. -/
def Fails (p : Pattern) (s : Place) : Prop :=
  ∀ (α : Type) (next : Next α), p.follow s next = none

/-- The place that is tried first is where the match ends. -/
theorem Takes.after? (h : Takes p s e) : p.after? s = some e := h _ some e rfl

/-- Where there is no match, none is found. -/
theorem Fails.after? (h : Fails p s) : p.after? s = none := h _ some

/-- The texts of a list of patterns, the first of which is matched first. -/
theorem Takes.parts?_cons {more : List Pattern} {texts : List Text} {last : Place}
    (h : Takes p s e) (hmore : parts? more e = some (texts, last)) :
    parts? (p :: more) s = some (s.upTo e :: texts, last) := by
  rw [parts?]
  refine h _ _ _ ?_
  rw [hmore]
  rfl

/-- The text of a single pattern is the text up to where it ends. -/
theorem Takes.parts?_one (h : Takes p s e) : parts? [p] s = some ([s.upTo e], e) :=
  h.parts?_cons rfl

/-! ## Characters -/

/-- A test that a character passes goes on after it. -/
theorem follow_one (h : test c) {α : Type} (next : Next α) :
    follow (.one test) ⟨before, c :: rest⟩ next = next ⟨some c, rest⟩ := by
  rw [follow]
  simp only [h, if_true]

/-- A character that passes the test is taken. -/
theorem takes_one (h : test c) : Takes (.one test) ⟨before, c :: rest⟩ ⟨some c, rest⟩ :=
  fun _ next _ ha => (follow_one h next).trans ha

/-- A character that does not pass the test is not matched, and neither is the end. -/
theorem fails_one (h : ∀ c ∈ s.rest.head?, test c = false) : Fails (.one test) s := by
  intro α next
  obtain ⟨before, rest⟩ := s
  rw [follow]
  cases rest with
  | nil => rfl
  | cons c rest =>
    have hc := h c rfl
    simp only [hc, Bool.false_eq_true, if_false]

/-- A character is taken where it stands. -/
theorem takes_char : Takes (.char c) ⟨before, c :: rest⟩ ⟨some c, rest⟩ :=
  takes_one (decide_eq_true rfl)

/-- A character is not matched where another one stands. -/
theorem fails_char (h : ∀ d ∈ s.rest.head?, d ≠ c) : Fails (.char c) s :=
  fails_one fun d hd => decide_eq_false (h d hd)

/-! ## Sequences and choices -/

/-- One pattern after the other: the place that each tries first. -/
theorem Takes.seq (hp : Takes p s m) (hq : Takes q m e) : Takes (p ++ q) s e :=
  fun α next a ha => hp α _ a (hq α next a ha)

/-- Where the first pattern fails, both in sequence fail. -/
theorem Fails.seq (h : Fails p s) : Fails (p ++ q) s := fun α _ => h α _

/-- After a character there is only one place to go on from. -/
theorem fails_one_seq (h : ∀ c more, s.rest = c :: more → test c → Fails q ⟨some c, more⟩) :
    Fails (.one test ++ q) s := by
  intro α next
  obtain ⟨before, rest⟩ := s
  change follow (.one test) ⟨before, rest⟩ (fun s => follow q s next) = none
  rw [follow]
  cases rest with
  | nil => rfl
  | cons c more =>
    dsimp only
    split
    · next hc => exact h c more rfl hc α next
    · rfl

/-- If the first choice is taken, it is taken. -/
theorem Takes.first (h : Takes p s e) : Takes (.alt p q) s e := by
  intro α next a ha
  rw [follow, h α next a ha]
  rfl

/-- The second choice is taken where the first fails. -/
theorem Takes.second (hp : Fails p s) (hq : Takes q s e) : Takes (.alt p q) s e := by
  intro α next a ha
  rw [follow, hp α next]
  exact hq α next a ha

/-- Where both choices fail, there is no match. -/
theorem Fails.alt (hp : Fails p s) (hq : Fails q s) : Fails (.alt p q) s := by
  intro α next
  rw [follow, hp α next]
  exact hq α next

/-! ## Looking around -/

/-- A pattern that matches ahead takes nothing. -/
theorem Takes.ahead (h : Takes p s e) : Takes (.ahead p) s s := by
  intro α next a ha
  rw [follow, h Unit (fun _ => some ()) () rfl]
  exact ha

/-- A pattern that must not match ahead fails where it would match. -/
theorem Takes.notAhead (h : Takes p s e) : Fails (.notAhead p) s := by
  intro α next
  rw [follow, h Unit (fun _ => some ()) () rfl]
  rfl

/-- A test of what comes before takes nothing. -/
theorem takes_preceded {test : Option Char → Bool} (h : test s.before) :
    Takes (.preceded test) s s := by
  intro α next a ha
  rw [follow, if_pos h]
  exact ha

/-- A test of what comes before does not help what fails after it. -/
theorem Fails.preceded_seq {test : Option Char → Bool} (h : Fails q s) :
    Fails (.preceded test ++ q) s := by
  intro α next
  change follow (.preceded test) s (fun s => follow q s next) = none
  rw [follow]
  split
  · exact h α next
  · rfl

/-! ## Repetitions -/

/-- So many turns of a pattern, after which there is no other one. -/
inductive Turns (p : Pattern) : Nat → Place → Place → Prop
  | stop {s : Place} : Fails p s → Turns p 0 s s
  | turn {n : Nat} {s m e : Place} : Takes p s m → Turns p n m e → Turns p (n + 1) s e

/-- The turns of a pattern are made before what comes after is tried. -/
theorem Turns.runMany {n fuel : Nat} (h : Turns p n s e) (hn : n ≤ fuel) {α : Type} {next : Next α}
    {a : α} (ha : next e = some a) :
    runMany (fun s next => follow p s next) fuel s next = some a := by
  induction h generalizing fuel with
  | stop hfails =>
    cases fuel with
    | zero => exact ha
    | succ fuel =>
      rw [Pattern.runMany, hfails]
      exact ha
  | turn hturn _ ih =>
    cases fuel with
    | zero => exact absurd hn (Nat.not_succ_le_zero _)
    | succ fuel =>
      rw [Pattern.runMany, hturn α _ a (ih (Nat.le_of_succ_le_succ hn) ha)]
      rfl

/-- A repetition takes all turns that there are. -/
theorem Turns.takes {n : Nat} (h : Turns p n s e) (hn : n ≤ s.rest.length) :
    Takes (.many none p) s e := by
  intro α next a ha
  rw [follow]
  exact h.runMany hn ha

/-- A repetition of what fails takes nothing. -/
theorem takes_many_stop (h : Fails p s) : Takes (.many none p) s s :=
  (Turns.stop h).takes (Nat.zero_le _)

/-- What may be left out is not, if it is there. -/
theorem Takes.optional (h : Takes p s e) (hs : s.rest ≠ []) : Takes (.optional p) s e := by
  intro α next a ha
  change follow (.many (some 1) p) s next = some a
  rw [follow]
  obtain ⟨n, hn⟩ := Nat.exists_eq_succ_of_ne_zero fun h0 => hs (List.length_eq_zero_iff.1 h0)
  have hmin : min 1 s.rest.length = 0 + 1 := by omega
  simp only [hmin]
  have hturn := h α (fun s => Pattern.runMany (fun s next => follow p s next) 0 s next) a ha
  rw [Pattern.runMany, hturn]
  rfl

/-- A pattern that takes each character of a text takes the text, up to where it fails. -/
theorem turns_run {t : Text}
    (ht : ∀ c ∈ t, ∀ before more, Takes p ⟨before, c :: more⟩ ⟨some c, more⟩)
    (hrest : ∀ before, Fails p ⟨before, rest⟩) :
    ∀ before, Turns p t.length ⟨before, t ++ rest⟩ ⟨t.getLast?.or before, rest⟩ := by
  induction t with
  | nil => exact fun before => .stop (hrest before)
  | cons c t ih =>
    intro before
    have hlast : (c :: t).getLast?.or before = t.getLast?.or (some c) := by
      rw [List.getLast?_cons]
      cases t.getLast? <;> rfl
    rw [hlast]
    exact .turn (ht c List.mem_cons_self before _)
      (ih (fun d hd => ht d (List.mem_cons_of_mem _ hd)) (some c))

/-- A repetition of single characters takes a run of them. -/
theorem takes_many_run {t : Text}
    (ht : ∀ c ∈ t, ∀ before more, Takes p ⟨before, c :: more⟩ ⟨some c, more⟩)
    (hrest : ∀ before, Fails p ⟨before, rest⟩) (before : Option Char) :
    Takes (.many none p) ⟨before, t ++ rest⟩ ⟨t.getLast?.or before, rest⟩ :=
  (turns_run ht hrest before).takes (by simp)

/-- A run of characters up to the first one that fails the test. -/
theorem takes_many_one {t : Text} (ht : ∀ c ∈ t, test c)
    (hrest : ∀ c ∈ rest.head?, test c = false) (before : Option Char) :
    Takes (.many none (.one test)) ⟨before, t ++ rest⟩ ⟨t.getLast?.or before, rest⟩ :=
  takes_many_run (fun c hc _ _ => takes_one (ht c hc)) (fun _ => fails_one hrest) before

end LiveMarkdown.Pattern
