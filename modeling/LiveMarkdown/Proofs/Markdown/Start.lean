import LiveMarkdown.Markdown.Blocks

/-!
# What begins a block

`Scope.block` asks of a line one question after the other and reads the block that the first answer
begins. Here the answer (`Scope.startAt`) is apart from what is read of it (`Scope.blockFrom`), so that
a proof about blocks goes by the kinds of blocks (`block_eq`) and does not ask the questions again.
What a question has found is known of its kind (`begins_startAt`). Where two lines look alike, what
they begin needs to be compared only for the two questions that look ahead (`rel_startAt`).

Containers are read by readers that may go less deep, two steps back at most; `reader_induction` is
the induction on that.
-/

namespace LiveMarkdown.Markdown
namespace Scope

/-- The kinds of blocks, with what has been found when the kind is known. `next` is the line after
the block, `last` the line that underlines a heading. -/
inductive Start where
  | table (header : List Text) (alignments : List (Option Alignment))
  | code
  | math (content : Text) (label : Option Text) (next : Nat)
  | fence (mark : Char) (length : Nat) (info : Text)
  | quote
  | rule
  | list (mark : ItemMark)
  | definition (label : Text) (target : Reference) (next : Nat)
  | html (ending : RawHtml.BlockEnd)
  | heading (level : Nat) (content : Text)
  | underlined (last level : Nat)
  | paragraph

/-- A line that begins nothing else begins a paragraph, which may turn out to be a heading. -/
def textStart (s : Scope) (i past : Nat) : Start :=
  match s.underlined? past (past - i) (i + 1) with
  | some (last, level) => .underlined last level
  | none => .paragraph

/-- What begins at line `i`: the first of these that is there. -/
def startAt (s : Scope) (i past : Nat) : Start :=
  ((s.table? i past).map fun r => .table r.1 r.2).getD <|
  (if s.isCode i then some .code else none).getD <|
  ((s.math? i past).map fun r => .math r.1 r.2.1 r.2.2).getD <|
  ((s.fence? i).map fun r => .fence r.1 r.2.1 r.2.2).getD <|
  (if s.isQuote i then some .quote else none).getD <|
  (if s.isRule i then some .rule else none).getD <|
  ((s.listItem? false i).map .list).getD <|
  ((s.reference? i).map fun r => .definition r.1 r.2.1 r.2.2).getD <|
  ((s.rawHtml? i).map fun r => .html r.1).getD <|
  ((s.heading? i).map fun r => .heading r.1 r.2).getD <|
  s.textStart i past

/-- The block at line `i`, when it is known what begins there. -/
def blockFrom (readQuote readItem : Reader) (s : Scope) (i past : Nat) (refs : References) :
    Start → Parsed
  | .table header alignments =>
    { tokens := (s.tableTokens i past header alignments).1
      next := (s.tableTokens i past header alignments).2, refs }
  | .code =>
    let next := s.codeEnd past (past - i) (i + 1) (i + 1)
    { tokens := [{ kind := .indentedCode
                   content := cutLines (4 + s.indent) false (s.range i next) ++ ['\n']
                   span := some ⟨i, next⟩ }], next, refs }
  | .math content label next =>
    { tokens := [{ kind := .math label, content, span := some ⟨i, next⟩ }], next, refs }
  | .fence mark length info =>
    let (last, closed) := s.fenceEnd mark length past (past - i) (i + 1)
    let next := if closed then last + 1 else last
    { tokens := [{ kind := .fence info
                   content := cutLines (s.line i).indent.toNat true (s.range (i + 1) last)
                   span := some ⟨i, next⟩ }], next, refs }
  | .quote => s.quote readQuote i past refs
  | .rule => { tokens := [{ kind := .rule, span := some ⟨i, i + 1⟩ }], next := i + 1, refs }
  | .list mark => s.list readItem mark i past refs
  | .definition label target next => { next, refs := refs.define label target }
  | .html ending =>
    let next :=
      if ending.isReached (s.line i).body then i + 1 else s.htmlEnd ending past (past - i) (i + 1)
    { tokens := [{ kind := .html, content := cutLines s.indent true (s.range i next)
                   span := some ⟨i, next⟩ }], next, refs }
  | .heading level content =>
    { tokens := textBlock (.heading level) content i (i + 1) (i + 1), next := i + 1, refs }
  | .underlined last level =>
    { tokens := textBlock (.heading level) (s.paragraphText i last) i (last + 1) last
      next := last + 1, refs }
  | .paragraph =>
    let next := s.paragraphEnd (s.limit - i) (i + 1)
    { tokens := textBlock .paragraph (s.paragraphText i next) i next next, next, refs }

/-- To read a block is to find what begins at its line, and to read that. -/
theorem block_eq (readQuote readItem : Reader) (s : Scope) (i past : Nat) (refs : References) :
    s.block readQuote readItem i past refs =
      s.blockFrom readQuote readItem i past refs (s.startAt i past) := by
  unfold block startAt textStart
  cases s.table? i past with
  | some r => rfl
  | none =>
  cases s.isCode i with
  | true => rfl
  | false =>
  cases s.math? i past with
  | some r => rfl
  | none =>
  cases s.fence? i with
  | some r => rfl
  | none =>
  cases s.isQuote i with
  | true => rfl
  | false =>
  cases s.isRule i with
  | true => rfl
  | false =>
  cases s.listItem? false i with
  | some mark => rfl
  | none =>
  cases s.reference? i with
  | some r => rfl
  | none =>
  cases s.rawHtml? i with
  | some r => rfl
  | none =>
  cases s.heading? i with
  | some r => rfl
  | none =>
  cases s.underlined? past (past - i) (i + 1) with
  | some r => rfl
  | none => rfl

/-- A line that is indented far enough begins indented code, unless it begins a table. -/
theorem startAt_of_isCode {s : Scope} {i past : Nat} (htable : s.table? i past = none)
    (hcode : s.isCode i) : s.startAt i past = .code := by
  rw [startAt, htable, hcode]
  rfl

/-- Math begins where it is found, unless a table or indented code begins there. -/
theorem startAt_of_math? {s : Scope} {i past next : Nat} {content : Text} {label : Option Text}
    (htable : s.table? i past = none) (hcode : s.isCode i = false)
    (hmath : s.math? i past = some (content, label, next)) :
    s.startAt i past = .math content label next := by
  rw [startAt, htable, hcode, hmath]
  rfl

/-! ## What has been found -/

/-- The line that closes display math is one of those that are looked at. -/
theorem of_mathEnd? {s : Scope} {past fuel i last size : Nat} {label : Option Text}
    (h : s.mathEnd? past fuel i = some (last, label, size)) :
    i ≤ last ∧ last < past ∧ mathClosing? (s.line last).body = some (label, size) := by
  induction fuel generalizing i with
  | zero => cases h
  | succ fuel ih =>
    rw [mathEnd?] at h
    split at h
    · cases h
    · next hin =>
      split at h
      · next hclosing =>
        cases h
        exact ⟨Nat.le_refl _, Nat.lt_of_not_le hin, hclosing⟩
      · exact (ih h).imp_left Nat.le_of_succ_le

/-- The line that underlines a heading is not empty, and one of those that are looked at. -/
theorem of_underlined? {s : Scope} {past fuel i last level : Nat}
    (h : s.underlined? past fuel i = some (last, level)) :
    i ≤ last ∧ s.isEmpty last = false ∧ underline? (s.line last).body = some level := by
  induction fuel generalizing i with
  | zero => cases h
  | succ fuel ih =>
    have hmore (h : s.underlined? past fuel (i + 1) = some (last, level)) :=
      (ih h).imp_left Nat.le_of_succ_le
    rw [underlined?] at h
    split at h
    · cases h
    · next hcond =>
      rw [Bool.or_eq_true, not_or, Bool.not_eq_true, Bool.not_eq_true] at hcond
      split at h
      · exact hmore h
      · split at h
        · next hunderline =>
          cases h
          split at hunderline
          · cases hunderline
          · exact ⟨Nat.le_refl _, hcond.2, hunderline⟩
        · split at h
          · exact hmore h
          · split at h
            · cases h
            · exact hmore h

/-- The first answer has what every answer has. -/
theorem of_getD {P : Start → Prop} {answer : Option Start} {otherwise : Start}
    (h : ∀ start ∈ answer, P start) (hotherwise : P otherwise) : P (answer.getD otherwise) := by
  cases answer with
  | none => exact hotherwise
  | some start => exact h start rfl

/-- What holds of all answers to a question holds of the kind that the answer makes. -/
theorem forall_mem_map {α : Type} {P : Start → Prop} {answer : Option α} {kind : α → Start}
    (h : ∀ r, answer = some r → P (kind r)) : ∀ start ∈ answer.map kind, P start := by
  intro start hstart
  obtain ⟨r, hr, rfl⟩ := Option.map_eq_some_iff.1 hstart
  exact h r hr

/-- What holds of a kind if a test is passed holds of the kind that the test makes. -/
theorem forall_mem_ite {P : Start → Prop} {b : Bool} {kind : Start} (h : b = true → P kind) :
    ∀ start ∈ if b then some kind else none, P start := by
  intro start hstart
  obtain ⟨hb, hkind⟩ := Option.ite_none_right_eq_some.1 hstart
  cases hkind
  exact h hb

/-- What a line that begins a block of this kind looks like. -/
def Begins (s : Scope) (i past : Nat) : Start → Prop
  | .table header alignments => s.table? i past = some (header, alignments)
  | .code => s.isCode i
  | .math content label next => s.math? i past = some (content, label, next)
  | .fence mark length info => s.fence? i = some (mark, length, info)
  | .quote => s.isQuote i
  | .rule => s.isRule i
  | .list mark => s.listItem? false i = some mark
  | .definition label target next => s.reference? i = some (label, target, next)
  | .html ending => ∃ mayInterrupt, s.rawHtml? i = some (ending, mayInterrupt)
  | .heading level content => s.heading? i = some (level, content)
  | .underlined last level => s.underlined? past (past - i) (i + 1) = some (last, level)
  | .paragraph => s.underlined? past (past - i) (i + 1) = none

/-- A line that begins running text looks like it. -/
theorem begins_textStart (s : Scope) (i past : Nat) : s.Begins i past (s.textStart i past) := by
  rw [textStart]
  split
  · next h => exact h
  · next h => exact h

/-- A line looks like what begins at it. -/
theorem begins_startAt (s : Scope) (i past : Nat) : s.Begins i past (s.startAt i past) :=
  of_getD (forall_mem_map fun _ h => h) <|
  of_getD (forall_mem_ite fun h => h) <|
  of_getD (forall_mem_map fun _ h => h) <|
  of_getD (forall_mem_map fun _ h => h) <|
  of_getD (forall_mem_ite fun h => h) <|
  of_getD (forall_mem_ite fun h => h) <|
  of_getD (forall_mem_map fun _ h => h) <|
  of_getD (forall_mem_map fun _ h => h) <|
  of_getD (forall_mem_map fun _ h => ⟨_, h⟩) <|
  of_getD (forall_mem_map fun _ h => h) <|
  s.begins_textStart i past

/-- A block is of one of the kinds, and begins as blocks of its kind do. -/
theorem exists_begins (readQuote readItem : Reader) (s : Scope) (i past : Nat) (refs : References) :
    ∃ start, s.Begins i past start ∧
      s.block readQuote readItem i past refs = s.blockFrom readQuote readItem i past refs start :=
  ⟨s.startAt i past, s.begins_startAt i past, block_eq ..⟩

/-! ## Two scopes -/

/-- The same kind of block with its lines elsewhere. -/
def Start.moved (f : Nat → Nat) : Start → Start
  | .math content label next => .math content label (f next)
  | .definition label target next => .definition label target (f next)
  | .underlined last level => .underlined (f last) level
  | start => start

/-- What is found of the block's lines goes no further than `stop`. -/
def Start.EndsBy (stop : Nat) : Start → Prop
  | .math _ _ next => next ≤ stop
  | .definition _ _ next => next ≤ stop
  | .underlined last _ => last < stop
  | _ => True

/-- What is found of a block's lines goes no further than the block. -/
theorem endsBy_of_next_le {readQuote readItem : Reader} {s : Scope} {i past stop : Nat}
    {refs : References} {start : Start}
    (h : (s.blockFrom readQuote readItem i past refs start).next ≤ stop) : start.EndsBy stop := by
  cases start with
  | math | definition | underlined => exact h
  | _ => trivial

/-- Two lines that look alike: the questions about a line and the one after it have the same answers,
and there are no definitions. -/
structure Alike (s s' : Scope) (i i' past past' : Nat) : Prop where
  table : s'.table? i' past' = s.table? i past
  code : s'.isCode i' = s.isCode i
  fence : s'.fence? i' = s.fence? i
  quote : s'.isQuote i' = s.isQuote i
  rule : s'.isRule i' = s.isRule i
  list : s'.listItem? false i' = s.listItem? false i
  html : s'.rawHtml? i' = s.rawHtml? i
  heading : s'.heading? i' = s.heading? i
  definition : s.reference? i = none
  definition' : s'.reference? i' = none

section

variable {R : Start → Start → Prop} {C : Start → Prop}

/-- A first answer is compared under a condition that holds of the answer that counts. If it is there
it is the one that counts; if not, the condition asks nothing. -/
theorem rel_getD {answer answer' : Option Start} {otherwise otherwise' : Start}
    (h : (∀ start ∈ answer, C start) → Option.Rel R answer answer')
    (hotherwise : C otherwise → R otherwise otherwise') (hcounts : C (answer.getD otherwise)) :
    R (answer.getD otherwise) (answer'.getD otherwise') := by
  cases answer with
  | none =>
    have hnone := h nofun
    cases hnone
    exact hotherwise hcounts
  | some start =>
    have hsome := h fun _ hstart => Option.mem_some.1 hstart ▸ hcounts
    cases hsome with
    | some hstart => exact hstart

/-- Kinds are related that the same answer makes. -/
theorem rel_map {α : Type} {kind : α → Start} (h : ∀ r, R (kind r) (kind r)) (answer : Option α) :
    Option.Rel R (answer.map kind) (answer.map kind) := by
  cases answer with
  | none => exact .none
  | some r => exact .some (h r)

/-- Kinds are related that the same test makes. -/
theorem rel_ite {kind : Start} (h : R kind kind) (b : Bool) :
    Option.Rel R (if b then some kind else none) (if b then some kind else none) := by
  cases b with
  | false => exact .none
  | true => exact .some h

/-- What two lines that look alike begin corresponds, if display math and headings that are
underlined do: each under the condition that holds of what the first line begins. -/
theorem rel_startAt {s s' : Scope} {i i' past past' : Nat} (h : Alike s s' i i' past past')
    (hfixed : ∀ start : Start, (∀ f, start.moved f = start) → R start start)
    (hmath : (∀ r ∈ s.math? i past, C (.math r.1 r.2.1 r.2.2)) →
      Option.Rel (fun r r' => R (.math r.1 r.2.1 r.2.2) (.math r'.1 r'.2.1 r'.2.2))
        (s.math? i past) (s'.math? i' past'))
    (htext : C (s.textStart i past) → R (s.textStart i past) (s'.textStart i' past'))
    (hcounts : C (s.startAt i past)) : R (s.startAt i past) (s'.startAt i' past') := by
  revert hcounts
  unfold startAt
  rw [h.table, h.code, h.fence, h.quote, h.rule, h.list, h.html, h.heading, h.definition,
    h.definition']
  refine rel_getD (fun _ => rel_map (fun _ => hfixed _ fun _ => rfl) _) <|
    rel_getD (fun _ => rel_ite (hfixed _ fun _ => rfl) _) <|
    rel_getD (fun hcounts => ?_) <|
    rel_getD (fun _ => rel_map (fun _ => hfixed _ fun _ => rfl) _) <|
    rel_getD (fun _ => rel_ite (hfixed _ fun _ => rfl) _) <|
    rel_getD (fun _ => rel_ite (hfixed _ fun _ => rfl) _) <|
    rel_getD (fun _ => rel_map (fun _ => hfixed _ fun _ => rfl) _) <|
    rel_getD (fun _ => .none) <|
    rel_getD (fun _ => rel_map (fun _ => hfixed _ fun _ => rfl) _) <|
    rel_getD (fun _ => rel_map (fun _ => hfixed _ fun _ => rfl) _) htext
  have hfound := hmath fun r hr => hcounts _ (Option.mem_map_of_mem _ hr)
  generalize s.math? i past = found at hfound
  generalize s'.math? i' past' = found' at hfound
  cases hfound with
  | none => exact .none
  | some hr => exact .some hr

end

/-! ## How deep containers nest -/

/-- What holds where no container may be opened, and goes from the readers of a container's content
to the reader of what is around it, holds of every reader. -/
theorem reader_induction {P : Reader → Prop} (zero : P (reader 0))
    (blocks : ∀ {readQuote readItem : Reader}, P readQuote → P readItem →
      P fun s first past refs =>
        s.blocks readQuote readItem past (past - first + 1) false true first refs)
    (depth : Nat) : P (reader depth) := by
  induction depth using reader.induct with
  | case1 => exact zero
  | case2 hinner => exact blocks hinner hinner
  | case3 depth hquote hitem => exact blocks hquote hitem

end Scope
end LiveMarkdown.Markdown
