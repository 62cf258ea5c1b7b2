import LiveMarkdown.Proofs.Heading.PageEvents
import LiveMarkdown.Proofs.Markdown.Rendered
import LiveMarkdown.Proofs.Text.Lines

/-!
# What a page shows of a heading

The text of a heading is known from its tokens (`literalText`) and read from its page. In the page it
is cut into stretches by the tags of its marks, pictures, formulas, line breaks and code
(`stretches`), and each stretch is a piece of text of its own. A page joins a stretch of nothing but
white space to one character, so that the two texts are the same exactly if every stretch stays as it
is (`flatMap_shownText_eq_iff`).

The tokens are gone through one by one while the page is built. What holds at each point (`Reads`) is
which elements are open in the heading, what has been shown of it, and what text is held back; each
kind of piece keeps it (`Reads.text`, `Reads.opening`, `Reads.closing`, `Reads.emptyTag`), so does each
token (`exists_reads_inline`), and so do all of them (`exists_reads_inlines`).
-/

namespace LiveMarkdown

open Html (Attributes Builder Event IsPlainName Markup Spelled charPieces reservedNames voidNames)
open Markdown (Inline InlineKind Mark Token)

/-! ## Stretches of text -/

/-- The stretches of text with one more token: those that have ended, and the one that goes on. -/
def Markdown.Inline.extend (s : List Text × Text) (t : Inline) : List Text × Text :=
  match t.kind with
  | .text => (s.1, s.2 ++ t.content)
  | .softBreak => (s.1, s.2 ++ ['\n'])
  | .hardBreak => (s.1 ++ [s.2], ['\n'])
  | .code => (s.1 ++ [s.2, t.content], [])
  | _ => (s.1 ++ [s.2], [])

/-- The stretches of text between the tags of running text. -/
def stretches (ts : List Inline) : List Text :=
  (ts.foldl Markdown.Inline.extend ([], [])).1 ++ [(ts.foldl Markdown.Inline.extend ([], [])).2]

/-- The text of running text is that of its stretches. -/
theorem flatten_stretches (ts : List Inline) : (stretches ts).flatten = literalText ts := by
  have hfold (s : List Text × Text) : (ts.foldl Markdown.Inline.extend s).1.flatten ++
      (ts.foldl Markdown.Inline.extend s).2 = s.1.flatten ++ s.2 ++ literalText ts := by
    induction ts generalizing s with
    | nil => exact (List.append_nil _).symm
    | cons t rest ih =>
      have hcons : literalText (t :: rest) = t.literal ++ literalText rest := List.flatMap_cons
      have hstep : (t.extend s).1.flatten ++ (t.extend s).2 = s.1.flatten ++ s.2 ++ t.literal := by
        unfold Markdown.Inline.extend Markdown.Inline.literal
        cases t.kind <;> simp
      rw [List.foldl_cons, ih, hstep, hcons, List.append_assoc _ t.literal]
  have := hfold ([], [])
  simp only [List.flatten_nil, List.nil_append] at this
  rw [stretches, List.flatten_append, List.flatten_singleton, this]

/-- What a page shows of a stretch. -/
def shownText (t : Text) : Text := if t.isEmpty then [] else Builder.joinSpace t

/-- A stretch that stays as it is: if it is nothing but white space, it is a space or a newline. -/
def Stays (t : Text) : Prop := t.all Builder.isJoinable → t = [] ∨ t = [' '] ∨ t = ['\n']

instance (t : Text) : Decidable (Stays t) := inferInstanceAs (Decidable (_ → _))

/-- What is shown of a stretch is no longer than the stretch. -/
theorem length_shownText_le (t : Text) : (shownText t).length ≤ t.length := by
  unfold shownText
  split
  · exact Nat.zero_le _
  · next hne =>
    have hlength : 1 ≤ t.length := List.length_pos_iff.2 fun hnil => hne (by rw [hnil]; rfl)
    unfold Builder.joinSpace
    split
    · split
      · exact hlength
      · exact hlength
    · exact Nat.le_refl _

/-- A stretch is shown as it is exactly if it stays as it is. -/
theorem shownText_eq_iff {t : Text} : shownText t = t ↔ Stays t := by
  unfold shownText Stays
  cases t with
  | nil => exact ⟨fun _ _ => .inl rfl, fun _ => rfl⟩
  | cons c rest =>
    rw [List.isEmpty_cons, if_neg Bool.false_ne_true, Builder.joinSpace]
    by_cases hall : (c :: rest).all Builder.isJoinable
    · rw [if_pos hall]
      constructor
      · intro heq _
        split at heq
        · exact .inr (.inr heq.symm)
        · exact .inr (.inl heq.symm)
      · intro h
        rcases h hall with h | h | h
        · cases h
        · rw [h]
          rfl
        · rw [h]
          rfl
    · rw [if_neg hall]
      exact ⟨fun _ hjoinable => absurd hjoinable hall, fun _ => rfl⟩

/-- No stretch is ever shown as a longer one, so that none can make up for another one. -/
theorem flatMap_shownText_eq_iff {l : List Text} :
    l.flatMap shownText = l.flatten ↔ ∀ t ∈ l, Stays t := by
  rw [← List.flatMap_id]
  exact (flatMap_eq_flatMap_iff fun t _ => length_shownText_le t).trans
    (forall₂_congr fun t _ => shownText_eq_iff)

/-! ## Building a heading -/

/-- The stretches where a tag ends the one that goes on. The text of elements that are not shown is no
stretch. -/
def cut (inner : List (Text × Bool)) (s : List Text × Text) : List Text × Text :=
  if inner.all (·.2) then (s.1 ++ [s.2], []) else (s.1, [])

/-- Where a tag has cut the stretches, none goes on. -/
theorem cut_snd (inner : List (Text × Bool)) (s : List Text × Text) : (cut inner s).2 = [] := by
  unfold cut
  split
  · rfl
  · rfl

/-- A page is being built and has got somewhere into a heading, whose element was the last event of
`start`. The elements `outer` have been open since then. In it, the elements `inner` are open, each
with whether its text is shown; stretches of text have ended, and one is held back. -/
structure Reads (start : List Event) (outer : List Text) (inner : List (Text × Bool))
    (s : List Text × Text) (b : Builder) : Prop where
  names : b.names = inner.map (·.1) ++ outer
  quiet : ∀ name ∈ b.names, name ∉ reservedNames
  closed : b.ClosedAreVoid
  pieces : ∀ t ∈ b.pending, t ≠ []
  pending : b.pending.reverse.flatten = s.2
  events : ∃ inside, b.events = start ++ inside ∧ ∀ rest,
    textFrom [] (inside ++ rest) = s.1.flatMap shownText ++ textFrom (inner.map (·.2)) rest

namespace Reads

variable {start : List Event} {outer : List Text} {inner : List (Text × Bool)}
  {s : List Text × Text} {b : Builder}

/-- Text is held back exactly while a stretch goes on. -/
theorem isEmpty_pending (h : Reads start outer inner s b) : b.pending.isEmpty = s.2.isEmpty := by
  rw [← h.pending]
  have hpieces := h.pieces
  cases hp : b.pending with
  | nil => rfl
  | cons t rest =>
    have ht : t ≠ [] := hpieces t (hp ▸ List.mem_cons_self)
    simp [ht]

/-- Within a heading no element is open in which text is not joined or not shown. -/
theorem within_eq_false (h : Reads start outer inner s b) {names : List Text}
    (hnames : ∀ name ∈ names, name ∈ reservedNames) : b.within names = false := by
  refine List.any_eq_false.2 fun e he hmem => ?_
  exact h.quiet e.name (List.mem_map_of_mem he) (hnames _ (List.contains_iff_mem.1 hmem))

/-- The text that is held back is shown as a stretch. -/
theorem textFrom_held (h : Reads start outer inner s b) (rest : List Event) :
    textFrom (inner.map (·.2)) (b.held .text ++ rest) =
      (if inner.all (·.2) then shownText s.2 else []) ++ textFrom (inner.map (·.2)) rest := by
  have hspaced := h.within_eq_false fun name hname => List.mem_append_left Html.asideNames hname
  have haside := h.within_eq_false fun name hname => List.mem_append_right Html.spacedNames hname
  have hall : (inner.map (·.2)).all id = inner.all (·.2) := List.all_map
  unfold Builder.held shownText
  rw [h.isEmpty_pending, h.pending, hspaced, haside]
  cases hempty : s.2.isEmpty with
  | true => simp
  | false =>
    simp only [Bool.and_false, Bool.false_eq_true, if_false, List.singleton_append, textFrom, hall,
      decide_true, Bool.true_and]

/-- What happens in a heading with the text that was held back and one more event. -/
theorem events_held (h : Reads start outer inner s b) (more : List Event) (shown : List Bool)
    (hmore : ∀ rest, textFrom (inner.map (·.2)) (more ++ rest) = textFrom shown rest) :
    ∃ inside, b.events ++ b.held .text ++ more = start ++ inside ∧ ∀ rest,
      textFrom [] (inside ++ rest) = (cut inner s).1.flatMap shownText ++ textFrom shown rest := by
  obtain ⟨inside, hevents, htext⟩ := h.events
  refine ⟨inside ++ b.held .text ++ more, ?_, fun rest => ?_⟩
  · rw [hevents]
    simp only [List.append_assoc]
  · rw [List.append_assoc, List.append_assoc, htext, h.textFrom_held, hmore, cut]
    cases inner.all (·.2) with
    | true => simp
    | false => simp

/-- Text goes on with the stretch. -/
theorem text (h : Reads start outer inner s b) {t : Text} (ht : t ≠ []) :
    Reads start outer inner (s.1, s.2 ++ t) (b.add (.text t)) where
  names := h.names
  quiet := h.quiet
  closed := h.closed
  pieces := List.forall_mem_cons.2 ⟨ht, h.pieces⟩
  pending := by
    rw [Builder.add, List.reverse_cons, List.flatten_append, h.pending, List.flatten_singleton]
  events := h.events

/-- Characters lengthen the stretch that goes on. -/
theorem charPieces (h : Reads start outer inner s b) (t : Text) :
    Reads start outer inner (s.1, s.2 ++ t) ((charPieces t).foldl Builder.add b) := by
  induction t generalizing s b with
  | nil =>
    rw [List.append_nil]
    exact h
  | cons c rest ih =>
    have := ih (h.text (List.cons_ne_nil c []))
    rwa [List.append_assoc] at this

/-- A tag that opens an element ends the stretch. -/
theorem opening (h : Reads start outer inner s b) {name : Text} (hvoid : name ∉ voidNames)
    (hreserved : name ∉ reservedNames) (attrs : Attributes) :
    Reads start outer ((name, !isFormula name (Html.tagAttributes name attrs)) :: inner) (cut inner s)
      (b.add (.opening name attrs false)) := by
  have hadd := b.add_push hvoid attrs
  have hnames : (b.add (.opening name attrs false)).names = name :: b.names := by
    rw [hadd, Builder.names_push, Builder.names_flush]
  have hpending : (b.add (.opening name attrs false)).pending = [] := by
    rw [hadd]
    exact b.pending_flush .text
  obtain ⟨inside, hinside, htext⟩ :=
    h.events_held [.opens name (Html.tagAttributes name attrs)] _ fun _ => rfl
  refine ⟨?_, ?_, h.closed.add _, ?_, ?_, inside, ?_, htext⟩
  · rw [hnames, h.names]
    rfl
  · rw [hnames]
    exact List.forall_mem_cons.2 ⟨hreserved, h.quiet⟩
  · rw [hpending]
    exact List.forall_mem_nil _
  · rw [hpending, cut_snd]
    rfl
  · rw [hadd, Builder.events_push, Builder.events_flush, hinside]

/-- The tag that closes the innermost element ends the stretch. -/
theorem closing {name : Text} {isShown : Bool} (h : Reads start outer ((name, isShown) :: inner) s b)
    (hvoid : name ∉ voidNames) :
    Reads start outer inner (cut ((name, isShown) :: inner) s) (b.add (.closing name)) := by
  have hadd := b.add_close (h.closed.contains_eq_false hvoid)
  have hnames : b.names = name :: (inner.map (·.1) ++ outer) := h.names
  have hcount : Html.closedBy name b.names = 1 := by rw [hnames, Html.closedBy_cons_self]
  have hafter : (b.add (.closing name)).names = inner.map (·.1) ++ outer := by
    rw [hadd, Builder.names_close, hcount, hnames]
    rfl
  have hpending : (b.add (.closing name)).pending = [] := by rw [hadd, Builder.pending_close]
  obtain ⟨inside, hinside, htext⟩ := h.events_held [.closes] (inner.map (·.2)) fun _ => rfl
  refine ⟨hafter, ?_, h.closed.add _, ?_, ?_, inside, ?_, htext⟩
  · rw [hafter]
    exact fun n hn => h.quiet n (hnames ▸ List.mem_cons_of_mem _ hn)
  · rw [hpending]
    exact List.forall_mem_nil _
  · rw [hpending, cut_snd]
    rfl
  · rw [hadd, Builder.events_close, hcount, ← hinside]
    rfl

/-- A tag that opens an element and closes it ends the stretch. -/
theorem emptyTag (h : Reads start outer inner s b) (name : Text) (attrs : Attributes) :
    Reads start outer inner (cut inner s) (b.add (.opening name attrs true)) := by
  have hadd : b.add (.opening name attrs true) =
      (b.flush.push name (Html.tagAttributes name attrs)).close name := by
    rw [Builder.add_opening]
    rfl
  have hnames : (b.add (.opening name attrs true)).names = b.names := by
    rw [Builder.names_add_opening]
    rfl
  have hpending : (b.add (.opening name attrs true)).pending = [] := by
    rw [hadd, Builder.pending_close]
  obtain ⟨inside, hinside, htext⟩ := h.events_held
    [.opens name (Html.tagAttributes name attrs), .closes] (inner.map (·.2)) fun _ => rfl
  refine ⟨hnames.trans h.names, hnames ▸ h.quiet, h.closed.add _, ?_, ?_, inside, ?_, htext⟩
  · rw [hpending]
    exact List.forall_mem_nil _
  · rw [hpending, cut_snd]
    rfl
  · have hheld : (b.flush.push name (Html.tagAttributes name attrs)).held .text = [] := by
      rw [Builder.held, if_pos]
      exact List.isEmpty_iff.2 (b.pending_flush .text)
    have hcount : Html.closedBy name (b.flush.push name (Html.tagAttributes name attrs)).names = 1 :=
      Html.closedBy_cons_self name _
    rw [hadd, Builder.events_close, hheld, hcount, Builder.events_push, Builder.events_flush,
      ← hinside]
    simp

/-- An element with text. -/
theorem element (h : Reads start outer inner s b) (name : Text) (hvoid : name ∉ voidNames)
    (hreserved : name ∉ reservedNames) (attrs : Attributes) (content : Text) :
    Reads start outer inner
      (cut ((name, !isFormula name (Html.tagAttributes name attrs)) :: inner)
        ((cut inner s).1, content))
      (([Markup.opening name attrs false] ++ Html.charPieces content ++
        [Markup.closing name]).foldl Builder.add b) := by
  have := ((h.opening hvoid hreserved attrs).charPieces content).closing hvoid
  rw [cut_snd, List.nil_append] at this
  simp only [List.foldl_append, List.foldl_cons, List.foldl_nil]
  exact this

end Reads

/-! ## Running text -/

/-- Is the running text free of raw HTML, and do its marks close in the order in which they opened?
`opened` are those that are open before, innermost first. -/
def nests : (opened : List Mark) → List Inline → Bool
  | opened, [] => opened.isEmpty
  | opened, t :: rest =>
    match t.kind with
    | .html | .special => false
    | .opening mark => nests (mark :: opened) rest
    | .closing mark => opened.head? = some mark && nests opened.tail rest
    | _ => nests opened rest

/-- A token of running text as it is rendered: math has become formulas, and only they are told to be
formulas. -/
structure Markdown.Inline.IsSettled (t : Inline) : Prop where
  attrs : ∀ a ∈ t.attrs, IsPlainName a.1
  marked : Math.markAttribute ∈ t.attrs.map (·.1) ↔ t.kind.written ≠ []
  written : ∀ html ∈ t.kind.written, ∃ content, html = Html.escape content
  kind : ∀ display, t.kind ≠ .math display

/-- An element is a formula if it is told to be one. -/
theorem isFormula_tagAttributes {name : Text} (h : (name == "math".toList) = false)
    (attrs : Attributes) : isFormula name (Html.tagAttributes name attrs) =
      decide (Math.markAttribute ∈ attrs.map (·.1)) := by
  rw [isFormula, h, Bool.false_or, Bool.eq_iff_iff, Html.isSome_get?_iff, Html.mem_names_tagAttributes,
    decide_eq_true_eq]

/-- The open elements of marks; their text is shown. -/
def markElements (opened : List Mark) : List (Text × Bool) := opened.map fun mark => (mark.tag, true)

/-- The text of marks is shown. -/
theorem all_markElements (opened : List Mark) : (markElements opened).all (·.2) := by
  refine List.all_eq_true.2 fun e he => ?_
  obtain ⟨mark, -, rfl⟩ := List.mem_map.1 he
  rfl

/-- The tag of a mark cuts the stretches. -/
theorem cut_markElements (opened : List Mark) (s : List Text × Text) :
    cut (markElements opened) s = (s.1 ++ [s.2], []) := if_pos (all_markElements opened)

/-- The element of a mark has content, and it is not the one of formulas. -/
theorem facts_of_markTag (mark : Mark) :
    mark.tag ∈ elementNames ∧ (mark.tag == "math".toList) = false := by
  cases mark <;> decide

/-- A token of a heading keeps what holds while the page is built. -/
theorem exists_reads_inline {t : Inline} (h : t.IsSettled) {opened : List Mark} {rest : List Inline}
    (hnests : nests opened (t :: rest)) : ∃ opened' pieces, nests opened' rest ∧
      Spelled (Markdown.renderInline t) pieces ∧
      ∀ {start : List Event} {outer : List Text} {s : List Text × Text} {b : Builder},
        Reads start outer (markElements opened) s b →
          Reads start outer (markElements opened') (t.extend s) (pieces.foldl Builder.add b) := by
  obtain ⟨kind, content, attrs⟩ := t
  have htag {name : Text} (hname : IsPlainName name ∧ Html.isVerbatim name = false) :
      Html.IsPlainTag (name, attrs) := Html.isPlainTag hname.1 hname.2 h.attrs
  have hshown (hkind : kind.written = []) {name : Text} (hmath : (name == "math".toList) = false) :
      isFormula name (Html.tagAttributes name attrs) = false := by
    rw [isFormula_tagAttributes hmath]
    exact decide_eq_false fun hmem => h.marked.1 hmem hkind
  -- One case for each kind of token: what it is spelled as, and what its pieces do to the
  -- stretches. Tags cut them, text and soft line breaks lengthen them.
  cases kind with
  | text => exact ⟨opened, _, hnests, Html.spelled_escape content, fun hb => hb.charPieces content⟩
  | special => cases hnests
  | html => cases hnests
  | softBreak =>
    exact ⟨opened, _, hnests, spelled_newline, fun hb => hb.text (List.cons_ne_nil _ _)⟩
  | hardBreak =>
    have hbr : Html.IsPlainTag (['b', 'r'], []) :=
      Html.isPlainTag (by decide) (by decide) (List.forall_mem_nil _)
    refine ⟨opened, _, hnests, (spelled_emptyTag hbr).append spelled_newline, fun hb => ?_⟩
    have := (hb.emptyTag ['b', 'r'] []).text (List.cons_ne_nil '\n' [])
    rwa [cut_markElements] at this
  | code =>
    have hcode : Html.IsPlainTag ("code".toList, attrs) := htag (by decide)
    refine ⟨opened, _, hnests, ((spelled_openTag hcode).append (Html.spelled_escape content)).append
      (spelled_closeTag hcode.name), fun {_ _ s _} hb => ?_⟩
    have := hb.element "code" (notMem_voidNames (by decide)) (by decide) attrs content
    have hcut : cut (("code".toList, true) :: markElements opened) (s.1 ++ [s.2], content) =
        (s.1 ++ [s.2, content], []) := by
      have hall : (("code".toList, true) :: markElements opened).all (·.2) := all_markElements opened
      rw [cut, if_pos hall, List.append_assoc]
      rfl
    rw [cut_markElements, hshown rfl (by decide), Bool.not_false, hcut] at this
    exact this
  | math display => exact absurd rfl (h.kind display)
  | formula html =>
    have hspan : Html.IsPlainTag ("span".toList, attrs) := htag (by decide)
    have hmarked : isFormula "span".toList (Html.tagAttributes "span".toList attrs) = true := by
      rw [isFormula_tagAttributes (by decide)]
      exact decide_eq_true (h.marked.2 (List.cons_ne_nil _ _))
    obtain ⟨shown, rfl⟩ := h.written html List.mem_cons_self
    refine ⟨opened, _, hnests, ((spelled_openTag hspan).append (Html.spelled_escape shown)).append
      (spelled_closeTag hspan.name), fun {_ _ s _} hb => ?_⟩
    have := hb.element "span" (notMem_voidNames (by decide)) (by decide) attrs shown
    have hcut : cut (("span".toList, false) :: markElements opened) (s.1 ++ [s.2], shown) =
        (s.1 ++ [s.2], []) := if_neg Bool.false_ne_true
    rw [cut_markElements, hmarked, Bool.not_true, hcut] at this
    exact this
  | opening mark =>
    obtain ⟨hname, hverbatim, -, hreserved⟩ := facts_of_mark mark
    obtain ⟨hmem, hmath⟩ := facts_of_markTag mark
    refine ⟨mark :: opened, _, hnests, spelled_openTag (htag ⟨hname, hverbatim⟩), fun hb => ?_⟩
    have := hb.opening (notMem_voidNames hmem) hreserved attrs
    rw [cut_markElements, hshown rfl hmath, Bool.not_false] at this
    rw [List.foldl_cons, List.foldl_nil]
    exact this
  | closing mark =>
    obtain ⟨hhead, hrest⟩ := Bool.and_eq_true_iff.1 hnests
    obtain ⟨outer, rfl⟩ := List.head?_eq_some_iff.1 (of_decide_eq_true hhead)
    refine ⟨outer, _, hrest, spelled_closeTag (facts_of_mark mark).1, fun {_ _ s _} hb => ?_⟩
    have hcut : cut ((mark.tag, true) :: markElements outer) s = (s.1 ++ [s.2], []) :=
      cut_markElements (mark :: outer) s
    have : Reads _ _ (markElements outer) (cut ((mark.tag, true) :: markElements outer) s) _ :=
      Reads.closing hb (notMem_voidNames (facts_of_markTag mark).1)
    rw [hcut] at this
    rw [List.foldl_cons, List.foldl_nil]
    exact this
  | image =>
    have himg : Html.IsPlainTag ("img".toList, attrs) := htag (by decide)
    refine ⟨opened, _, hnests, spelled_emptyTag himg, fun hb => ?_⟩
    have := hb.emptyTag "img" attrs
    rwa [cut_markElements] at this

/-- The running text of a heading keeps what holds while the page is built, and has closed all marks
at its end. -/
theorem exists_reads_inlines {ts : List Inline} (h : ∀ t ∈ ts, t.IsSettled) {opened : List Mark}
    (hnests : nests opened ts) : ∃ pieces, Spelled (Markdown.renderInlines ts) pieces ∧
      ∀ {start : List Event} {outer : List Text} {s : List Text × Text} {b : Builder},
        Reads start outer (markElements opened) s b →
          Reads start outer [] (ts.foldl Markdown.Inline.extend s) (pieces.foldl Builder.add b) := by
  induction ts generalizing opened with
  | nil =>
    obtain rfl : opened = [] := List.isEmpty_iff.1 hnests
    exact ⟨[], .nil, id⟩
  | cons t rest ih =>
    obtain ⟨ht, hrest⟩ := List.forall_mem_cons.1 h
    obtain ⟨opened', pieces, hnests', hspelled, hstep⟩ := exists_reads_inline ht hnests
    obtain ⟨more, hmore, hrun⟩ := ih hrest hnests'
    refine ⟨pieces ++ more, hspelled.append hmore, fun hb => ?_⟩
    rw [List.foldl_append]
    exact hrun (hstep hb)

/-! ## Pages -/

/-- The elements before the point that a page has got to. -/
theorem listed_events (pieces : List Markup) :
    let b := pieces.foldl Builder.add {}
    (Html.tagsOf ((b.events ++ b.held .text).filterMap Event.part?)).filterMap headingOf? =
      (Html.openings pieces).filterMap readHeading? := by
  intro b
  have hheld : Html.tagsOf ((b.held .text).filterMap Event.part?) = [] := by
    unfold Builder.held
    split
    · rfl
    · rfl
  have htags := Builder.tagsOf_foldl_add {} pieces
  rw [List.filterMap_append, Html.tagsOf_append, hheld, List.append_nil]
  exact (congrArg (List.filterMap headingOf?) htags).trans List.filterMap_map

/-- A heading's element has content, which is joined and shown. -/
theorem facts_of_headingName {name : Text} {level : Nat} (h : elementLevel? name = some level) :
    name ∉ voidNames ∧ name ∉ reservedNames := by
  have hname := mem_headingNames h
  have hvoid := List.all_eq_true.1 headingNames_notMem_voidNames name hname
  have hreserved : ∀ n ∈ headingNames, n ∉ reservedNames := by decide
  exact ⟨by simpa using hvoid, hreserved name hname⟩

/-- A heading among other pieces: it is a heading of the page, after those before it, and its text is
what is shown of its stretches. -/
theorem exists_pageHeadings_of_pieces {before inside after : List Markup} {name : Text} {level : Nat}
    (hlevel : elementLevel? name = some level) (attrs : Attributes) (hbefore : Html.AreQuiet before)
    {s : List Text × Text}
    (hinside : ∀ {start : List Event} {outer : List Text} {b : Builder},
      Reads start outer [] ([], []) b → Reads start outer [] s (inside.foldl Builder.add b)) :
    let pieces := before ++ .opening name attrs false :: (inside ++ .closing name :: after)
    ∃ earlier later, pageHeadings (pieces.foldl Builder.add {}).finish =
        earlier ++ ⟨level, (s.1 ++ [s.2]).flatMap shownText,
          (Html.tagAttributes name attrs).get? ['i', 'd']⟩ :: later ∧
      listed earlier = (Html.openings before).filterMap readHeading? := by
  intro pieces
  obtain ⟨hvoid, hreserved⟩ := facts_of_headingName hlevel
  -- The page at four points: before the heading, after its opening tag, after what is inside, after
  -- its closing tag. The events between the first and the last are those of the heading.
  let b := before.foldl Builder.add {}
  let opened := b.add (.opening name attrs false)
  let read := inside.foldl Builder.add opened
  let ended := read.add (.closing name)
  have hclosed : b.ClosedAreVoid := Builder.closedAreVoid_empty.foldl_add before
  have hquiet : ∀ n ∈ b.names, n ∉ reservedNames := by
    have hnone : b.reserved = [] := List.suffix_nil.1 (hbefore {} Builder.closedAreVoid_empty)
    exact fun n hn hmem => List.filter_eq_nil_iff.1 hnone n hn (List.contains_iff_mem.2 hmem)
  have hopened : opened = b.flush.push name (Html.tagAttributes name attrs) := b.add_push hvoid attrs
  have hnames : opened.names = name :: b.names := by
    rw [hopened, Builder.names_push, Builder.names_flush]
  have hevents : opened.events =
      b.events ++ b.held .text ++ [.opens name (Html.tagAttributes name attrs)] := by
    rw [hopened, Builder.events_push, Builder.events_flush]
  have hstart : Reads opened.events opened.names [] ([], []) opened := by
    have hpending : opened.pending = [] := by
      rw [hopened]
      exact b.pending_flush .text
    have hclosed : opened.ClosedAreVoid := hclosed.add _
    refine ⟨(List.nil_append _).symm, ?_, hclosed, ?_, ?_, [], (List.append_nil _).symm, fun _ => ?_⟩
    · rw [hnames]
      exact List.forall_mem_cons.2 ⟨hreserved, hquiet⟩
    · rw [hpending]
      exact List.forall_mem_nil _
    · rw [hpending]
      rfl
    · rfl
  have hread : Reads opened.events opened.names [] s read := hinside hstart
  obtain ⟨shown, hshown, htext⟩ := hread.events
  have hended : ended.events = read.events ++ read.held .text ++ [.closes] := by
    have hadd : ended = read.close name := read.add_close (hread.closed.contains_eq_false hvoid)
    have hcount : Html.closedBy name read.names = 1 := by
      rw [hread.names, hnames]
      exact Html.closedBy_cons_self name b.names
    rw [hadd, Builder.events_close, hcount]
    rfl
  obtain ⟨more, hmore⟩ := ended.exists_events_foldl_add after
  have hpage : pieces.foldl Builder.add {} = after.foldl Builder.add ended := by
    simp only [pieces, List.foldl_append, List.foldl_cons]
    rfl
  obtain ⟨last, hlast⟩ : ∃ last, Html.nodesEvents (pieces.foldl Builder.add {}).finish =
      b.events ++ b.held .text ++ .opens name (Html.tagAttributes name attrs) ::
        (shown ++ (read.held .text ++ (.closes :: last))) := by
    let b := after.foldl Builder.add ended
    refine ⟨more ++ (b.held .text ++ List.replicate b.names.length .closes), ?_⟩
    rw [Builder.events_finish, hpage, hmore, hended, hshown, hevents]
    simp only [b, List.append_assoc, List.cons_append, List.nil_append]
  obtain ⟨earlier, later, hheadings, hlisted⟩ := exists_pageHeadings_of_events hlevel hlast
  refine ⟨earlier, later, ?_, hlisted.trans (listed_events before)⟩
  have hend : textFrom [] (read.held .text ++ (.closes :: last)) = shownText s.2 := by
    have := hread.textFrom_held (.closes :: last)
    exact this.trans (List.append_nil _)
  rw [hheadings, htext, List.flatMap_append, List.flatMap_singleton]
  exact congrArg (fun text => earlier ++ ⟨level, _ ++ text, _⟩ :: later) hend

/-! ## Headings among tokens -/

section

variable {heading body closing : Token} {level : Nat} {children : List Inline}
  (hheading : heading.kind = .opening (.heading level)) (hbody : body.kind = .inline children)
  (hclosing : closing.kind = .closing (.heading level))
include hheading hbody hclosing

/-- A heading is written with its running text between its tags. -/
theorem renderFrom_heading (hhidden : heading.hidden = false ∧ body.hidden = false ∧
    closing.hidden = false) (afterHidden : Bool) (after : List Token) :
    Markdown.renderFrom afterHidden (heading :: body :: closing :: after) =
      (if afterHidden then ['\n'] else []) ++
        (Markdown.openTag (Markdown.Container.heading level).tag heading.attrs ++
          (Markdown.renderInlines children ++
            (Markdown.closeTag (Markdown.Container.heading level).tag ++
              (['\n'] ++ Markdown.renderFrom false after)))) := by
  obtain ⟨hhidden, hbodyHidden, hclosingHidden⟩ := hhidden
  have hhug : Markdown.hugsNext (.heading level) (body :: closing :: after) = true := by
    rw [Markdown.hugsNext, hbodyHidden, hbody]
    rfl
  simp only [Markdown.renderFrom, Markdown.renderToken, hheading, hbody, hclosing, hhidden,
    hbodyHidden, hclosingHidden, hhug, Bool.false_eq_true, if_false, if_true, List.append_assoc,
    List.append_nil]

/-- A heading among rendered tokens is a heading of the page, after those of the tokens before it. Its
text is what is shown of the stretches of its running text. -/
theorem exists_pageHeadings_render {before after : List Token}
    (h : ∀ t ∈ before ++ heading :: body :: closing :: after, t.IsRenderable Html.AreQuiet)
    (hsettled : ∀ c ∈ children, c.IsSettled) (hnests : nests [] children) :
    ∃ nodes earlier later,
      Html.pageNodes (Markdown.render (before ++ heading :: body :: closing :: after)) = .ok nodes ∧
      pageHeadings nodes = earlier ++
        ⟨level, (stretches children).flatMap shownText, heading.attrs.get? ['i', 'd']⟩ :: later ∧
      listed earlier = before.flatMap Markdown.Token.shown := by
  obtain ⟨hbefore, hheadingR, hbodyR, hclosingR, hafter⟩ :
      (∀ t ∈ before, t.IsRenderable Html.AreQuiet) ∧ heading.IsRenderable Html.AreQuiet ∧
        body.IsRenderable Html.AreQuiet ∧ closing.IsRenderable Html.AreQuiet ∧
        ∀ t ∈ after, t.IsRenderable Html.AreQuiet := by
    simpa only [List.forall_mem_append, List.forall_mem_cons] using h
  have hhidden {t : Token} (ht : t.IsRenderable Html.AreQuiet) (hkind : t.kind.isParagraph = false) :
      t.hidden = false := Bool.eq_false_iff.2 fun hh => by rw [ht.hidden hh] at hkind; cases hkind
  have hP := Html.piecesClosed_areQuiet
  obtain ⟨u, afterHidden, hrender, pieces, hspelled, hlists, hquiet⟩ :=
    exists_lists_renderFrom hP hbefore false (heading :: body :: closing :: after)
  obtain ⟨gap, hgap, hgaps, hgapQuiet⟩ :
      ListsWith Html.AreQuiet (if afterHidden then ['\n'] else []) [] := by
    split
    · exact hP.lists_newline
    · exact hP.lists_nil
  obtain ⟨last, hlast, -, -⟩ := lists_renderFrom hP hafter false
  obtain ⟨inside, hinside, hrun⟩ := exists_reads_inlines hsettled hnests
  obtain ⟨hname, hverbatim, hlevel, -⟩ :=
    facts_of_container (c := .heading level) fun l hl => hheadingR.level l (by rw [hheading]; exact hl)
  have hnodup : (heading.attrs.map (·.1)).Nodup :=
    hheadingR.nodup (by rw [Markdown.Token.headingLevel?, hheading]; rfl)
  have htag : Html.IsPlainTag ((Markdown.Container.heading level).tag, heading.attrs) :=
    Html.isPlainTag hname hverbatim hheadingR.attrs
  have hpage := Html.pageNodes_of_spelled ((hspelled.append hgap).append
    ((spelled_openTag htag).append (hinside.append ((spelled_closeTag hname).append
      (spelled_newline.append hlast)))))
  rw [List.append_assoc, ← renderFrom_heading hheading hbody hclosing
    ⟨hhidden hheadingR (by rw [hheading]; rfl), hhidden hbodyR (by rw [hbody]; rfl),
      hhidden hclosingR (by rw [hclosing]; rfl)⟩, ← hrender] at hpage
  obtain ⟨earlier, later, hheadings, hlisted⟩ :=
    exists_pageHeadings_of_pieces hlevel heading.attrs (hquiet.append hgapQuiet) hrun
  refine ⟨_, earlier, later, hpage, ?_, ?_⟩
  · rw [get?_id_tagAttributes _ hnodup] at hheadings
    exact hheadings
  · rw [hlisted, Html.openings_append, List.filterMap_append, hlists, hgaps, List.append_nil]

end

end LiveMarkdown
