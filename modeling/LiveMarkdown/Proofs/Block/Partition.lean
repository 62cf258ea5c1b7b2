import LiveMarkdown.Block.Split
import LiveMarkdown.Proofs.Text.Lines
import Mathlib.Data.List.Chain

/-!
# The blocks of a document are a partition

A document is cut along spans of lines, one for each block of the top level. Between two of them the
lines that are not blank become blocks, one for each run of them. Here each block is followed by the
span of its lines (`exists_blocksFrom`), so that everything about blocks is a statement about spans:
they are in order, they hold each line that is not blank, and those that do not come from the parser
are runs that go as far as they can (`IsRunOf`).
-/

namespace LiveMarkdown

open Markdown (Span Token topLevelSpans)

/-! ## Lines and spans -/

/-- The line with this number, counted from zero, is there and is not blank. -/
def IsWritten (lines : List Text) (i : Nat) : Prop :=
  ∃ line, lines[i]? = some line ∧ Text.allBlank line = false

/-- The line is one of the span. -/
def Markdown.Span.Has (s : Span) (i : Nat) : Prop := s.first ≤ i ∧ i < s.past

/-- The lines of a span are all lines of a kind from some line on, up to the next one that is not of
the kind. -/
structure IsRunOf (p : Nat → Prop) (s : Span) : Prop where
  lt : s.first < s.past
  all : ∀ i, s.Has i → p i
  before : ∀ i, i + 1 = s.first → ¬p i
  after : ¬p s.past

/-- Spans in a document of so many lines: none is empty, and each begins after the one before. -/
structure AreOrdered (size : Nat) (spans : List Span) : Prop where
  bounds : ∀ s ∈ spans, s.first < s.past ∧ s.past ≤ size
  chain : spans.IsChain fun s s' => s.past ≤ s'.first

instance (size : Nat) (spans : List Span) : Decidable (AreOrdered size spans) :=
  decidable_of_iff ((∀ s ∈ spans, s.first < s.past ∧ s.past ≤ size) ∧
    spans.IsChain fun s s' => s.past ≤ s'.first)
    ⟨fun h => ⟨h.1, h.2⟩, fun h => ⟨h.bounds, h.chain⟩⟩

/-- Ordered spans are ordered after the first. -/
theorem AreOrdered.tail {size : Nat} {s : Span} {spans : List Span}
    (h : AreOrdered size (s :: spans)) : AreOrdered size spans where
  bounds s' hs' := h.bounds s' (List.mem_cons_of_mem _ hs')
  chain := h.chain.tail

/-- All later spans begin after the first one. -/
theorem AreOrdered.past_le {size : Nat} {s : Span} {spans : List Span}
    (h : AreOrdered size (s :: spans)) : ∀ s' ∈ spans, s.past ≤ s'.first := by
  induction spans generalizing s with
  | nil => exact List.forall_mem_nil _
  | cons next rest ih =>
    have hnext : s.past ≤ next.first := (List.isChain_cons_cons.1 h.chain).1
    have hlt := (h.bounds next (List.mem_cons_of_mem _ List.mem_cons_self)).1
    refine List.forall_mem_cons.2 ⟨hnext, fun s' hs' => ?_⟩
    have := ih h.tail s' hs'
    omega

section

variable {lines : List Text}

/-! ## Lines of a span -/

/-- Lines up to `c` are those up to `b` and those from there on. -/
theorem linesOf_append {a b c : Nat} (hab : a ≤ b) (hbc : b ≤ c) :
    linesOf lines a c = linesOf lines a b ++ linesOf lines b c := by
  have hlength : c - a = (b - a) + (c - b) := by omega
  have hstart : a + (b - a) = b := by omega
  simp only [linesOf, List.drop_take]
  rw [hlength, List.take_add, List.drop_drop, hstart]

/-- Line `k` of the lines from `a` on is line `a + k`. -/
theorem getElem?_linesOf {a b k : Nat} (h : a + k < b) :
    (linesOf lines a b)[k]? = lines[a + k]? := by
  rw [linesOf, List.getElem?_drop, List.getElem?_take_of_lt h]

/-- No lines lie between a line and an earlier one. -/
theorem linesOf_eq_nil {a b : Nat} (h : b ≤ a) : linesOf lines a b = [] := by
  rw [linesOf, List.drop_take, Nat.sub_eq_zero_of_le h, List.take_zero]

/-- There are as many lines as the numbers say, if the document has them. -/
theorem length_linesOf {a b : Nat} (h : b ≤ lines.length) : (linesOf lines a b).length = b - a := by
  rw [linesOf, List.length_drop, List.length_take, Nat.min_eq_left h]

/-- The first of the lines, and the others. -/
theorem linesOf_eq_cons {a b : Nat} {line : Text} {rest : List Text}
    (h : linesOf lines a b = line :: rest) :
    a < b ∧ lines[a]? = some line ∧ linesOf lines (a + 1) b = rest := by
  have hlt : a < b := by
    refine Nat.lt_of_not_le fun hle => ?_
    rw [linesOf_eq_nil hle] at h
    cases h
  have hfirst : (linesOf lines a b)[0]? = lines[a + 0]? := getElem?_linesOf hlt
  rw [h] at hfirst
  refine ⟨hlt, hfirst.symm, ?_⟩
  have htail := congrArg (List.drop 1) h
  rwa [linesOf, List.drop_drop] at htail

/-! ## Runs of lines -/

/-- Runs of the lines of a kind among those from `a` up to `b`, in order and without a gap. -/
structure AreRuns (lines : List Text) (p : Nat → Prop) (a b : Nat) (runs : List Span) : Prop where
  isRunOf : ∀ s ∈ runs, IsRunOf p s
  within : ∀ s ∈ runs, a ≤ s.first ∧ s.past ≤ b
  ordered : runs.Pairwise fun s s' => s.past ≤ s'.first
  covers : ∀ i, a ≤ i → i < b → p i → ∃ s ∈ runs, s.Has i
  written : (runs.flatMap fun s => linesOf lines s.first s.past).filter (!Text.allBlank ·) =
    (linesOf lines a b).filter (!Text.allBlank ·)

/-- No lines have no runs. -/
theorem areRuns_nil {p : Nat → Prop} {a b : Nat} (h : b ≤ a) : AreRuns lines p a b [] where
  isRunOf := List.forall_mem_nil _
  within := List.forall_mem_nil _
  ordered := .nil
  covers i hai hib := absurd hib (by omega)
  written := by rw [linesOf_eq_nil h]; rfl

/-- One run that has all the lines. -/
theorem areRuns_singleton {p : Nat → Prop} {a b : Nat} (h : IsRunOf p ⟨a, b⟩) :
    AreRuns lines p a b [⟨a, b⟩] where
  isRunOf := List.forall_mem_singleton.2 h
  within := List.forall_mem_singleton.2 ⟨Nat.le_refl a, Nat.le_refl b⟩
  ordered := List.pairwise_singleton _ _
  covers i hai hib _ := ⟨⟨a, b⟩, List.mem_cons_self, hai, hib⟩
  written := by rw [List.flatMap_singleton]

/-- Runs of the lines up to a line that is not of the kind, and of those after it. -/
theorem AreRuns.append {p : Nat → Prop} {a b c : Nat} {runs more : List Span}
    (h : AreRuns lines p a b runs) (h' : AreRuns lines p (b + 1) c more) (hab : a ≤ b) (hbc : b < c)
    (hp : ¬p b) (hblank : (linesOf lines b (b + 1)).filter (!Text.allBlank ·) = []) :
    AreRuns lines p a c (runs ++ more) where
  isRunOf s hs := (List.mem_append.1 hs).elim (h.isRunOf s) (h'.isRunOf s)
  within s hs := by
    rcases List.mem_append.1 hs with hs | hs
    · have := h.within s hs
      omega
    · have := h'.within s hs
      omega
  ordered := by
    refine List.pairwise_append.2 ⟨h.ordered, h'.ordered, fun s hs s' hs' => ?_⟩
    have hleft := (h.within s hs).2
    have hright := (h'.within s' hs').1
    omega
  covers i hai hic hi := by
    rcases Nat.lt_trichotomy i b with hlt | rfl | hgt
    · obtain ⟨s, hs, hhas⟩ := h.covers i hai hlt hi
      exact ⟨s, List.mem_append_left _ hs, hhas⟩
    · exact absurd hi hp
    · obtain ⟨s, hs, hhas⟩ := h'.covers i hgt hic hi
      exact ⟨s, List.mem_append_right _ hs, hhas⟩
  written := by
    rw [List.flatMap_append, List.filter_append, h.written, h'.written,
      linesOf_append hab (Nat.le_of_lt hbc), linesOf_append (Nat.le_succ b) hbc, List.filter_append,
      List.filter_append, hblank, List.nil_append]

/-- The lines from `start` up to `stop` that are there and not blank. -/
def WrittenWithin (lines : List Text) (start stop i : Nat) : Prop :=
  (start ≤ i ∧ i < stop) ∧ IsWritten lines i

/-- A blank line is not written. -/
theorem not_isWritten {i : Nat} {line : Text} (hline : lines[i]? = some line)
    (hblank : Text.allBlank line) : ¬IsWritten lines i := by
  rintro ⟨other, hother, hwritten⟩
  obtain rfl := Option.some.inj (hline.symm.trans hother)
  rw [hblank] at hwritten
  cases hwritten

section

variable {start stop : Nat}

/-- The run that ends where the scanner has got to. -/
theorem close_eq {a : Nat} {current : List Text} (hstart : start ≤ a)
    (hend : a + current.length ≤ stop)
    (hcurrent : current.reverse = linesOf lines a (a + current.length))
    (hall : ∀ line ∈ current, Text.allBlank line = false)
    (hbefore : ∀ i, i + 1 = a → ¬WrittenWithin lines start stop i)
    (hafter : ¬WrittenWithin lines start stop (a + current.length)) :
    ∃ runs, runsFrom.close (a + current.length + 1) current = runs.map (spanBlock lines) ∧
      AreRuns lines (WrittenWithin lines start stop) a (a + current.length) runs := by
  unfold runsFrom.close
  cases hempty : current.isEmpty with
  | true =>
    rw [List.isEmpty_iff.1 hempty]
    exact ⟨[], rfl, areRuns_nil (Nat.le_refl a)⟩
  | false =>
    have hpos : 0 < current.length := List.length_pos_iff.2 (List.isEmpty_eq_false_iff.1 hempty)
    refine ⟨[⟨a, a + current.length⟩], ?_, areRuns_singleton
      ⟨Nat.lt_add_of_pos_right hpos, fun i hi => ?_, hbefore, hafter⟩⟩
    · simp only [Bool.false_eq_true, if_false, List.map_cons, List.map_nil, spanBlock, ← hcurrent]
      congr 2
      · push_cast
        omega
      · push_cast
        omega
    · obtain ⟨hai, hib⟩ : a ≤ i ∧ i < a + current.length := hi
      obtain ⟨k, rfl⟩ := Nat.exists_eq_add_of_le hai
      have hline : lines[a + k]? = current.reverse[k]? := by rw [hcurrent, getElem?_linesOf hib]
      have hk : k < current.reverse.length := by rw [List.length_reverse]; omega
      rw [List.getElem?_eq_getElem hk] at hline
      refine ⟨⟨by omega, by omega⟩, _, hline, hall _ ?_⟩
      exact List.mem_reverse.1 (List.getElem_mem hk)

/-- The scanner finds the runs of the lines that are left, and of those that it holds. -/
theorem runsFrom_eq (hstop : stop ≤ lines.length) {rest : List Text} :
    ∀ {a : Nat} {current : List Text}, start ≤ a → a + current.length ≤ stop →
    current.reverse = linesOf lines a (a + current.length) →
    rest = linesOf lines (a + current.length) stop →
    (∀ line ∈ current, Text.allBlank line = false) →
    (∀ i, i + 1 = a → ¬WrittenWithin lines start stop i) →
    ∃ runs, runsFrom (a + current.length + 1) current rest = runs.map (spanBlock lines) ∧
      AreRuns lines (WrittenWithin lines start stop) a stop runs := by
  -- `current` holds the lines of a run that has begun at line `a` and may go on, the last one
  -- first.
  induction rest with
  | nil =>
    intro a current hstart hend hcurrent hrest hall hbefore
    have hlength := length_linesOf (a := a + current.length) hstop
    rw [← hrest, List.length_nil] at hlength
    have hstop' : a + current.length = stop := by omega
    have hafter : ¬WrittenWithin lines start stop (a + current.length) :=
      fun h => absurd h.1.2 (by omega)
    rw [runsFrom, ← hstop']
    rw [← hstop'] at hafter hbefore
    exact close_eq hstart (Nat.le_refl _) hcurrent hall hbefore hafter
  | cons line rest ih =>
    intro a current hstart hend hcurrent hrest hall hbefore
    obtain ⟨hlt, hline, hmore⟩ := linesOf_eq_cons hrest.symm
    have hone : linesOf lines (a + current.length) (a + current.length + 1) = [line] := by
      have hsplit : linesOf lines (a + current.length) stop = _ ++ _ :=
        linesOf_append (Nat.le_succ (a + current.length)) hlt
      rw [← hrest, hmore] at hsplit
      exact List.append_cancel_right (hsplit.symm.trans rfl)
    rw [runsFrom]
    cases hblank : Text.allBlank line with
    | true =>
      have hafter : ¬WrittenWithin lines start stop (a + current.length) :=
        fun h => not_isWritten hline hblank h.2
      obtain ⟨runs, hruns, hare⟩ := close_eq hstart hend hcurrent hall hbefore hafter
      have hbefore' (i : Nat) (hi : i + 1 = a + current.length + 1) :
          ¬WrittenWithin lines start stop i := by
        obtain rfl : i = a + current.length := Nat.succ.inj hi
        exact hafter
      have hnil : ([] : List Text).reverse =
          linesOf lines (a + current.length + 1) (a + current.length + 1) :=
        (linesOf_eq_nil (Nat.le_refl _)).symm
      obtain ⟨more, hmores, hare'⟩ :=
        ih (by omega) hlt hnil hmore.symm (List.forall_mem_nil _) hbefore'
      refine ⟨runs ++ more, ?_, hare.append hare' (by omega) hlt hafter ?_⟩
      · rw [List.map_append, ← hruns, ← hmores]
        rfl
      · rw [hone, List.filter_cons_of_neg (by rw [hblank]; decide), List.filter_nil]
    | false =>
      have hcurrent' : (line :: current).reverse = linesOf lines a (a + current.length + 1) := by
        rw [List.reverse_cons, hcurrent,
          linesOf_append (Nat.le_add_right a current.length) (Nat.le_succ _), hone]
      have hend' : a + (line :: current).length ≤ stop := hlt
      exact ih hstart hend' hcurrent' hmore.symm (List.forall_mem_cons.2 ⟨hblank, hall⟩) hbefore

/-- The blocks of a gap are the runs of its lines. -/
theorem gapBlocks_eq (h : start ≤ stop) (hstop : stop ≤ lines.length) : ∃ runs,
    gapBlocks lines start stop = runs.map (spanBlock lines) ∧
      AreRuns lines (WrittenWithin lines start stop) start stop runs := by
  have hbefore (i : Nat) (hi : i + 1 = start) : ¬WrittenWithin lines start stop i :=
    fun hw => absurd hw.1.1 (by omega)
  have hnil : ([] : List Text).reverse = linesOf lines start start :=
    (linesOf_eq_nil (Nat.le_refl _)).symm
  exact runsFrom_eq hstop (Nat.le_refl _) h hnil rfl (List.forall_mem_nil _) hbefore

end

/-! ## Nodes and gaps -/

/-- The line is written, and neither below `covered` nor in a node. -/
def IsFree (lines : List Text) (covered : Nat) (nodes : List Span) (i : Nat) : Prop :=
  covered ≤ i ∧ IsWritten lines i ∧ ∀ s ∈ nodes, ¬s.Has i

/-- Spans of the lines from `covered` on: those of the nodes, and between them the runs of the lines
that are written and in no node. -/
structure ArePieces (lines : List Text) (covered : Nat) (nodes pieces : List Span) : Prop where
  bounds : ∀ s ∈ pieces, covered ≤ s.first ∧ s.first < s.past ∧ s.past ≤ lines.length
  ordered : pieces.Pairwise fun s s' => s.past ≤ s'.first
  node_mem : ∀ s ∈ nodes, s ∈ pieces
  runs : ∀ s ∈ pieces, s ∈ nodes ∨ IsRunOf (IsFree lines covered nodes) s
  covers : ∀ i, covered ≤ i → IsWritten lines i → ∃ s ∈ pieces, s.Has i
  written : (pieces.flatMap fun s => linesOf lines s.first s.past).filter (!Text.allBlank ·) =
    (linesOf lines covered lines.length).filter (!Text.allBlank ·)

/-- Only the lines of a run, and the two lines around it, decide that it is one. -/
theorem IsRunOf.congr {p q : Nat → Prop} {s : Span} (h : IsRunOf p s)
    (hpq : ∀ i, s.first ≤ i + 1 → i ≤ s.past → (p i ↔ q i)) : IsRunOf q s where
  lt := h.lt
  all i hi := (hpq i (Nat.le_succ_of_le hi.1) (Nat.le_of_lt hi.2)).1 (h.all i hi)
  before i hi := by
    have hlt := h.lt
    exact fun hq => h.before i hi ((hpq i (by omega) (by omega)).2 hq)
  after hq := h.after ((hpq s.past (Nat.le_succ_of_le (Nat.le_of_lt h.lt)) (Nat.le_refl _)).2 hq)

/-- A line that is written is one of the document's. -/
theorem IsWritten.lt {i : Nat} (h : IsWritten lines i) : i < lines.length := by
  obtain ⟨line, hline, -⟩ := h
  exact (List.getElem?_eq_some_iff.1 hline).1

/-- After the last node there are only runs. -/
theorem AreRuns.arePieces {covered : Nat} {runs : List Span}
    (h : AreRuns lines (WrittenWithin lines covered lines.length) covered lines.length runs) :
    ArePieces lines covered [] runs where
  bounds s hs := ⟨(h.within s hs).1, (h.isRunOf s hs).lt, (h.within s hs).2⟩
  ordered := h.ordered
  node_mem := List.forall_mem_nil _
  runs s hs := by
    refine .inr ((h.isRunOf s hs).congr fun i _ _ => ?_)
    exact ⟨fun hi => ⟨hi.1.1, hi.2, List.forall_mem_nil _⟩, fun hi => ⟨⟨hi.1, hi.2.1.lt⟩, hi.2.1⟩⟩
  covers i hi hwritten := h.covers i hi hwritten.lt ⟨⟨hi, hwritten.lt⟩, hwritten⟩
  written := h.written

/-- The runs before a node, the node, and the pieces after it. -/
theorem ArePieces.cons {covered : Nat} {s : Span} {rest runs more : List Span}
    (hnodes : AreOrdered lines.length (s :: rest)) (hcovered : covered ≤ s.first)
    (hruns : AreRuns lines (WrittenWithin lines covered s.first) covered s.first runs)
    (hmore : ArePieces lines s.past rest more) :
    ArePieces lines covered (s :: rest) (runs ++ s :: more) where
  bounds := by
    have hs := hnodes.bounds s List.mem_cons_self
    refine List.forall_mem_append.2 ⟨fun r hr => ?_, List.forall_mem_cons.2
      ⟨⟨hcovered, hs⟩, fun r hr => ?_⟩⟩
    · have hr' := hruns.within r hr
      exact ⟨hr'.1, (hruns.isRunOf r hr).lt, by omega⟩
    · have hr' := hmore.bounds r hr
      exact ⟨by omega, hr'.2⟩
  ordered := by
    have hs := (hnodes.bounds s List.mem_cons_self).1
    refine List.pairwise_append.2 ⟨hruns.ordered, List.pairwise_cons.2
      ⟨fun r hr => (hmore.bounds r hr).1, hmore.ordered⟩, fun r hr r' hr' => ?_⟩
    have hle := (hruns.within r hr).2
    rcases List.mem_cons.1 hr' with rfl | hr'
    · exact hle
    · have := (hmore.bounds r' hr').1
      omega
  node_mem := List.forall_mem_cons.2 ⟨List.mem_append_right _ List.mem_cons_self, fun r hr =>
    List.mem_append_right _ (List.mem_cons_of_mem _ (hmore.node_mem r hr))⟩
  runs := by
    have hs := (hnodes.bounds s List.mem_cons_self).1
    have hpast := hnodes.past_le
    refine List.forall_mem_append.2 ⟨fun r hr => .inr ?_, List.forall_mem_cons.2
      ⟨.inl List.mem_cons_self, fun r hr => ?_⟩⟩
    · -- a line of the gap before `s` is in no node
      have hr' := hruns.within r hr
      refine (hruns.isRunOf r hr).congr fun i _ hi => ⟨fun h => ⟨h.1.1, h.2, ?_⟩, fun h => ?_⟩
      · refine List.forall_mem_cons.2 ⟨fun hhas => ?_, fun s' hs' hhas => ?_⟩
        · exact absurd hhas.1 (Nat.not_le_of_lt h.1.2)
        · have hle := hpast s' hs'
          have hlt := h.1.2
          have := hhas.1
          omega
      · refine ⟨⟨h.1, Nat.lt_of_not_le fun hle => ?_⟩, h.2.1⟩
        exact h.2.2 s List.mem_cons_self ⟨hle, by omega⟩
    · refine (hmore.runs r hr).imp (List.mem_cons_of_mem _) fun hrun => ?_
      -- the line before a run that begins right after `s` is in `s`
      have hr' := hmore.bounds r hr
      refine hrun.congr fun i hi _ => ⟨fun h => ⟨by have := h.1; omega, h.2.1, ?_⟩, fun h => ?_⟩
      · refine List.forall_mem_cons.2 ⟨fun hhas => ?_, h.2.2⟩
        exact absurd hhas.2 (Nat.not_lt_of_le h.1)
      · refine ⟨Nat.le_of_not_lt fun hlt => ?_, h.2.1, fun s' hs' =>
          h.2.2 s' (List.mem_cons_of_mem _ hs')⟩
        exact h.2.2 s List.mem_cons_self ⟨by omega, hlt⟩
  covers i hi hwritten := by
    rcases Nat.lt_or_ge i s.first with hlt | hge
    · obtain ⟨r, hr, hhas⟩ := hruns.covers i hi hlt ⟨⟨hi, hlt⟩, hwritten⟩
      exact ⟨r, List.mem_append_left _ hr, hhas⟩
    · rcases Nat.lt_or_ge i s.past with hlt | hpast
      · exact ⟨s, List.mem_append_right _ List.mem_cons_self, hge, hlt⟩
      · obtain ⟨r, hr, hhas⟩ := hmore.covers i hpast hwritten
        exact ⟨r, List.mem_append_right _ (List.mem_cons_of_mem _ hr), hhas⟩
  written := by
    have hs := hnodes.bounds s List.mem_cons_self
    have hthere : s.first ≤ lines.length := by omega
    rw [List.flatMap_append, List.flatMap_cons, List.filter_append, List.filter_append,
      hruns.written, hmore.written, linesOf_append hcovered hthere,
      linesOf_append (Nat.le_of_lt hs.1) hs.2, List.filter_append, List.filter_append]

/-- The blocks are those of the pieces. -/
theorem exists_blocksFrom {nodes : List Span} : ∀ {covered : Nat}, covered ≤ lines.length →
    (∀ s ∈ nodes, covered ≤ s.first) → AreOrdered lines.length nodes → ∃ pieces,
      blocksFrom lines covered nodes = .ok (pieces.map (spanBlock lines)) ∧
        ArePieces lines covered nodes pieces := by
  induction nodes with
  | nil =>
    intro covered hcovered _ _
    obtain ⟨runs, hblocks, hruns⟩ := gapBlocks_eq hcovered (Nat.le_refl lines.length)
    exact ⟨runs, by rw [blocksFrom, hblocks], hruns.arePieces⟩
  | cons s rest ih =>
    intro covered _ hfirst hnodes
    have hcovered := hfirst s List.mem_cons_self
    have hs := hnodes.bounds s List.mem_cons_self
    obtain ⟨more, hblocks, hmore⟩ := ih hs.2 hnodes.past_le hnodes.tail
    obtain ⟨runs, hgap, hruns⟩ := gapBlocks_eq hcovered (by omega : s.first ≤ lines.length)
    refine ⟨runs ++ s :: more, ?_, .cons hnodes hcovered hruns hmore⟩
    have hthere : ¬lines.length < s.first := by omega
    have hmax : max covered s.past = s.past := by omega
    rw [blocksFrom, decide_eq_false hthere, Bool.and_false, if_neg Bool.false_ne_true, hmax,
      hblocks, hgap, List.map_append, List.map_cons]
    rfl

end

/-! ## The lines of a block -/

/-- The lines of a run are lines of the text. -/
theorem exists_lines_of_mem_runsFrom {number : Nat} {current ls : List Text} {b : BlockSource}
    (h : b ∈ runsFrom number current ls) :
    ∃ part, b.source = Text.unlines part ∧ ∀ line ∈ part, line ∈ current ∨ line ∈ ls := by
  have hclose {number : Nat} {current : List Text} (h : b ∈ runsFrom.close number current) :
      ∃ part, b.source = Text.unlines part ∧ ∀ line ∈ part, line ∈ current := by
    rw [runsFrom.close] at h
    split at h
    · cases h
    · rw [List.mem_singleton.1 h]
      exact ⟨current.reverse, rfl, fun line hline => List.mem_reverse.1 hline⟩
  induction ls generalizing number current with
  | nil =>
    obtain ⟨part, hsource, hpart⟩ := hclose h
    exact ⟨part, hsource, fun line hline => .inl (hpart line hline)⟩
  | cons first rest ih =>
    rw [runsFrom] at h
    split at h
    · rcases List.mem_append.1 h with h | h
      · obtain ⟨part, hsource, hpart⟩ := hclose h
        exact ⟨part, hsource, fun line hline => .inl (hpart line hline)⟩
      · obtain ⟨part, hsource, hpart⟩ := ih h
        refine ⟨part, hsource, fun line hline => .inr (List.mem_cons_of_mem _ ?_)⟩
        exact (hpart line hline).resolve_left List.not_mem_nil
    · obtain ⟨part, hsource, hpart⟩ := ih h
      refine ⟨part, hsource, fun line hline => ?_⟩
      rcases hpart line hline with hmem | hmem
      · rcases List.mem_cons.1 hmem with rfl | hmem
        · exact .inr List.mem_cons_self
        · exact .inl hmem
      · exact .inr (List.mem_cons_of_mem _ hmem)

/-- The lines of a block are lines of the text. -/
theorem exists_lines_of_mem_blocksFrom {ls : List Text} {spans : List Span} {covered : Nat}
    {blocks : List BlockSource} (h : blocksFrom ls covered spans = .ok blocks) {b : BlockSource}
    (hb : b ∈ blocks) : ∃ part, b.source = Text.unlines part ∧ ∀ line ∈ part, line ∈ ls := by
  have hlines {start stop : Nat} {line : Text} (h : line ∈ linesOf ls start stop) : line ∈ ls :=
    List.mem_of_mem_take (List.mem_of_mem_drop h)
  have hgap {start stop : Nat} (hb : b ∈ gapBlocks ls start stop) :
      ∃ part, b.source = Text.unlines part ∧ ∀ line ∈ part, line ∈ ls := by
    obtain ⟨part, hsource, hpart⟩ := exists_lines_of_mem_runsFrom hb
    exact ⟨part, hsource, fun line hline =>
      hlines ((hpart line hline).resolve_left List.not_mem_nil)⟩
  induction spans generalizing covered blocks with
  | nil =>
    cases h
    exact hgap hb
  | cons s rest ih =>
    rw [blocksFrom] at h
    split at h
    · cases h
    · cases hmore : blocksFrom ls (max covered s.past) rest with
      | error e =>
        rw [hmore] at h
        cases h
      | ok more =>
        rw [hmore] at h
        cases h
        rcases List.mem_append.1 hb with hb | hb
        · exact hgap hb
        · rcases List.mem_cons.1 hb with rfl | hb
          · exact ⟨linesOf ls s.first s.past, rfl, fun line hline => hlines hline⟩
          · exact ih hmore hb

/-! ## The partition -/

/-- Blocks that are a partition of lines along the spans of nodes. Lines are counted from one in
blocks, and from zero in spans. -/
structure IsPartition (lines : List Text) (nodes : List Span) (blocks : List BlockSource) :
    Prop where
  /-- The source of a block are its lines. -/
  source : ∀ b ∈ blocks, 1 ≤ b.startLine ∧ b.startLine ≤ b.endLine ∧ b.endLine ≤ lines.length ∧
    b.source = Text.unlines (linesOf lines (b.startLine.toNat - 1) b.endLine.toNat)
  /-- A block ends before the next one begins. -/
  ordered : blocks.Pairwise fun b c => b.endLine < c.startLine
  /-- Each node is a block. -/
  node : ∀ s ∈ nodes, ∃! b, b ∈ blocks ∧ b.startLine = s.first + 1 ∧ b.endLine = s.past
  /-- Each line that is not blank is in exactly one block. -/
  written : ∀ i, IsWritten lines i → ∃! b, b ∈ blocks ∧ b.startLine ≤ i + 1 ∧ i + 1 ≤ b.endLine
  /-- The blocks have the lines that are not blank in the order in which the text has them. -/
  concatenated : (blocks.flatMap fun b => Text.lines b.source).filter (!Text.allBlank ·) =
    lines.filter (!Text.allBlank ·)
  /-- What is not a node is a run of lines that are not blank, as long as it can be, in a gap. -/
  gap : ∀ b ∈ blocks, (∃ s ∈ nodes, b.startLine = s.first + 1 ∧ b.endLine = s.past) ∨
    ∃ s, IsRunOf (fun i => IsWritten lines i ∧ ∀ node ∈ nodes, ¬node.Has i) s ∧
      b.startLine = s.first + 1 ∧ b.endLine = s.past

/-- One of two spans ends before the other begins. -/
def Apart (s s' : Span) : Prop := s.past ≤ s'.first ∨ s'.past ≤ s.first

instance : Std.Symm Apart := ⟨fun _ _ => Or.symm⟩

/-- At most one piece has a line. -/
theorem ArePieces.eq_of_has {lines : List Text} {covered i : Nat} {nodes pieces : List Span}
    (h : ArePieces lines covered nodes pieces) {s s' : Span} (hs : s ∈ pieces) (hs' : s' ∈ pieces)
    (hhas : s.Has i) (hhas' : s'.Has i) : s = s' := by
  by_contra hne
  have hall : pieces.Pairwise Apart := h.ordered.imp .inl
  have hapart : s.past ≤ s'.first ∨ s'.past ≤ s.first := hall.forall hs hs' hne
  obtain ⟨⟨hle, hlt⟩, hle', hlt'⟩ := And.intro hhas hhas'
  omega

/-- Cutting the source of a piece gives its lines back. -/
theorem lines_source_spanBlock {t : Text} {s : Span} (h : s.first < s.past)
    (hpast : s.past ≤ (Text.lines t).length) :
    Text.lines (spanBlock (Text.lines t) s).source = linesOf (Text.lines t) s.first s.past := by
  refine Text.lines_unlines (fun hnil => ?_) fun line hline => ?_
  · have hlength := length_linesOf (a := s.first) hpast
    rw [hnil, List.length_nil] at hlength
    omega
  · exact Text.newline_notMem_of_mem_lines (List.mem_of_mem_take (List.mem_of_mem_drop hline))

/-- The blocks of pieces are a partition. -/
theorem ArePieces.isPartition {t : Text} {nodes pieces : List Span}
    (h : ArePieces (Text.lines t) 0 nodes pieces) :
    IsPartition (Text.lines t) nodes (pieces.map (spanBlock (Text.lines t))) where
  source := by
    refine List.forall_mem_map.2 fun s hs => ?_
    obtain ⟨-, hlt, hle⟩ := h.bounds s hs
    have hfirst : ((s.first : Int) + 1).toNat - 1 = s.first := by omega
    refine ⟨by show (1 : Int) ≤ s.first + 1; omega, by show (s.first : Int) + 1 ≤ s.past; omega,
      Int.ofNat_le.2 hle, ?_⟩
    show _ = Text.unlines (linesOf _ (((s.first : Int) + 1).toNat - 1) (s.past : Int).toNat)
    rw [hfirst, Int.toNat_natCast]
    rfl
  ordered := by
    refine List.pairwise_map.2 (h.ordered.imp fun {s s'} hle => ?_)
    show (s.past : Int) < s'.first + 1
    omega
  -- Lines of a block are counted from one, and those of a span from zero.
  node s hs := by
    refine ⟨spanBlock _ s, ⟨List.mem_map_of_mem (h.node_mem s hs), rfl, rfl⟩, ?_⟩
    rintro b ⟨hb, hfirst, hpast⟩
    obtain ⟨⟨first, past⟩, -, rfl⟩ := List.mem_map.1 hb
    obtain rfl : first = s.first := by simp only [spanBlock] at hfirst; omega
    obtain rfl : past = s.past := Int.ofNat.inj hpast
    rfl
  written i hi := by
    obtain ⟨s, hs, hhas⟩ := h.covers i (Nat.zero_le i) hi
    refine ⟨spanBlock _ s, ⟨List.mem_map_of_mem hs, ?_, ?_⟩, ?_⟩
    · exact Int.add_le_add_right (Int.ofNat_le.2 hhas.1) 1
    · exact Int.ofNat_le.2 hhas.2
    · rintro b ⟨hb, hfirst, hpast⟩
      obtain ⟨s', hs', rfl⟩ := List.mem_map.1 hb
      have hhas' : s'.Has i :=
        ⟨Int.ofNat_le.1 (Int.le_of_add_le_add_right hfirst), Int.ofNat_le.1 hpast⟩
      rw [h.eq_of_has hs' hs hhas' hhas]
  concatenated := by
    have hlines : (pieces.map (spanBlock (Text.lines t))).flatMap (fun b => Text.lines b.source) =
        pieces.flatMap fun s => linesOf (Text.lines t) s.first s.past := by
      rw [List.flatMap_map]
      refine List.flatMap_congr fun s hs => ?_
      obtain ⟨-, hlt, hle⟩ := h.bounds s hs
      exact lines_source_spanBlock hlt hle
    rw [hlines, h.written]
    rw [linesOf, List.take_length, List.drop_zero]
  gap := by
    refine List.forall_mem_map.2 fun s hs => ?_
    refine (h.runs s hs).imp (fun hnode => ⟨s, hnode, rfl, rfl⟩) fun hrun => ?_
    refine ⟨s, hrun.congr fun i _ _ => ?_, rfl, rfl⟩
    exact ⟨fun hi => hi.2, fun hi => ⟨Nat.zero_le i, hi⟩⟩

/-- The blocks of a document whose nodes are in order. -/
theorem exists_blocksOfTokens {t : Text} {tokens : List Token}
    (h : AreOrdered (Text.lines t).length (topLevelSpans tokens)) : ∃ pieces,
      blocksOfTokens t tokens = .ok (pieces.map (spanBlock (Text.lines t))) ∧
        ArePieces (Text.lines t) 0 (topLevelSpans tokens) pieces :=
  exists_blocksFrom (Nat.zero_le _) (fun s _ => Nat.zero_le s.first) h

/-- A document whose nodes are in order can be split; its blocks are a partition of its lines. -/
theorem blocks_partition (t : Text) (tokens : List Token)
    (h : AreOrdered (Text.lines t).length (topLevelSpans tokens)) :
    ∃ blocks, blocksOfTokens t tokens = .ok blocks ∧
      IsPartition (Text.lines t) (topLevelSpans tokens) blocks := by
  obtain ⟨pieces, hblocks, hpieces⟩ := exists_blocksOfTokens h
  exact ⟨_, hblocks, hpieces.isPartition⟩

/-- A definition, a heading with a paragraph right after it, and two runs at the end. -/
theorem blocks_partition_gaps :
    ∃ blocks, blocksOfTokens "\n[a]: /x\n\n# A\nb [a]\n\n[b]: /y\n \n[c]: /z\n".toList
        (Markdown.parse "\n[a]: /x\n\n# A\nb [a]\n\n[b]: /y\n \n[c]: /z\n".toList) = .ok blocks ∧
      blocks.map (fun b => (b.startLine, b.endLine)) = [(2, 2), (4, 4), (5, 5), (7, 7), (9, 9)] ∧
      IsPartition (Text.lines "\n[a]: /x\n\n# A\nb [a]\n\n[b]: /y\n \n[c]: /z\n".toList)
        [⟨3, 4⟩, ⟨4, 5⟩] blocks := by
  have hnodes : topLevelSpans
      (Markdown.parse "\n[a]: /x\n\n# A\nb [a]\n\n[b]: /y\n \n[c]: /z\n".toList) =
      [⟨3, 4⟩, ⟨4, 5⟩] := by decide +kernel
  have hopt : (blocksOfTokens "\n[a]: /x\n\n# A\nb [a]\n\n[b]: /y\n \n[c]: /z\n".toList
      (Markdown.parse "\n[a]: /x\n\n# A\nb [a]\n\n[b]: /y\n \n[c]: /z\n".toList)).toOption.map
        (·.map fun b => (b.startLine, b.endLine)) =
      some [(2, 2), (4, 4), (5, 5), (7, 7), (9, 9)] := by decide +kernel
  obtain ⟨blocks, hblocks, hpartition⟩ :=
    blocks_partition "\n[a]: /x\n\n# A\nb [a]\n\n[b]: /y\n \n[c]: /z\n".toList
      (Markdown.parse "\n[a]: /x\n\n# A\nb [a]\n\n[b]: /y\n \n[c]: /z\n".toList)
      (by rw [hnodes]; decide +kernel)
  rw [hblocks] at hopt
  rw [hnodes] at hpartition
  exact ⟨blocks, hblocks, Option.some.inj hopt, hpartition⟩

end LiveMarkdown
