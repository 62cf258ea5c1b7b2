import LiveMarkdown.Proofs.Heading.Numbering
import LiveMarkdown.Proofs.Math.Prepared

/-!
# Source lines

What is shown carries the line of the source that it came from. That is a line of the prepared text:
where a formula on one line has been put on three, everything after it carries a line that is two too
high (`source_lines_iff`). What carries it are the elements of the top level, and each of them does
(`sourceLines_documentStages`).
-/

namespace LiveMarkdown

open Markdown (Span Token Moved parse spread topLevelSpansFrom)

/-! ## Elements -/

/-- Does the token begin an element of the page? Raw HTML is written as it is, and running text is
the content of an element. -/
def Markdown.Kind.isElement : Kind → Bool
  | .closing _ | .inline _ | .html => false
  | _ => true

/-- The tokens that begin an element in no other one, given how many are open. -/
def elementsFrom : (depth : Nat) → List Token → List Token
  | _, [] => []
  | depth, t :: rest =>
    let own := if depth = 0 && t.kind.isElement then [t] else []
    match t.kind.nesting with
    | .opening => own ++ elementsFrom (depth + 1) rest
    | .closing => elementsFrom (depth - 1) rest
    | .single => own ++ elementsFrom depth rest

/-- The source lines that the elements of the top level carry, in order. -/
def sourceLines (ts : List Token) : List Text :=
  (elementsFrom 0 ts).filterMap (·.attrs.get? sourceLineAttribute)

/-- The first lines of the elements of the top level, in order and counted from zero. -/
def firstLines (ts : List Token) : List Nat :=
  (elementsFrom 0 ts).filterMap fun t => t.span.map Span.first

/-- A paragraph after a formula on one line: it stands on the third line of the text, and carries the
fifth. -/
theorem source_line_after_formula :
    (∀ line ∈ Text.lines "$$x$$\n\nabc".toList, Text.trim line ≠ ['\\', '[']) ∧
      firstLines (parse "$$x$$\n\nabc".toList) = [0, 2] ∧
      sourceLines (documentStages (.ofEnvironment {}) (parse (preprocess "$$x$$\n\nabc".toList))) =
        [['1'], ['5']] := by
  decide +kernel

/-! ## Elements that are changed -/

/-- The elements of the top level are tokens that open or are elements, with the lines of their
nodes. -/
theorem of_mem_elementsFrom {depth : Nat} {ts : List Token} {t : Token}
    (h : t ∈ elementsFrom depth ts) : t.kind.isElement ∧ t.span ∈ topLevelSpansFrom depth ts := by
  induction ts generalizing depth with
  | nil => cases h
  | cons u rest ih =>
    have hkeep {inner : List Token} {spans : List (Option Span)}
        (hinner : t ∈ inner → t.kind.isElement ∧ t.span ∈ spans)
        (h : t ∈ (if depth = 0 && u.kind.isElement then [u] else []) ++ inner) :
        t.kind.isElement ∧ t.span ∈ if depth = 0 then u.span :: spans else spans := by
      rcases List.mem_append.1 h with h | h
      · split at h
        · next hown =>
          obtain rfl := List.mem_singleton.1 h
          rw [Bool.and_eq_true, decide_eq_true_eq] at hown
          rw [if_pos hown.1]
          exact ⟨hown.2, List.mem_cons_self⟩
        · cases h
      · refine (hinner h).imp_right fun hspan => ?_
        split
        · exact List.mem_cons_of_mem _ hspan
        · exact hspan
    cases hnesting : u.kind.nesting with
    | opening =>
      simp only [elementsFrom, topLevelSpansFrom, hnesting] at h ⊢
      cases depth <;> exact hkeep ih h
    | closing =>
      simp only [elementsFrom, topLevelSpansFrom, hnesting] at h ⊢
      exact ih h
    | single =>
      simp only [elementsFrom, topLevelSpansFrom, hnesting] at h ⊢
      cases depth <;> exact hkeep ih h

/-- What keeps tokens as elements keeps the elements of the top level. -/
theorem elementsFrom_map {change : Token → Token}
    (hnesting : ∀ t, (change t).kind.nesting = t.kind.nesting)
    (helement : ∀ t, (change t).kind.isElement = t.kind.isElement) (depth : Nat) (ts : List Token) :
    elementsFrom depth (ts.map change) = (elementsFrom depth ts).map change := by
  induction ts generalizing depth with
  | nil => rfl
  | cons t rest ih =>
    have hown : (if depth = 0 && t.kind.isElement then [change t] else []) =
        (if depth = 0 && t.kind.isElement then [t] else []).map change := by
      split <;> rfl
    simp only [List.map_cons, elementsFrom, hnesting, helement, hown, ih]
    split
    · rw [List.map_append]
    · rfl
    · rw [List.map_append]

/-- Where elements stay elements, and their lines become others, so do the first lines. -/
theorem firstLines_map (change : Token → Token) {line : Nat → Nat}
    (hnesting : ∀ t, (change t).kind.nesting = t.kind.nesting)
    (helement : ∀ t, (change t).kind.isElement = t.kind.isElement)
    (hspan : ∀ t, (change t).span.map Span.first = (t.span.map Span.first).map line)
    (ts : List Token) : firstLines (ts.map change) = (firstLines ts).map line := by
  rw [firstLines, elementsFrom_map hnesting helement, List.filterMap_map, firstLines,
    List.map_filterMap]
  exact List.filterMap_congr fun t _ => hspan t

/-- Where tokens have moved, their first lines have. -/
theorem firstLines_of_moved {wide : List Nat} {ts ts' : List Token} (h : Moved wide ts ts') :
    firstLines ts' = (firstLines ts).map (spread wide) := by
  have hreframe {f : Option Span → Option Span} {line : Nat → Nat}
      (hline : ∀ span, (f span).map Span.first = (span.map Span.first).map line) (ts : List Token) :
      firstLines (ts.map (Token.reframe f)) = (firstLines ts).map line :=
    firstLines_map (Token.reframe f) (fun _ => rfl) (fun _ => rfl) (fun t => hline t.span) ts
  have hmoved (span : Option Span) : (span.map (Span.moved wide)).map Span.first =
      (span.map Span.first).map (spread wide) := by cases span <;> rfl
  have hid (span : Option Span) : (id span).map Span.first = (span.map Span.first).map id :=
    (congrFun Option.map_id _).symm
  rw [← hreframe hmoved, ← Markdown.moved_iff.1 h, hreframe hid, List.map_id]

/-! ## Stages between parsing and writing -/

/-- The token as an element, if it is one, and its lines. -/
def Markdown.Token.frame (t : Token) : Markdown.Nesting × Bool × Option Span :=
  (t.kind.nesting, t.kind.isElement, t.span)

/-- Replacing code, math and diagrams leaves the frame of a token. -/
theorem Markdown.Token.frame_replaced (c : Config) (t : Token) : (t.replaced c).frame = t.frame := by
  obtain ⟨kind, attrs, span, content, hidden⟩ := t
  cases kind with
  | fence info =>
    rw [Markdown.Token.replaced_of_fence c rfl]
    split
    · rfl
    · rfl
  | _ => rfl

/-- The source line leaves the frame of a token. -/
theorem Markdown.Token.frame_withLine (t : Token) : t.withLine.frame = t.frame := by
  obtain ⟨kind, attrs, span, content, hidden⟩ := t
  cases span with
  | none => rfl
  | some span => cases kind <;> rfl

/-- Setting ids leaves the frames of tokens. -/
theorem frame_assignIds (s : Slugger) (ts : List Token) :
    (assignIds s ts).map Token.frame = ts.map Token.frame :=
  map_assignIds (fun _ _ => rfl) s ts

/-- The lines of the elements depend only on the frames of the tokens. -/
theorem spans_elementsFrom_congr {ts us : List Token}
    (h : ts.map Token.frame = us.map Token.frame) (depth : Nat) :
    (elementsFrom depth ts).map (·.span) = (elementsFrom depth us).map (·.span) := by
  induction ts generalizing depth us with
  | nil =>
    cases us with
    | nil => rfl
    | cons u us => cases h
  | cons t ts ih =>
    cases us with
    | nil => cases h
    | cons u us =>
      obtain ⟨hframe, hrest⟩ := List.cons.inj h
      simp only [Markdown.Token.frame, Prod.mk.injEq] at hframe
      obtain ⟨hnesting, helement, hspan⟩ := hframe
      have hown : (if depth = 0 && t.kind.isElement then [t] else []).map (·.span) =
          (if depth = 0 && u.kind.isElement then [u] else []).map (·.span) := by
        rw [helement]
        split
        · exact congrArg ([·]) hspan
        · rfl
      simp only [elementsFrom, hnesting]
      split
      · rw [List.map_append, List.map_append, hown, ih hrest]
      · exact ih hrest _
      · rw [List.map_append, List.map_append, hown, ih hrest]

/-- An element that has lines carries the first of them. -/
theorem sourceLine_withLine {t : Token} (helement : t.kind.isElement) (hspan : t.span.isSome) :
    t.withLine.attrs.get? sourceLineAttribute =
      (t.span.map Span.first).map fun i => Text.ofNat (i + 1) := by
  obtain ⟨kind, attrs, span, content, hidden⟩ := t
  cases span with
  | none => cases hspan
  | some span =>
    have hset := Attributes.get?_set_self attrs sourceLineAttribute (Text.ofNat (span.first + 1))
    cases kind with
    | closing c => cases helement
    | inline children => cases helement
    | html => cases helement
    | _ => exact hset

/-- The elements of a page carry the first lines of the blocks that have been parsed. -/
theorem sourceLines_documentStages (c : Config) (t : Text) :
    sourceLines (documentStages c (parse t)) =
      (firstLines (parse t)).map fun i => Text.ofNat (i + 1) := by
  generalize hts : assignIds {} (replaceTokens c (parse t)) = ts
  have hframe : ts.map Token.frame = (parse t).map Token.frame := by
    rw [← hts, frame_assignIds, replaceTokens, List.map_map]
    exact List.map_congr_left fun tok _ => tok.frame_replaced c
  have hspans := spans_elementsFrom_congr hframe 0
  have hfirst : (firstLines (parse t)).map (fun i => Text.ofNat (i + 1)) =
      (elementsFrom 0 ts).filterMap fun tok =>
        (tok.span.map Span.first).map fun i => Text.ofNat (i + 1) := by
    have hlines (ts : List Token) : firstLines ts =
        ((elementsFrom 0 ts).map (·.span)).filterMap (·.map Span.first) := by
      rw [List.filterMap_map]
      rfl
    rw [hlines, ← hspans, ← hlines, firstLines, List.map_filterMap]
  have helements : elementsFrom 0 (ts.map Token.withLine) = (elementsFrom 0 ts).map Token.withLine :=
    elementsFrom_map (fun tok => congrArg (·.1) tok.frame_withLine)
      (fun tok => congrArg (·.2.1) tok.frame_withLine) 0 ts
  rw [sourceLines, documentStages, hts, helements, List.filterMap_map, hfirst]
  refine List.filterMap_congr fun tok htok => ?_
  have hlines : tok.span ∈ (elementsFrom 0 (parse t)).map (·.span) :=
    hspans ▸ List.mem_map_of_mem htok
  obtain ⟨u, hu, hspan⟩ := List.mem_map.1 hlines
  have hsome := Markdown.isSome_topLevelSpans t u.span (of_mem_elementsFrom hu).2
  exact sourceLine_withLine (of_mem_elementsFrom htok).1 (hspan ▸ hsome)

/-! ## Lines of the source -/

/-- A line stays where it is exactly if no wide line comes before it. -/
theorem spread_eq_self_iff {wide : List Nat} {i : Nat} : spread wide i = i ↔ ∀ r ∈ wide, i ≤ r := by
  have hcount : (List.range i).countP (· ∈ wide) = 0 ↔ ∀ r ∈ wide, i ≤ r := by
    rw [List.countP_eq_zero]
    refine ⟨fun h r hr => Nat.le_of_not_lt fun hlt => ?_, fun h r hlt => ?_⟩
    · exact h r (List.mem_range.2 hlt) (decide_eq_true hr)
    · exact fun hr => Nat.not_le.2 (List.mem_range.1 hlt) (h r (of_decide_eq_true hr))
  rw [← hcount, spread]
  omega

/-- Where formulas on one line stand apart, the elements of the top level carry the lines that they
would stand on if each of these formulas took three lines. These are the lines of the source exactly
if no formula on one line comes before an element. -/
theorem source_lines_iff (c : Config) {t : Text} (hfilled : Text.allBlank t = false)
    (h : StandsApart t) :
    let tokens := documentStages c (parse (preprocess t))
    renderDocument c none t = .ok (Markdown.render tokens) ∧
      sourceLines tokens =
        (firstLines (parse t)).map (fun i => Text.ofNat (spread (formulaLines t) i + 1)) ∧
      (sourceLines tokens = (firstLines (parse t)).map (fun i => Text.ofNat (i + 1)) ↔
        ∀ i ∈ firstLines (parse t), ∀ r ∈ formulaLines t, i ≤ r) := by
  intro tokens
  have hlines : sourceLines tokens =
      (firstLines (parse t)).map (fun i => Text.ofNat (spread (formulaLines t) i + 1)) := by
    rw [sourceLines_documentStages, firstLines_of_moved h.moved_preprocess, List.map_map]
    rfl
  refine ⟨?_, hlines, ?_⟩
  · rw [renderDocument, hfilled]
    rfl
  · rw [hlines, List.map_inj_left]
    refine forall₂_congr fun i _ => ?_
    rw [← spread_eq_self_iff]
    exact ⟨fun heq => Nat.succ.inj (Text.ofNat_injective heq), fun heq => by rw [heq]⟩

/-- A formula in a list moves what comes after the list, and one at the end moves nothing. -/
theorem source_lines_around_list :
    sourceLines (documentStages (.ofEnvironment {}) (parse (preprocess
        "# a\n\n- b\n\n  $$c$$\n\nd\n\n$$e$$".toList))) = [['1'], ['3'], ['9'], ['1', '1']] ∧
      sourceLines (documentStages (.ofEnvironment {}) (parse (preprocess
        "# a\n\n- b\n\nd\n\n$$e$$".toList))) = [['1'], ['3'], ['5'], ['7']] := by
  have hmoved := source_lines_iff (.ofEnvironment {})
    (t := "# a\n\n- b\n\n  $$c$$\n\nd\n\n$$e$$".toList) (by decide +kernel) (by decide +kernel)
  have hkept := source_lines_iff (.ofEnvironment {}) (t := "# a\n\n- b\n\nd\n\n$$e$$".toList)
    (by decide +kernel) (by decide +kernel)
  refine ⟨hmoved.2.1.trans (by decide +kernel), (hkept.2.2.2 ?_).trans (by decide +kernel)⟩
  decide +kernel

end LiveMarkdown
