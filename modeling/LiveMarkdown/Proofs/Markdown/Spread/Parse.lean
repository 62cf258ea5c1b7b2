import LiveMarkdown.Proofs.Markdown.Nodes
import LiveMarkdown.Proofs.Markdown.Spread.Reading

/-!
# Parsing lines that spread

The stages after the block reader look neither at the lines of a token nor at display math: they
commute with a change of these (`Token.reframe`), so that what has moved before them has moved after
them (`moved_parse`). They also keep what `Token.Avoids` says of tokens (`avoids_parse`).
-/

namespace LiveMarkdown.Markdown

variable {wide : List Nat}

/-! ## What tokens avoid -/

/-- Whether a token avoids wide lines is not changed after it has been read. -/
theorem isKept_avoids (wide : List Nat) : Token.IsKept (Token.Avoids wide) where
  inline hkind _ _ := by
    simp only [Token.Avoids, hkind]
    rfl
  attrs _ _ := rfl

/-- The tokens of a text avoid the wide lines if those do that the block reader has read. -/
theorem avoids_parse {t : Text} (h : ∀ tok ∈ parse t, tok.Avoids wide) :
    ∀ tok ∈ (blockTokens (normalizeSource t)).1, tok.Avoids wide := by
  intro tok htok
  have hmem := List.mem_map_of_mem (f := Token.Avoids wide) htok
  rw [← (isKept_avoids wide).parse t] at hmem
  obtain ⟨u, hu, heq⟩ := List.mem_map.1 hmem
  exact heq ▸ h u hu

/-! ## Stages after the block reader -/

/-- The token with other lines, and with its display math trimmed. -/
def Token.reframe (f : Option Span → Option Span) (t : Token) : Token :=
  { t with
    span := f t.span
    content := match t.kind with
      | .math _ => Text.trim t.content
      | _ => t.content }

/-- A token whose lines stay has its display math trimmed. -/
theorem Token.reframe_id (t : Token) : t.reframe id = t.trimmed := by
  obtain ⟨kind, attrs, span, content, hidden⟩ := t
  cases kind <;> rfl

/-- A token whose lines move has moved, with its display math trimmed. -/
theorem Token.reframe_moved (wide : List Nat) (t : Token) :
    t.reframe (Option.map (Span.moved wide)) = (t.moved wide).trimmed := by
  obtain ⟨kind, attrs, span, content, hidden⟩ := t
  cases kind <;> rfl

section

variable (f : Option Span → Option Span)

/-- Children are replaced wherever the token's lines are. -/
theorem mapChildren_reframe (g : Text → List Inline → List Inline) (t : Token) :
    (t.reframe f).mapChildren g = (t.mapChildren g).reframe f := by
  obtain ⟨kind, attrs, span, content, hidden⟩ := t
  cases kind <;> rfl

/-- A checkbox is put in front wherever the token's lines are. -/
theorem withCheckbox_reframe (t : Token) :
    (t.reframe f).withCheckbox = t.withCheckbox.reframe f := by
  obtain ⟨kind, attrs, span, content, hidden⟩ := t
  cases kind with
  | inline children => cases children <;> rfl
  | _ => rfl

/-- A task begins with the same tokens, wherever their lines are. -/
theorem startsTask_reframe (ts : List Token) :
    startsTask (ts.map (Token.reframe f)) = startsTask ts := by
  match ts with
  | [] | [_] | [_, _] => rfl
  | item :: paragraph :: ⟨kind, attrs, span, content, hidden⟩ :: rest => cases kind <;> rfl

/-- A task is held by the same tokens, wherever their lines are. -/
theorem holdsTask_reframe (depth : Nat) (ts : List Token) :
    holdsTask depth (ts.map (Token.reframe f)) = holdsTask depth ts := by
  induction ts generalizing depth with
  | nil => rfl
  | cons t rest ih =>
    have hstarts := startsTask_reframe f (t :: rest)
    have hkind : (t.reframe f).kind = t.kind := rfl
    rw [List.map_cons] at hstarts ⊢
    simp only [holdsTask, hstarts, hkind, ih]

/-- Tasks are marked among the same tokens, wherever their lines are. -/
theorem markTasks_reframe (distance : Nat) (ts : List Token) :
    markTasks distance (ts.map (Token.reframe f)) =
      (markTasks distance ts).map (Token.reframe f) := by
  induction ts generalizing distance with
  | nil => rfl
  | cons t rest ih =>
    have hbox : (if distance = 1 then (t.reframe f).withCheckbox else t.reframe f) =
        (if distance = 1 then t.withCheckbox else t).reframe f := by
      split
      · exact withCheckbox_reframe f t
      · rfl
    have hkind : (t.reframe f).kind = t.kind := rfl
    simp only [List.map_cons, markTasks, hbox, hkind, holdsTask_reframe]
    generalize (if distance = 1 then t.withCheckbox else t) = u
    have hstarts := startsTask_reframe f (u :: rest)
    rw [List.map_cons] at hstarts
    rw [hstarts]
    split
    · exact congrArg (_ :: ·) (ih 0)
    · split
      · exact congrArg (_ :: ·) (ih 2)
      · exact congrArg (_ :: ·) (ih _)

end

/-- Tokens have moved if they are the same, once their lines are moved and their display math is
trimmed. -/
theorem moved_iff {ts ts' : List Token} : Moved wide ts ts' ↔
    ts'.map (Token.reframe id) = ts.map (Token.reframe (Option.map (Span.moved wide))) := by
  rw [Moved, funext Token.reframe_id, funext (Token.reframe_moved wide)]

/-- What is picked from tokens and moves with their lines has moved where they have. -/
theorem Moved.filterMap {α : Type} {pick : Token → Option α} {move : (Span → Span) → α → α}
    (hpick : ∀ f t, pick (t.reframe (Option.map f)) = (pick t).map (move f)) (hid : move id = id)
    {ts ts' : List Token} (h : Moved wide ts ts') :
    ts'.filterMap pick = (ts.filterMap pick).map (move (Span.moved wide)) := by
  have hreframe (f : Span → Span) (ts : List Token) :
      (ts.map (Token.reframe (Option.map f))).filterMap pick = (ts.filterMap pick).map (move f) := by
    rw [List.filterMap_map, List.map_filterMap]
    exact List.filterMap_congr fun t _ => hpick f t
  rw [← hreframe, ← moved_iff.1 h, ← Option.map_id, hreframe, hid, List.map_id]

/-- What a stage makes of tokens that have moved has moved. -/
theorem Moved.stage {ts ts' : List Token} (h : Moved wide ts ts') {stage : List Token → List Token}
    (hstage : ∀ f ts, stage (ts.map (Token.reframe f)) = (stage ts).map (Token.reframe f)) :
    Moved wide (stage ts) (stage ts') := by
  rw [moved_iff] at h ⊢
  rw [← hstage, h, hstage]

/-- A text parses to what another one parses to, moved, if the block reader has read that. -/
theorem moved_parse {t t' : Text}
    (h : Moved wide (blockTokens (normalizeSource t)).1 (blockTokens (normalizeSource t')).1)
    (hrefs : (blockTokens (normalizeSource t')).2 = (blockTokens (normalizeSource t)).2) :
    Moved wide (parse t) (parse t') := by
  have hchildren (g : Text → List Inline → List Inline) (f : Option Span → Option Span)
      (ts : List Token) : (ts.map (Token.reframe f)).map (·.mapChildren g) =
        (ts.map (·.mapChildren g)).map (Token.reframe f) := by
    rw [List.map_map, List.map_map]
    exact List.map_congr_left fun t _ => mapChildren_reframe f g t
  simp only [parse, hrefs]
  exact ((h.stage (hchildren _)).stage fun f => markTasks_reframe f 0).stage (hchildren _)

end LiveMarkdown.Markdown
