import LiveMarkdown.Proofs.Markdown.BlockTokens
import LiveMarkdown.Proofs.Markdown.Progress

/-!
# The blocks of the top level

What the block reader reads is balanced: containers are closed where they have been opened
(`balanced_reader`). Each block is one node of the top level, from its first line to the line where
the reader goes on (`isNode_block`). What happens to tokens later leaves this alone, and with it the
display math: the tokens of a parsed text have the shape of those that the reader has read
(`shape_parse`).
-/

namespace LiveMarkdown.Markdown

/-- The expression of display math. -/
def Token.display? (t : Token) : Option Text :=
  match t.kind with
  | .math _ => some (Text.trim t.content)
  | _ => none

/-- What a token does to the structure of a document: whether it opens or closes something, the lines
it came from, and the display math that it is. -/
def Token.shape (t : Token) : Nesting × Option Span × Option Text :=
  (t.kind.nesting, t.span, t.display?)

/-! ## Stages keep the shape -/

/-- Hiding paragraphs changes nothing else. -/
theorem map_hideParagraphs {α : Type} {f : Token → α} (hf : ∀ t hidden, f { t with hidden } = f t)
    (depth : Nat) (ts : List Token) : (Scope.hideParagraphs depth ts).map f = ts.map f := by
  induction ts generalizing depth with
  | nil => rfl
  | cons t rest ih =>
    rw [Scope.hideParagraphs]
    split
    · rw [List.map_cons, List.map_cons, ih]
      split
      · rw [hf]
      · rfl
    · rw [List.map_cons, List.map_cons, ih]
      split
      · rw [hf]
      · rfl
    · rw [List.map_cons, List.map_cons, ih]

/-- What the stages after the block reader keep of a token: they replace running text and set
attributes. -/
structure Token.IsKept {α : Type} (f : Token → α) : Prop where
  inline {t : Token} {children : List Inline} : t.kind = .inline children →
    ∀ children' content, f { t with kind := .inline children', content } = f t
  attrs (t : Token) (attrs : Html.Attributes) : f { t with attrs } = f t

section

variable {α : Type} {f : Token → α} (hf : Token.IsKept f)
include hf

/-- What is kept is kept when children are replaced. -/
theorem Token.IsKept.mapChildren (g : Text → List Inline → List Inline) (t : Token) :
    f (t.mapChildren g) = f t := by
  unfold Token.mapChildren
  split
  · next hkind => exact hf.inline hkind _ _
  · rfl

/-- What is kept is kept when a checkbox is put in front. -/
theorem Token.IsKept.withCheckbox (t : Token) : f t.withCheckbox = f t := by
  unfold Token.withCheckbox
  split
  · next hkind => exact hf.inline hkind _ _
  · rfl

/-- What is kept is kept when tasks are marked. -/
theorem Token.IsKept.markTasks (distance : Nat) (ts : List Token) :
    (markTasks distance ts).map f = ts.map f := by
  induction ts generalizing distance with
  | nil => rfl
  | cons t rest ih =>
    have hbox : f (if distance = 1 then t.withCheckbox else t) = f t := by
      split
      · exact hf.withCheckbox t
      · rfl
    simp only [Markdown.markTasks]
    generalize (if distance = 1 then t.withCheckbox else t) = u at hbox ⊢
    split
    · rw [List.map_cons, List.map_cons, ih, hf.attrs, hbox]
    · split
      · rw [List.map_cons, List.map_cons, ih, hf.attrs, hbox]
      · rw [List.map_cons, List.map_cons, ih, hbox]

/-- What is kept of the tokens of a text is what the block reader has read. -/
theorem Token.IsKept.parse (t : Text) :
    (parse t).map f = (blockTokens (normalizeSource t)).1.map f := by
  have hmap (g : Text → List Inline → List Inline) (ts : List Token) :
      (ts.map (·.mapChildren g)).map f = ts.map f := by
    rw [List.map_map]
    exact List.map_congr_left fun t _ => hf.mapChildren g t
  simp only [Markdown.parse]
  rw [hmap, hf.markTasks, hmap]

end

/-- The shape of a token is kept by the stages after the block reader. -/
theorem isKept_shape : Token.IsKept Token.shape where
  inline hkind _ _ := by simp [Token.shape, Token.display?, hkind, Kind.nesting]
  attrs _ _ := rfl

/-- The tokens of a parsed text have the shape of those that the block reader has read. -/
theorem shape_parse (t : Text) :
    (parse t).map Token.shape = (blockTokens (normalizeSource t)).1.map Token.shape :=
  isKept_shape.parse t

/-- Tokens of the same shape have the same nodes. -/
theorem topLevelSpansFrom_congr {ts us : List Token} (h : ts.map Token.shape = us.map Token.shape)
    (depth : Nat) : topLevelSpansFrom depth ts = topLevelSpansFrom depth us := by
  induction ts generalizing depth us with
  | nil =>
    cases us with
    | nil => rfl
    | cons u us => cases h
  | cons t ts ih =>
    cases us with
    | nil => cases h
    | cons u us =>
      obtain ⟨hshape, hrest⟩ := List.cons.inj h
      simp only [Token.shape, Prod.mk.injEq] at hshape
      simp only [topLevelSpansFrom, hshape.1, hshape.2.1, ih hrest]

/-- The nodes of a parsed text are those of the tokens that the block reader has read. -/
theorem topLevelSpans_parse (t : Text) :
    topLevelSpans (parse t) = topLevelSpans (blockTokens (normalizeSource t)).1 := by
  rw [topLevelSpans, topLevelSpans, topLevelSpansFrom_congr (shape_parse t)]

/-! ## Nodes -/

/-- Within a container, the tokens leave the container open. -/
def IsBalanced (ts : List Token) : Prop :=
  ∀ depth rest, topLevelSpansFrom (depth + 1) (ts ++ rest) = topLevelSpansFrom (depth + 1) rest

/-- The tokens are one block of the top level, with these lines. -/
def IsNode (s : Span) (ts : List Token) : Prop :=
  ∀ rest, topLevelSpansFrom 0 (ts ++ rest) = some s :: topLevelSpansFrom 0 rest

/-- A container with balanced content is balanced. -/
theorem isBalanced_box {c : Container} {t u : Token} {ts : List Token} (ht : t.kind = .opening c)
    (hu : u.kind = .closing c) (h : IsBalanced ts) : IsBalanced (t :: ts ++ [u]) := by
  intro depth rest
  rw [List.cons_append, List.cons_append, List.append_assoc, topLevelSpansFrom, ht]
  simp only [Kind.nesting, Nat.succ_ne_zero, if_false]
  rw [h (depth + 1), List.cons_append, List.nil_append, topLevelSpansFrom, hu]
  rfl

/-- A container with balanced content is one node, with its lines. -/
theorem isNode_box {c : Container} {t u : Token} {ts : List Token} {s : Span}
    (ht : t.kind = .opening c) (hs : t.span = some s) (hu : u.kind = .closing c)
    (h : IsBalanced ts) : IsNode s (t :: ts ++ [u]) := by
  intro rest
  rw [List.cons_append, List.cons_append, List.append_assoc, topLevelSpansFrom, ht]
  simp only [Kind.nesting, if_true]
  rw [h 0, List.cons_append, List.nil_append, topLevelSpansFrom, hu, hs]
  rfl

/-- A token that neither opens nor closes is one node, with its lines. -/
theorem isNode_leaf {t : Token} {s : Span} (ht : t.kind.nesting = .single) (hs : t.span = some s) :
    IsNode s [t] := by
  intro rest
  rw [List.cons_append, List.nil_append, topLevelSpansFrom, ht, hs]
  rfl

/-- A token that neither opens nor closes is balanced. -/
theorem isBalanced_leaf {t : Token} (ht : t.kind.nesting = .single) : IsBalanced [t] := by
  intro depth rest
  rw [List.cons_append, List.nil_append, topLevelSpansFrom, ht]
  rfl

/-- A block of running text is one node. -/
theorem isNode_textBlock (c : Container) (content : Text) (first past textPast : Nat) :
    IsNode ⟨first, past⟩ (textBlock c content first past textPast) := by
  have hinline : IsBalanced
      [{ kind := .inline [], content, span := some ⟨first, textPast⟩ }] := isBalanced_leaf rfl
  exact isNode_box rfl rfl rfl hinline

/-- The kinds of leaves neither open nor close. -/
theorem Kind.nesting_of_isLeaf {k : Kind} (h : k.isLeaf) : k.nesting = .single := by
  cases k <;> first | rfl | cases h

/-- Being balanced is passed on from the parts of a block to the block. -/
theorem blockClosed_isBalanced : BlockClosed IsBalanced where
  nil _ _ := rfl
  append h h' depth rest := by rw [List.append_assoc, h, h']
  leaf h _ _ := isBalanced_leaf (Kind.nesting_of_isLeaf h)
  paragraph _ _ _ _ := isBalanced_box rfl rfl (isBalanced_leaf rfl)
  heading _ _ _ _ _ _ _ := isBalanced_box rfl rfl (isBalanced_leaf rfl)
  cell _ _ _ _ _ _ := isBalanced_box rfl rfl (isBalanced_leaf rfl)
  box _ _ _ _ _ h := isBalanced_box rfl rfl h
  hide {ts} h depth rest := by
    have hshape : (Scope.hideParagraphs 0 ts ++ rest).map Token.shape =
        (ts ++ rest).map Token.shape := by
      rw [List.map_append, map_hideParagraphs fun _ _ => rfl, ← List.map_append]
    rw [topLevelSpansFrom_congr hshape]
    exact h depth rest

/-- What a reader reads is balanced. -/
theorem balanced_reader (depth : Nat) (s : Scope) (first past : Nat) (refs : References) :
    IsBalanced (Scope.reader depth s first past refs).tokens :=
  Scope.reader_closed blockClosed_isBalanced depth s first past refs

section

variable {readQuote readItem : Reader}
  (hquote : ∀ s first past refs, IsBalanced (readQuote s first past refs).tokens)
  (hitem : ∀ s first past refs, IsBalanced (readItem s first past refs).tokens)
include hquote hitem

/-- A block is a node, unless it is a definition, which has no tokens. -/
theorem isNode_block_or (s : Scope) (i past : Nat) (refs : References) :
    IsNode ⟨i, (s.block readQuote readItem i past refs).next⟩
        (s.block readQuote readItem i past refs).tokens ∨
      (s.reference? i).isSome ∧ (s.block readQuote readItem i past refs).tokens = [] := by
  obtain ⟨start, hbegins, hblock⟩ := s.exists_begins readQuote readItem i past refs
  rw [hblock]
  cases start with
  | table header alignments =>
    obtain ⟨inner, hinner, htokens⟩ :=
      blockClosed_isBalanced.exists_table s i past header alignments
    simp only [Scope.blockFrom, htokens]
    exact .inl (isNode_box rfl rfl rfl hinner)
  | code | math | fence | rule | html => exact .inl (isNode_leaf rfl rfl)
  | quote => exact .inl (isNode_box rfl rfl rfl (hquote _ _ _ _))
  | list mark =>
    obtain ⟨c, attrs, inner, ⟨-, -, hinner⟩, htokens⟩ :=
      blockClosed_isBalanced.exists_list hitem s mark i past refs
    simp only [Scope.blockFrom, htokens]
    exact .inl (isNode_box rfl rfl rfl hinner)
  | definition => exact .inr ⟨Option.isSome_of_eq_some hbegins, rfl⟩
  | heading | underlined | paragraph => exact .inl (isNode_textBlock _ _ _ _ _)

/-- A block that is no definition is a node, up to the line where the reader goes on. -/
theorem isNode_block {s : Scope} {i : Nat} (past : Nat) (refs : References)
    (h : s.reference? i = none) :
    IsNode ⟨i, (s.block readQuote readItem i past refs).next⟩
      (s.block readQuote readItem i past refs).tokens :=
  (isNode_block_or hquote hitem s i past refs).resolve_right fun hdefinition => by
    rw [h] at hdefinition
    exact Bool.noConfusion hdefinition.1

/-- Blocks that are read one after the other all have lines. -/
theorem isSome_of_mem_blocks (s : Scope) (past fuel : Nat) (hasGap tight : Bool) (i : Nat)
    (refs : References) : ∀ span ∈ topLevelSpansFrom 0
      (s.blocks readQuote readItem past fuel hasGap tight i refs).tokens, span.isSome := by
  induction fuel generalizing hasGap tight i refs with
  | zero => exact fun _ hmem => absurd hmem List.not_mem_nil
  | succ fuel ih =>
    cases Scope.step_blocks readQuote readItem s past fuel hasGap tight i refs with
    | stop _ htokens =>
      rw [htokens]
      exact fun _ hmem => absurd hmem List.not_mem_nil
    | more b rest hasGap tight _ _ hb hrest htokens =>
      have hafter : ∀ span ∈ topLevelSpansFrom 0 rest.tokens, span.isSome := by
        rw [← hrest, Scope.blocksAfter]
        split
        · exact fun _ hmem => absurd hmem List.not_mem_nil
        · exact ih _ _ _ _
      rw [htokens, ← hb]
      rcases isNode_block_or hquote hitem s _ past refs with hnode | ⟨-, hnone⟩
      · rw [hnode]
        exact List.forall_mem_cons.2 ⟨rfl, hafter⟩
      · rwa [hnone]

end

/-- Every block of the top level has lines. -/
theorem isSome_topLevelSpans (t : Text) :
    ∀ span ∈ topLevelSpansFrom 0 (parse t), span.isSome := by
  rw [topLevelSpansFrom_congr (shape_parse t)]
  exact isSome_of_mem_blocks (balanced_reader 19) (balanced_reader 18) _ _ _ _ _ _ _

/-! ## Headings -/

/-- The kind of a token, without its running text. -/
def Token.bareKind (t : Token) : Kind :=
  match t.kind with
  | .inline _ => .inline []
  | kind => kind

/-- The kind of a token without its running text is kept by the stages after the block reader. -/
theorem isKept_bareKind : Token.IsKept Token.bareKind where
  inline hkind _ _ := by simp [Token.bareKind, hkind]
  attrs _ _ := rfl

/-- Only running text is left out of a kind. -/
theorem Token.bareKind_eq {t : Token} (h : ∀ children, t.kind ≠ .inline children) :
    t.bareKind = t.kind := by
  unfold Token.bareKind
  split
  · next children hkind => exact absurd hkind (h children)
  · rfl

/-- Each heading opens, has its running text, and closes. -/
def HeadingsAreWhole : List Kind → Prop
  | [] => True
  | kind :: rest => (∀ level, kind = .opening (.heading level) →
      ∃ after, rest = .inline [] :: .closing (.heading level) :: after) ∧ HeadingsAreWhole rest

/-- Whole headings next to each other are whole. -/
theorem HeadingsAreWhole.append {ks ls : List Kind} (hk : HeadingsAreWhole ks)
    (hl : HeadingsAreWhole ls) : HeadingsAreWhole (ks ++ ls) := by
  induction ks with
  | nil => exact hl
  | cons kind rest ih =>
    refine ⟨fun level hlevel => ?_, ih hk.2⟩
    obtain ⟨after, rfl⟩ := hk.1 level hlevel
    exact ⟨after ++ ls, rfl⟩

/-- Headings that are whole are whole from any point on. -/
theorem HeadingsAreWhole.right {ks ls : List Kind} (h : HeadingsAreWhole (ks ++ ls)) :
    HeadingsAreWhole ls := by
  induction ks with
  | nil => exact h
  | cons kind rest ih => exact ih h.2

/-- A token that opens no heading leaves the headings after it whole. -/
theorem headingsAreWhole_cons {kind : Kind} {rest : List Kind}
    (h : ∀ level, kind ≠ .opening (.heading level)) (hrest : HeadingsAreWhole rest) :
    HeadingsAreWhole (kind :: rest) := ⟨fun level hlevel => absurd hlevel (h level), hrest⟩

/-- Being whole is passed on from the parts of a block to the block. -/
theorem blockClosed_headingsAreWhole :
    BlockClosed fun ts => HeadingsAreWhole (ts.map Token.bareKind) where
  nil := trivial
  append h h' := by
    rw [List.map_append]
    exact h.append h'
  leaf {t} hleaf _ _ := by
    refine headingsAreWhole_cons (fun level hkind => ?_) trivial
    obtain ⟨kind, attrs, span, content, hidden⟩ := t
    cases kind <;> cases hleaf <;> cases hkind
  paragraph _ _ _ _ := headingsAreWhole_cons nofun (headingsAreWhole_cons nofun
    (headingsAreWhole_cons nofun trivial))
  heading level _ _ _ _ _ _ := by
    refine ⟨fun level' hkind => ?_, headingsAreWhole_cons nofun (headingsAreWhole_cons nofun trivial)⟩
    have hlevel : level = level' := by
      cases hkind
      rfl
    exact ⟨[], by rw [← hlevel]; rfl⟩
  cell c _ _ _ hc _ := by
    refine headingsAreWhole_cons (fun level hkind => ?_) (headingsAreWhole_cons nofun
      (headingsAreWhole_cons nofun trivial))
    rcases hc with rfl | rfl <;> cases hkind
  box c _ _ hc _ h := by
    rw [List.map_append, List.map_cons]
    refine HeadingsAreWhole.append (headingsAreWhole_cons (fun level hkind => ?_) h)
      (headingsAreWhole_cons nofun trivial)
    cases hkind
    cases hc
  hide h := by
    rw [map_hideParagraphs fun _ _ => rfl]
    exact h

/-- In a parsed text, a heading's opening token is followed by its running text and by the token that
closes the heading. -/
theorem exists_heading_parse {t : Text} {before rest : List Token} {heading : Token} {level : Nat}
    (hsplit : parse t = before ++ heading :: rest)
    (hheading : heading.kind = .opening (.heading level)) :
    ∃ body closing after children, rest = body :: closing :: after ∧
      body.kind = .inline children ∧ closing.kind = .closing (.heading level) := by
  have hwhole : HeadingsAreWhole ((parse t).map Token.bareKind) := by
    rw [isKept_bareKind.parse]
    exact blockTokens_closed blockClosed_headingsAreWhole _
  rw [hsplit, List.map_append, List.map_cons] at hwhole
  obtain ⟨after, hafter⟩ := hwhole.right.1 level
    ((Token.bareKind_eq fun children hkind => by rw [hheading] at hkind; cases hkind).trans hheading)
  obtain ⟨body, rest, rfl, hbody, hrest⟩ := List.map_eq_cons_iff.1 hafter
  obtain ⟨closing, rest, rfl, hclosing, -⟩ := List.map_eq_cons_iff.1 hrest
  have hbody : ∃ children, body.kind = .inline children := by
    unfold Token.bareKind at hbody
    split at hbody
    · next children hkind => exact ⟨children, hkind⟩
    · exact ⟨[], hbody⟩
  have hclosing : closing.kind = .closing (.heading level) := by
    unfold Token.bareKind at hclosing
    split at hclosing
    · cases hclosing
    · exact hclosing
  obtain ⟨children, hchildren⟩ := hbody
  exact ⟨body, closing, rest, children, rfl, hchildren, hclosing⟩

end LiveMarkdown.Markdown
