import LiveMarkdown.Proofs.Markdown.BlockTokens
import LiveMarkdown.Proofs.Markdown.InlineTokens

/-!
# The attributes of a document's tokens

All tokens of a parsed document have attributes with plain names, its headings are of the levels one
to six, no token has yet become what only later stages make of it, and none is hidden but the
paragraphs of tight lists (`isPlain_parse`).
-/

namespace LiveMarkdown.Markdown

open Html (Attributes IsPlainName)

/-- Is a kind one that the parser makes? -/
def Kind.isParsed : Kind → Bool
  | .diagram _ | .formula _ | .highlighted _ _ => false
  | _ => true

/-- The level of a heading. -/
def Container.level? : Container → Option Nat
  | .heading level => some level
  | _ => none

/-- The level of the heading that a token opens or closes. -/
def Kind.level? : Kind → Option Nat
  | .opening c | .closing c => c.level?
  | _ => none

/-- Does a token open or close a paragraph? -/
def Kind.isParagraph : Kind → Bool
  | .opening .paragraph | .closing .paragraph => true
  | _ => false

/-- A token of a document as the parser makes it. -/
structure Token.IsPlain (t : Token) : Prop where
  attrs : ∀ a ∈ t.attrs, IsPlainName a.1
  kind : t.kind.isParsed
  level : ∀ level ∈ t.kind.level?, 1 ≤ level ∧ level ≤ 6
  children : ∀ c ∈ t.children, c.IsPlain
  hidden : t.hidden → t.kind.isParagraph

section

variable {t : Token} (hkind : t.kind.isParsed) (hchildren : t.children = [])
  (hhidden : t.hidden = false)
include hkind hchildren hhidden

/-- A token without running text that is not hidden. -/
theorem Token.isPlain_of_level (hattrs : ∀ a ∈ t.attrs, IsPlainName a.1)
    (hlevel : ∀ level ∈ t.kind.level?, 1 ≤ level ∧ level ≤ 6) : t.IsPlain where
  attrs := hattrs
  kind := hkind
  level := hlevel
  children c hc := by
    rw [hchildren] at hc
    cases hc
  hidden h := by
    rw [hhidden] at h
    cases h

/-- A token of no heading. -/
theorem Token.isPlain_of_kind (hattrs : ∀ a ∈ t.attrs, IsPlainName a.1)
    (hlevel : t.kind.level? = none) : t.IsPlain := by
  refine isPlain_of_level hkind hchildren hhidden hattrs fun level h => ?_
  rw [hlevel] at h
  cases h

/-- A token of no heading and without attributes. -/
theorem Token.isPlain_bare (hattrs : t.attrs = []) (hlevel : t.kind.level? = none) : t.IsPlain :=
  isPlain_of_kind hkind hchildren hhidden (hattrs ▸ List.forall_mem_nil _) hlevel

end

/-- A token of running text is plain before the text is read. -/
theorem Token.isPlain_text (content : Text) (span : Option Span) :
    Token.IsPlain { kind := .inline [], content, span } :=
  isPlain_bare rfl rfl rfl rfl rfl

/-- Being plain is passed on from the parts of a block to the block. -/
theorem blockClosed_plain : BlockClosed fun ts => ∀ t ∈ ts, t.IsPlain where
  nil := List.forall_mem_nil _
  append h₁ h₂ t ht := (List.mem_append.1 ht).elim (h₁ t) (h₂ t)
  leaf {u} hkind hattrs hhidden t ht := by
    rw [List.mem_singleton.1 ht]
    obtain ⟨kind, attrs, span, content, hidden⟩ := u
    cases kind with
    | indentedCode | fence | math | html | rule =>
      exact Token.isPlain_bare rfl rfl hhidden hattrs rfl
    | _ => cases hkind
  paragraph _ _ _ _ t ht := by
    simp only [textBlock, List.mem_cons, List.not_mem_nil, or_false] at ht
    rcases ht with rfl | rfl | rfl
    · exact Token.isPlain_bare rfl rfl rfl rfl rfl
    · exact Token.isPlain_text _ _
    · exact Token.isPlain_bare rfl rfl rfl rfl rfl
  heading level _ _ _ _ hlow hhigh t ht := by
    have hlevel : ∀ l ∈ some level, 1 ≤ l ∧ l ≤ 6 := fun l hl => Option.some.inj hl ▸ ⟨hlow, hhigh⟩
    simp only [textBlock, List.mem_cons, List.not_mem_nil, or_false] at ht
    rcases ht with rfl | rfl | rfl
    · exact Token.isPlain_of_level rfl rfl rfl (List.forall_mem_nil _) hlevel
    · exact Token.isPlain_text _ _
    · exact Token.isPlain_of_level rfl rfl rfl (List.forall_mem_nil _) hlevel
  cell c attrs _ _ hc hstyle t ht := by
    have hname : IsPlainName "style".toList := by decide
    have hlevel : c.level? = none := by rcases hc with rfl | rfl <;> rfl
    simp only [List.mem_cons, List.not_mem_nil, or_false] at ht
    rcases ht with rfl | rfl | rfl
    · exact Token.isPlain_of_kind rfl rfl rfl (fun a ha => hstyle a ha ▸ hname) hlevel
    · exact Token.isPlain_text _ _
    · exact Token.isPlain_bare rfl rfl rfl rfl hlevel
  -- Lists are the containers with an attribute: the number that they start with.
  box c attrs _ hc hstart h t ht := by
    have hname : IsPlainName "start".toList := by decide
    have hlevel : c.level? = none := by
      cases c with
      | heading level => cases hc
      | _ => rfl
    simp only [List.cons_append, List.mem_cons, List.mem_append, List.not_mem_nil, or_false] at ht
    rcases ht with rfl | ht | rfl
    · exact Token.isPlain_of_kind rfl rfl rfl (fun a ha => hstart a ha ▸ hname) hlevel
    · exact h t ht
    · exact Token.isPlain_bare rfl rfl rfl rfl hlevel
  hide h t ht := by
    obtain ⟨u, hu, rfl | ⟨rfl, hparagraph⟩⟩ := Scope.mem_hideParagraphs ht
    · exact h t hu
    · refine ⟨(h u hu).attrs, (h u hu).kind, (h u hu).level, (h u hu).children, fun _ => ?_⟩
      rcases hparagraph with hk | hk
      · exact hk ▸ rfl
      · exact hk ▸ rfl

/-! ## After the blocks are read -/

/-- Running text of plain tokens. -/
theorem Token.IsPlain.inline {t : Token} (h : t.IsPlain) {old new : List Inline}
    (hk : t.kind = .inline old) (hnew : ∀ c ∈ new, c.IsPlain) (content : Text) :
    Token.IsPlain { t with kind := .inline new, content } where
  attrs := h.attrs
  kind := rfl
  level level hl := by cases hl
  children := hnew
  hidden hhidden := by
    have hparagraph := h.hidden hhidden
    rw [hk] at hparagraph
    cases hparagraph

/-- A token of running text has the children of its kind. -/
theorem Token.children_of_kind {t : Token} {children : List Inline} (hk : t.kind = .inline children) :
    t.children = children := by
  rw [Token.children, hk]

/-- A token stays plain if its running text is replaced by plain tokens. -/
theorem Token.IsPlain.mapChildren {t : Token} (h : t.IsPlain) {f : Text → List Inline → List Inline}
    (hf : ∀ content children, (∀ c ∈ children, c.IsPlain) → ∀ c ∈ f content children, c.IsPlain) :
    (t.mapChildren f).IsPlain := by
  unfold Token.mapChildren
  split
  · next children hk =>
    exact h.inline hk (hf t.content children (Token.children_of_kind hk ▸ h.children)) t.content
  · exact h

/-- A checkbox is plain. -/
theorem Token.IsPlain.withCheckbox {t : Token} (h : t.IsPlain) : t.withCheckbox.IsPlain := by
  unfold Token.withCheckbox
  split
  · next first more hk =>
    have hold : ∀ c ∈ first :: more, c.IsPlain := Token.children_of_kind hk ▸ h.children
    refine h.inline hk (fun c hc => ?_) _
    rcases List.mem_cons.1 hc with rfl | hc
    · exact Inline.isPlain_of_kind rfl _
    · rcases List.mem_cons.1 hc with rfl | hc
      · exact ⟨(hold first List.mem_cons_self).attrs, (hold first List.mem_cons_self).kind⟩
      · exact hold c (List.mem_cons_of_mem _ hc)
  · exact h

/-- A class is an attribute that marks no formula. -/
theorem Token.IsPlain.withClass {t : Token} (h : t.IsPlain) (value : Text) :
    Token.IsPlain { t with attrs := t.attrs.set "class" value } :=
  ⟨Html.forall_names_set h.attrs (by decide) value, h.kind, h.level, h.children, h.hidden⟩

/-- Marking tasks leaves tokens plain. -/
theorem isPlain_markTasks (distance : Nat) {ts : List Token} (h : ∀ t ∈ ts, t.IsPlain) :
    ∀ t ∈ markTasks distance ts, t.IsPlain := by
  induction ts generalizing distance with
  | nil => exact List.forall_mem_nil _
  | cons u rest ih =>
    have hrest (distance : Nat) := ih distance fun t ht => h t (List.mem_cons_of_mem _ ht)
    have hu : (if distance = 1 then u.withCheckbox else u).IsPlain := by
      split
      · exact (h u List.mem_cons_self).withCheckbox
      · exact h u List.mem_cons_self
    simp only [markTasks]
    generalize (if distance = 1 then u.withCheckbox else u) = v at hu ⊢
    split
    · intro t ht
      rcases List.mem_cons.1 ht with rfl | ht
      · exact hu.withClass _
      · exact hrest 0 t ht
    · split
      · intro t ht
        rcases List.mem_cons.1 ht with rfl | ht
        · exact hu.withClass _
        · exact hrest 2 t ht
      · intro t ht
        rcases List.mem_cons.1 ht with rfl | ht
        · exact hu
        · exact hrest _ t ht

/-- All tokens of a parsed text are plain. -/
theorem isPlain_parse (t : Text) : ∀ tok ∈ parse t, tok.IsPlain := by
  intro tok htok
  simp only [parse, List.mem_map] at htok
  obtain ⟨marked, hmarked, rfl⟩ := htok
  have hread : ∀ tok ∈ (blockTokens (normalizeSource t)).1.map
      (·.mapChildren fun content _ => inlines (blockTokens (normalizeSource t)).2 content),
      tok.IsPlain := by
    intro tok htok
    obtain ⟨block, hblock, rfl⟩ := List.mem_map.1 htok
    have hplain := blockTokens_closed blockClosed_plain _ block hblock
    exact hplain.mapChildren fun content _ _ => isPlain_inlines _ content
  refine (isPlain_markTasks 0 hread marked hmarked).mapChildren fun content children h => ?_
  exact isPlain_joinSpecial (isPlain_linkChildren content h)

end LiveMarkdown.Markdown
