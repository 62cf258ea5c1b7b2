import LiveMarkdown.Proofs.Markdown.PlainTokens
import LiveMarkdown.Proofs.Preview.Marked
import LiveMarkdown.Proofs.Text.Trim

/-!
# What the stages leave

Between parsing and writing, a token goes through four stages in a block and through five in a document.
What becomes of it can be said at once, whatever stands around it. The stages that replace tokens come to
one case analysis (`Token.IsMadeFrom`), in which a fence is dealt with once: a diagram is no fence any more
when code is highlighted (`replaced_fence`). The stages after them only mark what is there
(`Token.IsMarked`). So no token is added, dropped or moved, none is left that a stage should have replaced,
and each element has its source line, even where a stage has given it attributes of its own
(`stages_make_ready`).
-/

namespace LiveMarkdown

open Html (Attributes)
open Markdown (Inline InlineKind Kind Token)

/-! ## What is made of a token -/

/-- A fence as a diagram in a language: its source, with the labels marked, is the content of an element of
the language's class, and a value of it. -/
def Markdown.Token.asDiagram (c : Config) (language : Text) (t : Token) : Token :=
  let source := Diagram.wrap c.icons (Text.dropEndWhile (· = '\n') t.content)
  { t with
    kind := .diagram language
    attrs := [("class", language), ("data-" ++ language, source)]
    content := source }

/-- Code in a language, if it has one, with its HTML and the class of its element. -/
def Markdown.Token.asCode (c : Config) (language : Option Text) (t : Token) : Token :=
  let (html, cls) := Highlight.highlight c.highlight.highlighter t.content language
    c.highlight.detect c.highlight.codeClass
  { t with kind := .highlighted html cls }

/-- Display math as a formula with its HTML, in an element that has an id if the math has a label. -/
def Markdown.Token.asFormula (label : Option Text) (t : Token) : Token :=
  let id : Attributes := match label with
    | none | some [] => []
    | some label => [("id", Math.labelId label)]
  { t with
    kind := .formula (Math.formulaHtml t.content true)
    attrs := Math.formulaAttributes true ++ id }

/-- What the stages make of a token. A fence becomes a diagram if its first word, in small letters, is a
language of diagrams, and code otherwise; a fence that says nothing has the empty word. -/
def Markdown.Token.IsMadeFrom (c : Config) (t' t : Token) : Prop :=
  match t.kind with
  | .fence info =>
    ∃ word, Text.IsFirstWord word info ∧
      (Text.lower word ∈ c.diagramLanguages → t'.IsMarked (t.asDiagram c (Text.lower word))) ∧
      (Text.lower word ∉ c.diagramLanguages → t'.IsMarked (t.asCode c (some (Text.lower word))))
  | .math label => t'.IsMarked (t.asFormula label)
  | .indentedCode => t'.IsMarked (t.asCode c none)
  | .inline children => t'.IsMarked { t with kind := .inline (children.map Markdown.Inline.toFormula) }
  | _ => t'.IsMarked t

/-- Does no stage replace running text of this kind? -/
def Markdown.InlineKind.isFinal : InlineKind → Bool
  | .math _ => false
  | _ => true

/-- Does no stage replace a token of this kind, nor running text in it? -/
def Markdown.Kind.isFinal : Kind → Bool
  | .fence _ | .indentedCode | .math _ => false
  | .inline children => children.all (·.kind.isFinal)
  | _ => true

/-- The token `t'`, which the stages have made from `t`, is ready to be written: it has kept its place,
nothing in it is left to be replaced, and an element that comes from some lines carries the first one. -/
structure Markdown.Token.IsReady (c : Config) (t' t : Token) : Prop where
  nesting : t'.kind.nesting = t.kind.nesting
  span : t'.span = t.span
  made : t'.IsMadeFrom c t
  final : t'.kind.isFinal
  line : ∀ span, t'.span = some span → t'.kind.isElement →
    t'.attrs.get? sourceLineAttribute = some (Text.ofNat (span.first + 1))

/-! ## Tokens that are replaced -/

namespace Markdown.Token

/-- A fence is replaced once. -/
theorem replaced_fence (c : Config) {t : Token} {info : Text} (hkind : t.kind = .fence info) :
    t.replaced c =
      if fenceLanguage info ∈ c.diagramLanguages then t.asDiagram c (fenceLanguage info)
      else t.asCode c (some (fenceLanguage info)) := by
  rw [replaced_of_fence c hkind, toHighlighted, hkind]
  rfl

/-- A token is made from another one if it is what the first stages replace that by, marked. -/
theorem isMadeFrom_of_isMarked {c : Config} {t' t : Token} (h : t'.IsMarked (t.replaced c)) :
    t'.IsMadeFrom c t := by
  unfold IsMadeFrom
  cases hkind : t.kind with
  | fence info =>
    rw [replaced_fence c hkind, fenceLanguage] at h
    refine ⟨Text.firstWord info, Text.isFirstWord_firstWord info, fun hdiagram => ?_, fun hcode => ?_⟩
    · rwa [if_pos hdiagram] at h
    · rwa [if_neg hcode] at h
  | _ =>
    -- All other kinds are dealt with by one stage, which decides by the kind alone.
    obtain ⟨kind, attrs, span, content, hidden⟩ := t
    cases hkind
    exact h

/-- Running text is final once its math has become formulas. -/
theorem isFinal_toFormula (t : Inline) : t.toFormula.kind.isFinal := by
  unfold Inline.toFormula
  split
  · rfl
  · next hmath =>
    cases hkind : t.kind with
    | math display => exact absurd hkind (hmath display)
    | _ => rfl

/-- A token is final once code, math and diagrams have been replaced. -/
theorem isFinal_replaced (c : Config) (t : Token) : (t.replaced c).kind.isFinal := by
  cases hkind : t.kind with
  | fence info =>
    rw [replaced_fence c hkind]
    split
    · rfl
    · rfl
  | inline children =>
    obtain ⟨kind, attrs, span, content, hidden⟩ := t
    cases hkind
    refine List.all_eq_true.2 fun u hu => ?_
    obtain ⟨v, -, rfl⟩ := List.mem_map.1 hu
    exact isFinal_toFormula v
  | _ =>
    obtain ⟨kind, attrs, span, content, hidden⟩ := t
    cases hkind
    rfl

end Markdown.Token

/-- What only marks a kind leaves nothing to be replaced in it. -/
theorem Markdown.Kind.IsMarked.isFinal_eq {k' k : Kind} (h : k'.IsMarked k) :
    k'.isFinal = k.isFinal := by
  cases k with
  | inline children =>
    obtain ⟨children', rfl, hmarked⟩ := h
    dsimp only [Markdown.Kind.isFinal]
    induction hmarked with
    | nil => rfl
    | cons hfirst _ ih => rw [List.all_cons, List.all_cons, hfirst.kind, ih]
  | _ => exact congrArg Markdown.Kind.isFinal h

/-! ## All stages -/

/-- A token that is marked after it has been replaced is ready. -/
theorem Markdown.Token.isReady_of_isMarked {c : Config} {t' t : Token}
    (h : t'.IsMarked (t.replaced c)) : t'.IsReady c t where
  nesting := h.kind.nesting_eq.trans (congrArg (·.1) (t.frame_replaced c))
  span := h.span.trans (congrArg (·.2.2) (t.frame_replaced c))
  made := isMadeFrom_of_isMarked h
  final := h.kind.isFinal_eq.trans (isFinal_replaced c t)
  line span hspan helement := h.line span (h.span ▸ hspan) (h.kind.isElement_eq.symm.trans helement)

/-- Tokens that are marked after they have been replaced are ready. -/
theorem isReady_replaceTokens {c : Config} {tokens ts : List Token}
    (h : List.Forall₂ Markdown.Token.IsMarked tokens (replaceTokens c ts)) :
    List.Forall₂ (Markdown.Token.IsReady c) tokens ts := by
  rw [replaceTokens, List.forall₂_map_right_iff] at h
  exact h.imp fun t' t hmarked => Markdown.Token.isReady_of_isMarked hmarked

/-- The stages for a block and those for a document make every token of a stream ready to be written, and
add, drop or move none: each opens, closes or stands by itself as before and comes from the same lines.
The parser makes no diagrams, formulas or highlighted code, so that in its streams all of these are made by
the stages, with whatever is written of them. -/
theorem stages_make_ready (c : Config) :
    (∀ ts : List Token,
      List.Forall₂ (Markdown.Token.IsReady c) (blockStages c ts) ts ∧
      List.Forall₂ (Markdown.Token.IsReady c) (documentStages c ts) ts) ∧
    ∀ t : Text, ∀ tok ∈ Markdown.parse t,
      tok.kind.isParsed ∧ ∀ u ∈ tok.children, u.kind.written = [] := by
  refine ⟨fun ts => ⟨?_, ?_⟩, fun t tok htok => ?_⟩
  · exact isReady_replaceTokens (isMarked_map_withLine _)
  · exact isReady_replaceTokens (isMarked_assignIds {} _)
  · have hplain := Markdown.isPlain_parse t tok htok
    exact ⟨hplain.kind, fun u hu => (hplain.children u hu).kind⟩

/-- A diagram on the third line of a document. -/
theorem stages_make_ready_diagram :
    ∃ fence ∈ Markdown.parse "x\n\n~~~ Mermaid y\nA[b]\n~~~".toList, fence.kind.isParsed ∧
      ∃ diagram, documentStages {} [fence] = [diagram] ∧ diagram.kind = .diagram "mermaid" ∧
        diagram.content = "A[\"\x60b\x60\"]".toList ∧
        diagram.attrs.get? sourceLineAttribute = some ['3'] := by
  let fence : Token := { kind := .fence " Mermaid y", span := some ⟨2, 5⟩, content := "A[b]\n" }
  have hmem : fence ∈ Markdown.parse "x\n\n~~~ Mermaid y\nA[b]\n~~~".toList := by decide +kernel
  obtain ⟨hready, hparsed⟩ := stages_make_ready {}
  have htokens := (hready [fence]).2
  generalize hout : documentStages {} [fence] = out at htokens
  cases htokens with
  | @cons diagram _ _ _ hdiagram hrest =>
    cases hrest
    obtain ⟨word, hword, hmade, -⟩ := hdiagram.made
    have hlanguage : Text.lower word = "mermaid".toList := by
      rw [Text.isFirstWord_iff.1 hword]
      decide +kernel
    rw [hlanguage] at hmade
    replace hmade := hmade (by decide)
    have hkind : diagram.kind = .diagram "mermaid" := hmade.kind
    have hcontent : diagram.content = "A[\"\x60b\x60\"]".toList := hmade.content.trans (by decide +kernel)
    have hline := hdiagram.line ⟨2, 5⟩ hdiagram.span (hkind ▸ rfl)
    exact ⟨fence, hmem, (hparsed _ fence hmem).1, diagram, hout, hkind, hcontent,
      hline.trans (by decide +kernel)⟩

end LiveMarkdown
