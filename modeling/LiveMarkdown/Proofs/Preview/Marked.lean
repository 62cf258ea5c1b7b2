import LiveMarkdown.Proofs.Preview.SourceLines

/-!
# Tokens that are marked

The last stages replace no token. They set attributes: the id of a heading, and the source line of what
has an element. So each of their tokens is the one that stood there before, marked (`Token.IsMarked`), in a
block (`isMarked_withLine`) and in a document (`isMarked_assignIds`). The source line overrides what an
earlier stage has set under its name, whatever that is.
-/

namespace LiveMarkdown

open Html (Attributes)
open Markdown (Inline Kind Token)

/-- Running text that is the same as other running text but for its source line. -/
structure Markdown.Inline.IsMarked (t' t : Inline) : Prop where
  kind : t'.kind = t.kind
  content : t'.content = t.content
  attrs : ∀ name, name ≠ sourceLineAttribute → t'.attrs.get? name = t.attrs.get? name

/-- A kind that is the same as another one but for source lines in running text. -/
def Markdown.Kind.IsMarked (k' k : Kind) : Prop :=
  match k with
  | .inline children =>
    ∃ children', k' = .inline children' ∧ List.Forall₂ Markdown.Inline.IsMarked children' children
  | k => k' = k

/-- A token that is the same as another one, but carries its source line, and an id if it opens a
heading. -/
structure Markdown.Token.IsMarked (t' t : Token) : Prop where
  kind : t'.kind.IsMarked t.kind
  span : t'.span = t.span
  hidden : t'.hidden = t.hidden
  content : t'.content = t.content
  attrs : ∀ name, name ≠ sourceLineAttribute → (name = "id".toList → t.headingLevel? = none) →
    t'.attrs.get? name = t.attrs.get? name
  line : ∀ span, t.span = some span → t.kind.isElement →
    t'.attrs.get? sourceLineAttribute = some (Text.ofNat (span.first + 1))

/-! ## Running text -/

/-- Running text is marked as itself. -/
theorem Markdown.Inline.isMarked_self (t : Inline) : t.IsMarked t := ⟨rfl, rfl, fun _ _ => rfl⟩

/-- Source lines only mark running text. -/
theorem isMarked_markInlineLines (line : Nat) (ts : List Inline) :
    List.Forall₂ Markdown.Inline.IsMarked (markInlineLines line ts) ts := by
  induction ts generalizing line with
  | nil => exact .nil
  | cons t rest ih =>
    rw [markInlineLines]
    split
    · exact .cons t.isMarked_self (ih _)
    · exact .cons t.isMarked_self (ih _)
    · refine .cons ?_ (ih _)
      split
      · exact ⟨rfl, rfl, fun name hname => Attributes.get?_set_of_ne _ _ hname.symm⟩
      · exact t.isMarked_self

/-! ## Tokens -/

namespace Markdown.Kind

/-- A kind is marked as itself. -/
theorem isMarked_self (k : Kind) : k.IsMarked k := by
  cases k with
  | inline children => exact ⟨children, rfl, List.forall₂_same.2 fun t _ => t.isMarked_self⟩
  | _ => rfl

/-- A kind that is not running text is the same. -/
theorem IsMarked.eq {k' k : Kind} (h : k'.IsMarked k) (hinline : ∀ children, k ≠ .inline children) :
    k' = k := by
  cases k with
  | inline children => exact absurd rfl (hinline children)
  | _ => exact h

/-- A marked token opens and closes what it did. -/
theorem IsMarked.nesting_eq {k' k : Kind} (h : k'.IsMarked k) : k'.nesting = k.nesting := by
  cases k with
  | inline children =>
    obtain ⟨children', rfl, -⟩ := h
    rfl
  | _ => exact congrArg Kind.nesting h

/-- A marked token is an element if it was. -/
theorem IsMarked.isElement_eq {k' k : Kind} (h : k'.IsMarked k) : k'.isElement = k.isElement := by
  cases k with
  | inline children =>
    obtain ⟨children', rfl, -⟩ := h
    rfl
  | _ => exact congrArg Kind.isElement h

end Markdown.Kind

/-- A token with other attributes, if only the id of a heading is another one, is marked by its source
line. -/
theorem isMarked_withLine {t : Token} (attrs : Attributes)
    (h : ∀ name, (name = "id".toList → t.headingLevel? = none) →
      attrs.get? name = t.attrs.get? name) :
    Markdown.Token.IsMarked (Markdown.Token.withLine { t with attrs }) t := by
  obtain ⟨kind, old, span, content, hidden⟩ := t
  cases span with
  | none =>
    exact ⟨kind.isMarked_self, rfl, rfl, rfl, fun name _ hid => h name hid, nofun⟩
  | some span =>
    have hset (name : Text) (hname : name ≠ sourceLineAttribute) :
        (attrs.set sourceLineAttribute (Text.ofNat (span.first + 1))).get? name = attrs.get? name :=
      Attributes.get?_set_of_ne _ _ hname.symm
    cases kind with
    | inline children =>
      have hkind : Kind.IsMarked (.inline (markInlineLines (span.first + 1) children)) (.inline children) :=
        ⟨_, rfl, isMarked_markInlineLines _ _⟩
      exact ⟨hkind, rfl, rfl, rfl, fun name _ hid => h name hid, nofun⟩
    | closing c => exact ⟨rfl, rfl, rfl, rfl, fun name _ hid => h name hid, nofun⟩
    | html => exact ⟨rfl, rfl, rfl, rfl, fun name _ hid => h name hid, nofun⟩
    | _ =>
      refine ⟨rfl, rfl, rfl, rfl, fun name hname hid => (hset name hname).trans (h name hid), ?_⟩
      rintro _ ⟨⟩ -
      exact Attributes.get?_set_self _ _ _

/-- Source lines only mark tokens. -/
theorem isMarked_map_withLine (ts : List Token) :
    List.Forall₂ Markdown.Token.IsMarked (ts.map Markdown.Token.withLine) ts := by
  rw [List.forall₂_map_left_iff]
  exact List.forall₂_same.2 fun t _ => isMarked_withLine t.attrs fun _ _ => rfl

/-- Ids and source lines only mark tokens. -/
theorem isMarked_assignIds (s : Slugger) (ts : List Token) :
    List.Forall₂ Markdown.Token.IsMarked ((assignIds s ts).map Markdown.Token.withLine) ts := by
  induction ts generalizing s with
  | nil => exact .nil
  | cons t rest ih =>
    rw [assignIds]
    split
    · next hheading =>
      refine .cons (isMarked_withLine _ fun name hid =>
        Attributes.get?_set_of_ne _ _ fun hname => ?_) (ih _)
      -- A heading is the only token whose id is set here.
      have hopens := (Bool.and_eq_true_iff.1 hheading).1
      rw [hid hname.symm] at hopens
      cases hopens
    · exact .cons (isMarked_withLine t.attrs fun _ _ => rfl) (ih s)

end LiveMarkdown
