import LiveMarkdown.Markdown.Document
import LiveMarkdown.Math.Formula
import LiveMarkdown.Proofs.Html.Names
import LiveMarkdown.Proofs.Html.Tag

/-!
# The attributes of running text

The tokens of running text have attributes with plain names that mark no formula, and none of them is
a formula yet (`isPlain_inlines`). Each construct is read with the attributes that it has in the end:
what is done with tokens afterwards, when markers are paired and neighbours joined, leaves attributes
alone.
-/

namespace LiveMarkdown.Markdown

open Html (Attributes)

/-- A plain name of an attribute that does not tell a formula. -/
def IsUnmarkedName (name : Text) : Prop := Html.IsPlainName name ∧ name ≠ Math.markAttribute

instance (name : Text) : Decidable (IsUnmarkedName name) := inferInstanceAs (Decidable (_ ∧ _))

/-- The HTML that has been written for a kind. -/
def InlineKind.written : InlineKind → List Text
  | .formula shown => [shown]
  | _ => []

/-- A token of running text as the parser makes it. -/
structure Inline.IsPlain (t : Inline) : Prop where
  attrs : ∀ a ∈ t.attrs, IsUnmarkedName a.1
  kind : t.kind.written = []

/-- A token without attributes is plain, if nothing has been written for its kind. -/
theorem Inline.isPlain_of_kind {kind : InlineKind} (h : kind.written = []) (content : Text) :
    Inline.IsPlain { kind, content } :=
  ⟨List.forall_mem_nil _, h⟩

/-- A token of text is plain. -/
theorem Inline.isPlain_ofText (t : Text) : (Inline.ofText t).IsPlain := isPlain_of_kind rfl t

/-- A link has the attributes of its destination, and perhaps a title. -/
theorem isUnmarkedName_linkAttrs {attrs : Attributes} (h : ∀ a ∈ attrs, IsUnmarkedName a.1)
    (title : Text) : ∀ a ∈ Source.linkAttrs attrs title, IsUnmarkedName a.1 := by
  unfold Source.linkAttrs
  split
  · exact h
  · exact Html.forall_names_set h (by decide) title

/-- The attribute of an address tells no formula. -/
theorem isUnmarkedName_href (url : Text) :
    ∀ a ∈ ([("href", url)] : Attributes), IsUnmarkedName a.1 := by
  have hname : IsUnmarkedName "href".toList := by decide
  intro a ha
  rw [List.mem_singleton.1 ha]
  exact hname

/-- The attributes of a picture tell no formula. -/
theorem isUnmarkedName_srcAlt (url alt : Text) :
    ∀ a ∈ ([("src", url), ("alt", alt)] : Attributes), IsUnmarkedName a.1 := by
  have hsrc : IsUnmarkedName "src".toList := by decide
  have halt : IsUnmarkedName "alt".toList := by decide
  intro a ha
  rcases List.mem_cons.1 ha with rfl | ha
  · exact hsrc
  · exact List.mem_singleton.1 ha ▸ halt

/-! ## Constructs -/

/-- What stands at a position has attributes with names that tell no formula. -/
def Piece.IsPlain : Piece → Prop
  | .token t => t.IsPlain
  | .link attrs _ _ => ∀ a ∈ attrs, IsUnmarkedName a.1
  | _ => True

/-- What has been found, if anything, is plain. -/
def Found.IsPlain (found : Found) : Prop := ∀ p next, found = some (p, next) → p.IsPlain

/-- Where nothing has been found, all that has been found is plain. -/
theorem isPlain_none : Found.IsPlain none := nofun

/-- What has been found is plain if the piece is. -/
theorem isPlain_some {p : Piece} {next : Nat} (h : p.IsPlain) : Found.IsPlain (some (p, next)) :=
  fun _ _ heq => (Prod.mk.inj (Option.some.inj heq)).1 ▸ h

/-- A token without attributes. -/
theorem isPlain_token {t : Inline} {next : Nat} (hattrs : t.attrs = [])
    (hkind : t.kind.written = []) : Found.IsPlain (some (.token t, next)) :=
  isPlain_some ⟨fun _ ha => absurd (hattrs ▸ ha) List.not_mem_nil, hkind⟩

namespace Source

variable (src : Source) (skip : Skip) (stop i : Nat) (memo : Memo)

/-- An escaped character is plain. -/
theorem isPlain_escape : (src.escape stop i).IsPlain := by
  unfold escape
  split
  · exact isPlain_none
  · split
    · exact isPlain_none
    · exact isPlain_token rfl rfl
    · exact isPlain_token rfl rfl

/-- Math between dollar signs is plain. -/
theorem isPlain_math : (src.math i).IsPlain := by
  unfold math
  split
  · exact isPlain_none
  · split
    · exact isPlain_none
    · split
      · exact isPlain_none
      · exact isPlain_token rfl rfl

/-- A code span is plain. -/
theorem isPlain_code : (src.code stop i).IsPlain := by
  unfold code
  dsimp only
  split
  · exact isPlain_token rfl rfl
  · exact isPlain_some trivial

/-- A run of markers is plain. -/
theorem isPlain_markers (mark : Char) : (src.markers mark stop i).IsPlain := by
  unfold markers
  dsimp only
  split
  · exact isPlain_none
  · exact isPlain_some trivial

/-- A character reference is plain. -/
theorem isPlain_reference : (src.reference stop i).IsPlain := by
  have hfound {c : Prop} [Decidable c] {t : Text} {next : Nat} : Found.IsPlain
      (if c then none else some (.token { kind := .special, content := t }, next)) := by
    split
    · exact isPlain_none
    · exact isPlain_token rfl rfl
  unfold reference
  dsimp only
  split
  · exact isPlain_none
  · split
    · split
      · exact hfound
      · exact hfound
    · split
      · split
        · exact isPlain_token rfl rfl
        · exact isPlain_none
      · exact isPlain_none

/-- An address in angle brackets is plain. -/
theorem isPlain_angleAddress : (src.angleAddress stop i).IsPlain := by
  have hfound {url shown : Text} {next : Nat} : Found.IsPlain
      (if Url.isAllowed url then some (.address url shown 0, next) else none) := by
    split
    · exact isPlain_some trivial
    · exact isPlain_none
  unfold angleAddress
  dsimp only
  split
  · exact isPlain_none
  · split
    · exact hfound
    · split
      · exact hfound
      · exact isPlain_none

/-- Raw HTML in running text is plain. -/
theorem isPlain_rawHtml : (src.rawHtml stop i).IsPlain := by
  unfold rawHtml
  dsimp only
  split
  · exact isPlain_none
  · split
    · exact isPlain_token rfl rfl
    · exact isPlain_none

/-- An address without brackets is plain. -/
theorem isPlain_bareAddress (pending : Text) : (src.bareAddress pending stop i).IsPlain := by
  unfold bareAddress
  split
  · exact isPlain_none
  · split
    · exact isPlain_none
    · split
      · exact isPlain_none
      · dsimp only
        split
        · exact isPlain_some trivial
        · exact isPlain_none

/-- A link is plain. -/
theorem isPlain_link : (src.link skip stop i memo).1.IsPlain := by
  unfold link
  split
  · exact isPlain_some (isUnmarkedName_linkAttrs (isUnmarkedName_href _) _)
  · exact isPlain_none

/-- A picture is plain. -/
theorem isPlain_picture : (src.picture skip stop i memo).1.IsPlain := by
  unfold picture
  split
  · exact isPlain_none
  · split
    · exact isPlain_some trivial
    · exact isPlain_none

/-- Of two plain pieces, the one that is chosen is plain. -/
theorem isPlain_ite {a : Prop} [Decidable a] {found other : Found × Memo} (h : found.1.IsPlain)
    (hother : other.1.IsPlain) : (if a then found else other).1.IsPlain := by
  split
  · exact h
  · exact hother

/-- Of two plain pieces, the first that has been found is plain. -/
theorem isPlain_or {found other : Found} (h : found.IsPlain) (hother : other.IsPlain) :
    Found.IsPlain (found.or other) := by
  cases found with
  | none => exact hother
  | some _ => exact h

/-- Whatever construct stands at a position, it is plain. -/
theorem isPlain_piece (silent inLink : Bool) (pending : Text) :
    (src.piece skip silent inLink pending stop i memo).1.IsPlain := by
  have hnone {a : Prop} [Decidable a] {found : Found} (h : found.IsPlain) :
      Found.IsPlain (if a then none else found) := by
    split
    · exact isPlain_none
    · exact h
  unfold piece
  split
  · exact isPlain_none
  · refine isPlain_ite (isPlain_some trivial) ?_
    refine isPlain_ite (hnone (src.isPlain_bareAddress stop i pending)) ?_
    refine isPlain_ite (isPlain_some trivial) ?_
    refine isPlain_ite (src.isPlain_math i) ?_
    refine isPlain_ite (src.isPlain_escape stop i) ?_
    refine isPlain_ite (src.isPlain_code stop i) ?_
    refine isPlain_ite (hnone (src.isPlain_markers stop i _)) ?_
    refine isPlain_ite (src.isPlain_link skip stop i memo) ?_
    refine isPlain_ite (src.isPlain_picture skip stop i memo) ?_
    refine isPlain_ite (isPlain_or (src.isPlain_angleAddress stop i) (src.isPlain_rawHtml stop i)) ?_
    exact isPlain_ite (src.isPlain_reference stop i) isPlain_none

/-! ## Reading -/

/-- All tokens so far are plain. -/
def Reading.IsPlain (r : Reading) : Prop := ∀ t ∈ r.tokens, t.IsPlain

namespace Reading.IsPlain

variable {r : Reading}

/-- The text that is held back becomes a plain token. -/
theorem flush (h : r.IsPlain) : r.flush.IsPlain := by
  unfold Reading.flush
  split
  · exact h
  · intro t ht
    rcases Array.mem_push.1 ht with ht | rfl
    · exact h t ht
    · exact Inline.isPlain_ofText _

/-- One more plain token leaves all tokens plain. -/
theorem push (h : r.IsPlain) {t : Inline} (ht : t.IsPlain) : (r.push t).IsPlain := by
  intro u hu
  rcases Array.mem_push.1 hu with hu | rfl
  · exact h.flush u hu
  · exact ht

/-- Text that is held back is no token. -/
theorem withPending (h : r.IsPlain) (pending : Text) : Reading.IsPlain { r with pending } := h

/-- A line break is a plain token. -/
theorem lineBreak (h : r.IsPlain) : r.lineBreak.IsPlain := by
  have hhard : Inline.IsPlain { kind := .hardBreak } := Inline.isPlain_of_kind rfl []
  have hsoft : Inline.IsPlain { kind := .softBreak } := Inline.isPlain_of_kind rfl []
  unfold Reading.lineBreak
  split
  · exact (h.withPending _).push hhard
  · exact (h.withPending _).push hsoft
  · exact h.push hsoft

/-- Markers are plain tokens, one for each of them. -/
theorem pushMarkers (h : r.IsPlain) (mark : Char) (length : Nat) (opens closes : Bool) (t : Text)
    (count : Nat) : (Reading.pushMarkers mark length opens closes t count r).IsPlain := by
  induction count generalizing r with
  | zero => exact h
  | succ count ih =>
    have hpush := h.push (Inline.isPlain_ofText t)
    exact ih (r := { r.push (.ofText t) with delimiters := _ }) hpush

/-- A run of markers becomes plain tokens. -/
theorem markers (h : r.IsPlain) (mark : Char) (length : Nat) (opens closes : Bool) :
    (r.markers mark length opens closes).IsPlain := by
  unfold Reading.markers
  split
  · dsimp only
    split
    · exact (h.push (Inline.isPlain_ofText _)).pushMarkers _ _ _ _ _ _
    · exact h.pushMarkers _ _ _ _ _ _
  · exact h.pushMarkers _ _ _ _ _ _

end Reading.IsPlain

/-- The end of a link is plain. -/
theorem isPlain_closingLink : Inline.IsPlain { kind := .closing .link } :=
  Inline.isPlain_of_kind rfl []

/-- The beginning of a link is plain, if its attributes are. -/
theorem isPlain_openingLink {attrs : Attributes} (h : ∀ a ∈ attrs, IsUnmarkedName a.1) :
    Inline.IsPlain { kind := .opening .link, attrs } := ⟨h, rfl⟩

/-- The tokens of a link whose text is its address. -/
theorem isPlain_address (url shown : Text) :
    ∀ t ∈ linkTokens [("href", url)] [.ofText shown], t.IsPlain := by
  intro t ht
  rcases List.mem_append.1 ht with ht | ht
  · rcases List.mem_cons.1 ht with rfl | ht
    · exact isPlain_openingLink (isUnmarkedName_href url)
    · exact List.mem_singleton.1 ht ▸ Inline.isPlain_ofText shown
  · exact List.mem_singleton.1 ht ▸ isPlain_closingLink

/-- More plain tokens leave all tokens plain. -/
theorem Reading.IsPlain.foldl_push {r : Reading} (h : r.IsPlain) {ts : List Inline}
    (hts : ∀ t ∈ ts, t.IsPlain) : (ts.foldl Reading.push r).IsPlain := by
  induction ts generalizing r with
  | nil => exact h
  | cons t rest ih =>
    exact ih (h.push (hts t List.mem_cons_self)) fun u hu => hts u (List.mem_cons_of_mem _ hu)

/-- Reading on keeps all tokens plain, if the contents of links are. -/
theorem isPlain_readFrom (src : Source) (depth : Nat)
    {readLink : (first past : Nat) → (linkDepth : Int) → Memo → Array Inline × Int × Memo}
    (hlink : ∀ first past linkDepth memo, ∀ t ∈ (readLink first past linkDepth memo).1, t.IsPlain)
    (stop fuel i : Nat) {r : Reading} (h : r.IsPlain) :
    (src.readFrom depth readLink stop fuel i r).IsPlain := by
  induction fuel generalizing i r with
  | zero => exact h.flush
  | succ fuel ih =>
    rw [readFrom]
    split
    · exact h.flush
    · have hpiece := isPlain_piece src (src.skipTo (0 < r.linkDepth) r.pending depth) stop i r.memo
        false (0 < r.linkDepth) r.pending
      dsimp only
      split
      · exact ih _ h
      · next p next hfound =>
        have hp := hpiece p next hfound
        have hmemo (memo : Memo) : Reading.IsPlain { r with memo } := h
        refine ih _ ?_
        split
        · exact h
        · exact (hmemo _).push hp
        · exact (hmemo _).lineBreak
        · exact (hmemo _).markers _ _ _ _
        · intro t ht
          rcases Array.mem_push.1 ht with ht | rfl
          · rcases Array.mem_append.1 ht with ht | ht
            · exact (hmemo _).push (isPlain_openingLink hp) t ht
            · exact hlink _ _ _ _ t ht
          · exact isPlain_closingLink
        · exact (hmemo _).push ⟨isUnmarkedName_linkAttrs (isUnmarkedName_srcAlt _ _) _, rfl⟩
        · refine Reading.IsPlain.foldl_push ?_ (isPlain_address _ _)
          exact fun t ht => h t ht

end Source

/-! ## Pairs of markers -/

namespace Delimiter

/-- All tokens are plain. -/
def ArePlain (tokens : Array Inline) : Prop := ∀ t ∈ tokens, t.IsPlain

variable {tokens : Array Inline}

/-- Changing one token leaves the others as they are. -/
theorem ArePlain.modify (h : ArePlain tokens) (i : Nat) {f : Inline → Inline}
    (hf : ∀ t, t.IsPlain → (f t).IsPlain) : ArePlain (tokens.modify i f) := by
  intro t ht
  obtain ⟨j, hj⟩ := Array.mem_iff_getElem?.1 ht
  rw [Array.getElem?_modify] at hj
  split at hj
  · obtain ⟨u, hu, rfl⟩ := Option.map_eq_some_iff.1 hj
    exact hf u (h u (Array.mem_of_getElem? hu))
  · exact h t (Array.mem_of_getElem? hj)

/-- A marker that becomes a mark is plain. -/
theorem ArePlain.setMark (h : ArePlain tokens) (i : Nat) {kind : InlineKind}
    (hkind : kind.written = []) : ArePlain (setMark tokens i kind) :=
  h.modify i fun _ ht => ⟨ht.attrs, hkind⟩

/-- The tokens of a pair become marks. -/
theorem ArePlain.setMarks (h : ArePlain tokens) (mark : Mark) (first last : Nat) : ArePlain
    (Delimiter.setMark (Delimiter.setMark tokens first (.opening mark)) last (.closing mark)) := by
  exact (h.setMark first rfl).setMark last rfl

/-- A marker that loses its text is plain. -/
theorem ArePlain.clear (h : ArePlain tokens) (i : Nat) :
    ArePlain (tokens.modify i fun t => { t with content := [] }) :=
  h.modify i fun _ ht => ⟨ht.attrs, ht.kind⟩

/-- Moving a lone marker leaves tokens plain. -/
theorem ArePlain.moveLone (h : ArePlain tokens) (i : Nat) : ArePlain (moveLone tokens i) := by
  unfold Delimiter.moveLone
  dsimp only
  split
  · next a b ha hb =>
    intro t ht
    rcases Array.mem_or_eq_of_mem_setIfInBounds ht with ht | rfl
    · rcases Array.mem_or_eq_of_mem_setIfInBounds ht with ht | rfl
      · exact h t ht
      · exact h _ (Array.mem_of_getElem? ha)
    · exact h _ (Array.mem_of_getElem? hb)
  · exact h

/-- Marks of struck out text are plain. -/
theorem ArePlain.markStrikes (h : ArePlain tokens) (delimiters : Array Delimiter) :
    ArePlain (markStrikes delimiters tokens).1 := by
  unfold Delimiter.markStrikes
  refine List.foldlRecOn (motive := fun (state : Array Inline × List Nat) => ArePlain state.1) _ _ h
    fun state hstate d _ => ?_
  obtain ⟨tokens, lone⟩ := state
  dsimp only
  split
  · split
    · exact ArePlain.setMarks hstate _ _ _
    · exact hstate
  · exact hstate

/-- Marks of emphasis are plain. -/
theorem ArePlain.markEmphasis (h : ArePlain tokens) (delimiters : Array Delimiter) (count : Nat) :
    ArePlain (markEmphasis delimiters count tokens) := by
  induction count using Nat.strongRecOn generalizing tokens with
  | ind count ih =>
    match count with
    | 0 => exact h
    | i + 1 =>
      rw [Delimiter.markEmphasis]
      dsimp only
      split
      · exact ih i (by omega) h
      · split
        · exact ih i (by omega) h
        · split
          · split
            · exact ((h.setMarks _ _ _).clear _).clear _
            · exact ih _ (by omega) (((h.setMarks _ _ _).clear _).clear _)
          · exact ih i (by omega) (h.setMarks _ _ _)

/-- Pairing leaves tokens plain. -/
theorem ArePlain.applyAll (h : ArePlain tokens) (delimiters : Array Delimiter) :
    ArePlain (applyAll delimiters tokens) := by
  have hlone (lone : List Nat) :
      ∀ tokens, ArePlain tokens → ArePlain (lone.foldl Delimiter.moveLone tokens) := by
    induction lone with
    | nil => exact fun _ h => h
    | cons i rest ih => exact fun tokens h => ih _ (h.moveLone i)
  exact (hlone _ _ (h.markStrikes _)).markEmphasis _ _

end Delimiter

/-! ## Whole texts -/

/-- Whatever part of a text is read, its tokens are plain. -/
theorem Source.isPlain_readRange (src : Source) (depth first past : Nat) (linkDepth : Int)
    (memo : Memo) : ∀ t ∈ (src.readRange depth first past linkDepth memo).1, t.IsPlain := by
  induction depth generalizing first past linkDepth memo with
  | zero =>
    intro t ht
    rw [Source.readRange] at ht
    rw [List.mem_singleton.1 (Array.mem_toList_iff.2 ht)]
    exact Inline.isPlain_ofText _
  | succ depth ih =>
    have hread := src.isPlain_readFrom (depth + 1) ih past (past - first + 1) first
      (r := { linkDepth, memo }) fun t ht => absurd ht (Array.not_mem_empty t)
    exact Delimiter.ArePlain.applyAll hread _

/-- Joining neighbours of text leaves tokens plain. -/
theorem isPlain_joinText {ts : List Inline} (h : ∀ t ∈ ts, t.IsPlain) :
    ∀ t ∈ joinText ts, t.IsPlain := by
  induction ts with
  | nil => exact List.forall_mem_nil _
  | cons t rest ih =>
    have ht := h t List.mem_cons_self
    have hrest := ih fun u hu => h u (List.mem_cons_of_mem _ hu)
    rw [joinText]
    split
    · next next more hkind hjoined =>
      have hnext := hrest next (hjoined ▸ List.mem_cons_self)
      have hmore : ∀ u ∈ more, u.IsPlain := fun u hu => hrest u (hjoined ▸ List.mem_cons_of_mem _ hu)
      split
      · intro u hu
        rcases List.mem_cons.1 hu with rfl | hu
        · exact ⟨hnext.attrs, hnext.kind⟩
        · exact hmore u hu
      · intro u hu
        rcases List.mem_cons.1 hu with rfl | hu
        · exact ht
        · rcases List.mem_cons.1 hu with rfl | hu
          · exact hnext
          · exact hmore u hu
    · intro u hu
      rcases List.mem_cons.1 hu with rfl | hu
      · exact ht
      · exact hrest u hu

/-- The inline tokens of a text are plain. -/
theorem isPlain_inlines (refs : References) (t : Text) : ∀ u ∈ inlines refs t, u.IsPlain := by
  rw [inlines, inlinesUpTo]
  exact isPlain_joinText fun u hu =>
    Source.isPlain_readRange _ maxNesting 0 t.length 0 {} u (Array.mem_toList_iff.1 hu)

/-! ## The end of parsing -/

/-- The pieces into which addresses divide a text are plain. -/
theorem isPlain_linkPieces (t : Text) (passed : Nat) (links : List Url.Bare.Link) :
    ∀ u ∈ linkPieces t passed links, u.IsPlain := by
  induction links generalizing passed with
  | nil =>
    rw [linkPieces]
    split
    · exact fun u hu => List.mem_singleton.1 hu ▸ Inline.isPlain_ofText _
    · exact List.forall_mem_nil _
  | cons l more ih =>
    rw [linkPieces]
    dsimp only
    split
    · exact ih passed
    · intro u hu
      rcases List.mem_append.1 hu with hu | hu
      · rcases List.mem_append.1 hu with hu | hu
        · split at hu
          · exact List.mem_singleton.1 hu ▸ Inline.isPlain_ofText _
          · cases hu
        · exact Source.isPlain_address _ _ u hu
      · exact ih _ u hu

/-- Making links of addresses leaves tokens plain. -/
theorem isPlain_linkAddresses (inLink : Bool) (htmlDepth : Nat) {ts : List Inline}
    (h : ∀ t ∈ ts, t.IsPlain) : ∀ t ∈ linkAddresses inLink htmlDepth ts, t.IsPlain := by
  induction ts generalizing inLink htmlDepth with
  | nil => exact List.forall_mem_nil _
  | cons t before ih =>
    have ht := h t List.mem_cons_self
    have hafter {us : List Inline} (hus : ∀ u ∈ us, u.IsPlain) (inLink : Bool) (htmlDepth : Nat) :
        ∀ u ∈ linkAddresses inLink htmlDepth before ++ us, u.IsPlain := by
      intro u hu
      rcases List.mem_append.1 hu with hu | hu
      · exact ih inLink htmlDepth (fun v hv => h v (List.mem_cons_of_mem _ hv)) u hu
      · exact hus u hu
    have hself : ∀ u ∈ [t], u.IsPlain := fun u hu => List.mem_singleton.1 hu ▸ ht
    have hlinked (links : List Url.Bare.Link) :
        ∀ u ∈ (if links.isEmpty then [t] else linkPieces t.content 0 links), u.IsPlain := by
      split
      · exact hself
      · exact isPlain_linkPieces _ _ _
    rw [linkAddresses]
    split
    · exact hafter hself _ _
    · split
      · exact hafter hself _ _
      · exact hafter hself _ _
      · split
        · exact hafter hself _ _
        · exact hafter (hlinked _) _ _
      · exact hafter hself _ _

/-- The children of a token stay plain when addresses in them become links. -/
theorem isPlain_linkChildren (content : Text) {children : List Inline}
    (h : ∀ t ∈ children, t.IsPlain) : ∀ t ∈ linkChildren content children, t.IsPlain := by
  unfold linkChildren
  split
  · exact isPlain_linkAddresses _ _ fun t ht => h t (List.mem_reverse.1 ht)
  · exact h

/-- Joining escaped characters to their neighbours leaves tokens plain. -/
theorem isPlain_joinSpecial {ts : List Inline} (h : ∀ t ∈ ts, t.IsPlain) :
    ∀ t ∈ joinSpecial ts, t.IsPlain := by
  refine isPlain_joinText fun t ht => ?_
  obtain ⟨u, hu, rfl⟩ := List.mem_map.1 ht
  split
  · exact ⟨(h u hu).attrs, rfl⟩
  · exact h u hu

end LiveMarkdown.Markdown
