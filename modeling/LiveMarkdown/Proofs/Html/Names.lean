import LiveMarkdown.Proofs.Html.Written
import LiveMarkdown.Proofs.Text.Case
import LiveMarkdown.Proofs.Text.Pattern

/-!
# The attributes of a page

Whatever a page is read from, the elements of its tree have attributes with names that can be told
from their values, and no two with one name (`areProper_of_pageNodes`). The first comes from the
pattern that reads names, which stops at an equals sign, and small letters do not bring one in. The
second comes from setting attributes one by one.
-/

namespace LiveMarkdown.Html

open Pattern

/-! ## Sets of attributes -/

/-- Attributes whose names are names, each one of them there once. -/
structure AreProper (attrs : Attributes) : Prop where
  names : ∀ p ∈ attrs, IsName p.1
  nodup : (attrs.map (·.1)).Nodup

/-- No attributes are proper. -/
theorem areProper_nil : AreProper [] where
  names _ hp := absurd hp List.not_mem_nil
  nodup := List.nodup_nil

/-- Setting an attribute adds its name, if it was not there. -/
theorem mem_names_set {attrs : Attributes} {name value n : Text} :
    n ∈ (attrs.set name value).map (·.1) ↔ n = name ∨ n ∈ attrs.map (·.1) := by
  induction attrs with
  | nil => simp [Attributes.set]
  | cons a rest ih =>
    obtain ⟨m, v⟩ := a
    rw [Attributes.set]
    split
    · next h => simp [h]
    · rw [List.map_cons, List.mem_cons, ih, List.map_cons, List.mem_cons]
      exact or_left_comm

/-- Setting an attribute brings in no name twice. -/
theorem nodup_names_set {attrs : Attributes} (h : (attrs.map (·.1)).Nodup) (name value : Text) :
    ((attrs.set name value).map (·.1)).Nodup := by
  induction attrs with
  | nil => simp [Attributes.set]
  | cons a rest ih =>
    obtain ⟨m, v⟩ := a
    obtain ⟨hm, hrest⟩ := List.nodup_cons.1 h
    rw [Attributes.set]
    split
    · exact h
    · next hne =>
      refine List.nodup_cons.2 ⟨fun hmem => ?_, ih hrest⟩
      rcases mem_names_set.1 hmem with heq | hmem
      · exact hne heq
      · exact hm hmem

/-- What holds of all names holds of all names after setting one that it holds of. -/
theorem forall_names_set {P : Text → Prop} {attrs : Attributes} (h : ∀ p ∈ attrs, P p.1)
    {name : Text} (hname : P name) (value : Text) : ∀ p ∈ attrs.set name value, P p.1 := by
  intro p hp
  rcases mem_names_set.1 (List.mem_map_of_mem hp) with heq | hmem
  · exact heq ▸ hname
  · obtain ⟨q, hq, heq⟩ := List.mem_map.1 hmem
    exact heq ▸ h q hq

/-- Setting an attribute that has a name keeps attributes proper. -/
theorem AreProper.set {attrs : Attributes} (h : AreProper attrs) {name : Text} (hname : IsName name)
    (value : Text) : AreProper (attrs.set name value) where
  names := forall_names_set h.names hname value
  nodup := nodup_names_set h.nodup name value

/-- What holds of no attributes, and still when one of the written names is set, holds of the attributes
that a tag has. -/
theorem tagAttributes_induction {P : Attributes → Prop} {name : Text} {attrs : Attributes} (nil : P [])
    (set : ∀ {done : Attributes} {a : Text × Text}, a ∈ attrs → P done → ∀ value,
      P (done.set a.1 value)) : P (tagAttributes name attrs) :=
  List.foldlRecOn attrs _ nil fun _ hdone _ ha => set ha hdone _

/-- The attributes of a tag whose attributes have names are proper. -/
theorem areProper_tagAttributes (name : Text) {attrs : Attributes} (h : ∀ p ∈ attrs, IsName p.1) :
    AreProper (tagAttributes name attrs) :=
  tagAttributes_induction areProper_nil fun ha hdone value => hdone.set (h _ ha) value

/-- A tag has attributes with the names that are written in it. -/
theorem mem_names_tagAttributes {name : Text} {attrs : Attributes} {n : Text} :
    n ∈ (tagAttributes name attrs).map (·.1) ↔ n ∈ attrs.map (·.1) := by
  have hfold (done : Attributes) : n ∈ (attrs.foldl (fun done p =>
      done.set p.1 (if (wordLists name).contains p.1 then
        Text.join [' '] (Text.blankWords p.2) else p.2)) done).map (·.1) ↔
          n ∈ attrs.map (·.1) ∨ n ∈ done.map (·.1) := by
    induction attrs generalizing done with
    | nil => simp
    | cons a rest ih =>
      rw [List.foldl_cons, ih, mem_names_set, List.map_cons, List.mem_cons]
      exact or_left_comm.trans (or_assoc.symm)
  exact (hfold []).trans (or_iff_left List.not_mem_nil)

/-- An attribute can be looked up if its name is there. -/
theorem isSome_get?_iff {attrs : Attributes} {name : Text} :
    (attrs.get? name).isSome ↔ name ∈ attrs.map (·.1) := by
  rw [Attributes.get?, Option.isSome_map, List.find?_isSome]
  simp only [beq_iff_eq, List.mem_map]

/-! ## Reading tags -/

/-- What the pattern for names finds is a name, also in small letters. -/
theorem isName_of_attributeName {s e : Place} (h : attributeName.after? s = some e) :
    IsName (Text.lower (s.upTo e)) := by
  have hleads := leads_of_after? h
  cases hleads with
  | seq hfirst hmore =>
    cases hfirst with
    | seq hbefore hone =>
      cases hbefore
      obtain ⟨t, ht, hall⟩ := hmore.run_of_one
      cases hone with
      | @one test before c rest hc =>
        have hname : Place.upTo ⟨before, c :: rest⟩ e = c :: t :=
          Place.upTo_of_append (congrArg (List.cons c) ht)
        rw [hname]
        have hnone : '=' ∉ t := fun hm => by simpa using hall '=' hm
        obtain ⟨hne, htail⟩ := Text.equals_notMem_tail_lower hnone
        exact ⟨hne, htail⟩

/-- The attributes read in a tag have names. -/
theorem isName_of_attributesFrom {stop : Place} {fuel : Nat} {s : Place} :
    ∀ p ∈ (attributesFrom stop fuel s).1, IsName p.1 := by
  induction fuel generalizing s with
  | zero => exact fun p hp => absurd hp List.not_mem_nil
  | succ fuel ih =>
    intro p hp
    rw [attributesFrom] at hp
    split at hp
    · exact absurd hp List.not_mem_nil
    · split at hp
      · exact absurd hp List.not_mem_nil
      · next hname =>
        dsimp only at hp
        rcases List.mem_cons.1 hp with rfl | hp
        · exact isName_of_attributeName hname
        · exact ih p hp

/-- A piece of a page whose attributes, if it has any, have names. -/
def Markup.IsProper : Markup → Prop
  | .opening _ attrs _ => ∀ p ∈ attrs, IsName p.1
  | _ => True

/-- The piece of an opening tag is proper. -/
theorem isProper_of_openingTag? {s : Place} {r : Reading} (h : openingTag? s = some r) :
    ∀ m ∈ r.pieces, m.IsProper := by
  unfold openingTag? at h
  obtain ⟨stop, -, rfl⟩ := Option.map_eq_some_iff.1 h
  dsimp only
  intro m hm
  split at hm
  · rw [List.mem_singleton.1 hm]
    exact isName_of_attributesFrom
  · split at hm
    · rw [List.mem_singleton.1 hm]
      exact isName_of_attributesFrom
    · rw [List.mem_singleton.1 hm]
      trivial

/-! ## Reading a page

Only the reader of opening tags makes pieces with attributes. -/

/-- A reading of one proper piece has proper pieces. -/
theorem isProper_of_mem_singleton {m piece : Markup} (hm : m ∈ [piece]) (hpiece : piece.IsProper) :
    m.IsProper := List.mem_singleton.1 hm ▸ hpiece

/-- What is read up to a bracket is proper. -/
theorem isProper_of_upToBracket? {make : Text → Markup} {skip : Nat} {s : Place} {r : Reading}
    (h : upToBracket? make skip s = some r) (hmake : ∀ t, (make t).IsProper) :
    ∀ m ∈ r.pieces, m.IsProper := by
  unfold upToBracket? at h
  obtain ⟨e, -, rfl⟩ := Option.map_eq_some_iff.1 h
  exact fun m hm => isProper_of_mem_singleton hm (hmake _)

/-- A closing tag is proper, having no attributes. -/
theorem isProper_of_closingTag? {verbatim : Option Text} {s : Place} {r : Reading}
    (h : closingTag? verbatim s = some r) : ∀ m ∈ r.pieces, m.IsProper := by
  unfold closingTag? at h
  split at h
  · cases h
    exact fun m hm => isProper_of_mem_singleton hm trivial
  · split at h
    · obtain ⟨e, -, rfl⟩ := Option.map_eq_some_iff.1 h
      exact fun m hm => isProper_of_mem_singleton hm trivial
    · split at h
      · obtain ⟨e, -, rfl⟩ := Option.map_eq_some_iff.1 h
        exact fun m hm => isProper_of_mem_singleton hm trivial
      · split at h
        · cases h
          exact List.forall_mem_nil _
        · exact isProper_of_upToBracket? h fun _ => trivial

/-- A marked section is proper, having no attributes. -/
theorem isProper_of_markedSection? {s : Place} {r : Reading}
    (h : markedSection? s = .ok (some r)) : ∀ m ∈ r.pieces, m.IsProper := by
  unfold markedSection? at h
  dsimp only at h
  split at h
  · split at h
    · cases h
    · split at h
      · cases h
      · obtain ⟨⟨b, e⟩, -, rfl⟩ := Option.map_eq_some_iff.1 (Except.ok.inj h)
        refine fun m hm => isProper_of_mem_singleton hm ?_
        split
        · trivial
        · trivial
  · split at h
    · cases h
    · cases h

/-- A declaration is proper, having no attributes. -/
theorem isProper_of_declaration? {s : Place} {r : Reading}
    (h : declaration? s = .ok (some r)) : ∀ m ∈ r.pieces, m.IsProper := by
  unfold declaration? at h
  split at h
  · obtain ⟨⟨b, e⟩, -, rfl⟩ := Option.map_eq_some_iff.1 (Except.ok.inj h)
    exact fun m hm => isProper_of_mem_singleton hm trivial
  · split at h
    · exact isProper_of_markedSection? h
    · split at h
      · obtain ⟨e, -, rfl⟩ := Option.map_eq_some_iff.1 (Except.ok.inj h)
        exact fun m hm => isProper_of_mem_singleton hm trivial
      · exact isProper_of_upToBracket? (Except.ok.inj h) fun _ => trivial

/-- Whatever begins with a bracket is proper. -/
theorem isProper_of_tag? {verbatim : Option Text} {s : Place} {r : Reading}
    (h : tag? verbatim s = .ok (some r)) : ∀ m ∈ r.pieces, m.IsProper := by
  unfold tag? at h
  split at h
  · exact isProper_of_closingTag? (Except.ok.inj h)
  · exact isProper_of_upToBracket? (Except.ok.inj h) fun _ => trivial
  · exact isProper_of_declaration? h
  · have h := Except.ok.inj h
    split at h
    · exact isProper_of_openingTag? h
    · cases h
      exact fun m hm => isProper_of_mem_singleton hm trivial
  · cases h

/-- A named reference is proper, being text. -/
theorem isProper_of_named? {s : Place} {r : Reading} (h : named? s = some r) :
    ∀ m ∈ r.pieces, m.IsProper := by
  unfold named? at h
  dsimp only at h
  split at h
  · cases h
    exact fun m hm => isProper_of_mem_singleton hm trivial
  · cases h

/-- A numbered reference is proper, being text. -/
theorem isProper_of_numbered? {s : Place} {r : Reading} (h : numbered? s = some r) :
    ∀ m ∈ r.pieces, m.IsProper := by
  have hsome {t : Text} {e : Place} (h : some (⟨[.text t], none, e⟩ : Reading) = some r) :
      ∀ m ∈ r.pieces, m.IsProper := by
    cases h
    exact fun m hm => isProper_of_mem_singleton hm trivial
  unfold numbered? at h
  dsimp only at h
  split at h
  · split at h
    · cases h
    · split at h
      · cases h
      · exact hsome h
  · split at h
    · split at h
      · split at h
        · cases h
        · split at h
          · cases h
          · exact hsome h
      · cases h
    · cases h

/-- What a reference gives, or what reading stops with, has no attributes. -/
theorem isProper_of_reference (final : Bool) (s : Place) :
    ∀ m ∈ ((reference final s).elim id id).pieces, m.IsProper := by
  have hnone : ∀ m ∈ ([] : List Markup), m.IsProper := List.forall_mem_nil _
  have htext (t : Text) : ∀ m ∈ [Markup.text t], m.IsProper :=
    fun _ hm => isProper_of_mem_singleton hm trivial
  unfold reference
  split
  · split
    · next hnumbered => exact isProper_of_numbered? hnumbered
    · split
      · exact htext _
      · exact hnone
  · split
    · next hnamed => exact isProper_of_named? hnamed
    · split
      · exact hnone
      · split
        · exact htext _
        · split
          · exact hnone
          · exact hnone

/-- All pieces that are read are proper. -/
theorem isProper_of_readFrom {final : Bool} {fuel : Nat} {verbatim : Option Text} {s : Place}
    {r : Reading} (h : readFrom final fuel verbatim s = .ok r) : ∀ m ∈ r.pieces, m.IsProper := by
  induction fuel generalizing verbatim s r with
  | zero =>
    cases h
    exact List.forall_mem_nil _
  | succ fuel ih =>
    rw [readFrom] at h
    split at h
    · cases h
      exact List.forall_mem_nil _
    · next start _ =>
      have hbefore : ∀ m ∈ (if start.rest.length < s.rest.length then [Markup.text (s.upTo start)]
          else []), m.IsProper := by
        intro m hm
        split at hm
        · exact isProper_of_mem_singleton hm trivial
        · exact absurd hm List.not_mem_nil
      -- However a turn ends, what is read in it comes between the text before and what is read
      -- after it.
      have hgoOn {piece : Reading} (hpiece : ∀ m ∈ piece.pieces, m.IsProper)
          (h : (readFrom final fuel piece.verbatim piece.next).map (fun last => { last with
            pieces := (if start.rest.length < s.rest.length then [Markup.text (s.upTo start)]
              else []) ++ piece.pieces ++ last.pieces }) = .ok r) :
          ∀ m ∈ r.pieces, m.IsProper := by
        cases hlast : readFrom final fuel piece.verbatim piece.next with
        | error e => rw [hlast] at h; cases h
        | ok last =>
          rw [hlast] at h
          cases h
          exact List.forall_mem_append.2
            ⟨List.forall_mem_append.2 ⟨hbefore, hpiece⟩, ih hlast⟩
      dsimp only at h
      split at h
      · cases h
        exact hbefore
      · split at h
        · cases h
          exact hbefore
        · split at h
          · cases h
          · next htag => exact hgoOn (isProper_of_tag? htag) h
          · split at h
            · refine hgoOn (fun m hm => ?_) h
              exact isProper_of_mem_singleton hm trivial
            · cases h
              exact hbefore
      · have hreference := isProper_of_reference final start
        split at h
        · next hgiven =>
          rw [hgiven] at hreference
          exact hgoOn hreference h
        · next hstopped =>
          rw [hstopped] at hreference
          cases h
          exact List.forall_mem_append.2 ⟨hbefore, hreference⟩

/-- All attributes of a page have names. -/
theorem isProper_of_markup {t : Text} {pieces : List Markup} (h : markup t = .ok pieces) :
    ∀ m ∈ pieces, m.IsProper := by
  unfold markup at h
  simp only [bind, Except.bind] at h
  split at h
  · cases h
  · next first hfirst =>
    split at h
    · cases h
    · next second hsecond =>
      cases h
      refine List.forall_mem_append.2 ⟨List.forall_mem_append.2
        ⟨isProper_of_readFrom hfirst, isProper_of_readFrom hsecond⟩, ?_⟩
      split
      · exact fun _ hm => isProper_of_mem_singleton hm trivial
      · exact List.forall_mem_nil _

/-! ## Building a page -/

mutual

/-- All elements in a node have proper attributes. -/
def Node.IsProper : Node → Prop
  | .leaf _ _ => True
  | .element _ attrs children => AreProper attrs ∧ NodesAreProper children

/-- All elements in the nodes have proper attributes. -/
def NodesAreProper : List Node → Prop
  | [] => True
  | n :: rest => n.IsProper ∧ NodesAreProper rest

end

/-- `NodesAreProper` in the natural form. -/
theorem nodesAreProper_iff (nodes : List Node) : NodesAreProper nodes ↔ ∀ n ∈ nodes, n.IsProper := by
  induction nodes with
  | nil => simp [NodesAreProper]
  | cons n rest ih => simp [NodesAreProper, ih]

/-- Nodes in another order stay proper. -/
theorem nodesAreProper_reverse {nodes : List Node} (h : NodesAreProper nodes) :
    NodesAreProper nodes.reverse := by
  rw [nodesAreProper_iff] at h ⊢
  exact fun n hn => h n (List.mem_reverse.1 hn)

namespace Builder

/-- All attributes of what has been built are proper. -/
structure IsProper (b : Builder) : Prop where
  nodes : NodesAreProper b.nodes
  stack : ∀ e ∈ b.stack, AreProper e.attrs ∧ NodesAreProper e.children

/-- A proper node keeps what has been built proper. -/
theorem IsProper.put {b : Builder} (h : b.IsProper) {n : Node} (hn : n.IsProper) :
    (b.put n).IsProper := by
  unfold Builder.put
  split
  · exact ⟨⟨hn, h.nodes⟩, h.stack⟩
  · next e outer hstack =>
    refine ⟨h.nodes, fun e' he' => ?_⟩
    have hold := h.stack
    rw [hstack] at hold
    rcases List.mem_cons.1 he' with rfl | he'
    · obtain ⟨hattrs, hchildren⟩ := hold e List.mem_cons_self
      exact ⟨hattrs, hn, hchildren⟩
    · exact hold e' (List.mem_cons_of_mem _ he')

/-- Text keeps what has been built proper. -/
theorem IsProper.flush {b : Builder} (h : b.IsProper) (kind : Leaf) : (b.flush kind).IsProper := by
  unfold Builder.flush
  split
  · exact h
  · have hrest : IsProper { b with pending := [] } := ⟨h.nodes, h.stack⟩
    exact hrest.put trivial

/-- Closing an element keeps what has been built proper. -/
theorem IsProper.pop {b : Builder} (h : b.IsProper) : b.pop.IsProper := by
  unfold Builder.pop
  split
  · exact h
  · next e outer hstack =>
    have hold := h.stack
    rw [hstack] at hold
    obtain ⟨hattrs, hchildren⟩ := hold e List.mem_cons_self
    have hrest : IsProper { b with stack := outer } :=
      ⟨h.nodes, fun e' he' => hold e' (List.mem_cons_of_mem _ he')⟩
    exact hrest.put ⟨hattrs, nodesAreProper_reverse hchildren⟩

/-- Closing elements keeps what has been built proper. -/
theorem IsProper.popTimes {b : Builder} (h : b.IsProper) (n : Nat) : (b.popTimes n).IsProper := by
  induction n generalizing b with
  | zero => exact h
  | succ n ih => exact ih h.pop

/-- A closing tag keeps what has been built proper. -/
theorem IsProper.close {b : Builder} (h : b.IsProper) (name : Text) : (b.close name).IsProper := by
  unfold Builder.close
  dsimp only
  split
  · exact h.flush .text
  · exact (h.flush .text).popTimes _

/-- Text that is no running text keeps what has been built proper. -/
theorem IsProper.special {b : Builder} (h : b.IsProper) (kind : Leaf) (t : Text) :
    (b.special kind t).IsProper := by
  have hpending : IsProper { b.flush with pending := [t] } :=
    ⟨(h.flush .text).nodes, (h.flush .text).stack⟩
  exact hpending.flush kind

/-- Adding a piece keeps what has been built proper. -/
theorem IsProper.add {b : Builder} (h : b.IsProper) {m : Markup} (hm : m.IsProper) :
    (b.add m).IsProper := by
  cases m with
  | text t => exact ⟨h.nodes, h.stack⟩
  | opening name attrs closed =>
    have hflush := h.flush .text
    have hopen : IsProper { b.flush with stack := ⟨name, tagAttributes name attrs, []⟩ ::
        b.flush.stack } := by
      refine ⟨hflush.nodes, fun e he => ?_⟩
      rcases List.mem_cons.1 he with rfl | he
      · exact ⟨areProper_tagAttributes name hm, trivial⟩
      · exact hflush.stack e he
    unfold Builder.add
    dsimp only
    split
    · exact hopen.close name
    · split
      · exact ⟨(hopen.close name).nodes, (hopen.close name).stack⟩
      · exact hopen
  | closing name =>
    unfold Builder.add Builder.closingTag
    dsimp only
    split
    · exact ⟨h.nodes, h.stack⟩
    · exact h.close name
  | comment t => exact h.special .comment t
  | doctype t => exact h.special .doctype t
  | instruction t => exact h.special .instruction t
  | «section» t => exact h.special .section t
  | declaration t => exact h.special .declaration t

/-- Pieces keep what has been built proper. -/
theorem IsProper.foldl_add {b : Builder} (h : b.IsProper) {pieces : List Markup}
    (hpieces : ∀ m ∈ pieces, m.IsProper) : (pieces.foldl Builder.add b).IsProper := by
  induction pieces generalizing b with
  | nil => exact h
  | cons m rest ih =>
    exact ih (h.add (hpieces m List.mem_cons_self)) fun m hm => hpieces m (List.mem_cons_of_mem _ hm)

/-- What is finished is proper. -/
theorem IsProper.finish {b : Builder} (h : b.IsProper) : NodesAreProper b.finish :=
  nodesAreProper_reverse ((h.flush .text).popTimes _).nodes

end Builder

/-- The elements of a page have proper attributes. -/
theorem areProper_of_pageNodes {t : Text} {nodes : List Node} (h : pageNodes t = .ok nodes) :
    NodesAreProper nodes := by
  unfold pageNodes at h
  cases hpieces : markup t with
  | error e => rw [hpieces] at h; cases h
  | ok pieces =>
    rw [hpieces] at h
    cases h
    have hempty : Builder.IsProper {} := ⟨trivial, fun e he => absurd he List.not_mem_nil⟩
    exact (hempty.foldl_add (isProper_of_markup hpieces)).finish

end LiveMarkdown.Html
