import LiveMarkdown.Proofs.Html.Events
import LiveMarkdown.Proofs.Html.Names
import LiveMarkdown.Proofs.Html.Tagged

/-!
# Pages in document order

`nodesParts` lists the elements and leaves of nodes as they begin, which is the order of the tags: it
is what happens in them without the ends of the elements. While a page is built, a piece of the page
can only add to the end of this list (`parts_add`). The elements of a page are therefore those that its
tags open, whichever of them are ever closed (`tagsOf_pageNodes`).
-/

namespace LiveMarkdown.Html

/-- What begins in a page: an element, or a leaf. -/
inductive Part where
  | tag (name : Text) (attrs : Attributes)
  | leaf (kind : Leaf)
  deriving DecidableEq

mutual

/-- A node and what is in it, as they begin. -/
def nodeParts : Node → List Part
  | .leaf kind _ => [.leaf kind]
  | .element name attrs children => .tag name attrs :: nodesParts children

/-- Nodes and what is in them, as they begin. -/
def nodesParts : List Node → List Part
  | [] => []
  | n :: rest => nodeParts n ++ nodesParts rest

end

/-- What begins with an event, if anything does. -/
def Event.part? : Event → Option Part
  | .opens name attrs => some (.tag name attrs)
  | .leaf kind _ => some (.leaf kind)
  | .closes => none

mutual

/-- A node begins with the events that begin something. -/
theorem nodeParts_eq : ∀ (n : Node), nodeParts n = (nodeEvents n).filterMap Event.part?
  | .leaf _ _ => rfl
  | .element name attrs children => by
    rw [nodeParts, nodesParts_eq children, nodeEvents, List.filterMap_cons, List.filterMap_append]
    exact congrArg (List.cons _) (List.append_nil _).symm

/-- Nodes begin with the events that begin something. -/
theorem nodesParts_eq : ∀ (nodes : List Node),
    nodesParts nodes = (nodesEvents nodes).filterMap Event.part?
  | [] => rfl
  | n :: rest => by rw [nodesParts, nodeParts_eq n, nodesParts_eq rest, nodesEvents, List.filterMap_append]

end

/-- Running text, or text that is not shown where it stands. -/
def Leaf.IsRunning (kind : Leaf) : Prop := kind = .text ∨ kind = .aside

/-- The elements among the parts. -/
def tagsOf (parts : List Part) : List (Text × Attributes) :=
  parts.filterMap fun part => match part with
    | .tag name attrs => some (name, attrs)
    | .leaf _ => none

/-- The tags of parts come one after the other. -/
theorem tagsOf_append (parts more : List Part) :
    tagsOf (parts ++ more) = tagsOf parts ++ tagsOf more := List.filterMap_append

/-- Leaves are no tags. -/
theorem tagsOf_map_leaf (kinds : List Leaf) : tagsOf (kinds.map Part.leaf) = [] := by
  induction kinds with
  | nil => rfl
  | cons kind rest ih => exact ih

/-! ## While a page is built -/

namespace Builder

/-- The elements and leaves so far, as they began. -/
def parts (b : Builder) : List Part := b.events.filterMap Event.part?

/-- A finished node adds its parts. -/
theorem parts_put (b : Builder) (n : Node) : (b.put n).parts = b.parts ++ nodeParts n := by
  rw [parts, events_put, List.filterMap_append, nodeParts_eq]
  rfl

/-- An element that is closed stays where it began. -/
theorem parts_pop (b : Builder) : b.pop.parts = b.parts := by
  by_cases h : b.names = []
  · rw [pop, List.map_eq_nil_iff.1 h]
  · rw [parts, events_pop b h, List.filterMap_append]
    exact List.append_nil _

/-- Closing elements adds no parts. -/
theorem parts_popTimes (b : Builder) (n : Nat) : (b.popTimes n).parts = b.parts := by
  induction n generalizing b with
  | zero => rfl
  | succ n ih => exact (ih b.pop).trans b.parts_pop

/-- Text becomes at most one leaf. -/
theorem parts_flush (b : Builder) (kind : Leaf) : ∃ kinds : List Leaf,
    (b.flush kind).parts = b.parts ++ kinds.map .leaf ∧
      (kind = .text → ∀ k ∈ kinds, k.IsRunning) := by
  unfold Builder.flush
  split
  · exact ⟨[], (List.append_nil _).symm, fun _ => nofun⟩
  · refine ⟨[if kind = .text && b.within asideNames then .aside else kind], parts_put _ _,
      fun hkind k hk => ?_⟩
    rw [List.mem_singleton.1 hk, hkind]
    split
    · exact .inr rfl
    · exact .inl rfl

/-- A closing tag adds running text at most. -/
theorem parts_close (b : Builder) (name : Text) : ∃ kinds : List Leaf,
    (b.close name).parts = b.parts ++ kinds.map .leaf ∧ ∀ k ∈ kinds, k.IsRunning := by
  obtain ⟨kinds, hparts, hkinds⟩ := b.parts_flush .text
  refine ⟨kinds, ?_, hkinds rfl⟩
  unfold Builder.close
  dsimp only
  split
  · exact hparts
  · rw [parts_popTimes, hparts]

/-- Text that is no running text adds leaves at most. -/
theorem parts_special (b : Builder) (kind : Leaf) (t : Text) : ∃ kinds : List Leaf,
    (b.special kind t).parts = b.parts ++ kinds.map .leaf := by
  obtain ⟨before, hbefore, -⟩ := b.parts_flush .text
  obtain ⟨kinds, hparts, -⟩ := ({ b.flush with pending := [t] } : Builder).parts_flush kind
  refine ⟨before ++ kinds, ?_⟩
  rw [special, hparts, List.map_append, ← List.append_assoc, ← hbefore]
  rfl

/-- A piece adds its element, if it opens one, and leaves before and after it. -/
theorem parts_add (b : Builder) (m : Markup) : ∃ before after : List Leaf,
    (b.add m).parts = b.parts ++ before.map .leaf ++
        (openings [m]).map (fun (name, attrs) => .tag name (tagAttributes name attrs)) ++
        after.map .leaf ∧
      (m.IsRunning → ∀ k ∈ before ++ after, k.IsRunning) := by
  have hleaves {b' : Builder} {kinds : List Leaf} (h : b'.parts = b.parts ++ kinds.map .leaf) :
      b'.parts = b.parts ++ kinds.map .leaf ++ [] ++ ([] : List Leaf).map .leaf := by
    rw [h, List.map_nil, List.append_nil, List.append_nil]
  cases m with
  | text t => exact ⟨[], [], hleaves (List.append_nil _).symm, fun _ => nofun⟩
  | opening name attrs closed =>
    obtain ⟨before, hbefore, hkinds⟩ := b.parts_flush .text
    -- An element that is closed at once leaves what its end adds behind it; else there is nothing
    -- behind.
    let opened : Builder := b.flush.push name (tagAttributes name attrs)
    have hopened : opened.parts = b.parts ++ before.map .leaf ++
        [.tag name (tagAttributes name attrs)] := by
      rw [← hbefore, parts, parts, events_push, List.filterMap_append]
      rfl
    obtain ⟨after, hafter, hkinds'⟩ := opened.parts_close name
    have hboth (k : Leaf) (hk : k ∈ before ++ after) : k.IsRunning :=
      (List.mem_append.1 hk).elim (hkinds rfl k) (hkinds' k)
    rw [add_opening]
    dsimp only
    split
    · exact ⟨before, after, hopened ▸ hafter, fun _ => hboth⟩
    · split
      · exact ⟨before, after, hopened ▸ hafter, fun _ => hboth⟩
      · refine ⟨before, [], hopened.trans (List.append_nil _).symm, fun _ k hk => ?_⟩
        rw [List.append_nil] at hk
        exact hkinds rfl k hk
  | closing name =>
    unfold Builder.add closingTag
    dsimp only
    split
    · exact ⟨[], [], hleaves (List.append_nil _).symm, fun _ => nofun⟩
    · obtain ⟨kinds, hparts, hkinds⟩ := b.parts_close name
      refine ⟨kinds, [], hleaves hparts, fun _ k hk => ?_⟩
      rw [List.append_nil] at hk
      exact hkinds k hk
  | comment t =>
    obtain ⟨kinds, hparts⟩ := b.parts_special .comment t
    exact ⟨kinds, [], hleaves hparts, nofun⟩
  | doctype t =>
    obtain ⟨kinds, hparts⟩ := b.parts_special .doctype t
    exact ⟨kinds, [], hleaves hparts, nofun⟩
  | instruction t =>
    obtain ⟨kinds, hparts⟩ := b.parts_special .instruction t
    exact ⟨kinds, [], hleaves hparts, nofun⟩
  | «section» t =>
    obtain ⟨kinds, hparts⟩ := b.parts_special .section t
    exact ⟨kinds, [], hleaves hparts, nofun⟩
  | declaration t =>
    obtain ⟨kinds, hparts⟩ := b.parts_special .declaration t
    exact ⟨kinds, [], hleaves hparts, nofun⟩

/-- The elements after all pieces of a page. -/
theorem tagsOf_foldl_add (b : Builder) (pieces : List Markup) :
    tagsOf (pieces.foldl add b).parts = tagsOf b.parts ++
      (openings pieces).map fun (name, attrs) => (name, tagAttributes name attrs) := by
  induction pieces generalizing b with
  | nil => exact (List.append_nil _).symm
  | cons m rest ih =>
    obtain ⟨before, after, hparts, -⟩ := b.parts_add m
    have htag : tagsOf ((openings [m]).map fun (name, attrs) =>
        Part.tag name (tagAttributes name attrs)) =
          (openings [m]).map fun (name, attrs) => (name, tagAttributes name attrs) := by
      cases m <;> rfl
    have hcons : openings (m :: rest) = openings [m] ++ openings rest := openings_append [m] rest
    rw [List.foldl_cons, ih, hparts, tagsOf_append, tagsOf_append, tagsOf_append, tagsOf_map_leaf,
      tagsOf_map_leaf, htag, hcons, List.map_append, List.append_nil, List.append_nil,
      List.append_assoc]

/-- Text and tags make no leaves but text. -/
theorem isRunning_foldl_add {b : Builder} (h : ∀ k, .leaf k ∈ b.parts → k.IsRunning)
    {pieces : List Markup} (hpieces : ∀ m ∈ pieces, m.IsRunning) :
    ∀ k, .leaf k ∈ (pieces.foldl add b).parts → k.IsRunning := by
  induction pieces generalizing b with
  | nil => exact h
  | cons m rest ih =>
    refine ih (fun k hk => ?_) fun m hm => hpieces m (List.mem_cons_of_mem _ hm)
    obtain ⟨before, after, hparts, hkinds⟩ := b.parts_add m
    have hkinds := hkinds (hpieces m List.mem_cons_self)
    have hleaf {kinds : List Leaf} (hk : Part.leaf k ∈ kinds.map Part.leaf) : k ∈ kinds := by
      obtain ⟨k', hk', heq⟩ := List.mem_map.1 hk
      exact Part.leaf.inj heq ▸ hk'
    rw [hparts] at hk
    rcases List.mem_append.1 hk with hk | hk
    · rcases List.mem_append.1 hk with hk | hk
      · rcases List.mem_append.1 hk with hk | hk
        · exact h k hk
        · exact hkinds k (List.mem_append_left _ (hleaf hk))
      · obtain ⟨tag, -, heq⟩ := List.mem_map.1 hk
        cases heq
    · exact hkinds k (List.mem_append_right _ (hleaf hk))

/-- Nothing is lost when the page is finished. -/
theorem parts_finish (b : Builder) : nodesParts b.finish = b.flush.parts := by
  have hcloses (n : Nat) : (List.replicate n Event.closes).filterMap Event.part? = [] := by
    induction n with
    | zero => rfl
    | succ n ih => exact ih
  rw [nodesParts_eq, events_finish, List.filterMap_append, hcloses, List.append_nil, parts, events_flush]

end Builder

/-! ## Whole pages -/

/-- The elements of a page are those that its tags open, in order. -/
theorem tagsOf_pageNodes {t : Text} {pieces : List Markup} (h : markup t = .ok pieces) :
    ∃ nodes, pageNodes t = .ok nodes ∧ tagsOf (nodesParts nodes) =
      (openings pieces).map (fun (name, attrs) => (name, tagAttributes name attrs)) ∧
      ((∀ m ∈ pieces, m.IsRunning) → ∀ k, .leaf k ∈ nodesParts nodes → k.IsRunning) := by
  obtain ⟨kinds, hparts, hkinds⟩ := (pieces.foldl Builder.add {}).parts_flush .text
  refine ⟨_, by rw [pageNodes, h]; rfl, ?_, fun hpieces k hk => ?_⟩
  · rw [Builder.parts_finish, hparts, tagsOf_append, tagsOf_map_leaf, List.append_nil,
      Builder.tagsOf_foldl_add]
    rfl
  · rw [Builder.parts_finish, hparts] at hk
    rcases List.mem_append.1 hk with hk | hk
    · exact Builder.isRunning_foldl_add (fun k hk => absurd hk List.not_mem_nil) hpieces k hk
    · obtain ⟨k', hk', heq⟩ := List.mem_map.1 hk
      exact Part.leaf.inj heq ▸ hkinds rfl k' hk'

/-- The page of a text with whole tags. -/
theorem pageNodes_of_tagged {t : Text} {tags : List (Text × Attributes)} (h : Tagged t tags) :
    ∃ nodes, pageNodes t = .ok nodes ∧
      tagsOf (nodesParts nodes) = tags.map (fun (name, attrs) => (name, tagAttributes name attrs)) ∧
      ∀ k, .leaf k ∈ nodesParts nodes → k.IsRunning := by
  obtain ⟨pieces, hpieces, htags, hrunning⟩ := markup_of_tagged h
  obtain ⟨nodes, hnodes, helements, hleaves⟩ := tagsOf_pageNodes hpieces
  exact ⟨nodes, hnodes, htags ▸ helements, hleaves hrunning⟩

end LiveMarkdown.Html
