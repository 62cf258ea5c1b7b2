import LiveMarkdown.Proofs.Html.Spelled

/-!
# Pages from their beginning to their end

A page is a tree, and what is read is a sequence. `nodesEvents` tells the nodes from their beginning to
their end: elements begin, leaves stand between, elements end. A page that is being built has such
events, too, in which the open elements have begun and not ended, and whatever is done with it only
adds events (`exists_events_foldl_add`). What has happened in a page therefore never changes, however
the page goes on.

Which events a piece adds depends on the text that is held back and on the names of the open elements
(`held`, `names`), but not on what is in those elements. Pieces that differ only in how characters are
joined make the same page (`Joined.finish_eq`).
-/

namespace LiveMarkdown.Html

/-- What happens in a page. -/
inductive Event where
  | opens (name : Text) (attrs : Attributes)
  | leaf (kind : Leaf) (content : Text)
  /-- The innermost open element ends. -/
  | closes

mutual

/-- A node from its beginning to its end. -/
def nodeEvents : Node → List Event
  | .leaf kind t => [.leaf kind t]
  | .element name attrs children => .opens name attrs :: (nodesEvents children ++ [.closes])

/-- Nodes from their beginning to their end. -/
def nodesEvents : List Node → List Event
  | [] => []
  | n :: rest => nodeEvents n ++ nodesEvents rest

end

/-- The events of nodes come one after the other. -/
theorem nodesEvents_append (ms ns : List Node) :
    nodesEvents (ms ++ ns) = nodesEvents ms ++ nodesEvents ns := by
  induction ms with
  | nil => rfl
  | cons m rest ih =>
    rw [List.cons_append, nodesEvents, ih, nodesEvents, List.append_assoc]

/-- A node that comes last, in a list kept in reverse, has its events last. -/
theorem nodesEvents_reverse_cons (n : Node) (nodes : List Node) :
    nodesEvents (n :: nodes).reverse = nodesEvents nodes.reverse ++ nodeEvents n := by
  rw [List.reverse_cons, nodesEvents_append, nodesEvents, nodesEvents, List.append_nil]

/-- An open element and what is in it so far. -/
def OpenElement.events (e : OpenElement) : List Event :=
  .opens e.name e.attrs :: nodesEvents e.children.reverse

/-- Open elements, innermost first, with what is in them so far, as they began. -/
def stackEvents (stack : List OpenElement) : List Event :=
  stack.reverse.flatMap OpenElement.events

/-- The innermost open element began last. -/
theorem stackEvents_cons (e : OpenElement) (outer : List OpenElement) :
    stackEvents (e :: outer) = stackEvents outer ++ e.events := by
  rw [stackEvents, List.reverse_cons, List.flatMap_append, List.flatMap_singleton, stackEvents]

/-- How many of the open elements a closing tag closes, if it is read at all. -/
def closedBy (name : Text) (names : List Text) : Nat := (names.findIdx? (· = name)).elim 0 (· + 1)

/-- A closing tag closes no more than the open elements. -/
theorem closedBy_le (name : Text) (names : List Text) : closedBy name names ≤ names.length := by
  unfold closedBy
  cases hidx : names.findIdx? (· = name) with
  | none => exact Nat.zero_le _
  | some i => exact (List.findIdx?_eq_some_iff_getElem.1 hidx).1

/-- A closing tag for the innermost open element closes it alone. -/
theorem closedBy_cons_self (name : Text) (names : List Text) : closedBy name (name :: names) = 1 := by
  rw [closedBy, List.findIdx?_cons, if_pos (by simp)]
  rfl

namespace Builder

/-- What has happened in the page so far. -/
def events (b : Builder) : List Event := nodesEvents b.nodes.reverse ++ stackEvents b.stack

/-- The names of the open elements, innermost first. -/
def names (b : Builder) : List Text := b.stack.map (·.name)

/-- The event of the text since the last other node, if there is any. -/
def held (b : Builder) (kind : Leaf) : List Event :=
  if b.pending.isEmpty then []
  else
    let t := b.pending.reverse.flatten
    [.leaf (if kind = .text && b.within asideNames then .aside else kind)
      (if b.within spacedNames then t else joinSpace t)]

variable (b : Builder)

/-! ## One step -/

/-- A finished node adds its events. -/
theorem events_put (n : Node) : (b.put n).events = b.events ++ nodeEvents n := by
  unfold put events
  split
  · next hstack =>
    have hnone : stackEvents [] = [] := rfl
    rw [hstack, hnone, List.append_nil, List.append_nil]
    exact nodesEvents_reverse_cons n b.nodes
  · next e outer hstack =>
    have helement : OpenElement.events { e with children := n :: e.children } =
        e.events ++ nodeEvents n := by
      rw [OpenElement.events, nodesEvents_reverse_cons]
      rfl
    rw [hstack, stackEvents_cons, stackEvents_cons, helement]
    simp only [List.append_assoc]

/-- A finished node opens and closes nothing. -/
@[simp] theorem names_put (n : Node) : (b.put n).names = b.names := by
  unfold put names
  split
  · rfl
  · next hstack => rw [hstack]; rfl

/-- A finished node holds back no text. -/
@[simp] theorem pending_put (n : Node) : (b.put n).pending = b.pending := by
  unfold put
  split <;> rfl

/-- A finished node leaves the same closing tags to come. -/
@[simp] theorem closed_put (n : Node) : (b.put n).closed = b.closed := by
  unfold put
  split <;> rfl

/-- The text that is held back is added as one event. -/
theorem events_flush (kind : Leaf) : (b.flush kind).events = b.events ++ b.held kind := by
  unfold flush held
  split
  · exact (List.append_nil _).symm
  · exact events_put _ _

/-- Text opens and closes nothing. -/
@[simp] theorem names_flush (kind : Leaf) : (b.flush kind).names = b.names := by
  unfold flush
  split
  · rfl
  · exact names_put _ _

/-- No text is held back after it has been added. -/
@[simp] theorem pending_flush (kind : Leaf) : (b.flush kind).pending = [] := by
  unfold flush
  split
  · next hempty => exact List.isEmpty_iff.1 hempty
  · exact pending_put _ _

/-- Text leaves the same closing tags to come. -/
@[simp] theorem closed_flush (kind : Leaf) : (b.flush kind).closed = b.closed := by
  unfold flush
  split
  · rfl
  · exact closed_put _ _

/-- The page with one more open element. -/
def push (name : Text) (attrs : Attributes) : Builder :=
  { b with stack := { name, attrs } :: b.stack }

/-- An element that is opened adds one event. -/
theorem events_push (name : Text) (attrs : Attributes) :
    (b.push name attrs).events = b.events ++ [.opens name attrs] := by
  rw [events, events, push, stackEvents_cons, ← List.append_assoc]
  rfl

/-- An element that is closed adds one event, if one was open. -/
theorem events_pop (h : b.names ≠ []) : b.pop.events = b.events ++ [.closes] := by
  unfold pop
  split
  · next hstack =>
    rw [names, hstack] at h
    exact absurd rfl h
  · next e outer hstack =>
    rw [events_put, nodeEvents, events, events, hstack, stackEvents_cons]
    simp only [OpenElement.events, List.append_assoc, List.cons_append]

/-- Closing an element takes the innermost name. -/
@[simp] theorem names_pop : b.pop.names = b.names.tail := by
  unfold pop
  split
  · next hstack => rw [names, hstack]; rfl
  · next hstack => rw [names_put, names, names, hstack]; rfl

/-- Closing an element holds back no text. -/
@[simp] theorem pending_pop : b.pop.pending = b.pending := by
  unfold pop
  split
  · rfl
  · exact pending_put _ _

/-- Closing an element leaves the same closing tags to come. -/
@[simp] theorem closed_pop : b.pop.closed = b.closed := by
  unfold pop
  split
  · rfl
  · exact closed_put _ _

/-- Each element that is closed adds one event. -/
theorem events_popTimes {n : Nat} (h : n ≤ b.names.length) :
    (b.popTimes n).events = b.events ++ List.replicate n .closes := by
  induction n generalizing b with
  | zero => exact (List.append_nil _).symm
  | succ n ih =>
    have hne : b.names ≠ [] := List.length_pos_iff.1 (by omega)
    rw [popTimes, ih b.pop (by rw [names_pop, List.length_tail]; omega), events_pop b hne,
      List.append_assoc, List.replicate_succ]
    rfl

/-- Closing elements takes the innermost names. -/
@[simp] theorem names_popTimes (n : Nat) : (b.popTimes n).names = b.names.drop n := by
  induction n generalizing b with
  | zero => rfl
  | succ n ih => rw [popTimes, ih, names_pop, List.drop_tail]

/-- Closing elements holds back no text. -/
@[simp] theorem pending_popTimes (n : Nat) : (b.popTimes n).pending = b.pending := by
  induction n generalizing b with
  | zero => rfl
  | succ n ih => rw [popTimes, ih, pending_pop]

/-- Closing elements leaves the same closing tags to come. -/
@[simp] theorem closed_popTimes (n : Nat) : (b.popTimes n).closed = b.closed := by
  induction n generalizing b with
  | zero => rfl
  | succ n ih => rw [popTimes, ih, closed_pop]

/-- A closing tag closes as many open elements as lie up to the one of its name. -/
theorem close_eq (name : Text) : b.close name = b.flush.popTimes (closedBy name b.names) := by
  have hidx : b.flush.stack.findIdx? (·.name = name) = b.names.findIdx? (· = name) := by
    rw [← b.names_flush .text, names, List.findIdx?_map]
    rfl
  unfold close closedBy
  dsimp only
  rw [hidx]
  cases b.names.findIdx? (· = name) with
  | none => rfl
  | some i => rfl

/-- A closing tag adds the text that was held back, and then the ends of elements. -/
theorem events_close (name : Text) : (b.close name).events =
    b.events ++ b.held .text ++ List.replicate (closedBy name b.names) .closes := by
  rw [close_eq, events_popTimes, events_flush]
  rw [names_flush]
  exact closedBy_le _ _

/-- A closing tag takes the names up to its own. -/
theorem names_close (name : Text) :
    (b.close name).names = b.names.drop (closedBy name b.names) := by
  rw [close_eq, names_popTimes, names_flush]

/-- No text is held back after a closing tag. -/
theorem pending_close (name : Text) : (b.close name).pending = [] := by
  rw [close_eq, pending_popTimes, pending_flush]

/-- Closing by name leaves the same closing tags to come. -/
theorem closed_close (name : Text) : (b.close name).closed = b.closed := by
  rw [close_eq, closed_popTimes, closed_flush]

/-- An opening tag opens its element, and closes it if it is void or closes itself. -/
theorem add_opening (name : Text) (attrs : Attributes) (closed : Bool) :
    b.add (.opening name attrs closed) =
      let opened := b.flush.push name (tagAttributes name attrs)
      if closed then opened.close name
      else if voidNames.contains name then
        { opened.close name with closed := (opened.close name).closed ++ [name] }
      else opened := by
  unfold add
  dsimp only
  split
  · rfl
  · split
    · rw [closed_close]
      rfl
    · rfl

/-- A comment, a declaration or their like only adds events. -/
theorem exists_events_special (kind : Leaf) (t : Text) :
    ∃ more, (b.special kind t).events = b.events ++ more := by
  have hbefore : ({ b.flush with pending := [t] } : Builder).events = b.events ++ b.held .text :=
    b.events_flush .text
  exact ⟨_, by rw [special, events_flush, hbefore, List.append_assoc]⟩

/-- A piece only adds events. -/
theorem exists_events_add (m : Markup) : ∃ more, (b.add m).events = b.events ++ more := by
  cases m with
  | text t => exact ⟨[], (List.append_nil _).symm⟩
  | opening name attrs closed =>
    have hopened : (b.flush.push name (tagAttributes name attrs)).events =
        b.events ++ (b.held .text ++ [.opens name (tagAttributes name attrs)]) := by
      rw [events_push, events_flush, List.append_assoc]
    have hclosed := (b.flush.push name (tagAttributes name attrs)).events_close name
    rw [hopened, List.append_assoc, List.append_assoc] at hclosed
    rw [add_opening]
    dsimp only
    split
    · exact ⟨_, hclosed⟩
    · split
      · exact ⟨_, hclosed⟩
      · exact ⟨_, hopened⟩
  | closing name =>
    unfold add closingTag
    dsimp only
    split
    · exact ⟨[], (List.append_nil _).symm⟩
    · exact ⟨_, by rw [events_close, List.append_assoc]⟩
  | comment t | «section» t | instruction t | declaration t | doctype t =>
    exact b.exists_events_special _ t

/-- Pieces only add events. -/
theorem exists_events_foldl_add (pieces : List Markup) :
    ∃ more, (pieces.foldl add b).events = b.events ++ more := by
  induction pieces generalizing b with
  | nil => exact ⟨[], (List.append_nil _).symm⟩
  | cons m rest ih =>
    obtain ⟨first, hfirst⟩ := b.exists_events_add m
    obtain ⟨more, hmore⟩ := ih (b.add m)
    exact ⟨first ++ more, by rw [List.foldl_cons, hmore, hfirst, List.append_assoc]⟩

/-- When the page is finished, the elements that are still open end. -/
theorem events_finish : nodesEvents b.finish =
    b.events ++ b.held .text ++ List.replicate b.names.length .closes := by
  have hlength : b.flush.stack.length = b.names.length := by
    rw [← b.names_flush .text, names, List.length_map]
  have hevents := b.flush.events_popTimes (Nat.le_of_eq (congrArg List.length (b.names_flush .text).symm))
  have hstack : (b.flush.popTimes b.names.length).stack = [] := by
    have := b.flush.names_popTimes b.names.length
    rw [names_flush, List.drop_length] at this
    exact List.map_eq_nil_iff.1 this
  have hnone : stackEvents [] = [] := rfl
  rw [events, hstack, hnone, List.append_nil, events_flush] at hevents
  rw [finish, hlength]
  exact hevents

end Builder

/-! ## Joined characters -/

/-- Pages that have got to the same point, but for how the text is divided that is held back. -/
structure Builder.Agrees (b b' : Builder) : Prop where
  nodes : b.nodes = b'.nodes
  stack : b.stack = b'.stack
  closed : b.closed = b'.closed
  pending : b.pending.reverse.flatten = b'.pending.reverse.flatten
  isEmpty : b.pending.isEmpty = b'.pending.isEmpty

namespace Builder.Agrees

variable {b b' : Builder}

/-- A page agrees with itself. -/
theorem refl (b : Builder) : b.Agrees b := ⟨rfl, rfl, rfl, rfl, rfl⟩

/-- Pages that agree hold back the same text. -/
theorem flush_eq (h : b.Agrees b') (kind : Leaf) : b.flush kind = b'.flush kind := by
  obtain ⟨nodes, stack, pending, closed⟩ := b
  obtain ⟨nodes', stack', pending', closed'⟩ := b'
  obtain ⟨rfl, rfl, rfl, hpending, hempty⟩ := h
  dsimp only at hpending hempty
  unfold flush within
  dsimp only
  rw [hempty, hpending]
  split
  · next hnone =>
    rw [List.isEmpty_iff.1 (hempty.trans hnone), List.isEmpty_iff.1 hnone]
  · rfl

/-- Pages that agree still agree after more text. -/
theorem text (h : b.Agrees b') (t : Text) : (b.add (.text t)).Agrees (b'.add (.text t)) where
  nodes := h.nodes
  stack := h.stack
  closed := h.closed
  pending := by
    simp only [add, List.reverse_cons, List.flatten_append, h.pending]
  isEmpty := rfl

/-- Pages that agree still agree after one more piece. -/
theorem add (h : b.Agrees b') (m : Markup) : (b.add m).Agrees (b'.add m) := by
  have hflush : b.flush = b'.flush := h.flush_eq .text
  have hsame {c c' : Builder} (heq : c = c') : c.Agrees c' := heq ▸ refl c
  cases m with
  | text t => exact h.text t
  | opening name attrs closed => exact hsame (by unfold Builder.add; rw [hflush])
  | closing name =>
    unfold Builder.add closingTag
    dsimp only
    rw [h.closed]
    split
    · exact ⟨h.nodes, h.stack, rfl, h.pending, h.isEmpty⟩
    · exact hsame (by unfold close; rw [hflush])
  | comment t | «section» t | instruction t | declaration t | doctype t =>
    exact hsame (by unfold Builder.add special; rw [hflush])

/-- Characters one by one are as good as all of them at once. -/
theorem run (h : b.Agrees b') {u : Text} (hu : u ≠ []) :
    (b.add (.text u)).Agrees ((charPieces u).foldl Builder.add b') := by
  have hpending (b : Builder) : (charPieces u).foldl Builder.add b =
      { b with pending := (u.map fun c => [c]).reverse ++ b.pending } := by
    clear hu h
    induction u generalizing b with
    | nil => rfl
    | cons c rest ih =>
      rw [charPieces, List.map_cons, List.foldl_cons]
      refine (ih _).trans ?_
      simp [Builder.add]
  have hflat : (u.map fun c => [c]).flatten = u := by
    clear hu hpending
    induction u with
    | nil => rfl
    | cons c rest ih => rw [List.map_cons, List.flatten_cons, ih]; rfl
  rw [hpending]
  refine ⟨h.nodes, h.stack, h.closed, ?_, ?_⟩
  · simp only [Builder.add, List.reverse_cons, List.reverse_append, List.reverse_reverse,
      List.flatten_append, h.pending, hflat]
    simp
  · simp [Builder.add, hu]

end Builder.Agrees

/-- Pieces whose characters are joined make the same page. -/
theorem Joined.agrees {pieces fine : List Markup} (h : Joined pieces fine) {b b' : Builder}
    (hb : b.Agrees b') : (pieces.foldl Builder.add b).Agrees (fine.foldl Builder.add b') := by
  induction h generalizing b b' with
  | nil => exact hb
  | piece m _ ih => exact ih (hb.add m)
  | run hne _ ih =>
    rw [List.foldl_append]
    exact ih (hb.run hne)

/-- Pieces whose characters are joined make the same nodes. -/
theorem Joined.finish_eq {pieces fine : List Markup} (h : Joined pieces fine) :
    (pieces.foldl Builder.add {}).finish = (fine.foldl Builder.add {}).finish := by
  rw [Builder.finish, Builder.finish, (h.agrees (Builder.Agrees.refl {})).flush_eq .text]

/-- The page of a text is made of the pieces that spell it. -/
theorem pageNodes_of_spelled {t : Text} {fine : List Markup} (h : Spelled t fine) :
    pageNodes t = .ok (fine.foldl Builder.add {}).finish := by
  obtain ⟨pieces, hpieces, hjoined⟩ := markup_of_spelled h
  rw [pageNodes, hpieces, ← hjoined.finish_eq]
  rfl

end LiveMarkdown.Html
