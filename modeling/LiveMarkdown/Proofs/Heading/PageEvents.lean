import LiveMarkdown.Proofs.Heading.Listing

/-!
# Headings from the beginning of a page to its end

The headings of a page can be told while its events pass: a heading begins where its element does, and
its text is what is shown from there on until the element ends (`textFrom`), whatever comes after that.
So an element is known as a heading of the page as soon as it has ended
(`exists_pageHeadings_of_events`).
-/

namespace LiveMarkdown

open Html (Attributes Event Node nodeEvents nodesEvents tagsOf)

/-- The text that is shown from a place on, up to the end of the element that the place is in. The
list tells of the elements that have begun since, innermost first, whether their text is shown. -/
def textFrom : (shown : List Bool) → List Event → Text
  | _, [] => []
  | shown, .opens name attrs :: rest => textFrom ((!isFormula name attrs) :: shown) rest
  | shown, .leaf kind t :: rest =>
    (if kind = .text && shown.all id then t else []) ++ textFrom shown rest
  | [], .closes :: _ => []
  | _ :: outer, .closes :: rest => textFrom outer rest

/-- The headings that begin from a place on. -/
def headingsFrom : List Event → List PageHeading
  | [] => []
  | .opens name attrs :: rest =>
    match elementLevel? name with
    | some level => ⟨level, textFrom [] rest, attrs.get? ['i', 'd']⟩ :: headingsFrom rest
    | none => headingsFrom rest
  | .leaf _ _ :: rest | .closes :: rest => headingsFrom rest

mutual

/-- The events of a node show its text, if all elements around it are shown. -/
theorem textFrom_nodeEvents : ∀ (n : Node) (shown : List Bool) (rest : List Event),
    textFrom shown (nodeEvents n ++ rest) =
      (if shown.all id then nodePlainText n else []) ++ textFrom shown rest
  | .leaf kind t, shown, rest => by
    rw [nodeEvents, List.singleton_append, textFrom, nodePlainText]
    congr 1
    cases shown.all id with
    | true => simp
    | false => simp
  | .element name attrs children, shown, rest => by
    rw [nodeEvents, List.cons_append, textFrom, List.append_assoc,
      textFrom_nodesEvents children, nodePlainText, List.all_cons]
    have hclose : textFrom ((!isFormula name attrs) :: shown) ([.closes] ++ rest) =
        textFrom shown rest := rfl
    rw [hclose]
    congr 1
    cases isFormula name attrs with
    | true => simp
    | false => simp

/-- Whole nodes show their text where text is shown. -/
theorem textFrom_nodesEvents : ∀ (nodes : List Node) (shown : List Bool) (rest : List Event),
    textFrom shown (nodesEvents nodes ++ rest) =
      (if shown.all id then plainText nodes else []) ++ textFrom shown rest
  | [], shown, rest => by
    rw [plainText, ite_self]
    rfl
  | n :: nodes, shown, rest => by
    rw [nodesEvents, List.append_assoc, textFrom_nodeEvents n, textFrom_nodesEvents nodes, plainText]
    split
    · rw [List.append_assoc]
    · rfl

end

mutual

/-- The events of a node begin its headings. -/
theorem headingsFrom_nodeEvents : ∀ (n : Node) (rest : List Event),
    headingsFrom (nodeEvents n ++ rest) = nodeHeadings n ++ headingsFrom rest
  | .leaf _ _, _ => rfl
  | .element name attrs children, rest => by
    have htext : textFrom [] (nodesEvents children ++ ([.closes] ++ rest)) = plainText children :=
      (textFrom_nodesEvents children [] _).trans (List.append_nil _)
    have hinner : headingsFrom (nodesEvents children ++ ([.closes] ++ rest)) =
        pageHeadings children ++ headingsFrom rest := headingsFrom_nodesEvents children _
    rw [nodeEvents, List.cons_append, List.append_assoc, headingsFrom, htext, hinner, nodeHeadings]
    cases elementLevel? name with
    | none => rfl
    | some level => rfl

/-- The events of nodes begin their headings. -/
theorem headingsFrom_nodesEvents : ∀ (nodes : List Node) (rest : List Event),
    headingsFrom (nodesEvents nodes ++ rest) = pageHeadings nodes ++ headingsFrom rest
  | [], _ => rfl
  | n :: nodes, rest => by
    rw [nodesEvents, List.append_assoc, headingsFrom_nodeEvents n, headingsFrom_nodesEvents nodes,
      pageHeadings, List.append_assoc]

end

/-- The headings that begin in front come first. What is behind may be in their texts, but it makes no
difference to which they are. -/
theorem exists_headingsFrom_append (before rest : List Event) :
    ∃ earlier, headingsFrom (before ++ rest) = earlier ++ headingsFrom rest ∧
      listed earlier = (tagsOf (before.filterMap Event.part?)).filterMap headingOf? := by
  induction before with
  | nil => exact ⟨[], rfl, rfl⟩
  | cons event before ih =>
    obtain ⟨earlier, hheadings, hlisted⟩ := ih
    cases event with
    | leaf kind t => exact ⟨earlier, hheadings, hlisted⟩
    | closes => exact ⟨earlier, hheadings, hlisted⟩
    | opens name attrs =>
      have htags : tagsOf ((Event.opens name attrs :: before).filterMap Event.part?) =
          (name, attrs) :: tagsOf (before.filterMap Event.part?) := rfl
      rw [List.cons_append, headingsFrom, htags, List.filterMap_cons, headingOf?, ← hlisted]
      cases elementLevel? name with
      | none => exact ⟨earlier, hheadings, rfl⟩
      | some level =>
        exact ⟨⟨level, textFrom [] (before ++ rest), attrs.get? ['i', 'd']⟩ :: earlier,
          congrArg (List.cons _) hheadings, rfl⟩

/-- An element with the name of a heading is a heading, after those whose elements began before. -/
theorem exists_pageHeadings_of_events {nodes : List Node} {before after : List Event} {name : Text}
    {attrs : Attributes} {level : Nat} (hlevel : elementLevel? name = some level)
    (h : nodesEvents nodes = before ++ .opens name attrs :: after) :
    ∃ earlier later, pageHeadings nodes =
        earlier ++ ⟨level, textFrom [] after, attrs.get? ['i', 'd']⟩ :: later ∧
      listed earlier = (tagsOf (before.filterMap Event.part?)).filterMap headingOf? := by
  obtain ⟨earlier, hheadings, hlisted⟩ := exists_headingsFrom_append before (.opens name attrs :: after)
  have hall : pageHeadings nodes = headingsFrom (nodesEvents nodes) := by
    have := headingsFrom_nodesEvents nodes []
    rw [List.append_nil] at this
    exact (List.append_nil _).symm.trans this.symm
  refine ⟨earlier, headingsFrom after, ?_, hlisted⟩
  rw [hall, h, hheadings, headingsFrom, hlevel]

end LiveMarkdown
