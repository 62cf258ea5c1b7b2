import LiveMarkdown.Proofs.Heading.Injection
import LiveMarkdown.Proofs.Html.Names

/-!
# Ids can be read off a page

A page is given ids and written. Of the same page with two lists of ids, the two texts are the same
only if the ids that the headings end up with are the same (`pageText_setIds_inj`). The texts are
compared from left to right: up to the first heading whose ids differ they are the same, and there
the attributes tell them apart.
-/

namespace LiveMarkdown

open Html (Attributes Node)

/-! ## The id of one heading -/

/-- The attributes with an id, if there is one to set. -/
def withId (attrs : Attributes) (id : Option Text) : Attributes :=
  match id with
  | some id => attrs.set ['i', 'd'] id
  | none => attrs

/-- Setting an attribute to the value it has changes nothing. -/
theorem Attributes.set_get?_self {attrs : Attributes} {name value : Text}
    (h : attrs.get? name = some value) : attrs.set name value = attrs := by
  induction attrs with
  | nil => cases h
  | cons a rest ih =>
    obtain ⟨n, v⟩ := a
    unfold Attributes.get? at ih h
    rw [Attributes.set]
    split
    · next hn =>
      rw [List.find?_cons_of_pos (by simpa using hn)] at h
      have hv : v = value := Option.some.inj h
      rw [hv]
    · next hn =>
      rw [List.find?_cons_of_neg (by simpa using hn)] at h
      rw [ih h]

/-- Attributes that end up with the same id are the same. -/
theorem withId_inj {attrs : Attributes} {id id' : Option Text}
    (h : (withId attrs id).get? ['i', 'd'] = (withId attrs id').get? ['i', 'd']) :
    withId attrs id = withId attrs id' := by
  cases id with
  | none =>
    cases id' with
    | none => rfl
    | some new =>
      rw [withId, withId, Attributes.get?_set_self] at h
      exact (Attributes.set_get?_self h).symm
  | some old =>
    rw [withId, Attributes.get?_set_self] at h
    cases id' with
    | none => exact Attributes.set_get?_self h.symm
    | some new =>
      rw [withId, Attributes.get?_set_self] at h
      rw [Option.some.inj h]

/-- Setting an id keeps attributes proper. -/
theorem areProper_withId {attrs : Attributes} (h : Html.AreProper attrs) (id : Option Text) :
    Html.AreProper (withId attrs id) := by
  cases id with
  | none => exact h
  | some id => exact h.set ⟨List.cons_ne_nil _ _, by decide⟩ id

/-- What becomes of the element of a heading. -/
theorem setNodeIds_heading {name : Text} {level : Nat} (hlevel : elementLevel? name = some level)
    (attrs : Attributes) (children : List Node) (ids : List (Option Text)) :
    (setNodeIds (.element name attrs children) ids).1 =
      .element name (withId attrs ids.head?.join) (setIds children ids.tail).1 := by
  cases ids with
  | nil => simp only [setNodeIds, hlevel]; rfl
  | cons id ids =>
    cases id with
    | none => simp only [setNodeIds, hlevel]; rfl
    | some id => simp only [setNodeIds, hlevel]; rfl

/-- What becomes of an element that is no heading. -/
theorem setNodeIds_other {name : Text} (hlevel : elementLevel? name = none) (attrs : Attributes)
    (children : List Node) (ids : List (Option Text)) :
    (setNodeIds (.element name attrs children) ids).1 =
      .element name attrs (setIds children ids).1 := by
  simp only [setNodeIds, hlevel]

/-- Setting ids adds no nodes and takes none away. -/
theorem setIds_isEmpty (nodes : List Node) (ids : List (Option Text)) :
    (setIds nodes ids).1.isEmpty = nodes.isEmpty := by
  cases nodes with
  | nil => rw [setIds]
  | cons n rest => rw [setIds]; rfl

/-! ## From ids to nodes -/

mutual

/-- Nodes that differ in what ids are set have headings with other ids. -/
theorem setNodeIds_inj : ∀ (n : Node) {ids ids' : List (Option Text)},
    (nodeHeadings (setNodeIds n ids).1).map (·.id) =
      (nodeHeadings (setNodeIds n ids').1).map (·.id) →
    (setNodeIds n ids).1 = (setNodeIds n ids').1
  | .leaf _ _, _, _, _ => by rw [setNodeIds, setNodeIds]
  | .element name attrs children, ids, ids', h => by
    cases hlevel : elementLevel? name with
    | none =>
      rw [setNodeIds_other hlevel, setNodeIds_other hlevel] at h ⊢
      simp only [nodeHeadings, hlevel] at h
      rw [setIds_inj children h]
    | some level =>
      rw [setNodeIds_heading hlevel, setNodeIds_heading hlevel] at h ⊢
      simp only [nodeHeadings, hlevel, List.map_cons] at h
      obtain ⟨hid, hchildren⟩ := List.cons.inj h
      rw [withId_inj hid, setIds_inj children hchildren]

/-- Headings that end up with the same ids come from the same nodes. -/
theorem setIds_inj : ∀ (nodes : List Node) {ids ids' : List (Option Text)},
    (pageHeadings (setIds nodes ids).1).map (·.id) =
      (pageHeadings (setIds nodes ids').1).map (·.id) →
    (setIds nodes ids).1 = (setIds nodes ids').1
  | [], _, _, _ => by rw [setIds, setIds]
  | n :: rest, ids, ids', h => by
    rw [setIds, setIds] at h ⊢
    simp only [pageHeadings, List.map_append] at h ⊢
    have hlength (ids : List (Option Text)) :
        (nodeHeadings (setNodeIds n ids).1).length = (nodeHeadings n).length := by
      rw [(nodeHeadings_setNodeIds n ids).1, length_withIds]
    obtain ⟨hfirst, hrest⟩ := List.append_inj h (by simp only [List.length_map, hlength])
    rw [setNodeIds_inj n hfirst, setIds_inj rest hrest]

end

/-! ## From text to nodes -/

/-- The names of the elements of headings. -/
def headingNames : List Text :=
  [['h', '1'], ['h', '2'], ['h', '3'], ['h', '4'], ['h', '5'], ['h', '6']]

/-- A heading has one of the names of headings. -/
theorem mem_headingNames {name : Text} {level : Nat} (h : elementLevel? name = some level) :
    name ∈ headingNames := by
  unfold elementLevel? at h
  split at h
  · next c =>
    split at h
    · next hc =>
      simp only [Bool.and_eq_true, decide_eq_true_eq] at hc
      have hlow : 49 ≤ c.toNat := hc.1
      have hhigh : c.toNat ≤ 54 := hc.2
      have hdigits : ∀ n : Fin 6, ['h', Char.ofNat (49 + n.val)] ∈ headingNames := by decide
      have := hdigits ⟨c.toNat - 49, by omega⟩
      rwa [Nat.add_sub_cancel' hlow, Char.ofNat_toNat] at this
    · cases h
  · cases h

/-- Whether words hold names is told by the characters of the words. -/
theorem all_notMem_blankWords {s : String} {t : Text} (hs : s = String.ofList t) {names : List Text}
    (h : names.all fun n => !(Text.blankWords t).contains n) :
    names.all fun n => !(Text.blankWords s.toList).contains n := by
  rw [hs, String.toList_ofList]
  exact h

set_option maxRecDepth 10000 in
/-- Headings are none of the elements without content. -/
theorem headingNames_notMem_voidNames : headingNames.all fun n => !Html.voidNames.contains n :=
  all_notMem_blankWords rfl (by decide +kernel)

/-- A heading is written with its attributes and children one after the other. -/
theorem nodeText_heading {name : Text} {level : Nat} (hlevel : elementLevel? name = some level)
    (verbatim : Bool) (attrs : Attributes) (children : List Node) :
    Html.nodeText verbatim (.element name attrs children) =
      '<' :: name ++ Html.attributesText attrs ++ ['>'] ++
        Html.nodesText (Html.isVerbatim name) children ++ ['<', '/'] ++ name ++ ['>'] := by
  have hname := mem_headingNames hlevel
  have hvoid : Html.voidNames.contains name = false := by
    simpa using List.all_eq_true.1 headingNames_notMem_voidNames name hname
  have hmeta : ∀ n ∈ headingNames, (n != "meta".toList) = true := by decide
  rw [Html.nodeText, Html.writtenAttributes, if_pos (hmeta name hname), hvoid, Bool.and_false]
  simp

mutual

/-- A node whose ids are set tells them in its text, whatever comes after it. -/
theorem nodeText_setNodeIds_inj : ∀ (n : Node), n.IsProper → ∀ {verbatim : Bool}
    {ids ids' : List (Option Text)} {x y : Text},
    Html.nodeText verbatim (setNodeIds n ids).1 ++ x =
      Html.nodeText verbatim (setNodeIds n ids').1 ++ y →
    (setNodeIds n ids).1 = (setNodeIds n ids').1 ∧ x = y
  | .leaf _ _, _, _, _, _, _, _, h => by
    rw [setNodeIds, setNodeIds] at h ⊢
    exact ⟨rfl, List.append_cancel_left h⟩
  | .element name attrs children, ⟨hattrs, hchildren⟩, verbatim, ids, ids', x, y, h => by
    cases hlevel : elementLevel? name with
    | none =>
      rw [setNodeIds_other hlevel, setNodeIds_other hlevel] at h ⊢
      simp only [Html.nodeText, setIds_isEmpty] at h
      split at h
      · next hvoid =>
        have hempty : children = [] := List.isEmpty_iff.1 (Bool.and_eq_true_iff.1 hvoid).1
        rw [hempty, setIds, setIds]
        exact ⟨rfl, List.append_cancel_left h⟩
      · simp only [List.append_assoc, List.cons_append, List.cons.injEq, true_and,
          List.append_cancel_left_eq] at h
        obtain ⟨hnodes, hxy⟩ := nodesText_setIds_inj children hchildren h
        exact ⟨by rw [hnodes], by simpa using hxy⟩
    | some level =>
      rw [setNodeIds_heading hlevel, setNodeIds_heading hlevel] at h ⊢
      rw [nodeText_heading hlevel, nodeText_heading hlevel] at h
      simp only [List.append_assoc, List.cons_append, List.nil_append, List.cons.injEq, true_and,
        List.append_cancel_left_eq] at h
      have hproper := areProper_withId hattrs ids.head?.join
      have hproper' := areProper_withId hattrs ids'.head?.join
      obtain ⟨hsort, hrest⟩ :=
        Html.attributesText_append_injective hproper.names hproper'.names h
      have hid := Html.get?_eq_of_sortByName_eq hproper.nodup hproper'.nodup hsort ['i', 'd']
      obtain ⟨hnodes, hxy⟩ := nodesText_setIds_inj children hchildren hrest
      exact ⟨by rw [withId_inj hid, hnodes], by simpa using hxy⟩

/-- Nodes that are written alike are the same, up to what follows them. -/
theorem nodesText_setIds_inj : ∀ (nodes : List Node), Html.NodesAreProper nodes →
    ∀ {verbatim : Bool} {ids ids' : List (Option Text)} {x y : Text},
    Html.nodesText verbatim (setIds nodes ids).1 ++ x =
      Html.nodesText verbatim (setIds nodes ids').1 ++ y →
    (setIds nodes ids).1 = (setIds nodes ids').1 ∧ x = y
  | [], _, _, _, _, _, _, h => by
    rw [setIds, setIds] at h ⊢
    exact ⟨rfl, h⟩
  | n :: rest, ⟨hn, hrest⟩, _, ids, ids', _, _, h => by
    rw [setIds, setIds] at h ⊢
    simp only [Html.nodesText, List.append_assoc] at h ⊢
    obtain ⟨hfirst, h⟩ := nodeText_setNodeIds_inj n hn h
    obtain ⟨hnodes, hxy⟩ := nodesText_setIds_inj rest hrest h
    exact ⟨by rw [hfirst, hnodes], hxy⟩

end

/-- A page with ids is the same text as the page with other ids only if each heading ends up with the
same id. -/
theorem pageText_setIds_inj {nodes : List Node} (h : Html.NodesAreProper nodes)
    (ids ids' : List (Option Text)) :
    Html.pageText (setIds nodes ids).1 = Html.pageText (setIds nodes ids').1 ↔
      (pageHeadings (setIds nodes ids).1).map (·.id) =
        (pageHeadings (setIds nodes ids').1).map (·.id) := by
  constructor
  · intro htext
    have hnil : Html.nodesText false (setIds nodes ids).1 ++ [] =
        Html.nodesText false (setIds nodes ids').1 ++ [] := by
      rw [List.append_nil, List.append_nil]
      exact htext
    rw [(nodesText_setIds_inj nodes h hnil).1]
  · intro hids
    rw [setIds_inj nodes hids]

end LiveMarkdown
