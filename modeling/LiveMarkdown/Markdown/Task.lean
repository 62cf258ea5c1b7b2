import LiveMarkdown.Markdown.Token

/-!
# Task lists

A list item whose text begins with a box, `[ ]` or `[x]`, is a task. The box becomes a checkbox that
nobody can change, and item and list get a class each.
-/

namespace LiveMarkdown.Markdown

open Html (Attributes)

/-- White space after the box of a task. -/
def isTaskSpace (c : Char) : Bool := c = ' ' || (9 ≤ c.toNat && c.toNat ≤ 13)

/-- Does the text of an item begin with a box? -/
def hasBox : Text → Bool
  | '[' :: c :: ']' :: d :: _ => (c = ' ' || c = 'x' || c = 'X') && isTaskSpace d
  | _ => false

/-- The checkbox for the box that a text begins with. Only a box with a space after it gets one. -/
def checkbox : Text → Text
  | '[' :: c :: ']' :: ' ' :: _ =>
    let checked : Text := if c = ' ' then [] else "checked=\"checked\" "
    "<input class=\"task-list-item-checkbox\" ".toList ++ checked ++
      "disabled=\"disabled\" type=\"checkbox\">".toList
  | _ => []

/-- Do the tokens begin with a list item that is a task? -/
def startsTask : List Token → Bool
  | item :: paragraph :: text :: _ =>
    item.kind = .opening .listItem && paragraph.kind = .opening .paragraph &&
      (match text.kind with | .inline _ => hasBox text.content | _ => false)
  | _ => false

/-- Is one of the items of a list a task, given the tokens after the list's opening one? `depth`
counts the containers that are open in the list. -/
def holdsTask : (depth : Nat) → List Token → Bool
  | _, [] => false
  | depth, t :: rest =>
    (depth = 0 && startsTask (t :: rest)) || match t.kind.nesting with
      | .opening => holdsTask (depth + 1) rest
      | .closing => depth ≠ 0 && holdsTask (depth - 1) rest
      | .single => holdsTask depth rest

/-- The text of a task with its box as a checkbox. -/
def Token.withCheckbox (t : Token) : Token :=
  match t.kind with
  | .inline (first :: more) =>
    { t with
      kind := .inline ({ kind := .html, content := checkbox t.content } ::
        { first with content := first.content.drop 3 } :: more)
      content := t.content.drop 3 }
  | _ => t

/-- The tokens with their tasks. `distance` counts the tokens up to the text of a task that has
begun; zero if none has. -/
def markTasks : (distance : Nat) → List Token → List Token
  | _, [] => []
  | distance, t :: rest =>
    let isList := t.kind = .opening .bulletList || t.kind = .opening .orderedList
    let t := if distance = 1 then t.withCheckbox else t
    if isList && holdsTask 0 rest then
      { t with attrs := t.attrs.set "class" "contains-task-list" } :: markTasks 0 rest
    else if startsTask (t :: rest) then
      { t with attrs := t.attrs.set "class" "task-list-item" } :: markTasks 2 rest
    else t :: markTasks (distance - 1) rest

end LiveMarkdown.Markdown
