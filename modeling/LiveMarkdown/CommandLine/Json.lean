import LiveMarkdown.Contents.Outline
import LiveMarkdown.Preview.Diff
import LiveMarkdown.Text.Quoted

/-!
# Output in JSON

Blocks, tables of contents and changes as JSON, with two spaces of indentation for each level. Of
all characters only quotes, backslashes and control characters are escaped.
-/

namespace LiveMarkdown

/-- A value of JSON, of the types that are written. -/
inductive Json where
  | int (n : Int)
  | text (t : Text)
  | list (items : List Json)
  | record (fields : List (Text × Json))

namespace Json

/-- A character in a string. -/
def escapeChar (c : Char) : Text :=
  if c = '"' then ['\\', '"']
  else if c = '\\' then ['\\', '\\']
  else if c = '\n' then ['\\', 'n']
  else if c = '\r' then ['\\', 'r']
  else if c = '\t' then ['\\', 't']
  else if c = '\x0C' then ['\\', 'f']
  else if c = '\x08' then ['\\', 'b']
  else if c.toNat < 32 then ['\\', 'u'] ++ Text.hexDigits 4 c.toNat
  else [c]

/-- A string. -/
def string (t : Text) : Text := '"' :: t.flatMap escapeChar ++ ['"']

/-- A new line at a level of indentation. -/
def newline (level : Nat) : Text := '\n' :: Text.spaces (2 * level)

mutual

/-- A value at a level of indentation. -/
def write (level : Nat) : Json → Text
  | .int n => Text.ofInt n
  | .text t => string t
  | .list [] => ['[', ']']
  | .list (v :: rest) =>
    '[' :: newline (level + 1) ++ write (level + 1) v ++ writeItems (level + 1) rest ++
      newline level ++ [']']
  | .record [] => ['\x7b', '\x7d']
  | .record ((key, v) :: rest) =>
    '\x7b' :: newline (level + 1) ++ string key ++ [':', ' '] ++ write (level + 1) v ++
      writeFields (level + 1) rest ++ newline level ++ ['\x7d']

/-- The items after the first one. -/
def writeItems (level : Nat) : List Json → Text
  | [] => []
  | v :: rest => ',' :: newline level ++ write level v ++ writeItems level rest

/-- The fields after the first one. -/
def writeFields (level : Nat) : List (Text × Json) → Text
  | [] => []
  | (key, v) :: rest =>
    ',' :: newline level ++ string key ++ [':', ' '] ++ write level v ++ writeFields level rest

end

/-- A value as a document. -/
def toText (v : Json) : Text := write 0 v ++ ['\n']

end Json

/-! ## What is written -/

/-- A block. -/
def Block.toJson (b : Block) : Json :=
  .record [("id", .text b.id), ("source", .text b.source), ("html", .text b.html),
    ("start_line", .int b.startLine), ("end_line", .int b.endLine)]

/-- The word for a change. -/
def Change.word : Change → Text
  | .keep _ => "keep"
  | .update _ _ => "update"
  | .add _ => "add"
  | .remove _ => "remove"

/-- The block to show after a change. -/
def Change.block? : Change → Option Block
  | .keep b | .update _ b | .add b => some b
  | .remove _ => none

/-- Where the block is that a change takes away. -/
def Change.oldIndex? : Change → Option Nat
  | .update oldIndex _ | .remove oldIndex => some oldIndex
  | .keep _ | .add _ => none

/-- A change. -/
def Diff.toJson (d : Diff) : Json :=
  let place : List (Text × Json) := [("type", .text d.change.word), ("index", .int d.index)]
  let block : List (Text × Json) :=
    d.change.block?.toList.map fun b => ("block".toList, b.toJson)
  let old : List (Text × Json) :=
    d.change.oldIndex?.toList.map fun (i : Nat) => ("old_index".toList, .int i)
  .record (place ++ block ++ old)

/-- An entry of a table of contents. -/
def Contents.Entry.toJson (e : Contents.Entry) : Json :=
  .record [("level", .int e.level), ("text", .text e.text), ("id", .text e.id)]

mutual

/-- An entry with those under it. -/
def Contents.Node.toJson : Contents.Node → Json
  | ⟨e, children⟩ =>
    .record [("level", .int e.level), ("id", .text e.id), ("text", .text e.text),
      ("children", .list (Contents.forestJson children))]

/-- The entries of a forest. -/
def Contents.forestJson : List Contents.Node → List Json
  | [] => []
  | n :: rest => n.toJson :: Contents.forestJson rest

end

end LiveMarkdown
