import LiveMarkdown.Text.Basic

/-!
# Escaping

Text becomes part of a page by writing the four characters that have a meaning there as references:
`&`, `<`, `>` and the double quote.
-/

namespace LiveMarkdown.Html

/-- A character as it is written in a page. -/
def escapeChar (c : Char) : Text :=
  if c = '&' then ['&', 'a', 'm', 'p', ';']
  else if c = '<' then ['&', 'l', 't', ';']
  else if c = '>' then ['&', 'g', 't', ';']
  else if c = '"' then ['&', 'q', 'u', 'o', 't', ';']
  else [c]

/-- A text as it is written in a page. -/
def escape (t : Text) : Text := t.flatMap escapeChar

/-- An attribute with its leading space. -/
def attributeText (name value : Text) : Text :=
  ' ' :: escape name ++ ['=', '"'] ++ escape value ++ ['"']

/-- Attributes in the order in which they were set. -/
abbrev Attributes := List (Text × Text)

/-- The attributes with the value of `name` set: in its place if it is there, at the end if not. -/
def Attributes.set (attrs : Attributes) (name value : Text) : Attributes :=
  match attrs with
  | [] => [(name, value)]
  | (n, v) :: rest =>
    if n = name then (n, value) :: rest else (n, v) :: Attributes.set rest name value

/-- The value of an attribute. -/
def Attributes.get? (attrs : Attributes) (name : Text) : Option Text :=
  (attrs.find? (·.1 == name)).map (·.2)

/-- The attributes as they are written in a tag. -/
def Attributes.toText (attrs : Attributes) : Text := attrs.flatMap fun (n, v) => attributeText n v

end LiveMarkdown.Html
