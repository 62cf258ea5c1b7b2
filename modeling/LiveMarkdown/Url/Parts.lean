import LiveMarkdown.Text.Case
import LiveMarkdown.Text.Pattern

/-!
# The parts of an address

An address is taken apart into scheme, user, host, port, path, query and fragment, and put together
again from them. No address is refused: what cannot be part of a host name belongs to the path.
-/

namespace LiveMarkdown.Url

/-- The parts of an address. The scheme keeps its colon, query and fragment their first character;
a part that is missing is empty. -/
structure Parts where
  scheme : Text := []
  slashes : Bool := false
  user : Text := []
  host : Text := []
  port : Text := []
  path : Text := []
  query : Text := []
  fragment : Text := []

/-- What stands before the host. -/
def Parts.front (p : Parts) : Text :=
  p.scheme ++ (if p.slashes then ['/', '/'] else []) ++
    (if p.user.isEmpty then [] else p.user ++ ['@'])

/-- What stands after the host. -/
def Parts.back (p : Parts) : Text :=
  (if p.port.isEmpty then [] else ':' :: p.port) ++ p.path ++ p.query ++ p.fragment

/-- Is the host written in brackets? They keep its colons apart from the one before a port. -/
def Parts.isBracketed (p : Parts) : Bool := p.host.contains ':'

/-- The address of the parts. What stands before the host, the host and what comes after it are
written by `write`; brackets around the host are not. -/
def Parts.toTextWith (write : Text → Text) (p : Parts) : Text :=
  if p.isBracketed then write p.front ++ '[' :: write p.host ++ ']' :: write p.back
  else write (p.front ++ p.host ++ p.back)

/-- The address of the parts. -/
def Parts.toText (p : Parts) : Text := p.toTextWith id

/-- The scheme that an address begins with, its colon included, and the rest. -/
def cutScheme (t : Text) : Text × Text :=
  let isPart (c : Char) : Bool := Text.isLetterOrDigitFold c || c = '.' || c = '+' || c = '-'
  let name := t.takeWhile isPart
  match t.drop name.length with
  | ':' :: rest => if name.isEmpty then ([], t) else (name ++ [':'], rest)
  | _ => ([], t)

/-- The scheme of scripts, which has no host. -/
def isHostless (scheme : Text) : Bool :=
  scheme == ['j', 'a', 'v', 'a', 's', 'c', 'r', 'i', 'p', 't', ':']

/-- The schemes whose addresses begin with two slashes wherever they have a host. -/
def isSlashed (scheme : Text) : Bool :=
  scheme == "http:" || scheme == "https:" || scheme == "ftp:" || scheme == "gopher:" ||
    scheme == "file:"

/-- A character that ends the part in which a user may stand. -/
def endsAuthority (c : Char) : Bool := c = '/' || c = '?' || c = '#'

/-- A character that no host name contains. -/
def endsHost (c : Char) : Bool :=
  c = '%' || c = '/' || c = '?' || c = ';' || c = '#' || c = '\'' || c = '\x7b' || c = '\x7d' ||
    c = '|' || c = '\\' || c = '^' || c = Text.grave || c = '<' || c = '>' || c = '"' || c = ' ' ||
    c = '\r' || c = '\n' || c = '\t'

/-- Cuts at the last `@` of the text: what stands before it, if there is one, and after it. -/
def cutUser (t : Text) : Text × Text :=
  if t.contains '@' then
    ((t.reverse.dropWhile (· ≠ '@')).drop 1 |>.reverse, (t.reverse.takeWhile (· ≠ '@')).reverse)
  else ([], t)

/-- A port at the end of a host: host and port, without the colon. -/
def cutPort (host : Text) : Text × Text :=
  let digits := (host.reverse.takeWhile Text.isDigit).reverse
  match host.reverse.dropWhile Text.isDigit with
  | ':' :: before => (before.reverse, digits)
  | _ => (host, [])

/-- A character of a label of a host name. -/
def isLabelChar (c : Char) : Bool :=
  Text.isLetterOrDigit c || c = '+' || c = '-' || c = '_'

/-- May the label be part of a host name? Characters beyond ASCII are counted, not judged. -/
def isLabel (label : Text) : Bool :=
  label.length ≤ 63 && label.all fun c => isLabelChar c || 127 < c.toNat

/-- Cuts a host name before what cannot be part of one: the labels up to there, with the beginning
of the label that fails, and the rest, which belongs to the path. -/
def cutLabels : List Text → List Text × Option (List Text)
  | [] => ([], none)
  | label :: more =>
    if isLabel label then
      let (good, bad) := cutLabels more
      (label :: good, bad)
    else
      let head := (label.take 63).takeWhile isLabelChar
      ([head], some (label.drop head.length :: more))

/-- The host name without what cannot be part of one, and what goes to the path instead. A name in
brackets is a numeric address and stays whole. -/
def checkHost (host : Text) : Text × Text :=
  if host.head? = some '[' && host.getLast? = some ']' then (host, [])
  else
    let (good, bad) := cutLabels (Text.splitAtChar '.' host)
    match bad with
    | none => (host, [])
    | some rest => (Text.join ['.'] good, Text.join ['.'] rest)

/-- The greatest length of a host name. -/
def maxHostLength : Nat := 255

/-- The address of a host name in brackets, without them. -/
def dropBrackets (host : Text) : Text :=
  if host.head? = some '[' && host.getLast? = some ']' then (host.drop 1).dropLast else host

/-- Path, query and fragment of what follows the host. -/
def cutTail (p : Parts) (t : Text) : Parts :=
  let beforeFragment := t.takeWhile (· ≠ '#')
  { p with
    fragment := t.drop beforeFragment.length
    path := beforeFragment.takeWhile (· ≠ '?')
    query := beforeFragment.dropWhile (· ≠ '?') }

/-- The parts of an address. Two slashes at the front announce a host with or without a scheme. -/
def Parts.ofText (t : Text) : Parts :=
  let t := Text.trim t
  let (scheme, rest) := cutScheme t
  let slashes := rest.take 2 == ['/', '/']
  let rest := if slashes && !isHostless scheme then rest.drop 2 else rest
  let parts : Parts := { scheme, slashes := slashes && !isHostless scheme }
  if !isHostless scheme && (slashes || (!scheme.isEmpty && !isSlashed scheme)) then
    let authority := rest.takeWhile (!endsAuthority ·)
    let (user, _) := cutUser authority
    let rest := if authority.contains '@' then rest.drop (user.length + 1) else rest
    let named := rest.takeWhile (!endsHost ·)
    let named := if named.getLast? = some ':' then named.dropLast else named
    let (host, port) := cutPort named
    let (host, spilled) := checkHost host
    let kept := if maxHostLength < host.length then [] else host
    cutTail { parts with user, host := dropBrackets kept, port } (spilled ++ rest.drop named.length)
  else cutTail parts rest

end LiveMarkdown.Url
