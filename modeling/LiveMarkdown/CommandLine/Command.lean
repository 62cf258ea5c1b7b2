import LiveMarkdown.CommandLine.Options

/-!
# Commands

The commands of the program and how they are written. Options of the program stand before the name
of the command, its own ones after it.
-/

namespace LiveMarkdown.CommandLine

/-- A command. A file that is named `-` is the standard input. -/
inductive Command where
  /-- Writes a document as HTML, to a file if there is one. -/
  | render (file : Text) (output : Option Text)
  /-- Writes the blocks of a document. -/
  | blocks (file : Text)
  /-- Writes the table of contents of a document. -/
  | contents (file : Text) (tree : Bool)
  /-- Writes what changed between two documents. -/
  | diff (old new : Text) (changesOnly : Bool)
  deriving DecidableEq, Repr

/-- The paths that a command names, in the order in which it uses them. -/
def Command.paths : Command → List Text
  | .render file output => file :: output.toList
  | .blocks file | .contents file _ => [file]
  | .diff old new _ => [old, new]

/-- The names of commands. -/
inductive Topic where
  | render
  | blocks
  | contents
  | diff
  deriving DecidableEq, Repr

/-- What a command line asks for. -/
inductive Request where
  | run (verbose : Bool) (command : Command)
  | version
  /-- How the program, or one of its commands, is used. -/
  | help (topic : Option Topic)
  /-- The line cannot be read. -/
  | misuse (topic : Option Topic)
  deriving DecidableEq, Repr

/-- The options of the program and of all commands. -/
inductive Meaning where
  | help
  | version
  | verbose
  | output
  | tree
  | changesOnly
  deriving DecidableEq, Repr

/-- The option that every command has. -/
def helpFlag : Flag Meaning := { meaning := .help, names := [['-', 'h'], "--help"] }

/-- The options of the program. -/
def programFlags : List (Flag Meaning) :=
  [helpFlag, { meaning := .version, names := ["--version"] },
   { meaning := .verbose, names := [['-', 'v'], "--verbose"] }]

/-- The command of a name. -/
def topic? (name : Text) : Option Topic :=
  if name = "render" then some .render
  else if name = "blocks" then some .blocks
  else if name = "toc" then some .contents
  else if name = "diff" then some .diff
  else none

/-- The options of a command. -/
def Topic.flags : Topic → List (Flag Meaning)
  | .render => [helpFlag,
      { meaning := .output, names := [['-', 'o'], "--output"], takesValue := true }]
  | .blocks => [helpFlag]
  | .contents => [helpFlag, { meaning := .tree, names := ["--tree"] }]
  | .diff => [helpFlag, { meaning := .changesOnly, names := ["--changes-only"] }]

/-- The number of positional arguments of a command. -/
def Topic.places : Topic → Nat
  | .diff => 2
  | _ => 1

/-- The command that the words after its name make. -/
def Topic.command? (topic : Topic) (p : Parsed Meaning) : Option Command :=
  let has (m : Meaning) : Bool := p.options.any (·.1 = m)
  match topic, p.positionals with
  | .render, [file] => some (.render file ((p.options.reverse.lookup .output).join))
  | .blocks, [file] => some (.blocks file)
  | .contents, [file] => some (.contents file (has .tree))
  | .diff, [old, new] => some (.diff old new (has .changesOnly))
  | _, _ => none

/-- The request of the words after a command's name; `excess` tells whether words before it belong
to nothing. -/
def commandRequest (verbose excess : Bool) (topic : Topic) (line : List Text) : Request :=
  match (words? topic.flags line).bind (readWords topic.flags topic.places false {}) with
  | none => .misuse (some topic)
  | some p =>
    if p.options.any (·.1 = .help) then .help (some topic)
    else match topic.command? p with
      | none => .misuse (some topic)
      | some command =>
        if excess || p.excess then .misuse none else .run verbose command

/-- The request of the words of a command line, each with what it is for the program. -/
def programRequest : (verbose excess : Bool) → List (Text × Word Meaning) → Request
  | _, _, [] => .misuse none
  | verbose, excess, (_, w) :: rest =>
    match w with
    | .separator => .misuse none
    | .unknown => programRequest verbose true rest
    | .positional name => match topic? name with
      | none => .misuse none
      | some topic => commandRequest verbose excess topic (rest.map (·.1))
    | .option o attached =>
      let found : Option (List Meaning × Bool) := match attached with
        | none => some ([o.meaning], true)
        | some (.afterEquals _) => none
        | some (.afterLetter letters) => joined? programFlags o letters
      match found with
      | none => .misuse none
      | some (found, known) =>
        if found.contains .help then .help none
        else if found.contains .version then .version
        else programRequest true (excess || !known) rest

/-- What a command line asks for. -/
def Request.ofLine (line : List Text) : Request :=
  match words? programFlags line with
  | none => .misuse none
  | some words => programRequest false false (line.zip words)

end LiveMarkdown.CommandLine
