import LiveMarkdown.CommandLine.Files
import LiveMarkdown.CommandLine.Json
import LiveMarkdown.CommandLine.Usage
import LiveMarkdown.Preview.Render

/-!
# Running a command

`run` says what a command line does, given the files around the program, what can be read from its
standard input, and the settings of its environment: what is printed, which file is written, what is
logged and how the program ends.
-/

namespace LiveMarkdown.CommandLine

/-- What a program starts with. -/
structure World where
  files : Files := {}
  /-- The standard input. It can be read once; then it is empty. -/
  input : List UInt8 := []
  environment : Config.Environment := {}

/-- Why a command could not be carried out. -/
inductive Failure where
  | file (cause : FileError)
  | render (cause : RenderError)
  deriving DecidableEq, Repr

/-- The message of a failure. -/
def Failure.message : Failure → Text
  | .file cause => cause.message
  | .render cause => cause.message

/-- A line of the log. -/
inductive LogLine where
  | split (blocks : Nat)
  | resolved (slugs : Nat)
  | rendered (blocks : Nat)
  /-- There is no converter for formulas. -/
  | noConverter
  | resolveFailed
  deriving DecidableEq, Repr

/-- A line of the log as it is written. -/
def LogLine.text : LogLine → Text
  | .split n => "DEBUG mdpreview.parser: Split document into " ++ Text.ofNat n ++ " blocks".toList
  | .resolved n => "DEBUG mdpreview.slugs: Resolved " ++ Text.ofNat n ++ " heading slugs".toList
  | .rendered n => "DEBUG mdpreview.blocks: Rendered " ++ Text.ofNat n ++ " blocks".toList
  | .noConverter => "WARNING mdpreview.transforms.math: " ++
    "pandoc not installed - math falls back to MathJax markup".toList
  | .resolveFailed => "ERROR mdpreview.slugs: Failed to resolve heading slugs"

/-- Is a line of the log only written if it is asked for? -/
def LogLine.isDetail : LogLine → Bool
  | .split _ | .resolved _ | .rendered _ => true
  | _ => false

/-- How a program ends. -/
inductive Ending where
  | exit (code : Nat)
  | failure (cause : Failure)
  deriving DecidableEq, Repr

/-- What a run of the program does. -/
structure Outcome where
  ending : Ending
  output : Text := []
  /-- The file that is written, with its contents. -/
  written : Option (Text × Text) := none
  log : List LogLine := []
  /-- What is told about the use of the program, apart from the log. -/
  advice : Text := []

/-! ## Steps -/

/-- The state of a run: what is left of the standard input, and the log, last line first. -/
structure Progress where
  input : List UInt8
  log : List LogLine := []

/-- A step of a run. -/
abbrev Step (α : Type) := Progress → Except Failure α × Progress

/-- One step after the other. A failure is the last step. -/
def Step.bind {α β : Type} (s : Step α) (next : α → Step β) : Step β := fun p =>
  match s p with
  | (.ok a, p) => next a p
  | (.error e, p) => (.error e, p)

instance : Monad Step where
  pure a := fun p => (.ok a, p)
  bind := Step.bind

/-- Adds a line to the log. -/
def note (line : LogLine) : Step Unit := fun p => (.ok (), { p with log := line :: p.log })

/-- Adds the warning about the converter to the log, if it is wanted by the configuration and needed
for the source, and has not been given yet. -/
def noteConverter (c : Config) (source : Text) : Step Unit := fun p =>
  let holdsMath : Bool := (Markdown.parse (preprocess source)).any fun token =>
    match token.kind with
    | .math _ => true
    | .inline children => children.any fun child =>
      match child.kind with
      | .math _ => true
      | _ => false
    | _ => false
  if c.wantsConverter && !p.log.contains .noConverter && holdsMath then
    note .noConverter p
  else (.ok (), p)

/-- A result or a failure as a step. -/
def give {α ε : Type} (cause : ε → Failure) (result : Except ε α) : Step α := fun p =>
  (match result with
    | .ok a => .ok a
    | .error e => .error (cause e), p)

/-- The text of a file, or of what is left of the standard input. -/
def source (files : Files) (path : Text) : Step Text := fun p =>
  if path = ['-'] then give .file (fileText p.input) { p with input := [] }
  else give .file ((files.read path).bind fileText) p

/-- The blocks of a document. -/
def documentBlocks (c : Config) (t : Text) : Step (List Block) := do
  let sources ← give (.render ∘ .split) (splitBlocks t)
  unless Text.allBlank t do
    note (.split sources.length)
    match SlugTable.resolve? (some ∘ Markdown.parse) t with
    | some table => note (.resolved table.size)
    | none => note .resolveFailed
  let blocks ← (sources.zip (blockIds sources)).mapM fun (source, id) => do
    noteConverter c source.source
    give (.render ∘ .markup) (makeBlock c (resolveSlugs t) source id)
  note (.rendered blocks.length)
  pure blocks

/-! ## Commands -/

/-- What a command writes: to the standard output or to a file. -/
def carryOut (files : Files) (c : Config) : Command → Step (Text ⊕ (Text × Text))
  | .render file output => do
    let t ← source files file
    noteConverter c t
    let html ← give (.render ∘ .markup) (renderDocument c none t)
    match output with
    | none | some [] => pure (.inl html)
    | some path => do
      let path ← give .file (files.writable path)
      pure (.inr (path, html))
  | .blocks file => do
    let blocks ← documentBlocks c (← source files file)
    pure (.inl (Json.list (blocks.map Block.toJson)).toText)
  | .contents file tree => do
    let entries := Contents.ofText (← source files file)
    let items :=
      if tree then Contents.forestJson (Contents.tree entries)
      else entries.map Contents.Entry.toJson
    pure (.inl (Json.list items).toText)
  | .diff old new changes => do
    let oldBlocks ← documentBlocks c (← source files old)
    let newBlocks ← documentBlocks c (← source files new)
    let diffs := diffBlocks oldBlocks newBlocks
    let diffs := if changes then changesOnly diffs else diffs
    pure (.inl (Json.list (diffs.map Diff.toJson)).toText)

/-- What a command line does. -/
def run (w : World) (line : List Text) : Outcome :=
  match Request.ofLine line with
  | .version => { ending := .exit 0, output := versionText.toList }
  | .help topic => { ending := .exit 0, output := helpText topic }
  | .misuse topic => { ending := .exit 2, advice := usageLine topic }
  | .run verbose command =>
    let c := Config.ofEnvironment w.environment
    let (result, p) := carryOut w.files c command { input := w.input }
    let log := p.log.reverse.filter fun line => verbose || !line.isDetail
    match result with
    | .ok (.inl output) => { ending := .exit 0, output, log }
    | .ok (.inr written) => { ending := .exit 0, written := some written, log }
    | .error cause => { ending := .failure cause, log }

end LiveMarkdown.CommandLine
