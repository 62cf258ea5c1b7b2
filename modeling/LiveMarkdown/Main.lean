import LiveMarkdown.CommandLine.Run

/-!
# The program

Reads what a command line names and the standard input, has `CommandLine.run` say what is to be
done, and does it.
-/

namespace LiveMarkdown.CommandLine

/-- The paths that a command line names. -/
def namedPaths (line : List Text) : List Text :=
  match Request.ofLine line with
  | .run _ command => command.paths
  | _ => []

/-- What is known of the files, with what stands at a clean path. What can't be read is a directory,
unless there is nothing at all or a file stands where the path needs a directory. -/
def Files.look (f : Files) (path : Text) : IO Files := do
  match ← (IO.FS.readBinFile (String.ofList path)).toBaseIO with
  | .ok bytes => return { f with files := (path, bytes.toList) :: f.files }
  | .error (.inappropriateType ..) =>
    if f.files.any fun (name, _) => isAbove name path then return f
    else return { f with directories := path :: f.directories }
  | .error _ => return f

/-- What a program starts with that has this command line. -/
def World.ofLine (line : List Text) : IO World := do
  let paths := namedPaths line
  let files ← (paths.flatMap pathsTo).foldlM Files.look {}
  let input ← if paths.contains ['-'] then (← IO.getStdin).readBinToEnd else pure .empty
  let engine := (← IO.getEnv "MDPREVIEW_MATH_ENGINE").map String.toList
  let detect := (← IO.getEnv "MDPREVIEW_HIGHLIGHT_DETECT").map String.toList
  return { files, input := input.toList, environment := { engine, detect } }

/-- Carries out what a run of the program does, and gives the exit code. -/
def Outcome.carryOut (o : Outcome) : IO UInt32 := do
  for entry in o.log do
    IO.eprintln (String.ofList entry.text)
  unless o.advice.isEmpty do
    IO.eprintln (String.ofList o.advice)
  IO.print (String.ofList o.output)
  if let some (path, content) := o.written then
    IO.FS.writeFile (String.ofList path) (String.ofList content)
  match o.ending with
  | .exit code => return code.toUInt32
  | .failure cause =>
    IO.eprintln (String.ofList cause.message)
    return 1

end LiveMarkdown.CommandLine

/-- The program. -/
def main (line : List String) : IO UInt32 := do
  let words := line.map String.toList
  let world ← LiveMarkdown.CommandLine.World.ofLine words
  (LiveMarkdown.CommandLine.run world words).carryOut
