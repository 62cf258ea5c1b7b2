import LiveMarkdown.Text.Quoted
import LiveMarkdown.Text.Utf8

/-!
# Files

What a program sees of the files around it: their names and contents, and the names of directories.
Names are relative to the directory that the program runs in.
-/

namespace LiveMarkdown.CommandLine

/-- The files and directories around a program. -/
structure Files where
  files : List (Text × List UInt8) := []
  directories : List Text := []

/-- Why a file can't be used. -/
inductive FileError where
  | missing (path : Text)
  | isDirectory (path : Text)
  /-- Something that is no directory stands where the path needs one. -/
  | noDirectory (path : Text)
  /-- The contents of the file are no text. -/
  | noText (cause : Text.Utf8Error)
  deriving DecidableEq, Repr

/-- The message of an error. -/
def FileError.message : FileError → Text
  | .missing path => "[Errno 2] No such file or directory: " ++ Text.quoted path
  | .isDirectory path => "[Errno 21] Is a directory: " ++ Text.quoted path
  | .noDirectory path => "[Errno 20] Not a directory: " ++ Text.quoted path
  | .noText e =>
    let bytes : Text :=
      if e.first = e.last then
        "byte 0x" ++ Text.hexDigits 2 e.byte.toNat ++ " in position " ++ Text.ofNat e.first
      else "bytes in position " ++ Text.ofNat e.first ++ '-' :: Text.ofNat e.last
    let cause : Text := match e.fault with
      | .start => "invalid start byte"
      | .continuation => "invalid continuation byte"
      | .ended => "unexpected end of data"
    "'utf-8' codec can't decode " ++ bytes ++ ':' :: ' ' :: cause

/-! ## Paths -/

/-- The parts of a path that matter. -/
def pathParts (path : Text) : List Text :=
  (Text.splitAtChar '/' path).filter fun part => !(part.isEmpty || part = ['.'])

/-- A path without needless parts. -/
def cleanPath (path : Text) : Text :=
  let joined := Text.join ['/'] (pathParts path)
  if path.head? = some '/' then '/' :: joined else if joined.isEmpty then ['.'] else joined

/-- The path of the directory that a clean path stands in. -/
def parentPath (path : Text) : Text := cleanPath (Text.join ['/'] (pathParts path).dropLast)

/-- The clean path of a path and those of the directories on the way to it, outermost first. -/
def pathsTo (path : Text) : List Text :=
  let root : Text := if path.head? = some '/' then ['/'] else []
  let parts := pathParts path
  (List.range (parts.length + 1)).map fun n => cleanPath (root ++ Text.join ['/'] (parts.take n))

/-- Is `outer` a directory on the way to `path`? -/
def isAbove (outer path : Text) : Bool := (outer ++ ['/']).isPrefixOf path

namespace Files

/-- Is a clean path that of a directory? -/
def isDirectory (f : Files) (path : Text) : Bool :=
  path = ['.'] || path = ['/'] || (pathParts path).getLast? = some ['.', '.'] ||
    f.directories.contains path || f.files.any fun (name, _) => isAbove path name

/-- The contents of a file. -/
def read (f : Files) (path : Text) : Except FileError (List UInt8) :=
  let path := cleanPath path
  match f.files.lookup path with
  | some bytes => .ok bytes
  | none =>
    if f.isDirectory path then .error (.isDirectory path)
    else if f.files.any fun (name, _) => isAbove name path then .error (.noDirectory path)
    else .error (.missing path)

/-- The path of a file that can be written. -/
def writable (f : Files) (path : Text) : Except FileError Text :=
  let path := cleanPath path
  if (f.files.lookup path).isSome then .ok path
  else if f.isDirectory path then .error (.isDirectory path)
  else if f.files.any fun (name, _) => isAbove name path then .error (.noDirectory path)
  else if f.isDirectory (parentPath path) then .ok path
  else .error (.missing path)

end Files

/-! ## Text files -/

/-- The text of a file's contents, with newlines for all line ends. -/
def fileText (bytes : List UInt8) : Except FileError Text :=
  match Text.ofUtf8 bytes with
  | .ok t => .ok (Text.uniformNewlines t)
  | .error e => .error (.noText e)

end LiveMarkdown.CommandLine
