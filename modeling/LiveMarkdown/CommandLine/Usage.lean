import LiveMarkdown.CommandLine.Command

/-!
# How the program is used

The text that says how the program and its commands are used.
-/

namespace LiveMarkdown.CommandLine

/-- The text that tells the version. -/
def versionText : String := "mdpreview 0.1.0\n"

/-- How the program is used. -/
def programHelp : List String :=
  ["usage: mdpreview [-h] [--version] [-v] \x7brender,blocks,toc,diff\x7d ...",
    "",
    "Render markdown to HTML, whole or as independently renderable blocks.",
    "",
    "positional arguments:",
    "  \x7brender,blocks,toc,diff\x7d",
    "    render              Render a document to HTML",
    "    blocks              Print rendered blocks as JSON",
    "    toc                 Print the table of contents as JSON",
    "    diff                Print block update instructions between two versions",
    "",
    "options:",
    "  -h, --help            show this help message and exit",
    "  --version             show program's version number and exit",
    "  -v, --verbose         Log debug output to stderr"]

/-- How a command is used. -/
def Topic.help : Topic → List String
  | .render =>
    ["usage: mdpreview render [-h] [-o OUTPUT] file",
    "",
    "positional arguments:",
    "  file                  Markdown file, or - for stdin",
    "",
    "options:",
    "  -h, --help            show this help message and exit",
    "  -o OUTPUT, --output OUTPUT",
    "                        Write HTML here instead of stdout"]
  | .blocks =>
    ["usage: mdpreview blocks [-h] file",
    "",
    "positional arguments:",
    "  file        Markdown file, or - for stdin",
    "",
    "options:",
    "  -h, --help  show this help message and exit"]
  | .contents =>
    ["usage: mdpreview toc [-h] [--tree] file",
    "",
    "positional arguments:",
    "  file        Markdown file, or - for stdin",
    "",
    "options:",
    "  -h, --help  show this help message and exit",
    "  --tree      Nest entries by heading level"]
  | .diff =>
    ["usage: mdpreview diff [-h] [--changes-only] old new",
    "",
    "positional arguments:",
    "  old             Previous version of the document",
    "  new             Edited version of the document",
    "",
    "options:",
    "  -h, --help      show this help message and exit",
    "  --changes-only  Omit unchanged blocks"]

/-- How the program, or one of its commands, is used. -/
def helpText (topic : Option Topic) : Text :=
  (topic.elim programHelp Topic.help).flatMap fun line => line.toList ++ ['\n']

/-- The first line of that: how the words are put. -/
def usageLine (topic : Option Topic) : Text := (helpText topic).takeWhile (· ≠ '\n')

end LiveMarkdown.CommandLine
