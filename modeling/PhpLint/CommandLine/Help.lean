import PhpLint.Text.Bytes

namespace PhpLint
namespace CommandLine

/-!
# The help of the program

The help is about the version only if there is one.
-/

namespace Help

/-- The name and the usage. -/
def front : List String := [
  "NAME:",
  "   phpsanity - Heuristic syntax checks for PHP files",
  "",
  "USAGE:",
  "   phpsanity [global options] [command [command options]]",
  ""]

/-- What the program does. -/
def description : List String := [
  "DESCRIPTION:",
  "   Run heuristic syntax checks on PHP files.",
  "",
  "   If no argument is passed, phpsanity searches .php files in the app directory recursively.",
  "",
  "   $ phpsanity",
  "",
  "   You can also pass file paths as arguments.",
  "",
  "   e.g.",
  "",
  "   $ phpsanity app/Controller/UserController.php app/Model/User.php",
  "",
  "   Three checks are run on each file:",
  "",
  "   - the numbers of \"\x7b\" and \"\x7d\" are equal",
  "   - parentheses in function definitions are balanced",
  "   - return statements end with \";\"",
  "",
  "   They count characters line by line and don't parse PHP,",
  "   so braces in strings and comments are counted too.",
  "",
  "   phpsanity exits with 1 if any issue is found.",
  "",
  ""]

/-- The commands and the flags. -/
def commandsAndOptions : List String := [
  "COMMANDS:",
  "   init        Create .phpsanity.yaml if it doesn't exist",
  "   version     Show version",
  "   help, h     Shows a list of commands or help for one command",
  "   completion  Output shell completion script for bash, zsh, fish, or Powershell",
  "",
  "GLOBAL OPTIONS:",
  "   --log-level string          log level [$PHPSANITY_LOG_LEVEL]",
  "   --config string, -c string  configuration file path [$PHPSANITY_CONFIG]",
  "   --format string             Output format. One of text, sarif, and yaml (default: \"text\")",
  "   --no-color                  Disable colored output (default: false)",
  "   --help, -h                  show help"]

/-- Lines of text with a line feed after each. -/
def unlines (lines : List String) : Bytes :=
  lines.flatMap fun line => utf8 line ++ utf8 "\n"

/-- The help of the program with a version, which may be empty. -/
def text (version : Bytes) : Bytes :=
  if version.isEmpty then
    unlines (front ++ description ++ commandsAndOptions)
  else
    unlines front ++ utf8 "VERSION:\n   " ++ version ++ utf8 "\n\n" ++
      unlines (description ++ commandsAndOptions ++
        ["   --version, -v               print the version"])

end Help
end CommandLine
end PhpLint
