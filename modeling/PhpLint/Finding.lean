import PhpLint.Text.Bytes

namespace PhpLint

/-!
# What a check reports

A finding belongs to one rule and one file and may point at a line. Line numbers
start at one; zero means that the finding is about the file as a whole.
-/

inductive Rule where
  | braceMismatch
  | unmatchedParentheses
  | missingSemicolon
  | readError
deriving DecidableEq

namespace Rule

def id : Rule → Bytes
  | .braceMismatch => utf8 "brace-mismatch"
  | .unmatchedParentheses => utf8 "unmatched-parentheses"
  | .missingSemicolon => utf8 "missing-semicolon"
  | .readError => utf8 "read-error"

def description : Rule → Bytes
  | .braceMismatch => utf8 "Counts of opening and closing braces differ"
  | .unmatchedParentheses => utf8 "Parentheses in a function definition are not balanced"
  | .missingSemicolon => utf8 "A return statement is not terminated by a semicolon"
  | .readError => utf8 "The file could not be read"

/-- Every rule in the order of detection, with read errors last. -/
def all : List Rule :=
  [.braceMismatch, .unmatchedParentheses, .missingSemicolon, .readError]

end Rule

structure Finding where
  file : Bytes := []
  line : Nat := 0
  rule : Rule
  message : Bytes
deriving DecidableEq

namespace Finding

/-- The finding as one line of text, with its line number if it has one. -/
def text (finding : Finding) : Bytes :=
  if 0 < finding.line then
    utf8 "Line " ++ decimal finding.line ++ utf8 ": " ++ finding.message
  else
    finding.message

end Finding

/-- The findings of one file in the order of detection. -/
structure FileResult where
  file : Bytes
  findings : List Finding
deriving DecidableEq

namespace FileResult

def clean (result : FileResult) : Bool :=
  result.findings.isEmpty

end FileResult

end PhpLint
