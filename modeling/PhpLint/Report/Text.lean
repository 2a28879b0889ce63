import PhpLint.Finding

namespace PhpLint
namespace Report

/-!
# The report as text

There is a block for every file with findings, and a summary. Colours decorate
the names of files and the summary.
-/

inductive Colour where
  | red
  | green
  | yellow
deriving DecidableEq

def Colour.code : Colour → Bytes
  | .red => utf8 "\x1b[31m"
  | .green => utf8 "\x1b[32m"
  | .yellow => utf8 "\x1b[33m"

def colourEnd : Bytes :=
  utf8 "\x1b[0m"

/-- The text in a colour, if colours are wanted. -/
def paint (coloured : Bool) (colour : Colour) (text : Bytes) : Bytes :=
  if coloured then colour.code ++ text ++ colourEnd else text

def findingLine (finding : Finding) : Bytes :=
  utf8 "  - " ++ finding.text ++ utf8 "\n"

/-- The block of one file. -/
def textBlock (coloured : Bool) (result : FileResult) : Bytes :=
  utf8 "\n" ++ paint coloured .yellow result.file ++ utf8 ":\n" ++
    result.findings.flatMap findingLine

def textSummary (coloured failed : Bool) : Bytes :=
  if failed then
    utf8 "\n" ++ paint coloured .red
      (utf8 "❌ Syntax issues found. Please review the files above.") ++ utf8 "\n"
  else
    paint coloured .green (utf8 "✅ No syntax issues detected in checked files!") ++ utf8 "\n"

end Report
end PhpLint
