import PhpLint.Finding
import PhpLint.Text.Blank

namespace PhpLint
namespace Check

/-!
# Return statements end with a semicolon

Lines are looked at one by one, without the white space around them. A line that
holds a brace, a bracket or a comment mark is never reported, because the
statement may go on elsewhere.
-/

/-- Texts that take a line out of consideration. -/
def exemptions : List Bytes :=
  [utf8 "\x7b", utf8 "\x7d", utf8 "//", utf8 "/*", utf8 "*/", utf8 "[", utf8 "]"]

/-- Whether a trimmed line is a comment from its first character on. -/
def isComment (line : Bytes) : Bool :=
  (utf8 "//").isPrefixOf line || (utf8 "/*").isPrefixOf line

/-- Whether a trimmed line is a return statement that does not end here. -/
def isOpenReturn (line : Bytes) : Bool :=
  if line = utf8 "return" then
    true
  else
    (utf8 "return ").isPrefixOf line &&
      !((utf8 ";").isSuffixOf line || (utf8 "\x7b").isSuffixOf line || (utf8 "[").isSuffixOf line)

/-- Whether a trimmed line holds one of the exempting texts. -/
def isExempt (line : Bytes) : Bool :=
  exemptions.any fun text => Bytes.occurs text line

/-- Whether a trimmed line lacks a semicolon. -/
def lacksSemicolon (line : Bytes) : Bool :=
  !line.isEmpty && !isComment line && isOpenReturn line && !isExempt line

def semicolonFinding (number : Nat) (line : Bytes) : Finding where
  line := number
  rule := .missingSemicolon
  message := utf8 "Missing semicolon after return statement: " ++ line

/-- The findings of lines of which the first has the given number. -/
def semicolonsFrom : Nat → List Bytes → List Finding
  | _, [] => []
  | number, line :: rest =>
    let later := semicolonsFrom (number + 1) rest
    if lacksSemicolon (Bytes.trim line) then
      semicolonFinding number (Bytes.trim line) :: later
    else
      later

def semicolons (lines : List Bytes) : List Finding :=
  semicolonsFrom 1 lines

end Check
end PhpLint
