import PhpLint.Check.Braces
import PhpLint.Check.Parentheses
import PhpLint.Check.Semicolons

namespace PhpLint
namespace Check

/-!
# All checks of one file

First come the braces, then the parentheses, then the semicolons. Lines end at
line feeds only, so a carriage return stays in its line, and a final line feed
is followed by an empty line.
-/

def lineFeed : UInt8 :=
  10

def lines (content : Bytes) : List Bytes :=
  Bytes.split lineFeed content

/-- The result of a file with the given content. -/
def content (file text : Bytes) : FileResult where
  file := file
  findings := (braces text ++ parentheses (lines text) ++ semicolons (lines text)).map
    fun finding => { finding with file := file }

/-- The result of a file that could not be read. -/
def unreadable (file reason : Bytes) : FileResult where
  file := file
  findings := [{
    file := file
    rule := .readError
    message := utf8 "Error reading file: " ++ reason }]

end Check
end PhpLint
