import PhpLint.Check.Braces
import PhpLint.Text.Blank

namespace PhpLint
namespace Check

/-!
# Parentheses of function definitions

A line that begins a function definition opens a signature, which runs through
the first line with an opening brace, or to the end of the file. The opening and
closing parentheses of a signature are counted, and a difference is reported at
the line that opened it.
-/

def openParenthesis : UInt8 :=
  Bytes.ascii '('

def closeParenthesis : UInt8 :=
  Bytes.ascii ')'

/-- The words that may stand before `function`. -/
def visibilities : List Bytes :=
  [utf8 "public", utf8 "private", utf8 "protected"]

/-- The text without its leading indentation. -/
def dropIndent (text : Bytes) : Bytes :=
  Utf8.unpieces ((Utf8.pieces text).dropWhile Utf8.Piece.isIndent)

/-- The text without a visibility at its front. -/
def dropVisibility (text : Bytes) : Bytes :=
  (visibilities.findSome? fun word => Bytes.after? word text).getD text

/-- Whether a line begins a function definition: indentation, at most one visibility,
indentation, and `function`. -/
def isFunctionHeader (line : Bytes) : Bool :=
  (utf8 "function").isPrefixOf (dropIndent (dropVisibility (dropIndent line)))

/-- Opening minus closing parentheses of a line. -/
def parenthesisBalance (line : Bytes) : Int :=
  (line.count openParenthesis : Int) - (line.count closeParenthesis : Int)

/-- Opening minus closing parentheses of the signature that starts at the first line. -/
def signatureDepth : List Bytes → Int
  | [] => 0
  | line :: rest =>
    if openBrace ∈ line then
      parenthesisBalance line
    else
      parenthesisBalance line + signatureDepth rest

def parenthesisFinding (line : Nat) : Finding where
  line := line
  rule := .unmatchedParentheses
  message := utf8 "Possible unmatched parentheses in function definition"

/-- The findings of lines of which the first has the given number. -/
def parenthesesFrom : Nat → List Bytes → List Finding
  | _, [] => []
  | number, line :: rest =>
    let later := parenthesesFrom (number + 1) rest
    if isFunctionHeader line && signatureDepth (line :: rest) != 0 then
      parenthesisFinding number :: later
    else
      later

def parentheses (lines : List Bytes) : List Finding :=
  parenthesesFrom 1 lines

end Check
end PhpLint
