import PhpLint.Finding

namespace PhpLint
namespace Check

/-!
# Balanced braces

The numbers of opening and closing braces of a file are equal. Braces in comments
and string literals count too.
-/

def openBrace : UInt8 :=
  Bytes.ascii '{'

def closeBrace : UInt8 :=
  Bytes.ascii '}'

/-- The finding for a file with `opening` opening and `closing` closing braces. -/
def braceFinding (opening closing : Nat) : Finding where
  rule := .braceMismatch
  message := utf8 "Brace mismatch: " ++ decimal opening ++ utf8 " opening, " ++
    decimal closing ++ utf8 " closing"

/-- At most one finding, which names the two counts. -/
def braces (content : Bytes) : List Finding :=
  let opening := content.count openBrace
  let closing := content.count closeBrace
  if opening = closing then [] else [braceFinding opening closing]

end Check
end PhpLint
