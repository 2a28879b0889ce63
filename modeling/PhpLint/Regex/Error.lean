import PhpLint.Text.Bytes

namespace PhpLint
namespace Regex

/-!
# Why a text is no regular expression

An error has a cause and the part of the text that shows it.
-/

inductive Cause where
  | missingParenthesis
  | unexpectedParenthesis
  | missingBracket
  | badRange
  | badEscape
  | badGroupName
  | badGroupFlags
  | nothingToRepeat
  | stackedRepetition
  | badRepeatCount
  | trailingBackslash
  | nestedTooDeeply
  | notUtf8
deriving DecidableEq

def Cause.description : Cause → Bytes
  | .missingParenthesis => utf8 "missing closing )"
  | .unexpectedParenthesis => utf8 "unexpected )"
  | .missingBracket => utf8 "missing closing ]"
  | .badRange => utf8 "invalid character class range"
  | .badEscape => utf8 "invalid escape sequence"
  | .badGroupName => utf8 "invalid named capture"
  | .badGroupFlags => utf8 "invalid or unsupported Perl syntax"
  | .nothingToRepeat => utf8 "missing argument to repetition operator"
  | .stackedRepetition => utf8 "invalid nested repetition operator"
  | .badRepeatCount => utf8 "invalid repeat count"
  | .trailingBackslash => utf8 "trailing backslash at end of expression"
  | .nestedTooDeeply => utf8 "expression nests too deeply"
  | .notUtf8 => utf8 "invalid UTF-8"

structure Error where
  cause : Cause
  fragment : Bytes
deriving DecidableEq

def Error.message (error : Error) : Bytes :=
  utf8 "error parsing regexp: " ++ error.cause.description ++ utf8 ": `" ++ error.fragment ++
    utf8 "`"

end Regex
end PhpLint
