import PhpLint.Glob
import PhpLint.Regex.Pattern

namespace PhpLint

/-!
# Patterns that exclude files from the search

A pattern is a text with the name of a format: a fixed path, a glob, or a regular
expression. A regular expression is compiled when the pattern is prepared, and
only a prepared pattern can be matched with a path.
-/

structure Pattern where
  text : Bytes
  format : Bytes
  /-- The compiled expression, once the pattern has been prepared. -/
  compiled? : Option Regex.Expr := none

inductive PatternFormat where
  | fixedString
  | glob
  | regexp
deriving DecidableEq

namespace PatternFormat

def name : PatternFormat → Bytes
  | .fixedString => utf8 "fixed_string"
  | .glob => utf8 "glob"
  | .regexp => utf8 "regexp"

def ofName? (text : Bytes) : Option PatternFormat :=
  [PatternFormat.fixedString, .glob, .regexp].find? fun format => format.name = text

end PatternFormat

/-- Why a pattern cannot be prepared or matched. -/
inductive PatternError where
  | textMissing
  | formatMissing
  | formatUnknown
  | globMalformed
  | regexMalformed (error : Regex.Error)
  | globUnmatchable
  | notCompiled
  | formatUnexpected (format : Bytes)
deriving DecidableEq

namespace PatternError

def message : PatternError → Bytes
  | .textMissing => utf8 "pattern is required"
  | .formatMissing => utf8 "pattern_format is required"
  | .formatUnknown => utf8 "pattern_format must be fixed_string, glob, or regexp"
  | .globMalformed => utf8 "parse as a glob: syntax error in pattern"
  | .regexMalformed error => utf8 "compile as a regular expression: " ++ error.message
  | .globUnmatchable => utf8 "match as a glob: syntax error in pattern"
  | .notCompiled => utf8 "regular expression isn't initialized"
  | .formatUnexpected format => utf8 "unexpected format: " ++ format

end PatternError

namespace Pattern

/-- The name with which a glob is tried when it is prepared. -/
def globProbe : Bytes :=
  utf8 "a"

/-- The pattern ready for matching, or the reason why it is none. -/
def prepare (pattern : Pattern) : Except PatternError Pattern :=
  if pattern.text.isEmpty then
    .error .textMissing
  else if pattern.format.isEmpty then
    .error .formatMissing
  else
    match PatternFormat.ofName? pattern.format with
    | none => .error .formatUnknown
    | some .fixedString => .ok { pattern with compiled? := none }
    | some .glob =>
      match Glob.isMatch? pattern.text globProbe with
      | none => .error .globMalformed
      | some _ => .ok { pattern with compiled? := none }
    | some .regexp =>
      match Regex.parse pattern.text with
      | .error error => .error (.regexMalformed error)
      | .ok expr => .ok { pattern with compiled? := some expr }

/-- Whether the pattern matches a path. -/
def isMatch (pattern : Pattern) (path : Bytes) : Except PatternError Bool :=
  match PatternFormat.ofName? pattern.format with
  | none => .error (.formatUnexpected pattern.format)
  | some .fixedString => .ok (path == pattern.text)
  | some .glob =>
    match Glob.isMatch? pattern.text path with
    | none => .error .globUnmatchable
    | some isMatch => .ok isMatch
  | some .regexp =>
    match pattern.compiled? with
    | none => .error .notCompiled
    | some expr => .ok (expr.foundIn (Utf8.chars path))

end Pattern
end PhpLint
