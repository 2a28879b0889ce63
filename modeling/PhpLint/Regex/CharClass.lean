import PhpLint.Unicode.CaseFold
import PhpLint.Unicode.Category
import PhpLint.Unicode.Script

namespace PhpLint
namespace Regex

/-!
# Character classes of regular expressions

A class is a union of sets, each of which may be complemented on its own, and the
class as a whole may be complemented once more. When case is ignored, each set is
first extended by the characters that differ from its members only in case.
-/

structure CharSet where
  ranges : Unicode.Ranges
  complemented : Bool := false

structure CharClass where
  sets : List CharSet
  complemented : Bool := false
  ignoreCase : Bool := false

namespace CharClass

/-- The class of a single code point. -/
def single (n : Nat) (ignoreCase : Bool) : CharClass where
  sets := [{ ranges := [(n, n)] }]
  ignoreCase := ignoreCase

def anyChar : CharClass where
  sets := [{ ranges := [(0, Unicode.lastCodePoint)] }]

def anyButLineFeed : CharClass where
  sets := [{ ranges := [(10, 10)], complemented := true }]

/-- Whether a character, or one that differs from it only in case if case is ignored, lies
in the ranges. -/
def inRanges (ignoreCase : Bool) (c : Char) (ranges : Unicode.Ranges) : Bool :=
  if ignoreCase then
    (Unicode.caseVariants c.toNat).any ranges.mem
  else
    ranges.mem c.toNat

def mem (cls : CharClass) (c : Char) : Bool :=
  (cls.sets.any fun set => inRanges cls.ignoreCase c set.ranges != set.complemented) !=
    cls.complemented

end CharClass

/-! ## Named sets -/

def digitRanges : Unicode.Ranges :=
  [(0x30, 0x39)]

def spaceRanges : Unicode.Ranges :=
  [(0x09, 0x0A), (0x0C, 0x0D), (0x20, 0x20)]

def wordRanges : Unicode.Ranges :=
  [(0x30, 0x39), (0x41, 0x5A), (0x5F, 0x5F), (0x61, 0x7A)]

/-- The set of a class letter after a backslash. Upper-case letters mean complements. -/
def escapeSet? (letter : Char) : Option CharSet :=
  match letter with
  | 'd' => some { ranges := digitRanges }
  | 'D' => some { ranges := digitRanges, complemented := true }
  | 's' => some { ranges := spaceRanges }
  | 'S' => some { ranges := spaceRanges, complemented := true }
  | 'w' => some { ranges := wordRanges }
  | 'W' => some { ranges := wordRanges, complemented := true }
  | _ => none

/-- The sets that may be named between `[:` and `:]`. -/
def bracketNames : List (String × Unicode.Ranges) := [
  ("alnum", [(0x30, 0x39), (0x41, 0x5A), (0x61, 0x7A)]),
  ("alpha", [(0x41, 0x5A), (0x61, 0x7A)]),
  ("ascii", [(0x00, 0x7F)]),
  ("blank", [(0x09, 0x09), (0x20, 0x20)]),
  ("cntrl", [(0x00, 0x1F), (0x7F, 0x7F)]),
  ("digit", digitRanges),
  ("graph", [(0x21, 0x7E)]),
  ("lower", [(0x61, 0x7A)]),
  ("print", [(0x20, 0x7E)]),
  ("punct", [(0x21, 0x2F), (0x3A, 0x40), (0x5B, 0x60), (0x7B, 0x7E)]),
  ("space", [(0x09, 0x0D), (0x20, 0x20)]),
  ("upper", [(0x41, 0x5A)]),
  ("word", wordRanges),
  ("xdigit", [(0x30, 0x39), (0x41, 0x46), (0x61, 0x66)])]

/-- The set named between `[:` and `:]`, where a leading `^` asks for the complement. -/
def bracketSet? (name : List Char) : Option CharSet :=
  let complemented := name.head? == some '^'
  let plain := if complemented then name.drop 1 else name
  (bracketNames.find? fun (known, _) => known.toList = plain).map
    fun (_, ranges) => { ranges := ranges, complemented := complemented }

/-- The set of a Unicode property: a general category, a script, or one of the names that
mean everything, all of ASCII, and all assigned characters. -/
def propertySet? (name : List Char) : Option CharSet :=
  let loose := Unicode.looseChars name
  if loose = Unicode.looseName "Any" then
    some { ranges := [(0, Unicode.lastCodePoint)] }
  else if loose = Unicode.looseName "ASCII" then
    some { ranges := [(0, 0x7F)] }
  else if loose = Unicode.looseName "Assigned" then
    (Unicode.categoryNamed? (Unicode.looseName "Cn")).map
      fun ranges => { ranges := ranges, complemented := true }
  else
    match Unicode.categoryNamed? loose with
    | some ranges => some { ranges := ranges }
    | none => (Unicode.scriptNamed? loose).map fun ranges => { ranges := ranges }

end Regex
end PhpLint
