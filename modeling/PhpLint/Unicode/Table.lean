namespace PhpLint
namespace Unicode

/-!
# Sets of code points

The tables of Unicode properties are kept in a text form: words separated by
blanks, numbers in lower-case hexadecimal.
-/

/-- A set of code points as ranges that include both ends. -/
abbrev Ranges := List (Nat × Nat)

def Ranges.mem (ranges : Ranges) (n : Nat) : Bool :=
  ranges.any fun (first, last) => first ≤ n && n ≤ last

def lastCodePoint : Nat :=
  0x10FFFF

def isHexDigit (c : Char) : Bool :=
  c.isDigit || ('a' ≤ c && c ≤ 'f')

/-- The number spelled by lower-case hexadecimal digits. -/
def hexNumber (digits : List Char) : Nat :=
  digits.foldl (fun n c => n * 16 + (if c.isDigit then c.toNat - 48 else c.toNat - 87)) 0

/-- The parts of a word between the separators. -/
def splitWord (separator : Char) : List Char → List (List Char)
  | [] => [[]]
  | c :: rest =>
    if c = separator then
      [] :: splitWord separator rest
    else
      match splitWord separator rest with
      | [] => [[c]]
      | part :: parts => (c :: part) :: parts

/-- The words of the lines of a table. -/
def tableWords (text : List String) : List (List Char) :=
  text.flatMap fun line => splitWord ' ' line.toList

/-- A word is one code point, or the first and the last of a range with a dash between. -/
def rangeOfWord (word : List Char) : Nat × Nat :=
  match splitWord '-' word with
  | [first, last] => (hexNumber first, hexNumber last)
  | _ => (hexNumber word, hexNumber word)

/-- Names of properties are compared without regard to case, blanks, dashes and underscores. -/
def looseChars (name : List Char) : List Char :=
  (name.filter fun c => c != ' ' && c != '-' && c != '_').map Char.toLower

def looseName (name : String) : List Char :=
  looseChars name.toList

end Unicode
end PhpLint
