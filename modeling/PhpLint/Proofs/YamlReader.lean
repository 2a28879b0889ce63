import PhpLint.Proofs.Quoted
import PhpLint.Proofs.Reports
import PhpLint.Proofs.Sarif

namespace PhpLint
namespace Report

/-!
# A reader of YAML reports

The reader goes through a report line by line. Every line has a label and
perhaps a scalar after it, and a scalar ends where its line ends: one that begins
with a quote is unquoted, and any other stands for itself. The labels tell where
a file and where a finding begins, so the reader needs no other structure. It
refuses an unknown label, a label out of place and a last line without an end.
-/

/-! ## Lines -/

/-- What a line of a report begins with. -/
inductive YamlLabel where
  | checked
  | files
  | path
  | findings
  | rule
  | line
  | message
deriving DecidableEq

namespace YamlLabel

def text : YamlLabel → Bytes
  | .checked => utf8 "checked: "
  | .files => utf8 "files:"
  | .path => utf8 "- path: "
  | .findings => utf8 "  findings:"
  | .rule => utf8 "  - rule: "
  | .line => utf8 "    line: "
  | .message => utf8 "    message: "

def all : List YamlLabel :=
  [.checked, .files, .path, .findings, .rule, .line, .message]

theorem mem_all (label : YamlLabel) : label ∈ all := by
  cases label <;> decide

/-- No label is the beginning of another one. -/
theorem eq_of_text_prefix (label other : YamlLabel) (beginning : label.text <+: other.text) :
    label = other := by
  revert beginning
  cases label <;> cases other <;> decide

end YamlLabel

/-- A line that has been cut after its label. -/
abbrev YamlLine := YamlLabel × Bytes

def YamlLine.bytes (line : YamlLine) : Bytes :=
  line.1.text ++ line.2

def readLine? (bytes : Bytes) : Option YamlLine :=
  Bytes.label? YamlLabel.text YamlLabel.all bytes

/-- The lines of a text in which every line is ended. -/
def endedLines? (text : Bytes) : Option (List Bytes) :=
  let lines := Check.lines text
  if lines.getLast? = some [] then some lines.dropLast else none

/-! ## Scalars -/

def readScalar? (text : Bytes) : Option Bytes :=
  if text.head? = some Quoted.quote then Quoted.decode? text else some text

def readCount? (text : Bytes) : Option Nat :=
  if Numeral.isNatural 10 text then some (Numeral.value 10 text) else none

/-! ## Documents -/

/-- The rows up to the next file, and the files from there on. -/
def readEntries : List YamlLine → Option (List YamlRow × List (Bytes × List YamlRow))
  | [] => some ([], [])
  | (.path, text) :: (.findings, []) :: rest => do
    let path ← readScalar? text
    let (rows, files) ← readEntries rest
    some ([], (path, rows) :: files)
  | (.rule, ruleText) :: (.line, number) :: (.message, messageText) :: rest => do
    let rule ← readScalar? ruleText
    let line ← readCount? number
    let message ← readScalar? messageText
    let (rows, files) ← readEntries rest
    some (⟨rule, some line, message⟩ :: rows, files)
  | (.rule, ruleText) :: (.message, messageText) :: rest => do
    let rule ← readScalar? ruleText
    let message ← readScalar? messageText
    let (rows, files) ← readEntries rest
    some (⟨rule, none, message⟩ :: rows, files)
  | _ => none

/-- The document of some lines: the count, and no files or the files. -/
def YamlDocument.ofLines? : List YamlLine → Option YamlDocument
  | (.checked, count) :: (.files, mark) :: rest => do
    let checked ← readCount? count
    if mark = [] then
      match ← readEntries rest with
      | ([], files) => some ⟨checked, files⟩
      | _ => none
    else if mark = utf8 " []" && rest.isEmpty then
      some ⟨checked, []⟩
    else
      none
  | _ => none

def YamlDocument.read? (report : Bytes) : Option YamlDocument := do
  let lines ← endedLines? report
  let labelled ← lines.mapM readLine?
  YamlDocument.ofLines? labelled

/-! ## Reading single lines -/

theorem readLine?_bytes (line : YamlLine) : readLine? line.bytes = some line :=
  Bytes.label?_append YamlLabel.eq_of_text_prefix (YamlLabel.mem_all line.1) line.2

theorem endedLines?_unlines {lines : List Bytes}
    (oneLine : ∀ line ∈ lines, Check.lineFeed ∉ line) :
    endedLines? (unlines lines) = some lines := by
  simp only [endedLines?, lines_unlines oneLine, List.getLast?_concat, List.dropLast_concat,
    if_true]

theorem readCount?_decimal (n : Nat) : readCount? (decimal n) = some n := by
  rcases decimal_eq_cons n with ⟨first, others, written, _⟩
  have natural : Numeral.isNatural 10 (decimal n) = true := by
    have digits : (decimal n).all (Numeral.isDigitOf 10) = true :=
      List.all_eq_true.mpr (decimal_all_digits n)
    rw [Numeral.isNatural, digits, written]
    rfl
  rw [readCount?, if_pos natural, value_decimal]

end Report
end PhpLint
