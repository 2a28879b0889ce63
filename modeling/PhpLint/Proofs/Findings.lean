import PhpLint.Files.Disk
import PhpLint.Files.Memory
import PhpLint.Proofs.Check
import PhpLint.Proofs.Location
import PhpLint.Proofs.Numeral
import PhpLint.Proofs.Utf8
import PhpLint.Run

namespace PhpLint

/-!
# What findings look like

Every finding of a file has one of four forms, and the form settles its rule,
whether it has a line, and how its message begins. The only text of a file that
gets into a message is one trimmed line, and the only text of a path is that of
an error, so a message never runs over several lines unless the path does.
-/

/-! ## Trimming -/

theorem Utf8.mem_unpieces {b : UInt8} {pieces : List Utf8.Piece} :
    b ∈ Utf8.unpieces pieces ↔ ∃ piece ∈ pieces, b ∈ piece.bytes :=
  List.mem_flatMap

/-- Trimming only takes bytes away. -/
theorem Bytes.mem_of_mem_trim {b : UInt8} {text : Bytes} (member : b ∈ Bytes.trim text) :
    b ∈ text := by
  rcases Utf8.mem_unpieces.mp member with ⟨piece, kept, inPiece⟩
  have afterRight := (List.dropWhile_sublist _).subset (List.mem_reverse.mp kept)
  have afterLeft := (List.dropWhile_sublist _).subset (List.mem_reverse.mp afterRight)
  rw [← Utf8.unpieces_pieces text]
  exact Utf8.mem_unpieces.mpr ⟨piece, afterLeft, inPiece⟩

namespace Check

/-- The forms of the findings of a file. -/
inductive Reported (files : Files) (path : Bytes) : Finding → Prop where
  | braces (opening closing : Nat) :
      Reported files path { braceFinding opening closing with file := path }
  | parentheses (number : Nat) (positive : 0 < number) :
      Reported files path { parenthesisFinding number with file := path }
  | semicolon (number : Nat) (line : Bytes) (positive : 0 < number)
      (oneLine : lineFeed ∉ line) :
      Reported files path { semicolonFinding number line with file := path }
  | unreadable (error : FileError) (unread : files.read path = .error error) :
      Reported files path
        { file := path
          rule := .readError
          message := utf8 "Error reading file: " ++ error.message }

theorem content_reported {files : Files} {path text : Bytes} {finding : Finding}
    (member : finding ∈ (content path text).findings) : Reported files path finding := by
  rcases mem_content_iff.mp member with
    ⟨_, rfl⟩ | ⟨index, line, rest, _, _, rfl⟩ | ⟨index, line, found, _, rfl⟩
  · exact .braces _ _
  · exact .parentheses (index + 1) (Nat.succ_pos index)
  · -- a line of the file has no line feed, so neither has what is left of it
    have oneLine : lineFeed ∉ Bytes.trim line := fun inside =>
      Bytes.not_mem_of_mem_split (List.mem_of_getElem? found) (Bytes.mem_of_mem_trim inside)
    exact .semicolon (index + 1) _ (Nat.succ_pos index) oneLine

end Check

open Check

theorem checkFile_file (files : Files) (path : Bytes) : (checkFile files path).file = path := by
  unfold checkFile
  cases files.read path <;> rfl

/-- Every finding of a file has one of the four forms. -/
theorem checkFile_reported {files : Files} {path : Bytes} {finding : Finding}
    (member : finding ∈ (checkFile files path).findings) : Reported files path finding := by
  unfold checkFile at member
  cases content : files.read path with
  | ok text =>
    rw [content] at member
    exact content_reported member
  | error error =>
    rw [content] at member
    rw [List.mem_singleton.mp member]
    exact .unreadable error content

/-- Findings name the file of their result. -/
theorem checkFile_finding_file {files : Files} {path : Bytes} {finding : Finding}
    (member : finding ∈ (checkFile files path).findings) :
    finding.file = (checkFile files path).file := by
  rw [checkFile_file]
  cases checkFile_reported member <;> rfl

/-! ## Lines and messages -/

/-- What the messages of a rule begin with. For parentheses that is the whole message. -/
def Rule.opening : Rule → Bytes
  | .braceMismatch => utf8 "Brace mismatch: "
  | .unmatchedParentheses => utf8 "Possible unmatched parentheses in function definition"
  | .missingSemicolon => utf8 "Missing semicolon after return statement: "
  | .readError => utf8 "Error reading file: "

/-- The rule can be told from the message. -/
theorem Rule.eq_of_opening_prefix (rule other : Rule) (beginning : rule.opening <+: other.opening) :
    rule = other := by
  revert beginning
  cases rule <;> cases other <;> decide

namespace Check.Reported

variable {files : Files} {path : Bytes} {finding : Finding}

theorem message_eq (reported : Reported files path finding) :
    ∃ rest, finding.message = finding.rule.opening ++ rest ∧
      (finding.rule = .unmatchedParentheses → rest = []) := by
  cases reported with
  | braces opening closing =>
    refine ⟨decimal opening ++ utf8 " opening, " ++ decimal closing ++ utf8 " closing", ?_, ?_⟩
    · simp only [braceFinding, Rule.opening, List.append_assoc]
    · intro impossible
      cases impossible
  | parentheses number positive => exact ⟨[], (List.append_nil _).symm, fun _ => rfl⟩
  | semicolon number line positive oneLine =>
    refine ⟨line, rfl, ?_⟩
    intro impossible
    cases impossible
  | unreadable error unread =>
    refine ⟨error.message, rfl, ?_⟩
    intro impossible
    cases impossible

/-- Findings about the file as a whole are those of braces and of reading. -/
theorem line_eq_zero_iff (reported : Reported files path finding) :
    finding.line = 0 ↔ finding.rule = .braceMismatch ∨ finding.rule = .readError := by
  cases reported with
  | braces opening closing => exact ⟨fun _ => Or.inl rfl, fun _ => rfl⟩
  | parentheses number positive =>
    have hasLine : number ≠ 0 := by omega
    simp [parenthesisFinding, hasLine]
  | semicolon number line positive oneLine =>
    have hasLine : number ≠ 0 := by omega
    simp [semicolonFinding, hasLine]
  | unreadable error unread => exact ⟨fun _ => Or.inr rfl, fun _ => rfl⟩

end Check.Reported

/-! ## What errors say -/

/-- The errors of a view bring no such byte into a message: if the path that was asked for does not
hold the byte, then what is said about the path does not. -/
def Files.BringsNo (files : Files) (b : UInt8) : Prop :=
  ∀ path error, files.read path = .error error → b ∉ path → b ∉ error.message

/-- Apart from the path, an error is told in visible characters. -/
theorem FileError.not_mem_message {b : UInt8} (control : b.toNat < 0x20) {action : FileAction}
    {path : Bytes} {fault : FileFault} (absent : b ∉ path) :
    b ∉ (FileError.failed action path fault).message := by
  have inWords : ∀ {words : Bytes}, words.all (fun w => 0x20 ≤ w.toNat) = true → b ∉ words := by
    intro words visible member
    have high := of_decide_eq_true (List.all_eq_true.mp visible b member)
    omega
  have inAction : b ∉ action.name := inWords (by cases action <;> decide)
  have inFault : b ∉ fault.description := inWords (by cases fault <;> decide)
  simp only [FileError.message, List.mem_append, not_or]
  exact ⟨⟨⟨⟨inAction, inWords (by decide)⟩, absent⟩, inWords (by decide)⟩, inFault⟩

theorem Memory.bringsNo {b : UInt8} (control : b.toNat < 0x20) (memory : Memory) :
    memory.view.BringsNo b := by
  intro path error unread absent
  have named : error = .failed .opening (locate path).path .absent := by
    simp only [view, openEntry] at unread
    split at unread <;> cases unread
    rfl
  have notSlash : b ≠ Bytes.slash := by
    rintro rfl
    exact absurd control (by decide)
  have notDot : b ∉ Location.dotDot := by
    intro member
    rw [List.eq_of_mem_replicate (show b ∈ List.replicate 2 (Bytes.ascii '.') from member)]
      at control
    exact absurd control (by decide)
  have cleaned : b ∉ (locate path).path := by
    unfold locate keep
    split
    · exact fun member => notSlash (List.mem_singleton.mp member)
    · intro member
      rcases Location.mem_path_ofPath member with slash | dot | inPath
      · exact notSlash slash
      · exact notDot dot
      · exact absent inPath
  rw [named]
  exact FileError.not_mem_message control cleaned

theorem Disk.eq_failed_of_lookup {disk : Disk} {action : FileAction} {path : Bytes}
    {error : FileError} (missing : disk.lookup action path = .error error) :
    ∃ fault, error = .failed action path fault := by
  unfold lookup at missing
  split at missing
  · next fault _ =>
    cases missing
    exact ⟨fault, rfl⟩
  · split at missing
    · cases missing
    · cases missing
      exact ⟨.noEntry, rfl⟩

theorem Disk.bringsNo {b : UInt8} (control : b.toNat < 0x20) (disk : Disk) :
    disk.view.BringsNo b := by
  intro path error unread absent
  have named : ∃ action fault, error = .failed action path fault := by
    simp only [view, read] at unread
    split at unread
    · next missing =>
      cases unread
      exact ⟨.opening, Disk.eq_failed_of_lookup missing⟩
    · cases unread
      exact ⟨.reading, .isDirectory, rfl⟩
    · cases unread
  rcases named with ⟨action, fault, rfl⟩
  exact FileError.not_mem_message control absent

theorem lineFeed_not_mem_decimal (n : Nat) : lineFeed ∉ decimal n := by
  intro member
  exact absurd (decimal_all_digits n lineFeed member) (by decide)

/-- What is said about the content of a file stays on a line. -/
theorem Check.Reported.lineFeed_not_mem_message_of_read {files : Files} {path : Bytes}
    {finding : Finding} (reported : Reported files path finding)
    (isRead : finding.rule ≠ .readError) : lineFeed ∉ finding.message := by
  have inOpening : lineFeed ∉ finding.rule.opening := by
    cases finding.rule <;> decide
  cases reported with
  | braces opening closing =>
    simp only [braceFinding, List.mem_append, not_or]
    exact ⟨⟨⟨⟨inOpening, lineFeed_not_mem_decimal opening⟩, by decide⟩,
      lineFeed_not_mem_decimal closing⟩, by decide⟩
  | parentheses number positive => exact inOpening
  | semicolon number line positive inLine =>
    simp only [semicolonFinding, List.mem_append, not_or]
    exact ⟨inOpening, inLine⟩
  | unreadable error unread => exact absurd rfl isRead

/-- A message stays on its line if the path does. -/
theorem Check.Reported.lineFeed_not_mem_message {files : Files} {path : Bytes} {finding : Finding}
    (reported : Reported files path finding) (brings : files.BringsNo lineFeed)
    (oneLine : lineFeed ∉ path) : lineFeed ∉ finding.message := by
  by_cases isRead : finding.rule = .readError
  · cases reported with
    | braces opening closing => cases isRead
    | parentheses number positive => cases isRead
    | semicolon number line positive inLine => cases isRead
    | unreadable error unread =>
      simp only [List.mem_append, not_or]
      exact ⟨by decide, brings path error unread oneLine⟩
  · exact reported.lineFeed_not_mem_message_of_read isRead

end PhpLint
