import PhpLint.Proofs.FunctionHeaders
import PhpLint.Proofs.PlainPatterns

namespace PhpLint

/-!
# The pattern of function headers

The form of a function header can be written as a regular expression. It is read as an anchored
sequence of two repeated classes around an optional word, and then the word `function`. Apart
from the anchor, such an expression spans the occurrences of the words of a language, so the
lines in which it is found can be read off it. Although a regular expression is searched for
among characters, in which a stray byte stands for the replacement character, these are exactly
the lines that begin a function definition.
-/

namespace Regex

/-! ## Languages of expressions -/

/-- The expression spans the occurrences of the words of a language. -/
structure Denotes (expr : Expr) (Language : List Char → Prop) : Prop where
  spans_iff : ∀ {subject : List Char} {start stop : Nat}, Expr.Spans subject expr start stop ↔
    ∃ word, Language word ∧ word <+: subject.drop start ∧ stop = start + word.length

section Denotes

variable {first second : Expr} {Language Other : List Char → Prop}

theorem Denotes.congr (isFirst : Denotes first Language)
    (same : ∀ word, Language word ↔ Other word) : Denotes first Other := by
  constructor
  intro subject start stop
  simp only [isFirst.spans_iff, same]

theorem denotes_empty : Denotes .empty (· = []) := by
  constructor
  intro subject start stop
  simp only [Expr.Spans, exists_eq_left, List.nil_prefix, true_and, List.length_nil, Nat.add_zero]
  exact eq_comm

theorem denotes_literal (c : Char) (rest : List Char) :
    Denotes (literal c rest) (· = c :: rest) := by
  constructor
  intro subject start stop
  simp only [spans_literal_iff, exists_eq_left]

theorem append_prefix_drop_iff {subject word other : List Char} {start : Nat} :
    word ++ other <+: subject.drop start ↔
      word <+: subject.drop start ∧ other <+: subject.drop (start + word.length) := by
  induction word generalizing start with
  | nil => simp only [List.nil_append, List.nil_prefix, true_and, List.length_nil, Nat.add_zero]
  | cons c rest inductionHypothesis =>
    have moved : start + (c :: rest).length = start + 1 + rest.length := by
      rw [List.length_cons]
      omega
    rw [List.cons_append, cons_prefix_drop_iff, cons_prefix_drop_iff, inductionHypothesis, moved,
      and_assoc]

theorem Denotes.seq (isFirst : Denotes first Language) (isSecond : Denotes second Other) :
    Denotes (.seq first second)
      (fun word => ∃ front back, Language front ∧ Other back ∧ word = front ++ back) := by
  constructor
  intro subject start stop
  simp only [Expr.Spans, isFirst.spans_iff, isSecond.spans_iff]
  constructor
  · rintro ⟨_, ⟨front, inFirst, here, rfl⟩, back, inSecond, later, rfl⟩
    refine ⟨_, ⟨front, back, inFirst, inSecond, rfl⟩, append_prefix_drop_iff.mpr ⟨here, later⟩, ?_⟩
    rw [List.length_append, Nat.add_assoc]
  · rintro ⟨_, ⟨front, back, inFirst, inSecond, rfl⟩, occurs, rfl⟩
    rcases append_prefix_drop_iff.mp occurs with ⟨here, later⟩
    refine ⟨_, ⟨front, inFirst, here, rfl⟩, back, inSecond, later, ?_⟩
    rw [List.length_append, Nat.add_assoc]

theorem Denotes.alt (isFirst : Denotes first Language) (isSecond : Denotes second Other) :
    Denotes (.alt first second) (fun word => Language word ∨ Other word) := by
  constructor
  intro subject start stop
  simp only [Expr.Spans, isFirst.spans_iff, isSecond.spans_iff, or_and_right, exists_or]

theorem Denotes.optional (isFirst : Denotes first Language) :
    Denotes (.repeated first 0 (some 1)) (fun word => word = [] ∨ Language word) := by
  constructor
  intro subject start stop
  have zeroOrOne : ∀ further : Nat, (∀ bound ∈ some 1, further ≤ bound - 0) ↔
      further = 0 ∨ further = 1 := by
    intro further
    simp only [Option.mem_some_iff, forall_eq', Nat.sub_zero]
    omega
  simp only [Expr.Spans, zeroOrOne, or_and_right, exists_or, exists_eq_left, Nat.zero_add, Steps,
    exists_eq_right, isFirst.spans_iff, List.nil_prefix, true_and, List.length_nil, Nat.add_zero]
  exact or_congr eq_comm Iff.rfl

/-- A repeated class stands for the words of its characters. -/
theorem denotes_star (cls : CharClass) :
    Denotes (.repeated (.char cls) 0 none) (fun word => ∀ c ∈ word, cls.mem c = true) := by
  have counted (count : Nat) {subject : List Char} {start stop : Nat} :
      Steps (Expr.Spans subject (.char cls)) count start stop ↔
        ∃ word, (∀ c ∈ word, cls.mem c = true) ∧ word <+: subject.drop start ∧
          word.length = count ∧ stop = start + word.length := by
    induction count generalizing start with
    | zero =>
      simp only [Steps, List.length_eq_zero_iff]
      constructor
      · rintro rfl
        exact ⟨[], fun _ impossible => absurd impossible List.not_mem_nil, List.nil_prefix,
          rfl, rfl⟩
      · rintro ⟨_, _, _, rfl, rfl⟩
        rfl
    | succ count inductionHypothesis =>
      simp only [Steps, inductionHypothesis]
      constructor
      · rintro ⟨_, ⟨rfl, c, here, member⟩, word, members, later, rfl, rfl⟩
        refine ⟨c :: word, List.forall_mem_cons.mpr ⟨member, members⟩,
          cons_prefix_drop_iff.mpr ⟨here, later⟩, rfl, ?_⟩
        rw [List.length_cons]
        omega
      · rintro ⟨_ | ⟨c, word⟩, members, occurs, counts, rfl⟩
        · cases counts
        · rcases List.forall_mem_cons.mp members with ⟨member, membersLater⟩
          rcases cons_prefix_drop_iff.mp occurs with ⟨here, later⟩
          refine ⟨start + 1, ⟨rfl, c, here, member⟩, word, membersLater, later,
            Nat.succ.inj counts, ?_⟩
          rw [List.length_cons]
          omega
  constructor
  intro subject start stop
  simp only [Expr.Spans, Option.not_mem_none, false_implies, implies_true, true_and, Nat.zero_add]
  constructor
  · rintro ⟨count, steps⟩
    rcases (counted count).mp steps with ⟨word, members, occurs, _, stops⟩
    exact ⟨word, members, occurs, stops⟩
  · rintro ⟨word, members, occurs, stops⟩
    exact ⟨word.length, (counted _).mpr ⟨word, members, occurs, rfl, stops⟩⟩

/-- An anchored expression is found in the subjects that begin with a word of the language. -/
theorem Denotes.foundIn_anchored_iff (isFirst : Denotes first Language) {subject : List Char} :
    (Expr.seq (.assertion .textStart) first).foundIn subject = true ↔
      ∃ word, Language word ∧ word <+: subject := by
  have atStart : ∀ position, position ≤ subject.length →
      (Assertion.textStart.holds (before? none subject position) subject[position]? = true ↔
        position = 0) := by
    intro position inside
    cases position with
    | zero => simp [Assertion.holds, before?]
    | succ position => simp [Assertion.holds, before?, Nat.not_le.mpr inside]
  rw [foundIn_iff]
  simp only [Expr.Spans, isFirst.spans_iff]
  constructor
  · rintro ⟨start, _, inside, _, ⟨rfl, _, anchored⟩, word, inLanguage, occurs, _⟩
    rw [(atStart start inside).mp anchored, List.drop_zero] at occurs
    exact ⟨word, inLanguage, occurs⟩
  · rintro ⟨word, inLanguage, occurs⟩
    exact ⟨0, _, Nat.zero_le _, 0, ⟨rfl, Nat.zero_le _, rfl⟩, word, inLanguage, occurs, rfl⟩

end Denotes

/-! ## Reading the pattern -/

/-- The class of the characters that indent, as the pattern spells it. -/
def indentText : Bytes :=
  utf8 "[\\s\\v\\x\x7b1c\x7d-\\x\x7b1f\x7d\\x\x7b85\x7d\\p\x7bZ\x7d]"

def indentClass : CharClass where
  sets := [{ ranges := spaceRanges }, { ranges := [(0x0B, 0x0B)] }, { ranges := [(0x1C, 0x1F)] },
    { ranges := [(0x85, 0x85)] }, { ranges := Unicode.categoryRanges "Z".toList.isPrefixOf }]

def indentExpr : Expr :=
  .repeated (.char indentClass) 0 none

def visibilityExpr : Expr :=
  .repeated (.alt (.alt (literal 'p' "ublic".toList) (literal 'p' "rivate".toList))
    (literal 'p' "rotected".toList)) 0 (some 1)

/-- What follows the anchor. -/
def headingExpr : Expr :=
  .seq indentExpr (.seq visibilityExpr (.seq indentExpr
    (.seq (literal 'f' "unction".toList) .empty)))

theorem readClass_indentText (rest : Bytes) :
    readClass false (indentText ++ rest) = .ok (indentClass, rest) := by
  rfl

namespace Reader

theorem run_indentText (fuel : Nat) {reader : Reader}
    (caseMatters : reader.flags.ignoreCase = false) (rest : Bytes) :
    run (fuel + 1) reader (indentText ++ rest) = run fuel (reader.pushClass indentClass) rest := by
  have others : ∀ d ∈ ['(', '|', ')', '^', '$', '.'],
      startsWith d (indentText ++ rest) = false := by
    simp only [List.forall_mem_cons, List.not_mem_nil, false_implies, implies_true, and_true]
    exact ⟨rfl, rfl, rfl, rfl, rfl, rfl⟩
  have opens : startsWith '[' (indentText ++ rest) = true := rfl
  have stepped : reader.step (indentText ++ rest) = .ok (reader.pushClass indentClass, rest) := by
    simp only [List.forall_mem_cons, List.not_mem_nil, false_implies, implies_true, and_true]
      at others
    simp only [step, others, opens, Bool.false_eq_true, if_false, if_true, caseMatters,
      readClass_indentText]
    rfl
  exact run_of_step stepped fuel

/-- A reader outside of groups. -/
def outside (whole : Bytes) (parts : List Part) (repetition? : Option Bytes) : Reader where
  whole := whole
  group := { parts := parts }
  repetition? := repetition?

/-- A reader in a group, before an alternative. -/
def inside (whole : Bytes) (before finished : List Part) : Reader where
  whole := whole
  enclosing := [{ parts := before }]
  group := { finished := finished, capturing := true }

def anchorPart : Part :=
  ⟨.assertion .textStart, 1, .other⟩

def indentPart : Part :=
  ⟨indentExpr, 2, .other⟩

def visibilityPart : Part :=
  ⟨visibilityExpr, 4, .other⟩

def wordPart (c : Char) (rest : List Char) : Part :=
  ⟨literal c rest, 1, .literal false rest.isEmpty⟩

section Steps

variable (whole : Bytes) (fuel : Nat) (rest : Bytes)

theorem run_anchor :
    run (fuel + 1) { whole := whole } (utf8 "^" ++ rest) =
      run fuel (outside whole [anchorPart] none) rest := by
  rfl

theorem run_opening (plain : startsWith '?' rest = false) :
    run (fuel + 2) ((outside whole [anchorPart] none).pushClass indentClass)
        (utf8 "*(" ++ rest) =
      run fuel (inside whole [indentPart, anchorPart] []) rest := by
  -- a question mark would begin a group with flags or a name
  have opened : (outside whole [indentPart, anchorPart] (some (utf8 "*(" ++ rest))).step
      (utf8 "(" ++ rest) = .ok (inside whole [indentPart, anchorPart] [], rest) :=
    if_neg (Bool.eq_false_iff.mp plain)
  calc run (fuel + 2) ((outside whole [anchorPart] none).pushClass indentClass)
        (utf8 "*(" ++ rest)
      = run (fuel + 1) (outside whole [indentPart, anchorPart] (some (utf8 "*(" ++ rest)))
          (utf8 "(" ++ rest) := by rfl
    _ = run fuel (inside whole [indentPart, anchorPart] []) rest := run_of_step opened fuel

/-- A word and a bar after it are an alternative. -/
theorem run_alternative {c : Char} {word : List Char} (plain : ∀ d ∈ c :: word, d ∉ operators)
    (before finished : List Part) :
    run (fuel + 1 + (c :: word).length) (inside whole before finished)
        (Utf8.encode (c :: word) ++ (utf8 "|" ++ rest)) =
      run fuel (inside whole before (Part.addAlternative finished (wordPart c word))) rest := by
  have caseMatters : (inside whole before finished).flags.ignoreCase = false := rfl
  have noParts : (inside whole before finished).group.parts = [] := rfl
  have ended := endAlternative_literal (inside whole before finished) c word
  rw [run_encode_append plain, foldl_pushLiteral caseMatters, noParts, List.append_nil]
  apply run_of_step
  exact congrArg (Except.map fun reader => (reader, rest)) ended

theorem run_closing :
    run (fuel + 11) (inside whole [indentPart, anchorPart]
        [wordPart 'p' "rivate".toList, wordPart 'p' "ublic".toList])
        (utf8 "protected)?" ++ (indentText ++ rest)) =
      run fuel (outside whole [visibilityPart, indentPart, anchorPart]
        (some (utf8 "?" ++ (indentText ++ rest)))) (indentText ++ rest) := by
  rfl

theorem run_function (repetition? : Option Bytes) :
    run (fuel + 9) ((outside whole [visibilityPart, indentPart, anchorPart]
        repetition?).pushClass indentClass) (utf8 "*function" ++ rest) =
      run fuel (outside whole (("function".toList.map literalPart).reverse ++
        [indentPart, visibilityPart, indentPart, anchorPart]) none) rest := by
  rfl

end Steps

end Reader

/-- The beginning of a function definition as a regular expression. -/
def headerPattern : Bytes :=
  utf8 "^[\\s\\v\\x\x7b1c\x7d-\\x\x7b1f\x7d\\x\x7b85\x7d\\p\x7bZ\x7d]*" ++
    utf8 "(public|private|protected)?" ++
    utf8 "[\\s\\v\\x\x7b1c\x7d-\\x\x7b1f\x7d\\x\x7b85\x7d\\p\x7bZ\x7d]*function"

theorem headerPattern_eq :
    headerPattern = utf8 "^" ++ (indentText ++ (utf8 "*(" ++ (utf8 "public" ++ (utf8 "|" ++
      (utf8 "private" ++ (utf8 "|" ++ (utf8 "protected)?" ++ (indentText ++
        (utf8 "*function" ++ []))))))))) := by
  decide

theorem not_mem_operators {word : List Char} (plain : word.all (· ∉ operators) = true) :
    ∀ d ∈ word, d ∉ operators :=
  fun d member => of_decide_eq_true (List.all_eq_true.mp plain d member)

theorem run_headerPattern (whole : Bytes) (fuel : Nat) :
    Reader.run (fuel + 40) { whole := whole } headerPattern =
      .ok (Reader.outside whole (("function".toList.map Reader.literalPart).reverse ++
        [Reader.indentPart, Reader.visibilityPart, Reader.indentPart, Reader.anchorPart])
          none) := by
  have plainPublic : ∀ d ∈ 'p' :: "ublic".toList, d ∉ operators :=
    not_mem_operators (by decide)
  have plainPrivate : ∀ d ∈ 'p' :: "rivate".toList, d ∉ operators :=
    not_mem_operators (by decide)
  rw [headerPattern_eq, Reader.run_anchor, Reader.run_indentText _ rfl,
    Reader.run_opening _ _ _ rfl]
  refine (Reader.run_alternative _ _ _ plainPublic _ _).trans ?_
  refine (Reader.run_alternative _ _ _ plainPrivate _ _).trans ?_
  refine (Reader.run_closing _ _ _).trans ?_
  rw [Reader.run_indentText _ rfl, Reader.run_function, Reader.run_nil]

theorem parse_headerPattern :
    parse headerPattern = .ok (.seq (.assertion .textStart) headingExpr) := by
  have length : headerPattern.length = 58 + 40 := by
    decide
  simp only [parse, length, run_headerPattern]
  rfl

/-! ## What the pattern means -/

theorem mem_indentClass_iff {c : Char} : indentClass.mem c = true ↔ Check.Indents c := by
  have separator : Unicode.HasCategory c 'Z' ↔
      (Unicode.categoryRanges "Z".toList.isPrefixOf).mem c.toNat = true :=
    Unicode.hasCategory_iff
  rw [Check.Indents, separator]
  simp only [indentClass, CharClass.mem, CharClass.inRanges, List.any_cons, List.any_nil,
    Bool.false_eq_true, if_false, Bool.bne_false, Bool.or_false, Bool.or_eq_true]
  cases (Unicode.categoryRanges "Z".toList.isPrefixOf).mem c.toNat with
  | true => simp only [or_true]
  | false =>
    simp only [spaceRanges, Unicode.Ranges.mem, List.any_cons, List.any_nil, Bool.or_false,
      Bool.or_eq_true, Bool.and_eq_true, decide_eq_true_eq, Bool.false_eq_true, or_false]
    omega

theorem denotes_visibilityExpr :
    Denotes visibilityExpr
      (fun word => ∃ visibility ∈ ["", "public", "private", "protected"],
        word = visibility.toList) := by
  have words := ((denotes_literal 'p' "ublic".toList).alt (denotes_literal 'p' "rivate".toList)).alt
    (denotes_literal 'p' "rotected".toList)
  apply words.optional.congr
  intro word
  simp only [List.mem_cons, List.not_mem_nil, or_false, exists_eq_or_imp, exists_eq_left, or_assoc]
  rfl

theorem denotes_headingExpr : Denotes headingExpr Check.IsHeading := by
  have indents := denotes_star indentClass
  have last := (denotes_literal 'f' "unction".toList).seq denotes_empty
  apply (indents.seq (denotes_visibilityExpr.seq (indents.seq last))).congr
  intro word
  simp only [mem_indentClass_iff, Check.IsHeading]
  constructor
  · rintro ⟨before, _, isBefore, ⟨_, _, ⟨visibility, listed, rfl⟩, ⟨after, _, isAfter,
      ⟨_, _, rfl, rfl, rfl⟩, rfl⟩, rfl⟩, rfl⟩
    exact ⟨before, visibility, after, isBefore, listed, isAfter, rfl⟩
  · rintro ⟨before, visibility, after, isBefore, listed, isAfter, rfl⟩
    exact ⟨before, _, isBefore, ⟨_, _, ⟨visibility, listed, rfl⟩, ⟨after, _, isAfter,
      ⟨_, _, rfl, rfl, rfl⟩, rfl⟩, rfl⟩, rfl⟩

end Regex

namespace Check

open Regex (headerPattern)

theorem replacement_not_mem_of_isHeading {characters : List Char}
    (heading : IsHeading characters) : Utf8.replacement ∉ characters := by
  have notIndent : ¬ Indents Utf8.replacement := by
    rw [indents_iff]
    decide
  rcases heading with ⟨before, visibility, after, isBefore, listed, isAfter, rfl⟩
  have notInVisibility : Utf8.replacement ∉ visibility.toList := by
    simp only [List.mem_cons, List.not_mem_nil, or_false] at listed
    rcases listed with rfl | rfl | rfl | rfl <;> decide
  have notInFunction : Utf8.replacement ∉ "function".toList := by
    decide
  simp only [List.mem_append, not_or]
  exact ⟨fun member => notIndent (isBefore _ member), notInVisibility,
    fun member => notIndent (isAfter _ member), notInFunction⟩

theorem foundIn_headerPattern_iff (line : Bytes) :
    (Regex.Expr.seq (.assertion .textStart) Regex.headingExpr).foundIn (Utf8.chars line) = true ↔
      IsHeader line := by
  rw [Regex.denotes_headingExpr.foundIn_anchored_iff, isHeader_iff_isHeading]
  apply exists_congr
  intro characters
  apply and_congr_right
  intro heading
  exact Utf8.prefix_chars_iff (replacement_not_mem_of_isHeading heading)

/-- Whatever its bytes are, a line begins a function definition exactly if it is made of
indentation, at most one visibility, indentation, the word `function`, and any bytes, where
indentation is made of the encodings of characters that indent. The pattern of function headers
can be read as a regular expression, and it is found in exactly these lines. A byte that is part
of no encoding is not part of a header: together with what follows it, it makes no difference. -/
theorem function_headers_are_exact :
    (∀ line, isFunctionHeader line = true ↔ IsHeader line) ∧
    (∃ expr, Regex.parse headerPattern = .ok expr ∧
      ∀ line, expr.foundIn (Utf8.chars line) = true ↔ IsHeader line) ∧
    ∀ front b rest, Utf8.IsStray front b rest →
      isFunctionHeader (front ++ b :: rest) = isFunctionHeader front := by
  refine ⟨isFunctionHeader_iff, ⟨_, Regex.parse_headerPattern, foundIn_headerPattern_iff⟩, ?_⟩
  intro front b rest stray
  rw [Bool.eq_iff_iff, isFunctionHeader_iff, isFunctionHeader_iff]
  exact isHeader_append_stray_iff stray

/-- A visibility between a next line character and a space without break, and a byte after the
word that is no text. -/
def indentedHeader : Bytes :=
  Utf8.encode ['\u0085'] ++ utf8 "private" ++ Utf8.encode ['\u00a0'] ++ utf8 "function" ++ [0xFF]

/-- The last bytes of the encodings of these characters do not indent on their own. -/
theorem function_headers_are_exact_at_stray_bytes :
    IsHeader indentedHeader ∧ ¬ IsHeader (0x85 :: utf8 "function") ∧
      ¬ IsHeader (utf8 "public" ++ 0xA0 :: utf8 "function") := by
  rcases function_headers_are_exact with ⟨exact, -, ignored⟩
  have strayNextLine : Utf8.IsStray [] 0x85 (utf8 "function") := by
    apply Utf8.isStray_of_isContinuation ⟨by decide, by decide⟩
    intro d impossible
    cases impossible
  have strayBreak : Utf8.IsStray (utf8 "public") 0xA0 (utf8 "function") := by
    have ends : (utf8 "public").getLast? = some (Bytes.ascii 'c') := by
      decide
    apply Utf8.isStray_of_isContinuation ⟨by decide, by decide⟩
    intro d isLast
    cases ends.symm.trans isLast
    decide
  refine ⟨(exact _).mp (by decide), ?_, ?_⟩
  · rw [← List.nil_append (0x85 :: utf8 "function"), ← exact, ignored _ _ _ strayNextLine]
    decide
  · rw [← exact, ignored _ _ _ strayBreak]
    decide

end Check
end PhpLint
