import PhpLint.Proofs.RegexMatching
import PhpLint.Proofs.Utf8
import PhpLint.Regex.Pattern

namespace PhpLint
namespace Regex

/-!
# Literals as regular expressions

A text without operators is read as a regular expression that matches its characters one
after another. So it is found exactly in the subjects in which its characters stand one after
another.
-/

/-- The characters that may begin something other than a literal. -/
def operators : List Char :=
  ['(', '|', ')', '^', '$', '.', '[', '*', '+', '?', '\x7b', '\\']

/-- The expression for a character and those after it. -/
def literal (c : Char) : List Char → Expr
  | [] => .char (.single c.toNat false)
  | d :: rest => .seq (.char (.single c.toNat false)) (literal d rest)

/-! ## Reading -/

theorem startsWith_iff {c d : Char} (low : d.toNat < 0x80) (rest : Bytes) :
    startsWith d (String.utf8EncodeChar c ++ rest) = true ↔ c = d := by
  have code : (Bytes.ascii d).toNat = d.toNat := by
    rw [Bytes.ascii, UInt8.toNat_ofNat']
    omega
  rcases Utf8.utf8EncodeChar_eq_cons c with ⟨first, others, encoded, _, _⟩
  rw [startsWith, encoded, List.cons_append, List.head?_cons, beq_iff_eq, Option.some.injEq]
  constructor
  · rintro rfl
    have standsForItself := Utf8.forall_mem_utf8EncodeChar c (Bytes.ascii d)
      (encoded ▸ List.mem_cons_self)
    rw [code] at standsForItself
    exact Char.toNat_inj.mp (standsForItself.resolve_left (Nat.not_le.mpr low)).symm
  · rintro rfl
    have small : c.val.toNat ≤ 127 := Nat.lt_succ_iff.mp low
    rw [String.utf8EncodeChar, if_pos small] at encoded
    exact (List.cons.inj encoded).1.symm

theorem nextChar_utf8EncodeChar_append (c : Char) (rest : Bytes) :
    nextChar (String.utf8EncodeChar c ++ rest) = .ok (c, rest) := by
  have found := Utf8.front?_eq_some_iff.mpr
    ⟨List.prefix_append (String.utf8EncodeChar c) rest, rfl⟩
  simp only [nextChar, found, List.drop_left]

namespace Reader

theorem step_of_not_mem_operators (reader : Reader) {c : Char} (plain : c ∉ operators)
    (rest : Bytes) :
    reader.step (String.utf8EncodeChar c ++ rest) = .ok (reader.pushLiteral c.toNat, rest) := by
  have notOperator : ∀ d ∈ operators,
      startsWith d (String.utf8EncodeChar c ++ rest) = false := by
    intro d isOperator
    have allLow : operators.all (fun d => d.toNat < 0x80) = true := by
      decide
    have low : d.toNat < 0x80 := of_decide_eq_true (List.all_eq_true.mp allLow d isOperator)
    apply Bool.eq_false_iff.mpr
    intro starts
    rw [(startsWith_iff low rest).mp starts] at plain
    exact plain isOperator
  simp only [operators, List.forall_mem_cons, List.not_mem_nil, false_implies, implies_true,
    and_true] at notOperator
  simp only [step, notOperator, Bool.false_eq_true, if_false, nextChar_utf8EncodeChar_append]
  rfl

theorem run_nil (fuel : Nat) (reader : Reader) : run fuel reader [] = .ok reader := by
  cases fuel <;> rfl

theorem run_of_step {reader next : Reader} {b : UInt8} {text rest : Bytes}
    (stepped : reader.step (b :: text) = .ok (next, rest)) (fuel : Nat) :
    run (fuel + 1) reader (b :: text) = run fuel next rest := by
  simp only [run, stepped]

/-- Every character of a text without operators is pushed as a literal. -/
theorem run_encode_append {text : List Char} (plain : ∀ c ∈ text, c ∉ operators) (fuel : Nat)
    (reader : Reader) (rest : Bytes) :
    run (fuel + text.length) reader (Utf8.encode text ++ rest) =
      run fuel (text.foldl (fun (pushed : Reader) c => pushed.pushLiteral c.toNat) reader)
        rest := by
  induction text generalizing reader with
  | nil => rfl
  | cons c others inductionHypothesis =>
    have stepped := reader.step_of_not_mem_operators (plain c List.mem_cons_self)
      (Utf8.encode others ++ rest)
    have later := inductionHypothesis (fun d member => plain d (List.mem_cons_of_mem c member))
      (reader.pushLiteral c.toNat)
    rcases Utf8.utf8EncodeChar_eq_cons c with ⟨first, more, encoded, _, _⟩
    rw [Utf8.encode, List.flatMap_cons, ← Utf8.encode, List.foldl_cons, List.append_assoc,
      List.length_cons, ← Nat.add_assoc]
    rw [encoded, List.cons_append] at stepped ⊢
    exact (run_of_step stepped _).trans later

/-- The part of a single character where case matters. -/
def literalPart (c : Char) : Part :=
  ⟨.char (.single c.toNat false), 1, .literal false true⟩

theorem pushLiteral_eq_push {reader : Reader} (caseMatters : reader.flags.ignoreCase = false)
    (c : Char) : reader.pushLiteral c.toNat = reader.push (literalPart c) := by
  rw [pushLiteral, caseMatters]
  rfl

theorem foldl_pushLiteral {reader : Reader} (caseMatters : reader.flags.ignoreCase = false)
    (c : Char) (rest : List Char) :
    (c :: rest).foldl (fun (pushed : Reader) c => pushed.pushLiteral c.toNat) reader =
      { reader with
        group := { reader.group with
          parts := ((c :: rest).map literalPart).reverse ++ reader.group.parts }
        repetition? := none } := by
  induction rest generalizing c reader with
  | nil => exact pushLiteral_eq_push caseMatters c
  | cons d rest inductionHypothesis =>
    have sameFlags : (reader.push (literalPart c)).flags.ignoreCase = false := caseMatters
    rw [List.foldl_cons, pushLiteral_eq_push caseMatters, inductionHypothesis sameFlags]
    simp only [push, List.map_cons, List.reverse_cons, List.append_assoc, List.singleton_append]
    rfl

end Reader

/-- Literals that stand next to each other form one. -/
theorem foldr_joinLiterals (c : Char) (rest : List Char) :
    ((c :: rest).map Reader.literalPart).foldr Part.joinLiterals [] =
      [⟨literal c rest, 1, .literal false rest.isEmpty⟩] := by
  induction rest generalizing c with
  | nil => rfl
  | cons d rest inductionHypothesis =>
    rw [List.map_cons, List.foldr_cons, inductionHypothesis]
    rfl

/-- A text without operators is one alternative. -/
theorem Reader.endAlternative_literal (reader : Reader) (c : Char) (rest : List Char) :
    endAlternative { reader with
        group := { reader.group with parts := ((c :: rest).map literalPart).reverse } } =
      .ok { reader with
        group := { reader.group with
          finished := Part.addAlternative reader.group.finished
            ⟨literal c rest, 1, .literal false rest.isEmpty⟩
          parts := [] }
        repetition? := none } := by
  have sequence : Part.sequence ((c :: rest).map literalPart) =
      ⟨literal c rest, 1, .literal false rest.isEmpty⟩ := by
    rw [Part.sequence, foldr_joinLiterals]
  simp only [endAlternative, List.reverse_reverse, sequence]
  rfl

/-- A text without operators is read as a literal. -/
theorem parse_encode {c : Char} {rest : List Char} (plain : ∀ d ∈ c :: rest, d ∉ operators) :
    parse (Utf8.encode (c :: rest)) = .ok (literal c rest) := by
  rcases Nat.exists_eq_add_of_le' (Utf8.length_le_length_encode (c :: rest)) with ⟨fuel, enough⟩
  have read := Reader.run_encode_append plain fuel { whole := Utf8.encode (c :: rest) } []
  rw [Reader.foldl_pushLiteral rfl, List.append_nil, List.append_nil, Reader.run_nil] at read
  have ended := Reader.endAlternative_literal { whole := Utf8.encode (c :: rest) } c rest
  simp only [parse, enough, read, Reader.finishGroup, ended]
  rfl

/-! ## Matching -/

theorem mem_single_iff {n : Nat} {c : Char} :
    (CharClass.single n false).mem c = true ↔ c.toNat = n := by
  simp only [CharClass.single, CharClass.mem, CharClass.inRanges, Unicode.Ranges.mem,
    Bool.false_eq_true, if_false, List.any_cons, List.any_nil, Bool.or_false, Bool.bne_false,
    Bool.and_eq_true, decide_eq_true_eq]
  omega

theorem cons_prefix_drop_iff {subject : List Char} {start : Nat} {c : Char} {rest : List Char} :
    c :: rest <+: subject.drop start ↔
      subject[start]? = some c ∧ rest <+: subject.drop (start + 1) := by
  by_cases inside : start < subject.length
  · rw [List.drop_eq_getElem_cons inside, List.cons_prefix_cons, List.getElem?_eq_getElem inside,
      Option.some.injEq, eq_comm]
  · have outside := Nat.not_lt.mp inside
    simp [List.drop_eq_nil_of_le outside, List.getElem?_eq_none outside]

theorem spans_single_iff {subject : List Char} {c : Char} {start stop : Nat} :
    Expr.Spans subject (.char (.single c.toNat false)) start stop ↔
      subject[start]? = some c ∧ stop = start + 1 := by
  simp only [Expr.Spans, mem_single_iff, Char.toNat_inj, exists_eq_right]
  exact and_comm

/-- A literal spans the occurrences of its characters. -/
theorem spans_literal_iff {subject : List Char} (c : Char) (rest : List Char) {start stop : Nat} :
    Expr.Spans subject (literal c rest) start stop ↔
      c :: rest <+: subject.drop start ∧ stop = start + (c :: rest).length := by
  induction rest generalizing c start with
  | nil =>
    simp only [literal, spans_single_iff, cons_prefix_drop_iff, List.nil_prefix, and_true,
      List.length_singleton]
  | cons d rest inductionHypothesis =>
    rw [literal, Expr.Spans, cons_prefix_drop_iff]
    simp only [inductionHypothesis, spans_single_iff]
    constructor
    · rintro ⟨_, ⟨here, rfl⟩, later, rfl⟩
      refine ⟨⟨here, later⟩, ?_⟩
      simp only [List.length_cons]
      omega
    · rintro ⟨⟨here, later⟩, rfl⟩
      refine ⟨start + 1, ⟨here, rfl⟩, later, ?_⟩
      simp only [List.length_cons]
      omega

/-- A literal is found where its characters stand one after another. -/
theorem foundIn_literal_iff {subject : List Char} (c : Char) (rest : List Char) :
    (literal c rest).foundIn subject = true ↔ c :: rest <:+: subject := by
  simp only [foundIn_iff, spans_literal_iff]
  rw [List.infix_iff_prefix_suffix]
  constructor
  · rintro ⟨start, _, _, occurs, _⟩
    exact ⟨subject.drop start, occurs, List.drop_suffix start subject⟩
  · rintro ⟨tail, occurs, isSuffix⟩
    rw [List.suffix_iff_eq_drop.mp isSuffix] at occurs
    exact ⟨_, _, Nat.sub_le _ _, occurs, rfl⟩

end Regex
end PhpLint
