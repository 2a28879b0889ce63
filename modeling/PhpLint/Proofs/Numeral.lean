import Mathlib.Algebra.Group.Nat.Defs
import PhpLint.Text.Numeral
import PhpLint.Text.Quoted

namespace PhpLint

/-!
# Written numbers read back

A number is written in decimal without leading zeros, or with a fixed count of
hexadecimal digits.  Both forms consist of digits of their base, and their value
is the number, in the second form as far as the count of digits allows. A reader
of quoted texts and one of JSON both take such digits from the front of a text.
-/

namespace Numeral

theorem digitValue?_digitChar {digit : Nat} (small : digit < 16) :
    digitValue? (Bytes.ascii digit.digitChar) = some digit := by
  have checked : ∀ digit < 16, digitValue? (Bytes.ascii (Nat.digitChar digit)) = some digit := by
    decide
  exact checked digit small

theorem isDigitOf_digitChar {base digit : Nat} (small : digit < 16) (inBase : digit < base) :
    isDigitOf base (Bytes.ascii digit.digitChar) = true := by
  rw [isDigitOf, digitValue?_digitChar small, Option.any_some, decide_eq_true inBase]

theorem value_concat_digitChar (base : Nat) (text : Bytes) {digit : Nat} (small : digit < 16) :
    value base (text ++ [Bytes.ascii digit.digitChar]) = value base text * base + digit := by
  rw [value, List.foldl_append, ← value, List.foldl_cons, List.foldl_nil,
    digitValue?_digitChar small, Option.getD_some]

theorem toNat_of_digitValue? {b : UInt8} {digit : Nat} (found : digitValue? b = some digit) :
    48 ≤ b.toNat ∧ b.toNat < 103 ∧ (digit < 10 → b.toNat ≤ 57) := by
  unfold digitValue? at found
  simp only [Bool.and_eq_true, decide_eq_true_eq, UInt8.le_iff_toNat_le,
    show (Bytes.ascii '0').toNat = 48 from rfl, show (Bytes.ascii '9').toNat = 57 from rfl,
    show (Bytes.ascii 'a').toNat = 97 from rfl, show (Bytes.ascii 'f').toNat = 102 from rfl,
    show (Bytes.ascii 'A').toNat = 65 from rfl, show (Bytes.ascii 'F').toNat = 70 from rfl]
    at found
  split at found
  · cases found
    omega
  · split at found
    · cases found
      omega
    · split at found
      · cases found
        omega
      · cases found

theorem toNat_of_isDigitOf {base : Nat} {b : UInt8} (isDigit : isDigitOf base b = true) :
    48 ≤ b.toNat ∧ b.toNat < 103 ∧ (base ≤ 10 → b.toNat ≤ 57) := by
  rw [isDigitOf] at isDigit
  cases found : digitValue? b with
  | none =>
    rw [found] at isDigit
    cases isDigit
  | some digit =>
    rw [found, Option.any_some, decide_eq_true_eq] at isDigit
    rcases toNat_of_digitValue? found with ⟨low, high, decimal⟩
    exact ⟨low, high, fun small => decimal (by omega)⟩

end Numeral

/-! ## Decimal -/

theorem decimal_of_lt {n : Nat} (small : n < 10) : decimal n = [Bytes.ascii n.digitChar] := by
  rw [decimal, Nat.toDigits_of_lt_base small, List.map_singleton]

theorem decimal_of_le {n : Nat} (large : 10 ≤ n) :
    decimal n = decimal (n / 10) ++ [Bytes.ascii (n % 10).digitChar] := by
  rw [decimal, Nat.toDigits_of_base_le (by decide) large, List.map_append, List.map_singleton,
    ← decimal]

/-- To prove a property of every written number, extend it digit by digit on the right. -/
theorem decimal_induction {motive : Nat → Prop} (n : Nat)
    (short : ∀ n < 10, motive n) (long : ∀ n, 10 ≤ n → motive (n / 10) → motive n) :
    motive n := by
  induction n using Nat.strongRecOn with
  | ind n inductionHypothesis =>
    by_cases small : n < 10
    · exact short n small
    · exact long n (by omega) (inductionHypothesis (n / 10) (by omega))

theorem value_decimal (n : Nat) : Numeral.value 10 (decimal n) = n := by
  induction n using decimal_induction with
  | short n small =>
    rw [decimal_of_lt small]
    exact (Numeral.value_concat_digitChar 10 [] (by omega)).trans (Nat.zero_add n)
  | long n large inductionHypothesis =>
    rw [decimal_of_le large, Numeral.value_concat_digitChar 10 _ (by omega), inductionHypothesis]
    omega

theorem decimal_all_digits (n : Nat) : ∀ b ∈ decimal n, Numeral.isDecimalDigit b = true := by
  induction n using decimal_induction with
  | short n small =>
    rw [decimal_of_lt small]
    intro b member
    rw [List.mem_singleton.mp member]
    exact Numeral.isDigitOf_digitChar (by omega) small
  | long n large inductionHypothesis =>
    rw [decimal_of_le large]
    intro b member
    rcases List.mem_append.mp member with earlier | last
    · exact inductionHypothesis b earlier
    · rw [List.mem_singleton.mp last]
      exact Numeral.isDigitOf_digitChar (by omega) (by omega)

/-- Only zero begins with the digit zero. -/
theorem decimal_eq_cons (n : Nat) :
    ∃ first others, decimal n = first :: others ∧ (first = Bytes.ascii '0' → others = []) := by
  induction n using decimal_induction with
  | short n small =>
    exact ⟨_, [], decimal_of_lt small, fun _ => rfl⟩
  | long n large inductionHypothesis =>
    rcases inductionHypothesis with ⟨first, others, written, noZero⟩
    refine ⟨first, others ++ [Bytes.ascii (n % 10).digitChar], ?_, ?_⟩
    · rw [decimal_of_le large, written, List.cons_append]
    · -- a number that is one zero would make the longer number less than ten
      intro zero
      have value := value_decimal (n / 10)
      rw [written, noZero zero, zero] at value
      have isZero : Numeral.value 10 [Bytes.ascii '0'] = 0 := by decide
      omega

/-! ## Hexadecimal -/

namespace Quoted

theorem length_hexDigits (count n : Nat) : (hexDigits count n).length = count := by
  induction count generalizing n with
  | zero => rfl
  | succ count inductionHypothesis =>
    rw [hexDigits, List.length_append, inductionHypothesis, List.length_singleton]

theorem hexDigits_all_digits (count n : Nat) :
    ∀ b ∈ hexDigits count n, Numeral.isDigitOf 16 b = true := by
  induction count generalizing n with
  | zero => exact fun b member => absurd member List.not_mem_nil
  | succ count inductionHypothesis =>
    intro b member
    rcases List.mem_append.mp member with earlier | last
    · exact inductionHypothesis (n / 16) b earlier
    · rw [List.mem_singleton.mp last]
      exact Numeral.isDigitOf_digitChar (by omega) (by omega)

theorem value_hexDigits (count n : Nat) :
    Numeral.value 16 (hexDigits count n) = n % 16 ^ count := by
  induction count generalizing n with
  | zero => rw [Nat.pow_zero, Nat.mod_one]; rfl
  | succ count inductionHypothesis =>
    rw [hexDigits, hexDigit, Numeral.value_concat_digitChar 16 _ (by omega), inductionHypothesis,
      Nat.pow_succ, Nat.mul_comm (16 ^ count) 16, Nat.mod_mul, Nat.add_comm, Nat.mul_comm]

/-- The number of the hexadecimal digits at the front, of which there have to be as many as
asked for. -/
def number? (count : Nat) (bytes : Bytes) : Option Nat :=
  let digits := bytes.take count
  if digits.length = count && Numeral.isNatural 16 digits then
    some (Numeral.value 16 digits)
  else
    none

theorem number?_hexDigits {count n : Nat} (positive : 0 < count) (small : n < 16 ^ count)
    (rest : Bytes) : number? count (hexDigits count n ++ rest) = some n := by
  have width : (hexDigits count n).length = count := length_hexDigits count n
  have front : (hexDigits count n ++ rest).take count = hexDigits count n :=
    List.take_left' width
  have nonempty : (hexDigits count n).isEmpty = false := by
    rw [List.isEmpty_eq_false_iff, ← List.length_pos_iff, width]
    exact positive
  have natural : Numeral.isNatural 16 (hexDigits count n) = true := by
    rw [Numeral.isNatural, nonempty, List.all_eq_true.mpr (hexDigits_all_digits count n)]
    rfl
  have value : Numeral.value 16 (hexDigits count n) = n := by
    rw [value_hexDigits]
    exact Nat.mod_eq_of_lt small
  simp only [number?]
  rw [front, natural, width, value]
  simp

end Quoted
end PhpLint
