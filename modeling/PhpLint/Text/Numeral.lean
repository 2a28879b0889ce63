import PhpLint.Text.Bytes

namespace PhpLint
namespace Numeral

/-!
# Texts that are numbers

A number is a text of digits in some base, perhaps with a sign, a point and an
exponent.
-/

/-- The value of a digit or letter as a digit of a base up to sixteen. -/
def digitValue? (b : UInt8) : Option Nat :=
  if Bytes.ascii '0' ≤ b && b ≤ Bytes.ascii '9' then some (b.toNat - 48)
  else if Bytes.ascii 'a' ≤ b && b ≤ Bytes.ascii 'f' then some (b.toNat - 87)
  else if Bytes.ascii 'A' ≤ b && b ≤ Bytes.ascii 'F' then some (b.toNat - 55)
  else none

/-- The value of a character as such a digit. -/
def hexValue? (c : Char) : Option Nat :=
  if c.toNat < 0x80 then digitValue? (Bytes.ascii c) else none

def isDigitOf (base : Nat) (b : UInt8) : Bool :=
  (digitValue? b).any fun value => value < base

/-- Whether the text is a number without a sign. -/
def isNatural (base : Nat) (text : Bytes) : Bool :=
  !text.isEmpty && text.all (isDigitOf base)

/-- The value of a text of digits. -/
def value (base : Nat) (text : Bytes) : Nat :=
  text.foldl (fun n b => n * base + (digitValue? b).getD 0) 0

def isDecimalDigit (b : UInt8) : Bool :=
  isDigitOf 10 b

/-- What follows an optional sign. -/
def dropSign : Bytes → Bytes
  | [] => []
  | b :: rest => if b = Bytes.ascii '+' || b = Bytes.ascii '-' then rest else b :: rest

/-- The digits in front of a point and after it, and the rest of the text. The point may be
missing. -/
def splitPoint (base : Nat) (text : Bytes) : Bytes × Bytes × Bytes :=
  let afterWhole := text.dropWhile (isDigitOf base)
  let (fraction, rest) :=
    if afterWhole.head? = some (Bytes.ascii '.') then
      (afterWhole.drop 1).span (isDigitOf base)
    else
      ([], afterWhole)
  (text.takeWhile (isDigitOf base), fraction, rest)

/-- A decimal number without its sign, cut into its parts. -/
structure Decimal where
  whole : Bytes
  fraction : Bytes
  exponentSign : Bytes
  exponent : Bytes
deriving DecidableEq

/-- Digits, a point and digits, where one of the sides may be empty, and an exponent. -/
def decimal? (text : Bytes) : Option Decimal :=
  let (whole, fraction, rest) := splitPoint 10 text
  if whole.isEmpty && fraction.isEmpty then
    none
  else
    match rest with
    | [] => some ⟨whole, fraction, [], []⟩
    | mark :: power =>
      let exponent := dropSign power
      if (mark = Bytes.ascii 'e' || mark = Bytes.ascii 'E') && isNatural 10 exponent then
        some ⟨whole, fraction, power.take (power.length - exponent.length), exponent⟩
      else
        none

/-- Whether a text is a hexadecimal number with a power of two after it. -/
def isScaledHexadecimal (text : Bytes) : Bool :=
  let (whole, fraction, rest) := splitPoint 16 (text.drop 2)
  [utf8 "0x", utf8 "0X"].contains (text.take 2) && !(whole.isEmpty && fraction.isEmpty) &&
    match rest with
    | [] => false
    | mark :: power =>
      (mark = Bytes.ascii 'p' || mark = Bytes.ascii 'P') && isNatural 10 (dropSign power)

/-- Whether the number is too large for a binary floating-point number of 64 bits: at least
halfway between the greatest of them and the next power of two. -/
def Decimal.overflows (number : Decimal) : Bool :=
  let digits := (number.whole ++ number.fraction).dropWhile fun b => b == Bytes.ascii '0'
  let negative := number.exponentSign == [Bytes.ascii '-']
  let shift := value 10 number.exponent
  let bound := Nat.pow 2 1024 - Nat.pow 2 970
  let places := number.fraction.length
  if digits.isEmpty then
    false
  else if negative then
    bound * Nat.pow 10 (min (places + shift) (digits.length + 1)) ≤ value 10 digits
  else if digits.length + shift < places then
    false
  else if 400 + places < digits.length + shift then
    true
  else
    bound * Nat.pow 10 places ≤ value 10 digits * Nat.pow 10 shift

end Numeral
end PhpLint
