import PhpLint.Text.Bytes

namespace PhpLint
namespace Base64

/-!
# Decoding of base 64

The digits are padded to groups of four. Line breaks between them are skipped.
-/

def digitValue? (b : UInt8) : Option Nat :=
  if Bytes.ascii 'A' ≤ b && b ≤ Bytes.ascii 'Z' then some (b.toNat - 65)
  else if Bytes.ascii 'a' ≤ b && b ≤ Bytes.ascii 'z' then some (b.toNat - 71)
  else if Bytes.ascii '0' ≤ b && b ≤ Bytes.ascii '9' then some (b.toNat + 4)
  else if b = Bytes.ascii '+' then some 62
  else if b = Bytes.ascii '/' then some 63
  else none

/-- Decodes groups of four digits. Only the last group may be padded. -/
def decodeGroups : Bytes → Option Bytes
  | [] => some []
  | a :: b :: c :: d :: rest =>
    match digitValue? a, digitValue? b, digitValue? c, digitValue? d with
    | some w, some x, some y, some z =>
      let n := ((w * 64 + x) * 64 + y) * 64 + z
      (decodeGroups rest).map fun later =>
        [UInt8.ofNat (n / 65536), UInt8.ofNat (n / 256), UInt8.ofNat n] ++ later
    | some w, some x, some y, none =>
      let n := (w * 64 + x) * 64 + y
      if d = Bytes.ascii '=' && rest.isEmpty then
        some [UInt8.ofNat (n / 1024), UInt8.ofNat (n / 4)]
      else
        none
    | some w, some x, none, none =>
      let n := w * 64 + x
      if c = Bytes.ascii '=' && d = Bytes.ascii '=' && rest.isEmpty then
        some [UInt8.ofNat (n / 16)]
      else
        none
    | _, _, _, _ => none
  | _ => none

def decode? (text : Bytes) : Option Bytes :=
  decodeGroups (text.filter fun b => b != 10 && b != 13)

end Base64
end PhpLint
