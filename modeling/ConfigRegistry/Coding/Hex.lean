/-!
Bytes written with hexadecimal digits: as pairs of lower-case digits, or as escapes behind a percent
sign.
-/
namespace ConfigRegistry.Coding

namespace Hex

def digit (n : Nat) : Char :=
  Char.ofNat (if n < 10 then 0x30 + n else 0x57 + n)

def value? (c : Char) : Option Nat :=
  if '0' ≤ c ∧ c ≤ '9' then some (c.toNat - 0x30)
  else if 'a' ≤ c ∧ c ≤ 'f' then some (c.toNat - 0x57)
  else if 'A' ≤ c ∧ c ≤ 'F' then some (c.toNat - 0x37)
  else none

def pair (b : UInt8) : List Char := [digit (b.toNat / 16), digit (b.toNat % 16)]

def encode (bytes : List UInt8) : String := String.ofList (bytes.flatMap pair)

/-- Reads pairs of digits; a digit left over or another character is refused. -/
def decodeDigits : List Char → Option (List UInt8)
  | [] => some []
  | [_] => none
  | a :: b :: rest => do
    let high ← value? a
    let low ← value? b
    let bytes ← decodeDigits rest
    return UInt8.ofNat (16 * high + low) :: bytes

def decode (s : String) : Option (List UInt8) := decodeDigits s.toList

theorem value?_digit : ∀ n : Fin 16, value? (digit n) = some n.val := by decide

theorem decodeDigits_flatMap_pair (bytes : List UInt8) :
    decodeDigits (bytes.flatMap pair) = some bytes := by
  induction bytes with
  | nil => rfl
  | cons b rest ih =>
    have hb := b.toNat_lt
    have high := value?_digit ⟨b.toNat / 16, by omega⟩
    have low := value?_digit ⟨b.toNat % 16, by omega⟩
    simp only at high low
    have hval : UInt8.ofNat (16 * (b.toNat / 16) + b.toNat % 16) = b := by
      rw [Nat.div_add_mod, UInt8.ofNat_toNat]
    simp only [List.flatMap_cons, pair, List.cons_append, List.nil_append, decodeDigits, high,
      low, ih, Option.bind_eq_bind, Option.bind_some, hval, Option.pure_def]

end Hex

/-! Percent encoding of bytes. An escape that is cut short or has a wrong digit stands for
itself. -/

namespace Percent

def digitByte (n : Nat) : UInt8 := UInt8.ofNat (if n < 10 then 0x30 + n else 0x37 + n)

def escape (b : UInt8) : List UInt8 := [0x25, digitByte (b.toNat / 16), digitByte (b.toNat % 16)]

def value? (b : UInt8) : Option Nat := Hex.value? (Char.ofNat b.toNat)

def encode (keep : UInt8 → Bool) (bytes : List UInt8) : List UInt8 :=
  bytes.flatMap fun b => if keep b then [b] else escape b

def decode : List UInt8 → List UInt8
  | 0x25 :: h :: l :: rest =>
    match value? h, value? l with
    | some high, some low => UInt8.ofNat (16 * high + low) :: decode rest
    | _, _ => 0x25 :: decode (h :: l :: rest)
  | b :: rest => b :: decode rest
  | [] => []

end Percent

end ConfigRegistry.Coding
