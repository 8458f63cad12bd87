import Mathlib

/-! Lower-case hexadecimal digits of bytes, and the decoder that reads them back, so that the
encoding of a byte list determines the list. -/

namespace Hex

def digits : List Char := "0123456789abcdef".toList

def digit (n : Nat) : Char := digits.getD n '0'

def value (c : Char) : Option Nat := digits.idxOf? c

theorem value_digit : ∀ n, n < 16 → value (digit n) = some n := by
  decide

def encodeByte (byte : UInt8) : List Char :=
  [digit (byte.toNat / 16), digit (byte.toNat % 16)]

theorem length_flatMap_encodeByte (bytes : List UInt8) :
    (bytes.flatMap encodeByte).length = 2 * bytes.length := by
  induction bytes with
  | nil => rfl
  | cons byte rest ih =>
      simp only [List.flatMap_cons, List.length_append, ih, List.length_cons, encodeByte,
        List.length_nil]
      omega

def decode : List Char → Option (List UInt8)
  | [] => some []
  | high :: low :: rest =>
      match value high, value low with
      | some h, some l => (decode rest).map fun bytes => UInt8.ofNat (16 * h + l) :: bytes
      | _, _ => none
  | [_] => none

theorem decode_encode (bytes : List UInt8) : decode (bytes.flatMap encodeByte) = some bytes := by
  induction bytes with
  | nil => rfl
  | cons byte rest ih =>
      have bound := byte.toNat_lt
      simp only [List.flatMap_cons, encodeByte, List.cons_append, List.nil_append, decode,
        value_digit _ (show byte.toNat / 16 < 16 by omega),
        value_digit _ (show byte.toNat % 16 < 16 by omega), ih, Option.map_some]
      rw [show 16 * (byte.toNat / 16) + byte.toNat % 16 = byte.toNat by omega]
      simp

theorem encode_injective {bytes others : List UInt8}
    (same : bytes.flatMap encodeByte = others.flatMap encodeByte) : bytes = others := by
  have decoded := decode_encode bytes
  rw [same, decode_encode] at decoded
  exact (Option.some.inj decoded).symm

end Hex
