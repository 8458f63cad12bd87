import Mathlib
import ChogoriSql.Data.BitString

/-! Byte strings as numbers, most significant byte first: the number a byte string spells, and
its two's complement reading, in which a string whose first byte has its top bit set stands for
that number less `256 ^ length`.  Complementing every byte takes `x` to `256 ^ length - 1 - x`,
setting one byte moves the number by the change of that byte at its place, a string of `n`
bytes reads a number of `[-2^(8n-1), 2^(8n-1))`, and repeating the sign byte in front keeps the
reading. -/

namespace TwosComplement

def unsigned : List UInt8 → Nat
  | [] => 0
  | byte :: rest => byte.toNat * 256 ^ rest.length + unsigned rest

def negative : List UInt8 → Bool
  | [] => false
  | byte :: _ => byte &&& 0x80 != 0

def signed (bytes : List UInt8) : Int :=
  unsigned bytes - if negative bytes then 256 ^ bytes.length else 0

/-- `value` is one of the numbers that `count` bytes of two's complement hold. -/
def Fits (count : Nat) (value : Int) : Prop :=
  -(128 * 256 ^ (count - 1) : Int) ≤ value ∧ value < 128 * 256 ^ (count - 1)

instance (count : Nat) (value : Int) : Decidable (Fits count value) :=
  inferInstanceAs (Decidable (_ ∧ _))

theorem Fits.mono {count count' : Nat} {value : Int} (fits : Fits count value) (more : count ≤ count') :
    Fits count' value := by
  have larger : (256 : Int) ^ (count - 1) ≤ 256 ^ (count' - 1) := pow_le_pow_right₀ (by norm_num) (by omega)
  obtain ⟨low, high⟩ := fits
  constructor <;> linarith

/-- No string shorter than `length` bytes holds `value`. -/
def Shortest (length : Nat) (value : Int) : Prop :=
  length = 1 ∨ ¬ Fits (length - 1) value

theorem Shortest.le {length count : Nat} {value : Int} (shortest : Shortest length value) (positive : 0 < count)
    (fits : Fits count value) : length ≤ count := by
  by_contra longer
  rcases shortest with one | notFits
  · omega
  · exact notFits (fits.mono (by omega))

theorem shortest_of_high {length : Nat} {value : Int} (positive : 0 < length)
    (high : 2 ≤ length → (128 * 256 ^ (length - 2) : Int) ≤ value) : Shortest length value := by
  by_cases one : length = 1
  · exact .inl one
  · refine .inr fun ⟨_, below⟩ => ?_
    rw [show length - 1 - 1 = length - 2 by omega] at below
    have above := high (by omega)
    linarith

theorem shortest_of_low {length : Nat} {value : Int} (positive : 0 < length)
    (low : 2 ≤ length → value < -(128 * 256 ^ (length - 2) : Int)) : Shortest length value := by
  by_cases one : length = 1
  · exact .inl one
  · refine .inr fun ⟨above, _⟩ => ?_
    rw [show length - 1 - 1 = length - 2 by omega] at above
    have below := low (by omega)
    linarith

@[simp] theorem unsigned_nil : unsigned [] = 0 := rfl

theorem unsigned_cons (byte : UInt8) (rest : List UInt8) :
    unsigned (byte :: rest) = byte.toNat * 256 ^ rest.length + unsigned rest := rfl

theorem unsigned_lt (bytes : List UInt8) : unsigned bytes < 256 ^ bytes.length := by
  induction bytes with
  | nil => simp
  | cons byte rest ih =>
      have byteBelow : byte.toNat + 1 ≤ 256 := byte.toNat_lt
      rw [unsigned_cons, List.length_cons]
      calc byte.toNat * 256 ^ rest.length + unsigned rest
          < byte.toNat * 256 ^ rest.length + 256 ^ rest.length := by omega
        _ = (byte.toNat + 1) * 256 ^ rest.length := by ring
        _ ≤ 256 * 256 ^ rest.length := Nat.mul_le_mul_right _ byteBelow
        _ = 256 ^ (rest.length + 1) := by ring

theorem unsigned_append (front back : List UInt8) :
    unsigned (front ++ back) = unsigned front * 256 ^ back.length + unsigned back := by
  induction front with
  | nil => simp
  | cons byte rest ih =>
      rw [List.cons_append, unsigned_cons, unsigned_cons, ih, List.length_append, pow_add]
      ring

@[simp] theorem unsigned_replicate_zero (count : Nat) : unsigned (List.replicate count 0) = 0 := by
  induction count with
  | zero => rfl
  | succ count ih => simp [List.replicate_succ, unsigned_cons, ih]

theorem unsigned_replicate_ones (count : Nat) : unsigned (List.replicate count 0xff) + 1 = 256 ^ count := by
  induction count with
  | zero => rfl
  | succ count ih =>
      rw [List.replicate_succ, unsigned_cons, List.length_replicate, pow_succ]
      have spelled : (0xff : UInt8).toNat = 255 := rfl
      rw [spelled]
      omega

theorem unsigned_map_not (bytes : List UInt8) :
    unsigned (bytes.map (~~~ ·)) + unsigned bytes + 1 = 256 ^ bytes.length := by
  induction bytes with
  | nil => rfl
  | cons byte rest ih =>
      have flipped : (~~~byte).toNat = 255 - byte.toNat := by simp [UInt8.toNat_not]
      have byteBelow : byte.toNat < 256 := byte.toNat_lt
      have places : (255 - byte.toNat) * 256 ^ rest.length + byte.toNat * 256 ^ rest.length =
          255 * 256 ^ rest.length := by
        rw [← Nat.add_mul, Nat.sub_add_cancel (by omega)]
      rw [List.map_cons, unsigned_cons, unsigned_cons, List.length_map, flipped, List.length_cons, pow_succ]
      omega

theorem unsigned_bytesOfNat (count x : Nat) : unsigned (BitString.bytesOfNat count x) = x % 256 ^ count := by
  induction count with
  | zero => simp [BitString.bytesOfNat, Nat.mod_one]
  | succ count ih =>
      rw [BitString.bytesOfNat, unsigned_cons, BitString.length_bytesOfNat, ih, UInt8.toNat_ofNat',
        @Nat.mod_pow_succ x 256 count, show (2 : Nat) ^ 8 = 256 from rfl]
      ring

theorem toNat_add_one {byte : UInt8} (notTop : byte ≠ 0xff) : (byte + 1).toNat = byte.toNat + 1 := by
  have below := byte.toNat_lt
  have notTop' : byte.toNat ≠ 255 := fun top => notTop (UInt8.toNat_inj.mp top)
  rw [UInt8.toNat_add]
  simp
  omega

theorem toNat_sub_one {byte : UInt8} (nonzero : byte ≠ 0) : (byte - 1).toNat + 1 = byte.toNat := by
  have positive : byte.toNat ≠ 0 := fun bottom => nonzero (UInt8.toNat_inj.mp bottom)
  rw [UInt8.toNat_sub_of_le]
  · simp
    omega
  · rw [UInt8.le_iff_toNat_le]
    simp
    omega

theorem getD_set_self {bytes : List UInt8} {index : Nat} (inside : index < bytes.length) (byte : UInt8) :
    (bytes.set index byte).getD index 0 = byte := by
  rw [List.getD_eq_getElem?_getD, List.getElem?_set_self inside, Option.getD_some]

theorem getD_set_ne {bytes : List UInt8} {index other : Nat} (apart : index ≠ other) (byte : UInt8) :
    (bytes.set index byte).getD other 0 = bytes.getD other 0 := by
  rw [List.getD_eq_getElem?_getD, List.getElem?_set_ne apart, ← List.getD_eq_getElem?_getD]

theorem unsigned_set {bytes : List UInt8} {index : Nat} (inside : index < bytes.length) (byte : UInt8) :
    unsigned (bytes.set index byte) + (bytes.getD index 0).toNat * 256 ^ (bytes.length - 1 - index) =
      unsigned bytes + byte.toNat * 256 ^ (bytes.length - 1 - index) := by
  induction bytes generalizing index with
  | nil => simp at inside
  | cons head rest ih =>
      cases index with
      | zero =>
          rw [List.set_cons_zero, unsigned_cons, unsigned_cons, List.getD_cons_zero, List.length_cons,
            Nat.add_sub_cancel, Nat.sub_zero]
          omega
      | succ index =>
          have inRest : index < rest.length := by simp at inside; omega
          have shifted := ih inRest
          rw [List.set_cons_succ, unsigned_cons, unsigned_cons, List.length_set, List.getD_cons_succ,
            List.length_cons, show rest.length + 1 - 1 - (index + 1) = rest.length - 1 - index by omega]
          omega

theorem head_ne_zero {bytes : List UInt8} (large : 256 ^ (bytes.length - 1) ≤ unsigned bytes) :
    bytes.getD 0 0 ≠ 0 := by
  cases bytes with
  | nil => simp at large
  | cons byte rest =>
      intro zero
      rw [List.getD_cons_zero] at zero
      have restBelow := unsigned_lt rest
      rw [unsigned_cons, zero, List.length_cons, Nat.add_sub_cancel] at large
      simp at large
      omega

theorem and_0x80_ne_zero_iff (byte : UInt8) : byte &&& 0x80 ≠ 0 ↔ 128 ≤ byte.toNat := by
  have below := byte.toNat_lt
  rw [ne_eq, ← UInt8.toNat_inj, UInt8.toNat_and]
  have spelled : (0x80 : UInt8).toNat = 2 ^ 7 := rfl
  rw [spelled, Nat.and_two_pow, Nat.testBit_eq_decide_div_mod_eq]
  by_cases high : 128 ≤ byte.toNat
  · have set : byte.toNat / 128 % 2 = 1 := by omega
    simp [set, high]
  · have clear : byte.toNat / 128 % 2 = 0 := by omega
    simp [clear, high]

theorem negative_cons (byte : UInt8) (rest : List UInt8) :
    negative (byte :: rest) = true ↔ 128 ≤ byte.toNat := by
  rw [negative, bne_iff_ne, and_0x80_ne_zero_iff]

theorem negative_iff {bytes : List UInt8} (nonempty : bytes ≠ []) :
    negative bytes = true ↔ 128 * 256 ^ (bytes.length - 1) ≤ unsigned bytes := by
  obtain ⟨byte, rest, rfl⟩ := List.exists_cons_of_ne_nil nonempty
  have restBelow := unsigned_lt rest
  rw [negative_cons, unsigned_cons, List.length_cons, Nat.add_sub_cancel]
  constructor
  · intro high
    calc 128 * 256 ^ rest.length ≤ byte.toNat * 256 ^ rest.length := Nat.mul_le_mul_right _ high
      _ ≤ byte.toNat * 256 ^ rest.length + unsigned rest := Nat.le_add_right _ _
  · intro large
    by_contra low
    have lower : (byte.toNat + 1) * 256 ^ rest.length ≤ 128 * 256 ^ rest.length :=
      Nat.mul_le_mul_right _ (by omega)
    have expand : (byte.toNat + 1) * 256 ^ rest.length = byte.toNat * 256 ^ rest.length + 256 ^ rest.length := by
      ring
    omega

theorem signed_fits {bytes : List UInt8} (nonempty : bytes ≠ []) : Fits bytes.length (signed bytes) := by
  have below : (unsigned bytes : Int) < 256 ^ bytes.length := by exact_mod_cast unsigned_lt bytes
  have half : (256 : Int) ^ bytes.length = 2 * (128 * 256 ^ (bytes.length - 1)) := by
    rw [← mul_assoc, show (2 : Int) * 128 = 256 by norm_num, ← pow_succ',
      Nat.sub_add_cancel (List.length_pos_of_ne_nil nonempty)]
  have place : (0 : Int) < 256 ^ (bytes.length - 1) := by positivity
  have sign := negative_iff nonempty
  rw [Fits, signed]
  by_cases set : negative bytes = true
  · have large : (128 * 256 ^ (bytes.length - 1) : Int) ≤ unsigned bytes := by exact_mod_cast sign.mp set
    rw [if_pos set]
    constructor <;> linarith
  · have small : (unsigned bytes : Int) < 128 * 256 ^ (bytes.length - 1) := by
      have natSmall : unsigned bytes < 128 * 256 ^ (bytes.length - 1) := by
        by_contra large
        exact set (sign.mpr (by omega))
      exact_mod_cast natSmall
    have natural : (0 : Int) ≤ unsigned bytes := by positivity
    rw [if_neg set]
    constructor <;> linarith

theorem signed_of_small {bytes : List UInt8} (small : unsigned bytes < 128 * 256 ^ (bytes.length - 1)) :
    signed bytes = unsigned bytes := by
  cases bytes with
  | nil => rfl
  | cons byte rest =>
      have clear : negative (byte :: rest) = false := by
        cases sign : negative (byte :: rest)
        · rfl
        · exact absurd ((negative_iff (List.cons_ne_nil _ _)).mp sign) (by omega)
      rw [signed, clear, if_neg Bool.false_ne_true, sub_zero]

theorem signed_of_large {bytes : List UInt8} (large : 128 * 256 ^ (bytes.length - 1) ≤ unsigned bytes) :
    signed bytes = unsigned bytes - 256 ^ bytes.length := by
  have nonempty : bytes ≠ [] := by
    rintro rfl
    simp at large
  rw [signed, if_pos ((negative_iff nonempty).mpr large)]

theorem negative_iff_signed_neg (bytes : List UInt8) :
    negative bytes = true ↔ signed bytes < 0 := by
  have below : (unsigned bytes : Int) < 256 ^ bytes.length := by exact_mod_cast unsigned_lt bytes
  have natural : (0 : Int) ≤ unsigned bytes := by positivity
  rw [signed]
  by_cases set : negative bytes = true
  · rw [if_pos set]
    exact ⟨fun _ => by linarith, fun _ => set⟩
  · rw [if_neg set, sub_zero]
    exact ⟨fun sign => absurd sign set, fun sign => absurd sign (not_lt.mpr natural)⟩

theorem negative_signExtend (bytes : List UInt8) (count : Nat) :
    negative (List.replicate count (if negative bytes then 0xff else 0) ++ bytes) = negative bytes := by
  cases count with
  | zero => rfl
  | succ count =>
      rw [List.replicate_succ, List.cons_append]
      cases negative bytes <;> rfl

theorem signed_signExtend (bytes : List UInt8) (count : Nat) :
    signed (List.replicate count (if negative bytes then 0xff else 0) ++ bytes) = signed bytes := by
  rw [signed, signed, negative_signExtend, unsigned_append, List.length_append, List.length_replicate]
  cases sign : negative bytes
  · simp
  · have places : unsigned (List.replicate count 0xff) * 256 ^ bytes.length + 256 ^ bytes.length =
        256 ^ (count + bytes.length) := by
      rw [← Nat.succ_mul, Nat.succ_eq_add_one, unsigned_replicate_ones, pow_add]
    have cast := congrArg (fun n : Nat => (n : Int)) places
    push_cast at cast
    simp only [if_true]
    push_cast
    linarith

end TwosComplement
