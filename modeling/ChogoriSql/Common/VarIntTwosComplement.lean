import ChogoriSql.Common.VarInt
import ChogoriSql.Data.TwosComplement

/-! `VarInt::EncodeToTwosComplement` and `VarInt::DecodeFromTwosComplement`
(`common/type/varint.cc`): a number as big-endian two's complement in as few bytes as hold it.
The encoder writes the magnitude behind a zero byte where its top bit would read as the sign,
and for a negative number complements the bytes and adds one from the last byte; where the
number is `-2^(8k-1)` the `0xff` in front is dropped again.  The decoder reads a string with a
clear sign bit as it is, and another by taking one away, complementing and negating.  The two
pointer loops are modelled with `back` one past the byte they read next; the write before the
data that each would make on a string of only `0xff` (or only zero) bytes is left out, and
neither loop reaches it on the strings the code gives it. -/

namespace ChogoriSql

namespace VarInt

open TwosComplement

/-- `FlipBits`. -/
def flipBits (bytes : List UInt8) : List UInt8 :=
  bytes.map (~~~ ·)

def incrementLoop (bytes : List UInt8) : Nat → List UInt8 × Int
  | 0 => (bytes, -1)
  | back + 1 =>
      if bytes.getD back 0 = 0xff then incrementLoop (bytes.set back 0) back
      else (bytes.set back (bytes.getD back 0 + 1), back)

def decrementLoop (bytes : List UInt8) : Nat → List UInt8
  | 0 => bytes
  | back + 1 =>
      if bytes.getD back 0 = 0 then decrementLoop (bytes.set back 0xff) back
      else bytes.set back (bytes.getD back 0 - 1)

/-- `VarInt::EncodeToTwosComplement`.  `result` is `count` zero bytes with `BN_bn2bin` written
from `offset` on. -/
def encodeToTwosComplement (value : Int) : List UInt8 :=
  if value = 0 then [0]
  else
    let numBits := bnNumBits value.natAbs
    let offset := if numBits % kBitsPerWord = 0 then 1 else 0
    let result := List.replicate offset 0 ++ bnBn2bin value.natAbs
    if value < 0 then
      let incremented := incrementLoop (flipBits result) result.length
      if offset = 1 ∧ incremented.2 > 0 ∧ incremented.1.getD 1 0 &&& 0x80 ≠ 0 then incremented.1.drop 1
      else incremented.1
    else result

/-- `VarInt::DecodeFromTwosComplement`. -/
def decodeFromTwosComplement (input : List UInt8) : Except Status Int :=
  match input with
  | [] => .error (Status.withMessages .corruption "Cannot decode varint from empty slice" "")
  | first :: _ =>
      if first &&& 0x80 = 0 then .ok (bnBin2bn input)
      else .ok (-(bnBin2bn (flipBits (decrementLoop input input.length)) : Int))

example : encodeToTwosComplement 128 = [0, 0x80] := by decide
example : encodeToTwosComplement (-128) = [0x80] := by decide
example : encodeToTwosComplement (-129) = [0xff, 0x7f] := by decide
example : encodeToTwosComplement (-256) = [0xff, 0] := by decide

theorem foldl_bin2bn_unsigned (acc : Nat) (bytes : List UInt8) :
    bytes.foldl (fun acc byte => acc * 256 + byte.toNat) acc = acc * 256 ^ bytes.length + unsigned bytes := by
  induction bytes generalizing acc with
  | nil => simp
  | cons byte rest ih =>
      rw [List.foldl_cons, ih, unsigned_cons, List.length_cons, pow_succ]
      ring

theorem bnBin2bn_eq_unsigned (bytes : List UInt8) : bnBin2bn bytes = unsigned bytes := by
  rw [bnBin2bn, foldl_bin2bn_unsigned, zero_mul, zero_add]

theorem length_flipBits (bytes : List UInt8) : (flipBits bytes).length = bytes.length :=
  List.length_map _

theorem unsigned_flipBits (bytes : List UInt8) :
    unsigned (flipBits bytes) + unsigned bytes + 1 = 256 ^ bytes.length :=
  unsigned_map_not bytes

theorem getD_flipBits {bytes : List UInt8} {index : Nat} (inside : index < bytes.length) :
    (flipBits bytes).getD index 0 = ~~~(bytes.getD index 0) := by
  rw [flipBits, List.getD_eq_getElem?_getD, List.getElem?_map, List.getElem?_eq_getElem inside,
    List.getD_eq_getElem?_getD, List.getElem?_eq_getElem inside]
  rfl

theorem not_eq_ones_iff (byte : UInt8) : ~~~byte = 0xff ↔ byte = 0 := by
  have below := byte.toNat_lt
  rw [← UInt8.toNat_inj, ← UInt8.toNat_inj, UInt8.toNat_not]
  simp
  omega

theorem incrementLoop_spec : ∀ {back : Nat} {bytes : List UInt8} {stop : Nat},
    back ≤ bytes.length → stop < back → bytes.getD stop 0 ≠ 0xff →
      (incrementLoop bytes back).1.length = bytes.length ∧
      unsigned (incrementLoop bytes back).1 = unsigned bytes + 256 ^ (bytes.length - back) ∧
      (stop : Int) ≤ (incrementLoop bytes back).2 ∧ (incrementLoop bytes back).2 < back ∧
      ∀ j : Nat, (j : Int) < (incrementLoop bytes back).2 →
        (incrementLoop bytes back).1.getD j 0 = bytes.getD j 0 := by
  intro back
  induction back with
  | zero => intro bytes stop _ before; omega
  | succ back ih =>
      intro bytes stop inside before notFull
      have place : 256 ^ (bytes.length - back) = 256 ^ (bytes.length - (back + 1)) * 256 := by
        rw [← pow_succ]
        congr 1
        omega
      have index : bytes.length - 1 - back = bytes.length - (back + 1) := by omega
      rw [incrementLoop]
      by_cases full : bytes.getD back 0 = 0xff
      · rw [if_pos full]
        have earlier : stop < back := by
          rcases Nat.lt_succ_iff_lt_or_eq.mp before with earlier | same
          · exact earlier
          · exact absurd (same ▸ full) notFull
        have cleared := unsigned_set (show back < bytes.length by omega) 0
        rw [full, index] at cleared
        have spelled : (0xff : UInt8).toNat = 255 := rfl
        rw [spelled, UInt8.toNat_zero, zero_mul, add_zero] at cleared
        obtain ⟨length, value, stopped, bounded, unchanged⟩ := @ih (bytes.set back 0) stop
          (by rw [List.length_set]; omega) earlier (by rw [getD_set_ne (by omega)]; exact notFull)
        rw [List.length_set] at length value
        refine ⟨length, by omega, stopped, by omega, fun j early => ?_⟩
        rw [unchanged j early, getD_set_ne (by omega)]
      · rw [if_neg full]
        have raised := unsigned_set (show back < bytes.length by omega) (bytes.getD back 0 + 1)
        rw [toNat_add_one full, index, Nat.add_mul, one_mul] at raised
        refine ⟨List.length_set .., by dsimp only; omega, by dsimp only; omega, by dsimp only; omega,
          fun j early => getD_set_ne (by dsimp only at early; omega) _⟩

theorem decrementLoop_spec : ∀ {back : Nat} {bytes : List UInt8} {stop : Nat},
    back ≤ bytes.length → stop < back → bytes.getD stop 0 ≠ 0 →
      (decrementLoop bytes back).length = bytes.length ∧
      unsigned (decrementLoop bytes back) + 256 ^ (bytes.length - back) = unsigned bytes := by
  intro back
  induction back with
  | zero => intro bytes stop _ before; omega
  | succ back ih =>
      intro bytes stop inside before notZero
      have place : 256 ^ (bytes.length - back) = 256 ^ (bytes.length - (back + 1)) * 256 := by
        rw [← pow_succ]
        congr 1
        omega
      have index : bytes.length - 1 - back = bytes.length - (back + 1) := by omega
      rw [decrementLoop]
      by_cases zero : bytes.getD back 0 = 0
      · rw [if_pos zero]
        have earlier : stop < back := by
          rcases Nat.lt_succ_iff_lt_or_eq.mp before with earlier | same
          · exact earlier
          · exact absurd (same ▸ zero) notZero
        have filled := unsigned_set (show back < bytes.length by omega) 0xff
        rw [zero, index] at filled
        have spelled : (0xff : UInt8).toNat = 255 := rfl
        rw [spelled, UInt8.toNat_zero, zero_mul, add_zero] at filled
        obtain ⟨length, value⟩ := @ih (bytes.set back 0xff) stop
          (by rw [List.length_set]; omega) earlier (by rw [getD_set_ne (by omega)]; exact notZero)
        rw [List.length_set] at length value
        exact ⟨length, by omega⟩
      · rw [if_neg zero]
        have lowered := unsigned_set (show back < bytes.length by omega) (bytes.getD back 0 - 1)
        rw [index, ← toNat_sub_one zero, Nat.add_mul, one_mul] at lowered
        exact ⟨List.length_set .., by omega⟩

theorem length_bnBn2bin (magnitude : Nat) :
    (bnBn2bin magnitude).length = (bnNumBits magnitude + 7) / 8 :=
  BitString.length_bytesOfNat _ _

theorem pow_256 (count : Nat) : (256 : Nat) ^ count = 2 ^ (8 * count) := by
  rw [pow_mul]
  norm_num

theorem half_pow_256 (count : Nat) : 128 * 256 ^ count = 2 ^ (8 * count + 7) := by
  rw [pow_add, pow_256]
  ring

theorem unsigned_bnBn2bin (magnitude : Nat) : unsigned (bnBn2bin magnitude) = magnitude := by
  rw [bnBn2bin, unsigned_bytesOfNat, Nat.mod_eq_of_lt]
  rw [pow_256]
  exact Nat.size_le.mp (by unfold bnNumBits; omega)

structure Start (magnitude offset : Nat) (bytes : List UInt8) : Prop where
  offsetLe : offset ≤ 1
  inside : offset < bytes.length
  value : unsigned bytes = magnitude
  first : bytes.getD offset 0 ≠ 0
  below : magnitude < 128 * 256 ^ (bytes.length - 1)
  unpadded : offset = 0 → 2 ≤ bytes.length → 256 ^ (bytes.length - 1) ≤ magnitude
  padded : offset = 1 → 2 ≤ bytes.length ∧ 128 * 256 ^ (bytes.length - 2) ≤ magnitude

theorem start_spec {magnitude offset : Nat} (nonzero : magnitude ≠ 0)
    (offsetEq : offset = if bnNumBits magnitude % kBitsPerWord = 0 then 1 else 0) :
    Start magnitude offset (List.replicate offset 0 ++ bnBn2bin magnitude) := by
  have sizePos : 0 < Nat.size magnitude := Nat.size_pos.mpr (Nat.pos_of_ne_zero nonzero)
  have size : bnNumBits magnitude = Nat.size magnitude := rfl
  have high : magnitude < 2 ^ Nat.size magnitude := Nat.lt_size_self magnitude
  have low : 2 ^ (Nat.size magnitude - 1) ≤ magnitude := Nat.lt_size.mp (by omega)
  set count := (Nat.size magnitude + 7) / 8 with countEq
  have length : (List.replicate offset 0 ++ bnBn2bin magnitude).length = offset + count := by
    rw [List.length_append, List.length_replicate, length_bnBn2bin, size]
  have leading : 256 ^ (count - 1) ≤ magnitude :=
    calc 256 ^ (count - 1) = 2 ^ (8 * (count - 1)) := pow_256 _
      _ ≤ 2 ^ (Nat.size magnitude - 1) := Nat.pow_le_pow_right (by norm_num) (by omega)
      _ ≤ magnitude := low
  have bitsEq : (kBitsPerWord : Nat) = 8 := rfl
  rw [size, bitsEq] at offsetEq
  refine ⟨by split at offsetEq <;> omega, by rw [length]; omega, ?_, ?_, ?_, ?_, ?_⟩
  · rw [unsigned_append, unsigned_replicate_zero, zero_mul, zero_add, unsigned_bnBn2bin]
  · rw [List.getD_eq_getElem?_getD, List.getElem?_append_right (by rw [List.length_replicate]),
      List.length_replicate, Nat.sub_self, ← List.getD_eq_getElem?_getD]
    apply head_ne_zero
    rw [unsigned_bnBn2bin, length_bnBn2bin, size]
    exact leading
  · rw [length]
    split at offsetEq
    · calc magnitude < 2 ^ Nat.size magnitude := high
        _ ≤ 2 ^ (8 * (offset + count - 1) + 7) := Nat.pow_le_pow_right (by norm_num) (by omega)
        _ = 128 * 256 ^ (offset + count - 1) := (half_pow_256 _).symm
    · calc magnitude < 2 ^ Nat.size magnitude := high
        _ ≤ 2 ^ (8 * (offset + count - 1) + 7) := Nat.pow_le_pow_right (by norm_num) (by omega)
        _ = 128 * 256 ^ (offset + count - 1) := (half_pow_256 _).symm
  · intro unpadded _
    rw [length, unpadded, zero_add]
    exact leading
  · intro padded
    rw [length, padded]
    rw [padded] at offsetEq
    split at offsetEq
    · refine ⟨by omega, ?_⟩
      calc 128 * 256 ^ (1 + count - 2) = 2 ^ (8 * (1 + count - 2) + 7) := half_pow_256 _
        _ ≤ 2 ^ (Nat.size magnitude - 1) := Nat.pow_le_pow_right (by norm_num) (by omega)
        _ ≤ magnitude := low
    · omega

theorem Start.high {magnitude offset : Nat} {bytes : List UInt8} (start : Start magnitude offset bytes)
    (long : 2 ≤ bytes.length) : 128 * 256 ^ (bytes.length - 2) ≤ magnitude := by
  rcases Nat.le_one_iff_eq_zero_or_eq_one.mp start.offsetLe with unpadded | padded
  · have place : 256 ^ (bytes.length - 1) = 256 * 256 ^ (bytes.length - 2) := by
      rw [← pow_succ']
      congr 1
      omega
    have leading := start.unpadded unpadded long
    omega
  · exact (start.padded padded).2

theorem decodeFromTwosComplement_of_ne_nil {input : List UInt8} (nonempty : input ≠ []) :
    decodeFromTwosComplement input = .ok (signed input) := by
  obtain ⟨first, rest, rfl⟩ := List.exists_cons_of_ne_nil nonempty
  rw [decodeFromTwosComplement, signed, bnBin2bn_eq_unsigned]
  by_cases clear : first &&& 0x80 = 0
  · have positive : negative (first :: rest) = false := by simp [negative, clear]
    rw [if_pos clear, positive, if_neg Bool.false_ne_true, sub_zero]
  · have set : negative (first :: rest) = true := by simpa [negative] using clear
    have nonzero : (first :: rest).getD 0 0 ≠ 0 := by
      rw [List.getD_cons_zero]
      rintro rfl
      exact clear rfl
    obtain ⟨length, lowered⟩ := @decrementLoop_spec (first :: rest).length (first :: rest) 0 le_rfl
      (List.length_pos_of_ne_nil nonempty) nonzero
    have flipped := unsigned_flipBits (decrementLoop (first :: rest) (first :: rest).length)
    rw [length] at flipped
    rw [Nat.sub_self, pow_zero] at lowered
    have sum : unsigned (flipBits (decrementLoop (first :: rest) (first :: rest).length)) +
        unsigned (first :: rest) = 256 ^ (first :: rest).length := by omega
    have cast := congrArg (fun n : Nat => (n : Int)) sum
    push_cast at cast
    rw [if_neg clear, set, if_pos rfl, bnBin2bn_eq_unsigned]
    congr 1
    linarith

theorem decodeFromTwosComplement_reads_signed (input : List UInt8) :
    decodeFromTwosComplement input =
      if input = [] then .error (Status.withMessages .corruption "Cannot decode varint from empty slice" "")
      else .ok (signed input) := by
  by_cases empty : input = []
  · rw [if_pos empty, empty]
    rfl
  · rw [if_neg empty, decodeFromTwosComplement_of_ne_nil empty]

theorem encodeToTwosComplement_of_pos {value : Int} (positive : 0 < value) :
    encodeToTwosComplement value ≠ [] ∧ signed (encodeToTwosComplement value) = value ∧
      Shortest (encodeToTwosComplement value).length value := by
  have nonzero : value.natAbs ≠ 0 := by omega
  have magnitude : (value.natAbs : Int) = value := Int.natAbs_of_nonneg positive.le
  rw [encodeToTwosComplement, if_neg (by omega), if_neg (by omega)]
  set offset := (if bnNumBits value.natAbs % kBitsPerWord = 0 then 1 else 0) with offsetEq
  have start := start_spec nonzero offsetEq
  set bytes := List.replicate offset 0 ++ bnBn2bin value.natAbs
  have inside := start.inside
  have small := start.below
  rw [← start.value] at small
  refine ⟨List.ne_nil_of_length_pos (by omega), ?_, ?_⟩
  · rw [signed_of_small small, start.value, magnitude]
  · apply shortest_of_high (by omega)
    intro long
    rw [← magnitude]
    exact_mod_cast start.high long

theorem finish_unpadded {magnitude : Nat} {bytes : List UInt8} (positive : 0 < bytes.length)
    (sum : unsigned bytes + magnitude = 256 ^ bytes.length)
    (small : magnitude < 128 * 256 ^ (bytes.length - 1))
    (leading : 2 ≤ bytes.length → 256 ^ (bytes.length - 1) ≤ magnitude) :
    signed bytes = -(magnitude : Int) ∧ Shortest bytes.length (-(magnitude : Int)) := by
  have half : 256 ^ bytes.length = 2 * (128 * 256 ^ (bytes.length - 1)) := by
    rw [← mul_assoc, show (2 : Nat) * 128 = 256 from rfl, ← pow_succ']
    congr 1
    omega
  have cast := congrArg (fun n : Nat => (n : Int)) sum
  push_cast at cast
  refine ⟨by rw [signed_of_large (by omega)]; linarith, shortest_of_low positive fun long => ?_⟩
  have place : 256 ^ (bytes.length - 1) = 256 * 256 ^ (bytes.length - 2) := by
    rw [← pow_succ']
    congr 1
    omega
  have above : 128 * 256 ^ (bytes.length - 2) < magnitude := by
    have := leading long
    have : 0 < 256 ^ (bytes.length - 2) := by positivity
    omega
  have castAbove : ((128 * 256 ^ (bytes.length - 2) : Nat) : Int) < magnitude := by exact_mod_cast above
  push_cast at castAbove
  linarith

theorem finish_dropped {magnitude : Nat} {tail : List UInt8} (positive : 0 < tail.length)
    (sum : unsigned tail + magnitude = 256 ^ tail.length)
    (half : 128 * 256 ^ (tail.length - 1) ≤ magnitude) (top : negative tail = true) :
    signed tail = -(magnitude : Int) ∧ Shortest tail.length (-(magnitude : Int)) := by
  have cast := congrArg (fun n : Nat => (n : Int)) sum
  push_cast at cast
  have large := (negative_iff (List.ne_nil_of_length_pos positive)).mp top
  refine ⟨by rw [signed_of_large large]; linarith, shortest_of_low positive fun long => ?_⟩
  have place : 256 ^ (tail.length - 1) = 256 * 256 ^ (tail.length - 2) := by
    rw [← pow_succ']
    congr 1
    omega
  have above : 128 * 256 ^ (tail.length - 2) < magnitude := by
    have : 0 < 256 ^ (tail.length - 2) := by positivity
    omega
  have castAbove : ((128 * 256 ^ (tail.length - 2) : Nat) : Int) < magnitude := by exact_mod_cast above
  push_cast at castAbove
  linarith

theorem finish_kept {magnitude : Nat} {tail : List UInt8} (positive : 0 < tail.length)
    (sum : unsigned tail + magnitude = 256 ^ tail.length) (top : negative tail = false) :
    signed (0xff :: tail) = -(magnitude : Int) ∧ Shortest (tail.length + 1) (-(magnitude : Int)) := by
  have small : unsigned tail < 128 * 256 ^ (tail.length - 1) := by
    by_contra large
    rw [(negative_iff (List.ne_nil_of_length_pos positive)).mpr (by omega)] at top
    exact absurd top (by decide)
  have place : 256 ^ tail.length = 256 * 256 ^ (tail.length - 1) := by
    rw [← pow_succ']
    congr 1
    omega
  have spelled : (0xff : UInt8).toNat = 255 := rfl
  have whole : unsigned (0xff :: tail) + magnitude = 256 ^ (0xff :: tail).length := by
    rw [unsigned_cons, spelled, List.length_cons, pow_succ]
    omega
  have cast := congrArg (fun n : Nat => (n : Int)) whole
  push_cast at cast
  refine ⟨?_, shortest_of_low (by omega) fun _ => ?_⟩
  · rw [signed_of_large (by rw [unsigned_cons, spelled, List.length_cons, Nat.add_sub_cancel]; omega)]
    linarith
  · have above : 128 * 256 ^ (tail.length + 1 - 2) < magnitude := by
      rw [show tail.length + 1 - 2 = tail.length - 1 by omega]
      omega
    have castAbove : ((128 * 256 ^ (tail.length + 1 - 2) : Nat) : Int) < magnitude := by exact_mod_cast above
    push_cast at castAbove
    linarith

theorem encodeToTwosComplement_of_neg {value : Int} (negative' : value < 0) :
    encodeToTwosComplement value ≠ [] ∧ signed (encodeToTwosComplement value) = value ∧
      Shortest (encodeToTwosComplement value).length value := by
  have nonzero : value.natAbs ≠ 0 := by omega
  have magnitude : value = -(value.natAbs : Int) := by omega
  rw [encodeToTwosComplement, if_neg (by omega), if_pos negative']
  dsimp only
  set offset := (if bnNumBits value.natAbs % kBitsPerWord = 0 then 1 else 0) with offsetEq
  have start := start_spec nonzero offsetEq
  set bytes := List.replicate offset 0 ++ bnBn2bin value.natAbs with bytesEq
  have inside := start.inside
  have complemented := unsigned_flipBits bytes
  rw [start.value] at complemented
  have notFull : (flipBits bytes).getD offset 0 ≠ 0xff := by
    rw [getD_flipBits start.inside, ne_eq, not_eq_ones_iff]
    exact start.first
  obtain ⟨length, raised, stopped, -, unchanged⟩ :=
    incrementLoop_spec (le_of_eq (length_flipBits bytes).symm) start.inside notFull
  rw [length_flipBits, Nat.sub_self, pow_zero] at raised
  rw [length_flipBits] at length
  set incremented := incrementLoop (flipBits bytes) bytes.length
  have sum : unsigned incremented.1 + value.natAbs = 256 ^ incremented.1.length := by
    rw [length]
    omega
  rcases Nat.le_one_iff_eq_zero_or_eq_one.mp start.offsetLe with unpadded | padded
  · rw [if_neg (fun condition => absurd condition.1 (by omega))]
    have positive : 0 < incremented.1.length := by have := start.inside; omega
    rw [magnitude]
    refine ⟨List.ne_nil_of_length_pos positive, finish_unpadded positive sum ?_ ?_⟩
    · rw [length]
      exact start.below
    · rw [length]
      exact start.unpadded unpadded
  · have front : incremented.1.getD 0 0 = 0xff := by
      rw [unchanged 0 (by omega), getD_flipBits (show 0 < bytes.length by omega), bytesEq, padded,
        List.replicate_one, List.singleton_append, List.getD_cons_zero]
      rfl
    obtain ⟨long, half⟩ := start.padded padded
    obtain ⟨first, tail, split⟩ := List.exists_cons_of_length_pos (show 0 < incremented.1.length by omega)
    rw [split, List.getD_cons_zero] at front
    rw [split, front] at sum
    have spelled : (0xff : UInt8).toNat = 255 := rfl
    have tailLength : tail.length + 1 = bytes.length := by rw [← length, split, List.length_cons]
    have place : 256 ^ (tail.length + 1) = 256 * 256 ^ tail.length := by rw [pow_succ']
    rw [unsigned_cons, spelled, List.length_cons, place] at sum
    have tailSum : unsigned tail + value.natAbs = 256 ^ tail.length := by omega
    rw [← tailLength, show tail.length + 1 - 2 = tail.length - 1 by omega] at half
    have tailPositive : 0 < tail.length := by omega
    obtain ⟨second, rest, tailSplit⟩ := List.exists_cons_of_length_pos tailPositive
    rw [magnitude, split, front]
    by_cases top : second &&& 0x80 ≠ 0
    · have topTail : negative tail = true := by rw [tailSplit, negative, bne_iff_ne]; exact top
      rw [if_pos ⟨padded, by omega, by rw [List.getD_cons_succ, tailSplit, List.getD_cons_zero]; exact top⟩,
        List.drop_one, List.tail_cons]
      exact ⟨List.ne_nil_of_length_pos tailPositive, finish_dropped tailPositive tailSum half topTail⟩
    · have clearTail : negative tail = false := by
        rw [tailSplit, negative, bne_eq_false_iff_eq]
        exact not_not.mp top
      rw [if_neg (fun condition => top (by
        have second' := condition.2.2
        rwa [List.getD_cons_succ, tailSplit, List.getD_cons_zero] at second'))]
      exact ⟨List.cons_ne_nil _ _, finish_kept tailPositive tailSum clearTail⟩

theorem encodeToTwosComplement_spec (value : Int) :
    encodeToTwosComplement value ≠ [] ∧ signed (encodeToTwosComplement value) = value ∧
      Shortest (encodeToTwosComplement value).length value := by
  rcases lt_trichotomy value 0 with negative | zero | positive
  · exact encodeToTwosComplement_of_neg negative
  · subst zero
    exact ⟨List.cons_ne_nil _ _, by decide, .inl rfl⟩
  · exact encodeToTwosComplement_of_pos positive

theorem encodeToTwosComplement_shortest (value : Int) :
    decodeFromTwosComplement (encodeToTwosComplement value) = .ok value ∧
      ∀ count, 0 < count → Fits count value → (encodeToTwosComplement value).length ≤ count := by
  obtain ⟨nonempty, reads, shortest⟩ := encodeToTwosComplement_spec value
  refine ⟨by rw [decodeFromTwosComplement_of_ne_nil nonempty, reads], fun count positive fits => ?_⟩
  exact shortest.le positive fits

end VarInt

end ChogoriSql
