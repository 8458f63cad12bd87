import ChogoriSql.Common.Status
import ChogoriSql.Data.BitString
import ChogoriSql.Numeric.DecimalDigits

/-! The order-preserving encoding of `VarInt` (`common/type/varint.cc`): `EncodeToComparable`,
which writes the magnitude big-endian behind a unary header of ones, and
`DecodeFromComparable`, which counts the header's ones back.  The big number is its sign and
magnitude; `BN_num_bits`, `BN_bn2bin` and `BN_bin2bn` are the bit length, the big-endian bytes
of the magnitude and the number of big-endian bytes.  The decoder's error texts are the fixed
part of each message; the hex dump of the slice that follows some of them is left out. -/

namespace ChogoriSql

namespace VarInt

open BitString

def kBitsPerWord : Nat := 8

def bnNumBits (magnitude : Nat) : Nat :=
  Nat.size magnitude

def bnBn2bin (magnitude : Nat) : List UInt8 :=
  bytesOfNat ((bnNumBits magnitude + 7) / 8) magnitude

def bnBin2bn (bytes : List UInt8) : Nat :=
  bytes.foldl (fun acc byte => acc * 256 + byte.toNat) 0

def topBits (count : Nat) : UInt8 :=
  UInt8.ofNat (0xff ^^^ ((1 <<< (8 - count)) - 1))

def fillOnes : List UInt8 → Nat → List UInt8
  | [], _ => []
  | byte :: rest, numOnes =>
      if numOnes > 8 then 0xff :: fillOnes rest (numOnes - 8)
      else (byte ||| topBits numOnes) :: rest

def clearReservedBits (bytes : List UInt8) (numReservedBits : Nat) : List UInt8 :=
  match bytes with
  | [] => []
  | first :: rest => (first &&& UInt8.ofNat ((1 <<< (8 - numReservedBits)) - 1)) :: rest

/-- `VarInt::EncodeToComparable(num_reserved_bits)`.  The result is `words_count` zero bytes with
`BN_bn2bin` written from `offset` on; the zeroing of `result[offset - 1]` finds a zero byte. -/
def encodeToComparable (value : Int) (numReservedBits : Nat) : List UInt8 :=
  if value = 0 then [UInt8.ofNat (0x80 >>> numReservedBits)]
  else
    let numBits := bnNumBits value.natAbs
    let totalNumBits := numBits + 1 + numReservedBits
    let numBytes := (totalNumBits + 6) / 7
    let roundingPadding := numBytes * 7 - totalNumBits
    let headerLength := 1 + numBytes + roundingPadding
    let wordsCount := (numBits + headerLength + kBitsPerWord - 1) / kBitsPerWord
    let offset := wordsCount - (numBits + kBitsPerWord - 1) / kBitsPerWord
    let written := List.replicate offset 0 ++ bnBn2bin value.natAbs
    let withHeader := fillOnes written (numBytes + numReservedBits)
    let signed := if value < 0 then withHeader.map (~~~ ·) else withHeader
    if numReservedBits ≠ 0 then clearReservedBits signed numReservedBits else signed

def setReservedBits (bytes : List UInt8) (numReservedBits : Nat) : List UInt8 :=
  match bytes with
  | [] => []
  | first :: rest => (first ||| topBits numReservedBits) :: rest

def countFullBytes : List UInt8 → Option Nat
  | [] => none
  | byte :: rest =>
      if byte = 0xff then
        match rest with
        | [] => none
        | _ :: _ => (countFullBytes rest).map (· + 1)
      else some 0

def clearLeadingOnes : Nat → UInt8 → Nat × UInt8
  | 0, byte => (0, byte)
  | bit + 1, byte =>
      if byte &&& UInt8.ofNat (2 ^ bit) ≠ 0 then
        let cleared := clearLeadingOnes bit (byte ^^^ UInt8.ofNat (2 ^ bit))
        (cleared.1 + 1, cleared.2)
      else (0, byte)

/-- `VarInt::DecodeFromComparable(slice, &num_decoded_bytes, num_reserved_bits)`: the value and
`num_decoded_bytes`.  `num_ones` is at least `num_reserved_bits` and at least `idx`, since the
reserved bits were just set, so neither subtraction wraps. -/
def decodeFromComparable (slice : List UInt8) (numReservedBits : Nat) : Except Status (Int × Nat) :=
  match slice with
  | [] => .error (Status.withMessages .corruption "Cannot decode varint from empty slice" "")
  | first :: _ =>
      let negative := first &&& UInt8.ofNat (0x80 >>> numReservedBits) = 0
      let flipped := if negative then slice.map (~~~ ·) else slice
      let buffer := if numReservedBits ≠ 0 then setReservedBits flipped numReservedBits else flipped
      match countFullBytes buffer with
      | none =>
          .error (Status.withMessages .corruption "Encoded varint failure, no prefix termination" "")
      | some idx =>
          let cleared := clearLeadingOnes 8 (buffer.getD idx 0)
          let numOnes := 8 * idx + cleared.1 - numReservedBits
          if numOnes > slice.length then
            .error (Status.withMessages .corruption "Not enough data in encoded varint" "")
          else
            let magnitude := bnBin2bn (((buffer.set idx cleared.2).drop idx).take (numOnes - idx))
            .ok (if negative then -(magnitude : Int) else magnitude, numOnes)

/-- `VarInt::CompareTo`, which is `BN_cmp`: -1, 0 or 1. -/
def compareTo (value other : Int) : Int :=
  if value < other then -1 else if value = other then 0 else 1

def bnBn2dec (value : Int) : List Char :=
  (if value < 0 then ['-'] else []) ++ (DecimalDigits.ofNat value.natAbs).map DecimalDigits.toChar

def bnDec2bn (text : List Char) : Option (Int × Nat) :=
  let negative := text.head? = some '-'
  let body := if negative then text.tail else text
  let digits := body.takeWhile Char.isDigit
  if digits.isEmpty then none
  else
    let magnitude : Int := DecimalDigits.value (digits.map DecimalDigits.ofChar)
    some (if negative then -magnitude else magnitude, digits.length + if negative then 1 else 0)

def bnGetWord (value : Int) : Nat :=
  if value.natAbs < 2 ^ 64 then value.natAbs else 2 ^ 64 - 1

def strlen (text : List Char) : Nat :=
  (text.takeWhile (· ≠ Char.ofNat 0)).length

/-- `VarInt::ToString`. -/
def toString (value : Int) : List Char :=
  bnBn2dec value

/-- `VarInt::ToInt64`: the word against the bound of `int64_t` for the sign. -/
def toInt64 (value : Int) : Except Status Int :=
  let word := bnGetWord value
  let negative := value < 0
  let bound := if negative then 2 ^ 63 else 2 ^ 63 - 1
  if word > bound then
    .error (Status.withMessages .invalidArgument "VarInt cannot be converted to int64 due to overflow" "")
  else .ok (if negative then -(word : Int) else word)

/-- `VarInt::FromString(const char*)`: one leading plus sign skipped, then `BN_dec2bn`, which
has to read the whole string. -/
def fromString (cstr : List Char) : Except Status Int :=
  let cstr := if cstr.head? = some '+' then cstr.tail else cstr
  match bnDec2bn cstr with
  | some (value, parsed) =>
      if parsed = strlen cstr then .ok value
      else .error (Status.withMessages .invalidArgument "Cannot parse varint" "")
  | none => .error (Status.withMessages .invalidArgument "Cannot parse varint" "")

def numBytes (numReservedBits magnitude : Nat) : Nat :=
  (Nat.size magnitude + 1 + numReservedBits + 6) / 7

def positiveCode (numReservedBits magnitude : Nat) : List Bool :=
  List.replicate (numBytes numReservedBits magnitude) true ++
    false :: ofNat (7 * numBytes numReservedBits magnitude - numReservedBits - 1) magnitude

def encodingBits (value : Int) (numReservedBits : Nat) : List Bool :=
  List.replicate numReservedBits false ++
    if value < 0 then (positiveCode numReservedBits value.natAbs).map not
    else positiveCode numReservedBits value.natAbs

@[simp] theorem length_positiveCode (numReservedBits magnitude : Nat) (fits : numReservedBits ≤ 6) :
    (positiveCode numReservedBits magnitude).length =
      8 * numBytes numReservedBits magnitude - numReservedBits := by
  unfold positiveCode numBytes
  simp
  omega

theorem numBytes_pos (numReservedBits magnitude : Nat) : 0 < numBytes numReservedBits magnitude := by
  unfold numBytes
  omega

@[simp] theorem length_encodingBits (value : Int) {numReservedBits : Nat} (fits : numReservedBits ≤ 6) :
    (encodingBits value numReservedBits).length = 8 * numBytes numReservedBits value.natAbs := by
  have atLeast := numBytes_pos numReservedBits value.natAbs
  unfold encodingBits
  split <;> simp [length_positiveCode _ _ fits] <;> omega

theorem magnitude_lt_code (numReservedBits magnitude : Nat) :
    magnitude < 2 ^ (7 * numBytes numReservedBits magnitude - numReservedBits - 1) := by
  apply Nat.size_le.mp
  unfold numBytes
  omega

theorem ofByte_ones : ofByte 0xff = List.replicate 8 true := by
  decide

theorem ofByte_topBits {count : Nat} (fits : count ≤ 8) :
    ofByte (topBits count) = List.replicate count true ++ List.replicate (8 - count) false := by
  interval_cases count <;> decide

theorem ofByte_reservedMask {count : Nat} (fits : count ≤ 8) :
    ofByte (UInt8.ofNat ((1 <<< (8 - count)) - 1)) =
      List.replicate count false ++ List.replicate (8 - count) true := by
  interval_cases count <;> decide

theorem ofBytes_fillOnes {bytes : List UInt8} {numOnes : Nat} (fits : numOnes ≤ 8 * bytes.length) :
    ofBytes (fillOnes bytes numOnes) = List.replicate numOnes true ++ (ofBytes bytes).drop numOnes := by
  induction bytes generalizing numOnes with
  | nil =>
      have noOnes : numOnes = 0 := by simpa using fits
      subst noOnes
      rfl
  | cons byte rest ih =>
      unfold fillOnes
      split
      · rename_i more
        rw [List.length_cons] at fits
        have later := @ih (numOnes - 8) (by omega)
        have skipped : (ofByte byte).drop numOnes = [] :=
          List.drop_eq_nil_of_le (by rw [length_ofByte]; omega)
        rw [ofBytes_cons, later, ofByte_ones, ofBytes_cons, List.drop_append, skipped,
          List.nil_append, length_ofByte, ← List.append_assoc, ← List.replicate_add,
          Nat.add_sub_cancel' (by omega)]
      · rename_i last
        have merged := zipWith_or_ones numOnes (show numOnes ≤ (ofByte byte).length by
          rw [length_ofByte]; omega)
        rw [length_ofByte] at merged
        rw [ofBytes_cons, ofByte_or, ofByte_topBits (by omega), merged, ofBytes_cons,
          List.drop_append_of_le_length (by simp; omega), List.append_assoc]

@[simp] theorem length_fillOnes (bytes : List UInt8) (numOnes : Nat) :
    (fillOnes bytes numOnes).length = bytes.length := by
  induction bytes generalizing numOnes with
  | nil => rfl
  | cons byte rest ih =>
      unfold fillOnes
      split <;> simp [ih]

theorem ofBytes_clearReservedBits (first : UInt8) (rest : List UInt8) {count : Nat} (fits : count ≤ 8) :
    ofBytes (clearReservedBits (first :: rest) count) =
      List.replicate count false ++ (ofBytes (first :: rest)).drop count := by
  have masked := zipWith_and_zeros count (show count ≤ (ofByte first).length by
    rw [length_ofByte]; omega)
  rw [length_ofByte] at masked
  rw [clearReservedBits, ofBytes_cons, ofByte_and, ofByte_reservedMask fits, masked, ofBytes_cons,
    List.drop_append_of_le_length (by rw [length_ofByte]; omega), List.append_assoc]

theorem ofBytes_setReservedBits (first : UInt8) (rest : List UInt8) {count : Nat} (fits : count ≤ 8) :
    ofBytes (setReservedBits (first :: rest) count) =
      List.replicate count true ++ (ofBytes (first :: rest)).drop count := by
  have merged := zipWith_or_ones count (show count ≤ (ofByte first).length by
    rw [length_ofByte]; omega)
  rw [length_ofByte] at merged
  rw [setReservedBits, ofBytes_cons, ofByte_or, ofByte_topBits fits, merged, ofBytes_cons,
    List.drop_append_of_le_length (by rw [length_ofByte]; omega), List.append_assoc]

theorem ofBytes_written {magnitude length offset : Nat}
    (offsetEq : offset = length - (Nat.size magnitude + 7) / 8) (fits : Nat.size magnitude ≤ 8 * length) :
    ofBytes (List.replicate offset 0 ++ bnBn2bin magnitude) = ofNat (8 * length) magnitude := by
  have small : magnitude < 2 ^ (8 * ((Nat.size magnitude + 7) / 8)) := Nat.size_le.mp (by omega)
  have total : 8 * offset + 8 * ((Nat.size magnitude + 7) / 8) = 8 * length := by omega
  rw [ofBytes_append, ofBytes_replicate_zeros, bnBn2bin, bnNumBits, ofBytes_bytesOfNat,
    ← ofNat_pad small, total]

theorem ofBytes_withHeader {magnitude numReservedBits offset numOnes : Nat} (fits : numReservedBits ≤ 6)
    (offsetEq : offset = numBytes numReservedBits magnitude - (Nat.size magnitude + 7) / 8)
    (onesEq : numOnes = numBytes numReservedBits magnitude + numReservedBits) :
    ofBytes (fillOnes (List.replicate offset 0 ++ bnBn2bin magnitude) numOnes) =
      List.replicate numReservedBits true ++ positiveCode numReservedBits magnitude := by
  have sizeFits : Nat.size magnitude + 1 + numReservedBits ≤ 7 * numBytes numReservedBits magnitude := by
    unfold numBytes
    omega
  have written := ofBytes_written offsetEq (by omega)
  have length : (List.replicate offset 0 ++ bnBn2bin magnitude).length =
      numBytes numReservedBits magnitude := by
    rw [List.length_append, List.length_replicate, bnBn2bin, length_bytesOfNat, bnNumBits]
    omega
  have widths : 8 * numBytes numReservedBits magnitude =
      numOnes + (1 + (7 * numBytes numReservedBits magnitude - numReservedBits - 1)) := by
    omega
  rw [ofBytes_fillOnes (by rw [length]; omega), written, widths, ofNat_add,
    List.drop_left' (by simp), ofNat_pad (magnitude_lt_code numReservedBits magnitude), onesEq,
    Nat.add_comm, List.replicate_add, List.append_assoc, positiveCode]
  rfl

theorem ofBytes_signed {bytes : List UInt8} {numReservedBits : Nat} {code : List Bool}
    (fits : numReservedBits ≤ 8) (nonempty : bytes ≠ [])
    (spelled : ofBytes bytes = List.replicate numReservedBits true ++ code) (negative : Prop)
    [Decidable negative] :
    ofBytes (if numReservedBits ≠ 0 then
        clearReservedBits (if negative then bytes.map (~~~ ·) else bytes) numReservedBits
      else if negative then bytes.map (~~~ ·) else bytes) =
      List.replicate numReservedBits false ++ if negative then code.map not else code := by
  have flipped : ofBytes (if negative then bytes.map (~~~ ·) else bytes) =
      if negative then List.replicate numReservedBits false ++ code.map not
      else List.replicate numReservedBits true ++ code := by
    split
    · rw [ofBytes_map_not, spelled, List.map_append, List.map_replicate]
      rfl
    · exact spelled
  split
  · rename_i reserved
    obtain ⟨first, rest, layout⟩ := List.exists_cons_of_ne_nil
      (show (if negative then bytes.map (~~~ ·) else bytes) ≠ [] by split <;> simpa)
    rw [layout, ofBytes_clearReservedBits first rest fits, ← layout, flipped]
    split <;> simp
  · rename_i noReserved
    have none : numReservedBits = 0 := by omega
    subst none
    rw [flipped]
    split <;> rfl

theorem encoder_offset (size numReservedBits : Nat) (fits : numReservedBits ≤ 6) :
    (size + (1 + (size + 1 + numReservedBits + 6) / 7 +
        ((size + 1 + numReservedBits + 6) / 7 * 7 - (size + 1 + numReservedBits))) + 8 - 1) / 8 -
      (size + 8 - 1) / 8 =
    (size + 1 + numReservedBits + 6) / 7 - (size + 7) / 8 := by
  generalize bytes : (size + 1 + numReservedBits + 6) / 7 = numBytes
  have lower : size + 1 + numReservedBits ≤ numBytes * 7 := by omega
  have padded : size + (1 + numBytes + (numBytes * 7 - (size + 1 + numReservedBits))) + 8 - 1 =
      8 * numBytes + (7 - numReservedBits) := by
    omega
  rw [padded]
  omega

theorem ofBytes_encodeToComparable (value : Int) {numReservedBits : Nat} (fits : numReservedBits ≤ 6) :
    ofBytes (encodeToComparable value numReservedBits) = encodingBits value numReservedBits := by
  unfold encodeToComparable
  split
  · rename_i zero
    subst zero
    interval_cases numReservedBits <;> decide
  · rename_i nonzero
    dsimp only
    rw [encodingBits]
    refine ofBytes_signed (by omega) ?_ (ofBytes_withHeader fits ?_ ?_) (value < 0)
    · apply List.ne_nil_of_length_pos
      rw [length_fillOnes, List.length_append, List.length_replicate, bnBn2bin, length_bytesOfNat]
      unfold bnNumBits kBitsPerWord
      generalize Nat.size value.natAbs = size
      omega
    · unfold numBytes bnNumBits kBitsPerWord
      exact encoder_offset _ _ fits
    · rfl

theorem length_encodeToComparable (value : Int) {numReservedBits : Nat} (fits : numReservedBits ≤ 6) :
    (encodeToComparable value numReservedBits).length = numBytes numReservedBits value.natAbs := by
  have length := congrArg List.length (ofBytes_encodeToComparable value fits)
  rw [length_ofBytes, length_encodingBits value fits] at length
  omega

example : encodeToComparable (-1000) 3 = [0x04, 0x17] := by decide

theorem lt_of_numBytes_lt {numReservedBits magnitude magnitude' : Nat}
    (fewer : numBytes numReservedBits magnitude < numBytes numReservedBits magnitude') :
    magnitude < magnitude' := by
  have sizes : Nat.size magnitude < Nat.size magnitude' := by
    unfold numBytes at fewer
    omega
  calc magnitude < 2 ^ Nat.size magnitude := Nat.lt_size_self magnitude
    _ ≤ 2 ^ (Nat.size magnitude' - 1) := Nat.pow_le_pow_right (by norm_num) (by omega)
    _ ≤ magnitude' := Nat.lt_size.mp (by omega)

theorem positiveCode_of_lt {numReservedBits magnitude count : Nat}
    (fewer : count < numBytes numReservedBits magnitude) :
    ∃ rest, positiveCode numReservedBits magnitude = List.replicate count true ++ true :: rest := by
  refine ⟨List.replicate (numBytes numReservedBits magnitude - count - 1) true ++
    false :: ofNat (7 * numBytes numReservedBits magnitude - numReservedBits - 1) magnitude, ?_⟩
  have header : List.replicate (numBytes numReservedBits magnitude) true =
      List.replicate count true ++
        true :: List.replicate (numBytes numReservedBits magnitude - count - 1) true := by
    rw [← List.replicate_succ, ← List.replicate_add]
    congr 1
    omega
  rw [positiveCode, header]
  simp

theorem compare_positiveCode_of_lt {numReservedBits magnitude magnitude' : Nat}
    (fewer : numBytes numReservedBits magnitude < numBytes numReservedBits magnitude') :
    compare (positiveCode numReservedBits magnitude) (positiveCode numReservedBits magnitude') = .lt ∧
      compare (positiveCode numReservedBits magnitude') (positiveCode numReservedBits magnitude) = .gt ∧
      compare ((positiveCode numReservedBits magnitude).map not)
        ((positiveCode numReservedBits magnitude').map not) = .gt ∧
      compare ((positiveCode numReservedBits magnitude').map not)
        ((positiveCode numReservedBits magnitude).map not) = .lt := by
  obtain ⟨rest, longer⟩ := positiveCode_of_lt fewer
  rw [longer]
  unfold positiveCode
  simp only [List.map_append, List.map_replicate, List.map_cons, Bool.not_true, Bool.not_false,
    compare_append_common, List.compare_cons_cons]
  exact ⟨rfl, rfl, rfl, rfl⟩

theorem compare_positiveCode (numReservedBits magnitude magnitude' : Nat) :
    compare (positiveCode numReservedBits magnitude) (positiveCode numReservedBits magnitude') =
      compare magnitude magnitude' := by
  rcases lt_trichotomy (numBytes numReservedBits magnitude) (numBytes numReservedBits magnitude')
    with fewer | same | more
  · rw [(compare_positiveCode_of_lt fewer).1]
    exact (compare_lt_iff_lt.mpr (lt_of_numBytes_lt fewer)).symm
  · have small := magnitude_lt_code numReservedBits magnitude
    have small' := magnitude_lt_code numReservedBits magnitude'
    rw [← same] at small'
    unfold positiveCode
    rw [← same, compare_append_common, List.compare_cons_cons, compare_ofNat,
      Nat.mod_eq_of_lt small, Nat.mod_eq_of_lt small']
    rfl
  · rw [(compare_positiveCode_of_lt more).2.1]
    exact (compare_gt_iff_gt.mpr (lt_of_numBytes_lt more)).symm

theorem compare_complemented_positiveCode (numReservedBits magnitude magnitude' : Nat)
    (fits : numReservedBits ≤ 6) :
    compare ((positiveCode numReservedBits magnitude).map not)
        ((positiveCode numReservedBits magnitude').map not) =
      compare magnitude' magnitude := by
  rcases lt_trichotomy (numBytes numReservedBits magnitude) (numBytes numReservedBits magnitude')
    with fewer | same | more
  · rw [(compare_positiveCode_of_lt fewer).2.2.1]
    exact (compare_gt_iff_gt.mpr (lt_of_numBytes_lt fewer)).symm
  · rw [compare_map_not (by rw [length_positiveCode _ _ fits, length_positiveCode _ _ fits, same]),
      compare_positiveCode]
  · rw [(compare_positiveCode_of_lt more).2.2.2]
    exact (compare_lt_iff_lt.mpr (lt_of_numBytes_lt more)).symm

theorem positiveCode_head (numReservedBits magnitude : Nat) :
    ∃ rest, positiveCode numReservedBits magnitude = true :: rest := by
  obtain ⟨rest, layout⟩ := positiveCode_of_lt (numBytes_pos numReservedBits magnitude)
  exact ⟨rest, by simpa using layout⟩

theorem compare_encodingBits (value other : Int) {numReservedBits : Nat} (fits : numReservedBits ≤ 6) :
    compare (encodingBits value numReservedBits) (encodingBits other numReservedBits) =
      compare value other := by
  unfold encodingBits
  rw [compare_append_common]
  obtain ⟨rest, head⟩ := positiveCode_head numReservedBits value.natAbs
  obtain ⟨rest', head'⟩ := positiveCode_head numReservedBits other.natAbs
  by_cases negative : value < 0 <;> by_cases negative' : other < 0 <;>
    simp only [negative, negative', if_true, if_false]
  · -- both negative: the greater magnitude is the smaller value
    rw [compare_complemented_positiveCode _ _ _ fits]
    simp only [compare, compareOfLessAndEq]
    split_ifs <;> first | rfl | omega
  · -- a negative value's code starts with a zero, a nonnegative one's with a one
    rw [head, head', List.map_cons, List.compare_cons_cons]
    exact (compare_lt_iff_lt.mpr (by omega)).symm
  · rw [head, head', List.map_cons, List.compare_cons_cons]
    exact (compare_gt_iff_gt.mpr (by omega)).symm
  · rw [compare_positiveCode]
    simp only [compare, compareOfLessAndEq]
    split_ifs <;> first | rfl | omega

theorem foldl_bin2bn (acc : Nat) (bytes : List UInt8) :
    bytes.foldl (fun acc byte => acc * 256 + byte.toNat) acc =
      acc * 2 ^ (8 * bytes.length) + toNat (ofBytes bytes) := by
  induction bytes generalizing acc with
  | nil => simp
  | cons byte rest ih =>
      rw [List.foldl_cons, ih, ofBytes_cons, toNat_append, ofByte, toNat_ofNat,
        Nat.mod_eq_of_lt byte.toNat_lt, length_ofBytes, List.length_cons]
      ring

theorem bnBin2bn_eq_toNat (bytes : List UInt8) : bnBin2bn bytes = toNat (ofBytes bytes) := by
  rw [bnBin2bn, foldl_bin2bn]
  simp

theorem countFullBytes_ones (full : Nat) {byte : UInt8} (after : List UInt8) (notFull : byte ≠ 0xff) :
    countFullBytes (List.replicate full 0xff ++ byte :: after) = some full := by
  induction full with
  | zero => simp [countFullBytes, notFull]
  | succ full ih =>
      obtain ⟨next, rest, layout⟩ : ∃ next rest,
          List.replicate full (0xff : UInt8) ++ byte :: after = next :: rest :=
        List.exists_cons_of_ne_nil (by simp)
      rw [List.replicate_succ, List.cons_append, layout, countFullBytes, if_pos rfl]
      rw [layout] at ih
      simp only [ih, Option.map_some]

theorem clearLeadingOnes_spec {bit ones : Nat} {byte : UInt8} {tail : List Bool} (fits : bit ≤ 8)
    (below : ones < bit)
    (spelled : ofByte byte = List.replicate (8 - bit) false ++ List.replicate ones true ++ false :: tail) :
    (clearLeadingOnes bit byte).1 = ones ∧
      ofByte (clearLeadingOnes bit byte).2 = List.replicate (8 - bit + ones) false ++ false :: tail := by
  induction bit generalizing byte ones with
  | zero => omega
  | succ bit ih =>
      cases ones with
      | zero =>
          -- the tested bit is the header's zero: the loop stops
          rw [List.replicate_zero, List.append_nil] at spelled
          have lowLength : tail.length = bit := by
            have := congrArg List.length spelled
            simp at this
            omega
          have stop := (and_two_pow_eq_zero_iff spelled).mpr rfl
          rw [lowLength] at stop
          rw [clearLeadingOnes, if_neg (not_not.mpr stop)]
          exact ⟨rfl, spelled⟩
      | succ ones =>
          -- the tested bit is a one: it is counted, cleared, and the loop goes on below it
          rw [List.replicate_succ, List.append_assoc, List.cons_append] at spelled
          have lowLength : (List.replicate ones true ++ false :: tail).length = bit := by
            have := congrArg List.length spelled
            simp only [length_ofByte, List.length_append, List.length_replicate, List.length_cons]
              at this ⊢
            omega
          have go := mt (and_two_pow_eq_zero_iff spelled).mp (by decide)
          have flipped := ofByte_xor_two_pow spelled
          rw [lowLength] at go flipped
          have cleared : ofByte (byte ^^^ UInt8.ofNat (2 ^ bit)) =
              List.replicate (8 - bit) false ++ List.replicate ones true ++ false :: tail := by
            rw [flipped, show 8 - bit = 8 - (bit + 1) + 1 by omega, List.replicate_succ',
              List.append_assoc, List.append_assoc, List.singleton_append]
            rfl
          obtain ⟨counted, bits⟩ := ih (by omega) (by omega) cleared
          rw [clearLeadingOnes, if_pos go]
          dsimp only
          refine ⟨by rw [counted], ?_⟩
          rw [bits]
          congr 2
          omega

theorem readHeader {buffer : List UInt8} {ones width count magnitude : Nat} {rest : List Bool}
    (spelled : ofBytes buffer = List.replicate ones true ++ false :: (ofNat width magnitude ++ rest))
    (small : magnitude < 2 ^ width) (total : ones + 1 + width = 8 * count) :
    ∃ idx, countFullBytes buffer = some idx ∧
      8 * idx + (clearLeadingOnes 8 (buffer.getD idx 0)).1 = ones ∧
      bnBin2bn (((buffer.set idx (clearLeadingOnes 8 (buffer.getD idx 0)).2).drop idx).take
        (count - idx)) = magnitude := by
  obtain ⟨byte, after, tail, rfl, byteBits, restEq⟩ := ofBytes_eq_ones spelled
  have tailLength : tail.length = 7 - ones % 8 := by
    have := congrArg List.length byteBits
    simp only [length_ofByte, List.length_append, List.length_replicate, List.length_cons] at this
    omega
  have notFull : byte ≠ 0xff := by
    intro full
    have zero : false ∈ ofByte byte := by
      rw [byteBits]
      simp
    rw [full, ofByte_ones] at zero
    simp at zero
  have read : (List.replicate (ones / 8) (0xff : UInt8) ++ byte :: after).getD (ones / 8) 0 = byte := by
    rw [List.getD_append_right _ _ _ _ (by simp)]
    simp
  obtain ⟨counted, cleared⟩ := clearLeadingOnes_spec (le_refl 8) (Nat.mod_lt ones (by norm_num))
    (show ofByte byte = List.replicate (8 - 8) false ++ List.replicate (ones % 8) true ++ false :: tail by
      simpa using byteBits)
  refine ⟨ones / 8, countFullBytes_ones _ after notFull, ?_, ?_⟩
  · rw [read, counted]
    omega
  · obtain ⟨more, moreEq⟩ : ∃ more, count - ones / 8 = more + 1 := ⟨count - ones / 8 - 1, by omega⟩
    have body : tail ++ (ofBytes after).take (8 * more) = ofNat width magnitude := by
      calc tail ++ (ofBytes after).take (8 * more)
          = (tail ++ ofBytes after).take (tail.length + 8 * more) := by
            rw [List.take_append, List.take_of_length_le (show tail.length ≤ tail.length + 8 * more by omega),
              Nat.add_sub_cancel_left]
        _ = (ofNat width magnitude ++ rest).take width := by
            rw [restEq, show tail.length + 8 * more = width by omega]
        _ = ofNat width magnitude := List.take_left' (length_ofNat _ _)
    rw [read, List.set_append_right _ _ (by simp), List.length_replicate, Nat.sub_self,
      List.set_cons_zero, List.drop_left' (by simp), moreEq, List.take_succ_cons, bnBin2bn_eq_toNat,
      ofBytes_cons, ofBytes_take, cleared, List.append_assoc, List.cons_append, body, toNat_append,
      toNat_replicate_false, Nat.zero_mul, Nat.zero_add, toNat_cons, toNat_ofNat,
      Nat.mod_eq_of_lt small]
    simp

theorem ofBytes_buffer {slice : List UInt8} {numReservedBits : Nat} {reserved code rest : List Bool}
    (fits : numReservedBits ≤ 8) (reservedLength : reserved.length = numReservedBits)
    (nonempty : slice ≠ []) (negative : Prop) [Decidable negative]
    (spelled : ofBytes slice = reserved ++ ((if negative then code.map not else code) ++ rest)) :
    ofBytes (if numReservedBits ≠ 0 then
        setReservedBits (if negative then slice.map (~~~ ·) else slice) numReservedBits
      else if negative then slice.map (~~~ ·) else slice) =
      List.replicate numReservedBits true ++ (code ++ if negative then rest.map not else rest) := by
  have flipped : ofBytes (if negative then slice.map (~~~ ·) else slice) =
      (if negative then reserved.map not else reserved) ++
        (code ++ if negative then rest.map not else rest) := by
    split
    · rw [ofBytes_map_not, spelled, if_pos ‹negative›]
      simp [Function.comp_def]
    · rw [spelled, if_neg ‹¬negative›]
  have flippedLength : (if negative then reserved.map not else reserved).length = numReservedBits := by
    split <;> simp [reservedLength]
  split
  · obtain ⟨first, rest', layout⟩ := List.exists_cons_of_ne_nil
      (show (if negative then slice.map (~~~ ·) else slice) ≠ [] by split <;> simpa)
    rw [layout, ofBytes_setReservedBits first rest' fits, ← layout, flipped,
      List.drop_left' flippedLength]
  · rename_i noReserved
    have none : numReservedBits = 0 := by omega
    rw [flipped, List.eq_nil_of_length_eq_zero (flippedLength.trans none), none]
    rfl

theorem decodeFromComparable_of_ofBytes {bytes : List UInt8} {value : Int} {numReservedBits : Nat}
    {reserved : List Bool} (fits : numReservedBits ≤ 6) (reservedLength : reserved.length = numReservedBits)
    (spelled : ofBytes bytes = reserved ++ if value < 0 then (positiveCode numReservedBits value.natAbs).map not
      else positiveCode numReservedBits value.natAbs)
    (suffix : List UInt8) :
    decodeFromComparable (bytes ++ suffix) numReservedBits = .ok (value, bytes.length) := by
  have atLeast := numBytes_pos numReservedBits value.natAbs
  have length : bytes.length = numBytes numReservedBits value.natAbs := by
    have := congrArg List.length spelled
    rw [length_ofBytes, List.length_append, reservedLength] at this
    split at this <;> simp [length_positiveCode _ _ fits] at this <;> omega
  obtain ⟨first, rest, layout⟩ := List.exists_cons_of_ne_nil
    (show bytes ++ suffix ≠ [] by simp [List.ne_nil_of_length_pos (show 0 < bytes.length by omega)])
  have sliceBits : ofBytes (bytes ++ suffix) = reserved ++
      ((if value < 0 then (positiveCode numReservedBits value.natAbs).map not
        else positiveCode numReservedBits value.natAbs) ++ ofBytes suffix) := by
    rw [ofBytes_append, spelled, List.append_assoc]
  have signFlag : first &&& UInt8.ofNat (0x80 >>> numReservedBits) = 0 ↔ value < 0 := by
    obtain ⟨codeRest, head⟩ := positiveCode_head numReservedBits value.natAbs
    have signed : (if value < 0 then (positiveCode numReservedBits value.natAbs).map not
        else positiveCode numReservedBits value.natAbs) =
          (!decide (value < 0)) :: if value < 0 then codeRest.map not else codeRest := by
      rw [head]
      split <;> simp [*]
    rw [signed, List.cons_append, layout] at sliceBits
    obtain ⟨low, firstBits⟩ : ∃ low, ofByte first = reserved ++ (!decide (value < 0)) :: low :=
      ⟨_, ofByte_of_ofBytes_cons (by omega) sliceBits⟩
    have lowLength : low.length = 7 - numReservedBits := by
      have := congrArg List.length firstBits
      simp only [length_ofByte, List.length_append, reservedLength, List.length_cons] at this
      omega
    have shift : 0x80 >>> numReservedBits = 2 ^ (7 - numReservedBits) := by
      rw [Nat.shiftRight_eq_div_pow, show (0x80 : Nat) = 2 ^ 7 from rfl, Nat.pow_div (by omega) (by norm_num)]
    rw [shift, ← lowLength, and_two_pow_eq_zero_iff firstBits]
    simp
  have bufferBits := @ofBytes_buffer (bytes ++ suffix) numReservedBits reserved
    (positiveCode numReservedBits value.natAbs) (ofBytes suffix) (by omega) reservedLength
    (by rw [layout]; simp)
    (first &&& UInt8.ofNat (0x80 >>> numReservedBits) = 0) _
    (by rw [sliceBits, if_congr signFlag rfl rfl])
  rw [positiveCode, List.append_assoc, List.cons_append, ← List.append_assoc, ← List.replicate_add]
    at bufferBits
  have total : numReservedBits + numBytes numReservedBits value.natAbs + 1 +
      (7 * numBytes numReservedBits value.natAbs - numReservedBits - 1) =
        8 * numBytes numReservedBits value.natAbs := by
    omega
  obtain ⟨idx, counted, ones, magnitude⟩ := readHeader bufferBits
    (magnitude_lt_code numReservedBits value.natAbs) total
  rw [layout]
  simp only [decodeFromComparable]
  rw [← layout, counted]
  dsimp only
  rw [ones, Nat.add_sub_cancel_left, magnitude, if_neg (by simp; omega), length]
  congr 2
  split
  · have negative := signFlag.mp ‹_›
    omega
  · have nonnegative := mt signFlag.mpr ‹_›
    omega

theorem decodeFromComparable_encodeToComparable (value : Int) {numReservedBits : Nat}
    (fits : numReservedBits ≤ 6) (suffix : List UInt8) :
    decodeFromComparable (encodeToComparable value numReservedBits ++ suffix) numReservedBits =
      .ok (value, (encodeToComparable value numReservedBits).length) := by
  have spelled := ofBytes_encodeToComparable value fits
  rw [encodingBits] at spelled
  exact decodeFromComparable_of_ofBytes fits (List.length_replicate ..) spelled suffix

theorem ofBytes_clearReservedBits_encodeToComparable (value : Int) {numReservedBits : Nat}
    (fits : numReservedBits ≤ 6) :
    ofBytes (clearReservedBits (encodeToComparable value numReservedBits) numReservedBits) =
      encodingBits value numReservedBits := by
  have length := congrArg List.length (ofBytes_encodeToComparable value fits)
  rw [length_ofBytes, length_encodingBits value fits] at length
  obtain ⟨first, rest, layout⟩ := List.exists_cons_of_ne_nil (List.ne_nil_of_length_pos
    (show 0 < (encodeToComparable value numReservedBits).length by
      have := numBytes_pos numReservedBits value.natAbs
      omega))
  rw [layout, ofBytes_clearReservedBits first rest (by omega), ← layout,
    ofBytes_encodeToComparable value fits, encodingBits, List.drop_left' (List.length_replicate ..)]

theorem encodeToComparable_decodes_and_orders {numReservedBits : Nat}
    (reserved : numReservedBits = 0 ∨ numReservedBits = 2) :
    (∀ (value : Int) (suffix : List UInt8),
      decodeFromComparable (encodeToComparable value numReservedBits ++ suffix) numReservedBits =
        .ok (value, (encodeToComparable value numReservedBits).length)) ∧
    ∀ value other : Int,
      compare (clearReservedBits (encodeToComparable value numReservedBits) numReservedBits)
          (clearReservedBits (encodeToComparable other numReservedBits) numReservedBits) =
        compare value other := by
  have fits : numReservedBits ≤ 6 := by omega
  refine ⟨fun value suffix => decodeFromComparable_encodeToComparable value fits suffix, ?_⟩
  intro value other
  rw [← compare_ofBytes, ofBytes_clearReservedBits_encodeToComparable value fits,
    ofBytes_clearReservedBits_encodeToComparable other fits, compare_encodingBits value other fits]

theorem encodeToComparable_decodes_and_orders_minus_thousand :
    (2 = 0 ∨ 2 = 2) ∧
      decodeFromComparable (encodeToComparable (-1000) 2 ++ [0x07]) 2 =
        .ok (-1000, (encodeToComparable (-1000) 2).length) ∧
      compare (clearReservedBits (encodeToComparable (-1000) 2) 2)
          (clearReservedBits (encodeToComparable 5 2) 2) = compare (-1000 : Int) 5 :=
  ⟨Or.inr rfl, (encodeToComparable_decodes_and_orders (Or.inr rfl)).1 (-1000) [0x07],
    (encodeToComparable_decodes_and_orders (Or.inr rfl)).2 (-1000) 5⟩

theorem isDigit_of_mem_digitText {n : Nat} {c : Char}
    (member : c ∈ (DecimalDigits.ofNat n).map DecimalDigits.toChar) : c.isDigit = true := by
  obtain ⟨digit, inDigits, rfl⟩ := List.mem_map.mp member
  exact DecimalDigits.isDigit_toChar (DecimalDigits.ofNat_below digit inDigits)

theorem takeWhile_digitText (n : Nat) {rest : List Char} (stop : ∀ c ∈ rest.head?, c.isDigit = false) :
    ((DecimalDigits.ofNat n).map DecimalDigits.toChar ++ rest).takeWhile Char.isDigit =
      (DecimalDigits.ofNat n).map DecimalDigits.toChar := by
  rw [List.takeWhile_append_of_pos (fun c member => isDigit_of_mem_digitText member)]
  cases rest with
  | nil => simp
  | cons c rest => simp [stop c rfl]

theorem value_digitText (n : Nat) :
    DecimalDigits.value (((DecimalDigits.ofNat n).map DecimalDigits.toChar).map DecimalDigits.ofChar) = n := by
  have same : ((DecimalDigits.ofNat n).map DecimalDigits.toChar).map DecimalDigits.ofChar =
      DecimalDigits.ofNat n := by
    rw [List.map_map]
    conv_rhs => rw [← List.map_id (DecimalDigits.ofNat n)]
    exact List.map_congr_left
      (fun digit member => DecimalDigits.ofChar_toChar (DecimalDigits.ofNat_below digit member))
  rw [same, DecimalDigits.value_ofNat]

theorem digitText_head (n : Nat) :
    ∃ first rest, (DecimalDigits.ofNat n).map DecimalDigits.toChar = first :: rest ∧ first.isDigit = true := by
  obtain ⟨digit, more, layout⟩ := List.exists_cons_of_ne_nil (DecimalDigits.ofNat_ne_nil n)
  refine ⟨DecimalDigits.toChar digit, more.map DecimalDigits.toChar, by rw [layout, List.map_cons], ?_⟩
  exact isDigit_of_mem_digitText (by rw [layout]; exact List.mem_map_of_mem List.mem_cons_self)

theorem bnDec2bn_bnBn2dec (value : Int) {rest : List Char} (stop : ∀ c ∈ rest.head?, c.isDigit = false) :
    bnDec2bn (bnBn2dec value ++ rest) = some (value, (bnBn2dec value).length) := by
  obtain ⟨first, more, layout, firstDigit⟩ := digitText_head value.natAbs
  have notMinus : first ≠ '-' := by
    rintro rfl
    exact absurd firstDigit (by decide)
  have digitsNonempty : ((DecimalDigits.ofNat value.natAbs).map DecimalDigits.toChar).isEmpty = false := by
    rw [layout]
    rfl
  by_cases negative : value < 0
  · have text : bnBn2dec value = '-' :: (DecimalDigits.ofNat value.natAbs).map DecimalDigits.toChar := by
      rw [bnBn2dec, if_pos negative, List.singleton_append]
    unfold bnDec2bn
    simp only [text, List.cons_append, List.head?_cons, List.tail_cons, if_true,
      takeWhile_digitText _ stop, digitsNonempty, Bool.false_eq_true, if_false, value_digitText,
      List.length_cons]
    congr 2
    omega
  · have text : bnBn2dec value = (DecimalDigits.ofNat value.natAbs).map DecimalDigits.toChar := by
      rw [bnBn2dec, if_neg negative, List.nil_append]
    have head : (bnBn2dec value ++ rest).head? ≠ some '-' := by
      rw [text, layout, List.cons_append, List.head?_cons]
      simpa using notMinus
    unfold bnDec2bn
    simp only [head, if_false]
    rw [text, takeWhile_digitText _ stop, digitsNonempty, if_neg Bool.false_ne_true, value_digitText]
    congr 2
    omega

theorem strlen_of_noNul {text : List Char} (noNul : ∀ c ∈ text, c ≠ Char.ofNat 0) :
    strlen text = text.length := by
  rw [strlen, List.takeWhile_eq_self_iff.mpr (fun c member => by simpa using noNul c member)]

theorem noNul_bnBn2dec (value : Int) : ∀ c ∈ bnBn2dec value, c ≠ Char.ofNat 0 := by
  intro c member
  rw [bnBn2dec] at member
  rcases List.mem_append.mp member with sign | digit
  · split at sign
    · rw [List.mem_singleton.mp sign]
      decide
    · simp at sign
  · intro nul
    have isDigit := isDigit_of_mem_digitText digit
    rw [nul] at isDigit
    exact absurd isDigit (by decide)

theorem fromString_toString (value : Int) (plus : Prop) [Decidable plus] :
    fromString ((if plus then ['+'] else []) ++ toString value) = .ok value := by
  have unsigned : (if (toString value).head? = some '+' then (toString value).tail else toString value) =
      toString value := by
    obtain ⟨first, more, layout, firstDigit⟩ := digitText_head value.natAbs
    rw [toString, bnBn2dec]
    split
    · rfl
    · rw [List.nil_append, layout, List.head?_cons, if_neg]
      rintro ⟨⟩
      exact absurd firstDigit (by decide)
  have read := @bnDec2bn_bnBn2dec value [] (fun c member => by simp at member)
  rw [List.append_nil] at read
  unfold fromString
  by_cases signed : plus
  · rw [if_pos signed, List.singleton_append, List.head?_cons, if_pos rfl, List.tail_cons]
    dsimp only
    rw [toString, read]
    dsimp only
    rw [if_pos (strlen_of_noNul (noNul_bnBn2dec value)).symm]
  · rw [if_neg signed, List.nil_append]
    dsimp only
    rw [unsigned, toString, read]
    dsimp only
    rw [if_pos (strlen_of_noNul (noNul_bnBn2dec value)).symm]

theorem toInt64_of_ok {value result : Int} (converted : toInt64 value = .ok result) : result = value := by
  unfold toInt64 bnGetWord at converted
  dsimp only at converted
  split_ifs at converted with fits inRange negative <;> cases converted <;> omega

theorem toInt64_of_bounds {value : Int} (low : -2 ^ 63 ≤ value) (high : value < 2 ^ 63) :
    toInt64 value = .ok value := by
  unfold toInt64 bnGetWord
  dsimp only
  split_ifs <;> first | omega | (congr 1; omega)

end VarInt

end ChogoriSql
