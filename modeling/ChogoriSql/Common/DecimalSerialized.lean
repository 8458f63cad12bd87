import ChogoriSql.Common.DecimalValue
import ChogoriSql.Common.VarIntTwosComplement

/-! The serialized `BigDecimal` of `Decimal::EncodeToSerializedBigDecimal` and
`Decimal::DecodeFromSerializedBigDecimal` (`common/type/decimal.cc`): the scale
`digits - exponent` in four bytes of two's complement, then the mantissa, the digits read as an
integer with the sign of the number, in two's complement.  A canonical decimal whose scale four
bytes hold is read back as it was; for another the encoder reports that it is out of range. -/

namespace ChogoriSql

namespace Decimal

/-- `Decimal::EncodeToSerializedBigDecimal`: the bytes and `is_out_of_range`; `none` where
`CHECK_RESULT` aborts. -/
def encodeToSerializedBigDecimal (decimal : Decimal) : Option (List UInt8 × Bool) :=
  let varintScale : Int := decimal.digits.length - decimal.exponent
  let scale := VarInt.encodeToTwosComplement varintScale
  if scale.length > 4 then some ([], true)
  else
    let scale :=
      if scale.length < 4 then List.replicate (4 - scale.length) (if varintScale < 0 then 0xff else 0) ++ scale
      else scale
    -- the digit characters and the terminating zero, read as a C string
    let digits := decimal.digits.map DecimalDigits.toChar ++ [Char.ofNat 0]
    let temp := if !decimal.digits.isEmpty then (VarInt.fromString digits).toOption else some 0
    temp.map fun temp =>
      let temp := if !decimal.isPositive then -temp else temp
      (scale ++ VarInt.encodeToTwosComplement temp, false)

/-- `Decimal::DecodeFromSerializedBigDecimal`. -/
def decodeFromSerializedBigDecimal (slice : List UInt8) : Except Status Decimal :=
  if slice.length < 5 then
    .error (Status.withMessages .corruption "Serialized BigDecimal must have at least 5 bytes. Found \x7b\x7d" "")
  else do
    let scale ← VarInt.decodeFromTwosComplement (slice.take 4)
    let mantissa ← VarInt.decodeFromTwosComplement (slice.drop 4)
    let negative := mantissa < 0
    let mantissa := if negative then -mantissa else mantissa
    let mantissaStr := VarInt.toString mantissa
    let digits := mantissaStr.map DecimalDigits.ofChar
    pure (makeCanonical ⟨digits, digits.length - scale, !negative⟩)

example : encodeToSerializedBigDecimal ⟨[1, 2, 5], 2, false⟩ = some ([0, 0, 0, 1, 0x83], false) := by
  decide
example : decodeFromSerializedBigDecimal [0, 0, 0, 1, 0x83] = .ok ⟨[1, 2, 5], 2, false⟩ := by decide

open TwosComplement

theorem strlen_append_nul {text : List Char} (noNul : ∀ c ∈ text, c ≠ Char.ofNat 0) (rest : List Char) :
    VarInt.strlen (text ++ Char.ofNat 0 :: rest) = text.length := by
  rw [VarInt.strlen, List.takeWhile_append_of_pos (fun c member => by simpa using noNul c member)]
  simp

theorem fromString_toString_nul (value : Int) :
    VarInt.fromString (VarInt.toString value ++ [Char.ofNat 0]) = .ok value := by
  obtain ⟨first, more, layout, firstDigit⟩ := VarInt.digitText_head value.natAbs
  have notPlus : (VarInt.toString value ++ [Char.ofNat 0]).head? ≠ some '+' := by
    rw [VarInt.toString, VarInt.bnBn2dec]
    split
    · simp
    · rw [List.nil_append, layout, List.cons_append, List.head?_cons]
      rintro ⟨⟩
      exact absurd firstDigit (by decide)
  have read := @VarInt.bnDec2bn_bnBn2dec value [Char.ofNat 0] (by simp)
  unfold VarInt.fromString
  rw [if_neg notPlus]
  dsimp only
  rw [VarInt.toString, read]
  dsimp only
  rw [if_pos (strlen_append_nul (VarInt.noNul_bnBn2dec value) []).symm]

theorem toString_value {digits : List Nat} (below : ∀ digit ∈ digits, digit < 10) (nonempty : digits ≠ [])
    (leading : digits.head? ≠ some 0) :
    VarInt.toString (DecimalDigits.value digits) = digits.map DecimalDigits.toChar := by
  rw [VarInt.toString, VarInt.bnBn2dec, if_neg (by omega), List.nil_append, Int.natAbs_natCast,
    DecimalDigits.ofNat_value below nonempty leading]

theorem map_ofChar_toChar {digits : List Nat} (below : ∀ digit ∈ digits, digit < 10) :
    (digits.map DecimalDigits.toChar).map DecimalDigits.ofChar = digits := by
  rw [List.map_map]
  conv_rhs => rw [← List.map_id digits]
  exact List.map_congr_left (fun digit member => DecimalDigits.ofChar_toChar (below digit member))

theorem mantissa_of_canonical {decimal : Decimal} (canonical : decimal.Canonical) :
    (if !decimal.digits.isEmpty then
        (VarInt.fromString (decimal.digits.map DecimalDigits.toChar ++ [Char.ofNat 0])).toOption
      else some 0) = some (DecimalDigits.value decimal.digits : Int) := by
  by_cases zero : decimal.digits = []
  · rw [zero]
    rfl
  · have leading := canonical.head zero
    rw [if_pos (by simpa using zero), ← toString_value canonical.below zero leading, fromString_toString_nul]
    rfl

theorem signed_scale {scale : Int} (fits : Fits 4 scale) :
    let bytes := VarInt.encodeToTwosComplement scale
    bytes.length ≤ 4 ∧
      (if bytes.length < 4 then List.replicate (4 - bytes.length) (if scale < 0 then 0xff else 0) ++ bytes
        else bytes) = List.replicate (4 - bytes.length) (if negative bytes then 0xff else 0) ++ bytes := by
  intro bytes
  obtain ⟨nonempty, reads, shortest⟩ := VarInt.encodeToTwosComplement_spec scale
  have short := shortest.le (by norm_num) fits
  have sign : (scale < 0) = (negative bytes = true) := by
    rw [negative_iff_signed_neg, reads]
  refine ⟨short, ?_⟩
  by_cases shorter : bytes.length < 4
  · rw [if_pos shorter]
    simp only [sign]
  · rw [if_neg shorter, show 4 - bytes.length = 0 by omega, List.replicate_zero, List.nil_append]

theorem encodeToSerializedBigDecimal_of_fits {decimal : Decimal} (canonical : decimal.Canonical)
    (fits : Fits 4 (decimal.digits.length - decimal.exponent)) :
    ∃ bytes, decimal.encodeToSerializedBigDecimal = some (bytes, false) ∧
      decodeFromSerializedBigDecimal bytes = .ok decimal := by
  by_cases zero : decimal.digits = []
  · obtain rfl := canonical.eq_clear zero
    exact ⟨[0, 0, 0, 0, 0], by decide, by decide⟩
  obtain ⟨short, padded⟩ := signed_scale fits
  obtain ⟨scaleNonempty, scaleReads, -⟩ :=
    VarInt.encodeToTwosComplement_spec (decimal.digits.length - decimal.exponent)
  set scaleBytes := VarInt.encodeToTwosComplement (decimal.digits.length - decimal.exponent) with scaleEq
  set mantissa : Int := if !decimal.isPositive then -(DecimalDigits.value decimal.digits : Int)
    else DecimalDigits.value decimal.digits with mantissaEq
  obtain ⟨mantissaNonempty, mantissaReads, -⟩ := VarInt.encodeToTwosComplement_spec mantissa
  set scale := List.replicate (4 - scaleBytes.length) (if negative scaleBytes then 0xff else 0) ++ scaleBytes
  have scaleLength : scale.length = 4 := by
    rw [List.length_append, List.length_replicate]
    omega
  have scaleSigned : signed scale = decimal.digits.length - decimal.exponent := by
    rw [signed_signExtend, scaleReads]
  refine ⟨scale ++ VarInt.encodeToTwosComplement mantissa, ?_, ?_⟩
  · rw [encodeToSerializedBigDecimal]
    dsimp only
    rw [← scaleEq, if_neg (by omega), padded, mantissa_of_canonical canonical, Option.map_some]
  · have long : ¬ (scale ++ VarInt.encodeToTwosComplement mantissa).length < 5 := by
      have positive := List.length_pos_of_ne_nil mantissaNonempty
      rw [List.length_append, scaleLength]
      omega
    rw [decodeFromSerializedBigDecimal, if_neg long, List.take_left' scaleLength, List.drop_left' scaleLength,
      VarInt.decodeFromTwosComplement_of_ne_nil (List.ne_nil_of_length_pos (by omega)), scaleSigned,
      VarInt.decodeFromTwosComplement_of_ne_nil mantissaNonempty, mantissaReads, Except.ok_bind,
      Except.ok_bind]
    dsimp only
    have positive : (0 : Int) < DecimalDigits.value decimal.digits := by
      obtain ⟨digit, rest, split⟩ := List.exists_cons_of_ne_nil zero
      have digitNonzero : digit ≠ 0 := fun isZero => canonical.head zero (by rw [split, isZero]; rfl)
      have large := DecimalDigits.pow_le_value rest digitNonzero
      rw [← split] at large
      have : 0 < 10 ^ rest.length := by positivity
      omega
    have magnitude : (if mantissa < 0 then -mantissa else mantissa) = DecimalDigits.value decimal.digits := by
      rw [mantissaEq]
      cases decimal.isPositive <;> simp
    have sign : (!decide (mantissa < 0)) = decimal.isPositive := by
      rw [mantissaEq]
      cases decimal.isPositive
      · simpa using positive
      · simp
    rw [magnitude, sign, toString_value canonical.below zero (canonical.head zero),
      map_ofChar_toChar canonical.below, show (decimal.digits.length : Int) -
        (decimal.digits.length - decimal.exponent) = decimal.exponent by ring,
      makeCanonical_of_canonical canonical]
    rfl

theorem encodeToSerializedBigDecimal_out_of_range {decimal : Decimal}
    (wide : ¬ Fits 4 (decimal.digits.length - decimal.exponent)) :
    decimal.encodeToSerializedBigDecimal = some ([], true) := by
  obtain ⟨nonempty, reads, -⟩ :=
    VarInt.encodeToTwosComplement_spec (decimal.digits.length - decimal.exponent)
  have long : (VarInt.encodeToTwosComplement (decimal.digits.length - decimal.exponent)).length > 4 := by
    by_contra short
    have holds := signed_fits nonempty
    rw [reads] at holds
    exact wide (holds.mono (by omega))
  rw [encodeToSerializedBigDecimal]
  dsimp only
  rw [if_pos long]

theorem decodeFromSerializedBigDecimal_inverts_encoding {decimal : Decimal} (canonical : decimal.Canonical) :
    (Fits 4 (decimal.digits.length - decimal.exponent) →
      ∃ bytes, decimal.encodeToSerializedBigDecimal = some (bytes, false) ∧
        decodeFromSerializedBigDecimal bytes = .ok decimal) ∧
    (¬ Fits 4 (decimal.digits.length - decimal.exponent) →
      decimal.encodeToSerializedBigDecimal = some ([], true)) :=
  ⟨encodeToSerializedBigDecimal_of_fits canonical, encodeToSerializedBigDecimal_out_of_range⟩

theorem decodeFromSerializedBigDecimal_inverts_encoding_minus_twelve_and_a_half :
    (⟨[1, 2, 5], 2, false⟩ : Decimal).Canonical ∧
      ((Fits 4 ((⟨[1, 2, 5], 2, false⟩ : Decimal).digits.length - (⟨[1, 2, 5], 2, false⟩ : Decimal).exponent) →
        ∃ bytes, (⟨[1, 2, 5], 2, false⟩ : Decimal).encodeToSerializedBigDecimal = some (bytes, false) ∧
          decodeFromSerializedBigDecimal bytes = .ok ⟨[1, 2, 5], 2, false⟩) ∧
      (¬ Fits 4 ((⟨[1, 2, 5], 2, false⟩ : Decimal).digits.length - (⟨[1, 2, 5], 2, false⟩ : Decimal).exponent) →
        (⟨[1, 2, 5], 2, false⟩ : Decimal).encodeToSerializedBigDecimal = some ([], true))) :=
  have canonical : (⟨[1, 2, 5], 2, false⟩ : Decimal).Canonical := ⟨by decide, by decide⟩
  ⟨canonical, decodeFromSerializedBigDecimal_inverts_encoding canonical⟩

end Decimal

end ChogoriSql
