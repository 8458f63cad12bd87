import ChogoriSql.Common.DecimalValue

/-! The text of a `Decimal` (`common/type/decimal.cc`): `FromString` reads a sign, digits with at
most one point among them and an exponent after `e` or `E`; `ToPointString` prints the digits
around a point, `ToScientificString` one digit before the point and the exponent after an `e`,
and `ToString` the first of them where it fits in `kDefaultMaxLength` characters.  `FromVarInt`
and `ToVarInt` go through the text.  An error's text is its format string, without the
arguments. -/

namespace ChogoriSql

namespace Decimal

open DecimalDigits

def kDefaultMaxLength : Nat := 20

def kUnlimitedMaxLength : Nat := 2 ^ 31 - 1

def readMantissa : List Char → List Nat → Option Nat → Except Status (List Nat × Option Nat × List Char)
  | [], digits, point => .ok (digits, point, [])
  | c :: rest, digits, point =>
      if c = 'e' ∨ c = 'E' then .ok (digits, point, c :: rest)
      else if c = '.' ∧ point = none then readMantissa rest digits (some digits.length)
      else if '0' ≤ c ∧ c ≤ '9' then readMantissa rest (digits ++ [ofChar c]) point
      else .error (Status.withMessages .invalidArgument
        "Invalid character \x7b\x7d found at position \x7b\x7d when parsing Decimal \x7b\x7d" "")

def readExponent : List Char → Except Status Int
  | [] => .ok 0
  | _ :: exponentSlice => VarInt.fromString exponentSlice

/-- `Decimal::FromString`. -/
def fromString (slice : List Char) : Except Status Decimal :=
  match slice with
  | [] => .error (Status.withMessages .invalidArgument "Cannot decode empty slice to Decimal: \x7b\x7d" "")
  | first :: rest => do
      let isPositive := first != '-'
      let body := if first = '+' ∨ first = '-' then rest else first :: rest
      let (digits, point, exponentSlice) ← readMantissa body [] none
      if digits.isEmpty then
        throw (Status.withMessages .invalidArgument
          "There are no digits in the decimal \x7b\x7d before the e / E" "")
      let pointPosition := point.getD digits.length
      let exponent ← readExponent exponentSlice
      pure (makeCanonical { digits, exponent := exponent + pointPosition, isPositive })

def tooSmall : Status :=
  Status.withMessages .invalidArgument "Max length \x7b\x7d too small to encode Decimal" ""

def pushDigits (maxLength : Nat) (point : Option Nat) : Nat → List Char → List Nat → Except Status (List Char)
  | _, output, [] => .ok output
  | i, output, digit :: rest =>
      let output := (if point = some i then output ++ ['.'] else output) ++ [toChar digit]
      if output.length > maxLength then .error tooSmall
      else pushDigits maxLength point (i + 1) output rest

def pushZeros (maxLength : Nat) : Nat → List Char → Except Status (List Char)
  | 0, output => .ok output
  | count + 1, output =>
      let output := output ++ ['0']
      if output.length > maxLength then .error tooSmall
      else pushZeros maxLength count output

/-- `Decimal::ToPointString(string_val, max_length)`: the text, or the error. -/
def toPointString (decimal : Decimal) (maxLength : Nat) : Except Status (List Char) :=
  if decimal.digits.isEmpty then .ok ['0']
  else do
    let exponent ← VarInt.toInt64 decimal.exponent
    if exponent > maxLength ∨ exponent < -(maxLength : Int) then
      throw (Status.withMessages .invalidArgument
        "Max length \x7b\x7d too small to encode decimal with exponent \x7b\x7d" "")
    let output := if decimal.isPositive then [] else ['-']
    if exponent ≤ 0 then
      pushDigits maxLength none 0 (output ++ ['0', '.'] ++ List.replicate (-exponent).toNat '0')
        decimal.digits
    else
      let output ← pushDigits maxLength (some exponent.toNat) 0 output decimal.digits
      pushZeros maxLength (exponent.toNat - decimal.digits.length) output

/-- `Decimal::ToScientificString()`. -/
def toScientificString (decimal : Decimal) : List Char :=
  match decimal.digits with
  | [] => ['0']
  | first :: rest =>
      let exponent := decimal.exponent + -1
      (if decimal.isPositive then [] else ['-']) ++ [toChar first, '.'] ++ rest.map toChar ++ ['e'] ++
        (if exponent ≥ 0 then ['+'] else []) ++ VarInt.toString exponent

/-- `Decimal::ToString()`: the point form where it fits, else the scientific one. -/
def toString (decimal : Decimal) : List Char :=
  match decimal.toPointString kDefaultMaxLength with
  | .ok output => output
  | .error _ => decimal.toScientificString

/-- `is_integer()`. -/
def isInteger (decimal : Decimal) : Bool :=
  decimal.digits.isEmpty || decide (decimal.exponent ≥ decimal.digits.length)

/-- `Decimal::FromVarInt`. -/
def fromVarInt (varint : Int) : Except Status Decimal :=
  fromString (VarInt.toString varint)

/-- `Decimal::ToVarInt()`. -/
def toVarInt (decimal : Decimal) : Except Status Int := do
  let stringVal ← decimal.toPointString kUnlimitedMaxLength
  if !decimal.isInteger then
    throw (Status.withMessages .invalidArgument
      "Cannot convert non-integer Decimal into integer: \x7b\x7d" "")
  VarInt.fromString stringVal

def pointedDigits (point : Option Nat) : Nat → List Nat → List Char
  | _, [] => []
  | i, digit :: rest => (if point = some i then ['.'] else []) ++ toChar digit :: pointedDigits point (i + 1) rest

theorem pushDigits_eq (maxLength : Nat) (point : Option Nat) {digits : List Nat} (nonempty : digits ≠ [])
    (i : Nat) (output : List Char) :
    pushDigits maxLength point i output digits =
      if (output ++ pointedDigits point i digits).length ≤ maxLength then
        .ok (output ++ pointedDigits point i digits)
      else .error tooSmall := by
  induction digits generalizing i output with
  | nil => exact absurd rfl nonempty
  | cons digit rest ih =>
      have pushed : (if point = some i then output ++ ['.'] else output) ++ [toChar digit] =
          output ++ ((if point = some i then ['.'] else []) ++ [toChar digit]) := by
        split <;> simp
      have whole : output ++ pointedDigits point i (digit :: rest) =
          output ++ ((if point = some i then ['.'] else []) ++ [toChar digit]) ++ pointedDigits point (i + 1) rest := by
        simp [pointedDigits]
      rw [pushDigits, pushed, whole]
      cases rest with
      | nil =>
          rw [pushDigits, pointedDigits, List.append_nil]
          by_cases fits : (output ++ ((if point = some i then ['.'] else []) ++ [toChar digit])).length ≤ maxLength
          · rw [if_neg (Nat.not_lt.mpr fits), if_pos fits]
          · rw [if_pos (Nat.lt_of_not_le fits), if_neg fits]
      | cons next more =>
          rw [ih (List.cons_ne_nil next more)]
          by_cases fits : (output ++ ((if point = some i then ['.'] else []) ++ [toChar digit]) ++
              pointedDigits point (i + 1) (next :: more)).length ≤ maxLength
          · have shorter : (output ++ ((if point = some i then ['.'] else []) ++ [toChar digit])).length ≤
                (output ++ ((if point = some i then ['.'] else []) ++ [toChar digit]) ++
                  pointedDigits point (i + 1) (next :: more)).length := by
              simp
            rw [if_neg (show ¬ _ > maxLength by omega), if_pos fits]
          · rw [if_neg fits]
            by_cases first : (output ++ ((if point = some i then ['.'] else []) ++ [toChar digit])).length > maxLength
            · rw [if_pos first]
            · rw [if_neg first]

theorem pushZeros_eq (maxLength : Nat) (count : Nat) (output : List Char) :
    pushZeros maxLength count output =
      if count = 0 ∨ output.length + count ≤ maxLength then .ok (output ++ List.replicate count '0')
      else .error tooSmall := by
  induction count generalizing output with
  | zero => simp [pushZeros]
  | succ count ih =>
      rw [pushZeros, ih]
      have grown : (output ++ ['0']).length = output.length + 1 := by simp
      have padded : output ++ ['0'] ++ List.replicate count '0' = output ++ List.replicate (count + 1) '0' := by
        simp [List.replicate_succ]
      rw [grown, padded]
      by_cases fits : output.length + (count + 1) ≤ maxLength
      · rw [if_neg (show ¬ output.length + 1 > maxLength by omega),
          if_pos (show count = 0 ∨ output.length + 1 + count ≤ maxLength by omega), if_pos (Or.inr fits)]
      · rw [if_neg (show ¬ (count + 1 = 0 ∨ output.length + (count + 1) ≤ maxLength) by omega)]
        by_cases first : output.length + 1 > maxLength
        · rw [if_pos first]
        · rw [if_neg first, if_neg (show ¬ (count = 0 ∨ output.length + 1 + count ≤ maxLength) by omega)]

theorem pointedDigits_of_passed {point : Option Nat} {i : Nat} (passed : ∀ j, i ≤ j → point ≠ some j)
    (digits : List Nat) : pointedDigits point i digits = digits.map toChar := by
  induction digits generalizing i with
  | nil => rfl
  | cons digit rest ih =>
      rw [pointedDigits, if_neg (passed i (Nat.le_refl i)),
        ih (fun j later => passed j (Nat.le_of_succ_le later))]
      rfl

theorem pointedDigits_none (digits : List Nat) : pointedDigits none 0 digits = digits.map toChar :=
  pointedDigits_of_passed (fun _ _ => by simp) digits

theorem pointedDigits_some {point : Nat} {i : Nat} (digits : List Nat) (after : i ≤ point) :
    pointedDigits (some point) i digits =
      if point - i < digits.length then
        (digits.take (point - i)).map toChar ++ '.' :: (digits.drop (point - i)).map toChar
      else digits.map toChar := by
  induction digits generalizing i with
  | nil => simp [pointedDigits]
  | cons digit rest ih =>
      rw [pointedDigits]
      by_cases here : point = i
      · subst here
        rw [if_pos rfl, pointedDigits_of_passed (fun j later same => by simp at same; omega) rest,
          Nat.sub_self, if_pos (by simp)]
        rfl
      · have ahead : point - i = point - (i + 1) + 1 := by omega
        rw [if_neg (by simpa using here), ih (by omega), ahead, List.length_cons, List.take_succ_cons,
          List.drop_succ_cons]
        split_ifs <;> first | rfl | omega

theorem readMantissa_digits {digits : List Nat} (below : ∀ digit ∈ digits, digit < 10) (rest : List Char)
    (read : List Nat) (point : Option Nat) :
    readMantissa (digits.map toChar ++ rest) read point = readMantissa rest (read ++ digits) point := by
  induction digits generalizing read with
  | nil => simp
  | cons digit more ih =>
      obtain ⟨low, high⟩ := toChar_range (below digit (by simp))
      have notExponent : ¬ (toChar digit = 'e' ∨ toChar digit = 'E') := by
        rintro (same | same) <;> rw [same] at high <;> exact absurd high (by decide)
      have notPoint : ¬ (toChar digit = '.' ∧ point = none) := by
        rintro ⟨same, _⟩
        rw [same] at low
        exact absurd low (by decide)
      rw [List.map_cons, List.cons_append, readMantissa, if_neg notExponent, if_neg notPoint,
        if_pos ⟨low, high⟩, ofChar_toChar (below digit (by simp)),
        ih (fun other member => below other (by simp [member]))]
      simp

theorem readMantissa_point (rest : List Char) (read : List Nat) :
    readMantissa ('.' :: rest) read none = readMantissa rest read (some read.length) := by
  rw [readMantissa, if_neg (by decide), if_pos ⟨rfl, rfl⟩]

theorem readMantissa_exponent (rest : List Char) (read : List Nat) (point : Option Nat) :
    readMantissa ('e' :: rest) read point = .ok (read, point, 'e' :: rest) := by
  rw [readMantissa, if_pos (Or.inl rfl)]

theorem readMantissa_nil (read : List Nat) (point : Option Nat) :
    readMantissa [] read point = .ok (read, point, []) :=
  rfl

theorem fromString_of_read {body : List Char} {digits : List Nat} {point : Option Nat}
    {exponentSlice : List Char} {exponent : Int} (isPositive : Bool)
    (unsigned : ∀ c ∈ body.head?, c ≠ '+' ∧ c ≠ '-')
    (read : readMantissa body [] none = .ok (digits, point, exponentSlice)) (nonzero : digits ≠ [])
    (exponentRead : readExponent exponentSlice = .ok exponent) :
    fromString ((if isPositive then [] else ['-']) ++ body) =
      .ok (makeCanonical ⟨digits, exponent + point.getD digits.length, isPositive⟩) := by
  have digitsRead : (digits.isEmpty = true) = False := by simpa using nonzero
  cases isPositive
  · rw [if_neg Bool.false_ne_true, List.singleton_append, fromString]
    simp only [bne_self_eq_false, or_true, if_true, read, Except.ok_bind, digitsRead, if_false,
      exponentRead]
    rfl
  · obtain ⟨first, rest, rfl⟩ : ∃ first rest, body = first :: rest := by
      cases body with
      | nil =>
          simp only [readMantissa_nil, Except.ok.injEq, Prod.mk.injEq] at read
          exact absurd read.1.symm nonzero
      | cons first rest => exact ⟨first, rest, rfl⟩
    obtain ⟨notPlus, notMinus⟩ := unsigned first rfl
    have positive : (first != '-') = true := bne_iff_ne.mpr notMinus
    rw [if_pos rfl, List.nil_append, fromString]
    simp only [positive, notMinus, notPlus, or_self, if_false, read, Except.ok_bind, digitsRead,
      exponentRead]
    rfl

theorem map_toChar_replicate_zero (count : Nat) :
    (List.replicate count 0).map toChar = List.replicate count '0' := by
  rw [List.map_replicate]
  rfl

theorem readMantissa_printed {digits : List Nat} (below : ∀ digit ∈ digits, digit < 10) {tail : List Char}
    (ends : ∀ read point, readMantissa tail read point = .ok (read, point, tail)) :
    readMantissa (digits.map toChar ++ tail) [] none = .ok (digits, none, tail) := by
  rw [readMantissa_digits below, ends, List.nil_append]

theorem readMantissa_pointed {whole fractional : List Nat} (below : ∀ digit ∈ whole, digit < 10)
    (below' : ∀ digit ∈ fractional, digit < 10) {tail : List Char}
    (ends : ∀ read point, readMantissa tail read point = .ok (read, point, tail)) :
    readMantissa (whole.map toChar ++ ('.' :: (fractional.map toChar ++ tail))) [] none =
      .ok (whole ++ fractional, some whole.length, tail) := by
  rw [readMantissa_digits below, List.nil_append, readMantissa_point, readMantissa_digits below', ends]

theorem unsigned_of_printed {digits : List Nat} (below : ∀ digit ∈ digits, digit < 10) (nonempty : digits ≠ [])
    (rest : List Char) : ∀ c ∈ (digits.map toChar ++ rest).head?, c ≠ '+' ∧ c ≠ '-' := by
  obtain ⟨first, more, rfl⟩ := List.exists_cons_of_ne_nil nonempty
  intro c member
  simp only [List.map_cons, List.cons_append, List.head?_cons, Option.mem_def, Option.some.injEq] at member
  subst member
  obtain ⟨low, high⟩ := toChar_range (below first (by simp))
  constructor
  · intro plus
    rw [plus] at low
    exact absurd low (by decide)
  · intro minus
    rw [minus] at low
    exact absurd low (by decide)

theorem toPointString_shapes {decimal : Decimal} {maxLength : Nat} {text : List Char}
    (nonzero : decimal.digits ≠ []) (printed : decimal.toPointString maxLength = .ok text) :
    (decimal.exponent ≤ 0 ∧ text = (if decimal.isPositive then [] else ['-']) ++
      ([0].map toChar ++ ('.' :: ((List.replicate (-decimal.exponent).toNat 0 ++ decimal.digits).map toChar ++ [])))) ∨
    (0 < decimal.exponent ∧ decimal.exponent < decimal.digits.length ∧
      text = (if decimal.isPositive then [] else ['-']) ++ ((decimal.digits.take decimal.exponent.toNat).map toChar ++
        ('.' :: ((decimal.digits.drop decimal.exponent.toNat).map toChar ++ [])))) ∨
    (decimal.digits.length ≤ decimal.exponent ∧ text = (if decimal.isPositive then [] else ['-']) ++
      ((decimal.digits ++ List.replicate (decimal.exponent.toNat - decimal.digits.length) 0).map toChar ++ [])) := by
  rw [toPointString, if_neg (by simpa using nonzero)] at printed
  obtain ⟨exponent, converted, printed⟩ := Except.bind_eq_ok printed
  obtain rfl := VarInt.toInt64_of_ok converted
  dsimp only at printed
  split at printed
  · cases printed
  · rename_i inRange
    split at printed
    · rename_i below
      rw [pushDigits_eq _ _ nonzero] at printed
      refine .inl ⟨below, ?_⟩
      rw [← Except.eq_of_ite_ok printed, pointedDigits_none, List.map_append, map_toChar_replicate_zero]
      simp
    · rename_i above
      obtain ⟨output, pushed, padded⟩ := Except.bind_eq_ok printed
      rw [pushDigits_eq _ _ nonzero, pointedDigits_some _ (Nat.zero_le _), Nat.sub_zero] at pushed
      rw [pushZeros_eq, ← Except.eq_of_ite_ok pushed] at padded
      rw [← Except.eq_of_ite_ok padded]
      by_cases inside : decimal.exponent < decimal.digits.length
      · refine .inr (.inl ⟨by omega, inside, ?_⟩)
        rw [if_pos (show decimal.exponent.toNat < decimal.digits.length by omega),
          show decimal.exponent.toNat - decimal.digits.length = 0 by omega]
        simp
      · refine .inr (.inr ⟨by omega, ?_⟩)
        rw [if_neg (show ¬ decimal.exponent.toNat < decimal.digits.length by omega), List.map_append,
          map_toChar_replicate_zero]
        simp

theorem makeCanonical_eq_of_value {read decimal : Decimal} (below : ∀ digit ∈ read.digits, digit < 10)
    (canonical : decimal.Canonical) (same : read.value = decimal.value) : read.makeCanonical = decimal :=
  eq_of_value_eq (makeCanonical_canonical below) canonical (by rw [value_makeCanonical, same])

theorem value_eq_of_magnitude_eq {read decimal : Decimal} (sameSign : read.isPositive = decimal.isPositive)
    (same : read.magnitude = decimal.magnitude) : read.value = decimal.value := by
  rw [value, value, sameSign, same]

theorem readExponent_nil : readExponent [] = .ok 0 :=
  rfl

theorem readMantissa_ends_nil : ∀ read point, readMantissa [] read point = .ok (read, point, []) :=
  readMantissa_nil

theorem fromString_below_one {decimal : Decimal} (canonical : decimal.Canonical) (below : decimal.exponent ≤ 0) :
    fromString ((if decimal.isPositive then [] else ['-']) ++
      ([0].map toChar ++ ('.' :: ((List.replicate (-decimal.exponent).toNat 0 ++ decimal.digits).map toChar ++ [])))) =
        .ok decimal := by
  have zeroBelow : ∀ digit ∈ [0], digit < 10 := by simp
  have zerosBelow := below_replicate_zero_append canonical.below (-decimal.exponent).toNat
  rw [fromString_of_read decimal.isPositive (unsigned_of_printed zeroBelow (List.cons_ne_nil 0 []) _)
    (readMantissa_pointed zeroBelow zerosBelow readMantissa_ends_nil) (List.cons_ne_nil _ _) readExponent_nil]
  congr 1
  have leading : [0] ++ (List.replicate (-decimal.exponent).toNat 0 ++ decimal.digits) =
      List.replicate ((-decimal.exponent).toNat + 1) 0 ++ decimal.digits := by
    simp [List.replicate_succ]
  have shift : (0 : Int) + ((1 : Nat) : Int) = decimal.exponent + (((-decimal.exponent).toNat + 1 : Nat) : Int) := by
    omega
  apply makeCanonical_eq_of_value (by rw [leading]; exact below_replicate_zero_append canonical.below _) canonical
  refine value_eq_of_magnitude_eq rfl ?_
  simp only [List.length_singleton, Option.getD_some]
  rw [leading, shift]
  exact magnitude_leading_zeros decimal.digits _ decimal.exponent _ decimal.isPositive

theorem fromString_inside {decimal : Decimal} (canonical : decimal.Canonical) (above : 0 < decimal.exponent)
    (inside : decimal.exponent < decimal.digits.length) :
    fromString ((if decimal.isPositive then [] else ['-']) ++ ((decimal.digits.take decimal.exponent.toNat).map toChar ++
      ('.' :: ((decimal.digits.drop decimal.exponent.toNat).map toChar ++ [])))) = .ok decimal := by
  have takeBelow : ∀ digit ∈ decimal.digits.take decimal.exponent.toNat, digit < 10 :=
    fun digit member => canonical.below digit (List.mem_of_mem_take member)
  have dropBelow : ∀ digit ∈ decimal.digits.drop decimal.exponent.toNat, digit < 10 :=
    fun digit member => canonical.below digit (List.mem_of_mem_drop member)
  have taken : decimal.digits.take decimal.exponent.toNat ≠ [] := by
    simp only [ne_eq, List.take_eq_nil_iff, not_or]
    refine ⟨by omega, fun empty => ?_⟩
    rw [empty, List.length_nil] at inside
    omega
  have whole : decimal.digits.take decimal.exponent.toNat ++ decimal.digits.drop decimal.exponent.toNat ≠ [] := by
    simpa using List.ne_nil_of_length_pos (show 0 < decimal.digits.length by omega)
  rw [fromString_of_read decimal.isPositive (unsigned_of_printed takeBelow taken _)
    (readMantissa_pointed takeBelow dropBelow readMantissa_ends_nil) whole readExponent_nil]
  congr 1
  rw [List.take_append_drop, Option.getD_some, List.length_take, Nat.min_eq_left (by omega),
    show (0 : Int) + (decimal.exponent.toNat : Int) = decimal.exponent by omega]
  exact makeCanonical_of_canonical canonical

theorem fromString_integer {decimal : Decimal} (canonical : decimal.Canonical) (nonzero : decimal.digits ≠ [])
    (above : decimal.digits.length ≤ decimal.exponent) :
    fromString ((if decimal.isPositive then [] else ['-']) ++
      ((decimal.digits ++ List.replicate (decimal.exponent.toNat - decimal.digits.length) 0).map toChar ++ [])) =
        .ok decimal := by
  have paddedBelow := below_append_replicate_zero canonical.below (decimal.exponent.toNat - decimal.digits.length)
  have padded : decimal.digits ++ List.replicate (decimal.exponent.toNat - decimal.digits.length) 0 ≠ [] := by
    simp [nonzero]
  rw [fromString_of_read decimal.isPositive (unsigned_of_printed paddedBelow padded _)
    (readMantissa_printed paddedBelow readMantissa_ends_nil) padded readExponent_nil]
  congr 1
  apply makeCanonical_eq_of_value paddedBelow canonical
  refine value_eq_of_magnitude_eq rfl ?_
  rw [Option.getD_none, List.length_append, List.length_replicate,
    show (0 : Int) + ((decimal.digits.length + (decimal.exponent.toNat - decimal.digits.length) : Nat) : Int) =
      decimal.exponent by omega]
  exact magnitude_trailing_zeros decimal.digits _ decimal.exponent _ decimal.isPositive

theorem fromString_scientific {decimal : Decimal} (canonical : decimal.Canonical) (nonzero : decimal.digits ≠ []) :
    fromString decimal.toScientificString = .ok decimal := by
  rcases decimal with ⟨_ | ⟨first, rest⟩, exponent, isPositive⟩
  · exact absurd rfl nonzero
  · have firstBelow : ∀ digit ∈ [first], digit < 10 := fun digit member =>
      canonical.below digit (by simp at member; simp [member])
    have restBelow : ∀ digit ∈ rest, digit < 10 := fun digit member => canonical.below digit (by simp [member])
    have text : toScientificString ⟨first :: rest, exponent, isPositive⟩ =
        (if isPositive then [] else ['-']) ++ ([first].map toChar ++ ('.' :: (rest.map toChar ++
          ('e' :: ((if exponent + -1 ≥ 0 then ['+'] else []) ++ VarInt.toString (exponent + -1)))))) := by
      simp [toScientificString]
    rw [text, fromString_of_read isPositive (unsigned_of_printed firstBelow (List.cons_ne_nil first []) _)
      (readMantissa_pointed firstBelow restBelow (readMantissa_exponent _)) (List.cons_ne_nil first rest)
      (VarInt.fromString_toString (exponent + -1) (exponent + -1 ≥ 0))]
    congr 1
    rw [List.singleton_append, Option.getD_some, List.length_singleton,
      show exponent + -1 + ((1 : Nat) : Int) = exponent by omega]
    exact makeCanonical_of_canonical canonical

theorem readMantissa_below {body : List Char} {read digits : List Nat} {point point' : Option Nat}
    {exponentSlice : List Char} (below : ∀ digit ∈ read, digit < 10)
    (ran : readMantissa body read point = .ok (digits, point', exponentSlice)) : ∀ digit ∈ digits, digit < 10 := by
  induction body generalizing read point with
  | nil =>
      rw [readMantissa_nil] at ran
      cases ran
      exact below
  | cons c rest ih =>
      rw [readMantissa] at ran
      split at ran
      · cases ran
        exact below
      · split at ran
        · exact ih below ran
        · split at ran
          · rename_i isDigit
            apply ih _ ran
            intro digit member
            rcases List.mem_append.mp member with earlier | pushed
            · exact below digit earlier
            · rw [List.mem_singleton.mp pushed]
              exact ofChar_lt_ten isDigit.1 isDigit.2
          · cases ran

theorem fromString_canonical {slice : List Char} {decimal : Decimal} (parsed : fromString slice = .ok decimal) :
    decimal.Canonical := by
  cases slice with
  | nil => cases parsed
  | cons first rest =>
      rw [fromString] at parsed
      obtain ⟨⟨digits, point, exponentSlice⟩, read, parsed⟩ := Except.bind_eq_ok parsed
      dsimp only at parsed
      split at parsed
      · cases parsed
      · obtain ⟨exponent, _, made⟩ := Except.bind_eq_ok parsed
        cases made
        exact makeCanonical_canonical (readMantissa_below (by simp) read)

theorem fromString_canonical_minus_point_zero_four :
    fromString "-0.004372e1".toList = .ok ⟨[4, 3, 7, 2], -1, false⟩ ∧ (⟨[4, 3, 7, 2], -1, false⟩ : Decimal).Canonical :=
  have parsed : fromString "-0.004372e1".toList = .ok ⟨[4, 3, 7, 2], -1, false⟩ := by decide
  ⟨parsed, fromString_canonical parsed⟩

theorem makeCanonical_of_head {digits : List Nat} (head : digits.head? ≠ some 0)
    (kept : digits.rdropWhile (· == 0) ≠ []) (exponent : Int) (isPositive : Bool) :
    makeCanonical ⟨digits, exponent, isPositive⟩ = ⟨digits.rdropWhile (· == 0), exponent, isPositive⟩ := by
  have noLeading : digits.takeWhile (· == 0) = [] := by
    cases digits with
    | nil => rfl
    | cons first rest =>
        have nonzero : first ≠ 0 := fun zero => head (by rw [zero]; rfl)
        simp [nonzero]
  rw [makeCanonical]
  split
  · rename_i checked
    have popped : digits.rdropWhile (· == 0) = digits := by
      apply List.rdropWhile_eq_self_iff.mpr
      intro nonempty
      rw [isCanonical, if_neg (by simpa using nonempty)] at checked
      simp only [Bool.and_eq_true, bne_iff_ne] at checked
      have last := checked.2
      rw [List.getLast?_eq_some_getLast nonempty] at last
      simpa using last
    rw [popped]
  · dsimp only
    rw [noLeading, List.length_nil, List.drop_zero, List.replicate_zero, List.append_nil,
      if_neg (by simpa using kept), Nat.cast_zero, sub_zero]

theorem sign_of_int (varint : Int) :
    (if varint < 0 then ['-'] else []) = if (!decide (varint < 0)) = true then [] else ['-'] := by
  by_cases negative : varint < 0 <;> simp [negative]

theorem fromVarInt_eq (varint : Int) :
    fromVarInt varint = .ok (makeCanonical ⟨ofNat varint.natAbs, (ofNat varint.natAbs).length, !decide (varint < 0)⟩) := by
  have text : VarInt.toString varint = (if (!decide (varint < 0)) = true then [] else ['-']) ++
      ((ofNat varint.natAbs).map toChar ++ []) := by
    rw [VarInt.toString, VarInt.bnBn2dec, sign_of_int, List.append_nil]
  rw [fromVarInt, text, fromString_of_read _ (unsigned_of_printed ofNat_below (ofNat_ne_nil _) _)
    (readMantissa_printed ofNat_below readMantissa_ends_nil) (ofNat_ne_nil _) readExponent_nil,
    Option.getD_none, zero_add]

theorem toPointString_integer {decimal : Decimal} {maxLength : Nat} (nonzero : decimal.digits ≠ [])
    (above : decimal.digits.length ≤ decimal.exponent)
    (fits : (if decimal.isPositive then [] else ['-']).length + decimal.exponent.toNat ≤ maxLength)
    (small : decimal.exponent < 2 ^ 63) :
    decimal.toPointString maxLength = .ok ((if decimal.isPositive then [] else ['-']) ++
      decimal.digits.map toChar ++ List.replicate (decimal.exponent.toNat - decimal.digits.length) '0') := by
  have positive : 0 < decimal.exponent := lt_of_lt_of_le (by simpa using List.length_pos_of_ne_nil nonzero) above
  rw [toPointString, if_neg (by simpa using nonzero), VarInt.toInt64_of_bounds (by omega) small, Except.ok_bind]
  dsimp only
  rw [if_neg (by omega), if_neg (by omega)]
  rw [pushDigits_eq _ _ nonzero, pointedDigits_some _ (Nat.zero_le _), Nat.sub_zero,
    if_neg (show ¬ decimal.exponent.toNat < decimal.digits.length by omega)]
  have digitsFit : ((if decimal.isPositive then [] else ['-']) ++ decimal.digits.map toChar).length ≤ maxLength := by
    simp only [List.length_append, List.length_map]
    omega
  rw [if_pos digitsFit, Except.ok_bind, pushZeros_eq,
    if_pos (Or.inr (by simp only [List.length_append, List.length_map]; omega))]

/-- `FromVarInt` makes the decimal of the integer's value, and `ToVarInt` gives the integer back
whenever its text fits in `kUnlimitedMaxLength` characters. -/
theorem fromVarInt_then_toVarInt (varint : Int) (short : (VarInt.toString varint).length ≤ kUnlimitedMaxLength) :
    ∃ decimal, fromVarInt varint = .ok decimal ∧ decimal.value = varint ∧ decimal.toVarInt = .ok varint := by
  by_cases zero : varint = 0
  · subst zero
    exact ⟨clear, rfl, by simp, rfl⟩
  · have head : (ofNat varint.natAbs).head? ≠ some 0 := ofNat_head (Int.natAbs_ne_zero.mpr zero)
    have kept : (ofNat varint.natAbs).rdropWhile (· == 0) ≠ [] := by
      obtain ⟨first, rest, layout⟩ := List.exists_cons_of_ne_nil (ofNat_ne_nil varint.natAbs)
      rw [layout, List.head?_cons] at head
      rw [layout, ne_eq, List.rdropWhile_eq_nil_iff]
      intro zeros
      exact head (by simpa using zeros first List.mem_cons_self)
    have textLength : (VarInt.toString varint).length =
        (if (!decide (varint < 0)) = true then [] else ['-']).length + (ofNat varint.natAbs).length := by
      rw [VarInt.toString, VarInt.bnBn2dec, sign_of_int, List.length_append, List.length_map]
    refine ⟨⟨(ofNat varint.natAbs).rdropWhile (· == 0), (ofNat varint.natAbs).length, !decide (varint < 0)⟩,
      ?_, ?_, ?_⟩
    · rw [fromVarInt_eq, makeCanonical_of_head head kept]
    · rw [← makeCanonical_of_head head kept, value_makeCanonical, value, magnitude, fraction, value_ofNat,
        zpow_natCast, div_mul_cancel₀ _ (by positivity)]
      have cast : ((varint.natAbs : Nat) : ℚ) = ((varint.natAbs : Int) : ℚ) := rfl
      by_cases negative : varint < 0
      · rw [if_neg (by simp [negative]), cast, show (varint.natAbs : Int) = -varint by omega]
        push_cast
        ring
      · rw [if_pos (by simp [negative]), cast, show (varint.natAbs : Int) = varint by omega]
    · have nonzero : (ofNat varint.natAbs).rdropWhile (· == 0) ≠ [] := kept
      have above := (List.rdropWhile_prefix (· == 0) (ofNat varint.natAbs)).length_le
      have printed := @toPointString_integer ⟨(ofNat varint.natAbs).rdropWhile (· == 0),
        (ofNat varint.natAbs).length, !decide (varint < 0)⟩ kUnlimitedMaxLength nonzero
        (by dsimp only; exact_mod_cast above) (by dsimp only; rw [Int.toNat_natCast]; omega)
        (show ((ofNat varint.natAbs).length : Int) < 2 ^ 63 by unfold kUnlimitedMaxLength at short; omega)
      rw [toVarInt, printed, Except.ok_bind]
      have integer : isInteger ⟨(ofNat varint.natAbs).rdropWhile (· == 0), (ofNat varint.natAbs).length,
          !decide (varint < 0)⟩ = true := by
        simp [isInteger, above]
      simp only [integer, Bool.not_true, Bool.false_eq_true, if_false]
      have text : (if (!decide (varint < 0)) = true then [] else ['-']) ++
          ((ofNat varint.natAbs).rdropWhile (· == 0)).map toChar ++
            List.replicate ((((ofNat varint.natAbs).length : Nat) : Int).toNat -
              ((ofNat varint.natAbs).rdropWhile (· == 0)).length) '0' = VarInt.toString varint := by
        rw [Int.toNat_natCast, ← map_toChar_replicate_zero, List.append_assoc, ← List.map_append,
          rdropWhile_zero_append_replicate, VarInt.toString, VarInt.bnBn2dec, sign_of_int]
      have read := VarInt.fromString_toString varint False
      rw [if_neg not_false, List.nil_append] at read
      rw [text, read]

theorem fromVarInt_then_toVarInt_minus_twelve_hundred :
    (VarInt.toString (-1200)).length ≤ kUnlimitedMaxLength ∧
      ∃ decimal, fromVarInt (-1200) = .ok decimal ∧ decimal.value = -1200 ∧ decimal.toVarInt = .ok (-1200) :=
  have short : (VarInt.toString (-1200)).length ≤ kUnlimitedMaxLength := by decide
  ⟨short, by exact_mod_cast fromVarInt_then_toVarInt (-1200) short⟩

theorem fromString_toString {decimal : Decimal} (canonical : decimal.Canonical) :
    fromString decimal.toString = .ok decimal := by
  by_cases zero : decimal.digits = []
  · rw [canonical.eq_clear zero]
    rfl
  · unfold toString
    split
    · rename_i text printed
      rcases toPointString_shapes zero printed with ⟨below, rfl⟩ | ⟨above, inside, rfl⟩ | ⟨above, rfl⟩
      · exact fromString_below_one canonical below
      · exact fromString_inside canonical above inside
      · exact fromString_integer canonical zero above
    · exact fromString_scientific canonical zero

/-- `FromString` reads back the text `ToString` prints for a canonical decimal, in either form. -/
theorem fromString_reads_back_toString {decimal : Decimal} (canonical : decimal.Canonical) :
    fromString decimal.toString = .ok decimal :=
  fromString_toString canonical

theorem fromString_reads_back_toString_minus_point_zero_four :
    (⟨[4, 3, 7, 2], -1, false⟩ : Decimal).Canonical ∧
      fromString (toString ⟨[4, 3, 7, 2], -1, false⟩) = .ok ⟨[4, 3, 7, 2], -1, false⟩ :=
  have canonical : (⟨[4, 3, 7, 2], -1, false⟩ : Decimal).Canonical := ⟨by decide, by decide⟩
  ⟨canonical, fromString_reads_back_toString canonical⟩

example : fromString "-0.004372e1".toList = .ok ⟨[4, 3, 7, 2], -1, false⟩ := by decide
example : toString ⟨[4, 3, 7, 2], -1, false⟩ = "-0.04372".toList := by decide
example : toString ⟨[1, 5], 25, true⟩ = "1.5e+24".toList := by decide

def normalizedText (negative : Bool) (whole fraction : List Nat) : List Char :=
  (if negative then ['-'] else []) ++
    (whole.map toChar ++ if fraction = [] then [] else '.' :: fraction.map toChar)

def normalizedValue (negative : Bool) (whole fraction : List Nat) : ℚ :=
  (if negative then -1 else 1) *
    ((DecimalDigits.value whole : ℚ) + DecimalDigits.value fraction / 10 ^ fraction.length)

section Normalized

variable (negative : Bool) {whole fraction : List Nat} (belowWhole : ∀ digit ∈ whole, digit < 10)
  (nonempty : whole ≠ []) (belowFraction : ∀ digit ∈ fraction, digit < 10)

include belowWhole belowFraction in
theorem readMantissa_normalized :
    readMantissa (whole.map toChar ++ if fraction = [] then [] else '.' :: fraction.map toChar) [] none =
      .ok (whole ++ fraction, if fraction = [] then none else some whole.length, []) := by
  by_cases noFraction : fraction = []
  · subst noFraction
    simp only [if_pos, List.append_nil]
    rw [← List.append_nil (whole.map toChar)]
    exact readMantissa_printed belowWhole readMantissa_ends_nil
  · simp only [if_neg noFraction]
    rw [← List.append_nil (fraction.map toChar)]
    exact readMantissa_pointed belowWhole belowFraction readMantissa_ends_nil

include belowWhole nonempty belowFraction in
theorem fromString_normalizedText :
    fromString (normalizedText negative whole fraction) =
      .ok (makeCanonical ⟨whole ++ fraction, whole.length, !negative⟩) := by
  have digits : whole ++ fraction ≠ [] := by simp [nonempty]
  have parsed := fromString_of_read (!negative)
    (unsigned_of_printed belowWhole nonempty _) (readMantissa_normalized belowWhole belowFraction)
    digits readExponent_nil
  have point : (0 : Int) + (if fraction = [] then none else some whole.length).getD
      (whole ++ fraction).length = whole.length := by
    split
    · rename_i noFraction
      simp [noFraction]
    · simp
  rw [point] at parsed
  cases negative <;> exact parsed

theorem value_normalized :
    (⟨whole ++ fraction, whole.length, !negative⟩ : Decimal).value =
      normalizedValue negative whole fraction := by
  have magnitudeEq : ∀ isPositive, (⟨whole ++ fraction, whole.length, isPositive⟩ : Decimal).magnitude =
      (DecimalDigits.value whole : ℚ) + DecimalDigits.value fraction / 10 ^ fraction.length := by
    intro isPositive
    have exponent : (whole.length : Int) - (whole ++ fraction).length = -(fraction.length : Int) := by
      simp only [List.length_append, Nat.cast_add]
      ring
    rw [magnitude_eq_value]
    simp only
    rw [exponent, zpow_neg, zpow_natCast, DecimalDigits.value_append]
    push_cast
    field_simp
  cases negative <;> simp [value, magnitudeEq, normalizedValue]

end Normalized

/-- A `DECIMAL` value stored and read back: `FromString` parses the text, `DecodeFromComparable`
reads the decimal back from its key bytes, all of them, and `FromString` reads the text
`ToString` prints of it as the same decimal, whose value is the text's. -/
theorem fromString_storage_roundTrip (negative : Bool) {whole fraction : List Nat}
    (belowWhole : ∀ digit ∈ whole, digit < 10) (nonempty : whole ≠ [])
    (belowFraction : ∀ digit ∈ fraction, digit < 10) :
    ∃ decimal, fromString (normalizedText negative whole fraction) = .ok decimal ∧
      decodeFromComparable decimal.encodeToComparable =
        .ok (decimal, decimal.encodeToComparable.length) ∧
      fromString decimal.toString = .ok decimal ∧
      decimal.value = normalizedValue negative whole fraction := by
  have parsed := fromString_normalizedText negative belowWhole nonempty belowFraction
  have below : ∀ digit ∈ whole ++ fraction, digit < 10 :=
    List.forall_mem_append.mpr ⟨belowWhole, belowFraction⟩
  have canonical : (makeCanonical ⟨whole ++ fraction, whole.length, !negative⟩).Canonical :=
    makeCanonical_canonical below
  have decoded := decodeFromComparable_encodeToComparable canonical []
  rw [List.append_nil] at decoded
  refine ⟨_, parsed, decoded, fromString_toString canonical, ?_⟩
  rw [value_makeCanonical, value_normalized]

theorem fromString_storage_roundTrip_minus_twelve_and_a_half :
    (∀ digit ∈ [1, 2], digit < 10) ∧ [1, 2] ≠ [] ∧ (∀ digit ∈ [5, 0], digit < 10) ∧
      ∃ decimal, fromString (normalizedText true [1, 2] [5, 0]) = .ok decimal ∧
        decodeFromComparable decimal.encodeToComparable =
          .ok (decimal, decimal.encodeToComparable.length) ∧
        fromString decimal.toString = .ok decimal ∧
        decimal.value = normalizedValue true [1, 2] [5, 0] :=
  ⟨by decide, by decide, by decide,
    fromString_storage_roundTrip true (by decide) (by decide) (by decide)⟩

end Decimal

end ChogoriSql
