import ChogoriSql.Common.VarInt
import ChogoriSql.Monad.Except
import ChogoriSql.Order.Lex

/-! `Decimal` of `common/type/decimal.cc`: the number `± 10 ^ exponent * 0.d₁d₂…dₖ`, its
canonical form, `CompareTo`, and the comparable encoding that the keys of `DECIMAL` columns are
stored as: the exponent as a `VarInt` whose two reserved bits take the sign, then the digits two
to a byte, all of it complemented for a negative number. -/

namespace ChogoriSql

/-- `digits_`, `exponent_` and `is_positive_`.  The representation keeps the digits in `0..9`. -/
structure Decimal where
  digits : List Nat
  exponent : Int
  isPositive : Bool
  deriving DecidableEq, Repr

namespace Decimal

open BitString

/-- `clear()`: zero. -/
def clear : Decimal :=
  { digits := [], exponent := 0, isPositive := true }

/-- `is_canonical()`. -/
def isCanonical (decimal : Decimal) : Bool :=
  if decimal.digits.isEmpty then decimal.isPositive && decimal.exponent == 0
  else decimal.digits.head? != some 0 && decimal.digits.getLast? != some 0

/-- `make_canonical()`: the leading zeros shifted out into the exponent, the trailing zeros
popped, and zero cleared. -/
def makeCanonical (decimal : Decimal) : Decimal :=
  if decimal.isCanonical then decimal
  else
    let numZeros := (decimal.digits.takeWhile (· == 0)).length
    let shifted := decimal.digits.drop numZeros ++ List.replicate numZeros 0
    let digits := shifted.rdropWhile (· == 0)
    if digits.isEmpty then clear
    else { digits, exponent := decimal.exponent - numZeros, isPositive := decimal.isPositive }

def firstDifference : List Nat → List Nat → Option Int
  | digit :: rest, digit' :: rest' =>
      if (digit : Int) - digit' ≠ 0 then some ((digit : Int) - digit') else firstDifference rest rest'
  | _, _ => none

/-- `CompareTo`: below, at or above zero as this decimal is below, equal to or above `other`. -/
def compareTo (decimal other : Decimal) : Int :=
  if decimal.isPositive ≠ other.isPositive then
    (decimal.isPositive.toNat : Int) - other.isPositive.toNat
  else if decimal.digits.isEmpty || other.digits.isEmpty then
    -- zeros are compared apart, since the exponent of zero says nothing
    let comp : Int := (decimal.digits.isEmpty.toNat : Int) - other.digits.isEmpty.toNat
    if decimal.isPositive then -comp else comp
  else
    let comp := VarInt.compareTo decimal.exponent other.exponent
    if comp ≠ 0 then (if decimal.isPositive then comp else -comp)
    else
      match firstDifference decimal.digits other.digits with
      | some comp => if decimal.isPositive then comp else -comp
      | none =>
          let comp : Int := (decimal.digits.length : Int) - other.digits.length
          if decimal.isPositive then comp else -comp

/-- `EncodeToDigitPairs`, byte by byte: two digits to a byte above the continuation bit, which
every byte but the last has; an odd last digit is paired with a zero. -/
def encodeToDigitPairs : List Nat → List UInt8
  | [] => []
  | [digit] => [UInt8.ofNat (digit * 10 * 2)]
  | [digit, digit'] => [UInt8.ofNat ((digit * 10 + digit') * 2)]
  | digit :: digit' :: next :: rest =>
      UInt8.ofNat ((digit * 10 + digit') * 2 + 1) :: encodeToDigitPairs (next :: rest)

def setSignBits (output : List UInt8) : List UInt8 :=
  match output with
  | [] => []
  | first :: rest => (first ||| 0xc0) :: rest

/-- `Decimal::EncodeToComparable()`. -/
def encodeToComparable (decimal : Decimal) : List UInt8 :=
  if decimal.digits.isEmpty then [128]
  else
    let exponent := VarInt.encodeToComparable decimal.exponent 2
    let mantissa := encodeToDigitPairs decimal.digits
    let output := setSignBits (exponent ++ mantissa)
    if !decimal.isPositive then output.map (~~~ ·) else output

def readDigitPairs : List UInt8 → List Nat × Option Nat
  | [] => ([], none)
  | byte :: rest =>
      let pair := [byte.toNat / 2 / 10, byte.toNat / 2 % 10]
      if byte &&& 1 = 0 then (pair, some 1)
      else
        let more := readDigitPairs rest
        (pair ++ more.1, more.2.map (· + 1))

/-- `DecodeFromDigitPairs`: the digits without their trailing zeros, and `num_decoded_bytes`. -/
def decodeFromDigitPairs (slice : List UInt8) : Except Status (List Nat × Nat) :=
  match readDigitPairs slice with
  | (_, none) =>
      .error (Status.withMessages .corruption "Decoded the whole slice but didn\x27t find the ending" "")
  | (digits, some numDecodedBytes) => .ok (digits.rdropWhile (· == 0), numDecodedBytes)

/-- `Decimal::DecodeFromComparable(slice, &num_decoded_bytes)`: the decimal and
`num_decoded_bytes`. -/
def decodeFromComparable (slice : List UInt8) : Except Status (Decimal × Nat) :=
  match slice with
  | [] => .error (Status.withMessages .corruption "Cannot decode Decimal from empty slice." "")
  | first :: _ =>
      if first = 128 then .ok (clear, 1)
      else
        let isPositive := decide (128 ≤ first)
        let encoded := if !isPositive then slice.map (~~~ ·) else slice
        do
          let (exponent, numExponentBytes) ← VarInt.decodeFromComparable encoded 2
          let (digits, numMantissaBytes) ← decodeFromDigitPairs (encoded.drop numExponentBytes)
          pure ({ digits, exponent, isPositive }, numExponentBytes + numMantissaBytes)

example : (⟨[2, 3, 4], 2, true⟩ : Decimal).isCanonical = true := by decide
example : makeCanonical ⟨[0, 0, 4, 3, 7, 2, 0], -1, false⟩ = ⟨[4, 3, 7, 2], -3, false⟩ := by decide

structure Mantissa (digits : List Nat) : Prop where
  nonempty : digits ≠ []
  below : ∀ digit ∈ digits, digit < 10
  lastNonzero : digits.getLast? ≠ some 0

theorem Mantissa.tail {digit digit' next : Nat} {rest : List Nat}
    (mantissa : Mantissa (digit :: digit' :: next :: rest)) : Mantissa (next :: rest) where
  nonempty := List.cons_ne_nil next rest
  below := fun other member => mantissa.below other (by simp [member])
  lastNonzero := by
    have last := mantissa.lastNonzero
    rwa [List.getLast?_cons_cons, List.getLast?_cons_cons] at last

theorem encodeToDigitPairs_single (digit : Nat) :
    encodeToDigitPairs [digit] = [UInt8.ofNat ((digit * 10 + 0) * 2 + 0)] :=
  rfl

theorem encodeToDigitPairs_pair (digit digit' : Nat) :
    encodeToDigitPairs [digit, digit'] = [UInt8.ofNat ((digit * 10 + digit') * 2 + 0)] :=
  rfl

theorem encodeToDigitPairs_more (digit digit' next : Nat) (rest : List Nat) :
    encodeToDigitPairs (digit :: digit' :: next :: rest) =
      UInt8.ofNat ((digit * 10 + digit') * 2 + 1) :: encodeToDigitPairs (next :: rest) :=
  rfl

theorem toNat_pairByte {digit digit' more : Nat} (below : digit < 10) (below' : digit' < 10)
    (bit : more ≤ 1) :
    (UInt8.ofNat ((digit * 10 + digit') * 2 + more)).toNat = (digit * 10 + digit') * 2 + more := by
  rw [UInt8.toNat_ofNat']
  exact Nat.mod_eq_of_lt (by omega)

theorem readDigitPairs_pairByte {digit digit' more : Nat} (below : digit < 10) (below' : digit' < 10)
    (bit : more ≤ 1) (rest : List UInt8) :
    readDigitPairs (UInt8.ofNat ((digit * 10 + digit') * 2 + more) :: rest) =
      if more = 0 then ([digit, digit'], some 1)
      else ([digit, digit'] ++ (readDigitPairs rest).1, (readDigitPairs rest).2.map (· + 1)) := by
  have value := toNat_pairByte below below' bit
  have ends : UInt8.ofNat ((digit * 10 + digit') * 2 + more) &&& 1 = 0 ↔ more = 0 := by
    rw [← UInt8.toNat_inj, UInt8.toNat_and, value, UInt8.toNat_one, UInt8.toNat_zero,
      Nat.and_one_is_mod]
    omega
  have high : ((digit * 10 + digit') * 2 + more) / 2 / 10 = digit := by omega
  have low : ((digit * 10 + digit') * 2 + more) / 2 % 10 = digit' := by omega
  rw [readDigitPairs, value, high, low]
  by_cases last : more = 0
  · rw [if_pos (ends.mpr last), if_pos last]
  · rw [if_neg (mt ends.mp last), if_neg last]

theorem readDigitPairs_encodeToDigitPairs {digits : List Nat} (nonempty : digits ≠ [])
    (below : ∀ digit ∈ digits, digit < 10) (suffix : List UInt8) :
    readDigitPairs (encodeToDigitPairs digits ++ suffix) =
      (digits ++ List.replicate (digits.length % 2) 0, some (encodeToDigitPairs digits).length) := by
  induction digits using encodeToDigitPairs.induct with
  | case1 => exact absurd rfl nonempty
  | case2 digit =>
      rw [encodeToDigitPairs_single, List.singleton_append,
        readDigitPairs_pairByte (below digit (by simp)) (by norm_num) (by norm_num), if_pos rfl]
      rfl
  | case3 digit digit' =>
      rw [encodeToDigitPairs_pair, List.singleton_append,
        readDigitPairs_pairByte (below digit (by simp)) (below digit' (by simp)) (by norm_num), if_pos rfl]
      simp
  | case4 digit digit' next rest ih =>
      have later := ih (List.cons_ne_nil next rest) (fun other member => below other (by simp [member]))
      rw [encodeToDigitPairs_more, List.cons_append,
        readDigitPairs_pairByte (below digit (by simp)) (below digit' (by simp)) (by norm_num),
        if_neg one_ne_zero, later]
      simp only [List.length_cons, List.cons_append, List.nil_append, Option.map_some,
        show (rest.length + 1 + 1 + 1) % 2 = (rest.length + 1) % 2 by omega]

theorem rdropWhile_append_replicate (p : α → Bool) (digits : List α) {filler : α} (dropped : p filler = true)
    (count : Nat) : (digits ++ List.replicate count filler).rdropWhile p = digits.rdropWhile p := by
  induction count with
  | zero => simp
  | succ count ih =>
      rw [List.replicate_succ', ← List.append_assoc, List.rdropWhile_concat_pos _ _ _ dropped, ih]

theorem rdropWhile_of_mantissa {digits : List Nat} (mantissa : Mantissa digits) :
    digits.rdropWhile (· == 0) = digits := by
  apply List.rdropWhile_eq_self_iff.mpr
  intro nonempty
  have last := mantissa.lastNonzero
  rw [List.getLast?_eq_some_getLast nonempty] at last
  simpa using last

theorem decodeFromDigitPairs_encodeToDigitPairs {digits : List Nat} (mantissa : Mantissa digits)
    (suffix : List UInt8) :
    decodeFromDigitPairs (encodeToDigitPairs digits ++ suffix) =
      .ok (digits, (encodeToDigitPairs digits).length) := by
  rw [decodeFromDigitPairs, readDigitPairs_encodeToDigitPairs mantissa.nonempty mantissa.below]
  dsimp only
  rw [rdropWhile_append_replicate _ _ (by rfl), rdropWhile_of_mantissa mantissa]

theorem compare_pairByte {digit digit' other other' more more' : Nat} (below : digit < 10)
    (below' : digit' < 10) (belowOther : other < 10) (belowOther' : other' < 10) (bit : more ≤ 1)
    (bit' : more' ≤ 1) :
    compare (UInt8.ofNat ((digit * 10 + digit') * 2 + more))
        (UInt8.ofNat ((other * 10 + other') * 2 + more')) =
      (compare digit other).then ((compare digit' other').then (compare more more')) := by
  rw [UInt8.compare_eq_toNat_compare_toNat, toNat_pairByte below below' bit,
    toNat_pairByte belowOther belowOther' bit', LexOrder.compare_mul_add _ _ (by omega) (by omega),
    LexOrder.compare_mul_add _ _ below' belowOther', Ordering.then_assoc]

theorem compare_zero_then_lt (digit : Nat) : (compare 0 digit).then .lt = .lt := by
  cases digit with
  | zero => rfl
  | succ digit => rw [compare_lt_iff_lt.mpr (Nat.succ_pos digit)]; rfl

theorem compare_then_gt_zero (digit : Nat) : (compare digit 0).then .gt = .gt := by
  cases digit with
  | zero => rfl
  | succ digit => rw [compare_gt_iff_gt.mpr (Nat.succ_pos digit)]; rfl

theorem compare_zero_of_ne {digit : Nat} (nonzero : digit ≠ 0) : compare 0 digit = .lt :=
  compare_lt_iff_lt.mpr (Nat.pos_of_ne_zero nonzero)

theorem compare_of_ne_zero {digit : Nat} (nonzero : digit ≠ 0) : compare digit 0 = .gt :=
  compare_gt_iff_gt.mpr (Nat.pos_of_ne_zero nonzero)

theorem compare_encodeToDigitPairs {digits digits' : List Nat} (mantissa : Mantissa digits)
    (mantissa' : Mantissa digits') :
    compare (encodeToDigitPairs digits) (encodeToDigitPairs digits') = compare digits digits' := by
  induction digits using encodeToDigitPairs.induct generalizing digits' with
  | case1 => exact absurd rfl mantissa.nonempty
  | case2 digit =>
      have below := mantissa.below digit (by simp)
      rcases digits' with _ | ⟨other, _ | ⟨other', _ | ⟨next', rest'⟩⟩⟩
      · exact absurd rfl mantissa'.nonempty
      · rw [encodeToDigitPairs_single, encodeToDigitPairs_single, List.compare_cons_cons,
          List.compare_cons_cons, compare_pairByte below (by norm_num) (mantissa'.below other (by simp))
            (by norm_num) (by norm_num) (by norm_num)]
        simp only [Ordering.then_assoc, Ordering.eq_then, Std.compare_self]
      · have nonzero : other' ≠ 0 := by simpa using mantissa'.lastNonzero
        rw [encodeToDigitPairs_single, encodeToDigitPairs_pair, List.compare_cons_cons,
          List.compare_cons_cons, compare_pairByte below (by norm_num) (mantissa'.below other (by simp))
            (mantissa'.below other' (by simp)) (by norm_num) (by norm_num),
          compare_zero_of_ne nonzero, List.compare_nil_cons]
        simp only [Ordering.then_assoc, Ordering.lt_then]
      · rw [encodeToDigitPairs_single, encodeToDigitPairs_more, List.compare_cons_cons,
          List.compare_cons_cons, compare_pairByte below (by norm_num) (mantissa'.below other (by simp))
            (mantissa'.below other' (by simp)) (by norm_num) (by norm_num), List.compare_nil_cons,
          show compare 0 1 = Ordering.lt from rfl]
        simp only [Ordering.then_assoc, Ordering.lt_then, compare_zero_then_lt]
  | case3 digit digit' =>
      have below := mantissa.below digit (by simp)
      have below' := mantissa.below digit' (by simp)
      have nonzero : digit' ≠ 0 := by simpa using mantissa.lastNonzero
      rcases digits' with _ | ⟨other, _ | ⟨other', _ | ⟨next', rest'⟩⟩⟩
      · exact absurd rfl mantissa'.nonempty
      · rw [encodeToDigitPairs_pair, encodeToDigitPairs_single, List.compare_cons_cons,
          List.compare_cons_cons, compare_pairByte below below' (mantissa'.below other (by simp))
            (by norm_num) (by norm_num) (by norm_num), compare_of_ne_zero nonzero,
          List.compare_cons_nil]
        simp only [Ordering.then_assoc, Ordering.gt_then]
      · rw [encodeToDigitPairs_pair, encodeToDigitPairs_pair, List.compare_cons_cons,
          List.compare_cons_cons, List.compare_cons_cons, compare_pairByte below below'
            (mantissa'.below other (by simp)) (mantissa'.below other' (by simp)) (by norm_num)
            (by norm_num)]
        simp only [Ordering.then_assoc, Ordering.eq_then, Std.compare_self]
      · rw [encodeToDigitPairs_pair, encodeToDigitPairs_more, List.compare_cons_cons,
          List.compare_cons_cons, List.compare_cons_cons, compare_pairByte below below'
            (mantissa'.below other (by simp)) (mantissa'.below other' (by simp)) (by norm_num)
            (by norm_num), List.compare_nil_cons, show compare 0 1 = Ordering.lt from rfl]
        simp only [Ordering.then_assoc, Ordering.lt_then]
  | case4 digit digit' next rest ih =>
      have below := mantissa.below digit (by simp)
      have below' := mantissa.below digit' (by simp)
      rcases digits' with _ | ⟨other, _ | ⟨other', _ | ⟨next', rest'⟩⟩⟩
      · exact absurd rfl mantissa'.nonempty
      · rw [encodeToDigitPairs_more, encodeToDigitPairs_single, List.compare_cons_cons,
          List.compare_cons_cons, compare_pairByte below below' (mantissa'.below other (by simp))
            (by norm_num) (by norm_num) (by norm_num), List.compare_cons_nil,
          show compare 1 0 = Ordering.gt from rfl]
        simp only [Ordering.then_assoc, Ordering.gt_then, compare_then_gt_zero]
      · have nonzero : other' ≠ 0 := by simpa using mantissa'.lastNonzero
        rw [encodeToDigitPairs_more, encodeToDigitPairs_pair, List.compare_cons_cons,
          List.compare_cons_cons, List.compare_cons_cons, compare_pairByte below below'
            (mantissa'.below other (by simp)) (mantissa'.below other' (by simp)) (by norm_num)
            (by norm_num), List.compare_cons_nil, show compare 1 0 = Ordering.gt from rfl]
        simp only [Ordering.then_assoc, Ordering.gt_then]
      · rw [encodeToDigitPairs_more, encodeToDigitPairs_more, List.compare_cons_cons,
          List.compare_cons_cons, List.compare_cons_cons, compare_pairByte below below'
            (mantissa'.below other (by simp)) (mantissa'.below other' (by simp)) (by norm_num)
            (by norm_num), ih mantissa.tail mantissa'.tail]
        simp only [Ordering.then_assoc, Ordering.eq_then, Std.compare_self]

theorem eq_of_encodeToDigitPairs_starts {digits digits' : List Nat} (mantissa : Mantissa digits)
    (mantissa' : Mantissa digits') (isPrefix : encodeToDigitPairs digits <+: encodeToDigitPairs digits') :
    digits = digits' :=
  LexOrder.eq_of_starts_of_decodes encodeToDigitPairs decodeFromDigitPairs
    (fun _ mantissa suffix => decodeFromDigitPairs_encodeToDigitPairs mantissa suffix) mantissa mantissa'
    isPrefix

theorem setSignBits_eq (bytes : List UInt8) : setSignBits bytes = VarInt.setReservedBits bytes 2 := by
  cases bytes with
  | nil => rfl
  | cons first rest =>
      rw [setSignBits, VarInt.setReservedBits, show VarInt.topBits 2 = 0xc0 by decide]

@[simp] theorem length_setSignBits (bytes : List UInt8) : (setSignBits bytes).length = bytes.length := by
  cases bytes <;> rfl

theorem setSignBits_append {front : List UInt8} (nonempty : front ≠ []) (back : List UInt8) :
    setSignBits (front ++ back) = setSignBits front ++ back := by
  obtain ⟨first, rest, rfl⟩ := List.exists_cons_of_ne_nil nonempty
  rfl

theorem exponentCode_ne_nil (exponent : Int) : VarInt.encodeToComparable exponent 2 ≠ [] :=
  List.ne_nil_of_length_pos (by
    rw [VarInt.length_encodeToComparable exponent (by norm_num)]
    exact VarInt.numBytes_pos 2 exponent.natAbs)

theorem ofBytes_exponentCode (exponent : Int) :
    ofBytes (setSignBits (VarInt.encodeToComparable exponent 2)) =
      [true, true] ++ if exponent < 0 then (VarInt.positiveCode 2 exponent.natAbs).map not
        else VarInt.positiveCode 2 exponent.natAbs := by
  obtain ⟨first, rest, layout⟩ := List.exists_cons_of_ne_nil (exponentCode_ne_nil exponent)
  rw [setSignBits_eq, layout, VarInt.ofBytes_setReservedBits first rest (by norm_num), ← layout,
    VarInt.ofBytes_encodeToComparable exponent (by norm_num), VarInt.encodingBits,
    List.drop_left' (List.length_replicate ..)]
  rfl

theorem decodeFromComparable_exponentCode (exponent : Int) (suffix : List UInt8) :
    VarInt.decodeFromComparable (setSignBits (VarInt.encodeToComparable exponent 2) ++ suffix) 2 =
      .ok (exponent, (setSignBits (VarInt.encodeToComparable exponent 2)).length) :=
  VarInt.decodeFromComparable_of_ofBytes (by norm_num) rfl (ofBytes_exponentCode exponent) suffix

theorem eq_of_exponentCode_starts {exponent exponent' : Int}
    (isPrefix : setSignBits (VarInt.encodeToComparable exponent 2) <+:
      setSignBits (VarInt.encodeToComparable exponent' 2)) :
    exponent = exponent' :=
  LexOrder.eq_of_starts_of_decodes (fun exponent => setSignBits (VarInt.encodeToComparable exponent 2))
    (fun bytes => VarInt.decodeFromComparable bytes 2)
    (fun exponent (_ : True) suffix => decodeFromComparable_exponentCode exponent suffix) trivial trivial
    isPrefix

theorem compare_exponentCode (exponent exponent' : Int) :
    compare (setSignBits (VarInt.encodeToComparable exponent 2))
        (setSignBits (VarInt.encodeToComparable exponent' 2)) =
      compare exponent exponent' := by
  have ordered := VarInt.compare_encodingBits exponent exponent' (show 2 ≤ 6 by norm_num)
  rw [VarInt.encodingBits, VarInt.encodingBits, compare_append_common] at ordered
  rw [← compare_ofBytes, ofBytes_exponentCode, ofBytes_exponentCode, compare_append_common, ordered]

/-- What `make_canonical` and every `FromX` leave: digits in `0..9` and `is_canonical()`. -/
structure Canonical (decimal : Decimal) : Prop where
  below : ∀ digit ∈ decimal.digits, digit < 10
  canonical : decimal.isCanonical = true

theorem Canonical.mantissa {decimal : Decimal} (canonical : decimal.Canonical)
    (nonzero : decimal.digits ≠ []) : Mantissa decimal.digits where
  nonempty := nonzero
  below := canonical.below
  lastNonzero := by
    have checked := canonical.canonical
    rw [isCanonical, if_neg (by simpa using nonzero)] at checked
    simp only [Bool.and_eq_true, bne_iff_ne] at checked
    exact checked.2

theorem Canonical.eq_clear {decimal : Decimal} (canonical : decimal.Canonical)
    (zero : decimal.digits = []) : decimal = clear := by
  have checked := canonical.canonical
  rw [isCanonical, if_pos (by simp [zero])] at checked
  simp only [Bool.and_eq_true, beq_iff_eq] at checked
  cases decimal
  simp_all [clear]

theorem canonical_clear : clear.Canonical :=
  ⟨by simp [clear], rfl⟩

theorem drop_length_takeWhile (p : α → Bool) (l : List α) :
    l.drop (l.takeWhile p).length = l.dropWhile p := by
  have split := @List.drop_left _ (l.takeWhile p) (l.dropWhile p)
  rwa [List.takeWhile_append_dropWhile] at split

theorem makeCanonical_canonical {decimal : Decimal} (below : ∀ digit ∈ decimal.digits, digit < 10) :
    decimal.makeCanonical.Canonical := by
  rw [makeCanonical]
  split
  · rename_i checked
    exact ⟨below, checked⟩
  · dsimp only
    rw [drop_length_takeWhile]
    split
    · exact canonical_clear
    · rename_i popped
      have nonempty : ((decimal.digits.dropWhile (· == 0) ++
          List.replicate (decimal.digits.takeWhile (· == 0)).length 0).rdropWhile (· == 0)) ≠ [] := by
        simpa using popped
      have restNonempty : decimal.digits.dropWhile (· == 0) ≠ [] := by
        intro empty
        apply nonempty
        rw [empty, List.nil_append, List.rdropWhile_eq_nil_iff]
        intro filler member
        simp [List.eq_of_mem_replicate member]
      have kept := List.rdropWhile_prefix (· == 0) (decimal.digits.dropWhile (· == 0) ++
        List.replicate (decimal.digits.takeWhile (· == 0)).length 0)
      refine ⟨?_, ?_⟩
      · intro digit member
        rcases List.mem_append.mp (kept.subset member) with rest | padding
        · exact below digit ((List.dropWhile_suffix _).subset rest)
        · rw [List.eq_of_mem_replicate padding]
          omega
      · rw [isCanonical, if_neg (by simpa using nonempty)]
        simp only [Bool.and_eq_true, bne_iff_ne]
        constructor
        · rw [List.head?_eq_some_head nonempty, kept.head nonempty,
            List.head_append_of_ne_nil restNonempty]
          have first := List.head_dropWhile_not (· == 0) restNonempty
          simpa using first
        · rw [List.getLast?_eq_some_getLast nonempty]
          have last := List.rdropWhile_last_not (· == 0) _ nonempty
          simpa using last

theorem makeCanonical_of_canonical {decimal : Decimal} (canonical : decimal.Canonical) :
    decimal.makeCanonical = decimal := by
  rw [makeCanonical, if_pos canonical.canonical]

def magnitudeCode (decimal : Decimal) : List UInt8 :=
  setSignBits (VarInt.encodeToComparable decimal.exponent 2) ++ encodeToDigitPairs decimal.digits

theorem encodeToComparable_of_ne_nil {decimal : Decimal} (nonzero : decimal.digits ≠ []) :
    decimal.encodeToComparable =
      if decimal.isPositive then decimal.magnitudeCode else decimal.magnitudeCode.map (~~~ ·) := by
  rw [encodeToComparable, if_neg (by simpa using nonzero)]
  dsimp only
  rw [setSignBits_append (exponentCode_ne_nil decimal.exponent), ← magnitudeCode]
  cases decimal.isPositive <;> rfl

theorem length_magnitudeCode (decimal : Decimal) :
    decimal.magnitudeCode.length =
      (VarInt.encodeToComparable decimal.exponent 2).length + (encodeToDigitPairs decimal.digits).length := by
  rw [magnitudeCode, List.length_append, length_setSignBits]

theorem magnitudeCode_head (decimal : Decimal) :
    ∃ first rest, decimal.magnitudeCode = first :: rest ∧ 0xc0 ≤ first.toNat := by
  obtain ⟨first, rest, layout⟩ := List.exists_cons_of_ne_nil (exponentCode_ne_nil decimal.exponent)
  refine ⟨first ||| 0xc0, rest ++ encodeToDigitPairs decimal.digits, by rw [magnitudeCode, layout]; rfl, ?_⟩
  rw [UInt8.toNat_or]
  exact Nat.right_le_or

theorem complement_head {first : UInt8} (high : 0xc0 ≤ first.toNat) : (~~~first).toNat ≤ 0x3f := by
  rw [UInt8.toNat_not]
  have := first.toNat_lt
  simp only [UInt8.size] at *
  omega

theorem encodeToComparable_append_of_ne_nil {decimal : Decimal} (nonzero : decimal.digits ≠ [])
    (suffix : List UInt8) :
    ∃ head more suffix', decimal.encodeToComparable ++ suffix = head :: more ∧
      decide (128 ≤ head) = decimal.isPositive ∧ head ≠ 128 ∧
      (if !decide (128 ≤ head) then (head :: more).map (~~~ ·) else head :: more) =
        decimal.magnitudeCode ++ suffix' := by
  obtain ⟨first, rest, layout, high⟩ := magnitudeCode_head decimal
  have bound : (128 : UInt8).toNat = 128 := rfl
  rw [encodeToComparable_of_ne_nil nonzero, layout]
  cases decimal.isPositive
  · have low := complement_head high
    have below : decide (128 ≤ ~~~first) = false := by
      rw [decide_eq_false_iff_not, UInt8.le_iff_toNat_le, bound]
      omega
    refine ⟨~~~first, rest.map (~~~ ·) ++ suffix, suffix.map (~~~ ·), rfl, below, ?_, ?_⟩
    · intro is128
      rw [is128, bound] at low
      omega
    · rw [below]
      simp [Function.comp_def]
  · have above : decide (128 ≤ first) = true := by
      rw [decide_eq_true_iff, UInt8.le_iff_toNat_le, bound]
      omega
    refine ⟨first, rest ++ suffix, suffix, rfl, above, ?_, ?_⟩
    · intro is128
      rw [is128, bound] at high
      omega
    · rw [above]
      rfl

theorem decodeFromComparable_encodeToComparable {decimal : Decimal} (canonical : decimal.Canonical)
    (suffix : List UInt8) :
    decodeFromComparable (decimal.encodeToComparable ++ suffix) =
      .ok (decimal, decimal.encodeToComparable.length) := by
  by_cases zero : decimal.digits = []
  · rw [canonical.eq_clear zero]
    rfl
  · obtain ⟨head, more, suffix', slice, signed, notZero, flipped⟩ :=
      encodeToComparable_append_of_ne_nil zero suffix
    have length : decimal.encodeToComparable.length =
        (setSignBits (VarInt.encodeToComparable decimal.exponent 2)).length +
          (encodeToDigitPairs decimal.digits).length := by
      rw [encodeToComparable_of_ne_nil zero, length_setSignBits, ← length_magnitudeCode]
      split <;> simp
    rw [slice, decodeFromComparable]
    dsimp only
    rw [if_neg notZero, flipped, signed, magnitudeCode, List.append_assoc,
      decodeFromComparable_exponentCode, Except.ok_bind]
    dsimp only
    rw [List.drop_left' rfl, decodeFromDigitPairs_encodeToDigitPairs (canonical.mantissa zero),
      Except.ok_bind, length]
    rfl

theorem eq_of_magnitudeCode_starts {decimal other : Decimal} (canonical : decimal.Canonical)
    (canonical' : other.Canonical) (nonzero : decimal.digits ≠ []) (nonzero' : other.digits ≠ [])
    (isPrefix : decimal.magnitudeCode <+: other.magnitudeCode) :
    decimal.exponent = other.exponent ∧ decimal.digits = other.digits := by
  have ownExponent : setSignBits (VarInt.encodeToComparable decimal.exponent 2) <+: other.magnitudeCode :=
    (List.prefix_append _ _).trans isPrefix
  have otherExponent : setSignBits (VarInt.encodeToComparable other.exponent 2) <+: other.magnitudeCode :=
    List.prefix_append _ _
  have sameExponent : decimal.exponent = other.exponent := by
    rcases List.prefix_or_prefix_of_prefix ownExponent otherExponent with shorter | longer
    · exact eq_of_exponentCode_starts shorter
    · exact (eq_of_exponentCode_starts longer).symm
  refine ⟨sameExponent, ?_⟩
  rw [magnitudeCode, magnitudeCode, sameExponent, List.prefix_append_right_inj] at isPrefix
  exact eq_of_encodeToDigitPairs_starts (canonical.mantissa nonzero) (canonical'.mantissa nonzero')
    isPrefix

theorem compare_magnitudeCode {decimal other : Decimal} (canonical : decimal.Canonical)
    (canonical' : other.Canonical) (nonzero : decimal.digits ≠ []) (nonzero' : other.digits ≠ []) :
    compare decimal.magnitudeCode other.magnitudeCode =
      (compare decimal.exponent other.exponent).then (compare decimal.digits other.digits) := by
  by_cases sameExponent : decimal.exponent = other.exponent
  · rw [magnitudeCode, magnitudeCode, sameExponent, LexOrder.compare_append_left,
      compare_encodeToDigitPairs (canonical.mantissa nonzero) (canonical'.mantissa nonzero'),
      Std.compare_self, Ordering.eq_then]
  · have apart : compare decimal.exponent other.exponent ≠ .eq :=
      fun same => sameExponent (compare_eq_iff_eq.mp same)
    rw [magnitudeCode, magnitudeCode,
      LexOrder.compare_append_of_apart (fun shorter => sameExponent (eq_of_exponentCode_starts shorter))
        (fun longer => sameExponent (eq_of_exponentCode_starts longer).symm),
      compare_exponentCode]
    cases ordered : compare decimal.exponent other.exponent with
    | eq => exact absurd ordered apart
    | lt => rfl
    | gt => rfl

theorem compare_complement (byte byte' : UInt8) : compare (~~~byte) (~~~byte') = compare byte' byte := by
  rw [UInt8.compare_eq_toNat_compare_toNat, UInt8.compare_eq_toNat_compare_toNat, UInt8.toNat_not,
    UInt8.toNat_not]
  have below := byte.toNat_lt
  have below' := byte'.toNat_lt
  simp only [compare, compareOfLessAndEq, UInt8.size]
  split_ifs <;> first | rfl | omega

theorem compare_complemented_magnitudeCode {decimal other : Decimal} (canonical : decimal.Canonical)
    (canonical' : other.Canonical) (nonzero : decimal.digits ≠ []) (nonzero' : other.digits ≠ []) :
    compare (decimal.magnitudeCode.map (~~~ ·)) (other.magnitudeCode.map (~~~ ·)) =
      compare other.magnitudeCode decimal.magnitudeCode := by
  by_cases same : decimal.magnitudeCode = other.magnitudeCode
  · rw [same, Std.compare_self, Std.compare_self]
  · have notPrefix : ∀ {first second : Decimal}, first.Canonical → second.Canonical →
        first.digits ≠ [] → second.digits ≠ [] → first.magnitudeCode <+: second.magnitudeCode →
          first.magnitudeCode = second.magnitudeCode := by
      intro first second canonicalFirst canonicalSecond nonzeroFirst nonzeroSecond isPrefix
      obtain ⟨sameExponent, sameDigits⟩ :=
        eq_of_magnitudeCode_starts canonicalFirst canonicalSecond nonzeroFirst nonzeroSecond isPrefix
      rw [magnitudeCode, magnitudeCode, sameExponent, sameDigits]
    exact LexOrder.compare_map_of_apart _ compare_complement
      (fun isPrefix => same (notPrefix canonical canonical' nonzero nonzero' isPrefix))
      (fun isPrefix => same (notPrefix canonical' canonical nonzero' nonzero isPrefix).symm)

theorem compare_compareTo_exponent (exponent exponent' : Int) :
    compare (VarInt.compareTo exponent exponent') 0 = compare exponent exponent' := by
  simp only [VarInt.compareTo, compare, compareOfLessAndEq]
  split_ifs <;> first | rfl | omega

theorem compare_neg_zero (comp : Int) : compare (-comp) 0 = (compare comp 0).swap := by
  simp only [compare, compareOfLessAndEq]
  split_ifs <;> first | rfl | omega

theorem compare_firstDifference (digits digits' : List Nat) :
    compare ((firstDifference digits digits').getD ((digits.length : Int) - digits'.length)) 0 =
      compare digits digits' := by
  induction digits generalizing digits' with
  | nil =>
      cases digits' with
      | nil => rfl
      | cons digit' rest' =>
          rw [List.compare_nil_cons]
          simp only [firstDifference, Option.getD_none, List.length_nil, List.length_cons]
          exact compare_lt_iff_lt.mpr (by omega)
  | cons digit rest ih =>
      cases digits' with
      | nil =>
          rw [List.compare_cons_nil]
          simp only [firstDifference, Option.getD_none, List.length_nil, List.length_cons]
          exact compare_gt_iff_gt.mpr (by omega)
      | cons digit' rest' =>
          rw [List.compare_cons_cons]
          by_cases same : digit = digit'
          · subst same
            rw [firstDifference, if_neg (by omega), Std.compare_self, Ordering.eq_then, ← ih rest']
            simp only [List.length_cons]
            congr 2
            omega
          · rw [firstDifference, if_pos (by omega), Option.getD_some]
            have apart : compare digit digit' ≠ .eq := fun equal => same (compare_eq_iff_eq.mp equal)
            simp only [compare, compareOfLessAndEq, Ordering.then] at apart ⊢
            split_ifs <;> first | rfl | omega

theorem compare_compareTo_of_sameSign {decimal other : Decimal} (nonzero : decimal.digits ≠ [])
    (nonzero' : other.digits ≠ []) (sameSign : decimal.isPositive = other.isPositive) :
    compare (decimal.compareTo other) 0 =
      if decimal.isPositive then
        (compare decimal.exponent other.exponent).then (compare decimal.digits other.digits)
      else ((compare decimal.exponent other.exponent).then (compare decimal.digits other.digits)).swap := by
  have digitsFirst := compare_firstDifference decimal.digits other.digits
  rw [compareTo, if_neg (by simp [sameSign]), if_neg (by simp [nonzero, nonzero'])]
  dsimp only
  by_cases sameExponent : decimal.exponent = other.exponent
  · have zero : VarInt.compareTo decimal.exponent other.exponent = 0 := by
      simp [VarInt.compareTo, sameExponent]
    rw [if_neg (by simp [zero]), sameExponent, Std.compare_self, Ordering.eq_then, ← digitsFirst]
    cases firstDifference decimal.digits other.digits <;>
      cases decimal.isPositive <;> simp [compare_neg_zero, -neg_sub]
  · have apart : compare decimal.exponent other.exponent ≠ .eq :=
      fun same => sameExponent (compare_eq_iff_eq.mp same)
    have exponentFirst : (compare decimal.exponent other.exponent).then (compare decimal.digits other.digits) =
        compare decimal.exponent other.exponent := by
      cases ordered : compare decimal.exponent other.exponent with
      | eq => exact absurd ordered apart
      | lt => rfl
      | gt => rfl
    have nonzeroComp : VarInt.compareTo decimal.exponent other.exponent ≠ 0 := by
      intro zero
      have := compare_compareTo_exponent decimal.exponent other.exponent
      rw [zero] at this
      exact apart this.symm
    rw [if_pos nonzeroComp, exponentFirst]
    cases decimal.isPositive <;> simp [compare_neg_zero, compare_compareTo_exponent]

def signClass (decimal : Decimal) : Nat :=
  if decimal.digits.isEmpty then 1 else if decimal.isPositive then 2 else 0

theorem Canonical.cases {decimal : Decimal} (canonical : decimal.Canonical) :
    decimal = clear ∨ (decimal.digits ≠ [] ∧ decimal.isPositive = true) ∨
      (decimal.digits ≠ [] ∧ decimal.isPositive = false) := by
  by_cases zero : decimal.digits = []
  · exact .inl (canonical.eq_clear zero)
  · cases positive : decimal.isPositive
    · exact .inr (.inr ⟨zero, rfl⟩)
    · exact .inr (.inl ⟨zero, rfl⟩)

theorem encodeToComparable_head {decimal : Decimal} (canonical : decimal.Canonical) :
    ∃ head rest, decimal.encodeToComparable = head :: rest ∧
      (signClass decimal = 0 → head.toNat < 0x40) ∧ (signClass decimal = 1 → head.toNat = 128) ∧
      (signClass decimal = 2 → 0xc0 ≤ head.toNat) ∧ signClass decimal ≤ 2 := by
  rcases canonical.cases with rfl | ⟨nonzero, positive⟩ | ⟨nonzero, negative⟩
  · exact ⟨128, [], rfl, by decide, fun _ => rfl, by decide, by decide⟩
  · obtain ⟨first, rest, layout, high⟩ := magnitudeCode_head decimal
    have kind : signClass decimal = 2 := by simp [signClass, nonzero, positive]
    refine ⟨first, rest, ?_, by omega, by omega, fun _ => high, by omega⟩
    rw [encodeToComparable_of_ne_nil nonzero, positive, if_pos rfl, layout]
  · obtain ⟨first, rest, layout, high⟩ := magnitudeCode_head decimal
    have kind : signClass decimal = 0 := by simp [signClass, nonzero, negative]
    have low := complement_head high
    refine ⟨~~~first, rest.map (~~~ ·), ?_, fun _ => by omega, by omega, by omega, by omega⟩
    rw [encodeToComparable_of_ne_nil nonzero, negative, layout]
    rfl

theorem compare_encodeToComparable_of_signClass_ne {decimal other : Decimal} (canonical : decimal.Canonical)
    (canonical' : other.Canonical) (apart : signClass decimal ≠ signClass other) :
    compare decimal.encodeToComparable other.encodeToComparable =
      compare (signClass decimal) (signClass other) := by
  obtain ⟨head, rest, layout, negative, zero, positive, bound⟩ := encodeToComparable_head canonical
  obtain ⟨head', rest', layout', negative', zero', positive', bound'⟩ := encodeToComparable_head canonical'
  rw [layout, layout', List.compare_cons_cons, UInt8.compare_eq_toNat_compare_toNat]
  have decided : compare head.toNat head'.toNat = compare (signClass decimal) (signClass other) := by
    simp only [compare, compareOfLessAndEq]
    split_ifs <;> first | rfl | omega
  have apartHeads : compare head.toNat head'.toNat ≠ .eq := by
    rw [decided]
    exact fun same => apart (compare_eq_iff_eq.mp same)
  rw [← decided]
  cases ordered : compare head.toNat head'.toNat with
  | eq => exact absurd ordered apartHeads
  | lt => rfl
  | gt => rfl

theorem signClass_of_positive {decimal : Decimal} (nonzero : decimal.digits ≠ [])
    (positive : decimal.isPositive = true) : signClass decimal = 2 := by
  simp [signClass, nonzero, positive]

theorem signClass_of_negative {decimal : Decimal} (nonzero : decimal.digits ≠ [])
    (negative : decimal.isPositive = false) : signClass decimal = 0 := by
  simp [signClass, nonzero, negative]

theorem signClass_eq_two_iff {decimal : Decimal} :
    signClass decimal = 2 ↔ decimal.digits ≠ [] ∧ decimal.isPositive = true := by
  unfold signClass
  split_ifs with zero positive <;> simp_all

theorem signClass_eq_zero_iff {decimal : Decimal} :
    signClass decimal = 0 ↔ decimal.digits ≠ [] ∧ decimal.isPositive = false := by
  unfold signClass
  split_ifs with zero positive <;> simp_all

theorem signClass_le_two (decimal : Decimal) : signClass decimal ≤ 2 := by
  unfold signClass
  split_ifs <;> omega

theorem Canonical.eq_clear_of_signClass {decimal : Decimal} (canonical : decimal.Canonical)
    (zero : signClass decimal = 1) : decimal = clear := by
  apply canonical.eq_clear
  by_contra nonzero
  rw [signClass, if_neg (by simpa using nonzero)] at zero
  split at zero <;> omega

theorem signClass_same {decimal other : Decimal} (same : signClass decimal = signClass other)
    (nonzero : decimal.digits ≠ []) :
    other.digits ≠ [] ∧ other.isPositive = decimal.isPositive := by
  cases positive : decimal.isPositive
  · exact signClass_eq_zero_iff.mp (same ▸ signClass_eq_zero_iff.mpr ⟨nonzero, positive⟩)
  · exact signClass_eq_two_iff.mp (same ▸ signClass_eq_two_iff.mpr ⟨nonzero, positive⟩)

theorem compareTo_of_sign_ne {decimal other : Decimal} (apart : decimal.isPositive ≠ other.isPositive) :
    decimal.compareTo other = (decimal.isPositive.toNat : Int) - other.isPositive.toNat := by
  rw [compareTo, if_pos apart]

theorem compareTo_clear_left {other : Decimal} (nonzero' : other.digits ≠ [])
    (positive' : other.isPositive = true) : clear.compareTo other = -1 := by
  simp [compareTo, clear, nonzero', positive']

theorem compareTo_clear_right {decimal : Decimal} (nonzero : decimal.digits ≠ [])
    (positive : decimal.isPositive = true) : decimal.compareTo clear = 1 := by
  simp [compareTo, clear, nonzero, positive]

theorem compare_compareTo_of_signClass_ne {decimal other : Decimal} (canonical : decimal.Canonical)
    (canonical' : other.Canonical) (apart : signClass decimal ≠ signClass other) :
    compare (decimal.compareTo other) 0 = compare (signClass decimal) (signClass other) := by
  rcases canonical.cases with rfl | ⟨nonzero, positive⟩ | ⟨nonzero, negative⟩ <;>
    rcases canonical'.cases with rfl | ⟨nonzero', positive'⟩ | ⟨nonzero', negative'⟩
  · exact absurd rfl apart
  · rw [compareTo_clear_left nonzero' positive', signClass_of_positive nonzero' positive']
    rfl
  · rw [compareTo_of_sign_ne (by simp [clear, negative']), negative',
      signClass_of_negative nonzero' negative']
    rfl
  · rw [compareTo_clear_right nonzero positive, signClass_of_positive nonzero positive]
    rfl
  · exact absurd (by rw [signClass_of_positive nonzero positive, signClass_of_positive nonzero' positive']) apart
  · rw [compareTo_of_sign_ne (by simp [positive, negative']), positive, negative',
      signClass_of_positive nonzero positive, signClass_of_negative nonzero' negative']
    rfl
  · rw [compareTo_of_sign_ne (by simp [clear, negative]), negative, signClass_of_negative nonzero negative]
    rfl
  · rw [compareTo_of_sign_ne (by simp [positive', negative]), positive', negative,
      signClass_of_positive nonzero' positive', signClass_of_negative nonzero negative]
    rfl
  · exact absurd (by rw [signClass_of_negative nonzero negative, signClass_of_negative nonzero' negative']) apart

theorem compare_encodeToComparable {decimal other : Decimal} (canonical : decimal.Canonical)
    (canonical' : other.Canonical) :
    compare decimal.encodeToComparable other.encodeToComparable = compare (decimal.compareTo other) 0 := by
  by_cases apart : signClass decimal = signClass other
  · rcases canonical.cases with rfl | ⟨nonzero, positive⟩ | ⟨nonzero, negative⟩
    · -- zero is the only canonical decimal of its kind
      have zero : other = clear := canonical'.eq_clear_of_signClass (apart.symm.trans rfl)
      subst zero
      rfl
    · obtain ⟨nonzero', sameSign⟩ := signClass_same apart nonzero
      have positive' : other.isPositive = true := sameSign.trans positive
      rw [encodeToComparable_of_ne_nil nonzero, encodeToComparable_of_ne_nil nonzero', positive,
        positive', if_pos rfl, if_pos rfl, compare_magnitudeCode canonical canonical' nonzero nonzero',
        compare_compareTo_of_sameSign nonzero nonzero' (positive.trans positive'.symm), positive, if_pos rfl]
    · obtain ⟨nonzero', sameSign⟩ := signClass_same apart nonzero
      have negative' : other.isPositive = false := sameSign.trans negative
      -- complemented codes compare the other way round, as `CompareTo` does for negatives
      rw [encodeToComparable_of_ne_nil nonzero, encodeToComparable_of_ne_nil nonzero', negative,
        negative', if_neg Bool.false_ne_true, if_neg Bool.false_ne_true,
        compare_complemented_magnitudeCode canonical canonical' nonzero nonzero',
        compare_magnitudeCode canonical' canonical nonzero' nonzero,
        compare_compareTo_of_sameSign nonzero nonzero' (negative.trans negative'.symm), negative,
        if_neg Bool.false_ne_true, Ordering.swap_then, ← Std.OrientedCmp.eq_swap,
        ← Std.OrientedCmp.eq_swap]
  · rw [compare_encodeToComparable_of_signClass_ne canonical canonical' apart,
      compare_compareTo_of_signClass_ne canonical canonical' apart]

/-- `EncodeToComparable` orders canonical decimals as `CompareTo` does. -/
theorem encodeToComparable_orders_as_compareTo {decimal other : Decimal} (canonical : decimal.Canonical)
    (canonical' : other.Canonical) :
    compare decimal.encodeToComparable other.encodeToComparable = compare (decimal.compareTo other) 0 :=
  compare_encodeToComparable canonical canonical'

theorem encodeToComparable_orders_as_compareTo_two_and_a_half :
    (⟨[2, 5], 1, true⟩ : Decimal).Canonical ∧ (⟨[3], -1, false⟩ : Decimal).Canonical ∧
      compare (⟨[2, 5], 1, true⟩ : Decimal).encodeToComparable (⟨[3], -1, false⟩ : Decimal).encodeToComparable =
        compare ((⟨[2, 5], 1, true⟩ : Decimal).compareTo ⟨[3], -1, false⟩) 0 :=
  have canonical : (⟨[2, 5], 1, true⟩ : Decimal).Canonical := ⟨by decide, by decide⟩
  have canonical' : (⟨[3], -1, false⟩ : Decimal).Canonical := ⟨by decide, by decide⟩
  ⟨canonical, canonical', encodeToComparable_orders_as_compareTo canonical canonical'⟩

/-- `DecodeFromComparable` reads a canonical decimal back from its encoding followed by any bytes
and reports the encoding's length as the bytes it decoded, so no encoding starts another. -/
theorem decodeFromComparable_inverts_encoding {decimal : Decimal} (canonical : decimal.Canonical) :
    (∀ suffix, decodeFromComparable (decimal.encodeToComparable ++ suffix) =
      .ok (decimal, decimal.encodeToComparable.length)) ∧
    ∀ other : Decimal, other.Canonical → decimal.encodeToComparable <+: other.encodeToComparable →
      decimal = other :=
  ⟨decodeFromComparable_encodeToComparable canonical, fun _ canonical' =>
    LexOrder.eq_of_starts_of_decodes encodeToComparable decodeFromComparable
      (fun _ canonical suffix => decodeFromComparable_encodeToComparable canonical suffix) canonical canonical'⟩

theorem decodeFromComparable_inverts_encoding_minus_four_thousand :
    (⟨[4, 3, 7, 2], -3, false⟩ : Decimal).Canonical ∧
      decodeFromComparable ((⟨[4, 3, 7, 2], -3, false⟩ : Decimal).encodeToComparable ++ [0x42]) =
        .ok (⟨[4, 3, 7, 2], -3, false⟩, (⟨[4, 3, 7, 2], -3, false⟩ : Decimal).encodeToComparable.length) :=
  have canonical : (⟨[4, 3, 7, 2], -3, false⟩ : Decimal).Canonical := ⟨by decide, by decide⟩
  ⟨canonical, (decodeFromComparable_inverts_encoding canonical).1 [0x42]⟩

/-- `DECIMAL` keys are stored in the order of their values: on canonical decimals the bytes of
`EncodeToComparable` compare as `CompareTo` does, decimals that `CompareTo` finds equal encode
alike, and no encoding is a proper prefix of another. -/
theorem encodeToComparable_strictly_orders {decimal other : Decimal} (canonical : decimal.Canonical)
    (canonical' : other.Canonical) :
    compare decimal.encodeToComparable other.encodeToComparable = compare (decimal.compareTo other) 0 ∧
      (decimal.compareTo other = 0 → decimal.encodeToComparable = other.encodeToComparable) ∧
      (decimal.encodeToComparable <+: other.encodeToComparable →
        decimal.encodeToComparable = other.encodeToComparable) := by
  have ordered := compare_encodeToComparable canonical canonical'
  refine ⟨ordered, fun same => ?_, fun isPrefix => ?_⟩
  · have equal : compare decimal.encodeToComparable other.encodeToComparable = .eq := by
      rw [ordered, same]
      rfl
    exact Std.LawfulEqCmp.eq_of_compare equal
  · have decoded := LexOrder.eq_of_starts_of_decodes encodeToComparable decodeFromComparable
      (fun _ canonical suffix => decodeFromComparable_encodeToComparable canonical suffix) canonical
      canonical' isPrefix
    rw [decoded]

theorem encodeToComparable_strictly_orders_two_negatives :
    (⟨[4, 3, 7, 2], 1, false⟩ : Decimal).Canonical ∧ (⟨[3], -1, false⟩ : Decimal).Canonical ∧
      compare (⟨[4, 3, 7, 2], 1, false⟩ : Decimal).encodeToComparable
          (⟨[3], -1, false⟩ : Decimal).encodeToComparable =
        compare ((⟨[4, 3, 7, 2], 1, false⟩ : Decimal).compareTo ⟨[3], -1, false⟩) 0 ∧
      ((⟨[4, 3, 7, 2], 1, false⟩ : Decimal).compareTo ⟨[3], -1, false⟩ = 0 →
        (⟨[4, 3, 7, 2], 1, false⟩ : Decimal).encodeToComparable =
          (⟨[3], -1, false⟩ : Decimal).encodeToComparable) ∧
      ((⟨[4, 3, 7, 2], 1, false⟩ : Decimal).encodeToComparable <+:
          (⟨[3], -1, false⟩ : Decimal).encodeToComparable →
        (⟨[4, 3, 7, 2], 1, false⟩ : Decimal).encodeToComparable =
          (⟨[3], -1, false⟩ : Decimal).encodeToComparable) :=
  have canonical : (⟨[4, 3, 7, 2], 1, false⟩ : Decimal).Canonical := ⟨by decide, by decide⟩
  have canonical' : (⟨[3], -1, false⟩ : Decimal).Canonical := ⟨by decide, by decide⟩
  ⟨canonical, canonical', encodeToComparable_strictly_orders canonical canonical'⟩

end Decimal

end ChogoriSql
