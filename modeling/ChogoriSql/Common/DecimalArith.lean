import ChogoriSql.Common.DecimalValue

/-! `Decimal::operator+` (`common/type/decimal.cc`): both numbers brought to the larger exponent
and to one count of digits, then the mantissas added from the last digit with a carry into the
digit before, or, for numbers of opposite signs, the smaller subtracted from the larger with a
borrow from the digit before; the sum is made canonical.  The digits are `uint8_t`; no sum or
difference in the loops passes `19`, so they are numbers here.  The sum is the sum of the values,
and the borrow never reaches before the first digit. -/

namespace ChogoriSql

namespace Decimal

open DecimalDigits

def alignExponent (decimal : Decimal) (maxExponent : Int) : Option Decimal :=
  if decimal.exponent < maxExponent then
    match VarInt.toInt64 (maxExponent - decimal.exponent) with
    | .ok increase =>
        some { decimal with digits := List.replicate increase.toNat 0 ++ decimal.digits, exponent := maxExponent }
    | .error _ => none
  else some decimal

def padDigits (digits : List Nat) (maxDigits : Nat) : List Nat :=
  digits ++ List.replicate (maxDigits - digits.length) 0

def addMantissas (other : List Nat) : Nat → List Nat → Int → List Nat × Int
  | 0, digits, exponent => (digits, exponent)
  | i + 1, digits, exponent =>
      let digits := digits.set i (digits.getD i 0 + other.getD i 0)
      if digits.getD i 0 > 9 then
        let digits := digits.set i (digits.getD i 0 - 10)
        if i > 0 then addMantissas other i (digits.set (i - 1) (digits.getD (i - 1) 0 + 1)) exponent
        else (1 :: digits, exponent + 1)
      else addMantissas other i digits exponent

def subtractMantissas : Nat → List Nat → List Nat → Option (List Nat)
  | 0, digits, _ => some digits
  | i + 1, digits, other =>
      if digits.getD i 0 ≥ other.getD i 0 then
        subtractMantissas i (digits.set i (digits.getD i 0 - other.getD i 0)) other
      else if i = 0 then none
      else
        subtractMantissas i (digits.set i (digits.getD i 0 + 10 - other.getD i 0))
          (other.set (i - 1) (other.getD (i - 1) 0 + 1))

def add (decimal other : Decimal) : Option Decimal := do
  -- the constructor `Decimal(digits, exponent, is_positive)` makes each copy canonical
  let decimal := makeCanonical decimal
  let other1 := makeCanonical other
  let maxExponent := max other1.exponent decimal.exponent
  let decimal ← alignExponent decimal maxExponent
  let other1 ← alignExponent other1 maxExponent
  let maxDigits := max decimal.digits.length other1.digits.length
  let digits := padDigits decimal.digits maxDigits
  let otherDigits := padDigits other1.digits maxDigits
  if decimal.isPositive = other1.isPositive then
    let (digits, exponent) := addMantissas otherDigits maxDigits digits decimal.exponent
    pure (makeCanonical ⟨digits, exponent, decimal.isPositive⟩)
  else
    let comp := (firstDifference digits otherDigits).getD 0
    let (digits, otherDigits, isPositive) :=
      if comp < 0 then (otherDigits, digits, !decimal.isPositive) else (digits, otherDigits, decimal.isPositive)
    let digits ← subtractMantissas maxDigits digits otherDigits
    pure (makeCanonical ⟨digits, decimal.exponent, isPositive⟩)

example : add ⟨[1], 3, true⟩ ⟨[5], 2, true⟩ = some ⟨[1, 5], 3, true⟩ := by decide
example : add ⟨[1], 3, true⟩ ⟨[5], 2, false⟩ = some ⟨[5], 2, true⟩ := by decide

def neg (decimal : Decimal) : Decimal :=
  makeCanonical ⟨decimal.digits, decimal.exponent, !decimal.isPositive⟩

structure Adding (other digits : List Nat) (i : Nat) : Prop where
  length : digits.length = other.length
  fuel : i ≤ other.length
  otherBelow : ∀ j, other.getD j 0 ≤ 9
  digitsBelow : ∀ j, digits.getD j 0 ≤ if j + 1 = i then 10 else 9

theorem pow_place {length i : Nat} (inside : i < length) :
    10 ^ (length - i) = 10 * 10 ^ (length - 1 - i) := by
  rw [show length - i = length - 1 - i + 1 by omega, pow_succ, Nat.mul_comm]

variable {other digits : List Nat} {i : Nat}

theorem Adding.inside (adding : Adding other digits (i + 1)) : i < digits.length := by
  have fuel := adding.fuel
  rw [adding.length]
  omega

theorem Adding.noCarry (adding : Adding other digits (i + 1))
    (small : digits.getD i 0 + other.getD i 0 ≤ 9) :
    Adding other (digits.set i (digits.getD i 0 + other.getD i 0)) i where
  length := by rw [List.length_set, adding.length]
  fuel := Nat.le_of_succ_le adding.fuel
  otherBelow := adding.otherBelow
  digitsBelow := by
    intro j
    by_cases here : j = i
    · subst here
      rw [getD_set_self adding.inside]
      split <;> omega
    · rw [getD_set_ne (Ne.symm here)]
      have bound := adding.digitsBelow j
      split at bound <;> split <;> omega

theorem Adding.carry (adding : Adding other digits (i + 1)) (before : 0 < i)
    (large : 9 < digits.getD i 0 + other.getD i 0) :
    Adding other ((digits.set i (digits.getD i 0 + other.getD i 0 - 10)).set (i - 1)
      (digits.getD (i - 1) 0 + 1)) i where
  length := by rw [List.length_set, List.length_set, adding.length]
  fuel := Nat.le_of_succ_le adding.fuel
  otherBelow := adding.otherBelow
  digitsBelow := by
    intro j
    have bound := adding.digitsBelow j
    have digitBound := adding.digitsBelow i
    have otherBound := adding.otherBelow i
    by_cases carried : j = i - 1
    · subst carried
      rw [getD_set_self (by rw [List.length_set]; have := adding.inside; omega)]
      split at bound <;> split <;> omega
    · rw [getD_set_ne (Ne.symm carried)]
      by_cases here : j = i
      · subst here
        rw [getD_set_self adding.inside]
        simp only [if_true] at digitBound
        split <;> omega
      · rw [getD_set_ne (Ne.symm here)]
        split at bound <;> split <;> omega

theorem addMantissas_spec {other : List Nat} :
    ∀ {i : Nat} {digits : List Nat} (exponent : Int), Adding other digits i →
      (∀ digit ∈ (addMantissas other i digits exponent).1, digit < 10) ∧
      (addMantissas other i digits exponent).2 - (addMantissas other i digits exponent).1.length =
        exponent - other.length ∧
      DecimalDigits.value (addMantissas other i digits exponent).1 =
        DecimalDigits.value digits + DecimalDigits.value (other.take i) * 10 ^ (other.length - i) := by
  intro i
  induction i with
  | zero =>
      intro digits exponent adding
      show (∀ digit ∈ digits, digit < 10) ∧ exponent - digits.length = exponent - other.length ∧
        DecimalDigits.value digits = DecimalDigits.value digits + DecimalDigits.value (other.take 0) * 10 ^ (other.length - 0)
      refine ⟨below_of_getD_le (fun j => by simpa using adding.digitsBelow j), by rw [adding.length], ?_⟩
      simp
  | succ i ih =>
      intro digits exponent adding
      have inside := adding.inside
      have place := pow_place inside
      have summed := value_set inside (digits.getD i 0 + other.getD i 0)
      have taken := value_take_succ (show i < other.length by rw [← adding.length]; exact inside)
      have spread : (DecimalDigits.value (other.take i) * 10 + other.getD i 0) * 10 ^ (digits.length - 1 - i) =
          10 * (DecimalDigits.value (other.take i) * 10 ^ (digits.length - 1 - i)) +
            other.getD i 0 * 10 ^ (digits.length - 1 - i) := by ring
      have regroup : DecimalDigits.value (other.take i) * (10 * 10 ^ (digits.length - 1 - i)) =
          10 * (DecimalDigits.value (other.take i) * 10 ^ (digits.length - 1 - i)) := by ring
      have shares : (digits.getD i 0 + other.getD i 0) * 10 ^ (digits.length - 1 - i) =
          digits.getD i 0 * 10 ^ (digits.length - 1 - i) + other.getD i 0 * 10 ^ (digits.length - 1 - i) := by ring
      rw [addMantissas]
      dsimp only
      rw [getD_set_self inside]
      split
      · rename_i large
        rw [List.set_set]
        have dropped := value_set inside (digits.getD i 0 + other.getD i 0 - 10)
        have tens : (digits.getD i 0 + other.getD i 0 - 10) * 10 ^ (digits.length - 1 - i) =
            (digits.getD i 0 + other.getD i 0) * 10 ^ (digits.length - 1 - i) - 10 * 10 ^ (digits.length - 1 - i) :=
          Nat.sub_mul _ _ _
        have enough : 10 * 10 ^ (digits.length - 1 - i) ≤
            (digits.getD i 0 + other.getD i 0) * 10 ^ (digits.length - 1 - i) :=
          Nat.mul_le_mul_right _ (by omega)
        split
        · rename_i before
          -- the carry goes into the digit before, which stands ten times higher
          rw [getD_set_ne (show i ≠ i - 1 by omega)]
          obtain ⟨below, lengthFact, valueFact⟩ := ih exponent (adding.carry before large)
          have carried := value_set (show i - 1 < (digits.set i (digits.getD i 0 + other.getD i 0 - 10)).length by
            rw [List.length_set]; omega) (digits.getD (i - 1) 0 + 1)
          rw [List.length_set, getD_set_ne (show i ≠ i - 1 by omega),
            show digits.length - 1 - (i - 1) = digits.length - i by omega, place] at carried
          have carriedShares : (digits.getD (i - 1) 0 + 1) * (10 * 10 ^ (digits.length - 1 - i)) =
              digits.getD (i - 1) 0 * (10 * 10 ^ (digits.length - 1 - i)) + 10 * 10 ^ (digits.length - 1 - i) := by
            ring
          refine ⟨below, by rw [lengthFact], ?_⟩
          rw [valueFact, ← adding.length, taken, place, show digits.length - (i + 1) = digits.length - 1 - i by omega,
            spread, regroup]
          omega
        · rename_i first
          have zero : i = 0 := by omega
          subst zero
          refine ⟨?_, ?_, ?_⟩
          · intro digit member
            rcases List.mem_cons.mp member with rfl | later
            · omega
            · apply below_of_getD_le _ digit later
              intro j
              by_cases here : j = 0
              · subst here
                rw [getD_set_self inside]
                have bound := adding.digitsBelow 0
                have otherBound := adding.otherBelow 0
                simp only [if_true] at bound
                omega
              · rw [getD_set_ne (Ne.symm here)]
                have bound := adding.digitsBelow j
                split at bound <;> omega
          · simp only [List.length_cons, List.length_set, adding.length]
            push_cast
            ring
          · rw [value_cons, List.length_set, ← adding.length, taken]
            simp only [List.take_zero, value_nil, Nat.zero_mul, Nat.zero_add, Nat.sub_zero, Nat.one_mul]
              at place dropped tens enough shares ⊢
            omega
      · rename_i small
        obtain ⟨below, lengthFact, valueFact⟩ := ih exponent (adding.noCarry (by omega))
        refine ⟨below, by rw [lengthFact], ?_⟩
        rw [valueFact, ← adding.length, taken, place, show digits.length - (i + 1) = digits.length - 1 - i by omega,
          spread, regroup]
        omega

structure Subtracting (digits other : List Nat) (i : Nat) : Prop where
  length : other.length = digits.length
  fuel : i ≤ digits.length
  digitsBelow : ∀ j, digits.getD j 0 ≤ 9
  otherBelow : ∀ j < i, other.getD j 0 ≤ if j + 1 = i then 10 else 9
  covers : DecimalDigits.value (other.take i) * 10 ^ (digits.length - i) ≤ DecimalDigits.value digits

theorem Subtracting.inside (subtracting : Subtracting digits other (i + 1)) : i < digits.length := by
  have fuel := subtracting.fuel
  omega

theorem value_noBorrow (inside : i < digits.length) (enough : other.getD i 0 ≤ digits.getD i 0) :
    DecimalDigits.value (digits.set i (digits.getD i 0 - other.getD i 0)) +
      other.getD i 0 * 10 ^ (digits.length - 1 - i) = DecimalDigits.value digits := by
  have moved := value_set inside (digits.getD i 0 - other.getD i 0)
  have share : (digits.getD i 0 - other.getD i 0) * 10 ^ (digits.length - 1 - i) =
      digits.getD i 0 * 10 ^ (digits.length - 1 - i) - other.getD i 0 * 10 ^ (digits.length - 1 - i) :=
    Nat.sub_mul _ _ _
  have smaller : other.getD i 0 * 10 ^ (digits.length - 1 - i) ≤ digits.getD i 0 * 10 ^ (digits.length - 1 - i) :=
    Nat.mul_le_mul_right _ enough
  omega

theorem value_borrow (inside : i < digits.length) (bounded : other.getD i 0 ≤ 10) :
    DecimalDigits.value (digits.set i (digits.getD i 0 + 10 - other.getD i 0)) +
      other.getD i 0 * 10 ^ (digits.length - 1 - i) =
        DecimalDigits.value digits + 10 * 10 ^ (digits.length - 1 - i) := by
  have moved := value_set inside (digits.getD i 0 + 10 - other.getD i 0)
  have share : (digits.getD i 0 + 10 - other.getD i 0) * 10 ^ (digits.length - 1 - i) =
      digits.getD i 0 * 10 ^ (digits.length - 1 - i) + 10 * 10 ^ (digits.length - 1 - i) -
        other.getD i 0 * 10 ^ (digits.length - 1 - i) := by
    rw [Nat.sub_mul, Nat.add_mul]
  have smaller : other.getD i 0 * 10 ^ (digits.length - 1 - i) ≤ (digits.getD i 0 + 10) * 10 ^ (digits.length - 1 - i) :=
    Nat.mul_le_mul_right _ (by omega)
  rw [Nat.add_mul] at smaller
  omega

theorem value_take_borrow (before : 0 < i) (inside : i ≤ other.length) :
    DecimalDigits.value ((other.set (i - 1) (other.getD (i - 1) 0 + 1)).take i) =
      DecimalDigits.value (other.take i) + 1 := by
  have short : i - 1 < (other.take i).length := by rw [List.length_take]; omega
  have raised := value_set short (other.getD (i - 1) 0 + 1)
  have kept : (other.take i).getD (i - 1) 0 = other.getD (i - 1) 0 := by
    rw [List.getD_eq_getElem?_getD, List.getElem?_take, if_pos (by omega), ← List.getD_eq_getElem?_getD]
  rw [kept, List.length_take, Nat.min_eq_left inside, show i - 1 - (i - 1) = 0 by omega, pow_zero,
    Nat.mul_one, Nat.mul_one] at raised
  rw [List.take_set]
  omega

theorem value_lt_first {digits : List Nat} (nonempty : digits ≠ []) (bounded : ∀ j, digits.getD j 0 ≤ 9) :
    DecimalDigits.value digits < (digits.getD 0 0 + 1) * 10 ^ (digits.length - 1) := by
  obtain ⟨first, rest, rfl⟩ := List.exists_cons_of_ne_nil nonempty
  have restBelow := value_lt (below_of_getD_le (fun j => by simpa using bounded (j + 1)))
  rw [value_cons, List.getD_cons_zero, List.length_cons, Nat.add_sub_cancel, Nat.add_mul, Nat.one_mul]
  omega

theorem Subtracting.noBorrow (subtracting : Subtracting digits other (i + 1))
    (enough : other.getD i 0 ≤ digits.getD i 0) :
    Subtracting (digits.set i (digits.getD i 0 - other.getD i 0)) other i where
  length := by rw [List.length_set, subtracting.length]
  fuel := by rw [List.length_set]; exact Nat.le_of_succ_le subtracting.fuel
  digitsBelow := by
    intro j
    by_cases here : j = i
    · subst here
      rw [getD_set_self subtracting.inside]
      have := subtracting.digitsBelow j
      omega
    · rw [getD_set_ne (Ne.symm here)]
      exact subtracting.digitsBelow j
  otherBelow := by
    intro j before
    have bound := subtracting.otherBelow j (by omega)
    split at bound <;> split <;> omega
  covers := by
    have inside := subtracting.inside
    have covered := subtracting.covers
    have dropped := value_noBorrow inside enough
    have taken := value_take_succ (show i < other.length by rw [subtracting.length]; exact inside)
    rw [taken, show digits.length - (i + 1) = digits.length - 1 - i by omega, Nat.add_mul] at covered
    rw [List.length_set, pow_place inside,
      show DecimalDigits.value (other.take i) * (10 * 10 ^ (digits.length - 1 - i)) =
        DecimalDigits.value (other.take i) * 10 * 10 ^ (digits.length - 1 - i) by ring]
    omega

theorem Subtracting.borrow (subtracting : Subtracting digits other (i + 1)) (before : 0 < i)
    (short : digits.getD i 0 < other.getD i 0) :
    Subtracting (digits.set i (digits.getD i 0 + 10 - other.getD i 0))
      (other.set (i - 1) (other.getD (i - 1) 0 + 1)) i where
  length := by rw [List.length_set, List.length_set, subtracting.length]
  fuel := by rw [List.length_set]; exact Nat.le_of_succ_le subtracting.fuel
  digitsBelow := by
    intro j
    by_cases here : j = i
    · subst here
      rw [getD_set_self subtracting.inside]
      omega
    · rw [getD_set_ne (Ne.symm here)]
      exact subtracting.digitsBelow j
  otherBelow := by
    intro j earlier
    have bound := subtracting.otherBelow j (by omega)
    by_cases raised : j = i - 1
    · subst raised
      rw [getD_set_self (by rw [subtracting.length]; have := subtracting.inside; omega)]
      split at bound <;> split <;> omega
    · rw [getD_set_ne (Ne.symm raised)]
      split at bound <;> split <;> omega
  covers := by
    have inside := subtracting.inside
    have covered := subtracting.covers
    have bounded := subtracting.otherBelow i (by omega)
    simp only [if_true] at bounded
    have borrowed := value_borrow inside bounded
    have taken := value_take_succ (show i < other.length by rw [subtracting.length]; exact inside)
    rw [taken, show digits.length - (i + 1) = digits.length - 1 - i by omega, Nat.add_mul] at covered
    rw [List.length_set, value_take_borrow before (by rw [subtracting.length]; omega), pow_place inside,
      show (DecimalDigits.value (other.take i) + 1) * (10 * 10 ^ (digits.length - 1 - i)) =
        DecimalDigits.value (other.take i) * 10 * 10 ^ (digits.length - 1 - i) + 10 * 10 ^ (digits.length - 1 - i) by ring]
    omega

theorem Subtracting.first (subtracting : Subtracting digits other 1) : other.getD 0 0 ≤ digits.getD 0 0 := by
  have nonempty : digits ≠ [] := by
    have fuel := subtracting.fuel
    intro empty
    rw [empty] at fuel
    simp at fuel
  have covered := subtracting.covers
  have below := value_lt_first nonempty subtracting.digitsBelow
  have taken := value_take_succ (show 0 < other.length by rw [subtracting.length]; exact List.length_pos_of_ne_nil nonempty)
  rw [taken, List.take_zero, value_nil, Nat.zero_mul, Nat.zero_add] at covered
  by_contra borrows
  have more : (digits.getD 0 0 + 1) * 10 ^ (digits.length - 1) ≤ other.getD 0 0 * 10 ^ (digits.length - 1) :=
    Nat.mul_le_mul_right _ (by omega)
  omega

theorem subtractMantissas_spec :
    ∀ {i : Nat} {digits other : List Nat}, Subtracting digits other i →
      ∃ result, subtractMantissas i digits other = some result ∧ (∀ digit ∈ result, digit < 10) ∧
        result.length = digits.length ∧
        DecimalDigits.value result + DecimalDigits.value (other.take i) * 10 ^ (digits.length - i) =
          DecimalDigits.value digits := by
  intro i
  induction i with
  | zero =>
      intro digits other subtracting
      refine ⟨digits, rfl, below_of_getD_le subtracting.digitsBelow, rfl, ?_⟩
      simp
  | succ i ih =>
      intro digits other subtracting
      have inside := subtracting.inside
      have taken := value_take_succ (show i < other.length by rw [subtracting.length]; exact inside)
      rw [subtractMantissas]
      split
      · rename_i enough
        obtain ⟨result, ran, below, lengthFact, valueFact⟩ := ih (subtracting.noBorrow enough)
        refine ⟨result, ran, below, by rw [lengthFact, List.length_set], ?_⟩
        have dropped := value_noBorrow inside enough
        rw [List.length_set, pow_place inside] at valueFact
        rw [taken, show digits.length - (i + 1) = digits.length - 1 - i by omega]
        have spread : (DecimalDigits.value (other.take i) * 10 + other.getD i 0) * 10 ^ (digits.length - 1 - i) =
            DecimalDigits.value (other.take i) * (10 * 10 ^ (digits.length - 1 - i)) +
              other.getD i 0 * 10 ^ (digits.length - 1 - i) := by ring
        omega
      · rename_i short
        have short : digits.getD i 0 < other.getD i 0 := by omega
        split
        · rename_i first
          subst first
          exact absurd (subtracting.first) (by omega)
        · rename_i before
          have bounded := subtracting.otherBelow i (by omega)
          simp only [if_true] at bounded
          obtain ⟨result, ran, below, lengthFact, valueFact⟩ := ih (subtracting.borrow (by omega) short)
          refine ⟨result, ran, below, by rw [lengthFact, List.length_set], ?_⟩
          have borrowed := value_borrow inside bounded
          rw [List.length_set, value_take_borrow (by omega) (by rw [subtracting.length]; omega),
            pow_place inside] at valueFact
          rw [taken, show digits.length - (i + 1) = digits.length - 1 - i by omega]
          have spread : (DecimalDigits.value (other.take i) * 10 + other.getD i 0) * 10 ^ (digits.length - 1 - i) =
              DecimalDigits.value (other.take i) * (10 * 10 ^ (digits.length - 1 - i)) +
                other.getD i 0 * 10 ^ (digits.length - 1 - i) := by ring
          have raised : (DecimalDigits.value (other.take i) + 1) * (10 * 10 ^ (digits.length - 1 - i)) =
              DecimalDigits.value (other.take i) * (10 * 10 ^ (digits.length - 1 - i)) +
                10 * 10 ^ (digits.length - 1 - i) := by ring
          omega

theorem alignExponent_eq {decimal : Decimal} {maxExponent : Int} (below : decimal.exponent ≤ maxExponent)
    (fits : maxExponent - decimal.exponent < 2 ^ 63) :
    alignExponent decimal maxExponent =
      some ⟨List.replicate (maxExponent - decimal.exponent).toNat 0 ++ decimal.digits, maxExponent,
        decimal.isPositive⟩ := by
  unfold alignExponent
  split
  · rw [VarInt.toInt64_of_bounds (by omega) fits]
  · have same : decimal.exponent = maxExponent := by omega
    rw [show (maxExponent - decimal.exponent).toNat = 0 by omega, List.replicate_zero, List.nil_append, ← same]

theorem length_padDigits {digits : List Nat} {maxDigits : Nat} (shorter : digits.length ≤ maxDigits) :
    (padDigits digits maxDigits).length = maxDigits := by
  rw [padDigits, List.length_append, List.length_replicate]
  omega

theorem padDigits_le {digits : List Nat} (below : ∀ digit ∈ digits, digit < 10) (maxDigits : Nat) :
    ∀ j, (padDigits digits maxDigits).getD j 0 ≤ 9 := by
  intro j
  rw [List.getD_eq_getElem?_getD]
  cases lookup : (padDigits digits maxDigits)[j]? with
  | none => simp
  | some digit =>
      have member := List.mem_of_getElem? lookup
      have := below_append_replicate_zero below (maxDigits - digits.length) digit member
      simp only [Option.getD_some]
      omega

theorem magnitude_aligned (decimal : Decimal) {maxExponent : Int} (below : decimal.exponent ≤ maxExponent)
    {maxDigits : Nat}
    (longer : (List.replicate (maxExponent - decimal.exponent).toNat 0 ++ decimal.digits).length ≤ maxDigits) :
    decimal.magnitude = (DecimalDigits.value (padDigits (List.replicate (maxExponent - decimal.exponent).toNat 0 ++
      decimal.digits) maxDigits) : ℚ) * 10 ^ (maxExponent - maxDigits) := by
  set count := (maxExponent - decimal.exponent).toNat
  have raised : maxExponent = decimal.exponent + (count : Int) := by omega
  calc decimal.magnitude
      = magnitude ⟨List.replicate count 0 ++ decimal.digits, decimal.exponent + count, decimal.isPositive⟩ :=
        (magnitude_leading_zeros _ _ _ _ decimal.isPositive).symm
    _ = magnitude ⟨padDigits (List.replicate count 0 ++ decimal.digits) maxDigits, maxExponent, decimal.isPositive⟩ := by
        rw [← raised, padDigits, magnitude_trailing_zeros _ _ _ _ decimal.isPositive]
    _ = _ := by
        rw [magnitude_eq_value, length_padDigits longer]

theorem firstDifference_neg_iff {digits other : List Nat} (sameLength : digits.length = other.length)
    (below : ∀ j, digits.getD j 0 ≤ 9) (below' : ∀ j, other.getD j 0 ≤ 9) :
    (firstDifference digits other).getD 0 < 0 ↔ DecimalDigits.value digits < DecimalDigits.value other := by
  have ordered := compare_firstDifference digits other
  rw [sameLength, sub_self, ← compare_value_of_length_eq (below_of_getD_le below) (below_of_getD_le below')
    sameLength] at ordered
  rw [← compare_lt_iff_lt, ← compare_lt_iff_lt, ordered]

theorem subtractMantissas_of_le {digits other : List Nat} {count : Nat} (length : digits.length = count)
    (sameLength : other.length = count) (below : ∀ j, digits.getD j 0 ≤ 9) (below' : ∀ j, other.getD j 0 ≤ 9)
    (smaller : DecimalDigits.value other ≤ DecimalDigits.value digits) :
    ∃ result, subtractMantissas count digits other = some result ∧ (∀ digit ∈ result, digit < 10) ∧
      result.length = count ∧
      (DecimalDigits.value result : ℚ) = DecimalDigits.value digits - DecimalDigits.value other := by
  have whole : other.take count = other := by rw [← sameLength]; exact List.take_length
  have subtracting : Subtracting digits other count :=
    ⟨sameLength.trans length.symm, length.ge, below, fun j _ => (below' j).trans (by split <;> omega),
      by rw [whole, length, Nat.sub_self, pow_zero, mul_one]; exact smaller⟩
  obtain ⟨result, ran, resultBelow, resultLength, values⟩ := subtractMantissas_spec subtracting
  rw [whole, length, Nat.sub_self, pow_zero, mul_one] at values
  refine ⟨result, ran, resultBelow, resultLength.trans length, ?_⟩
  rw [← values]
  push_cast
  ring

theorem value_at_places (digits : List Nat) (exponent : Int) (isPositive : Bool) :
    (⟨digits, exponent, isPositive⟩ : Decimal).value =
      if isPositive then (DecimalDigits.value digits : ℚ) * 10 ^ (exponent - digits.length)
      else -((DecimalDigits.value digits : ℚ) * 10 ^ (exponent - digits.length)) := by
  rw [value, magnitude_eq_value]

theorem add_spec {decimal other : Decimal} (canonical : decimal.Canonical) (canonical' : other.Canonical)
    (fits : |decimal.exponent - other.exponent| < 2 ^ 63) :
    ∃ sum, decimal.add other = some sum ∧ sum.Canonical ∧ sum.value = decimal.value + other.value := by
  have alignThis := alignExponent_eq (le_max_right other.exponent decimal.exponent)
    (show max other.exponent decimal.exponent - decimal.exponent < 2 ^ 63 by
      rw [abs_lt] at fits; omega)
  have alignOther := alignExponent_eq (le_max_left other.exponent decimal.exponent)
    (show max other.exponent decimal.exponent - other.exponent < 2 ^ 63 by
      rw [abs_lt] at fits; omega)
  rw [add, makeCanonical_of_canonical canonical, makeCanonical_of_canonical canonical']
  simp only [alignThis, alignOther, Option.bind_eq_bind, Option.bind_some]
  set aligned := List.replicate (max other.exponent decimal.exponent - decimal.exponent).toNat 0 ++ decimal.digits
  set aligned' := List.replicate (max other.exponent decimal.exponent - other.exponent).toNat 0 ++ other.digits
  set padded := padDigits aligned (max aligned.length aligned'.length)
  set padded' := padDigits aligned' (max aligned.length aligned'.length)
  set count := max aligned.length aligned'.length
  have length : padded.length = count := length_padDigits (le_max_left _ _)
  have length' : padded'.length = count := length_padDigits (le_max_right _ _)
  have bounded : ∀ j, padded.getD j 0 ≤ 9 := padDigits_le (below_replicate_zero_append canonical.below _) _
  have bounded' : ∀ j, padded'.getD j 0 ≤ 9 := padDigits_le (below_replicate_zero_append canonical'.below _) _
  have places : decimal.magnitude = (DecimalDigits.value padded : ℚ) * 10 ^ (max other.exponent decimal.exponent - count) :=
    magnitude_aligned decimal (le_max_right _ _) (le_max_left _ _)
  have places' : other.magnitude = (DecimalDigits.value padded' : ℚ) * 10 ^ (max other.exponent decimal.exponent - count) :=
    magnitude_aligned other (le_max_left _ _) (le_max_right _ _)
  have whole' : padded'.take count = padded' := by rw [← length']; exact List.take_length
  by_cases sameSign : decimal.isPositive = other.isPositive
  · -- same signs: the carry loop adds the padded mantissas
    rw [if_pos sameSign]
    have adding : Adding padded' padded count :=
      ⟨length.trans length'.symm, length'.ge, bounded', fun j => (bounded j).trans (by split <;> omega)⟩
    obtain ⟨below, exponents, values⟩ := addMantissas_spec (max other.exponent decimal.exponent) adding
    refine ⟨_, rfl, makeCanonical_canonical below, ?_⟩
    rw [value_makeCanonical, value_at_places, exponents, values, whole', length', Nat.sub_self, pow_zero,
      mul_one, Decimal.value, Decimal.value, places, places', ← sameSign]
    split_ifs <;> push_cast <;> ring
  · -- opposite signs: the larger mantissa loses the smaller and gives the sign
    rw [if_neg sameSign]
    have flipped : other.isPositive = !decimal.isPositive := by
      revert sameSign
      cases decimal.isPositive <;> cases other.isPositive <;> decide
    by_cases smaller : (firstDifference padded padded').getD 0 < 0
    · rw [if_pos smaller]
      have less := (firstDifference_neg_iff (length.trans length'.symm) bounded bounded').mp smaller
      obtain ⟨result, ran, below, resultLength, difference⟩ :=
        subtractMantissas_of_le length' length bounded' bounded less.le
      dsimp only
      rw [ran, Option.bind_some]
      refine ⟨_, rfl, makeCanonical_canonical below, ?_⟩
      rw [value_makeCanonical, value_at_places, resultLength, difference, Decimal.value, Decimal.value,
        places, places', flipped]
      cases decimal.isPositive <;> simp only [Bool.not_true, Bool.not_false, Bool.false_eq_true, if_true,
        if_false] <;> ring
    · rw [if_neg smaller]
      have notLess := (firstDifference_neg_iff (length.trans length'.symm) bounded bounded').not.mp smaller
      obtain ⟨result, ran, below, resultLength, difference⟩ :=
        subtractMantissas_of_le length length' bounded bounded' (Nat.le_of_not_lt notLess)
      dsimp only
      rw [ran, Option.bind_some]
      refine ⟨_, rfl, makeCanonical_canonical below, ?_⟩
      rw [value_makeCanonical, value_at_places, resultLength, difference, Decimal.value, Decimal.value,
        places, places', flipped]
      cases decimal.isPositive <;> simp only [Bool.not_true, Bool.not_false, Bool.false_eq_true, if_true,
        if_false] <;> ring

/-- The sum is the one canonical decimal of the sum of the values. -/
theorem add_sums_values {decimal other sum : Decimal} (canonical : decimal.Canonical)
    (canonical' : other.Canonical) (fits : |decimal.exponent - other.exponent| < 2 ^ 63) :
    decimal.add other = some sum ↔ sum.Canonical ∧ sum.value = decimal.value + other.value := by
  obtain ⟨result, added, canonicalResult, values⟩ := add_spec canonical canonical' fits
  rw [added, Option.some.injEq]
  constructor
  · rintro rfl
    exact ⟨canonicalResult, values⟩
  · rintro ⟨canonicalSum, valueSum⟩
    exact eq_of_value_eq canonicalResult canonicalSum (values.trans valueSum.symm)

theorem add_sums_values_one_and_a_quarter :
    (⟨[1, 2, 5], 1, true⟩ : Decimal).Canonical ∧ (⟨[3], 0, false⟩ : Decimal).Canonical ∧
      |(⟨[1, 2, 5], 1, true⟩ : Decimal).exponent - (⟨[3], 0, false⟩ : Decimal).exponent| < 2 ^ 63 ∧
      ((⟨[1, 2, 5], 1, true⟩ : Decimal).add ⟨[3], 0, false⟩ = some ⟨[9, 5], 0, true⟩ ↔
        (⟨[9, 5], 0, true⟩ : Decimal).Canonical ∧
          (⟨[9, 5], 0, true⟩ : Decimal).value = (⟨[1, 2, 5], 1, true⟩ : Decimal).value + (⟨[3], 0, false⟩ : Decimal).value) :=
  have canonical : (⟨[1, 2, 5], 1, true⟩ : Decimal).Canonical := ⟨by decide, by decide⟩
  have canonical' : (⟨[3], 0, false⟩ : Decimal).Canonical := ⟨by decide, by decide⟩
  have fits : |(⟨[1, 2, 5], 1, true⟩ : Decimal).exponent - (⟨[3], 0, false⟩ : Decimal).exponent| < 2 ^ 63 := by
    decide
  ⟨canonical, canonical', fits, add_sums_values canonical canonical' fits⟩

theorem value_neg_eq_neg (decimal : Decimal) : decimal.neg.value = -decimal.value := by
  rw [neg, value_makeCanonical, value, value]
  cases decimal.isPositive
  · simp only [Bool.not_false, if_true, Bool.false_eq_true, if_false, neg_neg]
    rfl
  · simp only [Bool.not_true, Bool.false_eq_true, if_false, if_true]
    rfl

theorem neg_canonical {decimal : Decimal} (canonical : decimal.Canonical) : decimal.neg.Canonical :=
  makeCanonical_canonical canonical.below

theorem exponent_neg {decimal : Decimal} (canonical : decimal.Canonical) :
    decimal.neg.exponent = decimal.exponent := by
  by_cases zero : decimal.digits = []
  · rw [canonical.eq_clear zero]
    rfl
  · have nonempty : decimal.digits.isEmpty = false := by simpa using zero
    have checked := canonical.canonical
    rw [isCanonical, if_neg (by rw [nonempty]; decide)] at checked
    rw [neg, makeCanonical, if_pos (by rw [isCanonical, if_neg (by rw [nonempty]; decide)]; exact checked)]

theorem add_comm_of_canonical {decimal other : Decimal} (canonical : decimal.Canonical)
    (canonical' : other.Canonical) (fits : |decimal.exponent - other.exponent| < 2 ^ 63) :
    decimal.add other = other.add decimal := by
  obtain ⟨sum, added, canonicalSum, values⟩ := add_spec canonical canonical' fits
  obtain ⟨sum', added', canonicalSum', values'⟩ := add_spec canonical' canonical (by rwa [abs_sub_comm])
  rw [added, added', eq_of_value_eq canonicalSum canonicalSum' (by rw [values, values', add_comm])]

theorem add_comm_of_canonical_tenths :
    (⟨[1, 2, 5], 1, true⟩ : Decimal).Canonical ∧ (⟨[3], 0, false⟩ : Decimal).Canonical ∧
      |(⟨[1, 2, 5], 1, true⟩ : Decimal).exponent - (⟨[3], 0, false⟩ : Decimal).exponent| < 2 ^ 63 ∧
      (⟨[1, 2, 5], 1, true⟩ : Decimal).add ⟨[3], 0, false⟩ = (⟨[3], 0, false⟩ : Decimal).add ⟨[1, 2, 5], 1, true⟩ :=
  have canonical : (⟨[1, 2, 5], 1, true⟩ : Decimal).Canonical := ⟨by decide, by decide⟩
  have canonical' : (⟨[3], 0, false⟩ : Decimal).Canonical := ⟨by decide, by decide⟩
  have fits : |(⟨[1, 2, 5], 1, true⟩ : Decimal).exponent - (⟨[3], 0, false⟩ : Decimal).exponent| < 2 ^ 63 := by
    decide
  ⟨canonical, canonical', fits, add_comm_of_canonical canonical canonical' fits⟩

theorem add_neg_self_is_zero {decimal : Decimal} (canonical : decimal.Canonical) :
    decimal.add decimal.neg = some clear := by
  have fits : |decimal.exponent - decimal.neg.exponent| < 2 ^ 63 := by
    rw [exponent_neg canonical, sub_self, abs_zero]
    norm_num
  obtain ⟨sum, added, canonicalSum, values⟩ := add_spec canonical (neg_canonical canonical) fits
  rw [added, eq_of_value_eq canonicalSum canonical_clear
    (by rw [values, value_neg_eq_neg, add_neg_cancel, value_clear])]

theorem add_neg_self_is_zero_one_and_a_quarter :
    (⟨[1, 2, 5], 1, false⟩ : Decimal).Canonical ∧
      (⟨[1, 2, 5], 1, false⟩ : Decimal).add (⟨[1, 2, 5], 1, false⟩ : Decimal).neg = some clear :=
  have canonical : (⟨[1, 2, 5], 1, false⟩ : Decimal).Canonical := ⟨by decide, by decide⟩
  ⟨canonical, add_neg_self_is_zero canonical⟩

end Decimal

end ChogoriSql
