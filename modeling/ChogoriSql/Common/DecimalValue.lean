import ChogoriSql.Common.Decimal
import ChogoriSql.Numeric.DecimalDigits

/-! What a `Decimal` stands for: the rational number `± 0.d₁d₂…dₖ * 10 ^ exponent`.
`make_canonical` keeps it and is a normal form for it, and `CompareTo` orders canonical decimals
as these numbers are ordered. -/

namespace ChogoriSql

namespace Decimal

open DecimalDigits

def magnitude (decimal : Decimal) : ℚ :=
  fraction decimal.digits * 10 ^ decimal.exponent

def value (decimal : Decimal) : ℚ :=
  if decimal.isPositive then decimal.magnitude else -decimal.magnitude

@[simp] theorem value_clear : clear.value = 0 := by
  simp [value, magnitude, clear]

theorem magnitude_eq_value (decimal : Decimal) :
    decimal.magnitude = (DecimalDigits.value decimal.digits : ℚ) * 10 ^ (decimal.exponent - decimal.digits.length) := by
  rw [magnitude, fraction, zpow_sub₀ (by norm_num), zpow_natCast]
  ring

theorem magnitude_leading_zeros (digits : List Nat) (count : Nat) (exponent : Int) (isPositive isPositive' : Bool) :
    magnitude ⟨List.replicate count 0 ++ digits, exponent + count, isPositive⟩ =
      magnitude ⟨digits, exponent, isPositive'⟩ := by
  simp only [magnitude]
  rw [fraction_replicate_append, zpow_add₀ (by norm_num), zpow_natCast]
  field_simp

theorem magnitude_trailing_zeros (digits : List Nat) (count : Nat) (exponent : Int) (isPositive isPositive' : Bool) :
    magnitude ⟨digits ++ List.replicate count 0, exponent, isPositive⟩ =
      magnitude ⟨digits, exponent, isPositive'⟩ := by
  simp only [magnitude]
  rw [fraction_append_replicate]

theorem takeWhile_zero_eq_replicate (digits : List Nat) :
    digits.takeWhile (· == 0) = List.replicate (digits.takeWhile (· == 0)).length 0 :=
  List.eq_replicate_iff.mpr ⟨rfl, fun digit member => by simpa using List.mem_takeWhile_imp member⟩

theorem magnitude_shifted (decimal : Decimal) :
    fraction ((decimal.digits.dropWhile (· == 0) ++
        List.replicate (decimal.digits.takeWhile (· == 0)).length 0).rdropWhile (· == 0)) *
      10 ^ (decimal.exponent - (decimal.digits.takeWhile (· == 0)).length) = decimal.magnitude := by
  have leading : decimal.digits = List.replicate (decimal.digits.takeWhile (· == 0)).length 0 ++
      decimal.digits.dropWhile (· == 0) := by
    conv_lhs => rw [← @List.takeWhile_append_dropWhile _ (· == 0) decimal.digits]
    rw [← takeWhile_zero_eq_replicate]
  rw [magnitude, fraction_rdropWhile, fraction_append_replicate]
  conv_rhs => rw [leading, fraction_replicate_append]
  rw [zpow_sub₀ (by norm_num), zpow_natCast]
  ring

theorem value_makeCanonical (decimal : Decimal) : decimal.makeCanonical.value = decimal.value := by
  have shifted := magnitude_shifted decimal
  rw [makeCanonical]
  split
  · rfl
  · dsimp only
    rw [drop_length_takeWhile]
    split
    · rename_i popped
      rw [List.isEmpty_iff.mp popped, fraction_nil, zero_mul] at shifted
      rw [value_clear, value, ← shifted, neg_zero, ite_self]
    · rw [value, value, ← shifted]
      rfl

theorem Canonical.head {decimal : Decimal} (canonical : decimal.Canonical)
    (nonzero : decimal.digits ≠ []) : decimal.digits.head? ≠ some 0 := by
  have checked := canonical.canonical
  rw [isCanonical, if_neg (by simpa using nonzero)] at checked
  simp only [Bool.and_eq_true, bne_iff_ne] at checked
  exact checked.1

theorem Canonical.fraction_bounds {decimal : Decimal} (canonical : decimal.Canonical)
    (nonzero : decimal.digits ≠ []) :
    1 / 10 ≤ fraction decimal.digits ∧ fraction decimal.digits < 1 := by
  have first := canonical.head nonzero
  obtain ⟨digit, rest, layout⟩ := List.exists_cons_of_ne_nil nonzero
  rw [layout, List.head?_cons, ne_eq, Option.some.injEq] at first
  constructor
  · rw [layout]
    exact le_fraction rest first
  · exact fraction_lt_one canonical.below

theorem magnitude_pos {decimal : Decimal} (canonical : decimal.Canonical)
    (nonzero : decimal.digits ≠ []) : 0 < decimal.magnitude := by
  have low := (canonical.fraction_bounds nonzero).1
  rw [magnitude]
  have positive : 0 < fraction decimal.digits := lt_of_lt_of_le (by norm_num) low
  positivity

theorem compare_magnitude {decimal other : Decimal} (canonical : decimal.Canonical)
    (canonical' : other.Canonical) (nonzero : decimal.digits ≠ []) (nonzero' : other.digits ≠ []) :
    compare decimal.magnitude other.magnitude =
      (compare decimal.exponent other.exponent).then (compare decimal.digits other.digits) := by
  obtain ⟨low, high⟩ := canonical.fraction_bounds nonzero
  obtain ⟨low', high'⟩ := canonical'.fraction_bounds nonzero'
  rw [magnitude, magnitude, compare_scientific low high low' high',
    compare_fraction canonical.below canonical'.below (canonical.mantissa nonzero).lastNonzero
      (canonical'.mantissa nonzero').lastNonzero]

theorem compare_neg_neg (a b : ℚ) : compare (-a) (-b) = compare b a := by
  rcases lt_trichotomy a b with less | same | more
  · rw [compare_gt_iff_gt.mpr (neg_lt_neg less), compare_gt_iff_gt.mpr less]
  · rw [same, compare_eq_iff_eq.mpr rfl, compare_eq_iff_eq.mpr rfl]
  · rw [compare_lt_iff_lt.mpr (neg_lt_neg more), compare_lt_iff_lt.mpr more]

theorem value_pos {decimal : Decimal} (canonical : decimal.Canonical) (positive : signClass decimal = 2) :
    0 < decimal.value := by
  obtain ⟨nonzero, positive⟩ := signClass_eq_two_iff.mp positive
  rw [value, if_pos positive]
  exact magnitude_pos canonical nonzero

theorem value_neg {decimal : Decimal} (canonical : decimal.Canonical) (negative : signClass decimal = 0) :
    decimal.value < 0 := by
  obtain ⟨nonzero, negative⟩ := signClass_eq_zero_iff.mp negative
  rw [value, negative, if_neg Bool.false_ne_true, neg_lt_zero]
  exact magnitude_pos canonical nonzero

theorem value_nonneg {decimal : Decimal} (canonical : decimal.Canonical)
    (nonnegative : 1 ≤ signClass decimal) : 0 ≤ decimal.value := by
  rcases Nat.lt_or_ge (signClass decimal) 2 with zero | positive
  · rw [canonical.eq_clear_of_signClass (by omega), value_clear]
  · exact le_of_lt (value_pos canonical (by have := signClass_le_two decimal; omega))

theorem value_lt_of_signClass_lt {decimal other : Decimal} (canonical : decimal.Canonical)
    (canonical' : other.Canonical) (lower : signClass decimal < signClass other) :
    decimal.value < other.value := by
  have top := signClass_le_two other
  by_cases negative : signClass decimal = 0
  · calc decimal.value < 0 := value_neg canonical negative
      _ ≤ other.value := value_nonneg canonical' (by omega)
  · rw [canonical.eq_clear_of_signClass (by omega), value_clear]
    exact value_pos canonical' (by omega)

theorem compare_value_of_signClass_ne {decimal other : Decimal} (canonical : decimal.Canonical)
    (canonical' : other.Canonical) (apart : signClass decimal ≠ signClass other) :
    compare decimal.value other.value = compare (signClass decimal) (signClass other) := by
  rcases Nat.lt_or_gt_of_ne apart with lower | higher
  · rw [compare_lt_iff_lt.mpr (value_lt_of_signClass_lt canonical canonical' lower),
      compare_lt_iff_lt.mpr lower]
  · rw [compare_gt_iff_gt.mpr (value_lt_of_signClass_lt canonical' canonical higher),
      compare_gt_iff_gt.mpr higher]

theorem compareTo_sign_is_value_order {decimal other : Decimal} (canonical : decimal.Canonical)
    (canonical' : other.Canonical) :
    compare (decimal.compareTo other) 0 = compare decimal.value other.value := by
  by_cases apart : signClass decimal = signClass other
  · by_cases zero : decimal.digits = []
    · have kind : signClass decimal = 1 := by simp [signClass, zero]
      rw [canonical.eq_clear_of_signClass kind, canonical'.eq_clear_of_signClass (apart ▸ kind)]
      simp [compareTo, clear]
    · obtain ⟨nonzero', sameSign⟩ := signClass_same apart zero
      rw [compare_compareTo_of_sameSign zero nonzero' sameSign.symm, value, value, sameSign]
      cases positive : decimal.isPositive
      · rw [if_neg Bool.false_ne_true, if_neg Bool.false_ne_true, if_neg Bool.false_ne_true,
          compare_neg_neg,
          compare_magnitude canonical' canonical nonzero' zero, Ordering.swap_then,
          ← Std.OrientedOrd.eq_swap, ← Std.OrientedOrd.eq_swap]
      · rw [if_pos rfl, if_pos rfl, if_pos rfl, compare_magnitude canonical canonical' zero nonzero']
  · rw [compare_compareTo_of_signClass_ne canonical canonical' apart,
      compare_value_of_signClass_ne canonical canonical' apart]

theorem compareTo_sign_is_value_order_two_and_a_half :
    (⟨[2, 5], 1, true⟩ : Decimal).Canonical ∧ (⟨[3], -1, false⟩ : Decimal).Canonical ∧
      compare ((⟨[2, 5], 1, true⟩ : Decimal).compareTo ⟨[3], -1, false⟩) 0 =
        compare (⟨[2, 5], 1, true⟩ : Decimal).value (⟨[3], -1, false⟩ : Decimal).value :=
  have canonical : (⟨[2, 5], 1, true⟩ : Decimal).Canonical := ⟨by decide, by decide⟩
  have canonical' : (⟨[3], -1, false⟩ : Decimal).Canonical := ⟨by decide, by decide⟩
  ⟨canonical, canonical', compareTo_sign_is_value_order canonical canonical'⟩

theorem eq_of_value_eq {decimal other : Decimal} (canonical : decimal.Canonical)
    (canonical' : other.Canonical) (same : decimal.value = other.value) : decimal = other := by
  by_cases apart : signClass decimal = signClass other
  · by_cases zero : decimal.digits = []
    · have kind : signClass decimal = 1 := by simp [signClass, zero]
      rw [canonical.eq_clear_of_signClass kind, canonical'.eq_clear_of_signClass (apart ▸ kind)]
    · obtain ⟨nonzero', sameSign⟩ := signClass_same apart zero
      have equal : compare decimal.magnitude other.magnitude = .eq := by
        rw [compare_eq_iff_eq]
        cases positive : decimal.isPositive <;>
          simp_all [value]
      rw [compare_magnitude canonical canonical' zero nonzero', Ordering.then_eq_eq] at equal
      have sameExponent := compare_eq_iff_eq.mp equal.1
      have sameDigits := Std.LawfulEqCmp.eq_of_compare equal.2
      cases decimal
      cases other
      simp only [Decimal.mk.injEq]
      exact ⟨sameDigits, sameExponent, sameSign.symm⟩
  · rcases Nat.lt_or_gt_of_ne apart with lower | higher
    · exact absurd same (ne_of_lt (value_lt_of_signClass_lt canonical canonical' lower))
    · exact absurd same (ne_of_gt (value_lt_of_signClass_lt canonical' canonical higher))

/-- `make_canonical` is a normal form: decimals of one value are made the same decimal. -/
theorem makeCanonical_eq_of_value_eq {decimal other : Decimal}
    (below : ∀ digit ∈ decimal.digits, digit < 10) (below' : ∀ digit ∈ other.digits, digit < 10)
    (same : decimal.value = other.value) : decimal.makeCanonical = other.makeCanonical :=
  eq_of_value_eq (makeCanonical_canonical below) (makeCanonical_canonical below')
    (by rw [value_makeCanonical, value_makeCanonical, same])

theorem makeCanonical_eq_of_value_eq_tenths :
    (⟨[0, 2, 5, 0], 2, true⟩ : Decimal).value = (⟨[2, 5, 0, 0, 0], 1, true⟩ : Decimal).value ∧
      (⟨[0, 2, 5, 0], 2, true⟩ : Decimal).makeCanonical = (⟨[2, 5, 0, 0, 0], 1, true⟩ : Decimal).makeCanonical :=
  have same : (⟨[0, 2, 5, 0], 2, true⟩ : Decimal).value = (⟨[2, 5, 0, 0, 0], 1, true⟩ : Decimal).value := by
    simp [value, magnitude, fraction, DecimalDigits.value]
    norm_num
  ⟨same, makeCanonical_eq_of_value_eq (by decide) (by decide) same⟩

end Decimal

end ChogoriSql
