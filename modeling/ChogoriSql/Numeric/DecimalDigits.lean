import Mathlib
import ChogoriSql.Order.Lex

/-! Decimal digit strings: the number a list of digits spells with the most significant digit
first, the digits of a number in that order, the characters `'0'`…`'9'` of digits, and the
fraction `0.d₁d₂…dₖ`, whose order is the lexicographic order of digit lists without trailing
zeros.  A number in scientific form `f * 10 ^ e` with `f` in `[1/10, 1)` compares by `e` first. -/

namespace DecimalDigits

def value (digits : List Nat) : Nat :=
  digits.foldl (fun acc digit => acc * 10 + digit) 0

def ofNat (n : Nat) : List Nat :=
  if n = 0 then [0] else (Nat.digits 10 n).reverse

def toChar (digit : Nat) : Char :=
  Char.ofNat ('0'.toNat + digit)

@[simp] theorem toChar_zero : toChar 0 = '0' :=
  rfl

def ofChar (c : Char) : Nat :=
  c.toNat - '0'.toNat

theorem foldl_value (acc : Nat) (digits : List Nat) :
    digits.foldl (fun acc digit => acc * 10 + digit) acc = acc * 10 ^ digits.length + value digits := by
  induction digits generalizing acc with
  | nil => simp [value]
  | cons digit rest ih =>
      rw [value, List.foldl_cons, List.foldl_cons, ih, ih (0 * 10 + digit), List.length_cons]
      ring

@[simp] theorem value_nil : value [] = 0 := rfl

theorem value_cons (digit : Nat) (rest : List Nat) :
    value (digit :: rest) = digit * 10 ^ rest.length + value rest := by
  rw [value, List.foldl_cons, foldl_value]
  simp

theorem value_append (front back : List Nat) :
    value (front ++ back) = value front * 10 ^ back.length + value back := by
  rw [value, List.foldl_append, foldl_value]
  rfl

@[simp] theorem value_replicate_zero (count : Nat) : value (List.replicate count 0) = 0 := by
  induction count with
  | zero => rfl
  | succ count ih => rw [List.replicate_succ, value_cons, ih]; simp

theorem value_reverse (digits : List Nat) : value digits.reverse = Nat.ofDigits 10 digits := by
  induction digits with
  | nil => rfl
  | cons digit rest ih =>
      rw [List.reverse_cons, value_append, ih, Nat.ofDigits_cons]
      simp only [List.length_cons, List.length_nil, value_cons, value_nil]
      ring

theorem value_ofNat (n : Nat) : value (ofNat n) = n := by
  unfold ofNat
  split
  · rename_i zero
    simp [zero, value_cons]
  · rw [value_reverse, Nat.ofDigits_digits]

theorem ofNat_below {n : Nat} : ∀ digit ∈ ofNat n, digit < 10 := by
  intro digit member
  unfold ofNat at member
  split at member
  · simp at member
    omega
  · exact Nat.digits_lt_base (by norm_num) (List.mem_reverse.mp member)

theorem ofNat_ne_nil (n : Nat) : ofNat n ≠ [] := by
  unfold ofNat
  split
  · simp
  · rename_i nonzero
    simpa using Nat.digits_ne_nil_iff_ne_zero.mpr nonzero

theorem ofNat_head {n : Nat} (nonzero : n ≠ 0) : (ofNat n).head? ≠ some 0 := by
  rw [ofNat, if_neg nonzero, List.head?_reverse,
    List.getLast?_eq_some_getLast (Nat.digits_ne_nil_iff_ne_zero.mpr nonzero)]
  simpa using Nat.getLast_digit_ne_zero 10 nonzero

theorem ofChar_toChar {digit : Nat} (below : digit < 10) : ofChar (toChar digit) = digit := by
  interval_cases digit <;> decide

theorem isDigit_toChar {digit : Nat} (below : digit < 10) : (toChar digit).isDigit = true := by
  interval_cases digit <;> decide

theorem ofChar_lt_ten {c : Char} (low : '0' ≤ c) (high : c ≤ '9') : ofChar c < 10 := by
  rw [Char.le_def, UInt32.le_iff_toNat_le] at low high
  have zero : ('0' : Char).val.toNat = 48 := rfl
  have nine : ('9' : Char).val.toNat = 57 := rfl
  unfold ofChar Char.toNat
  omega

theorem toChar_range {digit : Nat} (below : digit < 10) : '0' ≤ toChar digit ∧ toChar digit ≤ '9' := by
  interval_cases digit <;> decide

theorem value_append_replicate (digits : List Nat) (count : Nat) :
    value (digits ++ List.replicate count 0) = value digits * 10 ^ count := by
  rw [value_append, value_replicate_zero, List.length_replicate, Nat.add_zero]

theorem value_lt {digits : List Nat} (below : ∀ digit ∈ digits, digit < 10) :
    value digits < 10 ^ digits.length := by
  induction digits with
  | nil => simp
  | cons digit rest ih =>
      have digitBelow := below digit (by simp)
      have restBelow := ih (fun other (member : other ∈ rest) => below other (by simp [member]))
      rw [value_cons, List.length_cons, pow_succ]
      calc digit * 10 ^ rest.length + value rest < digit * 10 ^ rest.length + 10 ^ rest.length :=
            Nat.add_lt_add_left restBelow _
        _ = (digit + 1) * 10 ^ rest.length := by ring
        _ ≤ 10 * 10 ^ rest.length := Nat.mul_le_mul_right _ (by omega)
        _ = 10 ^ rest.length * 10 := by ring

theorem pow_le_value {digit : Nat} (rest : List Nat) (nonzero : digit ≠ 0) :
    10 ^ rest.length ≤ value (digit :: rest) := by
  rw [value_cons]
  calc 10 ^ rest.length ≤ digit * 10 ^ rest.length := Nat.le_mul_of_pos_left _ (Nat.pos_of_ne_zero nonzero)
    _ ≤ digit * 10 ^ rest.length + value rest := Nat.le_add_right _ _

theorem ofNat_value {digits : List Nat} (below : ∀ digit ∈ digits, digit < 10) (nonempty : digits ≠ [])
    (leading : digits.head? ≠ some 0) : ofNat (value digits) = digits := by
  obtain ⟨digit, rest, rfl⟩ := List.exists_cons_of_ne_nil nonempty
  have digitNonzero : digit ≠ 0 := fun zero => leading (by rw [zero]; rfl)
  have nonzero : value (digit :: rest) ≠ 0 := by
    have large := pow_le_value rest digitNonzero
    have positive : 0 < 10 ^ rest.length := by positivity
    omega
  have spelled : value (digit :: rest) = Nat.ofDigits 10 (digit :: rest).reverse := by
    rw [← value_reverse, List.reverse_reverse]
  rw [ofNat, if_neg nonzero, spelled,
    Nat.digits_ofDigits 10 (by norm_num) _ (fun d member => below d (List.mem_reverse.mp member)),
    List.reverse_reverse]
  intro notNil
  rw [List.getLast_reverse]
  exact digitNonzero

theorem getD_set_self {digits : List Nat} {k : Nat} (inside : k < digits.length) (digit : Nat) :
    (digits.set k digit).getD k 0 = digit := by
  rw [List.getD_eq_getElem?_getD, List.getElem?_set_self inside, Option.getD_some]

theorem getD_set_ne {digits : List Nat} {k j : Nat} (apart : k ≠ j) (digit : Nat) :
    (digits.set k digit).getD j 0 = digits.getD j 0 := by
  rw [List.getD_eq_getElem?_getD, List.getElem?_set_ne apart, ← List.getD_eq_getElem?_getD]

theorem value_set {digits : List Nat} {k : Nat} (inside : k < digits.length) (digit : Nat) :
    value (digits.set k digit) + digits.getD k 0 * 10 ^ (digits.length - 1 - k) =
      value digits + digit * 10 ^ (digits.length - 1 - k) := by
  induction digits generalizing k with
  | nil => simp at inside
  | cons first rest ih =>
      cases k with
      | zero =>
          rw [List.set_cons_zero, value_cons, value_cons, List.getD_cons_zero, List.length_cons,
            show rest.length + 1 - 1 - 0 = rest.length by omega]
          omega
      | succ k =>
          have moved := ih (show k < rest.length by simpa using inside)
          rw [List.set_cons_succ, value_cons, value_cons, List.length_set, List.getD_cons_succ,
            List.length_cons, show rest.length + 1 - 1 - (k + 1) = rest.length - 1 - k by omega]
          omega

theorem value_take_succ {digits : List Nat} {i : Nat} (inside : i < digits.length) :
    value (digits.take (i + 1)) = value (digits.take i) * 10 + digits.getD i 0 := by
  rw [List.take_add_one, List.getElem?_eq_getElem inside, Option.toList_some, value_append,
    List.getD_eq_getElem?_getD, List.getElem?_eq_getElem inside, Option.getD_some]
  simp [value_cons]

theorem below_of_getD_le {digits : List Nat} (bounded : ∀ j, digits.getD j 0 ≤ 9) :
    ∀ digit ∈ digits, digit < 10 := by
  intro digit member
  obtain ⟨j, inside, rfl⟩ := List.getElem_of_mem member
  have bound := bounded j
  rw [List.getD_eq_getElem?_getD, List.getElem?_eq_getElem inside, Option.getD_some] at bound
  omega

theorem compare_value_of_length_eq {digits digits' : List Nat} (below : ∀ digit ∈ digits, digit < 10)
    (below' : ∀ digit ∈ digits', digit < 10) (sameLength : digits.length = digits'.length) :
    compare (value digits) (value digits') = compare digits digits' := by
  induction digits generalizing digits' with
  | nil =>
      cases digits' with
      | nil => rfl
      | cons digit' rest' => simp at sameLength
  | cons digit rest ih =>
      cases digits' with
      | nil => simp at sameLength
      | cons digit' rest' =>
          have restLength : rest.length = rest'.length := by simpa using sameLength
          have tailBelow : ∀ other ∈ rest, other < 10 := fun other member => below other (by simp [member])
          have tailBelow' : ∀ other ∈ rest', other < 10 := fun other member => below' other (by simp [member])
          have restBelow := value_lt tailBelow
          have restBelow' := value_lt tailBelow'
          rw [← restLength] at restBelow'
          rw [value_cons, value_cons, ← restLength, List.compare_cons_cons,
            LexOrder.compare_mul_add digit digit' restBelow restBelow', ih tailBelow tailBelow' restLength]

theorem compare_replicate_zero {digits : List Nat} {digit : Nat} (member : digit ∈ digits)
    (nonzero : digit ≠ 0) : compare (List.replicate digits.length 0) digits = .lt := by
  induction digits with
  | nil => simp at member
  | cons first rest ih =>
      rw [List.length_cons, List.replicate_succ, List.compare_cons_cons]
      by_cases zero : first = 0
      · subst zero
        have later : digit ∈ rest := (List.mem_cons.mp member).resolve_left nonzero
        rw [Std.compare_self, Ordering.eq_then, ih later]
      · rw [compare_lt_iff_lt.mpr (Nat.pos_of_ne_zero zero)]
        rfl

theorem compare_padded_of_starts {digits digits' : List Nat} {count count' : Nat}
    (last' : digits'.getLast? ≠ some 0) (isPrefix : digits <+: digits')
    (sameLength : digits.length + count = digits'.length + count') :
    compare (digits ++ List.replicate count 0) (digits' ++ List.replicate count' 0) =
      compare digits digits' := by
  obtain ⟨more, rfl⟩ := isPrefix
  cases more with
  | nil =>
      have same : count = count' := by simpa using sameLength
      rw [List.append_nil, same, Std.compare_self, Std.compare_self]
  | cons first rest =>
      have lastMore : (first :: rest).getLast? ≠ some 0 := by
        rwa [List.getLast?_append_of_ne_nil _ (List.cons_ne_nil first rest)] at last'
      obtain ⟨tail, lastDigit⟩ := Option.ne_none_iff_exists'.mp
        (fun none => by simp at none : (first :: rest).getLast? ≠ none)
      have member : tail ∈ first :: rest ++ List.replicate count' 0 :=
        List.mem_append_left _ (List.mem_of_getLast? lastDigit)
      have nonzero : tail ≠ 0 := fun zero => lastMore (by rw [lastDigit, zero])
      have zerosLength : count = (first :: rest ++ List.replicate count' 0).length := by
        simp only [List.length_append, List.length_cons, List.length_replicate] at sameLength ⊢
        omega
      rw [List.append_assoc, LexOrder.compare_append_left, zerosLength,
        compare_replicate_zero member nonzero, ← List.append_nil digits, List.append_assoc,
        LexOrder.compare_append_left, List.nil_append, List.compare_nil_cons]

theorem compare_padded {digits digits' : List Nat} {count count' : Nat}
    (last : digits.getLast? ≠ some 0) (last' : digits'.getLast? ≠ some 0)
    (sameLength : digits.length + count = digits'.length + count') :
    compare (digits ++ List.replicate count 0) (digits' ++ List.replicate count' 0) =
      compare digits digits' := by
  by_cases starts : digits <+: digits'
  · exact compare_padded_of_starts last' starts sameLength
  · by_cases starts' : digits' <+: digits
    · rw [Std.OrientedOrd.eq_swap, compare_padded_of_starts last starts' sameLength.symm,
        ← Std.OrientedOrd.eq_swap]
    · exact LexOrder.compare_append_of_apart starts starts' _ _

theorem below_replicate_zero_append {digits : List Nat} (below : ∀ digit ∈ digits, digit < 10) (count : Nat) :
    ∀ digit ∈ List.replicate count 0 ++ digits, digit < 10 := by
  intro digit member
  rcases List.mem_append.mp member with padding | inDigits
  · rw [List.eq_of_mem_replicate padding]
    omega
  · exact below digit inDigits

theorem below_append_replicate_zero {digits : List Nat} (below : ∀ digit ∈ digits, digit < 10) (count : Nat) :
    ∀ digit ∈ digits ++ List.replicate count 0, digit < 10 := by
  intro digit member
  rcases List.mem_append.mp member with inDigits | padding
  · exact below digit inDigits
  · rw [List.eq_of_mem_replicate padding]
    omega

def fraction (digits : List Nat) : ℚ :=
  value digits / 10 ^ digits.length

@[simp] theorem fraction_nil : fraction [] = 0 := by
  simp [fraction]

theorem fraction_append_replicate (digits : List Nat) (count : Nat) :
    fraction (digits ++ List.replicate count 0) = fraction digits := by
  rw [fraction, fraction, value_append_replicate, List.length_append, List.length_replicate, pow_add]
  push_cast
  field_simp

theorem fraction_replicate_append (count : Nat) (digits : List Nat) :
    fraction (List.replicate count 0 ++ digits) = fraction digits / 10 ^ count := by
  rw [fraction, fraction, value_append, value_replicate_zero, Nat.zero_mul, Nat.zero_add,
    List.length_append, List.length_replicate, pow_add]
  field_simp

theorem fraction_rdropWhile (digits : List Nat) :
    fraction (digits.rdropWhile (· == 0)) = fraction digits := by
  have zeros : digits.rtakeWhile (· == 0) = List.replicate (digits.rtakeWhile (· == 0)).length 0 :=
    List.eq_replicate_iff.mpr ⟨rfl, fun digit member => by simpa using List.mem_rtakeWhile_imp member⟩
  conv_rhs => rw [← @List.rdropWhile_append_rtakeWhile _ (· == 0) digits, zeros]
  rw [fraction_append_replicate]

theorem rdropWhile_zero_append_replicate (digits : List Nat) :
    digits.rdropWhile (· == 0) ++ List.replicate (digits.length - (digits.rdropWhile (· == 0)).length) 0 = digits := by
  have zeros : digits.rtakeWhile (· == 0) = List.replicate (digits.rtakeWhile (· == 0)).length 0 :=
    List.eq_replicate_iff.mpr ⟨rfl, fun digit member => by simpa using List.mem_rtakeWhile_imp member⟩
  have whole := @List.rdropWhile_append_rtakeWhile _ (· == 0) digits
  have lengths := congrArg List.length whole
  rw [List.length_append] at lengths
  rw [show digits.length - (digits.rdropWhile (· == 0)).length = (digits.rtakeWhile (· == 0)).length by omega,
    ← zeros, whole]

theorem fraction_lt_one {digits : List Nat} (below : ∀ digit ∈ digits, digit < 10) :
    fraction digits < 1 := by
  have bound := value_lt below
  rw [fraction, div_lt_one (by positivity)]
  exact_mod_cast bound

theorem le_fraction {digit : Nat} (rest : List Nat) (nonzero : digit ≠ 0) :
    1 / 10 ≤ fraction (digit :: rest) := by
  have bound := pow_le_value rest nonzero
  rw [fraction, List.length_cons, pow_succ, le_div_iff₀ (by positivity)]
  have cast : ((10 ^ rest.length : Nat) : ℚ) ≤ value (digit :: rest) := by exact_mod_cast bound
  push_cast at cast
  linarith

theorem compare_fraction {digits digits' : List Nat} (below : ∀ digit ∈ digits, digit < 10)
    (below' : ∀ digit ∈ digits', digit < 10) (last : digits.getLast? ≠ some 0)
    (last' : digits'.getLast? ≠ some 0) :
    compare (fraction digits) (fraction digits') = compare digits digits' := by
  have sameLength : digits.length + digits'.length = digits'.length + digits.length := by omega
  have paddedBelow : ∀ {front : List Nat} (count : Nat), (∀ digit ∈ front, digit < 10) →
      ∀ digit ∈ front ++ List.replicate count 0, digit < 10 := by
    intro front count frontBelow digit member
    rcases List.mem_append.mp member with inFront | padding
    · exact frontBelow digit inFront
    · rw [List.eq_of_mem_replicate padding]
      omega
  have lengths : (digits ++ List.replicate digits'.length 0).length =
      (digits' ++ List.replicate digits.length 0).length := by simp [sameLength]
  rw [← fraction_append_replicate digits digits'.length,
    ← fraction_append_replicate digits' digits.length, fraction, fraction, ← lengths,
    ← cmp_eq_compare, StrictMono.cmp_map_eq (fun _ _ lt => div_lt_div_of_pos_right lt (by positivity)),
    StrictMono.cmp_map_eq Nat.strictMono_cast, cmp_eq_compare,
    compare_value_of_length_eq (paddedBelow _ below) (paddedBelow _ below') lengths,
    compare_padded last last' sameLength]

theorem compare_scientific {f f' : ℚ} {exponent exponent' : ℤ} (low : 1 / 10 ≤ f) (high : f < 1)
    (low' : 1 / 10 ≤ f') (high' : f' < 1) :
    compare (f * 10 ^ exponent) (f' * 10 ^ exponent') =
      (compare exponent exponent').then (compare f f') := by
  have below : ∀ {g g' : ℚ} {e e' : ℤ}, g < 1 → 1 / 10 ≤ g' → e < e' → g * 10 ^ e < g' * 10 ^ e' := by
    intro g g' e e' gHigh gLow fewer
    calc g * 10 ^ e < 10 ^ e := by
          by_cases nonneg : 0 ≤ g
          · exact mul_lt_of_lt_one_left (by positivity) gHigh
          · have negative : g * 10 ^ e < 0 := mul_neg_of_neg_of_pos (by linarith) (by positivity)
            linarith [show (0 : ℚ) < 10 ^ e by positivity]
      _ ≤ 10 ^ (e' - 1) := zpow_le_zpow_right₀ (by norm_num) (by omega)
      _ = 1 / 10 * 10 ^ e' := by rw [zpow_sub₀ (by norm_num), zpow_one]; ring
      _ ≤ g' * 10 ^ e' := mul_le_mul_of_nonneg_right gLow (by positivity)
  rcases lt_trichotomy exponent exponent' with fewer | same | more
  · rw [compare_lt_iff_lt.mpr (below high low' fewer), compare_lt_iff_lt.mpr fewer]
    rfl
  · subst same
    rw [Std.compare_self, Ordering.eq_then, ← cmp_eq_compare, ← cmp_eq_compare]
    exact StrictMono.cmp_map_eq (fun _ _ lt => mul_lt_mul_of_pos_right lt (by positivity)) f f'
  · rw [compare_gt_iff_gt.mpr (below high' low more), compare_gt_iff_gt.mpr more]
    rfl

end DecimalDigits
