import Mathlib

/-! Bit strings, most significant bit first: the bits of a number at a fixed width, the number a
bit string spells, the bits of a byte string, and lexicographic order.  Fixed-width bit strings
compare as the numbers they spell, and byte strings compare as their bits. -/

namespace BitString

def ofNat : Nat → Nat → List Bool
  | 0, _ => []
  | width + 1, x => x.testBit width :: ofNat width x

def toNat : List Bool → Nat
  | [] => 0
  | bit :: rest => bit.toNat * 2 ^ rest.length + toNat rest

def ofByte (byte : UInt8) : List Bool :=
  ofNat 8 byte.toNat

def ofBytes (bytes : List UInt8) : List Bool :=
  bytes.flatMap ofByte

def bytesOfNat : Nat → Nat → List UInt8
  | 0, _ => []
  | count + 1, x => UInt8.ofNat (x / 256 ^ count) :: bytesOfNat count x

@[simp] theorem length_ofNat (width x : Nat) : (ofNat width x).length = width := by
  induction width with
  | zero => rfl
  | succ width ih => simp [ofNat, ih]

theorem ofNat_congr {width x y : Nat} (same : ∀ i < width, x.testBit i = y.testBit i) :
    ofNat width x = ofNat width y := by
  induction width with
  | zero => rfl
  | succ width ih =>
      rw [ofNat, ofNat, same width (Nat.lt_succ_self width), ih fun i below => same i (by omega)]

theorem ofNat_mod (width x : Nat) : ofNat width (x % 2 ^ width) = ofNat width x :=
  ofNat_congr fun i below => by simp [Nat.testBit_mod_two_pow, below]

theorem ofNat_add (high low x : Nat) :
    ofNat (high + low) x = ofNat high (x / 2 ^ low) ++ ofNat low x := by
  induction high with
  | zero => simp [ofNat]
  | succ high ih =>
      rw [Nat.succ_add, ofNat, ih, ofNat, Nat.testBit_div_two_pow]
      rfl

theorem ofNat_zero (width : Nat) : ofNat width 0 = List.replicate width false := by
  induction width with
  | zero => rfl
  | succ width ih => simp [ofNat, ih, List.replicate_succ]

theorem ofNat_pad {width x : Nat} (small : x < 2 ^ width) (pad : Nat) :
    ofNat (pad + width) x = List.replicate pad false ++ ofNat width x := by
  rw [ofNat_add, Nat.div_eq_of_lt small, ofNat_zero]

theorem ofNat_eq_append_cons {width x : Nat} {high low : List Bool} {bit : Bool}
    (spelled : ofNat width x = high ++ bit :: low) : x.testBit low.length = bit := by
  have width_eq : width = high.length + (low.length + 1) := by
    have := congrArg List.length spelled
    simp at this
    omega
  rw [width_eq, ofNat_add, ofNat] at spelled
  have split := List.append_inj spelled (by simp)
  exact (List.cons.inj split.2).1

@[simp] theorem toNat_nil : toNat [] = 0 := rfl

theorem toNat_cons (bit : Bool) (rest : List Bool) :
    toNat (bit :: rest) = bit.toNat * 2 ^ rest.length + toNat rest := rfl

theorem toNat_lt (bits : List Bool) : toNat bits < 2 ^ bits.length := by
  induction bits with
  | nil => simp
  | cons bit rest ih =>
      rw [toNat_cons, List.length_cons, pow_succ]
      cases bit <;> simp <;> omega

theorem toNat_append (high low : List Bool) :
    toNat (high ++ low) = toNat high * 2 ^ low.length + toNat low := by
  induction high with
  | nil => simp
  | cons bit rest ih =>
      rw [List.cons_append, toNat_cons, toNat_cons, ih, List.length_append, pow_add]
      ring

@[simp] theorem toNat_replicate_false (count : Nat) : toNat (List.replicate count false) = 0 := by
  induction count with
  | zero => rfl
  | succ count ih => simp [List.replicate_succ, toNat_cons, ih]

theorem toNat_ofNat (width x : Nat) : toNat (ofNat width x) = x % 2 ^ width := by
  induction width with
  | zero => simp [ofNat, Nat.mod_one]
  | succ width ih =>
      rw [ofNat, toNat_cons, length_ofNat, ih, Nat.toNat_testBit, Nat.mod_pow_succ]
      ring

theorem ofNat_toNat (bits : List Bool) : ofNat bits.length (toNat bits) = bits := by
  induction bits with
  | nil => rfl
  | cons bit rest ih =>
      have below := toNat_lt rest
      have top : (toNat (bit :: rest)) / 2 ^ rest.length = bit.toNat := by
        rw [toNat_cons, Nat.add_comm, Nat.add_mul_div_right _ _ (Nat.two_pow_pos _),
          Nat.div_eq_of_lt below, Nat.zero_add]
      have rest_mod : toNat (bit :: rest) % 2 ^ rest.length = toNat rest := by
        rw [toNat_cons, Nat.add_comm, Nat.add_mul_mod_self_right, Nat.mod_eq_of_lt below]
      rw [List.length_cons, ofNat, ← ofNat_mod, rest_mod, ih, Nat.testBit_eq_decide_div_mod_eq, top]
      cases bit <;> rfl

theorem toNat_map_not (bits : List Bool) :
    toNat (bits.map not) = 2 ^ bits.length - 1 - toNat bits := by
  induction bits with
  | nil => rfl
  | cons bit rest ih =>
      have below := toNat_lt rest
      rw [List.map_cons, toNat_cons, toNat_cons, List.length_map, ih, List.length_cons, pow_succ]
      cases bit <;> simp <;> omega

theorem ofNat_complement {width x : Nat} (small : x < 2 ^ width) :
    ofNat width (2 ^ width - 1 - x) = (ofNat width x).map not := by
  have spelled := ofNat_toNat ((ofNat width x).map not)
  rw [List.length_map, length_ofNat, toNat_map_not, length_ofNat, toNat_ofNat,
    Nat.mod_eq_of_lt small] at spelled
  exact spelled

theorem ofNat_or (width x y : Nat) :
    ofNat width (x ||| y) = List.zipWith (· || ·) (ofNat width x) (ofNat width y) := by
  induction width with
  | zero => rfl
  | succ width ih => simp [ofNat, ih]

theorem ofNat_and (width x y : Nat) :
    ofNat width (x &&& y) = List.zipWith (· && ·) (ofNat width x) (ofNat width y) := by
  induction width with
  | zero => rfl
  | succ width ih => simp [ofNat, ih]

theorem ofNat_xor (width x y : Nat) :
    ofNat width (x ^^^ y) = List.zipWith (· ^^ ·) (ofNat width x) (ofNat width y) := by
  induction width with
  | zero => rfl
  | succ width ih => simp [ofNat, ih]

theorem ofNat_two_pow {width bit : Nat} (below : bit < width) :
    ofNat width (2 ^ bit) = List.replicate (width - bit - 1) false ++ true :: List.replicate bit false := by
  obtain ⟨pad, rfl⟩ : ∃ pad, width = pad + (bit + 1) := ⟨width - bit - 1, by omega⟩
  have small : 2 ^ bit < 2 ^ (bit + 1) := Nat.pow_lt_pow_right (by norm_num) (by omega)
  have padding : pad + (bit + 1) - bit - 1 = pad := by omega
  rw [ofNat_pad small, padding, ofNat, Nat.testBit_two_pow_self, ← ofNat_mod, Nat.mod_self,
    ofNat_zero]

theorem zipWith_xor_zeros (bits : List Bool) :
    List.zipWith (· ^^ ·) bits (List.replicate bits.length false) = bits := by
  induction bits with
  | nil => rfl
  | cons bit rest ih => simp [List.replicate_succ, ih]

theorem zipWith_xor_single (front : List Bool) (bit : Bool) (back : List Bool) :
    List.zipWith (· ^^ ·) (front ++ bit :: back)
        (List.replicate front.length false ++ true :: List.replicate back.length false) =
      front ++ (!bit) :: back := by
  induction front with
  | nil => simp [zipWith_xor_zeros]
  | cons head rest ih => simp [List.replicate_succ, ih]

theorem zipWith_or_ones (count : Nat) {bits : List Bool} (fits : count ≤ bits.length) :
    List.zipWith (· || ·) bits
        (List.replicate count true ++ List.replicate (bits.length - count) false) =
      List.replicate count true ++ bits.drop count := by
  induction count generalizing bits with
  | zero =>
      simp only [List.replicate_zero, List.nil_append, Nat.sub_zero, List.drop_zero]
      induction bits with
      | nil => rfl
      | cons bit rest ih => simp [List.replicate_succ, ih]
  | succ count ih =>
      cases bits with
      | nil => simp at fits
      | cons bit rest =>
          simp only [List.length_cons, Nat.succ_sub_succ, List.replicate_succ, List.cons_append,
            List.zipWith_cons_cons, Bool.or_true, List.drop_succ_cons]
          rw [ih (by simp at fits; omega)]

theorem zipWith_and_zeros (count : Nat) {bits : List Bool} (fits : count ≤ bits.length) :
    List.zipWith (· && ·) bits
        (List.replicate count false ++ List.replicate (bits.length - count) true) =
      List.replicate count false ++ bits.drop count := by
  induction count generalizing bits with
  | zero =>
      simp only [List.replicate_zero, List.nil_append, Nat.sub_zero, List.drop_zero]
      induction bits with
      | nil => rfl
      | cons bit rest ih => simp [List.replicate_succ, ih]
  | succ count ih =>
      cases bits with
      | nil => simp at fits
      | cons bit rest =>
          simp only [List.length_cons, Nat.succ_sub_succ, List.replicate_succ, List.cons_append,
            List.zipWith_cons_cons, Bool.and_false, List.drop_succ_cons]
          rw [ih (by simp at fits; omega)]

@[simp] theorem length_ofByte (byte : UInt8) : (ofByte byte).length = 8 :=
  length_ofNat 8 _

@[simp] theorem ofBytes_nil : ofBytes [] = [] := rfl

@[simp] theorem ofBytes_cons (byte : UInt8) (bytes : List UInt8) :
    ofBytes (byte :: bytes) = ofByte byte ++ ofBytes bytes := rfl

@[simp] theorem ofBytes_append (front back : List UInt8) :
    ofBytes (front ++ back) = ofBytes front ++ ofBytes back := by
  simp [ofBytes, List.flatMap_append]

@[simp] theorem length_ofBytes (bytes : List UInt8) : (ofBytes bytes).length = 8 * bytes.length := by
  induction bytes with
  | nil => rfl
  | cons byte bytes ih => simp [ih]; omega

theorem ofBytes_replicate_zeros (count : Nat) :
    ofBytes (List.replicate count 0) = List.replicate (8 * count) false := by
  induction count with
  | zero => rfl
  | succ count ih =>
      rw [List.replicate_succ, ofBytes_cons, ih, Nat.mul_succ, Nat.add_comm, List.replicate_add]
      rfl

theorem ofBytes_take (count : Nat) (bytes : List UInt8) :
    ofBytes (bytes.take count) = (ofBytes bytes).take (8 * count) := by
  induction bytes generalizing count with
  | nil => simp
  | cons byte bytes ih =>
      cases count with
      | zero => simp
      | succ count =>
          have rest : 8 * (count + 1) - 8 = 8 * count := by omega
          have whole : (ofByte byte).take (8 * (count + 1)) = ofByte byte :=
            List.take_of_length_le (by rw [length_ofByte]; omega)
          rw [List.take_succ_cons, ofBytes_cons, ofBytes_cons, ih, List.take_append, length_ofByte,
            whole, rest]

theorem ofByte_injective : Function.Injective ofByte := by
  intro first second same
  have spelled := congrArg toNat same
  simp only [ofByte, toNat_ofNat] at spelled
  rw [Nat.mod_eq_of_lt first.toNat_lt, Nat.mod_eq_of_lt second.toNat_lt] at spelled
  exact UInt8.toNat_inj.mp spelled

theorem ofByte_not (byte : UInt8) : ofByte (~~~byte) = (ofByte byte).map not := by
  unfold ofByte
  rw [UInt8.toNat_not]
  exact ofNat_complement byte.toNat_lt

theorem ofBytes_map_not (bytes : List UInt8) :
    ofBytes (bytes.map (~~~ ·)) = (ofBytes bytes).map not := by
  induction bytes with
  | nil => rfl
  | cons byte bytes ih => simp [ofByte_not, ih]

theorem ofByte_or (first second : UInt8) :
    ofByte (first ||| second) = List.zipWith (· || ·) (ofByte first) (ofByte second) := by
  unfold ofByte
  rw [UInt8.toNat_or, ofNat_or]

theorem ofByte_and (first second : UInt8) :
    ofByte (first &&& second) = List.zipWith (· && ·) (ofByte first) (ofByte second) := by
  unfold ofByte
  rw [UInt8.toNat_and, ofNat_and]

theorem ofByte_xor (first second : UInt8) :
    ofByte (first ^^^ second) = List.zipWith (· ^^ ·) (ofByte first) (ofByte second) := by
  unfold ofByte
  rw [UInt8.toNat_xor, ofNat_xor]

theorem and_two_pow_eq_zero_iff {byte : UInt8} {high low : List Bool} {bit : Bool}
    (spelled : ofByte byte = high ++ bit :: low) :
    byte &&& UInt8.ofNat (2 ^ low.length) = 0 ↔ bit = false := by
  have below : low.length < 8 := by
    have total := congrArg List.length spelled
    simp at total
    omega
  have small : 2 ^ low.length < 2 ^ 8 := Nat.pow_lt_pow_right (by norm_num) below
  rw [← UInt8.toNat_inj, UInt8.toNat_and, UInt8.toNat_ofNat', Nat.mod_eq_of_lt small,
    Nat.and_two_pow, ofNat_eq_append_cons spelled]
  cases bit <;> simp

theorem ofByte_xor_two_pow {byte : UInt8} {high low : List Bool} {bit : Bool}
    (spelled : ofByte byte = high ++ bit :: low) :
    ofByte (byte ^^^ UInt8.ofNat (2 ^ low.length)) = high ++ (!bit) :: low := by
  have total : high.length + (low.length + 1) = 8 := by
    have := congrArg List.length spelled
    simp at this
    omega
  have small : 2 ^ low.length < 2 ^ 8 := Nat.pow_lt_pow_right (by norm_num) (by omega)
  have mask : ofByte (UInt8.ofNat (2 ^ low.length)) =
      List.replicate high.length false ++ true :: List.replicate low.length false := by
    rw [ofByte, UInt8.toNat_ofNat', Nat.mod_eq_of_lt small, ofNat_two_pow (by omega)]
    congr 2
    omega
  rw [ofByte_xor, spelled, mask, zipWith_xor_single]

theorem ofByte_of_ofBytes_cons {byte : UInt8} {bytes : List UInt8} {front back : List Bool}
    {bit : Bool} (short : front.length < 8) (spelled : ofBytes (byte :: bytes) = front ++ bit :: back) :
    ofByte byte = front ++ bit :: back.take (7 - front.length) := by
  have firstEight := congrArg (List.take 8) spelled
  rw [ofBytes_cons, List.take_left' (length_ofByte byte)] at firstEight
  rw [firstEight, List.take_append, List.take_of_length_le (by omega),
    show 8 - front.length = 7 - front.length + 1 by omega, List.take_succ_cons]

theorem ofBytes_bytesOfNat (count x : Nat) : ofBytes (bytesOfNat count x) = ofNat (8 * count) x := by
  induction count with
  | zero => rfl
  | succ count ih =>
      have shift : (256 : Nat) ^ count = 2 ^ (8 * count) := by rw [pow_mul]; norm_num
      rw [bytesOfNat, ofBytes_cons, ih, ofByte, UInt8.toNat_ofNat', ofNat_mod, shift,
        Nat.mul_succ, Nat.add_comm, ofNat_add]

theorem length_bytesOfNat (count x : Nat) : (bytesOfNat count x).length = count := by
  induction count with
  | zero => rfl
  | succ count ih => simp [bytesOfNat, ih]

theorem ofBytes_eq_ones {bytes : List UInt8} {ones : Nat} {rest : List Bool}
    (spelled : ofBytes bytes = List.replicate ones true ++ false :: rest) :
    ∃ byte after tail, bytes = List.replicate (ones / 8) 0xff ++ byte :: after ∧
      ofByte byte = List.replicate (ones % 8) true ++ false :: tail ∧ rest = tail ++ ofBytes after := by
  induction bytes generalizing ones with
  | nil =>
      cases ones <;> simp at spelled
  | cons first bytes ih =>
      rw [ofBytes_cons] at spelled
      have firstBits : ofByte first = (List.replicate ones true ++ false :: rest).take 8 := by
        rw [← spelled, List.take_left' (length_ofByte first)]
      have restBits : ofBytes bytes = (List.replicate ones true ++ false :: rest).drop 8 := by
        rw [← spelled, List.drop_left' (length_ofByte first)]
      by_cases whole : 8 ≤ ones
      · have allOnes : ofByte first = ofByte 0xff := by
          rw [firstBits, List.take_append_of_le_length (by simpa using whole), List.take_replicate,
            Nat.min_eq_left whole]
          rfl
        have later : ofBytes bytes = List.replicate (ones - 8) true ++ false :: rest := by
          rw [restBits, List.drop_append_of_le_length (by simpa using whole), List.drop_replicate]
        obtain ⟨byte, after, tail, layout, byteBits, restEq⟩ := ih later
        refine ⟨byte, after, tail, ?_, ?_, restEq⟩
        · have count : ones / 8 = (ones - 8) / 8 + 1 := by omega
          rw [ofByte_injective allOnes, layout, count, List.replicate_succ, List.cons_append]
        · have count : ones % 8 = (ones - 8) % 8 := by omega
          rw [byteBits, count]
      · have short : ones < 8 := by omega
        refine ⟨first, bytes, rest.take (7 - ones), ?_, ?_, ?_⟩
        · simp [Nat.div_eq_of_lt short]
        · rw [firstBits, List.take_append, List.take_replicate, Nat.min_eq_right short.le,
            Nat.mod_eq_of_lt short, List.length_replicate]
          have remaining : 8 - ones = (7 - ones) + 1 := by omega
          rw [remaining, List.take_succ_cons]
        · rw [restBits, List.drop_append, List.drop_replicate, Nat.sub_eq_zero_of_le short.le,
            List.replicate_zero, List.nil_append, List.length_replicate]
          have remaining : 8 - ones = (7 - ones) + 1 := by omega
          rw [remaining, List.drop_succ_cons, List.take_append_drop]

theorem compare_append_of_length_eq {α : Type} [Ord α] {front front' : List α}
    (same : front.length = front'.length) (back back' : List α) :
    compare (front ++ back) (front' ++ back') = (compare front front').then (compare back back') := by
  induction front generalizing front' with
  | nil =>
      cases front' with
      | nil => rfl
      | cons _ _ => simp at same
  | cons head rest ih =>
      cases front' with
      | nil => simp at same
      | cons head' rest' =>
          rw [List.cons_append, List.cons_append, List.compare_cons_cons, List.compare_cons_cons,
            ih (by simpa using same), Ordering.then_assoc]

theorem compare_append_common (common back back' : List Bool) :
    compare (common ++ back) (common ++ back') = compare back back' := by
  rw [compare_append_of_length_eq rfl, Std.compare_self]
  rfl

theorem compare_top_bit (bit bit' : Bool) {low low' width : Nat} (below : low < 2 ^ width)
    (below' : low' < 2 ^ width) :
    (compare bit bit').then (compare low low') =
      compare (bit.toNat * 2 ^ width + low) (bit'.toNat * 2 ^ width + low') := by
  cases bit <;> cases bit' <;>
    simp only [Bool.toNat_false, Bool.toNat_true, Nat.zero_mul, Nat.one_mul, Nat.zero_add] <;>
    simp only [compare, compareOfLessAndEq] <;> split_ifs <;> first | rfl | omega

theorem compare_eq_compare_toNat {bits bits' : List Bool} (same : bits.length = bits'.length) :
    compare bits bits' = compare (toNat bits) (toNat bits') := by
  induction bits generalizing bits' with
  | nil =>
      cases bits' with
      | nil => rfl
      | cons _ _ => simp at same
  | cons bit rest ih =>
      cases bits' with
      | nil => simp at same
      | cons bit' rest' =>
          have length : rest.length = rest'.length := by simpa using same
          have below' : toNat rest' < 2 ^ rest.length := length ▸ toNat_lt rest'
          rw [List.compare_cons_cons, ih length, toNat_cons, toNat_cons, ← length]
          exact compare_top_bit bit bit' (toNat_lt rest) below'

theorem compare_ofNat (width x y : Nat) :
    compare (ofNat width x) (ofNat width y) = compare (x % 2 ^ width) (y % 2 ^ width) := by
  rw [compare_eq_compare_toNat (by simp), toNat_ofNat, toNat_ofNat]

theorem compare_map_not {bits bits' : List Bool} (same : bits.length = bits'.length) :
    compare (bits.map not) (bits'.map not) = compare bits' bits := by
  induction bits generalizing bits' with
  | nil =>
      cases bits' with
      | nil => rfl
      | cons _ _ => simp at same
  | cons bit rest ih =>
      cases bits' with
      | nil => simp at same
      | cons bit' rest' =>
          rw [List.map_cons, List.map_cons, List.compare_cons_cons, List.compare_cons_cons,
            ih (by simpa using same)]
          cases bit <;> cases bit' <;> rfl

theorem compare_ofByte (byte byte' : UInt8) : compare (ofByte byte) (ofByte byte') = compare byte byte' := by
  rw [ofByte, ofByte, compare_ofNat, Nat.mod_eq_of_lt byte.toNat_lt, Nat.mod_eq_of_lt byte'.toNat_lt]
  simp only [compare, compareOfLessAndEq, UInt8.lt_iff_toNat_lt, ← UInt8.toNat_inj]

theorem compare_ofBytes (bytes bytes' : List UInt8) :
    compare (ofBytes bytes) (ofBytes bytes') = compare bytes bytes' := by
  induction bytes generalizing bytes' with
  | nil =>
      cases bytes' with
      | nil => rfl
      | cons byte' rest' =>
          rw [ofBytes_nil, ofBytes_cons]
          cases bits : ofByte byte' with
          | nil => simpa using congrArg List.length bits
          | cons _ _ => rfl
  | cons byte rest ih =>
      cases bytes' with
      | nil =>
          rw [ofBytes_nil, ofBytes_cons]
          cases bits : ofByte byte with
          | nil => simpa using congrArg List.length bits
          | cons _ _ => rfl
      | cons byte' rest' =>
          rw [ofBytes_cons, ofBytes_cons, compare_append_of_length_eq (by simp), compare_ofByte,
            ih, List.compare_cons_cons]

end BitString
