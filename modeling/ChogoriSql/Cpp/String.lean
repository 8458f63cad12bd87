import ChogoriSql.Numeric.Hex

/-! What the C++ standard library does with a string that an integer is read from:
`std::string::substr`, and `std::stoul` and `std::stoi` in base 16, which read through
`strtoul` and `strtol` of the C library.  A string is its list of characters, which is what a
`std::string` of ASCII text holds; `unsigned long` has 64 bits and `int` 32, as on x86-64 Linux.

The digits `Hex.encodeByte` writes read back through these functions as the bytes' value. -/

namespace Cpp

inductive ConversionError where
  | invalidArgument
  | outOfRange
  deriving DecidableEq, Repr

def substr (str : String) (pos count : Nat) : Except ConversionError String :=
  if str.length < pos then .error .outOfRange
  else .ok (String.ofList ((str.toList.drop pos).take count))

def isSpace (c : Char) : Bool :=
  c == ' ' || c == '\t' || c == '\n' || c == '\x0b' || c == '\x0c' || c == '\r'

def hexDigitValue (c : Char) : Option Nat :=
  if '0' ≤ c ∧ c ≤ '9' then some (c.toNat - '0'.toNat)
  else if 'a' ≤ c ∧ c ≤ 'f' then some (c.toNat - 'a'.toNat + 10)
  else if 'A' ≤ c ∧ c ≤ 'F' then some (c.toNat - 'A'.toNat + 10)
  else none

def isHexDigit (c : Char) : Bool :=
  (hexDigitValue c).isSome

def hexStep (value : Nat) (digit : Char) : Nat :=
  16 * value + (hexDigitValue digit).getD 0

def hexValue (digits : List Char) : Nat :=
  digits.foldl hexStep 0

def signOf : Option Char → Bool × Nat
  | some '-' => (true, 1)
  | some '+' => (false, 1)
  | _ => (false, 0)

def hexPrefixLength : List Char → Nat
  | '0' :: x :: digit :: _ => if (x == 'x' || x == 'X') && isHexDigit digit then 2 else 0
  | _ => 0

def scanHex (str : List Char) : Option (Bool × Nat × Nat) :=
  let blanks := (str.takeWhile isSpace).length
  let afterBlanks := str.drop blanks
  let sign := signOf afterBlanks.head?
  let afterSign := afterBlanks.drop sign.2
  let prefixLength := hexPrefixLength afterSign
  let digits := (afterSign.drop prefixLength).takeWhile isHexDigit
  if digits.isEmpty then none
  else some (sign.1, hexValue digits, blanks + sign.2 + prefixLength + digits.length)

def stoul (str : String) : Except ConversionError (UInt64 × Nat) :=
  match scanHex str.toList with
  | none => .error .invalidArgument
  | some (negative, magnitude, pos) =>
      if 2 ^ 64 ≤ magnitude then .error .outOfRange
      else .ok (if negative then -UInt64.ofNat magnitude else UInt64.ofNat magnitude, pos)

def stoi (str : String) : Except ConversionError (Int32 × Nat) :=
  match scanHex str.toList with
  | none => .error .invalidArgument
  | some (negative, magnitude, pos) =>
      let value : Int := if negative then -magnitude else magnitude
      if value < -2 ^ 31 ∨ 2 ^ 31 ≤ value then .error .outOfRange
      else .ok (Int32.ofInt value, pos)

theorem substr_of_le {str : String} {pos : Nat} (count : Nat) (within : pos ≤ str.length) :
    substr str pos count = .ok (String.ofList ((str.toList.drop pos).take count)) := by
  unfold substr
  rw [if_neg (Nat.not_lt.mpr within)]

theorem substr_segment {str : String} {before part after : List Char}
    (split : str.toList = before ++ part ++ after) :
    substr str before.length part.length = .ok (String.ofList part) := by
  have within : before.length ≤ str.length := by
    rw [← String.length_toList, split, List.length_append, List.length_append]
    omega
  rw [substr_of_le _ within, split, List.append_assoc, List.drop_left, List.take_left]

theorem digit_facts : ∀ c ∈ Hex.digits,
    isSpace c = false ∧ isHexDigit c = true ∧ signOf (some c) = (false, 0) ∧
      (c == 'x' || c == 'X') = false := by
  have spelled : Hex.digits =
      ['0', '1', '2', '3', '4', '5', '6', '7', '8', '9', 'a', 'b', 'c', 'd', 'e', 'f'] := rfl
  intro c member
  simp only [spelled, List.mem_cons, List.not_mem_nil, or_false] at member
  rcases member with rfl | rfl | rfl | rfl | rfl | rfl | rfl | rfl | rfl | rfl | rfl | rfl | rfl |
    rfl | rfl | rfl <;> decide

theorem hexDigitValue_digit : ∀ n, n < 16 → hexDigitValue (Hex.digit n) = some n := by
  decide

theorem digit_mem : ∀ n, n < 16 → Hex.digit n ∈ Hex.digits := by
  decide

theorem encodeBytes_mem_digits (bytes : List UInt8) :
    ∀ c ∈ bytes.flatMap Hex.encodeByte, c ∈ Hex.digits := by
  intro c member
  obtain ⟨byte, -, inByte⟩ := List.mem_flatMap.mp member
  have bound := byte.toNat_lt
  simp only [Hex.encodeByte, List.mem_cons, List.not_mem_nil, or_false] at inByte
  rcases inByte with rfl | rfl
  · exact digit_mem _ (by omega)
  · exact digit_mem _ (by omega)

theorem foldl_hexStep_encodeBytes (bytes : List UInt8) (start : Nat) :
    (bytes.flatMap Hex.encodeByte).foldl hexStep start =
      bytes.foldl (fun value byte => 256 * value + byte.toNat) start := by
  induction bytes generalizing start with
  | nil => rfl
  | cons byte rest ih =>
      have bound := byte.toNat_lt
      have high := hexDigitValue_digit (byte.toNat / 16) (by omega)
      have low := hexDigitValue_digit (byte.toNat % 16) (by omega)
      simp only [List.flatMap_cons, List.foldl_append, Hex.encodeByte, List.foldl_cons,
        List.foldl_nil, hexStep, high, low, Option.getD_some]
      rw [← ih]
      congr 1
      omega

theorem hexValue_encodeBytes (bytes : List UInt8) :
    hexValue (bytes.flatMap Hex.encodeByte) =
      bytes.foldl (fun value byte => 256 * value + byte.toNat) 0 :=
  foldl_hexStep_encodeBytes bytes 0

theorem hexPrefixLength_of_digits {str : List Char} (digits : ∀ c ∈ str, c ∈ Hex.digits) :
    hexPrefixLength str = 0 := by
  unfold hexPrefixLength
  split
  · next x digit rest =>
      have notX := (digit_facts x (digits x (by simp))).2.2.2
      rw [notX, Bool.false_and, if_neg Bool.false_ne_true]
  · rfl

theorem scanHex_digits {str : List Char} (nonempty : str ≠ [])
    (digits : ∀ c ∈ str, c ∈ Hex.digits) :
    scanHex str = some (false, hexValue str, str.length) := by
  obtain ⟨first, rest, rfl⟩ := List.exists_cons_of_ne_nil nonempty
  have firstFacts := digit_facts first (digits first List.mem_cons_self)
  have noBlanks : (first :: rest).takeWhile isSpace = [] := by
    simp [firstFacts.1]
  have allDigits : (first :: rest).takeWhile isHexDigit = first :: rest :=
    List.takeWhile_eq_self_iff.mpr fun c member => (digit_facts c (digits c member)).2.1
  unfold scanHex
  simp only [noBlanks, List.length_nil, List.drop_zero, List.head?_cons, firstFacts.2.2.1,
    hexPrefixLength_of_digits digits, allDigits, List.isEmpty_cons, Bool.false_eq_true,
    if_false, Nat.zero_add]

theorem stoul_digits {str : List Char} (nonempty : str ≠ [])
    (digits : ∀ c ∈ str, c ∈ Hex.digits) (small : hexValue str < 2 ^ 64) :
    stoul (String.ofList str) = .ok (UInt64.ofNat (hexValue str), str.length) := by
  unfold stoul
  rw [String.toList_ofList, scanHex_digits nonempty digits]
  simp only [if_neg (Nat.not_le.mpr small), if_false, Bool.false_eq_true]

theorem stoi_digits {str : List Char} (nonempty : str ≠ [])
    (digits : ∀ c ∈ str, c ∈ Hex.digits) (small : hexValue str < 2 ^ 31) :
    stoi (String.ofList str) = .ok (Int32.ofInt (hexValue str), str.length) := by
  unfold stoi
  rw [String.toList_ofList, scanHex_digits nonempty digits]
  have inRange : ¬((hexValue str : Int) < -2 ^ 31 ∨ 2 ^ 31 ≤ (hexValue str : Int)) := by
    omega
  simp only [Bool.false_eq_true, if_false, if_neg inRange]

end Cpp
