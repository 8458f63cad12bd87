import Mathlib

/-! IEEE-754 comparisons read off bit patterns.  A binary format of `width` bits with
`fractionWidth` trailing fraction bits is compared the way the hardware `<` and `==` do:
every comparison with a NaN is false, and the two zeros are equal. -/

namespace Ieee754

def magnitude (width bits : Nat) : Nat :=
  bits % 2 ^ (width - 1)

def signBit (width bits : Nat) : Bool :=
  bits / 2 ^ (width - 1) % 2 = 1

def isNaN (width fractionWidth bits : Nat) : Bool :=
  (2 ^ (width - 1 - fractionWidth) - 1) * 2 ^ fractionWidth < magnitude width bits

def numericKey (width bits : Nat) : Int :=
  if signBit width bits then -(magnitude width bits : Int) else magnitude width bits

def lt (width fractionWidth a b : Nat) : Bool :=
  !isNaN width fractionWidth a && !isNaN width fractionWidth b &&
    decide (numericKey width a < numericKey width b)

def eq (width fractionWidth a b : Nat) : Bool :=
  !isNaN width fractionWidth a && !isNaN width fractionWidth b &&
    decide (numericKey width a = numericKey width b)

end Ieee754
