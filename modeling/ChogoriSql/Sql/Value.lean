import ChogoriSql.Numeric.Ieee754

/-! `SqlValue` of `entities/value.h`: the constants PostgreSQL hands to the connector.
The C++ class keeps a type tag, a null flag and a union; here a value is either a NULL
of some type or one payload.  Float payloads are kept as their IEEE bit patterns and
string payloads as their bytes. -/

namespace ChogoriSql

inductive ValueType where
  | BOOL
  | INT
  | FLOAT
  | DOUBLE
  | SLICE
  | UNKNOWN
  deriving DecidableEq, Repr

inductive SqlValue where
  | null (type : ValueType)
  | bool (value : Bool)
  | int (value : Int64)
  | float (bits : UInt32)
  | double (bits : UInt64)
  | slice (bytes : List UInt8)
  deriving DecidableEq, Repr

namespace SqlValue

def valueType : SqlValue → ValueType
  | null type => type
  | bool _ => .BOOL
  | int _ => .INT
  | float _ => .FLOAT
  | double _ => .DOUBLE
  | slice _ => .SLICE

def isNull : SqlValue → Bool
  | null _ => true
  | _ => false

def isInteger (value : SqlValue) : Bool :=
  value.valueType == .INT

def isMaxInteger : SqlValue → Bool
  | int value => value == Int64.maxValue
  | _ => false

def upperBound : SqlValue → Except String SqlValue
  | int value => .ok (int (value + 1))
  | _ => .error "Unsupported data type"

def compareBytes : List UInt8 → List UInt8 → Int
  | [], [] => 0
  | [], _ :: _ => -1
  | _ :: _, [] => 1
  | a :: left, b :: right =>
      if a < b then -1 else if b < a then 1 else compareBytes left right

def threeWay (equal less : Bool) : Int :=
  if equal then 0 else if less then -1 else 1

def compare : SqlValue → SqlValue → Except String Int
  | bool a, bool b => .ok (threeWay (a == b) (!a && b))
  | int a, int b => .ok (threeWay (a == b) (a < b))
  | float a, float b =>
      .ok (threeWay (Ieee754.eq 32 23 a.toNat b.toNat) (Ieee754.lt 32 23 a.toNat b.toNat))
  | double a, double b =>
      .ok (threeWay (Ieee754.eq 64 52 a.toNat b.toNat) (Ieee754.lt 64 52 a.toNat b.toNat))
  | slice a, slice b => .ok (compareBytes a b)
  | _, _ => .error "Unknown data type"

end SqlValue

end ChogoriSql
