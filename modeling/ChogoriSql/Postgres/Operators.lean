import ChogoriSql.Postgres.Types

/-! The rows of `catalog/pg_operator.dat` the model uses: each operator's restriction
estimator (`oprrest`, which `get_oprrest` returns) and the boolean function behind it
(`oprcode`, from `utils/adt`).  Operators are strict: a NULL argument gives NULL. -/

namespace ChogoriSql

inductive OprRest where
  | F_EQSEL
  | F_SCALARLTSEL
  | F_SCALARLESEL
  | F_SCALARGTSEL
  | F_SCALARGESEL
  | otherSel
  deriving DecidableEq, Repr

structure PgOperatorEntry where
  oprrest : OprRest
  oprcode : Datum → Datum → Bool

def Datum.getChar (datum : Datum) : UInt8 :=
  datum.toWord.toUInt8

theorem UInt8.toInt8_toInt_eq (byte : UInt8) :
    byte.toInt8.toInt = if byte.toNat < 128 then (byte.toNat : Int) else byte.toNat - 256 := by
  have signed := BitVec.toInt_eq_toNat_cond byte.toBitVec
  rw [UInt8.toNat_toBitVec] at signed
  have viaBits : byte.toInt8.toInt = byte.toBitVec.toInt := rfl
  rw [viaBits, signed]
  split_ifs <;> first | rfl | omega

@[simp] theorem Datum.getChar_word (byte : UInt8) : (Datum.word byte.toUInt64).getChar = byte := by
  simp [Datum.getChar, Datum.toWord]

def Datum.getInt64 (datum : Datum) : Int :=
  datum.toWord.toInt64.toInt

def pgOperator : Nat → Option PgOperatorEntry
  | 92 => some ⟨.F_EQSEL, fun a b => a.getChar == b.getChar⟩
  | 630 => some ⟨.otherSel, fun a b => a.getChar != b.getChar⟩
  | 631 => some ⟨.F_SCALARLTSEL, fun a b => a.getChar < b.getChar⟩
  | 632 => some ⟨.F_SCALARLESEL, fun a b => a.getChar ≤ b.getChar⟩
  | 633 => some ⟨.F_SCALARGTSEL, fun a b => a.getChar > b.getChar⟩
  | 634 => some ⟨.F_SCALARGESEL, fun a b => a.getChar ≥ b.getChar⟩
  | 410 => some ⟨.F_EQSEL, fun a b => a.getInt64 == b.getInt64⟩
  | 411 => some ⟨.otherSel, fun a b => a.getInt64 != b.getInt64⟩
  | 412 => some ⟨.F_SCALARLTSEL, fun a b => a.getInt64 < b.getInt64⟩
  | 413 => some ⟨.F_SCALARGTSEL, fun a b => a.getInt64 > b.getInt64⟩
  | 414 => some ⟨.F_SCALARLESEL, fun a b => a.getInt64 ≤ b.getInt64⟩
  | 415 => some ⟨.F_SCALARGESEL, fun a b => a.getInt64 ≥ b.getInt64⟩
  | _ => none

def getOprrest (opno : Nat) : OprRest :=
  match pgOperator opno with
  | some entry => entry.oprrest
  | none => .otherSel

end ChogoriSql
