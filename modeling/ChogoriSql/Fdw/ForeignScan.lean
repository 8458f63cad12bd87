import ChogoriSql.Fdw.Pushdown
import ChogoriSql.Adapter.Filter

/-! A foreign scan's pushed filter end to end: the clauses PostgreSQL asks the scan to
enforce, what they mean on a row, the filter `handleReadOp` installs for them
(`K2BindScanKeys`, then `HandleRangeConditions` and the filter construction), and what that
filter says of the SKV record the insert path stored for the row. -/

namespace ChogoriSql

structure ColumnDesc where
  attnum : Int
  name : String
  typid : Nat
  deriving DecidableEq, Repr

def columnNameOf (columns : List ColumnDesc) (attnum : Int) : String :=
  ((columns.find? fun column => column.attnum == attnum).map ColumnDesc.name).getD ""

/-- The value of a clause argument on a row (`none` inside for NULL): a column of this query
level, a constant, or a parameter of the binding; `none` for a node not evaluated here. -/
def argumentValue (params : List ParamExternData) (row : Int → Option Datum) :
    PgNode → Option (Option Datum)
  | .var _ varattno _ _ 0 => some (row varattno)
  | .const _ constisnull constvalue => some (if constisnull then none else some constvalue)
  | .param paramid _ =>
      params[paramid - 1]?.map fun prm => if prm.isnull then none else some prm.value
  | _ => none

def clauseHolds (params : List ParamExternData) (row : Int → Option Datum) : PgNode → Bool
  | .opExpr opno [left, right] =>
      match pgOperator opno, argumentValue params row left, argumentValue params row right with
      | some entry, some (some a), some (some b) => entry.oprcode a b
      | _, _, _ => false
  | _ => false

def storedField (columns : List ColumnDesc) (row : Int → Option Datum) (name : String) :
    Option (Option FieldValue) := do
  let column ← columns.find? fun column => column.name == name
  let entity ← K2PgFindTypeEntity column.typid
  let datum := row column.attnum
  some (SqlValue.ofDatum entity (datum.getD (.word 0)) datum.isNone).toFieldValue

def installedFilter (columns : List ColumnDesc) (params : List ParamExternData)
    (remoteExprs : List PgNode) (keyAttnums nonKeyAttnums : List Int) (request : KeyedRequest)
    (schema : Schema) : Except String (Option K2Expression) := do
  let (rangeConds, whereConds) ←
    K2BindScanKeys (columnNameOf columns) params remoteExprs keyAttnums nonKeyAttnums
  let (status, leftoverExprs, _, _) ← K2Adapter.scanRangeRecords request (.ok schema) rangeConds
  if status.isOk then K2Adapter.scanFilterExpression whereConds leftoverExprs
  else .error status.message

def charColumns : List ColumnDesc :=
  [⟨1, "k", INT8OID⟩, ⟨2, "x", CHAROID⟩]

def charSchema : Schema :=
  { fields := [{ type := .INT64T, name := "tableId" }, { type := .INT64T, name := "indexId" },
      { type := .INT64T, name := "k" }, { type := .INT64T, name := "x" }]
    partitionKeyFields := [0, 1, 2] }

def charScan (tableOid : UInt32) : KeyedRequest :=
  { collectionName := "db", tableId := "t", baseTableOid := tableOid, indexOid := 0,
    schemaVersion := 1, keyColumnValues := [{ idx := 0 }] }

def charRow (key : Int64) (value : UInt8) (attnum : Int) : Option Datum :=
  if attnum = 1 then some (.word key.toUInt64)
  else if attnum = 2 then some (.word value.toUInt64)
  else none

def charBelow (bound : UInt8) : PgNode :=
  .opExpr 631 [.var 1 2 CHAROID (-1) 0, .const CHAROID false (.word bound.toUInt64)]

def charBelowFilter (bound : UInt8) : K2Expression :=
  .mk .LT [.reference "x", .literal (.int64T (Int64.ofInt bound.toInt8.toInt))] []

theorem clauseHolds_charBelow (key : Int64) (value bound : UInt8) :
    clauseHolds [] (charRow key value) (charBelow bound) = decide (value < bound) := by
  simp [clauseHolds, charBelow, argumentValue, charRow, pgOperator]

theorem K2BindScanKeys_charBelow (bound : UInt8) :
    K2BindScanKeys (columnNameOf charColumns) [] [charBelow bound] [1] [2] =
      .ok (some (.operator .PG_EXPR_AND []), some (.operator .PG_EXPR_AND
        [.operator .PG_EXPR_LT [.colRef 2 "x", .constant (.int (Int64.ofInt bound.toUInt64.toUInt8.toInt8.toInt))]])) := by
  unfold K2BindScanKeys
  rfl

theorem installedFilter_charBelow (tableOid : UInt32) (bound : UInt8) :
    installedFilter charColumns [] [charBelow bound] [1] [2] (charScan tableOid) charSchema =
      .ok (some (charBelowFilter bound)) := by
  unfold installedFilter
  -- the pushed constant is the low byte of the datum, which is `bound` again
  rw [K2BindScanKeys_charBelow, UInt8.toUInt8_toUInt64]
  rfl

section Semantics

variable {eval : (String → Option (Option FieldValue)) → K2Expression → Except String Bool}

theorem eval_charBelowFilter (semantics : FilterSemantics eval) (key : Int64) (value bound : UInt8) :
    eval (storedField charColumns (charRow key value)) (charBelowFilter bound) =
      .ok (decide (value.toInt8.toInt < bound.toInt8.toInt)) := by
  have stored : storedField charColumns (charRow key value) "x" =
      some (some (.int64T (Int64.ofInt value.toInt8.toInt))) := by
    simp [storedField, charColumns, charRow, K2PgFindTypeEntity, K2SqlTypeEntityTable,
      SqlValue.ofDatum, DatumToK2Pg.convert, SqlValue.toFieldValue, Datum.toWord, INT8OID,
      CHAROID, BOOLOID, BYTEAOID]
  rw [charBelowFilter, semantics.compare _ _ _ _ _ (by simp) stored]
  simp [compareField, compareField.orderedAs]
  rw [Bool.eq_iff_iff]
  simp [compare_lt_iff_lt]

theorem installedFilter_drops_ascii_below_high_char (semantics : FilterSemantics eval)
    (tableOid : UInt32) (key : Int64) (value bound : UInt8) (ascii : value < 128) (high : 128 ≤ bound) :
    clauseHolds [] (charRow key value) (charBelow bound) = true ∧
      ∃ filter,
        installedFilter charColumns [] [charBelow bound] [1] [2] (charScan tableOid) charSchema =
          .ok (some filter) ∧
        eval (storedField charColumns (charRow key value)) filter = .ok false := by
  have valueNat : value.toNat < 128 := ascii
  have boundNat : 128 ≤ bound.toNat := high
  have boundBelow : bound.toNat < 256 := bound.toNat_lt
  refine ⟨?_, charBelowFilter bound, installedFilter_charBelow tableOid bound, ?_⟩
  · -- PostgreSQL compares the bytes unsigned
    rw [clauseHolds_charBelow]
    simpa using UInt8.lt_iff_toNat_lt.mpr (by omega)
  · -- the filter reads `value` as itself and `bound` as a negative number
    rw [eval_charBelowFilter semantics, UInt8.toInt8_toInt_eq, UInt8.toInt8_toInt_eq]
    simp only [valueNat, if_true, Nat.not_lt.mpr boundNat, if_false]
    have notBelow : ¬ (value.toNat : Int) < bound.toNat - 256 := by omega
    simp [notBelow]

end Semantics

theorem installedFilter_drops_ascii_below_high_char_a :
    FilterSemantics evalFilter ∧ (97 : UInt8) < 128 ∧ (128 : UInt8) ≤ 200 ∧
      (clauseHolds [] (charRow 1 97) (charBelow 200) = true ∧
        ∃ filter,
          installedFilter charColumns [] [charBelow 200] [1] [2] (charScan 16384) charSchema =
            .ok (some filter) ∧
          evalFilter (storedField charColumns (charRow 1 97)) filter = .ok false) :=
  ⟨evalFilter_filterSemantics, by decide, by decide,
    installedFilter_drops_ascii_below_high_char evalFilter_filterSemantics 16384 1 97 200 (by decide)
      (by decide)⟩

end ChogoriSql
