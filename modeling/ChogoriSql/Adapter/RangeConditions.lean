import ChogoriSql.Adapter.KeyRecord

/-! `K2Adapter::HandleRangeConditions`: the key conditions of a scan are written into the start
and end records of the SKV query.  The conditions are sorted by key field; one cursor index
`start_idx` is shared by both records and accepts a condition on the current or the next
field.  Equality writes both records, GE and GT the start record, LE and LT the end record,
BETWEEN both; every condition but a written equality stays in the filter. -/

namespace ChogoriSql

namespace K2Adapter

structure RangeCursor where
  startRecord : SKVRecord
  endRecord : SKVRecord
  startIdx : Nat
  didBranch : Bool
  leftoverExprs : List PgExpr

def fieldMap (fields : List SchemaField) (name : String) : Nat :=
  (fields.zipIdx.drop SKV_FIELD_OFFSET).foldl
    (fun found entry => if entry.1.name = name then entry.2 else found) 0

def childrenByColName (children : List PgExpr) : Except String (List (String × PgExpr)) :=
  children.mapM fun child =>
    match child.getArgs.head? with
    | some (.colRef _ name) => .ok (name, child)
    | _ => .error "First argument should be column reference"

def sortedArgs (fields : List SchemaField) (children : List (String × PgExpr)) : List PgExpr :=
  (fields.drop SKV_FIELD_OFFSET).flatMap fun field =>
    (children.filter fun child => child.1 = field.name).map Prod.snd

def adjacent (startIdx curIdx : Nat) : Bool :=
  curIdx == startIdx || curIdx == startIdx + 1

namespace RangeCursor

def keep (cursor : RangeCursor) (pgExpr : PgExpr) : RangeCursor :=
  { cursor with leftoverExprs := cursor.leftoverExprs ++ [pgExpr] }

def branch (cursor : RangeCursor) : RangeCursor :=
  { cursor with didBranch := true }

def boundStep (toStart : Bool) (curIdx : Nat) (value : SqlValue) (cursor : RangeCursor) :
    RangeCursor :=
  if value.isInteger && adjacent cursor.startIdx curIdx then
    if toStart then
      { cursor with
        startIdx := curIdx
        startRecord := serializeValueToSKVRecord value cursor.startRecord }
    else
      { cursor with
        startIdx := curIdx
        endRecord := serializeValueToSKVRecord value cursor.endRecord }
  else cursor.branch

def leStep (curIdx : Nat) (value : SqlValue) (cursor : RangeCursor) : Except String RangeCursor :=
  if value.isInteger && adjacent cursor.startIdx curIdx then
    if value.isMaxInteger then .ok { cursor.branch with startIdx := curIdx }
    else value.upperBound.map fun bound =>
      { cursor with
        startIdx := curIdx
        endRecord := serializeValueToSKVRecord bound cursor.endRecord }
  else .ok cursor.branch

def eqStep (curIdx : Nat) (value : SqlValue) (cursor : RangeCursor) : RangeCursor :=
  { cursor with
    startIdx := curIdx
    startRecord := serializeValueToSKVRecord value cursor.startRecord
    endRecord := serializeValueToSKVRecord value cursor.endRecord }

def betweenStep (curIdx : Nat) (val1 val2 : SqlValue) (cursor : RangeCursor) :
    Except String RangeCursor :=
  if val1.isInteger && val2.isInteger then do
    let order ← val1.compare val2
    let (lower, higher) := if order > 0 then (val2, val1) else (val1, val2)
    if adjacent cursor.startIdx curIdx then
      .ok { cursor with
        startIdx := curIdx
        startRecord := serializeValueToSKVRecord lower cursor.startRecord
        endRecord := serializeValueToSKVRecord higher cursor.endRecord }
    else .ok cursor.branch
  else .ok cursor.branch

end RangeCursor

def secondValue (args : List PgExpr) : Except String SqlValue :=
  match args[1]? with
  | some (PgExpr.constant value) => .ok value
  | _ => .error "Second argument should be value"

def rangeStep (fields : List SchemaField) (cursor : RangeCursor) (pgExpr : PgExpr) :
    Except String RangeCursor :=
  if cursor.didBranch then .ok (cursor.keep pgExpr)
  else
    let args := pgExpr.getArgs
    let curIdx := fieldMap fields ((args.head?.bind PgExpr.attrName?).getD "")
    match pgExpr.opcode with
    | .PG_EXPR_EQ => (secondValue args).map fun value =>
        if adjacent cursor.startIdx curIdx then cursor.eqStep curIdx value
        else cursor.branch.keep pgExpr
    | .PG_EXPR_GE | .PG_EXPR_GT => (secondValue args).map fun value =>
        (cursor.boundStep true curIdx value).keep pgExpr
    | .PG_EXPR_LT => (secondValue args).map fun value =>
        (cursor.boundStep false curIdx value).keep pgExpr
    | .PG_EXPR_LE => do
        let value ← secondValue args
        (cursor.leStep curIdx value).map fun cursor => cursor.keep pgExpr
    | .PG_EXPR_BETWEEN =>
        if args.length != 3 then .error "Between operator should have 3 arguments"
        else
          match args[1]?, args[2]? with
          | some (PgExpr.constant val1), some (PgExpr.constant val2) =>
              if val1.isNull || val2.isNull then .error "Between operator should not have null values"
              else (cursor.betweenStep curIdx val1 val2).map fun cursor => cursor.keep pgExpr
          | _, _ => .error "Second and third arguments should be value"
    | _ => .ok (cursor.branch.keep pgExpr)

/-- `K2Adapter::HandleRangeConditions(range_conds, leftover_exprs, start, end)`, with the out
parameters returned: the status, the leftover conditions and the two records. -/
def handleRangeConditions (rangeConds : Option PgExpr) (leftoverExprs : List PgExpr)
    (start finish : SKVRecord) : Except String (Status × List PgExpr × SKVRecord × SKVRecord) :=
  match rangeConds with
  | none => .ok (Status.OK, leftoverExprs, start, finish)
  | some conds =>
      if conds.opcode != .PG_EXPR_AND then
        .ok ({ code := .invalidCommand
               message := "Only AND top-level condition is supported in range expression" },
          leftoverExprs, start, finish)
      else if conds.getArgs.isEmpty then .ok (Status.OK, leftoverExprs, start, finish)
      else do
        let children ← childrenByColName conds.getArgs
        let fields := start.schema.fields
        let initial : RangeCursor :=
          { startRecord := start.seekField SKV_FIELD_OFFSET
            endRecord := finish.seekField SKV_FIELD_OFFSET
            startIdx := SKV_FIELD_OFFSET - 1
            didBranch := false
            leftoverExprs := leftoverExprs }
        let cursor ← (sortedArgs fields children).foldlM (rangeStep fields) initial
        .ok (Status.OK, cursor.leftoverExprs, cursor.startRecord, cursor.endRecord)

def scanRangeRecords (request : KeyedRequest) (schemaResult : Except K2Status Schema)
    (rangeConds : Option PgExpr) : Except String (Status × List PgExpr × SKVRecord × SKVRecord) := do
  let (startRecord, startStatus) ← makeSKVRecordWithKeysSerialized request schemaResult false
  let (endRecord, endStatus) ← makeSKVRecordWithKeysSerialized request schemaResult false
  if !startStatus.isOk || !endStatus.isOk then
    .ok (if startStatus.isOk then endStatus else startStatus, [], startRecord, endRecord)
  else handleRangeConditions rangeConds [] startRecord endRecord

end K2Adapter

def Schema.fieldIndex (schema : Schema) (name : String) : Nat :=
  schema.fields.findIdx fun field => field.name = name

def rangeConditionHolds (schema : Schema) (row : List (Option FieldValue)) : PgExpr → Bool
  | .operator op [.colRef _ name, .constant value] =>
      match row.getD (schema.fieldIndex name) none, value.toFieldValue with
      | some x, some v =>
          match op with
          | .PG_EXPR_EQ => x.compare v == .eq
          | .PG_EXPR_GE => x.compare v != .lt
          | .PG_EXPR_GT => x.compare v == .gt
          | .PG_EXPR_LE => x.compare v != .gt
          | .PG_EXPR_LT => x.compare v == .lt
          | _ => false
      | _, _ => false
  | .operator .PG_EXPR_BETWEEN [.colRef _ name, .constant low, .constant high] =>
      match row.getD (schema.fieldIndex name) none, low.toFieldValue, high.toFieldValue with
      | some x, some l, some h => l.compare x != .gt && x.compare h != .gt
      | _, _, _ => false
  | _ => false

def twoKeySchema : Schema :=
  { fields := [{ type := .INT64T, name := "tableId" }, { type := .INT64T, name := "indexId" },
      { type := .INT64T, name := "a" }, { type := .INT64T, name := "b" }]
    partitionKeyFields := [0, 1, 2, 3] }

def twoKeyScan (tableOid : UInt32) : KeyedRequest :=
  { collectionName := "db", tableId := "t", baseTableOid := tableOid, indexOid := 0,
    schemaVersion := 1, keyColumnValues := [{ idx := 0 }, { idx := 1 }] }

def comparison (opcode : Opcode) (attrNum : Int) (column : String) (value : Int64) : PgExpr :=
  .operator opcode [.colRef attrNum column, .constant (.int value)]

def twoKeyRow (tableOid : UInt32) (a b : Int64) : List (Option FieldValue) :=
  [some (oidField tableOid), some (oidField 0), some (.int64T a), some (.int64T b)]

theorem handleRangeConditions_drops_rows_above_equality {fieldCompare : FieldValue → FieldValue → Ordering}
    (fieldOrder : FieldOrder fieldCompare) {scan : List SKVRecord → SKVRecord → SKVRecord → List SKVRecord}
    (ranged : RangeScan fieldCompare scan) (tableOid : UInt32) (low equal value : Int64)
    (inBound : low ≤ value) (aboveEqual : equal < value) :
    [comparison .PG_EXPR_GE 1 "a" low, comparison .PG_EXPR_EQ 2 "b" equal].all
        (rangeConditionHolds twoKeySchema (twoKeyRow tableOid value equal)) = true ∧
      ∃ leftover startRecord endRecord,
        K2Adapter.scanRangeRecords (twoKeyScan tableOid) (.ok twoKeySchema)
            (some (.operator .PG_EXPR_AND
              [comparison .PG_EXPR_GE 1 "a" low, comparison .PG_EXPR_EQ 2 "b" equal])) =
          .ok (Status.OK, leftover, startRecord, endRecord) ∧
        ∀ stored : List SKVRecord, ∀ record ∈ stored,
          record.fieldData = twoKeyRow tableOid value equal → record ∉ scan stored startRecord endRecord := by
  have lowBound : low.toInt ≤ value.toInt := Int64.le_iff_toInt_le.mp inBound
  have equalBelow : equal.toInt < value.toInt := Int64.lt_iff_toInt_lt.mp aboveEqual
  refine ⟨?_, [comparison .PG_EXPR_GE 1 "a" low],
    ⟨"db", twoKeySchema, [some (oidField tableOid), some (oidField 0), some (.int64T low),
      some (.int64T equal)]⟩,
    ⟨"db", twoKeySchema, [some (oidField tableOid), some (oidField 0), some (.int64T equal)]⟩,
    rfl, ?_⟩
  · have geHolds : compare value.toInt low.toInt ≠ .lt := by
      rw [Ne, compare_lt_iff_lt]
      omega
    have indexA : twoKeySchema.fieldIndex "a" = 2 := by decide
    have indexB : twoKeySchema.fieldIndex "b" = 3 := by decide
    simp [twoKeyRow, rangeConditionHolds, comparison, indexA, indexB, SqlValue.toFieldValue,
      geHolds]
  · -- the end record reads `tableId, indexId, equal`, and the row's `a` is above `equal`
    intro stored record _ fields returned
    have aAbove : Ord.compare value.toInt equal.toInt = .gt := compare_gt_iff_gt.mpr equalBelow
    have inRange := ((ranged.mem_iff _ _ _ record).mp returned).2
    rw [fields] at inRange
    simp [InScanRange, PrefixOrder.InRange, PrefixOrder.AtOrBefore, Schema.keyComparators,
      twoKeySchema, twoKeyRow, SchemaField.compareValues, oidField, fieldOrder.int64T, aAbove] at inRange

theorem handleRangeConditions_drops_rows_above_equality_seven :
    FieldOrder FieldValue.compare ∧ RangeScan FieldValue.compare (scanInKeyOrder FieldValue.compare) ∧
      (5 : Int64) ≤ 7 ∧ (3 : Int64) < 7 ∧
      ([comparison .PG_EXPR_GE 1 "a" 5, comparison .PG_EXPR_EQ 2 "b" 3].all
          (rangeConditionHolds twoKeySchema (twoKeyRow 16384 7 3)) = true ∧
        ∃ leftover startRecord endRecord,
          K2Adapter.scanRangeRecords (twoKeyScan 16384) (.ok twoKeySchema)
              (some (.operator .PG_EXPR_AND
                [comparison .PG_EXPR_GE 1 "a" 5, comparison .PG_EXPR_EQ 2 "b" 3])) =
            .ok (Status.OK, leftover, startRecord, endRecord) ∧
          ∀ stored : List SKVRecord, ∀ record ∈ stored, record.fieldData = twoKeyRow 16384 7 3 →
            record ∉ scanInKeyOrder FieldValue.compare stored startRecord endRecord) :=
  ⟨FieldValue.compare_fieldOrder, scanInKeyOrder_rangeScan FieldValue.compare, by decide, by decide,
    handleRangeConditions_drops_rows_above_equality FieldValue.compare_fieldOrder
      (scanInKeyOrder_rangeScan FieldValue.compare) 16384 5 3 7 (by decide) (by decide)⟩

end ChogoriSql
