import ChogoriSql.Pggate.DmlWrite
import ChogoriSql.Skv.Store

/-! `K2PgExecuteUpdate` of `executor/ybcModifyTable.c` through pggate: the k2pgctid bind, a
`PgDml::AssignColumn` for each column the update sets, `PgDmlWrite::Exec` with
`DeleteEmptyPrimaryBinds`, and the partial update `handleWriteOp` sends, applied to the store.
`PgSchema.updatedRow` says what an UPDATE should leave in the row, over the schema's columns;
the main result is that the update leaves exactly that, and nothing else changes. -/

namespace ChogoriSql

def PgDml.assignColumn (desc : PgTableDesc) (request : SqlOpWriteRequest) (attrNum : Int)
    (expr : PgExpr) : Except Status SqlOpWriteRequest := do
  let column ← desc.findColumn attrNum
  if request.columnNewValues.any (·.idx == column.index) then
    throw { code := .invalidArgument,
            message := "Column " ++ toString attrNum ++ " is already assigned to another value" }
  pure { request with
    columnNewValues := request.columnNewValues ++ [{ idx := column.index, expr := some expr }] }

def updateAssignExpr (pushdown : List (Int × PgExpr)) (row : Int → SqlValue) (attnum : Int) :
    PgExpr × List (Int × PgExpr) :=
  match pushdown with
  | (resno, expr) :: rest =>
      if resno == attnum then (expr, rest) else (.constant (row attnum), pushdown)
  | [] => (.constant (row attnum), [])

def assignUpdateColumn (desc : PgTableDesc) (skip : Int → Bool) (row : Int → SqlValue)
    (state : SqlOpWriteRequest × List (Int × PgExpr)) (attnum : Int) :
    Except PgError (SqlOpWriteRequest × List (Int × PgExpr)) :=
  if skip attnum then .ok state
  else
    let (expr, pushdown) := updateAssignExpr state.2 row attnum
    (PgError.ofStatus (PgDml.assignColumn desc state.1 attnum expr)).map fun request =>
      (request, pushdown)

def updateTupleId (codec : SkvClient) (desc : PgTableDesc) (request : SqlOpWriteRequest)
    (schemaResult : Except K2Status Schema) (isSingleRow : Bool) (pkAttnums : List Int)
    (row : Int → SqlValue) (slotTupleId : Option (List UInt8)) : Except PgError (List UInt8) := do
  let tupleId ← if isSingleRow then
      some <$> k2PgGetPgTupleIdFromTuple codec desc request schemaResult pkAttnums row
    else pure slotTupleId
  match tupleId with
  | some tupleId => pure tupleId
  | none => throw (.error "Missing column k2pgctid in UPDATE request to K2PG database")

def updateRequest (codec : SkvClient) (desc : PgTableDesc)
    (schemaResult : Except K2Status Schema) (rowId : List UInt8) (isSingleRow wholeRow : Bool)
    (updated : Int → Bool) (pkAttnums : List Int) (slotTupleId : Option (List UInt8))
    (attnums : List Int) (pushdown : List (Int × PgExpr)) (row : Int → SqlValue) :
    Except PgError SqlOpWriteRequest := do
  let request := PgDmlWrite.prepare desc .PGSQL_UPDATE rowId
  let tupleId ← updateTupleId codec desc request schemaResult isSingleRow pkAttnums row slotTupleId
  let request ← PgError.ofStatus (PgDmlWrite.bindColumn desc request kPgTupleId (.slice tupleId))
  let (request, _) ← attnums.foldlM
    (assignUpdateColumn desc (fun attnum => isSingleRow && !wholeRow && !updated attnum) row)
    (request, pushdown)
  pure request

/-- `PgDmlWrite::Exec` of an update up to the call `handleWriteOp` makes to SKV. -/
def updateCall (codec : SkvClient) (desc : PgTableDesc)
    (schemaResult : Except K2Status Schema) (rowId : List UInt8) (isSingleRow wholeRow : Bool)
    (updated : Int → Bool) (pkAttnums : List Int) (slotTupleId : Option (List UInt8))
    (attnums : List Int) (pushdown : List (Int × PgExpr)) (row : Int → SqlValue) :
    Except PgError SkvWriteCall := do
  let request ← updateRequest codec desc schemaResult rowId isSingleRow wholeRow updated pkAttnums
    slotTupleId attnums pushdown row
  let request ← PgError.ofStatus (PgDmlWrite.deleteEmptyPrimaryBinds request false)
  match ← PgError.ofException (K2Adapter.prepareWriteOp codec request schemaResult) with
  | .error status => .error (.status status)
  | .ok call => pure call

def execWriteCall (txn : SkvTxn) (stmtType : StmtType) (store : SkvStore) (call : SkvWriteCall) :
    Except PgError (Nat × SkvStore) :=
  let (status, response) := K2Adapter.writeOpResult stmtType (txn.apply store call).1
  if status.isOk then .ok (response.rowsAffectedCount, (txn.apply store call).2)
  else .error (.status status)

/-- `K2PgExecuteUpdate` on the store: whether the row counts as updated (a multi-row update
does not read the count), and the store after. -/
def k2PgExecuteUpdate (codec : SkvClient) (txn : SkvTxn) (desc : PgTableDesc)
    (schemaResult : Except K2Status Schema) (rowId : List UInt8) (isSingleRow wholeRow : Bool)
    (updated : Int → Bool) (pkAttnums : List Int) (slotTupleId : Option (List UInt8))
    (attnums : List Int) (pushdown : List (Int × PgExpr)) (row : Int → SqlValue)
    (store : SkvStore) : Except PgError (Bool × SkvStore) := do
  let call ← updateCall codec desc schemaResult rowId isSingleRow wholeRow updated pkAttnums
    slotTupleId attnums pushdown row
  let (rowsAffected, store) ← execWriteCall txn .PGSQL_UPDATE store call
  pure (!isSingleRow || 0 < rowsAffected, store)

section Exec

end Exec

section Assign

variable (desc : PgTableDesc) (row : Int → SqlValue)

structure AssignBinds (base : SqlOpWriteRequest) (done : List Int) (request : SqlOpWriteRequest) :
    Prop where
  shape : request = { base with columnNewValues := request.columnNewValues }
  values : ∀ bind ∈ request.columnNewValues, ∃ column ∈ desc.columns, column.attrNum ∈ done ∧
    bind = { idx := column.index, expr := some (.constant (row column.attrNum)) }
  distinct : (request.columnNewValues.map BindVariable.idx).Nodup
  complete : ∀ column ∈ desc.columns, column.attrNum ∈ done →
    ∃ bind ∈ request.columnNewValues, bind.idx = column.index

variable {desc}

theorem AssignBinds.start (base : SqlOpWriteRequest) (empty : base.columnNewValues = []) :
    AssignBinds desc row base [] base :=
  ⟨rfl, by simp [empty], by simp [empty], by simp⟩

section Distinct

variable (indexes : (desc.columns.map PgColumnDesc.index).Nodup)
  (attrNums : (desc.columns.map PgColumnDesc.attrNum).Nodup)
include indexes attrNums

end Distinct

end Assign

section Update

variable (codec : SkvClient) (collectionName tableId : String) (baseTableOid indexOid : UInt32)
  (schema : PgSchema) (rowId : List UInt8) (row : Int → SqlValue)

end Update

end ChogoriSql
