import ChogoriSql.Pggate.Update

/-! How a failed write reaches PostgreSQL.  `PgGate_DmlExecWriteOp` passes the status of
`PgDmlWrite::Exec` over as a `K2PgStatus`, null when it is OK, and `HandleK2PgStatus` raises it
with the SQLSTATE that `K2PgStatusPgsqlError` derives from the status's error payloads.  The
statuses `K2Adapter` makes from SKV codes carry no payload, and nothing on the way adds one. -/

namespace ChogoriSql

/-- `K2PgStatusPgsqlError`: the SQLSTATE of the PostgreSQL payload; if there is none, or it is
the generic internal error, one derived from the transaction payload; else
`K2PG_INTERNAL_ERROR`. -/
def k2PgStatusPgsqlError (status : Status) : Nat :=
  let result := status.pgsqlErrorData.getD K2PG_INTERNAL_ERROR
  if result == K2PG_INTERNAL_ERROR then
    match status.transactionErrorData with
    | some .kAborted | some .kReadRestartRequired | some .kConflict => K2PG_T_R_SERIALIZATION_FAILURE
    | some .kSnapshotTooOld => K2PG_SNAPSHOT_TOO_OLD
    | _ => K2PG_INTERNAL_ERROR
  else result

/-- `HandleK2PgStatus`: nothing for an OK status, else the `ereport(ERROR)` with its SQLSTATE. -/
def handleK2PgStatus (status : Status) : Option Nat :=
  if status.isOk then none else some (k2PgStatusPgsqlError status)

def k2PgExecuteInsertOn (codec : SkvClient) (txn : SkvTxn) (desc : PgTableDesc)
    (schemaResult : Except K2Status Schema) (rowId : List UInt8) (pkAttnums attnums : List Int)
    (row : Int → SqlValue) (store : SkvStore) : Except PgError (List UInt8 × SkvStore) := do
  let (tupleId, call) ← k2PgExecuteInsert codec desc schemaResult rowId pkAttnums attnums row
  let (_, store) ← execWriteCall txn .PGSQL_INSERT store call
  pure (tupleId, store)

section Payloads

@[simp] theorem k2StatusToK2PgStatus_errors (status : K2Status) :
    (K2Adapter.k2StatusToK2PgStatus status).errors = [] := by
  unfold K2Adapter.k2StatusToK2PgStatus
  split <;> rfl

theorem writeOpResult_errors (stmtType : StmtType) (writeStatus : K2Status) :
    (K2Adapter.writeOpResult stmtType writeStatus).1.errors = [] := by
  unfold K2Adapter.writeOpResult
  split
  · simp
  · split <;> simp

theorem handleK2PgStatus_of_errors_nil (status : Status) (failed : status.isOk = false)
    (noPayload : status.errors = []) : handleK2PgStatus status = some K2PG_INTERNAL_ERROR := by
  simp [handleK2PgStatus, failed, k2PgStatusPgsqlError, Status.pgsqlErrorData,
    Status.transactionErrorData, noPayload]

theorem execWriteCall_error (txn : SkvTxn) (stmtType : StmtType) (store : SkvStore)
    (call : SkvWriteCall) (error : PgError) (failed : execWriteCall txn stmtType store call = .error error) :
    ∃ status, error = .status status ∧ handleK2PgStatus status = some K2PG_INTERNAL_ERROR := by
  simp only [execWriteCall] at failed
  split at failed
  · cases failed
  · rename_i notOk
    cases failed
    exact ⟨_, rfl, handleK2PgStatus_of_errors_nil _ (by simpa using notOk) (writeOpResult_errors _ _)⟩

theorem execWriteCall_accepted (txn : SkvTxn) (stmtType : StmtType) (store : SkvStore)
    (call : SkvWriteCall) (accepted : (txn.apply store call).1 = K2Status.OK) :
    execWriteCall txn stmtType store call = .ok (1, (txn.apply store call).2) := by
  simp [execWriteCall, accepted, K2Adapter.writeOpResult, K2Status.is2xxOK, K2Status.OK,
    K2Adapter.k2StatusToK2PgStatus, Status.isOk, Status.OK]

theorem execWriteCall_insert_refused (txn : SkvTxn) (store : SkvStore) (call : SkvWriteCall)
    (refused : (txn.apply store call).1 = K2Status.ConditionFailed) :
    execWriteCall txn .PGSQL_INSERT store call =
      .error (.status (K2Adapter.k2StatusToK2PgStatus K2Status.ConditionFailed)) := by
  simp [execWriteCall, refused, K2Adapter.writeOpResult, K2Status.is2xxOK, K2Status.ConditionFailed]
  rfl

theorem write_notExists_present (txn : SkvTxn) (store : SkvStore) (record : SKVRecord)
    (present : (store.rows record.getKey).isSome) :
    txn.write store record false .NotExists = (K2Status.ConditionFailed, store) :=
  txn.write_refused _ _ _ _ (by simp [SkvStore.refuses, present])

end Payloads

section Insert

variable (codec : SkvClient) (collectionName tableId : String) (baseTableOid indexOid : UInt32)
  (schema : PgSchema) (rowId : List UInt8) (row : Int → SqlValue)

theorem k2PgExecuteInsert_duplicate_internal_error (txn : SkvTxn) (pkAttnums attnums : List Int)
    (store : SkvStore)
    (ordersNodup : (schema.columns.map ColumnSchema.order).Nodup)
    (attnumsReal : ∀ attnum ∈ attnums, attnum ∈ schema.columns.map ColumnSchema.order ∧
      (0 < attnum ∨ attnum = ObjectIdAttributeNumber))
    (keysBound : ∀ column ∈ schema.columns.take schema.numKeyColumns,
      column.order ∈ attnums ∨ column.order = kPgRowId)
    (pkAttnumsExact : ∀ attnum, attnum ∈ pkAttnums ↔
      attnum ∈ (schema.columns.take schema.numKeyColumns).map ColumnSchema.order)
    (keysNotNull : ∀ column ∈ schema.columns.take schema.numKeyColumns, column.order ≠ kPgRowId →
      (row column.order).isNull = false)
    (present : (store.rows (insertKeyFields baseTableOid indexOid schema rowId row)).isSome) :
    (∃ status,
      k2PgExecuteInsertOn codec txn (PgTableDesc.ofSchema collectionName tableId baseTableOid indexOid schema)
          (.ok (deriveSKVSchemaFromTableInfo tableId schema)) rowId pkAttnums attnums row store =
        .error (.status status) ∧
      handleK2PgStatus status = some K2PG_INTERNAL_ERROR) ∧
    K2PG_INTERNAL_ERROR ≠ K2PG_UNIQUE_VIOLATION ∧
    (∀ (stmtType : StmtType) (code : Nat) (message : String), code = 403 ∨ code = 409 →
      handleK2PgStatus (K2Adapter.writeOpResult stmtType { code, message }).1 =
        some K2PG_INTERNAL_ERROR) ∧
    K2PG_INTERNAL_ERROR ≠ K2PG_T_R_SERIALIZATION_FAILURE := by
  obtain ⟨record, insertEq, recordSchema, keysKept⟩ :=
    k2PgExecuteInsert_write codec collectionName tableId baseTableOid indexOid schema rowId row
      pkAttnums attnums ordersNodup attnumsReal keysBound pkAttnumsExact keysNotNull
  have keyOfRecord := getKey_of_insertKeyFields tableId baseTableOid indexOid schema rowId row record
    recordSchema keysKept
  -- SKV refuses the write: the key is there
  have refused : txn.apply store (.write record false .NotExists) = (K2Status.ConditionFailed, store) :=
    write_notExists_present txn store record (keyOfRecord ▸ present)
  have failedWrite : execWriteCall txn .PGSQL_INSERT store (.write record false .NotExists) =
      .error (.status (K2Adapter.k2StatusToK2PgStatus K2Status.ConditionFailed)) :=
    execWriteCall_insert_refused txn store _ (by rw [refused])
  refine ⟨?_, by decide, ?_, by decide⟩
  · obtain ⟨status, same, internal⟩ := execWriteCall_error _ _ _ _ _ failedWrite
    refine ⟨status, ?_, internal⟩
    simp [k2PgExecuteInsertOn, insertEq, failedWrite, same, bind, Except.bind]
  · intro stmtType code message conflict
    have failed : (K2Adapter.writeOpResult stmtType { code, message }).1.isOk = false := by
      rcases conflict with rfl | rfl <;>
        simp [K2Adapter.writeOpResult, K2Status.is2xxOK, K2Status.ConditionFailed,
          K2Adapter.k2StatusToK2PgStatus, Status.isOk]
    exact handleK2PgStatus_of_errors_nil _ failed (writeOpResult_errors _ _)

end Insert

def keyValueStore : SkvStore :=
  ⟨fun key => if key = insertKeyFields 16384 0 keyValueSchema [] keyValueRow then some [] else none⟩

theorem k2PgExecuteInsert_duplicate_internal_error_keyValue :
    (keyValueSchema.columns.map ColumnSchema.order).Nodup ∧
      (∀ attnum ∈ [1, 2], attnum ∈ keyValueSchema.columns.map ColumnSchema.order ∧
        (0 < attnum ∨ attnum = ObjectIdAttributeNumber)) ∧
      (∀ column ∈ keyValueSchema.columns.take keyValueSchema.numKeyColumns,
        column.order ∈ [1, 2] ∨ column.order = kPgRowId) ∧
      (∀ attnum, attnum ∈ [1] ↔
        attnum ∈ (keyValueSchema.columns.take keyValueSchema.numKeyColumns).map ColumnSchema.order) ∧
      (∀ column ∈ keyValueSchema.columns.take keyValueSchema.numKeyColumns, column.order ≠ kPgRowId →
        (keyValueRow column.order).isNull = false) ∧
      (keyValueStore.rows (insertKeyFields 16384 0 keyValueSchema [] keyValueRow)).isSome ∧
      (∃ status,
        k2PgExecuteInsertOn unarySkvClient SkvTxn.reference
            (PgTableDesc.ofSchema "db" "t" 16384 0 keyValueSchema)
            (.ok (deriveSKVSchemaFromTableInfo "t" keyValueSchema)) [] [1] [1, 2] keyValueRow
            keyValueStore = .error (.status status) ∧
        handleK2PgStatus status = some K2PG_INTERNAL_ERROR) ∧
      K2PG_INTERNAL_ERROR ≠ K2PG_UNIQUE_VIOLATION ∧
      (∀ (stmtType : StmtType) (code : Nat) (message : String), code = 403 ∨ code = 409 →
        handleK2PgStatus (K2Adapter.writeOpResult stmtType { code, message }).1 =
          some K2PG_INTERNAL_ERROR) ∧
      K2PG_INTERNAL_ERROR ≠ K2PG_T_R_SERIALIZATION_FAILURE := by
  have ordersNodup : (keyValueSchema.columns.map ColumnSchema.order).Nodup := by decide
  have attnumsReal : ∀ attnum ∈ [1, 2], attnum ∈ keyValueSchema.columns.map ColumnSchema.order ∧
      (0 < attnum ∨ attnum = ObjectIdAttributeNumber) := by decide
  have keysBound : ∀ column ∈ keyValueSchema.columns.take keyValueSchema.numKeyColumns,
      column.order ∈ [1, 2] ∨ column.order = kPgRowId := by decide
  have pkAttnumsExact : ∀ attnum, attnum ∈ [1] ↔
      attnum ∈ (keyValueSchema.columns.take keyValueSchema.numKeyColumns).map ColumnSchema.order := by
    intro attnum
    simp [keyValueSchema]
  have keysNotNull : ∀ column ∈ keyValueSchema.columns.take keyValueSchema.numKeyColumns,
      column.order ≠ kPgRowId → (keyValueRow column.order).isNull = false := by decide
  have present : (keyValueStore.rows (insertKeyFields 16384 0 keyValueSchema [] keyValueRow)).isSome := by
    simp [keyValueStore]
  exact ⟨ordersNodup, attnumsReal, keysBound, pkAttnumsExact, keysNotNull, present,
    k2PgExecuteInsert_duplicate_internal_error unarySkvClient "db" "t" 16384 0 keyValueSchema []
      keyValueRow SkvTxn.reference [1] [1, 2] keyValueStore ordersNodup attnumsReal keysBound
      pkAttnumsExact keysNotNull present⟩

end ChogoriSql
