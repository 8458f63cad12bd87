import ChogoriSql.Adapter.KeyRecord
import ChogoriSql.Monad.Except

/-! The write path of `K2Adapter`: `handleWriteOp` with the record it builds
(`MakeSKVRecordWithKeysSerialized`, `SerializeSKVValueFields`), the k2pgctid conversions
(`GetRowId`, `GetRowIdFromReadRecord`, `K2PGTIDToRecord`), and the statuses it reports.  The
SKV client is a parameter, `SkvClient`, with two laws: a record's `Storage` is written to a
payload and read back unchanged, and `getSKVKeyRecord` keeps the key fields of a record and makes
every other field NULL. -/

namespace ChogoriSql

structure Storage where
  fieldData : List (Option FieldValue)
  schemaName : String
  schemaVersion : Nat
  deriving DecidableEq, Repr

namespace SKVRecord

def default : SKVRecord :=
  empty "" { fields := [], partitionKeyFields := [] }

def getStorage (record : SKVRecord) : Storage :=
  { fieldData := record.fieldData, schemaName := record.schema.name,
    schemaVersion := record.schema.version }

def isKeyField (record : SKVRecord) (index : Nat) : Bool :=
  record.schema.partitionKeyFields.contains index || record.schema.rangeKeyFields.contains index

def getSKVKeyRecord (record : SKVRecord) : SKVRecord :=
  { record with
    fieldData := (List.range record.schema.fields.length).map fun index =>
      if record.isKeyField index then record.fieldData[index]?.join else none }

def getPartitionKey (record : SKVRecord) : List (Option FieldValue) :=
  record.schema.partitionKeyFields.map fun index => record.fieldData[index]?.join

def getKey (record : SKVRecord) : List (Option FieldValue) :=
  (record.schema.partitionKeyFields ++ record.schema.rangeKeyFields).map fun index =>
    record.fieldData[index]?.join

def serializeNullsTo (record : SKVRecord) (index : Nat) : SKVRecord :=
  { record with fieldData := record.fieldData ++ List.replicate (index - record.getFieldCursor) none }

def skipToField (record : SKVRecord) (index : Nat) : Except String SKVRecord :=
  if record.getFieldCursor ≤ index ∧ index ≤ record.schema.fields.length then
    .ok (record.serializeNullsTo index)
  else .error "serializeNull past the last field"

@[simp] theorem serializeNullsTo_schema (record : SKVRecord) (index : Nat) :
    (record.serializeNullsTo index).schema = record.schema := rfl

@[simp] theorem serializeNullsTo_fieldData (record : SKVRecord) (index : Nat) :
    (record.serializeNullsTo index).fieldData =
      record.fieldData ++ List.replicate (index - record.fieldData.length) none := rfl

end SKVRecord

/-- The calls of the SKV client library the adapter makes on a record, with what the claims
assume of them: `Payload::write` and `Payload::read` of a `Storage` read back what they wrote,
and `getSKVKeyRecord()` keeps the key fields of a record and makes every other field NULL. -/
structure SkvClient where
  write : Storage → List UInt8
  read : List UInt8 → Storage
  read_write : ∀ storage, read (write storage) = storage
  getSKVKeyRecord : SKVRecord → SKVRecord
  getSKVKeyRecord_eq : ∀ record : SKVRecord, getSKVKeyRecord record =
    { record with
      fieldData := (List.range record.schema.fields.length).map fun index =>
        if record.isKeyField index then record.fieldData[index]?.join else none }

theorem SkvClient.getSKVKeyRecord_eq_keyRecord (client : SkvClient) (record : SKVRecord) :
    client.getSKVKeyRecord record = record.getSKVKeyRecord :=
  client.getSKVKeyRecord_eq record

def SqlValue.sliceVal : SqlValue → List UInt8
  | .slice bytes => bytes
  | _ => []

inductive StmtType where
  | PGSQL_INSERT
  | PGSQL_UPDATE
  | PGSQL_DELETE
  | PGSQL_UPSERT
  | PGSQL_TRUNCATE_COLOCATED
  deriving DecidableEq, Repr

structure SqlOpWriteRequest extends KeyedRequest where
  stmtType : StmtType
  k2pgctidColumnValue : Option BindVariable := none
  columnValues : List BindVariable := []
  columnNewValues : List BindVariable := []
  targets : List PgExpr := []

inductive ExistencePrecondition where
  | None
  | NotExists
  | Exists
  deriving DecidableEq, Repr

inductive SkvWriteCall where
  | write (record : SKVRecord) (erase : Bool) (precondition : ExistencePrecondition)
  | partialUpdate (record : SKVRecord) (fieldsForUpdate : List Nat)
      (partitionKey : List (Option FieldValue))
  deriving DecidableEq, Repr

structure WriteResponse where
  status : RequestStatus
  rowsAffectedCount : Nat
  errorMessage : String := ""
  deriving DecidableEq, Repr

namespace K2Adapter

def serializeSKVRecordToString (codec : SkvClient) (record : SKVRecord) : List UInt8 :=
  codec.write record.getStorage

def getRowIdFromReadRecord (codec : SkvClient) (record : SKVRecord) : List UInt8 :=
  serializeSKVRecordToString codec (codec.getSKVKeyRecord record)

def k2pgctidBytes (k2pgctidColumnValue : Option BindVariable) : Except String (Option (List UInt8)) :=
  match k2pgctidColumnValue.bind BindVariable.expr with
  | none => .ok none
  | some (.constant value) =>
      if value.valueType == .SLICE then .ok (some value.sliceVal)
      else .error "k2pgctid_column_value value is not a Slice"
  | some _ => .error "Non value type in k2pgctid_column_value"

def k2PGTIDToString (k2pgctidColumnValue : Option BindVariable) : Except String (List UInt8) :=
  (k2pgctidBytes k2pgctidColumnValue).map fun bytes => bytes.getD []

/-- `K2PGTIDToRecord`: the storage read back from the k2pgctid, under the given schema. -/
def k2PGTIDToRecord (codec : SkvClient) (collection : String) (schema : Schema)
    (k2pgctidColumnValue : Option BindVariable) : Except String SKVRecord :=
  (k2pgctidBytes k2pgctidColumnValue).map fun
    | none => SKVRecord.default
    | some bytes => { collectionName := collection, schema, fieldData := (codec.read bytes).fieldData }

def serializeNamedValue (keyValues : String → Option SqlValue) (record : SKVRecord)
    (field : SchemaField) : SKVRecord :=
  match keyValues field.name with
  | some value => serializeValueToSKVRecord value record
  | none => record.serializeNull

def serializeNamedValues (keyValues : String → Option SqlValue) (fields : List SchemaField)
    (record : SKVRecord) : SKVRecord :=
  fields.foldl (serializeNamedValue keyValues) record

/-- `K2Adapter::GetRowId(collection_name, schema_name, schema_version, base_table_oid,
index_oid, key_values)`; `schemaResult` is what `getSchema` answers. -/
def getRowId (codec : SkvClient) (collectionName schemaName : String)
    (schemaResult : Except K2Status Schema) (baseTableOid indexOid : UInt32)
    (keyValues : String → Option SqlValue) : Except String (List UInt8) :=
  match schemaResult with
  | .error _ => .error ("Failed to get schema for " ++ schemaName ++ " in " ++ collectionName)
  | .ok schema =>
      let record := ((SKVRecord.empty collectionName schema).serializeNext
        (oidField baseTableOid)).serializeNext (oidField indexOid)
      .ok (serializeSKVRecordToString codec
        (serializeNamedValues keyValues (schema.fields.drop SKV_FIELD_OFFSET) record))

def serializeSKVValueField (keyFieldCount : Nat) (state : SKVRecord × List Nat)
    (column : BindVariable) : Except String (SKVRecord × List Nat) :=
  match column.expr with
  | some (.constant value) =>
      let skvIndex := column.idx.toNat + SKV_FIELD_OFFSET
      if skvIndex < keyFieldCount && keyFieldCount ≤ state.1.getFieldCursor then .ok state
      else
        (state.1.skipToField skvIndex).map fun record =>
          (serializeValueToSKVRecord value record, state.2 ++ [skvIndex])
  | _ => .error "Non value type in column_values"

/-- `K2Adapter::SerializeSKVValueFields`: the values sorted by column index and written in
that order, then NULLs to the end; returns the record and the fields written. -/
def serializeSKVValueFields (record : SKVRecord) (values : List BindVariable) :
    Except String (SKVRecord × List Nat) :=
  ((values.mergeSort fun a b => decide (a.idx ≤ b.idx)).foldlM
    (serializeSKVValueField record.schema.partitionKeyFields.length) (record, [])).map
    fun (record, fieldsForUpdate) =>
      (record.serializeNullsTo record.schema.fields.length, fieldsForUpdate)

/-- `handleWriteOp` up to the call to SKV: the record, the key record of an UPDATE or DELETE
that carries a k2pgctid, and the call.  A status that is not OK comes from `getSchema`. -/
def prepareWriteOp (codec : SkvClient) (request : SqlOpWriteRequest)
    (schemaResult : Except K2Status Schema) : Except String (Except Status SkvWriteCall) := do
  if !request.targets.isEmpty then throw "Targets are not supported for write"
  let ignoreK2PGTID := request.stmtType == .PGSQL_INSERT
  let (record, status) ← makeSKVRecordWithKeysSerialized request.toKeyedRequest schemaResult
    request.k2pgctidColumnValue.isSome ignoreK2PGTID
  if !status.isOk then pure (.error status)
  else
    let useK2PGTID := !ignoreK2PGTID && request.k2pgctidColumnValue.isSome
    let precondition : ExistencePrecondition :=
      match request.stmtType with
      | .PGSQL_INSERT => .NotExists
      | .PGSQL_DELETE => .Exists
      | _ => .None
    let keyRecord ← if useK2PGTID then
        k2PGTIDToRecord codec record.collectionName record.schema request.k2pgctidColumnValue
      else pure SKVRecord.default
    let values := if request.stmtType != .PGSQL_UPDATE then request.columnValues
      else request.columnNewValues
    let (record, fieldsForUpdate) ← serializeSKVValueFields record values
    -- a DELETE by k2pgctid writes the key record
    let record := if request.stmtType == .PGSQL_DELETE && useK2PGTID then keyRecord else record
    if request.stmtType != .PGSQL_UPDATE then
      pure (.ok (.write record (request.stmtType == .PGSQL_DELETE) precondition))
    else
      pure (.ok (.partialUpdate record fieldsForUpdate keyRecord.getPartitionKey))

def writeOpResult (stmtType : StmtType) (writeStatus : K2Status) : Status × WriteResponse :=
  if writeStatus.is2xxOK then
    (k2StatusToK2PgStatus writeStatus,
      { status := k2StatusToPGStatus writeStatus, rowsAffectedCount := 1 })
  else if stmtType == .PGSQL_INSERT || writeStatus.code != K2Status.ConditionFailed.code then
    (k2StatusToK2PgStatus writeStatus,
      { status := k2StatusToPGStatus writeStatus, rowsAffectedCount := 0,
        errorMessage := writeStatus.message })
  else
    (k2StatusToK2PgStatus K2Status.OK,
      { status := k2StatusToPGStatus K2Status.OK, rowsAffectedCount := 0 })

/-- `K2Adapter::handleWriteOp`; `skv` answers the call it makes. -/
def handleWriteOp (codec : SkvClient) (request : SqlOpWriteRequest)
    (schemaResult : Except K2Status Schema) (skv : SkvWriteCall → K2Status) :
    Except String (Status × WriteResponse) :=
  (prepareWriteOp codec request schemaResult).map fun
    | .error status => (status, { status := .PGSQL_STATUS_RUNTIME_ERROR, rowsAffectedCount := 0 })
    | .ok call => writeOpResult request.stmtType (skv call)

end K2Adapter

section Lemmas

open K2Adapter

@[simp] theorem serializeNamedValue_fieldData (keyValues : String → Option SqlValue)
    (record : SKVRecord) (field : SchemaField) :
    (serializeNamedValue keyValues record field).fieldData =
      record.fieldData ++ [(keyValues field.name).bind SqlValue.toFieldValue] := by
  unfold serializeNamedValue
  cases keyValues field.name <;> simp [SKVRecord.serializeNull]

@[simp] theorem serializeNamedValue_schema (keyValues : String → Option SqlValue)
    (record : SKVRecord) (field : SchemaField) :
    (serializeNamedValue keyValues record field).schema = record.schema := by
  unfold serializeNamedValue
  cases keyValues field.name <;> simp [SKVRecord.serializeNull]

theorem serializeNamedValues_fieldData (keyValues : String → Option SqlValue) :
    ∀ (fields : List SchemaField) (record : SKVRecord),
      (serializeNamedValues keyValues fields record).fieldData =
        record.fieldData ++ fields.map fun field => (keyValues field.name).bind SqlValue.toFieldValue
  | [], record => by simp [serializeNamedValues]
  | field :: rest, record => by
      have next := serializeNamedValues_fieldData keyValues rest
      simp only [serializeNamedValues, List.foldl_cons] at next ⊢
      simp [next]

theorem serializeNamedValues_schema (keyValues : String → Option SqlValue) :
    ∀ (fields : List SchemaField) (record : SKVRecord),
      (serializeNamedValues keyValues fields record).schema = record.schema
  | [], record => rfl
  | field :: rest, record => by
      have next := serializeNamedValues_schema keyValues rest
      simp only [serializeNamedValues, List.foldl_cons] at next ⊢
      simp [next]

theorem SKVRecord.getSKVKeyRecord_fieldData_of_range (record : SKVRecord) (count : Nat)
    (partitionKey : record.schema.partitionKeyFields = List.range count)
    (noRangeKey : record.schema.rangeKeyFields = []) :
    record.getSKVKeyRecord.fieldData = (List.range record.schema.fields.length).map fun index =>
      if index < count then record.fieldData[index]?.join else none := by
  simp [SKVRecord.getSKVKeyRecord, SKVRecord.isKeyField, partitionKey, noRangeKey]

theorem SKVRecord.getSKVKeyRecord_fieldData_of_keyPart (record : SKVRecord)
    (keyPart : List (Option FieldValue))
    (partitionKey : record.schema.partitionKeyFields = List.range keyPart.length)
    (noRangeKey : record.schema.rangeKeyFields = [])
    (serialized : keyPart <+: record.fieldData) (fits : keyPart.length ≤ record.schema.fields.length) :
    record.getSKVKeyRecord.fieldData =
      keyPart ++ List.replicate (record.schema.fields.length - keyPart.length) none := by
  rw [SKVRecord.getSKVKeyRecord_fieldData_of_range record keyPart.length partitionKey noRangeKey]
  apply List.ext_getElem
  · simp
    omega
  · intro index inRange _
    simp only [List.length_map, List.length_range] at inRange
    simp only [List.getElem_map, List.getElem_range]
    split
    · rename_i inKeyPart
      obtain ⟨rest, written⟩ := serialized
      rw [List.getElem_append_left (by omega), ← written, List.getElem?_append_left inKeyPart,
        List.getElem?_eq_getElem inKeyPart]
      rfl
    · rw [List.getElem_append_right (by omega)]
      simp

theorem SKVRecord.getSKVKeyRecord_getKey (record : SKVRecord)
    (within : ∀ index ∈ record.schema.partitionKeyFields ++ record.schema.rangeKeyFields,
      index < record.schema.fields.length) :
    record.getSKVKeyRecord.getKey = record.getKey := by
  simp only [SKVRecord.getKey, SKVRecord.getSKVKeyRecord]
  apply List.map_congr_left
  intro index member
  have isKey : record.isKeyField index = true := by
    simp only [SKVRecord.isKeyField, Bool.or_eq_true, List.contains_iff_mem]
    simpa using member
  simp [List.getElem?_range (within index member), isKey]

theorem List.getElem?_of_extended {α : Type} {front whole : List α} (extended : front <+: whole)
    {index : Nat} (inFront : index < front.length) : whole[index]? = front[index]? := by
  obtain ⟨rest, rfl⟩ := extended
  exact List.getElem?_append_left inFront

theorem serializeSKVValueField_eq (keyFieldCount : Nat) (state : SKVRecord × List Nat)
    (column : BindVariable) (value : SqlValue) (constant : column.expr = some (.constant value))
    (notSkipped : ¬(column.idx.toNat + SKV_FIELD_OFFSET < keyFieldCount ∧
      keyFieldCount ≤ state.1.getFieldCursor))
    (after : state.1.getFieldCursor ≤ column.idx.toNat + SKV_FIELD_OFFSET)
    (within : column.idx.toNat + SKV_FIELD_OFFSET ≤ state.1.schema.fields.length) :
    serializeSKVValueField keyFieldCount state column =
      .ok (serializeValueToSKVRecord value (state.1.serializeNullsTo (column.idx.toNat + SKV_FIELD_OFFSET)),
        state.2 ++ [column.idx.toNat + SKV_FIELD_OFFSET]) := by
  have skipped : state.1.skipToField (column.idx.toNat + SKV_FIELD_OFFSET) =
      .ok (state.1.serializeNullsTo (column.idx.toNat + SKV_FIELD_OFFSET)) := by
    simp [SKVRecord.skipToField, after, within]
  unfold serializeSKVValueField
  rw [constant]
  simp only [Bool.and_eq_true, decide_eq_true_eq]
  rw [if_neg notSkipped, skipped]
  rfl

theorem serializeSKVValueField_skip (keyFieldCount : Nat) (state : SKVRecord × List Nat)
    (column : BindVariable) (value : SqlValue) (constant : column.expr = some (.constant value))
    (key : column.idx.toNat + SKV_FIELD_OFFSET < keyFieldCount)
    (keysBehind : keyFieldCount ≤ state.1.getFieldCursor) :
    serializeSKVValueField keyFieldCount state column = .ok state := by
  unfold serializeSKVValueField
  rw [constant]
  simp [key, keysBehind]

theorem serializeValueToSKVRecord_serializeNullsTo (value : SqlValue) (record : SKVRecord)
    (index : Nat) (after : record.getFieldCursor ≤ index) :
    record.fieldData <+: (serializeValueToSKVRecord value (record.serializeNullsTo index)).fieldData ∧
      (serializeValueToSKVRecord value (record.serializeNullsTo index)).getFieldCursor = index + 1 ∧
      (serializeValueToSKVRecord value (record.serializeNullsTo index)).fieldData[index]? =
        some value.toFieldValue := by
  simp only [SKVRecord.getFieldCursor] at after ⊢
  simp only [serializeValueToSKVRecord_fieldData, SKVRecord.serializeNullsTo_fieldData,
    List.append_assoc, List.length_append, List.length_replicate, List.length_singleton]
  refine ⟨List.prefix_append _ _, by omega, ?_⟩
  rw [← List.append_assoc, List.getElem?_append_right (by simp; omega)]
  simp only [List.length_append, List.length_replicate]
  have : index - (record.fieldData.length + (index - record.fieldData.length)) = 0 := by omega
  simp [this]

theorem serializeSKVValueField_write (keyFieldCount : Nat) (state : SKVRecord × List Nat)
    (column : BindVariable) (value : SqlValue) (constant : column.expr = some (.constant value))
    (after : state.1.getFieldCursor ≤ column.idx.toNat + SKV_FIELD_OFFSET)
    (within : column.idx.toNat + SKV_FIELD_OFFSET ≤ state.1.schema.fields.length) :
    ∃ written, serializeSKVValueField keyFieldCount state column = .ok written ∧
      written.1.schema = state.1.schema ∧ state.1.fieldData <+: written.1.fieldData ∧
      written.1.getFieldCursor ≤ column.idx.toNat + SKV_FIELD_OFFSET + 1 := by
  by_cases skipped : column.idx.toNat + SKV_FIELD_OFFSET < keyFieldCount ∧
      keyFieldCount ≤ state.1.getFieldCursor
  · refine ⟨state, serializeSKVValueField_skip keyFieldCount state column value constant
      skipped.1 skipped.2, rfl, List.prefix_refl _, by omega⟩
  · obtain ⟨grown, cursor, -⟩ := serializeValueToSKVRecord_serializeNullsTo value state.1 _ after
    exact ⟨_, serializeSKVValueField_eq keyFieldCount state column value constant skipped after
      within, by simp, grown, by dsimp only; omega⟩

theorem foldlM_serializeSKVValueField (keyFieldCount : Nat) :
    ∀ (columns : List BindVariable) (state : SKVRecord × List Nat),
      (∀ column ∈ columns, ∃ value, column.expr = some (.constant value)) →
      columns.Pairwise (fun a b => a.idx.toNat < b.idx.toNat) →
      (∀ column ∈ columns, state.1.getFieldCursor ≤ column.idx.toNat + SKV_FIELD_OFFSET) →
      (∀ column ∈ columns, column.idx.toNat + SKV_FIELD_OFFSET ≤ state.1.schema.fields.length) →
      ∃ final, columns.foldlM (serializeSKVValueField keyFieldCount) state = .ok final ∧
        final.1.schema = state.1.schema ∧ state.1.fieldData <+: final.1.fieldData
  | [], state, _, _, _, _ => ⟨state, rfl, rfl, List.prefix_refl _⟩
  | column :: rest, state, constant, increasing, after, within => by
      obtain ⟨value, isConstant⟩ := constant column (by simp)
      obtain ⟨written, step, sameSchema, grown, cursor⟩ :=
        serializeSKVValueField_write keyFieldCount state column value isConstant
          (after column (by simp)) (within column (by simp))
      have later : ∀ other ∈ rest, column.idx.toNat < other.idx.toNat :=
        fun other member => List.rel_of_pairwise_cons increasing member
      obtain ⟨final, run, finalSchema, finalGrown⟩ :=
        foldlM_serializeSKVValueField keyFieldCount rest written
          (fun other member => constant other (by simp [member]))
          (List.Pairwise.of_cons increasing)
          (fun other member => by have := later other member; omega)
          (fun other member => by rw [sameSchema]; exact within other (by simp [member]))
      refine ⟨final, ?_, finalSchema.trans sameSchema, grown.trans finalGrown⟩
      rw [List.foldlM_cons, step]
      exact run

theorem foldlM_serializeSKVValueField_keysBehind (keyFieldCount : Nat)
    (valueOf : BindVariable → SqlValue) :
    ∀ (columns : List BindVariable) (state : SKVRecord × List Nat),
      (∀ column ∈ columns, column.expr = some (.constant (valueOf column))) →
      columns.Pairwise (fun a b => a.idx.toNat < b.idx.toNat) →
      keyFieldCount ≤ state.1.getFieldCursor →
      (∀ column ∈ columns, keyFieldCount ≤ column.idx.toNat + SKV_FIELD_OFFSET →
        state.1.getFieldCursor ≤ column.idx.toNat + SKV_FIELD_OFFSET) →
      (∀ column ∈ columns, column.idx.toNat + SKV_FIELD_OFFSET ≤ state.1.schema.fields.length) →
      ∃ final, columns.foldlM (serializeSKVValueField keyFieldCount) state = .ok final ∧
        final.1.schema = state.1.schema ∧ state.1.fieldData <+: final.1.fieldData ∧
        final.2 = state.2 ++ (columns.filter fun column =>
          keyFieldCount ≤ column.idx.toNat + SKV_FIELD_OFFSET).map
            (fun column => column.idx.toNat + SKV_FIELD_OFFSET) ∧
        ∀ column ∈ columns, keyFieldCount ≤ column.idx.toNat + SKV_FIELD_OFFSET →
          final.1.fieldData[column.idx.toNat + SKV_FIELD_OFFSET]? = some (valueOf column).toFieldValue
  | [], state, _, _, _, _, _ => ⟨state, rfl, rfl, List.prefix_refl _, by simp, by simp⟩
  | column :: rest, state, constant, increasing, keysBehind, after, within => by
      have later : ∀ other ∈ rest, column.idx.toNat < other.idx.toNat :=
        fun other member => List.rel_of_pairwise_cons increasing member
      by_cases key : column.idx.toNat + SKV_FIELD_OFFSET < keyFieldCount
      · have step := serializeSKVValueField_skip keyFieldCount state column (valueOf column)
          (constant column (by simp)) key keysBehind
        obtain ⟨final, run, finalSchema, grown, fields, values⟩ :=
          foldlM_serializeSKVValueField_keysBehind keyFieldCount valueOf rest state
            (fun other member => constant other (by simp [member])) (List.Pairwise.of_cons increasing)
            keysBehind (fun other member => after other (by simp [member]))
            (fun other member => within other (by simp [member]))
        refine ⟨final, by rw [List.foldlM_cons, step]; exact run, finalSchema, grown, ?_, ?_⟩
        · rw [fields, List.filter_cons_of_neg (by simpa using key)]
        · intro other member notKey
          rcases List.mem_cons.mp member with rfl | member
          · omega
          · exact values other member notKey
      · have fieldAfter := after column (by simp) (by omega)
        have step := serializeSKVValueField_eq keyFieldCount state column (valueOf column)
          (constant column (by simp)) (fun skipped => key skipped.1) fieldAfter
          (within column (by simp))
        obtain ⟨grown, cursor, value⟩ :=
          serializeValueToSKVRecord_serializeNullsTo (valueOf column) state.1 _ fieldAfter
        obtain ⟨final, run, finalSchema, finalGrown, fields, values⟩ :=
          foldlM_serializeSKVValueField_keysBehind keyFieldCount valueOf rest
            (serializeValueToSKVRecord (valueOf column)
              (state.1.serializeNullsTo (column.idx.toNat + SKV_FIELD_OFFSET)),
              state.2 ++ [column.idx.toNat + SKV_FIELD_OFFSET])
            (fun other member => constant other (by simp [member])) (List.Pairwise.of_cons increasing)
            (by dsimp only; omega)
            (fun other member _ => by dsimp only; have := later other member; omega)
            (fun other member => by simpa using within other (by simp [member]))
        refine ⟨final, by rw [List.foldlM_cons, step]; exact run, by simpa using finalSchema,
          grown.trans finalGrown, ?_, ?_⟩
        · rw [fields, List.filter_cons_of_pos (by simpa using key)]
          simp
        · intro other member notKey
          rcases List.mem_cons.mp member with rfl | member
          · have inWritten : other.idx.toNat + SKV_FIELD_OFFSET <
                (serializeValueToSKVRecord (valueOf other)
                  (state.1.serializeNullsTo (other.idx.toNat + SKV_FIELD_OFFSET))).fieldData.length := by
              simp only [SKVRecord.getFieldCursor] at cursor
              omega
            rw [List.getElem?_of_extended finalGrown inWritten]
            exact value
          · exact values other member notKey

theorem foldlM_serializeSKVValueField_unbound (keyFieldCount : Nat)
    (valueOf : BindVariable → SqlValue) :
    ∀ (columns : List BindVariable) (state final : SKVRecord × List Nat),
      (∀ column ∈ columns, column.expr = some (.constant (valueOf column))) →
      columns.Pairwise (fun a b => a.idx.toNat < b.idx.toNat) →
      keyFieldCount ≤ state.1.getFieldCursor →
      (∀ column ∈ columns, keyFieldCount ≤ column.idx.toNat + SKV_FIELD_OFFSET →
        state.1.getFieldCursor ≤ column.idx.toNat + SKV_FIELD_OFFSET) →
      (∀ column ∈ columns, column.idx.toNat + SKV_FIELD_OFFSET ≤ state.1.schema.fields.length) →
      columns.foldlM (serializeSKVValueField keyFieldCount) state = .ok final →
      ∀ field, state.1.getFieldCursor ≤ field → field < final.1.fieldData.length →
        (∀ column ∈ columns, column.idx.toNat + SKV_FIELD_OFFSET ≠ field) →
        final.1.fieldData[field]? = some none
  | [], state, final, _, _, _, _, _, run, field, past, inFinal, _ => by
      simp only [List.foldlM_nil, pure, Except.pure, Except.ok.injEq] at run
      subst run
      simp only [SKVRecord.getFieldCursor] at past
      omega
  | column :: rest, state, final, constant, increasing, keysBehind, after, within, run, field, past,
      inFinal, unbound => by
      have later : ∀ other ∈ rest, column.idx.toNat < other.idx.toNat :=
        fun other member => List.rel_of_pairwise_cons increasing member
      have restUnbound : ∀ other ∈ rest, other.idx.toNat + SKV_FIELD_OFFSET ≠ field :=
        fun other member => unbound other (List.mem_cons_of_mem _ member)
      rw [List.foldlM_cons] at run
      by_cases key : column.idx.toNat + SKV_FIELD_OFFSET < keyFieldCount
      · rw [serializeSKVValueField_skip keyFieldCount state column (valueOf column)
          (constant column (by simp)) key keysBehind, Except.ok_bind] at run
        exact foldlM_serializeSKVValueField_unbound keyFieldCount valueOf rest state final
          (fun other member => constant other (by simp [member])) (List.Pairwise.of_cons increasing)
          keysBehind (fun other member => after other (by simp [member]))
          (fun other member => within other (by simp [member])) run field past inFinal restUnbound
      · have fieldAfter := after column (by simp) (by omega)
        have step := serializeSKVValueField_eq keyFieldCount state column (valueOf column)
          (constant column (by simp)) (fun skipped => key skipped.1) fieldAfter
          (within column (by simp))
        rw [step, Except.ok_bind] at run
        obtain ⟨grown, cursor, -⟩ :=
          serializeValueToSKVRecord_serializeNullsTo (valueOf column) state.1 _ fieldAfter
        have restRun := foldlM_serializeSKVValueField_unbound keyFieldCount valueOf rest _ final
          (fun other member => constant other (by simp [member])) (List.Pairwise.of_cons increasing)
          (by dsimp only; omega)
          (fun other member _ => by dsimp only; have := later other member; omega)
          (fun other member => by simpa using within other (by simp [member])) run
        have differs := unbound column List.mem_cons_self
        by_cases before : field < column.idx.toNat + SKV_FIELD_OFFSET
        · obtain ⟨final', run', -, kept⟩ :=
            foldlM_serializeSKVValueField keyFieldCount rest
              (serializeValueToSKVRecord (valueOf column)
                (state.1.serializeNullsTo (column.idx.toNat + SKV_FIELD_OFFSET)),
                state.2 ++ [column.idx.toNat + SKV_FIELD_OFFSET])
              (fun other member => ⟨valueOf other, constant other (by simp [member])⟩)
              (List.Pairwise.of_cons increasing)
              (fun other member => by dsimp only; have := later other member; omega)
              (fun other member => by simpa using within other (by simp [member]))
          rw [run] at run'
          cases run'
          have inWritten : field < (serializeValueToSKVRecord (valueOf column)
              (state.1.serializeNullsTo (column.idx.toNat + SKV_FIELD_OFFSET))).fieldData.length := by
            simp only [SKVRecord.getFieldCursor] at cursor
            omega
          rw [List.getElem?_of_extended kept inWritten]
          simp only [SKVRecord.getFieldCursor] at past
          simp only [serializeValueToSKVRecord_fieldData, SKVRecord.serializeNullsTo_fieldData]
          rw [List.getElem?_append_left (by simp; omega), List.getElem?_append_right (by omega),
            List.getElem?_replicate]
          simp only [if_pos (show field - state.1.fieldData.length <
            column.idx.toNat + SKV_FIELD_OFFSET - state.1.fieldData.length by omega)]
        · exact restRun field (by dsimp only; omega) inFinal restUnbound

theorem mergeSort_idx_increasing (values : List BindVariable)
    (nonNegative : ∀ column ∈ values, 0 ≤ column.idx)
    (distinct : (values.map BindVariable.idx).Nodup) :
    (values.mergeSort fun a b => decide (a.idx ≤ b.idx)).Pairwise
      fun a b => a.idx.toNat < b.idx.toNat := by
  have permuted := List.mergeSort_perm values fun a b => decide (a.idx ≤ b.idx)
  have ordered : (values.mergeSort fun a b => decide (a.idx ≤ b.idx)).Pairwise
      fun a b => decide (a.idx ≤ b.idx) = true :=
    List.pairwise_mergeSort (fun a b c => by simpa using Int.le_trans)
      (fun a b => by simpa using Int.le_total a.idx b.idx) values
  have sortedDistinct := (permuted.map BindVariable.idx).nodup_iff.mpr distinct
  refine ((List.pairwise_map.mp sortedDistinct).and ordered).imp_of_mem
    fun {a b} aMember bMember ⟨differ, le⟩ => ?_
  have aNonNegative := nonNegative a (List.mem_mergeSort.mp aMember)
  have bNonNegative := nonNegative b (List.mem_mergeSort.mp bMember)
  simp only [decide_eq_true_eq] at le
  omega

theorem serializeSKVValueFields_keeps (record : SKVRecord) (values : List BindVariable)
    (constant : ∀ column ∈ values, ∃ value, column.expr = some (.constant value))
    (nonNegative : ∀ column ∈ values, 0 ≤ column.idx)
    (distinct : (values.map BindVariable.idx).Nodup)
    (after : ∀ column ∈ values, record.getFieldCursor ≤ column.idx.toNat + SKV_FIELD_OFFSET)
    (within : ∀ column ∈ values, column.idx.toNat + SKV_FIELD_OFFSET ≤ record.schema.fields.length) :
    ∃ written fieldsForUpdate, serializeSKVValueFields record values = .ok (written, fieldsForUpdate) ∧
      written.schema = record.schema ∧ record.fieldData <+: written.fieldData := by
  obtain ⟨final, run, finalSchema, grown⟩ :=
    foldlM_serializeSKVValueField record.schema.partitionKeyFields.length _ (record, [])
      (fun column sorted => constant column (List.mem_mergeSort.mp sorted))
      (mergeSort_idx_increasing values nonNegative distinct)
      (fun column sorted => after column (List.mem_mergeSort.mp sorted))
      (fun column sorted => within column (List.mem_mergeSort.mp sorted))
  refine ⟨final.1.serializeNullsTo final.1.schema.fields.length, final.2, ?_, finalSchema, ?_⟩
  · rw [serializeSKVValueFields, run]
    rfl
  · exact grown.trans (List.prefix_append _ _)

/-- The layout `SerializeSKVValueFields` writes after the key fields: each field holds the value
bound to its column, or NULL when no value is, and the fields listed for update are those of the
bound columns that are not key columns, in increasing order. -/
theorem serializeSKVValueFields_layout (record : SKVRecord) (values : List BindVariable)
    (valueOf : BindVariable → SqlValue)
    (constant : ∀ column ∈ values, column.expr = some (.constant (valueOf column)))
    (nonNegative : ∀ column ∈ values, 0 ≤ column.idx)
    (distinct : (values.map BindVariable.idx).Nodup)
    (keysSkipped : record.getFieldCursor = record.schema.partitionKeyFields.length)
    (within : ∀ column ∈ values, column.idx.toNat + SKV_FIELD_OFFSET < record.schema.fields.length) :
    ∃ written fieldsForUpdate, serializeSKVValueFields record values = .ok (written, fieldsForUpdate) ∧
      written.schema = record.schema ∧ record.fieldData <+: written.fieldData ∧
      (∀ field, record.getFieldCursor ≤ field → field < record.schema.fields.length →
        written.fieldData[field]? = some ((values.find? fun column =>
          column.idx.toNat + SKV_FIELD_OFFSET == field).bind fun column => (valueOf column).toFieldValue)) ∧
      fieldsForUpdate.Pairwise (· < ·) ∧
      ∀ field, field ∈ fieldsForUpdate ↔ ∃ column ∈ values,
        record.getFieldCursor ≤ column.idx.toNat + SKV_FIELD_OFFSET ∧
          column.idx.toNat + SKV_FIELD_OFFSET = field := by
  have increasing := mergeSort_idx_increasing values nonNegative distinct
  have withinLe : ∀ column ∈ values.mergeSort (fun a b => decide (a.idx ≤ b.idx)),
      column.idx.toNat + SKV_FIELD_OFFSET ≤ record.schema.fields.length :=
    fun column sorted => (within column (List.mem_mergeSort.mp sorted)).le
  have constantSorted : ∀ column ∈ values.mergeSort (fun a b => decide (a.idx ≤ b.idx)),
      column.expr = some (.constant (valueOf column)) :=
    fun column sorted => constant column (List.mem_mergeSort.mp sorted)
  obtain ⟨final, run, finalSchema, grown, fields, valuesAt⟩ :=
    foldlM_serializeSKVValueField_keysBehind record.schema.partitionKeyFields.length valueOf _
      (record, []) constantSorted increasing keysSkipped.ge
      (fun column _ _ => by simpa [keysSkipped]) withinLe
  have nulls := foldlM_serializeSKVValueField_unbound record.schema.partitionKeyFields.length
    valueOf _ (record, []) final constantSorted increasing keysSkipped.ge
    (fun column _ _ => by simpa [keysSkipped]) withinLe run
  refine ⟨final.1.serializeNullsTo final.1.schema.fields.length, final.2, ?_, finalSchema,
    grown.trans (List.prefix_append _ _), ?_, ?_, ?_⟩
  · rw [serializeSKVValueFields, run]
    rfl
  · intro field past inSchema
    rw [SKVRecord.serializeNullsTo_fieldData, finalSchema]
    cases found : values.find? (fun column => column.idx.toNat + SKV_FIELD_OFFSET == field) with
    | some column =>
        have member := List.mem_of_find?_eq_some found
        have atField : column.idx.toNat + SKV_FIELD_OFFSET = field := by
          simpa using List.find?_some found
        have written := valuesAt column (List.mem_mergeSort.mpr member) (by rw [← keysSkipped, atField]; exact past)
        have inFinal := (List.getElem?_eq_some_iff.mp written).1
        rw [List.getElem?_of_extended (List.prefix_append _ _) (atField ▸ inFinal), ← atField, written]
        rfl
    | none =>
        have unbound : ∀ column ∈ values.mergeSort (fun a b => decide (a.idx ≤ b.idx)),
            column.idx.toNat + SKV_FIELD_OFFSET ≠ field := by
          intro column sorted same
          have missed := List.find?_eq_none.mp found column (List.mem_mergeSort.mp sorted)
          simp [same] at missed
        by_cases inFinal : field < final.1.fieldData.length
        · rw [List.getElem?_append_left inFinal]
          exact nulls field past inFinal unbound
        · rw [List.getElem?_append_right (by omega), List.getElem?_replicate]
          simp only [Option.bind_none]
          rw [if_pos (by omega)]
  · rw [fields, List.nil_append, List.pairwise_map]
    exact (increasing.filter _).imp fun less => by omega
  · intro field
    simp [fields, List.mem_mergeSort, and_assoc, keysSkipped]

def layoutRecord : SKVRecord :=
  { collectionName := "db",
    schema := { fields := [{ type := .INT64T, name := "TableId" }, { type := .INT64T, name := "IndexId" },
                  { type := .INT64T, name := "k" }, { type := .INT64T, name := "a" },
                  { type := .STRING, name := "b" }],
                partitionKeyFields := [0, 1, 2] },
    fieldData := [some (oidField 16385), some (oidField 0), some (.int64T 7)] }

def layoutValues : List BindVariable :=
  [{ idx := 2, expr := some (.constant (.slice [104])) }, { idx := 0, expr := some (.constant (.int 7)) }]

def layoutValue (column : BindVariable) : SqlValue :=
  if column.idx = 2 then .slice [104] else .int 7

theorem serializeSKVValueFields_layout_update :
    ∃ written fieldsForUpdate,
      serializeSKVValueFields layoutRecord layoutValues = .ok (written, fieldsForUpdate) ∧
      written.schema = layoutRecord.schema ∧ layoutRecord.fieldData <+: written.fieldData ∧
      (∀ field, layoutRecord.getFieldCursor ≤ field → field < layoutRecord.schema.fields.length →
        written.fieldData[field]? = some ((layoutValues.find? fun column =>
          column.idx.toNat + SKV_FIELD_OFFSET == field).bind fun column =>
            (layoutValue column).toFieldValue)) ∧
      fieldsForUpdate.Pairwise (· < ·) ∧
      ∀ field, field ∈ fieldsForUpdate ↔ ∃ column ∈ layoutValues,
        layoutRecord.getFieldCursor ≤ column.idx.toNat + SKV_FIELD_OFFSET ∧
          column.idx.toNat + SKV_FIELD_OFFSET = field := by
  have constant : ∀ column ∈ layoutValues, column.expr = some (.constant (layoutValue column)) := by
    intro column member
    simp only [layoutValues, List.mem_cons, List.not_mem_nil, or_false] at member
    rcases member with rfl | rfl <;> rfl
  exact serializeSKVValueFields_layout layoutRecord layoutValues layoutValue constant (by decide)
    (by decide) (by decide) (by decide)

end Lemmas

end ChogoriSql
