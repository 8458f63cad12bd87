import ChogoriSql.Catalog.CreateIndex
import ChogoriSql.Pggate.Errors

/-! Index writes: `K2PgExecuteInsertIndex`, which binds the index tuple in
`PrepareIndexWriteStmt` and inserts it through `handleWriteOp`, in upsert mode for a
non-unique index.  The key of an index entry is the key attributes, then the key suffix of a
unique index or the base k2pgctid of a non-unique one; the suffix is the base k2pgctid when an
attribute of the tuple is NULL and NULL otherwise.  The executor's test for a NULL runs over all
the attributes of the index tuple, the included ones as well. -/

namespace ChogoriSql

def bindIndexColumn (desc : PgTableDesc) (request : SqlOpWriteRequest) :
    SqlValue × Nat → Except PgError SqlOpWriteRequest
  | (value, attnum) => PgError.ofStatus (PgDmlWrite.bindColumn desc request attnum value)

/-- `PrepareIndexWriteStmt`. -/
def prepareIndexWriteStmt (desc : PgTableDesc) (isUnique : Bool) (values : List SqlValue)
    (k2pgbasectid : Option (List UInt8)) (k2pgctidAsValue : Bool) (request : SqlOpWriteRequest) :
    Except PgError SqlOpWriteRequest := do
  let some basectid := k2pgbasectid
    | throw (.error "Missing base table k2pgctid in index write request")
  let request ← (values.zipIdx 1).foldlM (bindIndexColumn desc) request
  let hasNullAttr := values.any SqlValue.isNull
  let request ← if isUnique then
      PgError.ofStatus (PgDmlWrite.bindColumn desc request kPgUniqueIdxKeySuffix
        (if hasNullAttr then .slice basectid else .null .SLICE))
    else pure request
  if k2pgctidAsValue || !isUnique then
    PgError.ofStatus (PgDmlWrite.bindColumn desc request kPgIdxBaseTupleId (.slice basectid))
  else pure request

def k2PgExecuteInsertIndex (codec : SkvClient) (desc : PgTableDesc)
    (schemaResult : Except K2Status Schema) (isUnique : Bool) (values : List SqlValue)
    (k2pgctid : Option (List UInt8)) : Except PgError SkvWriteCall := do
  let request ← prepareIndexWriteStmt desc isUnique values k2pgctid true
    (PgDmlWrite.prepare desc .PGSQL_INSERT [])
  let request := if !isUnique then { request with stmtType := .PGSQL_UPSERT } else request
  let request ← PgError.ofStatus (PgDmlWrite.deleteEmptyPrimaryBinds request false)
  match ← PgError.ofException (K2Adapter.prepareWriteOp codec request schemaResult) with
  | .error status => .error (.status status)
  | .ok call => pure call

def k2PgExecuteInsertIndexOn (codec : SkvClient) (txn : SkvTxn) (desc : PgTableDesc)
    (schemaResult : Except K2Status Schema) (isUnique : Bool) (values : List SqlValue)
    (k2pgctid : Option (List UInt8)) (store : SkvStore) : Except PgError SkvStore := do
  let call ← k2PgExecuteInsertIndex codec desc schemaResult isUnique values k2pgctid
  let (_, store) ← execWriteCall txn (if isUnique then .PGSQL_INSERT else .PGSQL_UPSERT) store call
  pure store

def indexKeyFields (baseTableOid indexOid : UInt32) (isUnique : Bool) (numKeyAttrs : Nat)
    (values : List SqlValue) (basectid : List UInt8) : List (Option FieldValue) :=
  [some (oidField baseTableOid), some (oidField indexOid)] ++
    (values.take numKeyAttrs).map SqlValue.toFieldValue ++
    [if isUnique && !values.any SqlValue.isNull then none else some (.string basectid)]

section Keys

theorem SqlValue.toFieldValue_inj {value other : SqlValue} (notNull : value.isNull = false) :
    value.toFieldValue = other.toFieldValue ↔ value = other := by
  constructor
  · intro same
    cases value <;> cases other <;> simp_all [SqlValue.toFieldValue, SqlValue.isNull]
  · intro same
    rw [same]

theorem map_toFieldValue_inj :
    ∀ {values others : List SqlValue}, (∀ value ∈ values, value.isNull = false) →
      (values.map SqlValue.toFieldValue = others.map SqlValue.toFieldValue ↔ values = others)
  | [], [], _ => by simp
  | [], _ :: _, _ => by simp
  | _ :: _, [], _ => by simp
  | value :: rest, other :: others, notNull => by
      have head : value.toFieldValue = other.toFieldValue ↔ value = other :=
        SqlValue.toFieldValue_inj (notNull value (by simp))
      have tail : rest.map SqlValue.toFieldValue = others.map SqlValue.toFieldValue ↔ rest = others :=
        map_toFieldValue_inj (fun later member => notNull later (by simp [member]))
      simp [head, tail]

theorem indexKeyFields_eq_iff (baseTableOid indexOid : UInt32) (isUnique : Bool) (numKeyAttrs : Nat)
    (values others : List SqlValue) (basectid otherBasectid : List UInt8)
    (distinctRows : basectid ≠ otherBasectid) (long : numKeyAttrs ≤ values.length)
    (otherLong : numKeyAttrs ≤ others.length) :
    indexKeyFields baseTableOid indexOid isUnique numKeyAttrs values basectid =
        indexKeyFields baseTableOid indexOid isUnique numKeyAttrs others otherBasectid ↔
      isUnique = true ∧ values.take numKeyAttrs = others.take numKeyAttrs ∧
        values.all (fun value => !value.isNull) ∧ others.all (fun value => !value.isNull) := by
  have lengths : ([some (oidField baseTableOid), some (oidField indexOid)] ++
      (values.take numKeyAttrs).map SqlValue.toFieldValue).length =
      ([some (oidField baseTableOid), some (oidField indexOid)] ++
        (others.take numKeyAttrs).map SqlValue.toFieldValue).length := by
    simp
    omega
  unfold indexKeyFields
  constructor
  · intro same
    obtain ⟨front, last⟩ := List.append_inj same lengths
    have keysSame : (values.take numKeyAttrs).map SqlValue.toFieldValue =
        (others.take numKeyAttrs).map SqlValue.toFieldValue := by simpa using front
    -- the last key fields differ unless both are the NULL suffix of a unique index
    cases unique : isUnique <;> cases nulls : values.any SqlValue.isNull <;>
      cases otherNulls : others.any SqlValue.isNull <;>
      simp [unique, nulls, otherNulls, distinctRows] at last
    have noNull : ∀ value ∈ values.take numKeyAttrs, value.isNull = false := by
      intro value member
      have := List.any_eq_false.mp nulls value (List.mem_of_mem_take member)
      simpa using this
    refine ⟨rfl, (map_toFieldValue_inj noNull).mp keysSame, ?_, ?_⟩
    · simpa using nulls
    · simpa using otherNulls
  · rintro ⟨unique, keysSame, noNull, otherNoNull⟩
    have nulls : values.any SqlValue.isNull = false := by simpa using noNull
    have otherNulls : others.any SqlValue.isNull = false := by simpa using otherNoNull
    simp [unique, keysSame, nulls, otherNulls]

end Keys

section Binds

def indexBindValue (values : List SqlValue) (basectid : List UInt8) (attnum : Int) : SqlValue :=
  if attnum = kPgUniqueIdxKeySuffix then
    if values.any SqlValue.isNull then .slice basectid else .null .SLICE
  else if attnum = kPgIdxBaseTupleId then .slice basectid
  else values.getD (attnum.toNat - 1) (.null .UNKNOWN)

def indexAttnums (isUnique : Bool) (natts : Nat) : List Int :=
  (List.range' 1 natts).map (Nat.cast : Nat → Int) ++
    (if isUnique then [kPgUniqueIdxKeySuffix] else []) ++ [kPgIdxBaseTupleId]

theorem foldlM_bindIndexColumn (desc : PgTableDesc) (row : Int → SqlValue) :
    ∀ (values : List SqlValue) (start : Nat) (request : SqlOpWriteRequest),
      (∀ i (bound : i < values.length), row (start + i) = values[i]) →
      (values.zipIdx start).foldlM (bindIndexColumn desc) request =
        ((List.range' start values.length).map (Nat.cast : Nat → Int)).foldlM
          (bindInsertColumn desc [] row) request
  | [], _, _, _ => rfl
  | value :: rest, start, request, agrees => by
      have first := agrees 0 (by simp)
      simp only [Nat.cast_zero, add_zero, List.getElem_cons_zero] at first
      have step : bindIndexColumn desc request (value, start) =
          bindInsertColumn desc [] row request start := by
        simp [bindIndexColumn, bindInsertColumn, first]
      rw [List.zipIdx_cons, List.length_cons, List.range'_succ, List.map_cons, List.foldlM_cons,
        List.foldlM_cons, step]
      cases bindInsertColumn desc [] row request start with
      | error err => rfl
      | ok next =>
          exact foldlM_bindIndexColumn desc row rest (start + 1) next fun i bound => by
            have later := agrees (i + 1) (by simp; omega)
            have shifted : ((start + 1 : Nat) : Int) + i = start + (i + 1 : Nat) := by push_cast; ring
            rw [shifted, later]
            simp

end Binds

section IndexSchema

variable {isUnique : Bool} {keys includes : List IndexAttr} {schema : PgSchema}

structure IndexSchema (isUnique : Bool) (keys includes : List IndexAttr) (schema : PgSchema) :
    Prop where
  attnums : (keys ++ includes).map IndexAttr.attnum =
    (List.range' 1 (keys ++ includes).length).map (Nat.cast : Nat → Int)
  columns : schema.columns = (indexSchemaBuilder isUnique keys includes).cols
  numKeyColumns : schema.numKeyColumns = keys.length + 1

theorem IndexSchema.attnum_eq (shape : IndexSchema isUnique keys includes schema) (i : Nat)
    (bound : i < (keys ++ includes).length) : ((keys ++ includes)[i]).attnum = i + 1 := by
  have atIndex := congrArg (fun attnums => attnums[i]?) shape.attnums
  simp only [List.getElem?_map, List.getElem?_eq_getElem bound, List.length_append] at atIndex
  rw [List.getElem?_range' (by simpa using bound)] at atIndex
  simp only [Option.map_some, Option.some.injEq] at atIndex
  rw [atIndex]
  push_cast
  ring

theorem IndexSchema.attnum_pos (shape : IndexSchema isUnique keys includes schema) :
    ∀ attr ∈ keys ++ includes, 0 < attr.attnum := by
  intro attr member
  obtain ⟨i, bound, rfl⟩ := List.getElem_of_mem member
  rw [shape.attnum_eq i bound]
  omega

theorem IndexSchema.orders (shape : IndexSchema isUnique keys includes schema) :
    schema.columns.map ColumnSchema.order = keys.map IndexAttr.attnum ++
      (indexSystemColumns isUnique).map ColumnSchema.order ++ includes.map IndexAttr.attnum := by
  rw [shape.columns]
  simp [indexSchemaBuilder, Function.comp_def, IndexAttr.toColumnSchema]

theorem indexSystemColumns_order_neg (isUnique : Bool) :
    ∀ order ∈ (indexSystemColumns isUnique).map ColumnSchema.order, order < 0 := by
  cases isUnique <;> simp [indexSystemColumns, kPgUniqueIdxKeySuffix, kPgIdxBaseTupleId]

theorem IndexSchema.ordersNodup (shape : IndexSchema isUnique keys includes schema) :
    (schema.columns.map ColumnSchema.order).Nodup := by
  have attrs : (keys.map IndexAttr.attnum ++ includes.map IndexAttr.attnum).Nodup := by
    rw [← List.map_append, shape.attnums]
    exact (List.nodup_range' ..).map Nat.cast_injective
  rw [List.nodup_append] at attrs
  obtain ⟨keysNodup, includesNodup, apart⟩ := attrs
  have positive : ∀ attnum ∈ (keys ++ includes).map IndexAttr.attnum, 0 < attnum := by
    intro attnum member
    obtain ⟨attr, attrMember, rfl⟩ := List.mem_map.mp member
    exact shape.attnum_pos attr attrMember
  have systemNodup : ((indexSystemColumns isUnique).map ColumnSchema.order).Nodup := by
    cases isUnique <;> decide
  have negative := indexSystemColumns_order_neg isUnique
  rw [shape.orders]
  refine List.nodup_append.mpr ⟨List.nodup_append.mpr ⟨keysNodup, systemNodup, ?_⟩, includesNodup, ?_⟩
  · intro key keyMember order orderMember same
    have := positive key (by simp only [List.map_append]; exact List.mem_append_left _ keyMember)
    have := negative order orderMember
    omega
  · intro earlier earlierMember included includedMember same
    rcases List.mem_append.mp earlierMember with key | system
    · exact apart earlier key included includedMember same
    · have := negative earlier system
      have := positive included (by simp only [List.map_append]; exact List.mem_append_right _ includedMember)
      omega

theorem IndexSchema.keyColumns (shape : IndexSchema isUnique keys includes schema) :
    schema.columns.take schema.numKeyColumns =
      keys.map (·.toColumnSchema true) ++ (indexSystemColumns isUnique).take 1 := by
  rw [shape.columns, shape.numKeyColumns]
  have keyCount : (keys.map (·.toColumnSchema true)).length = keys.length := List.length_map _
  simp only [indexSchemaBuilder, SchemaBuilder.ofColumns_cols, List.append_assoc]
  rw [List.take_append, List.take_of_length_le (by omega), keyCount, Nat.add_sub_cancel_left,
    List.take_append_of_le_length (by cases isUnique <;> simp [indexSystemColumns])]

theorem IndexSchema.keyValues (shape : IndexSchema isUnique keys includes schema)
    (values : List SqlValue) (basectid : List UInt8)
    (fits : values.length = (keys ++ includes).length) :
    keys.map (fun attr => indexBindValue values basectid attr.attnum) = values.take keys.length := by
  apply List.ext_getElem
  · simp only [List.length_map, List.length_take, fits, List.length_append]
    omega
  · intro i bound _
    simp only [List.length_map] at bound
    have attnumAt := shape.attnum_eq i (by simp; omega)
    rw [List.getElem_append_left bound] at attnumAt
    have notSystem : ((i + 1 : Nat) : Int) ≠ kPgUniqueIdxKeySuffix ∧
        ((i + 1 : Nat) : Int) ≠ kPgIdxBaseTupleId := by
      simp only [kPgUniqueIdxKeySuffix, kPgIdxBaseTupleId]
      omega
    rw [List.getElem_map, List.getElem_take, attnumAt]
    simp only [indexBindValue, show ((i : Int) + 1) = ((i + 1 : Nat) : Int) by push_cast; ring,
      notSystem.1, notSystem.2, if_false]
    rw [Int.toNat_natCast, Nat.add_sub_cancel, List.getD_eq_getElem _ _ (by simp at fits; omega)]

end IndexSchema

section Write

theorem prepareIndexWriteStmt_binds (desc : PgTableDesc) (isUnique : Bool) (values : List SqlValue)
    (basectid : List UInt8) (indexes : (desc.columns.map PgColumnDesc.index).Nodup)
    (attrNums : (desc.columns.map PgColumnDesc.attrNum).Nodup)
    (columns : ∀ attnum ∈ indexAttnums isUnique values.length,
      ∃ column ∈ desc.columns, column.attrNum = attnum)
    (base : SqlOpWriteRequest) (start : InsertBinds desc [] (indexBindValue values basectid) base [] base) :
    ∃ request, prepareIndexWriteStmt desc isUnique values (some basectid) true base = .ok request ∧
      InsertBinds desc [] (indexBindValue values basectid) base
        (indexAttnums isUnique values.length) request := by
  set row := indexBindValue values basectid
  have agrees : ∀ i (bound : i < values.length), row (((1 : Nat) : Int) + i) = values[i] := by
    intro i bound
    have notSystem : ((1 : Nat) : Int) + i ≠ kPgUniqueIdxKeySuffix ∧
        ((1 : Nat) : Int) + i ≠ kPgIdxBaseTupleId := by
      simp only [kPgUniqueIdxKeySuffix, kPgIdxBaseTupleId]
      omega
    simp only [row, indexBindValue, notSystem.1, notSystem.2, if_false]
    rw [List.getD_eq_getElem _ _ (by omega)]
    congr 1
    omega
  have attrColumns : ∀ attnum ∈ (List.range' 1 values.length).map (Nat.cast : Nat → Int),
      ∃ column ∈ desc.columns, column.attrNum = attnum := fun attnum member =>
    columns attnum (List.mem_append_left _ (List.mem_append_left _ member))
  have notTupleId : ∀ attnum ∈ (List.range' 1 values.length).map (Nat.cast : Nat → Int),
      attnum ≠ kPgTupleId := by
    intro attnum member
    obtain ⟨i, inRange, rfl⟩ := List.mem_map.mp member
    rw [List.mem_range'_1] at inRange
    simp only [kPgTupleId]
    omega
  obtain ⟨afterAttrs, attrsRan, attrsBound⟩ := foldlM_bindInsertColumn [] row indexes attrNums []
    base _ [] base start attrColumns notTupleId (fun _ _ _ => by simp)
  have loop : (values.zipIdx 1).foldlM (bindIndexColumn desc) base = .ok afterAttrs := by
    rw [foldlM_bindIndexColumn desc row values 1 base agrees]
    exact attrsRan
  have rowCtid : row kPgIdxBaseTupleId = .slice basectid := by
    simp [row, indexBindValue, kPgIdxBaseTupleId, kPgUniqueIdxKeySuffix]
  obtain ⟨ctidColumn, ctidMember, ctidAttr⟩ := columns kPgIdxBaseTupleId (by simp [indexAttnums])
  have ctidNotTupleId : ctidColumn.attrNum ≠ kPgTupleId := by
    simp [ctidAttr, kPgIdxBaseTupleId, kPgTupleId]
  cases isUnique with
  | false =>
      obtain ⟨final, ctidRan, ctidBound⟩ := bindColumn_insertBinds [] row indexes attrNums base _
        afterAttrs attrsBound ctidMember ctidNotTupleId
      rw [ctidAttr, rowCtid] at ctidRan
      rw [ctidAttr] at ctidBound
      refine ⟨final, ?_, by simpa [indexAttnums] using ctidBound⟩
      simp [prepareIndexWriteStmt, loop, ctidRan, bind, Except.bind, pure, Except.pure]
  | true =>
      obtain ⟨suffixColumn, suffixMember, suffixAttr⟩ :=
        columns kPgUniqueIdxKeySuffix (by simp [indexAttnums])
      have rowSuffix : row kPgUniqueIdxKeySuffix =
          if values.any SqlValue.isNull then .slice basectid else .null .SLICE := by
        simp [row, indexBindValue]
      obtain ⟨afterSuffix, suffixRan, suffixBound⟩ := bindColumn_insertBinds [] row indexes
        attrNums base _ afterAttrs attrsBound suffixMember
        (by simp [suffixAttr, kPgUniqueIdxKeySuffix, kPgTupleId])
      rw [suffixAttr, rowSuffix] at suffixRan
      rw [suffixAttr] at suffixBound
      obtain ⟨final, ctidRan, ctidBound⟩ := bindColumn_insertBinds [] row indexes attrNums base _
        afterSuffix suffixBound ctidMember ctidNotTupleId
      rw [ctidAttr, rowCtid] at ctidRan
      rw [ctidAttr] at ctidBound
      refine ⟨final, ?_, by simpa [indexAttnums] using ctidBound⟩
      simp only [List.any_eq_true] at suffixRan
      simp [prepareIndexWriteStmt, loop, suffixRan, ctidRan, bind, Except.bind]

variable (codec : SkvClient) (collectionName indexId : String) (baseTableOid indexOid : UInt32)
  {isUnique : Bool} {keys includes : List IndexAttr} {schema : PgSchema}

theorem k2PgExecuteInsertIndex_write (shape : IndexSchema isUnique keys includes schema)
    (values : List SqlValue) (basectid : List UInt8)
    (fits : values.length = (keys ++ includes).length) :
    ∃ record, k2PgExecuteInsertIndex codec
        (PgTableDesc.ofSchema collectionName indexId baseTableOid indexOid schema)
        (.ok (deriveSKVSchemaFromTableInfo indexId schema)) isUnique values (some basectid) =
        .ok (.write record false (if isUnique then .NotExists else .None)) ∧
      record.getKey = indexKeyFields baseTableOid indexOid isUnique keys.length values basectid := by
  set desc := PgTableDesc.ofSchema collectionName indexId baseTableOid indexOid schema
  set row := indexBindValue values basectid
  have keysFit := schema.keysFirst.numKeyColumns_le
  obtain ⟨indexes, attrNums, -⟩ :=
    PgTableDesc.ofSchema_distinct collectionName indexId baseTableOid indexOid schema shape.ordersNodup
  have indexOrders : ∀ attnum ∈ indexAttnums isUnique values.length,
      attnum ∈ schema.columns.map ColumnSchema.order := by
    intro attnum member
    rw [shape.orders]
    simp only [indexAttnums, List.mem_append] at member
    rcases member with (attr | system) | ctid
    · rw [fits, ← shape.attnums, List.map_append, List.mem_append] at attr
      rcases attr with key | included
      · exact List.mem_append_left _ (List.mem_append_left _ key)
      · exact List.mem_append_right _ included
    · cases isUnique <;> simp_all [indexSystemColumns]
    · cases isUnique <;> simp_all [indexSystemColumns]
  obtain ⟨request, prepared, bound⟩ := prepareIndexWriteStmt_binds desc isUnique values basectid
    indexes attrNums (fun attnum member => PgSchema.exists_columnDesc schema (indexOrders attnum member))
    _ (InsertBinds.start [] row (PgDmlWrite.prepare desc .PGSQL_INSERT []) rfl rfl)
  have keyOrders : ∀ column ∈ schema.columns.take schema.numKeyColumns,
      column.order ∈ indexAttnums isUnique values.length ∧ column.order ≠ kPgRowId := by
    intro column member
    rw [shape.keyColumns] at member
    rcases List.mem_append.mp member with key | system
    · obtain ⟨attr, attrMember, rfl⟩ := List.mem_map.mp key
      have listed : attr.attnum ∈ (List.range' 1 values.length).map (Nat.cast : Nat → Int) := by
        rw [fits, ← shape.attnums]
        exact List.mem_map_of_mem (List.mem_append_left _ attrMember)
      have positive := shape.attnum_pos attr (List.mem_append_left _ attrMember)
      refine ⟨List.mem_append_left _ (List.mem_append_left _ listed), ?_⟩
      simp only [IndexAttr.toColumnSchema, kPgRowId]
      omega
    · cases isUnique <;> simp_all [indexSystemColumns, indexAttnums, kPgRowId,
        kPgUniqueIdxKeySuffix, kPgIdxBaseTupleId]
  have keyExprs := InsertBinds.keyExprs collectionName indexId baseTableOid indexOid schema [] row
    bound fun column member => ⟨fun _ => (keyOrders column member).2, fun _ => (keyOrders column member).1⟩
  obtain ⟨shapeEq, bindValues, distinct⟩ := bound
  have requestFields : request.targets = [] ∧ request.k2pgctidColumnValue = none ∧
      request.collectionName = collectionName ∧ request.baseTableOid = baseTableOid ∧
      request.indexOid = indexOid ∧ request.stmtType = .PGSQL_INSERT := by
    rw [shapeEq]
    simp [desc, PgDmlWrite.prepare, PgTableDesc.ofSchema]
  obtain ⟨noTargets, noTupleId, collection, tableOidEq, indexOidEq, insert⟩ := requestFields
  obtain ⟨written, writtenEq⟩ : ∃ written : SqlOpWriteRequest,
      written = if !isUnique then { request with stmtType := .PGSQL_UPSERT } else request :=
    ⟨_, rfl⟩
  have writtenFields : written.targets = [] ∧ written.k2pgctidColumnValue = none ∧
      written.collectionName = collectionName ∧ written.baseTableOid = baseTableOid ∧
      written.indexOid = indexOid ∧ written.keyColumnValues = request.keyColumnValues ∧
      written.columnValues = request.columnValues ∧
      written.stmtType = if isUnique then .PGSQL_INSERT else .PGSQL_UPSERT := by
    cases isUnique <;> simp [writtenEq, noTargets, noTupleId, collection, tableOidEq, indexOidEq, insert]
  obtain ⟨writtenTargets, writtenTupleId, writtenCollection, writtenTableOid, writtenIndexOid,
    sameKeys, sameValues, stmtTypeEq⟩ := writtenFields
  have writes : written.stmtType = .PGSQL_INSERT ∨
      written.stmtType = .PGSQL_UPSERT ∧ written.k2pgctidColumnValue = none := by
    cases isUnique
    · exact .inr ⟨by simpa using stmtTypeEq, writtenTupleId⟩
    · exact .inl (by simpa using stmtTypeEq)
  set keyValues := (schema.columns.take schema.numKeyColumns).map fun column =>
    insertKeyValue [] row column.order
  have writtenKeys : written.keyColumnValues.map BindVariable.expr =
      keyValues.map fun value => some (.constant value) := by
    rw [sameKeys, keyExprs, List.map_map]
    rfl
  have kept : PgDmlWrite.deleteEmptyPrimaryBinds written false = .ok written :=
    PgDmlWrite.deleteEmptyPrimaryBinds_of_set written false
      (keyExprs_isSome written.keyColumnValues keyValues writtenKeys) (.inr writtenTupleId)
  obtain ⟨record, writeEq, recordSchema, keysKept⟩ := prepareWriteOp_write collectionName indexId
    baseTableOid indexOid schema codec written keyValues writtenTargets writes writtenCollection
    writtenTableOid writtenIndexOid writtenKeys (by simp [keyValues, keysFit])
    (fun bind member => by
      rw [sameValues] at member
      obtain ⟨column, columnMember, notPrimary, rfl⟩ := bindValues bind member
      exact ⟨column, columnMember, notPrimary, _, rfl⟩)
    (by rw [sameValues]; exact distinct)
  refine ⟨record, ?_, ?_⟩
  · have precondition : (if written.stmtType = .PGSQL_INSERT then ExistencePrecondition.NotExists
        else .None) = if isUnique then .NotExists else .None := by
      cases isUnique <;> simp [stmtTypeEq]
    rw [precondition] at writeEq
    simp only [k2PgExecuteInsertIndex, prepared, bind, Except.bind]
    rw [← writtenEq, kept]
    simp [writeEq, PgError.ofException, Except.mapError, pure, Except.pure]
  · have keyLength : ([some (oidField baseTableOid), some (oidField indexOid)] ++
        keyValues.map SqlValue.toFieldValue).length = schema.numKeyColumns + 2 := by
      simp only [keyValues, List.length_append, List.length_map, List.length_take]
      simp
      omega
    rw [getKey_of_keyFields indexId schema record _ recordSchema keyLength keysKept]
    have keyPart : keys.map (fun attr => insertKeyValue [] row attr.attnum) =
        values.take keys.length := by
      rw [← shape.keyValues values basectid fits]
      apply List.map_congr_left
      intro attr member
      have positive := shape.attnum_pos attr (List.mem_append_left _ member)
      have notRowId : attr.attnum ≠ kPgRowId := by
        simp only [kPgRowId]
        omega
      simp [insertKeyValue, notRowId, row]
    have keyValuesEq : keyValues = values.take keys.length ++
        ((indexSystemColumns isUnique).take 1).map fun column => insertKeyValue [] row column.order := by
      simp only [keyValues]
      rw [shape.keyColumns, List.map_append, List.map_map, ← keyPart]
      rfl
    rw [keyValuesEq]
    unfold indexKeyFields
    cases isUnique <;> cases nulls : values.any SqlValue.isNull <;>
      simp [indexSystemColumns, insertKeyValue, row, indexBindValue, nulls, kPgRowId,
        kPgUniqueIdxKeySuffix, kPgIdxBaseTupleId, SqlValue.toFieldValue]

end Write

theorem IndexSchema.of_created {isUnique : Bool} {keys includes : List IndexAttr}
    {builder : SchemaBuilder} {schema : PgSchema}
    (attnums : (keys ++ includes).map IndexAttr.attnum =
      (List.range' 1 (keys ++ includes).length).map (Nat.cast : Nat → Int))
    (names : ((keys ++ includes).map IndexAttr.name ++
      ["k2pguniqueidxkeysuffix", "k2pgidxbasectid"]).Nodup)
    (includesNotHash : ∀ attr ∈ includes, attr.isHash = false)
    (created : k2PgCreateIndex isUnique keys.length (keys ++ includes) = .ok builder)
    (builtColumns : schema.columns = builder.cols)
    (builtKeys : schema.numKeyColumns = builder.numKeyColumns) :
    IndexSchema isUnique keys includes schema := by
  have builderEq := k2PgCreateIndex_eq isUnique keys includes builder names includesNotHash created
  refine ⟨attnums, ?_, ?_⟩
  · rw [builtColumns, builderEq]
  · rw [builtKeys, builderEq]
    rfl

section Duplicates

variable (codec : SkvClient) (collectionName indexId : String) (baseTableOid indexOid : UInt32)

theorem k2PgExecuteInsertIndex_key_collision_iff (txn : SkvTxn) (isUnique : Bool)
    (keys includes : List IndexAttr)
    (builder : SchemaBuilder) (schema : PgSchema) (skvSchema : Schema)
    (values₁ values₂ : List SqlValue) (basectid₁ basectid₂ : List UInt8)
    (attnums : (keys ++ includes).map IndexAttr.attnum =
      (List.range' 1 (keys ++ includes).length).map (Nat.cast : Nat → Int))
    (names : ((keys ++ includes).map IndexAttr.name ++
      ["k2pguniqueidxkeysuffix", "k2pgidxbasectid"]).Nodup)
    (includesNotHash : ∀ attr ∈ includes, attr.isHash = false)
    (created : k2PgCreateIndex isUnique keys.length (keys ++ includes) = .ok builder)
    (builtColumns : schema.columns = builder.cols)
    (builtKeys : schema.numKeyColumns = builder.numKeyColumns)
    (derived : deriveIndexSchema indexId schema = some skvSchema)
    (fits₁ : values₁.length = (keys ++ includes).length)
    (fits₂ : values₂.length = (keys ++ includes).length)
    (distinctRows : basectid₁ ≠ basectid₂) :
    ∃ record₁ record₂,
      k2PgExecuteInsertIndex codec
          (PgTableDesc.ofSchema collectionName indexId baseTableOid indexOid schema) (.ok skvSchema)
          isUnique values₁ (some basectid₁) =
        .ok (.write record₁ false (if isUnique then .NotExists else .None)) ∧
      k2PgExecuteInsertIndex codec
          (PgTableDesc.ofSchema collectionName indexId baseTableOid indexOid schema) (.ok skvSchema)
          isUnique values₂ (some basectid₂) =
        .ok (.write record₂ false (if isUnique then .NotExists else .None)) ∧
      (record₁.getKey = record₂.getKey ↔
        isUnique = true ∧ values₁.take keys.length = values₂.take keys.length ∧
          values₁.all (fun value => !value.isNull) ∧ values₂.all (fun value => !value.isNull)) ∧
      ∀ store : SkvStore, store.rows record₁.getKey = none → store.rows record₂.getKey = none →
        ∃ stored,
          k2PgExecuteInsertIndexOn codec txn
              (PgTableDesc.ofSchema collectionName indexId baseTableOid indexOid schema)
              (.ok skvSchema) isUnique values₁ (some basectid₁) store = .ok stored ∧
          k2PgExecuteInsertIndexOn codec txn
              (PgTableDesc.ofSchema collectionName indexId baseTableOid indexOid schema)
              (.ok skvSchema) isUnique values₂ (some basectid₂) stored =
            if record₁.getKey = record₂.getKey then
              .error (.status (K2Adapter.k2StatusToK2PgStatus K2Status.ConditionFailed))
            else .ok (txn.write stored record₂ false (if isUnique then .NotExists else .None)).2 := by
  have shape : IndexSchema isUnique keys includes schema :=
    IndexSchema.of_created attnums names includesNotHash created builtColumns builtKeys
  obtain rfl := deriveIndexSchema_some derived
  obtain ⟨record₁, insert₁, key₁⟩ := k2PgExecuteInsertIndex_write codec collectionName indexId
    baseTableOid indexOid shape values₁ basectid₁ fits₁
  obtain ⟨record₂, insert₂, key₂⟩ := k2PgExecuteInsertIndex_write codec collectionName indexId
    baseTableOid indexOid shape values₂ basectid₂ fits₂
  have collision : record₁.getKey = record₂.getKey ↔
      isUnique = true ∧ values₁.take keys.length = values₂.take keys.length ∧
        values₁.all (fun value => !value.isNull) ∧ values₂.all (fun value => !value.isNull) := by
    rw [key₁, key₂]
    exact indexKeyFields_eq_iff baseTableOid indexOid isUnique keys.length values₁ values₂
      basectid₁ basectid₂ distinctRows (by simp at fits₁; omega) (by simp at fits₂; omega)
  refine ⟨record₁, record₂, insert₁, insert₂, collision, ?_⟩
  intro store absent₁ absent₂
  have accepted₁ : (txn.apply store (.write record₁ false (if isUnique then .NotExists else .None))).1 =
      K2Status.OK := by
    cases isUnique
    · exact txn.write_none_status store record₁ false
    · simp [SkvTxn.apply, txn.write_notExists_status, absent₁]
  have storedRows := txn.write_accepted_rows store record₁ _ accepted₁
  refine ⟨(txn.write store record₁ false (if isUnique then .NotExists else .None)).2, ?_, ?_⟩
  · simp [k2PgExecuteInsertIndexOn, insert₁, execWriteCall_accepted _ _ _ _ accepted₁, bind,
      Except.bind, SkvTxn.apply, pure, Except.pure]
  · by_cases same : record₁.getKey = record₂.getKey
    · -- only a unique index can collide, and there the second entry is refused
      obtain rfl : isUnique = true := (collision.mp same).1
      rw [if_pos rfl] at storedRows
      have refused : (txn.apply (txn.write store record₁ false .NotExists).2
          (.write record₂ false .NotExists)).1 = K2Status.ConditionFailed := by
        simp [SkvTxn.apply, txn.write_notExists_status, storedRows, same]
      rw [if_pos same]
      simp [k2PgExecuteInsertIndexOn, insert₂, execWriteCall_insert_refused _ _ _ refused, bind,
        Except.bind]
    · have accepted₂ : (txn.apply (txn.write store record₁ false (if isUnique then .NotExists else .None)).2
          (.write record₂ false (if isUnique then .NotExists else .None))).1 = K2Status.OK := by
        cases isUnique
        · exact txn.write_none_status _ record₂ false
        · rw [if_pos rfl] at storedRows
          simp [SkvTxn.apply, txn.write_notExists_status, storedRows, Ne.symm same, absent₂]
      rw [if_neg same]
      simp [k2PgExecuteInsertIndexOn, insert₂, execWriteCall_accepted _ _ _ _ accepted₂, bind,
        Except.bind, SkvTxn.apply, pure, Except.pure]

def includeIndexKeys : List IndexAttr := [{ name := "a", attnum := 1, type := .K2SQL_DATA_TYPE_INT64 }]

def includeIndexIncludes : List IndexAttr :=
  [{ name := "b", attnum := 2, type := .K2SQL_DATA_TYPE_INT64 }]

def includeIndexSchema : PgSchema :=
  { columns := (indexSchemaBuilder true includeIndexKeys includeIndexIncludes).cols,
    columnIds := [0, 1, 2, 3], numKeyColumns := 2, version := 1,
    keysFirst := ⟨by decide, by decide, by decide, by decide⟩ }

def emptyStore : SkvStore := ⟨fun _ => none⟩

theorem k2PgExecuteInsertIndex_key_collision_iff_include :
    (includeIndexKeys ++ includeIndexIncludes).map IndexAttr.attnum =
        (List.range' 1 (includeIndexKeys ++ includeIndexIncludes).length).map (Nat.cast : Nat → Int) ∧
      ((includeIndexKeys ++ includeIndexIncludes).map IndexAttr.name ++
        ["k2pguniqueidxkeysuffix", "k2pgidxbasectid"]).Nodup ∧
      k2PgCreateIndex true includeIndexKeys.length (includeIndexKeys ++ includeIndexIncludes) =
        .ok (indexSchemaBuilder true includeIndexKeys includeIndexIncludes) ∧
      deriveIndexSchema "t_a_idx" includeIndexSchema =
        some (deriveSKVSchemaFromTableInfo "t_a_idx" includeIndexSchema) ∧
      [SqlValue.int 5, .null .INT].take 1 = [SqlValue.int 5, .int 7].take 1 ∧
      ([SqlValue.int 5, .null .INT].take 1).all (fun value => !value.isNull) ∧
      ∃ stored stored',
        k2PgExecuteInsertIndexOn unarySkvClient SkvTxn.reference
            (PgTableDesc.ofSchema "db" "t_a_idx" 16384 16390 includeIndexSchema)
            (.ok (deriveSKVSchemaFromTableInfo "t_a_idx" includeIndexSchema)) true
            [.int 5, .null .INT] (some [1]) emptyStore = .ok stored ∧
        k2PgExecuteInsertIndexOn unarySkvClient SkvTxn.reference
            (PgTableDesc.ofSchema "db" "t_a_idx" 16384 16390 includeIndexSchema)
            (.ok (deriveSKVSchemaFromTableInfo "t_a_idx" includeIndexSchema)) true
            [.int 5, .int 7] (some [2]) stored = .ok stored' := by
  have attnums : (includeIndexKeys ++ includeIndexIncludes).map IndexAttr.attnum =
      (List.range' 1 (includeIndexKeys ++ includeIndexIncludes).length).map (Nat.cast : Nat → Int) := by
    decide
  have names : ((includeIndexKeys ++ includeIndexIncludes).map IndexAttr.name ++
      ["k2pguniqueidxkeysuffix", "k2pgidxbasectid"]).Nodup := by decide
  have created : k2PgCreateIndex true includeIndexKeys.length
      (includeIndexKeys ++ includeIndexIncludes) =
        .ok (indexSchemaBuilder true includeIndexKeys includeIndexIncludes) := rfl
  have derived : deriveIndexSchema "t_a_idx" includeIndexSchema =
      some (deriveSKVSchemaFromTableInfo "t_a_idx" includeIndexSchema) := rfl
  obtain ⟨record₁, record₂, -, -, collision, inserts⟩ :=
    k2PgExecuteInsertIndex_key_collision_iff unarySkvClient "db" "t_a_idx" 16384 16390 SkvTxn.reference true
      includeIndexKeys includeIndexIncludes _ includeIndexSchema _ [.int 5, .null .INT]
      [.int 5, .int 7] [1] [2] attnums names (by decide) created rfl rfl derived rfl rfl (by decide)
  have differ : record₁.getKey ≠ record₂.getKey := by
    intro same
    have allSet := (collision.mp same).2.2.1
    exact absurd allSet (by decide)
  obtain ⟨stored, first, second⟩ := inserts emptyStore rfl rfl
  rw [if_neg differ] at second
  exact ⟨attnums, names, created, derived, rfl, by decide, stored, _, first, second⟩

end Duplicates

end ChogoriSql
