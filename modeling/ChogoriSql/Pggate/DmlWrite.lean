import ChogoriSql.Catalog.Schema
import ChogoriSql.Adapter.WriteOp

/-! The write statements of pggate (`PgDmlWrite`) as the executor drives them: the table
descriptor built from the catalog's schema, the key binds `PrepareColumns` allocates, the binds
`BindColumn` fills, `DeleteEmptyPrimaryBinds`, the k2pgctid `BuildPgTupleId` computes, and
`K2PgExecuteInsertInternal`, which inserts a row through all of them into `handleWriteOp`. -/

namespace ChogoriSql

def kPgTupleId : Int := -8

def kPgRowId : Int := -100

def ObjectIdAttributeNumber : Int := -2

structure PgColumnDesc where
  index : Nat
  name : String
  attrNum : Int
  isPrimary : Bool
  deriving DecidableEq, Repr

structure PgTableDesc where
  collectionName : String
  tableId : String
  baseTableOid : UInt32
  indexOid : UInt32
  schemaVersion : Nat
  columns : List PgColumnDesc
  deriving Repr

def PgSchema.columnDesc (schema : PgSchema) (idx : Nat) (column : ColumnSchema) : PgColumnDesc :=
  { index := idx, name := column.name, attrNum := column.order,
    isPrimary := decide (idx < schema.numKeyColumns) }

/-- `PgTableDesc(TableInfo)`, with index oid `0`, and `PgTableDesc(IndexInfo)`, with the base
table's oid and the index's; an index column is primary when it is a hash or range column,
which in a built schema are the first `num_key_columns`. -/
def PgTableDesc.ofSchema (collectionName tableId : String) (baseTableOid indexOid : UInt32)
    (schema : PgSchema) : PgTableDesc :=
  { collectionName, tableId, baseTableOid, indexOid, schemaVersion := schema.version,
    columns := schema.columns.mapIdx schema.columnDesc }

def PgTableDesc.findColumn (desc : PgTableDesc) (attrNum : Int) : Except Status PgColumnDesc :=
  match desc.columns.find? (·.attrNum == attrNum) with
  | some column => .ok column
  | none => .error { code := .invalidArgument, message := "Invalid column number " ++ toString attrNum }

inductive PgError where
  | status (status : Status)
  | exception (message : String)
  | error (message : String)
  deriving Repr

def PgError.ofStatus {α : Type} : Except Status α → Except PgError α :=
  Except.mapError .status

def PgError.ofException {α : Type} : Except String α → Except PgError α :=
  Except.mapError .exception

@[simp] theorem PgError.ofStatus_ok {α : Type} (value : α) :
    PgError.ofStatus (.ok value : Except Status α) = .ok value := rfl

@[simp] theorem PgError.ofException_ok {α : Type} (value : α) :
    PgError.ofException (.ok value : Except String α) = .ok value := rfl

def setBindExpr (idx : Int) (expr : PgExpr) (binds : List BindVariable) : List BindVariable :=
  binds.map fun bind => if bind.idx == idx then { bind with expr := some expr } else bind

namespace PgDmlWrite

def prepareColumns (columns : List PgColumnDesc) (rowId : List UInt8) : List BindVariable :=
  columns.filterMap fun column =>
    if column.isPrimary then
      if column.attrNum == kPgRowId then
        some { idx := column.index, expr := some (.constant (.slice rowId)) }
      else some { idx := column.index }
    else none

def prepare (desc : PgTableDesc) (stmtType : StmtType) (rowId : List UInt8) : SqlOpWriteRequest :=
  { collectionName := desc.collectionName, tableId := desc.tableId,
    baseTableOid := desc.baseTableOid, indexOid := desc.indexOid,
    schemaVersion := desc.schemaVersion, keyColumnValues := prepareColumns desc.columns rowId,
    stmtType }

def bindColumn (desc : PgTableDesc) (request : SqlOpWriteRequest) (attrNum : Int)
    (value : SqlValue) : Except Status SqlOpWriteRequest :=
  if attrNum == kPgTupleId then
    .ok { request with k2pgctidColumnValue := some { idx := kPgTupleId, expr := some (.constant value) } }
  else
    (desc.findColumn attrNum).map fun column =>
      if column.isPrimary then
        { request with
          keyColumnValues := setBindExpr column.index (.constant value) request.keyColumnValues }
      else if request.columnValues.any (·.idx == column.index) then
        { request with
          columnValues := setBindExpr column.index (.constant value) request.columnValues }
      else
        { request with
          columnValues := request.columnValues ++
            [{ idx := column.index, expr := some (.constant value) }] }

/-- `PgDmlWrite::DeleteEmptyPrimaryBinds`: an INSERT, or a write without a k2pgctid, keeps the
bound key binds and needs all of them unless the whole table is bound; any other write drops
the key binds. -/
def deleteEmptyPrimaryBinds (request : SqlOpWriteRequest) (bindTable : Bool) :
    Except Status SqlOpWriteRequest :=
  if request.stmtType == .PGSQL_INSERT || request.k2pgctidColumnValue.isNone then
    let kept := request.keyColumnValues.filter fun bind => bind.expr.isSome
    if kept.length < request.keyColumnValues.length && !bindTable then
      .error { code := .invalidArgument,
               message := "Primary key must be fully specified for modifying table" }
    else .ok { request with keyColumnValues := kept }
  else .ok { request with keyColumnValues := [] }

end PgDmlWrite

structure PgAttrValueDescriptor where
  attrNum : Int
  value : SqlValue
  deriving Repr

namespace PgDml

def boundValue (binds : List BindVariable) (idx : Int) : Option SqlValue :=
  (binds.find? (·.idx == idx)).bind fun bind => bind.expr.bind PgExpr.getValue?

def tupleIdValue (keyBinds : List BindVariable) (column : PgColumnDesc)
    (values : String → Option SqlValue) (attr : PgAttrValueDescriptor) :
    Except Status (String → Option SqlValue) :=
  if attr.attrNum != column.attrNum then .ok values
  else if !column.isPrimary then
    .error { code := .invalidArgument,
             message := "Attribute number " ++ toString attr.attrNum ++ " not a primary attribute" }
  else if attr.attrNum == kPgRowId then
    .ok (Function.update values column.name (boundValue keyBinds column.index))
  else .ok (Function.update values column.name (some attr.value))

def tupleIdValues (columns : List PgColumnDesc) (keyBinds : List BindVariable)
    (attrs : List PgAttrValueDescriptor) : Except Status (String → Option SqlValue) :=
  columns.foldlM (fun values column => attrs.foldlM (tupleIdValue keyBinds column) values)
    fun _ => none

/-- `PgDml::BuildPgTupleId`, which hands the key values to `GetRowId`. -/
def buildPgTupleId (codec : SkvClient) (desc : PgTableDesc) (request : SqlOpWriteRequest)
    (schemaResult : Except K2Status Schema) (attrs : List PgAttrValueDescriptor) :
    Except PgError (List UInt8) := do
  let values ← PgError.ofStatus (tupleIdValues desc.columns request.keyColumnValues attrs)
  PgError.ofException (K2Adapter.getRowId codec desc.collectionName desc.tableId schemaResult
    desc.baseTableOid desc.indexOid values)

end PgDml

def k2PgGetPgTupleIdFromTuple (codec : SkvClient) (desc : PgTableDesc)
    (request : SqlOpWriteRequest) (schemaResult : Except K2Status Schema) (pkAttnums : List Int)
    (row : Int → SqlValue) : Except PgError (List UInt8) :=
  PgDml.buildPgTupleId codec desc request schemaResult (pkAttnums.map fun attnum =>
    { attrNum := attnum, value := if attnum == kPgRowId then .null .UNKNOWN else row attnum })

def bindInsertColumn (desc : PgTableDesc) (pkAttnums : List Int) (row : Int → SqlValue)
    (request : SqlOpWriteRequest) (attnum : Int) : Except PgError SqlOpWriteRequest :=
  if (row attnum).isNull && pkAttnums.contains attnum then
    .error (.error "Missing/null value for primary key column")
  else PgError.ofStatus (PgDmlWrite.bindColumn desc request attnum (row attnum))

def insertRequest (desc : PgTableDesc) (rowId tupleId : List UInt8) (pkAttnums attnums : List Int)
    (row : Int → SqlValue) : Except PgError SqlOpWriteRequest := do
  -- `K2PgBindTupleId`
  let request ← PgError.ofStatus (PgDmlWrite.bindColumn desc
    (PgDmlWrite.prepare desc .PGSQL_INSERT rowId) kPgTupleId (.slice tupleId))
  let request ← attnums.foldlM (bindInsertColumn desc pkAttnums row) request
  PgError.ofStatus (PgDmlWrite.deleteEmptyPrimaryBinds request false)

def k2PgExecuteInsert (codec : SkvClient) (desc : PgTableDesc)
    (schemaResult : Except K2Status Schema) (rowId : List UInt8) (pkAttnums attnums : List Int)
    (row : Int → SqlValue) : Except PgError (List UInt8 × SkvWriteCall) := do
  let tupleId ← k2PgGetPgTupleIdFromTuple codec desc (PgDmlWrite.prepare desc .PGSQL_INSERT rowId)
    schemaResult pkAttnums row
  let request ← insertRequest desc rowId tupleId pkAttnums attnums row
  match ← PgError.ofException (K2Adapter.prepareWriteOp codec request schemaResult) with
  | .error status => .error (.status status)
  | .ok call => pure (tupleId, call)

theorem List.find?_key_of_mem {α β : Type} [BEq β] [LawfulBEq β] {items : List α} {key : α → β}
    (distinct : (items.map key).Nodup) {item : α} (member : item ∈ items) :
    items.find? (fun other => key other == key item) = some item := by
  cases found : items.find? (fun other => key other == key item) with
  | none =>
      have := List.find?_eq_none.mp found item member
      simp at this
  | some other =>
      have same := List.find?_some found
      simp only [beq_iff_eq] at same
      rw [List.inj_on_of_nodup_map distinct (List.mem_of_find?_eq_some found) member same]

section TableDesc

variable (collectionName tableId : String) (baseTableOid indexOid : UInt32) (schema : PgSchema)

@[simp] theorem PgTableDesc.ofSchema_columns :
    (PgTableDesc.ofSchema collectionName tableId baseTableOid indexOid schema).columns =
      schema.columns.mapIdx schema.columnDesc := rfl

theorem PgSchema.mem_columnDescs {column : PgColumnDesc} :
    column ∈ schema.columns.mapIdx schema.columnDesc ↔
      ∃ idx, ∃ bound : idx < schema.columns.length,
        schema.columnDesc idx schema.columns[idx] = column :=
  List.mem_mapIdx

theorem PgSchema.columnDescs_attrNum (columns : List ColumnSchema) :
    (columns.mapIdx schema.columnDesc).map PgColumnDesc.attrNum =
      columns.map ColumnSchema.order := by
  apply List.ext_getElem <;> simp [PgSchema.columnDesc]

theorem PgSchema.columnDescs_index :
    (schema.columns.mapIdx schema.columnDesc).map PgColumnDesc.index =
      List.range schema.columns.length := by
  apply List.ext_getElem <;> simp [PgSchema.columnDesc]

theorem PgSchema.columnDescs_name :
    (schema.columns.mapIdx schema.columnDesc).map PgColumnDesc.name =
      schema.columns.map ColumnSchema.name := by
  apply List.ext_getElem <;> simp [PgSchema.columnDesc]

theorem PgSchema.columnDescs_primary :
    (schema.columns.mapIdx schema.columnDesc).filter (·.isPrimary) =
      (schema.columns.take schema.numKeyColumns).mapIdx schema.columnDesc := by
  have bound := schema.keysFirst.numKeyColumns_le
  conv_lhs => rw [← List.take_append_drop schema.numKeyColumns schema.columns]
  rw [List.mapIdx_append, List.filter_append, List.filter_eq_self.mpr, List.filter_eq_nil_iff.mpr,
    List.append_nil]
  · intro column member
    obtain ⟨idx, idxBound, rfl⟩ := List.mem_mapIdx.mp member
    simp [PgSchema.columnDesc, bound]
  · intro column member
    obtain ⟨idx, idxBound, rfl⟩ := List.mem_mapIdx.mp member
    simp only [List.length_take] at idxBound
    simp [PgSchema.columnDesc]
    omega

theorem PgSchema.columnDesc_isPrimary {column : PgColumnDesc}
    (member : column ∈ schema.columns.mapIdx schema.columnDesc) :
    column.isPrimary = decide (column.index < schema.numKeyColumns) ∧
      column.index < schema.columns.length := by
  obtain ⟨idx, bound, rfl⟩ := (PgSchema.mem_columnDescs schema).mp member
  exact ⟨rfl, bound⟩

theorem PgTableDesc.findColumn_of_mem (desc : PgTableDesc)
    (attrNums : (desc.columns.map PgColumnDesc.attrNum).Nodup) {column : PgColumnDesc}
    (member : column ∈ desc.columns) : desc.findColumn column.attrNum = .ok column := by
  simp [PgTableDesc.findColumn, List.find?_key_of_mem attrNums member]

end TableDesc

section TupleId

def insertKeyValue (rowId : List UInt8) (row : Int → SqlValue) (attrNum : Int) : SqlValue :=
  if attrNum == kPgRowId then .slice rowId else row attrNum

def initialKeyBind (rowId : List UInt8) (column : PgColumnDesc) : BindVariable :=
  { idx := column.index,
    expr := if column.attrNum == kPgRowId then some (.constant (.slice rowId)) else none }

theorem PgDmlWrite.prepareColumns_eq (columns : List PgColumnDesc) (rowId : List UInt8) :
    PgDmlWrite.prepareColumns columns rowId =
      (columns.filter (·.isPrimary)).map (initialKeyBind rowId) := by
  induction columns with
  | nil => rfl
  | cons column rest ih =>
      by_cases primary : column.isPrimary
      · by_cases rowIdColumn : column.attrNum = kPgRowId <;>
          simp [PgDmlWrite.prepareColumns, primary, rowIdColumn, initialKeyBind, ← ih]
      · simp [PgDmlWrite.prepareColumns, primary, ← ih]

theorem PgDml.boundValue_map (columns : List PgColumnDesc) (expr : PgColumnDesc → Option PgExpr)
    (indexes : (columns.map PgColumnDesc.index).Nodup) {column : PgColumnDesc}
    (member : column ∈ columns) :
    PgDml.boundValue (columns.map fun other => { idx := other.index, expr := expr other })
      column.index = (expr column).bind PgExpr.getValue? := by
  have distinct : (columns.map fun other => (other.index : Int)).Nodup := by
    simpa [List.map_map, Function.comp_def] using List.Nodup.map Nat.cast_injective indexes
  have found := List.find?_key_of_mem distinct member
  simp only [PgDml.boundValue, List.find?_map]
  simp [found]

def tupleKeyValue (keyBinds : List BindVariable) (row : Int → SqlValue) (column : PgColumnDesc) :
    Option SqlValue :=
  if column.attrNum == kPgRowId then PgDml.boundValue keyBinds column.index
  else some (row column.attrNum)

def tupleAttrs (pkAttnums : List Int) (row : Int → SqlValue) : List PgAttrValueDescriptor :=
  pkAttnums.map fun attnum =>
    { attrNum := attnum, value := if attnum == kPgRowId then .null .UNKNOWN else row attnum }

theorem k2PgGetPgTupleIdFromTuple_eq (codec : SkvClient) (desc : PgTableDesc)
    (request : SqlOpWriteRequest) (schemaResult : Except K2Status Schema) (pkAttnums : List Int)
    (row : Int → SqlValue) :
    k2PgGetPgTupleIdFromTuple codec desc request schemaResult pkAttnums row =
      PgDml.buildPgTupleId codec desc request schemaResult (tupleAttrs pkAttnums row) := rfl

theorem foldlM_tupleIdValue_absent (keyBinds : List BindVariable) (row : Int → SqlValue)
    (column : PgColumnDesc) :
    ∀ (pkAttnums : List Int) (values : String → Option SqlValue), column.attrNum ∉ pkAttnums →
      (tupleAttrs pkAttnums row).foldlM (PgDml.tupleIdValue keyBinds column) values = .ok values
  | [], values, _ => rfl
  | attnum :: rest, values, absent => by
      have other : attnum ≠ column.attrNum := fun same => absent (by simp [same])
      have next := foldlM_tupleIdValue_absent keyBinds row column rest values
        (fun member => absent (by simp [member]))
      have step : PgDml.tupleIdValue keyBinds column values
          { attrNum := attnum, value := if attnum == kPgRowId then .null .UNKNOWN else row attnum } =
          .ok values := by
        simp [PgDml.tupleIdValue, other]
      rw [tupleAttrs, List.map_cons, List.foldlM_cons, step]
      exact next

theorem foldlM_tupleIdValue_primary (keyBinds : List BindVariable) (row : Int → SqlValue)
    (column : PgColumnDesc) (primary : column.isPrimary = true) :
    ∀ (pkAttnums : List Int) (values : String → Option SqlValue),
      (tupleAttrs pkAttnums row).foldlM (PgDml.tupleIdValue keyBinds column) values =
        .ok (if column.attrNum ∈ pkAttnums then
          Function.update values column.name (tupleKeyValue keyBinds row column) else values)
  | [], values => rfl
  | attnum :: rest, values => by
      have next := foldlM_tupleIdValue_primary keyBinds row column primary rest
      simp only [tupleAttrs, List.map_cons, List.foldlM_cons] at next ⊢
      by_cases same : attnum = column.attrNum
      · have step : PgDml.tupleIdValue keyBinds column values
            { attrNum := attnum, value := if attnum == kPgRowId then .null .UNKNOWN else row attnum } =
            .ok (Function.update values column.name (tupleKeyValue keyBinds row column)) := by
          by_cases rowIdColumn : column.attrNum = kPgRowId <;>
            simp [PgDml.tupleIdValue, same, primary, rowIdColumn, tupleKeyValue]
        rw [step]
        simp only [bind, Except.bind, next, same, List.mem_cons, true_or, if_true]
        split <;> simp [Function.update_idem]
      · have step : PgDml.tupleIdValue keyBinds column values
            { attrNum := attnum, value := if attnum == kPgRowId then .null .UNKNOWN else row attnum } =
            .ok values := by
          simp [PgDml.tupleIdValue, same]
        rw [step]
        simp only [bind, Except.bind, next, List.mem_cons]
        simp [Ne.symm same]

def tupleIdUpdate (keyBinds : List BindVariable) (row : Int → SqlValue)
    (values : String → Option SqlValue) (column : PgColumnDesc) : String → Option SqlValue :=
  if column.isPrimary then Function.update values column.name (tupleKeyValue keyBinds row column)
  else values

theorem tupleIdValues_eq (keyBinds : List BindVariable) (row : Int → SqlValue)
    (pkAttnums : List Int) :
    ∀ (columns : List PgColumnDesc) (values : String → Option SqlValue),
      (∀ column ∈ columns, column.attrNum ∈ pkAttnums ↔ column.isPrimary = true) →
      columns.foldlM (fun values column =>
          (tupleAttrs pkAttnums row).foldlM (PgDml.tupleIdValue keyBinds column) values) values =
        .ok (columns.foldl (tupleIdUpdate keyBinds row) values)
  | [], values, _ => rfl
  | column :: rest, values, named => by
      have inner : (tupleAttrs pkAttnums row).foldlM (PgDml.tupleIdValue keyBinds column) values =
          .ok (tupleIdUpdate keyBinds row values column) := by
        by_cases primary : column.isPrimary
        · have present := (named column (by simp)).mpr primary
          simp [foldlM_tupleIdValue_primary keyBinds row column primary, present, tupleIdUpdate,
            primary]
        · have absent : column.attrNum ∉ pkAttnums := fun member =>
            primary ((named column (by simp)).mp member)
          simp [foldlM_tupleIdValue_absent keyBinds row column pkAttnums values absent,
            tupleIdUpdate, primary]
      rw [List.foldlM_cons, inner]
      exact tupleIdValues_eq keyBinds row pkAttnums rest _
        (fun other member => named other (by simp [member]))

theorem foldl_tupleIdUpdate_absent (keyBinds : List BindVariable) (row : Int → SqlValue)
    (name : String) :
    ∀ (columns : List PgColumnDesc) (values : String → Option SqlValue),
      name ∉ columns.map PgColumnDesc.name →
      columns.foldl (tupleIdUpdate keyBinds row) values name = values name
  | [], _, _ => rfl
  | column :: rest, values, absent => by
      have other : name ≠ column.name := fun same => absent (by simp [same])
      rw [List.foldl_cons, foldl_tupleIdUpdate_absent keyBinds row name rest _
        (fun member => absent (by simp [member]))]
      unfold tupleIdUpdate
      split <;> simp [other]

theorem foldl_tupleIdUpdate_mem (keyBinds : List BindVariable) (row : Int → SqlValue) :
    ∀ (columns : List PgColumnDesc) (values : String → Option SqlValue),
      (columns.map PgColumnDesc.name).Nodup → ∀ column ∈ columns,
        columns.foldl (tupleIdUpdate keyBinds row) values column.name =
          if column.isPrimary then tupleKeyValue keyBinds row column else values column.name
  | [], _, _, column, member => by simp at member
  | first :: rest, values, names, column, member => by
      rw [List.map_cons, List.nodup_cons] at names
      rw [List.foldl_cons]
      rcases List.mem_cons.mp member with rfl | later
      · rw [foldl_tupleIdUpdate_absent keyBinds row _ rest _ names.1]
        unfold tupleIdUpdate
        split <;> simp [*]
      · have differ : column.name ≠ first.name := fun same =>
          names.1 (same ▸ List.mem_map_of_mem later)
        have unchanged : tupleIdUpdate keyBinds row values first column.name = values column.name := by
          unfold tupleIdUpdate
          split <;> simp [differ]
        rw [foldl_tupleIdUpdate_mem keyBinds row rest _ names.2 column later, unchanged]

end TupleId

section Bind

variable (desc : PgTableDesc) (rowId : List UInt8) (row : Int → SqlValue)

def insertKeyBind (done : List Int) (column : PgColumnDesc) : BindVariable :=
  { idx := column.index,
    expr := if column.attrNum ∈ done then some (.constant (row column.attrNum))
      else (initialKeyBind rowId column).expr }

structure InsertBinds (base : SqlOpWriteRequest) (done : List Int) (request : SqlOpWriteRequest) :
    Prop where
  shape : request = { base with
    keyColumnValues := (desc.columns.filter (·.isPrimary)).map (insertKeyBind rowId row done),
    columnValues := request.columnValues }
  values : ∀ bind ∈ request.columnValues, ∃ column ∈ desc.columns, column.isPrimary = false ∧
    bind = { idx := column.index, expr := some (.constant (row column.attrNum)) }
  distinct : (request.columnValues.map BindVariable.idx).Nodup

variable {desc}

theorem InsertBinds.start (base : SqlOpWriteRequest)
    (keys : base.keyColumnValues = PgDmlWrite.prepareColumns desc.columns rowId)
    (noValues : base.columnValues = []) : InsertBinds desc rowId row base [] base := by
  have initial : PgDmlWrite.prepareColumns desc.columns rowId =
      (desc.columns.filter (·.isPrimary)).map (insertKeyBind rowId row []) := by
    rw [PgDmlWrite.prepareColumns_eq]
    rfl
  refine ⟨?_, by simp [noValues], by simp [noValues]⟩
  rw [← initial, ← keys]

theorem insertKeyBind_other (attrNums : (desc.columns.map PgColumnDesc.attrNum).Nodup)
    (done : List Int) {column other : PgColumnDesc}
    (member : column ∈ desc.columns) (otherMember : other ∈ desc.columns) (differ : other ≠ column) :
    insertKeyBind rowId row (done ++ [column.attrNum]) other = insertKeyBind rowId row done other := by
  have attrDiffer : other.attrNum ≠ column.attrNum := fun same =>
    differ (List.inj_on_of_nodup_map attrNums otherMember member same)
  simp [insertKeyBind, attrDiffer]

section Distinct

variable (indexes : (desc.columns.map PgColumnDesc.index).Nodup)
  (attrNums : (desc.columns.map PgColumnDesc.attrNum).Nodup)
include indexes attrNums

theorem setBindExpr_insertKeyBinds (done : List Int) {column : PgColumnDesc}
    (member : column ∈ desc.columns) :
    setBindExpr column.index (.constant (row column.attrNum))
        ((desc.columns.filter (·.isPrimary)).map (insertKeyBind rowId row done)) =
      (desc.columns.filter (·.isPrimary)).map (insertKeyBind rowId row (done ++ [column.attrNum])) := by
  simp only [setBindExpr, List.map_map]
  apply List.map_congr_left
  intro other otherMember
  have otherInDesc := (List.mem_filter.mp otherMember).1
  by_cases same : other = column
  · subst same
    simp [insertKeyBind]
  · have indexDiffer : (other.index : Int) ≠ column.index := fun equal =>
      same (List.inj_on_of_nodup_map indexes otherInDesc member (by exact_mod_cast equal))
    simp only [Function.comp_apply]
    rw [insertKeyBind_other rowId row attrNums done member otherInDesc same]
    simp [insertKeyBind, indexDiffer]

theorem bindColumn_insertBinds (base : SqlOpWriteRequest) (done : List Int)
    (request : SqlOpWriteRequest) (bound : InsertBinds desc rowId row base done request)
    {column : PgColumnDesc} (member : column ∈ desc.columns) (notTupleId : column.attrNum ≠ kPgTupleId) :
    ∃ next, PgDmlWrite.bindColumn desc request column.attrNum (row column.attrNum) = .ok next ∧
      InsertBinds desc rowId row base (done ++ [column.attrNum]) next := by
  obtain ⟨shape, values, distinct⟩ := bound
  have found := PgTableDesc.findColumn_of_mem desc attrNums member
  simp only [PgDmlWrite.bindColumn, beq_iff_eq, notTupleId, if_false, found, Except.map]
  by_cases primary : column.isPrimary
  · simp only [primary, if_true]
    refine ⟨_, rfl, ⟨?_, values, distinct⟩⟩
    rw [shape]
    simp [setBindExpr_insertKeyBinds rowId row indexes attrNums done member]
  · have keys : (desc.columns.filter (·.isPrimary)).map (insertKeyBind rowId row (done ++ [column.attrNum])) =
        (desc.columns.filter (·.isPrimary)).map (insertKeyBind rowId row done) := by
      apply List.map_congr_left
      intro other otherMember
      have otherPrimary := (List.mem_filter.mp otherMember).2
      exact insertKeyBind_other rowId row attrNums done member (List.mem_filter.mp otherMember).1
        (fun same => primary (same ▸ otherPrimary))
    simp only [primary, if_false, Bool.false_eq_true]
    by_cases present : request.columnValues.any (·.idx == column.index)
    · refine ⟨_, rfl, ⟨?_, ?_, ?_⟩⟩
      · simp only [present, if_true]
        rw [shape]
        simp [keys]
      · intro bind bindMember
        simp only [present, if_true, setBindExpr, List.mem_map] at bindMember
        obtain ⟨old, oldMember, rfl⟩ := bindMember
        obtain ⟨owner, ownerMember, ownerNotPrimary, rfl⟩ := values old oldMember
        by_cases same : (owner.index : Int) = column.index
        · have : owner = column :=
            List.inj_on_of_nodup_map indexes ownerMember member (by exact_mod_cast same)
          subst this
          exact ⟨owner, ownerMember, ownerNotPrimary, by simp⟩
        · exact ⟨owner, ownerMember, ownerNotPrimary, by simp [same]⟩
      · simp only [present, if_true, setBindExpr, List.map_map]
        convert distinct using 1
        apply List.map_congr_left
        intro bind _
        simp only [Function.comp_apply]
        split <;> rfl
    · refine ⟨_, rfl, ⟨?_, ?_, ?_⟩⟩
      · simp only [present, if_false, Bool.false_eq_true]
        rw [shape]
        simp [keys]
      · intro bind bindMember
        simp only [present, if_false, Bool.false_eq_true, List.mem_append, List.mem_singleton]
          at bindMember
        rcases bindMember with old | rfl
        · exact values bind old
        · exact ⟨column, member, by simpa using primary, rfl⟩
      · simp only [present, if_false, Bool.false_eq_true, List.map_append, List.map_singleton]
        apply List.nodup_append.mpr
        refine ⟨distinct, List.nodup_singleton _, ?_⟩
        intro idx old idx' new
        simp only [List.mem_singleton] at new
        subst new
        intro same
        subst same
        simp only [List.any_eq_true, beq_iff_eq, not_exists, not_and] at present
        obtain ⟨bind, bindMember, same⟩ := List.mem_map.mp old
        exact present bind bindMember same

theorem foldlM_bindInsertColumn (pkAttnums : List Int) (base : SqlOpWriteRequest) :
    ∀ (attnums done : List Int) (request : SqlOpWriteRequest),
      InsertBinds desc rowId row base done request →
      (∀ attnum ∈ attnums, ∃ column ∈ desc.columns, column.attrNum = attnum) →
      (∀ attnum ∈ attnums, attnum ≠ kPgTupleId) →
      (∀ attnum ∈ attnums, (row attnum).isNull = true → attnum ∉ pkAttnums) →
      ∃ final, attnums.foldlM (bindInsertColumn desc pkAttnums row) request = .ok final ∧
        InsertBinds desc rowId row base (done ++ attnums) final
  | [], done, request, bound, _, _, _ => ⟨request, rfl, by simpa using bound⟩
  | attnum :: rest, done, request, bound, columns, notTupleId, notNull => by
      obtain ⟨column, member, rfl⟩ := columns attnum (by simp)
      obtain ⟨next, step, nextBound⟩ := bindColumn_insertBinds rowId row indexes attrNums base done
        request bound member (notTupleId _ (by simp))
      have checked : bindInsertColumn desc pkAttnums row request column.attrNum = .ok next := by
        have keyNotNull := notNull column.attrNum (by simp)
        unfold bindInsertColumn
        rw [if_neg (by simpa using fun isNull present => keyNotNull isNull present), PgError.ofStatus,
          step]
        rfl
      obtain ⟨final, run, finalBound⟩ := foldlM_bindInsertColumn pkAttnums base rest
        (done ++ [column.attrNum]) next nextBound
        (fun other member => columns other (by simp [member]))
        (fun other member => notTupleId other (by simp [member]))
        (fun other member => notNull other (by simp [member]))
      refine ⟨final, ?_, by simpa using finalBound⟩
      rw [List.foldlM_cons, checked]
      exact run

end Distinct

end Bind

section Insert

variable (codec : SkvClient) (collectionName tableId : String) (baseTableOid indexOid : UInt32)
  (schema : PgSchema) (rowId : List UInt8) (row : Int → SqlValue)

def insertKeyFields : List (Option FieldValue) :=
  [some (oidField baseTableOid), some (oidField indexOid)] ++
    (schema.columns.take schema.numKeyColumns).map fun column =>
      (insertKeyValue rowId row column.order).toFieldValue

theorem insertKeyFields_length :
    (insertKeyFields baseTableOid indexOid schema rowId row).length = schema.numKeyColumns + 2 := by
  simp [insertKeyFields, schema.keysFirst.numKeyColumns_le]

theorem PgTableDesc.ofSchema_distinct
    (ordersNodup : (schema.columns.map ColumnSchema.order).Nodup) :
    ((PgTableDesc.ofSchema collectionName tableId baseTableOid indexOid schema).columns.map PgColumnDesc.index).Nodup ∧
      ((PgTableDesc.ofSchema collectionName tableId baseTableOid indexOid schema).columns.map
        PgColumnDesc.attrNum).Nodup ∧
      ((PgTableDesc.ofSchema collectionName tableId baseTableOid indexOid schema).columns.map
        PgColumnDesc.name).Nodup := by
  simp only [PgTableDesc.ofSchema_columns, PgSchema.columnDescs_index, PgSchema.columnDescs_attrNum,
    PgSchema.columnDescs_name]
  exact ⟨List.nodup_range, ordersNodup, schema.keysFirst.namesNodup⟩

theorem PgSchema.columnDesc_mem (idx : Nat) (bound : idx < schema.columns.length) :
    schema.columnDesc idx schema.columns[idx] ∈ schema.columns.mapIdx schema.columnDesc :=
  (PgSchema.mem_columnDescs schema).mpr ⟨idx, bound, rfl⟩

theorem PgSchema.exists_columnDesc {attrNum : Int}
    (member : attrNum ∈ schema.columns.map ColumnSchema.order) :
    ∃ column ∈ schema.columns.mapIdx schema.columnDesc, column.attrNum = attrNum := by
  obtain ⟨column, columnMember, same⟩ := List.mem_map.mp member
  obtain ⟨idx, bound, rfl⟩ := List.getElem_of_mem columnMember
  exact ⟨_, PgSchema.columnDesc_mem schema idx bound, same⟩

theorem tupleIdValues_insert (pkAttnums : List Int)
    (ordersNodup : (schema.columns.map ColumnSchema.order).Nodup)
    (pkNamed : ∀ column ∈ (PgTableDesc.ofSchema collectionName tableId baseTableOid indexOid schema).columns,
      column.attrNum ∈ pkAttnums ↔ column.isPrimary = true) :
    ∃ values, PgDml.tupleIdValues (PgTableDesc.ofSchema collectionName tableId baseTableOid indexOid schema).columns
        (PgDmlWrite.prepare (PgTableDesc.ofSchema collectionName tableId baseTableOid indexOid schema)
          .PGSQL_INSERT rowId).keyColumnValues (tupleAttrs pkAttnums row) = .ok values ∧
      ∀ idx (bound : idx < schema.columns.length), values schema.columns[idx].name =
        if idx < schema.numKeyColumns then some (insertKeyValue rowId row schema.columns[idx].order)
        else none := by
  obtain ⟨indexes, -, names⟩ :=
    PgTableDesc.ofSchema_distinct collectionName tableId baseTableOid indexOid schema ordersNodup
  refine ⟨_, tupleIdValues_eq _ row pkAttnums _ _ pkNamed, ?_⟩
  intro idx bound
  have member := PgSchema.columnDesc_mem schema idx bound
  have evaluated := foldl_tupleIdUpdate_mem
    (PgDmlWrite.prepare (PgTableDesc.ofSchema collectionName tableId baseTableOid indexOid schema) .PGSQL_INSERT
      rowId).keyColumnValues row _ (fun _ => none) names _ member
  simp only [PgSchema.columnDesc] at evaluated
  rw [evaluated]
  by_cases key : idx < schema.numKeyColumns
  · have primaryMember : schema.columnDesc idx schema.columns[idx] ∈
        (schema.columns.mapIdx schema.columnDesc).filter (·.isPrimary) :=
      List.mem_filter.mpr ⟨member, by simp [PgSchema.columnDesc, key]⟩
    have primaryIndexes := (@List.filter_sublist _ (·.isPrimary) _).map PgColumnDesc.index
      |>.nodup (by simpa using indexes)
    have bound : PgDml.boundValue (((schema.columns.mapIdx schema.columnDesc).filter
        (·.isPrimary)).map (initialKeyBind rowId)) idx =
        (initialKeyBind rowId (schema.columnDesc idx schema.columns[idx])).expr.bind
          PgExpr.getValue? :=
      PgDml.boundValue_map _ (fun column => (initialKeyBind rowId column).expr)
        primaryIndexes primaryMember
    simp only [PgDmlWrite.prepare, PgDmlWrite.prepareColumns_eq, PgTableDesc.ofSchema_columns]
    by_cases rowIdColumn : schema.columns[idx].order = kPgRowId
    · simp [key, tupleKeyValue, rowIdColumn, insertKeyValue, bound, initialKeyBind, PgSchema.columnDesc,
        PgExpr.getValue?]
    · simp [key, tupleKeyValue, rowIdColumn, insertKeyValue]
  · simp [key]

theorem map_insertKeyValues (values : String → Option SqlValue)
    (valuesAt : ∀ idx (bound : idx < schema.columns.length), values schema.columns[idx].name =
      if idx < schema.numKeyColumns then some (insertKeyValue rowId row schema.columns[idx].order)
      else none) :
    schema.columns.map (fun column => (values column.name).bind SqlValue.toFieldValue) =
      (schema.columns.take schema.numKeyColumns).map (fun column =>
        (insertKeyValue rowId row column.order).toFieldValue) ++
      List.replicate (schema.columns.length - schema.numKeyColumns) none := by
  have keysFit := schema.keysFirst.numKeyColumns_le
  apply List.ext_getElem
  · simp
    omega
  · intro idx bound _
    simp only [List.length_map] at bound
    rw [List.getElem_map, valuesAt idx bound]
    by_cases key : idx < schema.numKeyColumns
    · rw [List.getElem_append_left (by simp; omega)]
      simp [key]
    · rw [List.getElem_append_right (by simp; omega)]
      simp [key]

def insertRowIdStorage : Storage :=
  { fieldData := insertKeyFields baseTableOid indexOid schema rowId row ++
      List.replicate (schema.columns.length - schema.numKeyColumns) none,
    schemaName := tableId, schemaVersion := schema.version }

theorem k2PgGetPgTupleIdFromTuple_insert (pkAttnums : List Int)
    (ordersNodup : (schema.columns.map ColumnSchema.order).Nodup)
    (pkNamed : ∀ column ∈ (PgTableDesc.ofSchema collectionName tableId baseTableOid indexOid schema).columns,
      column.attrNum ∈ pkAttnums ↔ column.isPrimary = true) :
    k2PgGetPgTupleIdFromTuple codec (PgTableDesc.ofSchema collectionName tableId baseTableOid indexOid schema)
        (PgDmlWrite.prepare (PgTableDesc.ofSchema collectionName tableId baseTableOid indexOid schema)
          .PGSQL_INSERT rowId)
        (.ok (deriveSKVSchemaFromTableInfo tableId schema)) pkAttnums row =
      .ok (codec.write (insertRowIdStorage tableId baseTableOid indexOid schema rowId row)) := by
  obtain ⟨values, valuesEq, valuesAt⟩ :=
    tupleIdValues_insert collectionName tableId baseTableOid indexOid schema rowId row pkAttnums ordersNodup pkNamed
  rw [k2PgGetPgTupleIdFromTuple_eq]
  simp only [PgDml.buildPgTupleId, valuesEq, PgError.ofStatus_ok, bind, Except.bind,
    K2Adapter.getRowId, PgError.ofException_ok, K2Adapter.serializeSKVRecordToString]
  congr 2
  simp only [SKVRecord.getStorage, serializeNamedValues_fieldData, serializeNamedValues_schema]
  have fields : (deriveSKVSchemaFromTableInfo tableId schema).fields.drop SKV_FIELD_OFFSET =
      schema.columns.map ColumnSchema.toSchemaField := by
    simp [deriveSKVSchemaFromTableInfo, defaultPartitionKeyFields, SKV_FIELD_OFFSET]
  rw [fields, List.map_map]
  have named : (fun field => (values field.name).bind SqlValue.toFieldValue) ∘
      ColumnSchema.toSchemaField = fun column => (values column.name).bind SqlValue.toFieldValue := by
    funext column
    simp
  rw [named, map_insertKeyValues schema rowId row values valuesAt]
  simp [insertRowIdStorage, insertKeyFields, SKVRecord.empty, deriveSKVSchemaFromTableInfo,
    PgTableDesc.ofSchema]

theorem PgSchema.order_mem_keys_iff (ordersNodup : (schema.columns.map ColumnSchema.order).Nodup)
    (idx : Nat) (bound : idx < schema.columns.length) :
    schema.columns[idx].order ∈ (schema.columns.take schema.numKeyColumns).map ColumnSchema.order ↔
      idx < schema.numKeyColumns := by
  constructor
  · intro member
    obtain ⟨column, columnMember, same⟩ := List.mem_map.mp member
    obtain ⟨other, otherBound, rfl⟩ := List.getElem_of_mem columnMember
    simp only [List.length_take] at otherBound
    rw [List.getElem_take] at same
    have sameIdx : other = idx :=
      (@List.Nodup.getElem_inj_iff _ _ ordersNodup other (by simp; omega) idx
        (by simpa using bound)).mp (by simpa using same)
    omega
  · intro key
    exact List.mem_map.mpr ⟨schema.columns[idx], List.mem_iff_getElem.mpr
      ⟨idx, by simp [key, bound], by simp⟩, rfl⟩

theorem insertKeyBind_expr (done : List Int) (column : PgColumnDesc)
    (covered : column.attrNum ∈ done ↔ column.attrNum ≠ kPgRowId) :
    (insertKeyBind rowId row done column).expr =
      some (.constant (insertKeyValue rowId row column.attrNum)) := by
  by_cases rowIdColumn : column.attrNum = kPgRowId
  · have absent : column.attrNum ∉ done := fun member => covered.mp member rowIdColumn
    rw [insertKeyBind]
    simp only [absent, if_false]
    simp [initialKeyBind, insertKeyValue, rowIdColumn]
  · simp [insertKeyBind, covered.mpr rowIdColumn, insertKeyValue, rowIdColumn]

theorem InsertBinds.keyExprs {base request : SqlOpWriteRequest} {done : List Int}
    (bound : InsertBinds (PgTableDesc.ofSchema collectionName tableId baseTableOid indexOid schema)
      rowId row base done request)
    (covered : ∀ column ∈ schema.columns.take schema.numKeyColumns,
      column.order ∈ done ↔ column.order ≠ kPgRowId) :
    request.keyColumnValues.map BindVariable.expr =
      (schema.columns.take schema.numKeyColumns).map fun column =>
        some (.constant (insertKeyValue rowId row column.order)) := by
  rw [bound.shape]
  simp only [List.map_map, PgTableDesc.ofSchema_columns]
  rw [PgSchema.columnDescs_primary schema]
  have setEach : ∀ owner ∈ (schema.columns.take schema.numKeyColumns).mapIdx schema.columnDesc,
      (BindVariable.expr ∘ insertKeyBind rowId row done) owner =
        ((fun attrNum => some (.constant (insertKeyValue rowId row attrNum))) ∘
          PgColumnDesc.attrNum) owner := by
    intro owner ownerMember
    obtain ⟨idx, idxBound, rfl⟩ := List.mem_mapIdx.mp ownerMember
    exact insertKeyBind_expr rowId row done _ (covered _ (List.getElem_mem idxBound))
  rw [List.map_congr_left setEach, ← List.map_map, PgSchema.columnDescs_attrNum, List.map_map]
  rfl

theorem PgDmlWrite.bindColumn_tupleId (desc : PgTableDesc) (request : SqlOpWriteRequest)
    (value : SqlValue) :
    PgDmlWrite.bindColumn desc request kPgTupleId value =
      .ok { request with k2pgctidColumnValue := some { idx := kPgTupleId, expr := some (.constant value) } } := by
  simp [PgDmlWrite.bindColumn]

def insertBase (desc : PgTableDesc) (rowId tupleId : List UInt8) : SqlOpWriteRequest :=
  { PgDmlWrite.prepare desc .PGSQL_INSERT rowId with
    k2pgctidColumnValue := some { idx := kPgTupleId, expr := some (.constant (.slice tupleId)) } }

theorem keyExprs_isSome (binds : List BindVariable) (values : List SqlValue)
    (bound : binds.map BindVariable.expr = values.map fun value => some (.constant value)) :
    ∀ bind ∈ binds, bind.expr.isSome = true := by
  intro bind member
  have isSet : bind.expr ∈ binds.map BindVariable.expr := List.mem_map_of_mem member
  rw [bound] at isSet
  obtain ⟨_, _, same⟩ := List.mem_map.mp isSet
  simp [← same]

theorem PgDmlWrite.deleteEmptyPrimaryBinds_of_set (request : SqlOpWriteRequest) (bindTable : Bool)
    (allSet : ∀ bind ∈ request.keyColumnValues, bind.expr.isSome = true)
    (regular : request.stmtType = .PGSQL_INSERT ∨ request.k2pgctidColumnValue = none) :
    PgDmlWrite.deleteEmptyPrimaryBinds request bindTable = .ok request := by
  have allKept : request.keyColumnValues.filter (fun bind => bind.expr.isSome) =
      request.keyColumnValues := List.filter_eq_self.mpr allSet
  have checked : (request.stmtType == .PGSQL_INSERT || request.k2pgctidColumnValue.isNone) = true := by
    rcases regular with insert | noTupleId <;> simp [*]
  unfold PgDmlWrite.deleteEmptyPrimaryBinds
  rw [if_pos checked]
  simp only [allKept, lt_self_iff_false, decide_false, Bool.false_and, Bool.false_eq_true, if_false]

theorem systemAttrs_of_real {attnum : Int} (real : 0 < attnum ∨ attnum = ObjectIdAttributeNumber) :
    attnum ≠ kPgRowId ∧ attnum ≠ kPgTupleId := by
  simp only [kPgRowId, kPgTupleId, ObjectIdAttributeNumber] at real ⊢
  omega

theorem insertRequest_binds (tupleId : List UInt8) (pkAttnums attnums : List Int)
    (ordersNodup : (schema.columns.map ColumnSchema.order).Nodup)
    (attnumsReal : ∀ attnum ∈ attnums, attnum ∈ schema.columns.map ColumnSchema.order ∧
      (0 < attnum ∨ attnum = ObjectIdAttributeNumber))
    (keysBound : ∀ column ∈ schema.columns.take schema.numKeyColumns,
      column.order ∈ attnums ∨ column.order = kPgRowId)
    (pkAttnumsExact : ∀ attnum, attnum ∈ pkAttnums ↔
      attnum ∈ (schema.columns.take schema.numKeyColumns).map ColumnSchema.order)
    (keysNotNull : ∀ column ∈ schema.columns.take schema.numKeyColumns, column.order ≠ kPgRowId →
      (row column.order).isNull = false) :
    ∃ request, insertRequest (PgTableDesc.ofSchema collectionName tableId baseTableOid indexOid schema) rowId tupleId
        pkAttnums attnums row = .ok request ∧
      InsertBinds (PgTableDesc.ofSchema collectionName tableId baseTableOid indexOid schema) rowId row
        (insertBase (PgTableDesc.ofSchema collectionName tableId baseTableOid indexOid schema) rowId tupleId)
        attnums request ∧
      request.keyColumnValues.map BindVariable.expr =
        (schema.columns.take schema.numKeyColumns).map fun column =>
          some (.constant (insertKeyValue rowId row column.order)) := by
  obtain ⟨indexes, attrNums, -⟩ :=
    PgTableDesc.ofSchema_distinct collectionName tableId baseTableOid indexOid schema ordersNodup
  set desc := PgTableDesc.ofSchema collectionName tableId baseTableOid indexOid schema
  have initial : InsertBinds desc rowId row (insertBase desc rowId tupleId) []
      (insertBase desc rowId tupleId) :=
    InsertBinds.start rowId row _ rfl rfl
  have columns : ∀ attnum ∈ attnums, ∃ column ∈ desc.columns, column.attrNum = attnum :=
    fun attnum member => PgSchema.exists_columnDesc schema (attnumsReal attnum member).1
  have notTupleId : ∀ attnum ∈ attnums, attnum ≠ kPgTupleId :=
    fun attnum member => (systemAttrs_of_real (attnumsReal attnum member).2).2
  have notNull : ∀ attnum ∈ attnums, (row attnum).isNull = true → attnum ∉ pkAttnums := by
    intro attnum member isNull key
    obtain ⟨column, columnMember, rfl⟩ := List.mem_map.mp ((pkAttnumsExact attnum).mp key)
    have := keysNotNull column columnMember (systemAttrs_of_real (attnumsReal _ member).2).1
    simp_all
  obtain ⟨final, run, bound⟩ := foldlM_bindInsertColumn rowId row indexes attrNums pkAttnums
    (insertBase desc rowId tupleId) attnums [] _ initial columns notTupleId notNull
  have covered : ∀ column ∈ schema.columns.take schema.numKeyColumns,
      column.order ∈ [] ++ attnums ↔ column.order ≠ kPgRowId := by
    intro column member
    rw [List.nil_append]
    constructor
    · intro bound
      exact (systemAttrs_of_real (attnumsReal _ bound).2).1
    · intro notRowId
      rcases keysBound column member with bound | rowIdColumn
      · exact bound
      · exact absurd rowIdColumn notRowId
  have keyExprs := InsertBinds.keyExprs collectionName tableId baseTableOid indexOid schema rowId row
    bound covered
  have kept : PgDmlWrite.deleteEmptyPrimaryBinds final false = .ok final := by
    have insert : final.stmtType = .PGSQL_INSERT := by
      rw [bound.shape]
      rfl
    exact PgDmlWrite.deleteEmptyPrimaryBinds_of_set final false
      (keyExprs_isSome final.keyColumnValues
        ((schema.columns.take schema.numKeyColumns).map fun column => insertKeyValue rowId row column.order)
        (by rw [keyExprs, List.map_map]; rfl)) (.inl insert)
  refine ⟨final, ?_, by simpa using bound, keyExprs⟩
  simp only [insertRequest, PgDmlWrite.bindColumn_tupleId, PgError.ofStatus_ok, bind, Except.bind]
  rw [show { PgDmlWrite.prepare desc .PGSQL_INSERT rowId with
      k2pgctidColumnValue := some { idx := kPgTupleId, expr := some (.constant (.slice tupleId)) } } =
      insertBase desc rowId tupleId from rfl, run]
  simp [kept]

theorem makeSKVRecordWithKeysSerialized_constants (keyed : KeyedRequest) (skvSchema : Schema)
    (keyValues : List SqlValue)
    (keyExprs : keyed.keyColumnValues.map BindVariable.expr =
      keyValues.map fun value => some (.constant value))
    (existYbctids ignoreK2PGTID : Bool) (byKeys : (existYbctids && !ignoreK2PGTID) = false) :
    K2Adapter.makeSKVRecordWithKeysSerialized keyed (.ok skvSchema) existYbctids ignoreK2PGTID =
      .ok ({ collectionName := keyed.collectionName, schema := skvSchema,
             fieldData := [some (oidField keyed.baseTableOid), some (oidField keyed.indexOid)] ++
               keyValues.map SqlValue.toFieldValue }, Status.OK) := by
  simp only [K2Adapter.makeSKVRecordWithKeysSerialized, byKeys, Bool.false_eq_true, if_false]
  rw [K2Adapter.serializeKeyColumnValues_constants _ keyValues keyExprs]
  simp [SKVRecord.empty, Except.map]

theorem prepareWriteOp_write (codec : SkvClient) (request : SqlOpWriteRequest)
    (keyValues : List SqlValue)
    (noTargets : request.targets = [])
    (writes : request.stmtType = .PGSQL_INSERT ∨
      request.stmtType = .PGSQL_UPSERT ∧ request.k2pgctidColumnValue = none)
    (collection : request.collectionName = collectionName)
    (tableOidEq : request.baseTableOid = baseTableOid) (indexOidEq : request.indexOid = indexOid)
    (keyExprs : request.keyColumnValues.map BindVariable.expr =
      keyValues.map fun value => some (.constant value))
    (keyCount : keyValues.length = schema.numKeyColumns)
    (values : ∀ bind ∈ request.columnValues, ∃ column ∈ schema.columns.mapIdx schema.columnDesc,
      column.isPrimary = false ∧ ∃ value, bind = { idx := column.index, expr := some (.constant value) })
    (distinct : (request.columnValues.map BindVariable.idx).Nodup) :
    ∃ written, K2Adapter.prepareWriteOp codec request (.ok (deriveSKVSchemaFromTableInfo tableId schema)) =
        .ok (.ok (.write written false
          (if request.stmtType = .PGSQL_INSERT then .NotExists else .None))) ∧
      written.schema = deriveSKVSchemaFromTableInfo tableId schema ∧
      [some (oidField baseTableOid), some (oidField indexOid)] ++ keyValues.map SqlValue.toFieldValue <+:
        written.fieldData := by
  have keysFit := schema.keysFirst.numKeyColumns_le
  set keyRecord : SKVRecord :=
    { collectionName, schema := deriveSKVSchemaFromTableInfo tableId schema,
      fieldData := [some (oidField baseTableOid), some (oidField indexOid)] ++
        keyValues.map SqlValue.toFieldValue }
  have made : ∀ existYbctids ignoreK2PGTID, (existYbctids && !ignoreK2PGTID) = false →
      K2Adapter.makeSKVRecordWithKeysSerialized request.toKeyedRequest
        (.ok (deriveSKVSchemaFromTableInfo tableId schema)) existYbctids ignoreK2PGTID =
        .ok (keyRecord, Status.OK) := by
    intro existYbctids ignoreK2PGTID byKeys
    rw [makeSKVRecordWithKeysSerialized_constants _ _ keyValues keyExprs _ _ byKeys]
    simp [keyRecord, collection, tableOidEq, indexOidEq]
  have cursor : keyRecord.getFieldCursor = schema.numKeyColumns + 2 := by
    simp [keyRecord, SKVRecord.getFieldCursor, keyCount]
  obtain ⟨written, fieldsForUpdate, serialized, writtenSchema, keysKept⟩ :=
    serializeSKVValueFields_keeps keyRecord request.columnValues
      (fun bind member => by
        obtain ⟨_, _, _, value, rfl⟩ := values bind member
        exact ⟨value, rfl⟩)
      (fun bind member => by
        obtain ⟨_, _, _, _, rfl⟩ := values bind member
        simp)
      distinct
      (fun bind member => by
        obtain ⟨column, columnMember, notPrimary, _, rfl⟩ := values bind member
        have := (PgSchema.columnDesc_isPrimary schema columnMember).1
        rw [notPrimary] at this
        simp [cursor, SKV_FIELD_OFFSET] at this ⊢
        omega)
      (fun bind member => by
        obtain ⟨column, columnMember, notPrimary, _, rfl⟩ := values bind member
        have := (PgSchema.columnDesc_isPrimary schema columnMember).2
        simp [keyRecord, SKV_FIELD_OFFSET]
        omega)
  refine ⟨written, ?_, writtenSchema, keysKept⟩
  rcases writes with insert | ⟨upsert, noTupleId⟩
  · simp [K2Adapter.prepareWriteOp, noTargets, insert, made, bind, Except.bind, Status.isOk,
      Status.OK, pure, Except.pure, serialized]
  · simp [K2Adapter.prepareWriteOp, noTargets, upsert, noTupleId, made, bind, Except.bind, Status.isOk,
      Status.OK, pure, Except.pure, serialized]

theorem prepareWriteOp_insert (codec : SkvClient) (tupleId : List UInt8) (attnums : List Int)
    (request : SqlOpWriteRequest)
    (bound : InsertBinds (PgTableDesc.ofSchema collectionName tableId baseTableOid indexOid schema) rowId row
      (insertBase (PgTableDesc.ofSchema collectionName tableId baseTableOid indexOid schema) rowId tupleId)
      attnums request)
    (keyExprs : request.keyColumnValues.map BindVariable.expr =
      (schema.columns.take schema.numKeyColumns).map fun column =>
        some (.constant (insertKeyValue rowId row column.order))) :
    ∃ written, K2Adapter.prepareWriteOp codec request (.ok (deriveSKVSchemaFromTableInfo tableId schema)) =
        .ok (.ok (.write written false .NotExists)) ∧
      written.schema = deriveSKVSchemaFromTableInfo tableId schema ∧
      insertKeyFields baseTableOid indexOid schema rowId row <+: written.fieldData := by
  have keysFit := schema.keysFirst.numKeyColumns_le
  obtain ⟨shape, values, distinct⟩ := bound
  have fixed : request.targets = [] ∧ request.stmtType = .PGSQL_INSERT ∧
      request.collectionName = collectionName ∧
      request.baseTableOid = baseTableOid ∧ request.indexOid = indexOid := by
    rw [shape]
    simp [insertBase, PgDmlWrite.prepare, PgTableDesc.ofSchema]
  obtain ⟨noTargets, insert, collection, tableOidEq, indexOidEq⟩ := fixed
  have written := prepareWriteOp_write collectionName tableId baseTableOid indexOid schema codec request
    ((schema.columns.take schema.numKeyColumns).map fun column => insertKeyValue rowId row column.order)
    noTargets (.inl insert) collection tableOidEq indexOidEq (by rw [keyExprs, List.map_map]; rfl)
    (by simp [keysFit])
    (fun bind member => by
      obtain ⟨column, columnMember, notPrimary, rfl⟩ := values bind member
      exact ⟨column, columnMember, notPrimary, _, rfl⟩)
    distinct
  simpa [insert, insertKeyFields, List.map_map, Function.comp_def] using written

theorem k2PgExecuteInsert_write (pkAttnums attnums : List Int)
    (ordersNodup : (schema.columns.map ColumnSchema.order).Nodup)
    (attnumsReal : ∀ attnum ∈ attnums, attnum ∈ schema.columns.map ColumnSchema.order ∧
      (0 < attnum ∨ attnum = ObjectIdAttributeNumber))
    (keysBound : ∀ column ∈ schema.columns.take schema.numKeyColumns,
      column.order ∈ attnums ∨ column.order = kPgRowId)
    (pkAttnumsExact : ∀ attnum, attnum ∈ pkAttnums ↔
      attnum ∈ (schema.columns.take schema.numKeyColumns).map ColumnSchema.order)
    (keysNotNull : ∀ column ∈ schema.columns.take schema.numKeyColumns, column.order ≠ kPgRowId →
      (row column.order).isNull = false) :
    ∃ record,
      k2PgExecuteInsert codec (PgTableDesc.ofSchema collectionName tableId baseTableOid indexOid schema)
          (.ok (deriveSKVSchemaFromTableInfo tableId schema)) rowId pkAttnums attnums row =
        .ok (codec.write (insertRowIdStorage tableId baseTableOid indexOid schema rowId row),
          .write record false .NotExists) ∧
      record.schema = deriveSKVSchemaFromTableInfo tableId schema ∧
      insertKeyFields baseTableOid indexOid schema rowId row <+: record.fieldData := by
  have pkNamed : ∀ column ∈ (PgTableDesc.ofSchema collectionName tableId baseTableOid indexOid schema).columns,
      column.attrNum ∈ pkAttnums ↔ column.isPrimary = true := by
    intro column member
    obtain ⟨idx, bound, rfl⟩ := (PgSchema.mem_columnDescs schema).mp member
    rw [pkAttnumsExact]
    simpa [PgSchema.columnDesc] using PgSchema.order_mem_keys_iff schema ordersNodup idx bound
  have tupleIdEq := k2PgGetPgTupleIdFromTuple_insert codec collectionName tableId baseTableOid indexOid schema rowId
    row pkAttnums ordersNodup pkNamed
  obtain ⟨request, requestEq, bound, keyExprs⟩ :=
    insertRequest_binds collectionName tableId baseTableOid indexOid schema rowId row
      (codec.write (insertRowIdStorage tableId baseTableOid indexOid schema rowId row))
      pkAttnums attnums ordersNodup attnumsReal keysBound pkAttnumsExact keysNotNull
  obtain ⟨written, writeEq, writtenSchema, keysKept⟩ :=
    prepareWriteOp_insert collectionName tableId baseTableOid indexOid schema rowId row codec
      (codec.write (insertRowIdStorage tableId baseTableOid indexOid schema rowId row)) attnums request bound keyExprs
  refine ⟨written, ?_, writtenSchema, keysKept⟩
  simp only [k2PgExecuteInsert, tupleIdEq, requestEq, writeEq, bind, Except.bind,
    PgError.ofException_ok, pure, Except.pure]

theorem getKey_of_keyFields (record : SKVRecord) (keyFields : List (Option FieldValue))
    (recordSchema : record.schema = deriveSKVSchemaFromTableInfo tableId schema)
    (keyLength : keyFields.length = schema.numKeyColumns + 2)
    (keysKept : keyFields <+: record.fieldData) : record.getKey = keyFields := by
  apply List.ext_getElem
  · simp [SKVRecord.getKey, recordSchema, deriveSKVSchemaFromTableInfo_partitionKeyFields, keyLength]
  · intro index inKey _
    simp only [SKVRecord.getKey, recordSchema, deriveSKVSchemaFromTableInfo_partitionKeyFields,
      deriveSKVSchemaFromTableInfo_rangeKeyFields, List.append_nil, List.length_map,
      List.length_range] at inKey ⊢
    simp only [List.getElem_map, List.getElem_range]
    rw [List.getElem?_of_extended keysKept (by omega), List.getElem?_eq_getElem (by omega)]
    rfl

theorem getKey_of_insertKeyFields (record : SKVRecord)
    (recordSchema : record.schema = deriveSKVSchemaFromTableInfo tableId schema)
    (keysKept : insertKeyFields baseTableOid indexOid schema rowId row <+: record.fieldData) :
    record.getKey = insertKeyFields baseTableOid indexOid schema rowId row :=
  getKey_of_keyFields tableId schema record _ recordSchema
    (insertKeyFields_length baseTableOid indexOid schema rowId row) keysKept

theorem k2PgExecuteInsert_rowId_agrees (pkAttnums attnums : List Int)
    (ordersNodup : (schema.columns.map ColumnSchema.order).Nodup)
    (attnumsReal : ∀ attnum ∈ attnums, attnum ∈ schema.columns.map ColumnSchema.order ∧
      (0 < attnum ∨ attnum = ObjectIdAttributeNumber))
    (keysBound : ∀ column ∈ schema.columns.take schema.numKeyColumns,
      column.order ∈ attnums ∨ column.order = kPgRowId)
    (pkAttnumsExact : ∀ attnum, attnum ∈ pkAttnums ↔
      attnum ∈ (schema.columns.take schema.numKeyColumns).map ColumnSchema.order)
    (keysNotNull : ∀ column ∈ schema.columns.take schema.numKeyColumns, column.order ≠ kPgRowId →
      (row column.order).isNull = false) :
    ∃ tupleId record,
      k2PgExecuteInsert codec (PgTableDesc.ofSchema collectionName tableId baseTableOid indexOid schema)
          (.ok (deriveSKVSchemaFromTableInfo tableId schema)) rowId pkAttnums attnums row =
        .ok (tupleId, .write record false .NotExists) ∧
      K2Adapter.getRowIdFromReadRecord codec record = tupleId ∧
      (K2Adapter.k2PGTIDToRecord codec collectionName (deriveSKVSchemaFromTableInfo tableId schema)
          (some { idx := kPgTupleId, expr := some (.constant (.slice tupleId)) })).map
        SKVRecord.getKey = .ok record.getKey := by
  have keysFit := schema.keysFirst.numKeyColumns_le
  obtain ⟨written, insertEq, writtenSchema, keysKept⟩ :=
    k2PgExecuteInsert_write codec collectionName tableId baseTableOid indexOid schema rowId row pkAttnums
      attnums ordersNodup attnumsReal keysBound pkAttnumsExact keysNotNull
  have keyFields := SKVRecord.getSKVKeyRecord_fieldData_of_keyPart written _
    (by rw [writtenSchema, deriveSKVSchemaFromTableInfo_partitionKeyFields, insertKeyFields_length])
    (by rw [writtenSchema]; rfl) keysKept
    (by rw [writtenSchema, insertKeyFields_length, deriveSKVSchemaFromTableInfo_fields_length]; omega)
  have sameStorage : written.getSKVKeyRecord.getStorage =
      insertRowIdStorage tableId baseTableOid indexOid schema rowId row := by
    have lengths : schema.columns.length + 2 - (schema.numKeyColumns + 2) =
        schema.columns.length - schema.numKeyColumns := by omega
    simp only [SKVRecord.getStorage, keyFields, writtenSchema, insertKeyFields_length,
      deriveSKVSchemaFromTableInfo_fields_length, lengths]
    simp [SKVRecord.getSKVKeyRecord, writtenSchema, insertRowIdStorage, deriveSKVSchemaFromTableInfo]
  refine ⟨codec.write (insertRowIdStorage tableId baseTableOid indexOid schema rowId row), written,
    insertEq, ?_, ?_⟩
  · simp only [K2Adapter.getRowIdFromReadRecord, K2Adapter.serializeSKVRecordToString,
      codec.getSKVKeyRecord_eq_keyRecord, sameStorage]
  · have within : ∀ index ∈ written.schema.partitionKeyFields ++ written.schema.rangeKeyFields,
        index < written.schema.fields.length := by
      intro index member
      rw [writtenSchema, deriveSKVSchemaFromTableInfo_partitionKeyFields] at member
      simp only [deriveSKVSchemaFromTableInfo, List.append_nil, List.mem_range] at member
      rw [writtenSchema, deriveSKVSchemaFromTableInfo_fields_length]
      omega
    rw [← SKVRecord.getSKVKeyRecord_getKey written within, ← sameStorage]
    simp only [K2Adapter.k2PGTIDToRecord, K2Adapter.k2pgctidBytes, Option.bind, SqlValue.valueType,
      beq_self_eq_true, if_true, SqlValue.sliceVal, Except.map, codec.read_write]
    simp [SKVRecord.getKey, SKVRecord.getSKVKeyRecord, SKVRecord.getStorage, writtenSchema]

end Insert

def FieldValue.toData : FieldValue → Int ⊕ (List Nat ⊕ (Bool ⊕ (Nat ⊕ Nat)))
  | .int64T value => .inl value.toInt
  | .string bytes => .inr (.inl (bytes.map UInt8.toNat))
  | .bool value => .inr (.inr (.inl value))
  | .float bits => .inr (.inr (.inr (.inl bits.toNat)))
  | .double bits => .inr (.inr (.inr (.inr bits.toNat)))

def FieldValue.ofData : Int ⊕ (List Nat ⊕ (Bool ⊕ (Nat ⊕ Nat))) → FieldValue
  | .inl value => .int64T (Int64.ofInt value)
  | .inr (.inl bytes) => .string (bytes.map UInt8.ofNat)
  | .inr (.inr (.inl value)) => .bool value
  | .inr (.inr (.inr (.inl bits))) => .float (UInt32.ofNat bits)
  | .inr (.inr (.inr (.inr bits))) => .double (UInt64.ofNat bits)

theorem FieldValue.ofData_toData (value : FieldValue) : FieldValue.ofData value.toData = value := by
  cases value <;> simp [FieldValue.toData, FieldValue.ofData, Function.comp_def]

instance Storage.encodable : Encodable Storage :=
  Encodable.ofLeftInverse
    (fun storage => (storage.fieldData.map (Option.map FieldValue.toData),
      storage.schemaName.toList.map Char.toNat, storage.schemaVersion))
    (fun data =>
      { fieldData := data.1.map (Option.map FieldValue.ofData),
        schemaName := String.ofList (data.2.1.map Char.ofNat), schemaVersion := data.2.2 })
    (fun storage => by
      cases storage
      simp [Function.comp_def, Option.map_map, FieldValue.ofData_toData])

def unarySkvClient : SkvClient :=
  { write := fun storage => List.replicate (Encodable.encode storage) 0
    read := fun bytes => (Encodable.decode bytes.length).getD ⟨[], "", 0⟩
    read_write := fun storage => by simp [Encodable.encodek]
    getSKVKeyRecord := SKVRecord.getSKVKeyRecord
    getSKVKeyRecord_eq := fun _ => rfl }

def keyValueSchema : PgSchema :=
  { columns := [{ name := "k", type := .K2SQL_DATA_TYPE_INT64, isNullable := false, isKey := true,
                   order := 1, sortingType := .kAscending },
      { name := "v", type := .K2SQL_DATA_TYPE_STRING, isNullable := true, isKey := false, order := 2 }],
    columnIds := [0, 1], numKeyColumns := 1, version := 1,
    keysFirst := ⟨by decide, by decide, by decide, by decide⟩ }

def keyValueRow (attnum : Int) : SqlValue :=
  if attnum = 1 then .int 7 else .slice [104, 105]

def oidKeyedSchema : PgSchema :=
  { columns := [{ name := "oid", type := .K2SQL_DATA_TYPE_UINT32, isNullable := false, isKey := true,
                   order := ObjectIdAttributeNumber, sortingType := .kAscending },
      { name := "relname", type := .K2SQL_DATA_TYPE_STRING, isNullable := false, isKey := false,
        order := 1 }],
    columnIds := [0, 1], numKeyColumns := 1, version := 1,
    keysFirst := ⟨by decide, by decide, by decide, by decide⟩ }

def oidKeyedRow (attnum : Int) : SqlValue :=
  if attnum = ObjectIdAttributeNumber then .int 16385 else .slice [116]

theorem k2PgExecuteInsert_rowId_agrees_oidKeyed :
    (oidKeyedSchema.columns.map ColumnSchema.order).Nodup ∧
      (∀ attnum ∈ [ObjectIdAttributeNumber, 1], attnum ∈ oidKeyedSchema.columns.map ColumnSchema.order ∧
        (0 < attnum ∨ attnum = ObjectIdAttributeNumber)) ∧
      (∀ column ∈ oidKeyedSchema.columns.take oidKeyedSchema.numKeyColumns,
        column.order ∈ [ObjectIdAttributeNumber, 1] ∨ column.order = kPgRowId) ∧
      (∀ attnum, attnum ∈ [ObjectIdAttributeNumber] ↔
        attnum ∈ (oidKeyedSchema.columns.take oidKeyedSchema.numKeyColumns).map ColumnSchema.order) ∧
      (∀ column ∈ oidKeyedSchema.columns.take oidKeyedSchema.numKeyColumns,
        column.order ≠ kPgRowId → (oidKeyedRow column.order).isNull = false) ∧
      ∃ tupleId record,
        k2PgExecuteInsert unarySkvClient (PgTableDesc.ofSchema "template1" "pg_class" 1259 0 oidKeyedSchema)
            (.ok (deriveSKVSchemaFromTableInfo "pg_class" oidKeyedSchema)) [] [ObjectIdAttributeNumber]
            [ObjectIdAttributeNumber, 1] oidKeyedRow =
          .ok (tupleId, .write record false .NotExists) ∧
        K2Adapter.getRowIdFromReadRecord unarySkvClient record = tupleId ∧
        (K2Adapter.k2PGTIDToRecord unarySkvClient "template1"
            (deriveSKVSchemaFromTableInfo "pg_class" oidKeyedSchema)
            (some { idx := kPgTupleId, expr := some (.constant (.slice tupleId)) })).map
          SKVRecord.getKey = .ok record.getKey := by
  have ordersNodup : (oidKeyedSchema.columns.map ColumnSchema.order).Nodup := by decide
  have attnumsReal : ∀ attnum ∈ [ObjectIdAttributeNumber, 1],
      attnum ∈ oidKeyedSchema.columns.map ColumnSchema.order ∧
        (0 < attnum ∨ attnum = ObjectIdAttributeNumber) := by decide
  have keysBound : ∀ column ∈ oidKeyedSchema.columns.take oidKeyedSchema.numKeyColumns,
      column.order ∈ [ObjectIdAttributeNumber, 1] ∨ column.order = kPgRowId := by decide
  have pkAttnumsExact : ∀ attnum, attnum ∈ [ObjectIdAttributeNumber] ↔
      attnum ∈ (oidKeyedSchema.columns.take oidKeyedSchema.numKeyColumns).map ColumnSchema.order := by
    intro attnum
    simp [oidKeyedSchema]
  have keysNotNull : ∀ column ∈ oidKeyedSchema.columns.take oidKeyedSchema.numKeyColumns,
      column.order ≠ kPgRowId → (oidKeyedRow column.order).isNull = false := by decide
  exact ⟨ordersNodup, attnumsReal, keysBound, pkAttnumsExact, keysNotNull,
    k2PgExecuteInsert_rowId_agrees unarySkvClient "template1" "pg_class" 1259 0 oidKeyedSchema []
      oidKeyedRow [ObjectIdAttributeNumber] [ObjectIdAttributeNumber, 1]
      ordersNodup attnumsReal keysBound pkAttnumsExact keysNotNull⟩

end ChogoriSql
