import ChogoriSql.Catalog.Schema
import ChogoriSql.Monad.Except

/-! Index creation: the columns `K2PgCreateIndex` hands to `PgCreateIndex`, which adds the
system columns of an index (`k2pguniqueidxkeysuffix` for a unique index, then
`k2pgidxbasectid`) after the key columns, and the SKV schema
`TableInfoHandler::DeriveIndexSchema` derives from the index's schema.  The index key columns
come first, so the key suffix is the last key column of a unique index and the base k2pgctid
is a value column; of a non-unique index the base k2pgctid is the last key column. -/

namespace ChogoriSql

def kPgIdxBaseTupleId : Int := -101

def kPgUniqueIdxKeySuffix : Int := -102

structure PgCreateTable where
  schemaBuilder : SchemaBuilder := {}
  rangeColumns : List String := []

/-- `PgCreateTable::AddColumnImpl`: a hash or range column is not nullable.  The status of
`SchemaBuilder::AddColumn` is dropped: a column whose name is taken is left out. -/
def PgCreateTable.addColumnImpl (stmt : PgCreateTable) (attrName : String) (attrNum : Int)
    (type : K2SqlDataType) (isHash isRange : Bool) (sortingType : SortingType := .kNotSpecified) :
    Except Status PgCreateTable :=
  if isHash && !stmt.rangeColumns.isEmpty then
    .error { code := .invalidArgument, message := "Hash column not allowed after an ASC/DESC column" }
  else if isHash && sortingType != .kNotSpecified then
    .error { code := .invalidArgument, message := "Hash column can\x27t have sorting order" }
  else
    let rangeColumns := if !isHash && isRange then stmt.rangeColumns ++ [attrName]
      else stmt.rangeColumns
    match stmt.schemaBuilder.addColumn
        { name := attrName, type, isNullable := !(isHash || isRange), isKey := isRange || isHash,
          order := attrNum, sortingType } with
    | .ok schemaBuilder => .ok { schemaBuilder, rangeColumns }
    | .error _ => .ok { stmt with rangeColumns }

structure PgCreateIndex where
  table : PgCreateTable := {}
  isUniqueIndex : Bool
  k2pgbasectidAdded : Bool := false

namespace PgCreateIndex

/-- `PgCreateIndex::AddPgbasectidColumn`. -/
def addPgbasectidColumn (stmt : PgCreateIndex) : Except Status PgCreateIndex := do
  let table ← if stmt.isUniqueIndex then
      stmt.table.addColumnImpl "k2pguniqueidxkeysuffix" kPgUniqueIdxKeySuffix
        .K2SQL_DATA_TYPE_BINARY false true
    else pure stmt.table
  let table ← table.addColumnImpl "k2pgidxbasectid" kPgIdxBaseTupleId .K2SQL_DATA_TYPE_BINARY false
    !stmt.isUniqueIndex
  pure { stmt with table, k2pgbasectidAdded := true }

/-- `PgCreateIndex::AddColumnImpl`: the system columns go in before the first column that is
neither a hash nor a range column. -/
def addColumnImpl (stmt : PgCreateIndex) (attrName : String) (attrNum : Int) (type : K2SqlDataType)
    (isHash isRange : Bool) (sortingType : SortingType) : Except Status PgCreateIndex := do
  let stmt ← if !isHash && !isRange && !stmt.k2pgbasectidAdded then stmt.addPgbasectidColumn
    else pure stmt
  let table ← stmt.table.addColumnImpl attrName attrNum type isHash isRange sortingType
  pure { stmt with table }

def exec (stmt : PgCreateIndex) : Except Status SchemaBuilder := do
  let stmt ← if !stmt.k2pgbasectidAdded then stmt.addPgbasectidColumn else pure stmt
  pure stmt.table.schemaBuilder

end PgCreateIndex

/-- `AddColumn` of `pg_gate_impl.cc`: only a range column has a sorting type. -/
def addColumnSortingType (isHash isRange isDesc isNullsFirst : Bool) : SortingType :=
  if !isHash && isRange then
    if isDesc then (if isNullsFirst then .kDescending else .kDescendingNullsLast)
    else if isNullsFirst then .kAscending else .kAscendingNullsLast
  else .kNotSpecified

structure IndexAttr where
  name : String
  attnum : Int
  type : K2SqlDataType
  isHash : Bool := false
  isDesc : Bool := false
  isNullsFirst : Bool := false
  deriving DecidableEq, Repr

def createIndexAddColumn (numIndexKeyAttrs : Nat) (stmt : PgCreateIndex) :
    IndexAttr × Nat → Except Status PgCreateIndex
  | (attr, i) =>
    let isKey := decide (i < numIndexKeyAttrs)
    stmt.addColumnImpl attr.name attr.attnum attr.type attr.isHash isKey
      (addColumnSortingType attr.isHash isKey attr.isDesc attr.isNullsFirst)

def k2PgCreateIndex (isUnique : Bool) (numIndexKeyAttrs : Nat) (attrs : List IndexAttr) :
    Except Status SchemaBuilder := do
  let stmt ← attrs.zipIdx.foldlM (createIndexAddColumn numIndexKeyAttrs) { isUniqueIndex := isUnique }
  stmt.exec

def createTableAddColumns (keys others : List IndexAttr) : Except Status PgCreateTable := do
  let stmt ← keys.foldlM (fun stmt attr => stmt.addColumnImpl attr.name attr.attnum attr.type
    attr.isHash true (addColumnSortingType attr.isHash true attr.isDesc attr.isNullsFirst)) {}
  others.foldlM (fun stmt attr => stmt.addColumnImpl attr.name attr.attnum attr.type false false
    (addColumnSortingType false false false false)) stmt

/-- `TableInfoHandler::DeriveIndexSchema`: the fields and key fields
`DeriveSKVSchemaFromTableInfo` derives, under the index's table id, and no schema at all when a
column sorts descending, which SKV indexes do not support.  The partition key test of an index
column, hash or range, is the key flag of its column. -/
def deriveIndexSchema (indexId : String) (schema : PgSchema) : Option Schema :=
  if schema.columns.any fun column =>
      column.sortingType == .kDescending || column.sortingType == .kDescendingNullsLast then none
  else some (deriveSKVSchemaFromTableInfo indexId schema)

def IndexAttr.toColumnSchema (attr : IndexAttr) (isKey : Bool) : ColumnSchema :=
  { name := attr.name, type := attr.type, isNullable := !(attr.isHash || isKey),
    isKey := isKey || attr.isHash, order := attr.attnum,
    sortingType := addColumnSortingType attr.isHash isKey attr.isDesc attr.isNullsFirst }

def indexSystemColumns (isUnique : Bool) : List ColumnSchema :=
  (if isUnique then
    [{ name := "k2pguniqueidxkeysuffix", type := .K2SQL_DATA_TYPE_BINARY, isNullable := false,
       isKey := true, order := kPgUniqueIdxKeySuffix }]
  else []) ++
    [{ name := "k2pgidxbasectid", type := .K2SQL_DATA_TYPE_BINARY, isNullable := isUnique,
       isKey := !isUnique, order := kPgIdxBaseTupleId }]

def indexSchemaBuilder (isUnique : Bool) (keys includes : List IndexAttr) : SchemaBuilder :=
  .ofColumns (keys.map (·.toColumnSchema true) ++ indexSystemColumns isUnique ++
      includes.map (·.toColumnSchema false)) (keys.length + 1)

section Builder

theorem PgCreateTable.addColumnImpl_schemaBuilder {stmt next : PgCreateTable}
    {cols : List ColumnSchema} {numKeyColumns : Nat} {attrName : String}
    {attrNum : Int} {type : K2SqlDataType} {isHash isRange : Bool} {sortingType : SortingType}
    (built : stmt.schemaBuilder = .ofColumns cols numKeyColumns)
    (fresh : attrName ∉ cols.map ColumnSchema.name)
    (atEnd : (isRange || isHash) = true → numKeyColumns = cols.length)
    (added : stmt.addColumnImpl attrName attrNum type isHash isRange sortingType = .ok next) :
    next.schemaBuilder =
      .ofColumns
        (cols ++ [{ name := attrName, type, isNullable := !(isHash || isRange),
                    isKey := isRange || isHash, order := attrNum, sortingType }])
        (numKeyColumns + if isRange || isHash then 1 else 0) := by
  unfold PgCreateTable.addColumnImpl at added
  split at added
  · cases added
  split at added
  · cases added
  rw [built, SchemaBuilder.addColumn_ofColumns _ _ _ fresh atEnd] at added
  cases added
  rfl

theorem PgCreateTable.addColumnImpl_not_hash (stmt : PgCreateTable) (cols : List ColumnSchema)
    (numKeyColumns : Nat) (attrName : String) (attrNum : Int) (type : K2SqlDataType)
    (isRange : Bool) (sortingType : SortingType)
    (built : stmt.schemaBuilder = .ofColumns cols numKeyColumns)
    (fresh : attrName ∉ cols.map ColumnSchema.name)
    (atEnd : isRange = true → numKeyColumns = cols.length) :
    ∃ next, stmt.addColumnImpl attrName attrNum type false isRange sortingType = .ok next ∧
      next.schemaBuilder =
        .ofColumns
          (cols ++ [{ name := attrName, type, isNullable := !isRange, isKey := isRange,
                      order := attrNum, sortingType }])
          (numKeyColumns + if isRange then 1 else 0) := by
  have keyed : (isRange || false) = isRange := Bool.or_false isRange
  have nullable : (false || isRange) = isRange := Bool.false_or isRange
  cases ran : stmt.addColumnImpl attrName attrNum type false isRange sortingType with
  | error status =>
      simp only [PgCreateTable.addColumnImpl, Bool.false_and, Bool.false_eq_true, if_false] at ran
      split at ran <;> cases ran
  | ok next =>
      refine ⟨next, rfl, ?_⟩
      have appended := PgCreateTable.addColumnImpl_schemaBuilder built fresh (by simpa using atEnd) ran
      simpa only [keyed, nullable] using appended

theorem PgCreateTable.addColumnImpl_keysFirst {stmt next : PgCreateTable} {attrName : String}
    {attrNum : Int} {type : K2SqlDataType} {isHash isRange : Bool} {sortingType : SortingType}
    (valid : KeysFirst stmt.schemaBuilder.cols stmt.schemaBuilder.numKeyColumns)
    (added : stmt.addColumnImpl attrName attrNum type isHash isRange sortingType = .ok next) :
    KeysFirst next.schemaBuilder.cols next.schemaBuilder.numKeyColumns := by
  unfold PgCreateTable.addColumnImpl at added
  split at added
  · cases added
  split at added
  · cases added
  dsimp only at added
  split at added
  · rename_i builder taken
    cases added
    exact SchemaBuilder.addColumn_keysFirst valid taken
  · cases added
    exact valid

theorem PgCreateTable.addColumnImpl_taken {stmt next : PgCreateTable} {attrName : String}
    {attrNum : Int} {type : K2SqlDataType} {isHash isRange : Bool} {sortingType : SortingType}
    (taken : (stmt.schemaBuilder.cols.any (·.name == attrName)) = true)
    (added : stmt.addColumnImpl attrName attrNum type isHash isRange sortingType = .ok next) :
    next.schemaBuilder = stmt.schemaBuilder := by
  unfold PgCreateTable.addColumnImpl at added
  split at added
  · cases added
  split at added
  · cases added
  simp only [SchemaBuilder.addColumn, taken, if_true] at added
  cases added
  rfl

theorem PgCreateTable.addColumnImpl_ofColumns {stmt next : PgCreateTable}
    {cols : List ColumnSchema} {numKeyColumns : Nat} {attrName : String}
    {attrNum : Int} {type : K2SqlDataType} {isHash isRange : Bool} {sortingType : SortingType}
    (built : stmt.schemaBuilder = .ofColumns cols numKeyColumns)
    (atEnd : (isRange || isHash) = true → numKeyColumns = cols.length)
    (added : stmt.addColumnImpl attrName attrNum type isHash isRange sortingType = .ok next) :
    next.schemaBuilder = stmt.schemaBuilder ∨
      next.schemaBuilder =
        .ofColumns
          (cols ++ [{ name := attrName, type, isNullable := !(isHash || isRange),
                      isKey := isRange || isHash, order := attrNum, sortingType }])
          (numKeyColumns + if isRange || isHash then 1 else 0) := by
  by_cases fresh : attrName ∈ cols.map ColumnSchema.name
  · left
    have taken : (stmt.schemaBuilder.cols.any (·.name == attrName)) = true := by
      rw [built, SchemaBuilder.ofColumns_cols]
      simpa using fresh
    exact PgCreateTable.addColumnImpl_taken taken added
  · exact Or.inr (PgCreateTable.addColumnImpl_schemaBuilder built fresh atEnd added)

end Builder

section Phases

variable (isUnique : Bool) (numIndexKeyAttrs : Nat)

def keyColumnsBuilder (cols : List ColumnSchema) : SchemaBuilder :=
  .ofColumns cols cols.length

theorem PgCreateIndex.addPgbasectidColumn_keys (stmt : PgCreateIndex) (cols : List ColumnSchema)
    (keysOnly : stmt.table.schemaBuilder = keyColumnsBuilder cols)
    (fresh : "k2pguniqueidxkeysuffix" ∉ cols.map ColumnSchema.name ∧
      "k2pgidxbasectid" ∉ cols.map ColumnSchema.name) :
    ∃ next, stmt.addPgbasectidColumn = .ok next ∧ next.isUniqueIndex = stmt.isUniqueIndex ∧
      next.k2pgbasectidAdded = true ∧
      next.table.schemaBuilder =
        .ofColumns (cols ++ indexSystemColumns stmt.isUniqueIndex) (cols.length + 1) := by
  cases unique : stmt.isUniqueIndex with
  | false =>
      obtain ⟨table, added, tableBuilder⟩ := PgCreateTable.addColumnImpl_not_hash stmt.table cols
        cols.length "k2pgidxbasectid" kPgIdxBaseTupleId .K2SQL_DATA_TYPE_BINARY true .kNotSpecified
        keysOnly fresh.2 (fun _ => rfl)
      refine ⟨{ stmt with table, k2pgbasectidAdded := true }, ?_, unique, rfl, ?_⟩
      · simp [PgCreateIndex.addPgbasectidColumn, unique, added, bind, Except.bind, pure,
          Except.pure]
      · simp [tableBuilder, indexSystemColumns]
  | true =>
      obtain ⟨suffixed, suffixAdded, suffixBuilder⟩ := PgCreateTable.addColumnImpl_not_hash
        stmt.table cols cols.length "k2pguniqueidxkeysuffix" kPgUniqueIdxKeySuffix
        .K2SQL_DATA_TYPE_BINARY true .kNotSpecified keysOnly fresh.1 (fun _ => rfl)
      obtain ⟨table, added, tableBuilder⟩ := PgCreateTable.addColumnImpl_not_hash suffixed _ _
        "k2pgidxbasectid" kPgIdxBaseTupleId .K2SQL_DATA_TYPE_BINARY false .kNotSpecified
        suffixBuilder (by simpa using fresh.2) (fun notKey => by cases notKey)
      refine ⟨{ stmt with table, k2pgbasectidAdded := true }, ?_, unique, rfl, ?_⟩
      · simp [PgCreateIndex.addPgbasectidColumn, unique, suffixAdded, added, bind, Except.bind,
          pure, Except.pure]
      · simp [tableBuilder, indexSystemColumns]

theorem createIndexAddColumn_key {stmt next : PgCreateIndex} {attr : IndexAttr} {i : Nat}
    (cols : List ColumnSchema) (key : i < numIndexKeyAttrs)
    (keysOnly : stmt.table.schemaBuilder = keyColumnsBuilder cols)
    (fresh : attr.name ∉ cols.map ColumnSchema.name)
    (added : createIndexAddColumn numIndexKeyAttrs stmt (attr, i) = .ok next) :
    next.isUniqueIndex = stmt.isUniqueIndex ∧ next.k2pgbasectidAdded = stmt.k2pgbasectidAdded ∧
      next.table.schemaBuilder = keyColumnsBuilder (cols ++ [attr.toColumnSchema true]) := by
  have isKey : decide (i < numIndexKeyAttrs) = true := decide_eq_true key
  simp only [createIndexAddColumn, PgCreateIndex.addColumnImpl, isKey, Bool.not_true,
    Bool.and_false, Bool.false_and, Bool.false_eq_true, if_false, pure_bind] at added
  obtain ⟨table, tableAdded, built⟩ := Except.bind_eq_ok added
  simp only [pure, Except.pure, Except.ok.injEq] at built
  subst built
  have appended := PgCreateTable.addColumnImpl_schemaBuilder keysOnly fresh (fun _ => rfl)
    tableAdded
  refine ⟨rfl, rfl, ?_⟩
  simp [appended, keyColumnsBuilder, IndexAttr.toColumnSchema, Bool.or_comm]

theorem createIndexAddColumn_first_include (stmt : PgCreateIndex) (attr : IndexAttr) (i : Nat)
    (cols : List ColumnSchema) (included : numIndexKeyAttrs ≤ i) (notHash : attr.isHash = false)
    (notAdded : stmt.k2pgbasectidAdded = false)
    (keysOnly : stmt.table.schemaBuilder = keyColumnsBuilder cols)
    (fresh : (cols.map ColumnSchema.name ++
      ["k2pguniqueidxkeysuffix", "k2pgidxbasectid", attr.name]).Nodup) :
    ∃ next, createIndexAddColumn numIndexKeyAttrs stmt (attr, i) = .ok next ∧
      next.isUniqueIndex = stmt.isUniqueIndex ∧ next.k2pgbasectidAdded = true ∧
      next.table.schemaBuilder =
        .ofColumns (cols ++ indexSystemColumns stmt.isUniqueIndex ++ [attr.toColumnSchema false])
          (cols.length + 1) := by
  have isKey : decide (i < numIndexKeyAttrs) = false := decide_eq_false (Nat.not_lt.mpr included)
  have systemFresh : "k2pguniqueidxkeysuffix" ∉ cols.map ColumnSchema.name ∧
      "k2pgidxbasectid" ∉ cols.map ColumnSchema.name := by
    simp only [List.nodup_append, List.mem_cons, List.not_mem_nil, or_false] at fresh
    exact ⟨fun member => fresh.2.2 _ member _ (by simp) rfl,
      fun member => fresh.2.2 _ member _ (by simp) rfl⟩
  obtain ⟨withSystem, systemAdded, sameUnique, nowAdded, systemBuilder⟩ :=
    PgCreateIndex.addPgbasectidColumn_keys stmt cols keysOnly systemFresh
  have attrFresh : attr.name ∉ (cols ++ indexSystemColumns stmt.isUniqueIndex).map
      ColumnSchema.name := by
    simp only [List.nodup_append, List.mem_cons, List.not_mem_nil, or_false, List.nodup_cons] at fresh
    cases stmt.isUniqueIndex <;>
      simp [indexSystemColumns] <;>
      grind
  obtain ⟨table, tableAdded, tableBuilder⟩ := PgCreateTable.addColumnImpl_not_hash
    withSystem.table _ _ attr.name attr.attnum attr.type false
    (addColumnSortingType attr.isHash false attr.isDesc attr.isNullsFirst) systemBuilder attrFresh
    (fun notKey => by cases notKey)
  rw [notHash] at tableAdded
  refine ⟨{ withSystem with table }, ?_, sameUnique, nowAdded, ?_⟩
  · simp [createIndexAddColumn, PgCreateIndex.addColumnImpl, isKey, notHash, notAdded, systemAdded,
      tableAdded, bind, Except.bind, pure, Except.pure]
  · simp [tableBuilder, IndexAttr.toColumnSchema, notHash]

theorem createIndexAddColumn_include (stmt : PgCreateIndex) (attr : IndexAttr) (i : Nat)
    (cols : List ColumnSchema) (numKeyColumns : Nat)
    (included : numIndexKeyAttrs ≤ i) (notHash : attr.isHash = false)
    (alreadyAdded : stmt.k2pgbasectidAdded = true)
    (built : stmt.table.schemaBuilder = .ofColumns cols numKeyColumns)
    (fresh : attr.name ∉ cols.map ColumnSchema.name) :
    ∃ next, createIndexAddColumn numIndexKeyAttrs stmt (attr, i) = .ok next ∧
      next.isUniqueIndex = stmt.isUniqueIndex ∧ next.k2pgbasectidAdded = true ∧
      next.table.schemaBuilder = .ofColumns (cols ++ [attr.toColumnSchema false]) numKeyColumns := by
  have isKey : decide (i < numIndexKeyAttrs) = false := decide_eq_false (Nat.not_lt.mpr included)
  obtain ⟨table, tableAdded, tableBuilder⟩ := PgCreateTable.addColumnImpl_not_hash
    stmt.table cols numKeyColumns attr.name attr.attnum attr.type false
    (addColumnSortingType attr.isHash false attr.isDesc attr.isNullsFirst) built fresh
    (fun notKey => by cases notKey)
  rw [notHash] at tableAdded
  refine ⟨{ stmt with table }, ?_, rfl, alreadyAdded, ?_⟩
  · simp [createIndexAddColumn, PgCreateIndex.addColumnImpl, isKey, notHash, alreadyAdded,
      tableAdded, bind, Except.bind, pure, Except.pure]
  · simp [tableBuilder, IndexAttr.toColumnSchema, notHash]

theorem foldlM_createIndexAddColumn_keys :
    ∀ (keys : List IndexAttr) (start : Nat) (stmt final : PgCreateIndex) (cols : List ColumnSchema),
      start + keys.length ≤ numIndexKeyAttrs →
      stmt.table.schemaBuilder = keyColumnsBuilder cols →
      (cols.map ColumnSchema.name ++ keys.map IndexAttr.name).Nodup →
      (keys.zipIdx start).foldlM (createIndexAddColumn numIndexKeyAttrs) stmt = .ok final →
      final.isUniqueIndex = stmt.isUniqueIndex ∧
        final.k2pgbasectidAdded = stmt.k2pgbasectidAdded ∧
        final.table.schemaBuilder = keyColumnsBuilder (cols ++ keys.map (·.toColumnSchema true))
  | [], start, stmt, final, cols, _, keysOnly, _, ran => by
      simp only [List.zipIdx_nil, List.foldlM_nil, pure, Except.pure, Except.ok.injEq] at ran
      subst ran
      simpa using keysOnly
  | attr :: rest, start, stmt, final, cols, fits, keysOnly, names, ran => by
      rw [List.zipIdx_cons, List.foldlM_cons] at ran
      obtain ⟨next, step, restRan⟩ := Except.bind_eq_ok ran
      have fresh : attr.name ∉ cols.map ColumnSchema.name := by
        simp only [List.map_cons, List.nodup_append, List.mem_cons] at names
        exact fun member => names.2.2 _ member _ (Or.inl rfl) rfl
      obtain ⟨sameUnique, sameAdded, nextBuilder⟩ := createIndexAddColumn_key numIndexKeyAttrs cols
        (by simp only [List.length_cons] at fits; omega) keysOnly fresh step
      obtain ⟨finalUnique, finalAdded, finalBuilder⟩ := foldlM_createIndexAddColumn_keys rest
        (start + 1) next final (cols ++ [attr.toColumnSchema true])
        (by simp only [List.length_cons] at fits; omega) nextBuilder
        (by simpa [IndexAttr.toColumnSchema] using names) restRan
      exact ⟨finalUnique.trans sameUnique, finalAdded.trans sameAdded, by simpa using finalBuilder⟩

theorem foldlM_createIndexAddColumn_includes :
    ∀ (includes : List IndexAttr) (start : Nat) (stmt : PgCreateIndex) (cols : List ColumnSchema)
      (numKeyColumns : Nat),
      numIndexKeyAttrs ≤ start → (∀ attr ∈ includes, attr.isHash = false) →
      stmt.k2pgbasectidAdded = true → stmt.table.schemaBuilder = .ofColumns cols numKeyColumns →
      (cols.map ColumnSchema.name ++ includes.map IndexAttr.name).Nodup →
      ∃ final, (includes.zipIdx start).foldlM (createIndexAddColumn numIndexKeyAttrs) stmt = .ok final ∧
        final.isUniqueIndex = stmt.isUniqueIndex ∧ final.k2pgbasectidAdded = true ∧
        final.table.schemaBuilder =
          .ofColumns (cols ++ includes.map (·.toColumnSchema false)) numKeyColumns
  | [], start, stmt, cols, numKeyColumns, _, _, alreadyAdded, built, _ =>
      ⟨stmt, rfl, rfl, alreadyAdded, by simpa using built⟩
  | attr :: rest, start, stmt, cols, numKeyColumns, included, notHash, alreadyAdded, built, names => by
      have fresh : attr.name ∉ cols.map ColumnSchema.name := by
        simp only [List.map_cons, List.nodup_append, List.mem_cons] at names
        exact fun member => names.2.2 _ member _ (Or.inl rfl) rfl
      obtain ⟨next, step, sameUnique, nextAdded, nextBuilder⟩ := createIndexAddColumn_include
        numIndexKeyAttrs stmt attr start cols numKeyColumns included (notHash attr (by simp))
        alreadyAdded built fresh
      obtain ⟨final, restRan, finalUnique, finalAdded, finalBuilder⟩ :=
        foldlM_createIndexAddColumn_includes rest (start + 1) next _ numKeyColumns (by omega)
          (fun other member => notHash other (by simp [member])) nextAdded nextBuilder
          (by simpa [IndexAttr.toColumnSchema] using names)
      refine ⟨final, ?_, finalUnique.trans sameUnique, finalAdded, ?_⟩
      · rw [List.zipIdx_cons, List.foldlM_cons, step]
        exact restRan
      · simp [finalBuilder]

theorem nodup_with_systemNames {front back rest system : List String}
    (systemSub : List.Sublist system ["k2pguniqueidxkeysuffix", "k2pgidxbasectid"])
    (backSub : List.Sublist back rest)
    (names : (front ++ rest ++ ["k2pguniqueidxkeysuffix", "k2pgidxbasectid"]).Nodup) :
    (front ++ system ++ back).Nodup := by
  have swapped : (front ++ (["k2pguniqueidxkeysuffix", "k2pgidxbasectid"] ++ rest)).Nodup :=
    ((List.perm_append_comm : List.Perm (["k2pguniqueidxkeysuffix", "k2pgidxbasectid"] ++ rest)
      (rest ++ ["k2pguniqueidxkeysuffix", "k2pgidxbasectid"])).append_left front).nodup_iff.mpr
      (by simpa only [List.append_assoc] using names)
  rw [List.append_assoc]
  exact swapped.sublist ((systemSub.append backSub).append_left front)

theorem indexSystemColumns_names (isUnique : Bool) :
    List.Sublist ((indexSystemColumns isUnique).map ColumnSchema.name)
      ["k2pguniqueidxkeysuffix", "k2pgidxbasectid"] := by
  cases isUnique <;> simp [indexSystemColumns]

theorem k2PgCreateIndex_eq (keys includes : List IndexAttr) (builder : SchemaBuilder)
    (names : ((keys ++ includes).map IndexAttr.name ++
      ["k2pguniqueidxkeysuffix", "k2pgidxbasectid"]).Nodup)
    (includesNotHash : ∀ attr ∈ includes, attr.isHash = false)
    (created : k2PgCreateIndex isUnique keys.length (keys ++ includes) = .ok builder) :
    builder = indexSchemaBuilder isUnique keys includes := by
  have columnNames : ∀ isKey, (keys.map (·.toColumnSchema isKey)).map ColumnSchema.name =
      keys.map IndexAttr.name := by
    intro isKey
    simp [Function.comp_def, IndexAttr.toColumnSchema]
  rw [List.map_append] at names
  unfold k2PgCreateIndex at created
  obtain ⟨stmt, ran, execEq⟩ := Except.bind_eq_ok created
  rw [List.zipIdx_append, List.foldlM_append] at ran
  obtain ⟨afterKeys, keysRan, includesRan⟩ := Except.bind_eq_ok ran
  obtain ⟨keysUnique, keysAdded, keysBuilder⟩ := foldlM_createIndexAddColumn_keys keys.length keys 0
    { isUniqueIndex := isUnique } afterKeys [] (by simp) rfl
    (by simpa using nodup_with_systemNames (List.nil_sublist _) (List.nil_sublist _) names)
    keysRan
  simp only [List.nil_append] at keysBuilder keysUnique keysAdded
  have systemFresh : "k2pguniqueidxkeysuffix" ∉ (keys.map (·.toColumnSchema true)).map ColumnSchema.name ∧
      "k2pgidxbasectid" ∉ (keys.map (·.toColumnSchema true)).map ColumnSchema.name := by
    have distinct := nodup_with_systemNames (List.Sublist.refl _) (List.nil_sublist _) names
    rw [columnNames]
    simp only [List.append_nil, List.nodup_append] at distinct
    exact ⟨fun member => distinct.2.2 _ member _ (by simp) rfl,
      fun member => distinct.2.2 _ member _ (by simp) rfl⟩
  cases includes with
  | nil =>
      simp only [List.zipIdx_nil, List.foldlM_nil, pure, Except.pure, Except.ok.injEq] at includesRan
      subst includesRan
      obtain ⟨withSystem, systemAdded, sameUnique, -, systemBuilder⟩ :=
        PgCreateIndex.addPgbasectidColumn_keys afterKeys _ keysBuilder systemFresh
      simp only [PgCreateIndex.exec, keysAdded, Bool.not_false, if_true, systemAdded, bind,
        Except.bind, pure, Except.pure, Except.ok.injEq] at execEq
      rw [← execEq, systemBuilder, keysUnique]
      simp [indexSchemaBuilder]
  | cons first rest =>
      rw [List.zipIdx_cons, List.foldlM_cons] at includesRan
      obtain ⟨withFirst, firstRan, restRan⟩ := Except.bind_eq_ok includesRan
      have firstFresh : ((keys.map (·.toColumnSchema true)).map ColumnSchema.name ++
          ["k2pguniqueidxkeysuffix", "k2pgidxbasectid", first.name]).Nodup := by
        rw [columnNames]
        simpa using nodup_with_systemNames (List.Sublist.refl _)
          (List.singleton_sublist.mpr (List.mem_cons_self : first.name ∈ first.name :: rest.map IndexAttr.name))
          (by simpa using names)
      obtain ⟨afterFirst, firstEq, firstUnique, firstAdded, firstBuilder⟩ :=
        createIndexAddColumn_first_include keys.length afterKeys first (0 + keys.length) _
          (by omega) (includesNotHash first (by simp)) keysAdded keysBuilder firstFresh
      rw [firstEq] at firstRan
      simp only [Except.ok.injEq] at firstRan
      subst firstRan
      have restFresh : ((keys.map (·.toColumnSchema true) ++ indexSystemColumns afterKeys.isUniqueIndex ++
          [first.toColumnSchema false]).map ColumnSchema.name ++ rest.map IndexAttr.name).Nodup := by
        have distinct := nodup_with_systemNames
          (indexSystemColumns_names afterKeys.isUniqueIndex) (List.Sublist.refl _) names
        simp only [List.map_append, columnNames, List.map_cons, List.map_nil] at distinct ⊢
        simpa [IndexAttr.toColumnSchema] using distinct
      obtain ⟨final, restEq, finalUnique, finalAdded, finalBuilder⟩ :=
        foldlM_createIndexAddColumn_includes keys.length rest (0 + keys.length + 1) afterFirst _ _
          (by omega) (fun attr member => includesNotHash attr (by simp [member])) firstAdded
          firstBuilder restFresh
      rw [restEq] at restRan
      simp only [Except.ok.injEq] at restRan
      subst restRan
      simp only [PgCreateIndex.exec, finalAdded, Bool.not_true, Bool.false_eq_true, if_false,
        bind, Except.bind, pure, Except.pure, Except.ok.injEq] at execEq
      rw [← execEq, finalBuilder, keysUnique]
      simp [indexSchemaBuilder]

end Phases

section TableColumns

theorem foldlM_addKeyColumns :
    ∀ (keys : List IndexAttr) (stmt final : PgCreateTable) (cols : List ColumnSchema),
      stmt.schemaBuilder = keyColumnsBuilder cols →
      KeysFirst stmt.schemaBuilder.cols stmt.schemaBuilder.numKeyColumns →
      keys.foldlM (fun stmt attr => stmt.addColumnImpl attr.name attr.attnum attr.type attr.isHash
        true (addColumnSortingType attr.isHash true attr.isDesc attr.isNullsFirst)) stmt = .ok final →
      (∃ keyCols, final.schemaBuilder = keyColumnsBuilder keyCols) ∧
        KeysFirst final.schemaBuilder.cols final.schemaBuilder.numKeyColumns
  | [], stmt, final, cols, keysOnly, valid, ran => by
      cases ran
      exact ⟨⟨cols, keysOnly⟩, valid⟩
  | attr :: rest, stmt, final, cols, keysOnly, valid, ran => by
      rw [List.foldlM_cons] at ran
      obtain ⟨next, step, restRan⟩ := Except.bind_eq_ok ran
      have nextValid := PgCreateTable.addColumnImpl_keysFirst valid step
      rcases PgCreateTable.addColumnImpl_ofColumns keysOnly (fun _ => rfl) step with same | appended
      · exact foldlM_addKeyColumns rest next final cols (same.trans keysOnly) nextValid restRan
      · let column : ColumnSchema :=
          { name := attr.name, type := attr.type, isNullable := !(attr.isHash || true),
            isKey := true || attr.isHash, order := attr.attnum,
            sortingType := addColumnSortingType attr.isHash true attr.isDesc attr.isNullsFirst }
        refine foldlM_addKeyColumns rest next final (cols ++ [column]) ?_ nextValid restRan
        simp [appended, keyColumnsBuilder, column]

theorem foldlM_addValueColumns :
    ∀ (others : List IndexAttr) (stmt final : PgCreateTable) (cols : List ColumnSchema)
      (numKeyColumns : Nat),
      stmt.schemaBuilder = .ofColumns cols numKeyColumns →
      KeysFirst stmt.schemaBuilder.cols stmt.schemaBuilder.numKeyColumns →
      others.foldlM (fun stmt attr => stmt.addColumnImpl attr.name attr.attnum attr.type false false
        (addColumnSortingType false false false false)) stmt = .ok final →
      (∃ cols, final.schemaBuilder = .ofColumns cols numKeyColumns) ∧
        KeysFirst final.schemaBuilder.cols final.schemaBuilder.numKeyColumns
  | [], stmt, final, cols, numKeyColumns, built, valid, ran => by
      cases ran
      exact ⟨⟨cols, built⟩, valid⟩
  | attr :: rest, stmt, final, cols, numKeyColumns, built, valid, ran => by
      rw [List.foldlM_cons] at ran
      obtain ⟨next, step, restRan⟩ := Except.bind_eq_ok ran
      have nextValid := PgCreateTable.addColumnImpl_keysFirst valid step
      rcases PgCreateTable.addColumnImpl_ofColumns built (fun notKey => by cases notKey) step with
        same | appended
      · exact foldlM_addValueColumns rest next final cols numKeyColumns (same.trans built) nextValid
          restRan
      · exact foldlM_addValueColumns rest next final _ numKeyColumns (by simpa using appended)
          nextValid restRan

theorem createTableAddColumns_ofColumns {keys others : List IndexAttr} {stmt : PgCreateTable}
    (added : createTableAddColumns keys others = .ok stmt) :
    ∃ cols numKeyColumns, stmt.schemaBuilder = .ofColumns cols numKeyColumns ∧
      KeysFirst cols numKeyColumns := by
  unfold createTableAddColumns at added
  obtain ⟨afterKeys, keysRan, othersRan⟩ := Except.bind_eq_ok added
  obtain ⟨⟨keyCols, keysOnly⟩, keysValid⟩ :=
    foldlM_addKeyColumns keys {} afterKeys [] rfl KeysFirst.empty keysRan
  obtain ⟨⟨cols, built⟩, valid⟩ :=
    foldlM_addValueColumns others afterKeys stmt keyCols keyCols.length keysOnly keysValid othersRan
  rw [built] at valid
  exact ⟨cols, keyCols.length, built, valid⟩

end TableColumns

theorem deriveIndexSchema_some {indexId : String} {schema : PgSchema} {skvSchema : Schema}
    (derived : deriveIndexSchema indexId schema = some skvSchema) :
    skvSchema = deriveSKVSchemaFromTableInfo indexId schema := by
  unfold deriveIndexSchema at derived
  split at derived
  · cases derived
  · exact (Option.some.inj derived).symm

end ChogoriSql
