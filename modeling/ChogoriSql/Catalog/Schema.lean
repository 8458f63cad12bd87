import ChogoriSql.Common.Status
import ChogoriSql.Skv.Record
import ChogoriSql.Postgres.Types

/-! Table schemas as `SchemaBuilder` builds them for `PgCreateTable`, and the SKV schema
`TableInfoHandler::DeriveSKVSchemaFromTableInfo` derives from a table: the `TableId` and
`IndexId` fields, then one field per column, with the primary columns as partition key fields,
each of the SKV field type `ToK2Type` gives the column's data type. -/

namespace ChogoriSql

inductive SortingType where
  | kNotSpecified
  | kAscending
  | kDescending
  | kAscendingNullsLast
  | kDescendingNullsLast
  deriving DecidableEq, Repr

structure ColumnSchema where
  name : String
  type : K2SqlDataType
  isNullable : Bool
  isKey : Bool
  isHash : Bool := false
  order : Int
  sortingType : SortingType := .kNotSpecified
  deriving DecidableEq, Repr

/-- The shape of a schema: the `numKeyColumns` key columns first, then the others, and no
column name twice. -/
structure KeysFirst (cols : List ColumnSchema) (numKeyColumns : Nat) : Prop where
  keys : ∀ column ∈ cols.take numKeyColumns, column.isKey = true
  values : ∀ column ∈ cols.drop numKeyColumns, column.isKey = false
  numKeyColumns_le : numKeyColumns ≤ cols.length
  namesNodup : (cols.map ColumnSchema.name).Nodup

def kFirstColumnId : Int := 0

structure SchemaBuilder where
  cols : List ColumnSchema := []
  colIds : List Int := []
  numKeyColumns : Nat := 0
  nextId : Int := kFirstColumnId
  deriving Repr

namespace SchemaBuilder

/-- `SchemaBuilder::AddColumn(name, type, is_nullable, is_key, order, sorting_type)`, which
passes `is_key` both to the new `ColumnSchema` and to the insertion: a key column and its id go
after the key columns already there, any other column at the end.  Every column takes the
next id. -/
def addColumn (builder : SchemaBuilder) (column : ColumnSchema) : Except Status SchemaBuilder :=
  if builder.cols.any (·.name == column.name) then
    .error { code := .alreadyPresent, message := "The column already exists: " ++ column.name }
  else if column.isKey then
    .ok { cols := builder.cols.insertIdx builder.numKeyColumns column,
          colIds := builder.colIds.insertIdx builder.numKeyColumns builder.nextId,
          numKeyColumns := builder.numKeyColumns + 1, nextId := builder.nextId + 1 }
  else
    .ok { builder with cols := builder.cols ++ [column], colIds := builder.colIds ++ [builder.nextId],
                       nextId := builder.nextId + 1 }

def ofColumns (cols : List ColumnSchema) (numKeyColumns : Nat) : SchemaBuilder :=
  { cols, colIds := (List.range cols.length).map Int.ofNat, numKeyColumns, nextId := cols.length }

@[simp] theorem ofColumns_cols (cols : List ColumnSchema) (numKeyColumns : Nat) :
    (ofColumns cols numKeyColumns).cols = cols := rfl

@[simp] theorem ofColumns_colIds (cols : List ColumnSchema) (numKeyColumns : Nat) :
    (ofColumns cols numKeyColumns).colIds = (List.range cols.length).map Int.ofNat := rfl

@[simp] theorem ofColumns_numKeyColumns (cols : List ColumnSchema) (numKeyColumns : Nat) :
    (ofColumns cols numKeyColumns).numKeyColumns = numKeyColumns := rfl

end SchemaBuilder

structure PgSchema where
  columns : List ColumnSchema
  columnIds : List Int
  numKeyColumns : Nat
  version : Nat
  keysFirst : KeysFirst columns numKeyColumns

def SchemaBuilder.build (builder : SchemaBuilder) (version : Nat)
    (keysFirst : KeysFirst builder.cols builder.numKeyColumns) : PgSchema :=
  { columns := builder.cols, columnIds := builder.colIds, numKeyColumns := builder.numKeyColumns,
    version, keysFirst }

def TABLE_ID_COLUMN_NAME : String := "TableId"
def INDEX_ID_COLUMN_NAME : String := "IndexId"

def defaultPartitionKeyFields : List SchemaField :=
  [{ type := .INT64T, name := TABLE_ID_COLUMN_NAME }, { type := .INT64T, name := INDEX_ID_COLUMN_NAME }]

/-- `TableInfoHandler::ToK2Type`: every integer and time type is stored as an `INT64T`, text,
bytes and numerics as a `STRING`. -/
def toK2Type : K2SqlDataType → FieldType
  | .K2SQL_DATA_TYPE_INT8 | .K2SQL_DATA_TYPE_INT16 | .K2SQL_DATA_TYPE_INT32
  | .K2SQL_DATA_TYPE_INT64 | .K2SQL_DATA_TYPE_UINT32 | .K2SQL_DATA_TYPE_UINT64
  | .K2SQL_DATA_TYPE_TIMESTAMP => .INT64T
  | .K2SQL_DATA_TYPE_STRING | .K2SQL_DATA_TYPE_BINARY | .K2SQL_DATA_TYPE_DECIMAL => .STRING
  | .K2SQL_DATA_TYPE_BOOL => .BOOL
  | .K2SQL_DATA_TYPE_FLOAT => .FLOAT
  | .K2SQL_DATA_TYPE_DOUBLE => .DOUBLE

def ColumnSchema.toSchemaField (column : ColumnSchema) : SchemaField :=
  match column.sortingType with
  | .kAscending =>
      { type := toK2Type column.type, name := column.name, descending := false, nullLast := false }
  | .kDescending =>
      { type := toK2Type column.type, name := column.name, descending := true, nullLast := false }
  | .kAscendingNullsLast =>
      { type := toK2Type column.type, name := column.name, descending := false, nullLast := true }
  | .kDescendingNullsLast =>
      { type := toK2Type column.type, name := column.name, descending := true, nullLast := true }
  | .kNotSpecified => { type := toK2Type column.type, name := column.name }

@[simp] theorem ColumnSchema.toSchemaField_name (column : ColumnSchema) :
    column.toSchemaField.name = column.name := by
  unfold ColumnSchema.toSchemaField
  split <;> rfl

def keyFieldIndexes : List ColumnSchema → Nat → List Nat
  | [], _ => []
  | column :: rest, count =>
      if column.isKey then count :: keyFieldIndexes rest (count + 1)
      else keyFieldIndexes rest (count + 1)

/-- `TableInfoHandler::DeriveSKVSchemaFromTableInfo`. -/
def deriveSKVSchemaFromTableInfo (tableId : String) (schema : PgSchema) : Schema :=
  { name := tableId, version := schema.version,
    fields := defaultPartitionKeyFields ++ schema.columns.map ColumnSchema.toSchemaField,
    partitionKeyFields := [0, 1] ++ keyFieldIndexes schema.columns 2 }

section Builder

theorem insertIdx_append_length {α : Type} (front back : List α) (item : α) :
    (front ++ back).insertIdx front.length item = front ++ item :: back := by
  induction front with
  | nil => simp
  | cons head front ih => simp [ih]

theorem SchemaBuilder.addColumn_ofColumns (cols : List ColumnSchema) (numKeyColumns : Nat)
    (column : ColumnSchema) (fresh : column.name ∉ cols.map ColumnSchema.name)
    (atEnd : column.isKey = true → numKeyColumns = cols.length) :
    (SchemaBuilder.ofColumns cols numKeyColumns).addColumn column =
      .ok (.ofColumns (cols ++ [column]) (numKeyColumns + if column.isKey then 1 else 0)) := by
  have notTaken : (cols.any (·.name == column.name)) = false := by
    simpa using fresh
  unfold SchemaBuilder.addColumn SchemaBuilder.ofColumns
  rw [if_neg (by simp [notTaken])]
  cases key : column.isKey
  · simp [List.range_succ]
  · have atLength := insertIdx_append_length cols [] column
    have idsAtLength := insertIdx_append_length ((List.range cols.length).map Int.ofNat) []
      (cols.length : Int)
    simp only [List.append_nil, List.length_map, List.length_range] at atLength idsAtLength
    simp [atEnd key, atLength, idsAtLength, List.range_succ]

theorem KeysFirst.of_append {keys values : List ColumnSchema}
    (keysAreKeys : ∀ column ∈ keys, column.isKey = true)
    (valuesAreValues : ∀ column ∈ values, column.isKey = false)
    (names : ((keys ++ values).map ColumnSchema.name).Nodup) :
    KeysFirst (keys ++ values) keys.length :=
  ⟨by simpa using keysAreKeys, by simpa using valuesAreValues, by simp, names⟩

theorem SchemaBuilder.addColumn_keysFirst {builder next : SchemaBuilder} {column : ColumnSchema}
    (valid : KeysFirst builder.cols builder.numKeyColumns) (added : builder.addColumn column = .ok next) :
    KeysFirst next.cols next.numKeyColumns := by
  obtain ⟨keys, values, bound, names⟩ := valid
  set front := builder.cols.take builder.numKeyColumns
  set back := builder.cols.drop builder.numKeyColumns
  have split : builder.cols = front ++ back := (List.take_append_drop _ _).symm
  have frontLength : front.length = builder.numKeyColumns := by simp [front, bound]
  rw [split] at names
  simp only [addColumn] at added
  split at added
  · cases added
  · rename_i fresh
    have freshName : column.name ∉ (front ++ back).map ColumnSchema.name := by
      rw [← split]
      simpa using fresh
    split at added
    · rename_i isKey
      cases added
      have inserted : builder.cols.insertIdx builder.numKeyColumns column = (front ++ [column]) ++ back := by
        rw [split, ← frontLength, insertIdx_append_length]
        simp
      have grown : builder.numKeyColumns + 1 = (front ++ [column]).length := by simp [frontLength]
      have grownKeys : ∀ other ∈ front ++ [column], other.isKey = true := by
        intro other member
        rcases List.mem_append.mp member with old | new
        · exact keys other old
        · rw [List.mem_singleton.mp new]
          exact isKey
      rw [inserted, grown]
      refine KeysFirst.of_append grownKeys values ?_
      rw [List.append_assoc, List.singleton_append, List.map_append, List.map_cons, List.nodup_middle]
      exact List.nodup_cons.mpr ⟨by simpa using freshName, by simpa using names⟩
    · rename_i notKey
      cases added
      have appended : builder.cols ++ [column] = front ++ (back ++ [column]) := by
        rw [split, List.append_assoc]
      have grownValues : ∀ other ∈ back ++ [column], other.isKey = false := by
        intro other member
        rcases List.mem_append.mp member with old | new
        · exact values other old
        · rw [List.mem_singleton.mp new]
          simpa using notKey
      simp only [appended, ← frontLength]
      refine KeysFirst.of_append keys grownValues ?_
      rw [← List.append_assoc, List.map_append, List.nodup_append_comm, List.map_singleton,
        List.singleton_append]
      exact List.nodup_cons.mpr ⟨freshName, names⟩

theorem SchemaBuilder.addColumns_keysFirst (columns : List ColumnSchema) :
    ∀ {builder next : SchemaBuilder}, KeysFirst builder.cols builder.numKeyColumns →
      columns.foldlM SchemaBuilder.addColumn builder = .ok next → KeysFirst next.cols next.numKeyColumns := by
  induction columns with
  | nil =>
      intro builder next valid built
      cases built
      exact valid
  | cons column rest ih =>
      intro builder next valid built
      simp only [List.foldlM_cons] at built
      cases added : builder.addColumn column with
      | error status => rw [added] at built; cases built
      | ok middle =>
          rw [added] at built
          exact ih (SchemaBuilder.addColumn_keysFirst valid added) built

theorem KeysFirst.empty : KeysFirst [] 0 :=
  ⟨by simp, by simp, le_refl 0, List.nodup_nil⟩

theorem KeysFirst.countP_isKey {cols : List ColumnSchema} {numKeyColumns : Nat}
    (keysFirst : KeysFirst cols numKeyColumns) : cols.countP (·.isKey) = numKeyColumns := by
  have split : cols = cols.take numKeyColumns ++ cols.drop numKeyColumns :=
    (List.take_append_drop _ _).symm
  have front : (cols.take numKeyColumns).countP (·.isKey) = numKeyColumns := by
    rw [List.countP_eq_length.mpr (fun column member => keysFirst.keys column member)]
    simpa using keysFirst.numKeyColumns_le
  have back : (cols.drop numKeyColumns).countP (·.isKey) = 0 := by
    rw [List.countP_eq_zero]
    intro column member
    simp [keysFirst.values column member]
  rw [split, List.countP_append, front, back, Nat.add_zero]

end Builder

section Derived

theorem keyFieldIndexes_keysFirst (keys values : List ColumnSchema)
    (keysAreKeys : ∀ column ∈ keys, column.isKey = true)
    (valuesAreValues : ∀ column ∈ values, column.isKey = false) :
    ∀ count, keyFieldIndexes (keys ++ values) count = (List.range keys.length).map (· + count) := by
  induction keys with
  | nil =>
      induction values with
      | nil => simp [keyFieldIndexes]
      | cons column rest ih =>
          intro count
          have notKey := valuesAreValues column (by simp)
          simp only [List.nil_append] at ih ⊢
          simp [keyFieldIndexes, notKey, ih (fun other member => valuesAreValues other (by simp [member]))]
  | cons column rest ih =>
      intro count
      have isKey := keysAreKeys column (by simp)
      simp only [List.cons_append, keyFieldIndexes, isKey, if_true, List.length_cons,
        List.range_succ_eq_map, List.map_cons, List.map_map]
      rw [ih (fun other member => keysAreKeys other (by simp [member]))]
      simp [Function.comp_def, Nat.add_comm, Nat.add_left_comm]

theorem deriveSKVSchemaFromTableInfo_partitionKeyFields (tableId : String) (schema : PgSchema) :
    (deriveSKVSchemaFromTableInfo tableId schema).partitionKeyFields =
      List.range (schema.numKeyColumns + 2) := by
  have split := List.take_append_drop schema.numKeyColumns schema.columns
  have indexes := keyFieldIndexes_keysFirst _ _ schema.keysFirst.keys schema.keysFirst.values 2
  rw [split] at indexes
  have frontLength : (schema.columns.take schema.numKeyColumns).length = schema.numKeyColumns := by
    simp [schema.keysFirst.numKeyColumns_le]
  rw [deriveSKVSchemaFromTableInfo, indexes, frontLength, Nat.add_comm, List.range_add]
  simp [Nat.add_comm]
  rfl

@[simp] theorem deriveSKVSchemaFromTableInfo_rangeKeyFields (tableId : String) (schema : PgSchema) :
    (deriveSKVSchemaFromTableInfo tableId schema).rangeKeyFields = [] := rfl

@[simp] theorem deriveSKVSchemaFromTableInfo_fields_length (tableId : String) (schema : PgSchema) :
    (deriveSKVSchemaFromTableInfo tableId schema).fields.length = schema.columns.length + 2 := by
  simp [deriveSKVSchemaFromTableInfo, defaultPartitionKeyFields]

theorem deriveSKVSchemaFromTableInfo_column_names (tableId : String) (schema : PgSchema) :
    ((deriveSKVSchemaFromTableInfo tableId schema).fields.drop 2).map SchemaField.name =
      schema.columns.map ColumnSchema.name := by
  simp [deriveSKVSchemaFromTableInfo, defaultPartitionKeyFields, Function.comp_def]

end Derived

end ChogoriSql
