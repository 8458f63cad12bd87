import ChogoriSql.Order.Prefix
import ChogoriSql.Sql.Value

/-! The SKV client's schema and record (`k2::dto::Schema`, `k2::dto::SKVRecord`), which live
outside this repository.  The model follows their documented behaviour: a record is
serialized field by field in schema order through a cursor, a field is either a value or
NULL, and keys are ordered field by field with each key field's `descending` and `nullLast`
flags.  The order SKV gives two values of a field and the range its scans return are
parameters with the laws `FieldOrder` and `RangeScan` state; `FieldValue.compare` and
`scanInKeyOrder` have those laws. -/

namespace ChogoriSql

inductive FieldType where
  | STRING
  | INT16T
  | INT32T
  | INT64T
  | FLOAT
  | DOUBLE
  | BOOL
  | NOT_KNOWN
  deriving DecidableEq, Repr

inductive FieldValue where
  | int64T (value : Int64)
  | string (bytes : List UInt8)
  | bool (value : Bool)
  | float (bits : UInt32)
  | double (bits : UInt64)
  deriving DecidableEq, Repr

structure SchemaField where
  type : FieldType
  name : String
  descending : Bool := false
  nullLast : Bool := false
  deriving DecidableEq, Repr

structure Schema where
  name : String := ""
  version : Nat := 0
  fields : List SchemaField
  partitionKeyFields : List Nat
  rangeKeyFields : List Nat := []
  deriving DecidableEq, Repr

/-- An SKV record: the fields serialized so far, in schema order; `none` is a NULL field.
The field cursor is the number of fields serialized. -/
structure SKVRecord where
  collectionName : String
  schema : Schema
  fieldData : List (Option FieldValue)
  deriving DecidableEq, Repr

def SKV_FIELD_OFFSET : Nat := 2

namespace SKVRecord

def empty (collectionName : String) (schema : Schema) : SKVRecord :=
  { collectionName, schema, fieldData := [] }

def getFieldCursor (record : SKVRecord) : Nat :=
  record.fieldData.length

def serializeNext (record : SKVRecord) (value : FieldValue) : SKVRecord :=
  { record with fieldData := record.fieldData ++ [some value] }

def serializeNull (record : SKVRecord) : SKVRecord :=
  { record with fieldData := record.fieldData ++ [none] }

def seekField (record : SKVRecord) (index : Nat) : SKVRecord :=
  { record with fieldData := record.fieldData.take index }

@[simp] theorem serializeNext_fieldData (record : SKVRecord) (value : FieldValue) :
    (record.serializeNext value).fieldData = record.fieldData ++ [some value] := rfl

@[simp] theorem serializeNull_fieldData (record : SKVRecord) :
    record.serializeNull.fieldData = record.fieldData ++ [none] := rfl

@[simp] theorem serializeNext_schema (record : SKVRecord) (value : FieldValue) :
    (record.serializeNext value).schema = record.schema := rfl

@[simp] theorem serializeNull_schema (record : SKVRecord) :
    record.serializeNull.schema = record.schema := rfl

@[simp] theorem serializeNext_collectionName (record : SKVRecord) (value : FieldValue) :
    (record.serializeNext value).collectionName = record.collectionName := rfl

@[simp] theorem serializeNull_collectionName (record : SKVRecord) :
    record.serializeNull.collectionName = record.collectionName := rfl

end SKVRecord

/-- `K2Adapter::SerializeValueToSKVRecord`: the field value a `SqlValue` is written as. -/
def SqlValue.toFieldValue : SqlValue → Option FieldValue
  | .null _ => none
  | .bool value => some (.bool value)
  | .int value => some (.int64T value)
  | .float bits => some (.float bits)
  | .double bits => some (.double bits)
  | .slice bytes => some (.string bytes)

/-- `K2Adapter::SerializeValueToSKVRecord(value, record)`. -/
def K2Adapter.serializeValueToSKVRecord (value : SqlValue) (record : SKVRecord) : SKVRecord :=
  match value.toFieldValue with
  | none => record.serializeNull
  | some field => record.serializeNext field

@[simp] theorem K2Adapter.serializeValueToSKVRecord_fieldData (value : SqlValue)
    (record : SKVRecord) :
    (K2Adapter.serializeValueToSKVRecord value record).fieldData =
      record.fieldData ++ [value.toFieldValue] := by
  unfold K2Adapter.serializeValueToSKVRecord
  cases value.toFieldValue <;> rfl

@[simp] theorem K2Adapter.serializeValueToSKVRecord_schema (value : SqlValue)
    (record : SKVRecord) :
    (K2Adapter.serializeValueToSKVRecord value record).schema = record.schema := by
  unfold K2Adapter.serializeValueToSKVRecord
  cases value.toFieldValue <;> rfl

@[simp] theorem K2Adapter.serializeValueToSKVRecord_collectionName (value : SqlValue)
    (record : SKVRecord) :
    (K2Adapter.serializeValueToSKVRecord value record).collectionName = record.collectionName := by
  unfold K2Adapter.serializeValueToSKVRecord
  cases value.toFieldValue <;> rfl

/-- What the claims assume of the order SKV gives two non-NULL values of one field type: integers
and floats numerically, strings byte-wise, `false < true`. -/
structure FieldOrder (compare : FieldValue → FieldValue → Ordering) : Prop where
  int64T : ∀ a b : Int64, compare (.int64T a) (.int64T b) = Ord.compare a.toInt b.toInt
  string : ∀ a b : List UInt8, compare (.string a) (.string b) = compareOfLessAndEq a b
  bool : ∀ a b : Bool, compare (.bool a) (.bool b) = Ord.compare a b
  float : ∀ a b : UInt32, compare (.float a) (.float b) =
    Ord.compare (Ieee754.numericKey 32 a.toNat) (Ieee754.numericKey 32 b.toNat)
  double : ∀ a b : UInt64, compare (.double a) (.double b) =
    Ord.compare (Ieee754.numericKey 64 a.toNat) (Ieee754.numericKey 64 b.toNat)

def FieldValue.compare : FieldValue → FieldValue → Ordering
  | .int64T a, .int64T b => Ord.compare a.toInt b.toInt
  | .string a, .string b => compareOfLessAndEq a b
  | .bool a, .bool b => Ord.compare a b
  | .float a, .float b =>
      Ord.compare (Ieee754.numericKey 32 a.toNat) (Ieee754.numericKey 32 b.toNat)
  | .double a, .double b =>
      Ord.compare (Ieee754.numericKey 64 a.toNat) (Ieee754.numericKey 64 b.toNat)
  | _, _ => .eq

@[simp] theorem FieldValue.compare_int64T (a b : Int64) :
    (FieldValue.int64T a).compare (.int64T b) = Ord.compare a.toInt b.toInt := rfl

theorem FieldValue.compare_fieldOrder : FieldOrder FieldValue.compare :=
  ⟨fun _ _ => rfl, fun _ _ => rfl, fun _ _ => rfl, fun _ _ => rfl, fun _ _ => rfl⟩

def SchemaField.compareValues (compare : FieldValue → FieldValue → Ordering) (field : SchemaField) :
    Option FieldValue → Option FieldValue → Ordering
  | none, none => .eq
  | none, some _ => if field.nullLast then .gt else .lt
  | some _, none => if field.nullLast then .lt else .gt
  | some a, some b => if field.descending then compare b a else compare a b

def Schema.keyComparators (compare : FieldValue → FieldValue → Ordering) (schema : Schema) :
    List (Option FieldValue → Option FieldValue → Ordering) :=
  schema.fields.map (SchemaField.compareValues compare)

def InScanRange (compare : FieldValue → FieldValue → Ordering) (startScanRecord endScanRecord : SKVRecord)
    (row : List (Option FieldValue)) : Prop :=
  PrefixOrder.InRange (startScanRecord.schema.keyComparators compare) startScanRecord.fieldData
    endScanRecord.fieldData row

instance (compare : FieldValue → FieldValue → Ordering) (startScanRecord endScanRecord : SKVRecord)
    (row : List (Option FieldValue)) :
    Decidable (InScanRange compare startScanRecord endScanRecord row) :=
  inferInstanceAs (Decidable (PrefixOrder.InRange _ _ _ _))

/-- What the claims assume of an SKV scan: of the records stored under a schema, the scan from a
start record to an end record returns those whose fields lie in the prefix range the two bound. -/
structure RangeScan (compare : FieldValue → FieldValue → Ordering)
    (scan : List SKVRecord → SKVRecord → SKVRecord → List SKVRecord) : Prop where
  mem_iff : ∀ stored startScanRecord endScanRecord record,
    record ∈ scan stored startScanRecord endScanRecord ↔
      record ∈ stored ∧ InScanRange compare startScanRecord endScanRecord record.fieldData

def scanInKeyOrder (compare : FieldValue → FieldValue → Ordering) (stored : List SKVRecord)
    (startScanRecord endScanRecord : SKVRecord) : List SKVRecord :=
  (stored.filter fun record => decide (InScanRange compare startScanRecord endScanRecord record.fieldData)).mergeSort
    fun record other =>
      PrefixOrder.lexCompare (startScanRecord.schema.keyComparators compare) record.fieldData
        other.fieldData != .gt

theorem scanInKeyOrder_rangeScan (compare : FieldValue → FieldValue → Ordering) :
    RangeScan compare (scanInKeyOrder compare) where
  mem_iff stored startScanRecord endScanRecord record := by
    simp [scanInKeyOrder, List.mem_mergeSort]

end ChogoriSql
