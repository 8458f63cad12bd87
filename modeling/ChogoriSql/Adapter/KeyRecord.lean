import ChogoriSql.Adapter.StatusMap
import ChogoriSql.Sql.Expr
import ChogoriSql.Skv.Record

/-! The request records of `pggate/pg_op_api.h` and the key prefix every SKV record starts
with, `K2Adapter::MakeSKVRecordWithKeysSerialized`: the tableId and indexId fields, then the
bound key values in bind order until the first unbound one. -/

namespace ChogoriSql

structure BindVariable where
  idx : Int
  expr : Option PgExpr := none
  deriving Repr

structure KeyedRequest where
  collectionName : String
  tableId : String
  baseTableOid : UInt32
  indexOid : UInt32
  schemaVersion : Nat
  keyColumnValues : List BindVariable
  deriving Repr

def oidField (oid : UInt32) : FieldValue :=
  .int64T (Int64.ofNat oid.toNat)

namespace K2Adapter

def serializeKeyColumnValues : List BindVariable → SKVRecord → Except String SKVRecord
  | [], record => .ok record
  | column :: rest, record =>
      match column.expr with
      | none => .ok record
      | some (.constant value) =>
          serializeKeyColumnValues rest (serializeValueToSKVRecord value record)
      | some _ => .error "Non value type in key_column_values"

theorem serializeKeyColumnValues_constants (binds : List BindVariable) (values : List SqlValue)
    (bound : binds.map BindVariable.expr = values.map fun value => some (.constant value)) :
    ∀ record, serializeKeyColumnValues binds record =
      .ok { record with fieldData := record.fieldData ++ values.map SqlValue.toFieldValue } := by
  induction binds generalizing values with
  | nil =>
      intro record
      cases values with
      | nil => simp [serializeKeyColumnValues]
      | cons value rest => simp at bound
  | cons bind rest ih =>
      intro record
      cases values with
      | nil => simp at bound
      | cons value others =>
          simp only [List.map_cons, List.cons.injEq] at bound
          simp [serializeKeyColumnValues, bound.1, ih others bound.2]

/-- `K2Adapter::MakeSKVRecordWithKeysSerialized(request, existYbctids, ignoreK2PGTID)`.  The
schema comes from the SKV client's `getSchema`; when that fails the record is empty and the
status is the translated SKV status. -/
def makeSKVRecordWithKeysSerialized (request : KeyedRequest) (schemaResult : Except K2Status Schema)
    (existYbctids : Bool) (ignoreK2PGTID : Bool := false) : Except String (SKVRecord × Status) :=
  match schemaResult with
  | .error status =>
      .ok (SKVRecord.empty "" { fields := [], partitionKeyFields := [] }, k2StatusToK2PgStatus status)
  | .ok schema =>
      let record := SKVRecord.empty request.collectionName schema
      if existYbctids && !ignoreK2PGTID then
        -- a pre-serialized key travels in the k2pgctid: only skip the key fields
        .ok ((List.replicate schema.partitionKeyFields.length ()).foldl
          (fun record _ => record.serializeNull) record, Status.OK)
      else
        let prefixed := (record.serializeNext (oidField request.baseTableOid)).serializeNext
          (oidField request.indexOid)
        (serializeKeyColumnValues request.keyColumnValues prefixed).map fun record =>
          (record, Status.OK)

end K2Adapter

end ChogoriSql
