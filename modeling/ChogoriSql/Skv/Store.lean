import ChogoriSql.Adapter.WriteOp

/-! The rows of a table in SKV, as the writes of a K23SI transaction change them.  What SKV does
lives outside this repository, so it is a parameter, `SkvTxn`, with the laws the claims assume of
it: a row is found by its key, a write whose existence precondition fails is refused with
`ConditionFailed` and changes nothing, and a partial update overwrites the listed fields of an
existing row and fails with `ConditionFailed` when there is none.  `K23SITxn::partialUpdate`,
which builds the key the update is sent with, is this repository's. -/

namespace ChogoriSql

structure SkvStore where
  rows : List (Option FieldValue) → Option (List (Option FieldValue))

namespace SkvStore

def refuses (store : SkvStore) (record : SKVRecord) (precondition : ExistencePrecondition) : Bool :=
  let present := (store.rows record.getKey).isSome
  precondition == .NotExists && present || precondition == .Exists && !present

def put (store : SkvStore) (record : SKVRecord) (erase : Bool) : SkvStore :=
  ⟨Function.update store.rows record.getKey (if erase then none else some record.fieldData)⟩

def overwriteFields (row : List (Option FieldValue)) (record : SKVRecord)
    (fieldsForUpdate : List Nat) : List (Option FieldValue) :=
  row.mapIdx fun field old => if field ∈ fieldsForUpdate then record.fieldData[field]?.join else old

def write (store : SkvStore) (record : SKVRecord) (erase : Bool)
    (precondition : ExistencePrecondition) : K2Status × SkvStore :=
  if store.refuses record precondition then (K2Status.ConditionFailed, store)
  else (K2Status.OK, store.put record erase)

def partialUpdateRow (store : SkvStore) (record : SKVRecord) (fieldsForUpdate : List Nat)
    (key : List (Option FieldValue)) : K2Status × SkvStore :=
  match store.rows key with
  | none => (K2Status.ConditionFailed, store)
  | some row =>
      (K2Status.OK, ⟨Function.update store.rows key (some (overwriteFields row record fieldsForUpdate))⟩)

end SkvStore

/-- The writes of a K23SI transaction on the rows of one schema, with what the claims assume of
SKV. -/
structure SkvTxn where
  write : SkvStore → SKVRecord → Bool → ExistencePrecondition → K2Status × SkvStore
  partialUpdateRow : SkvStore → SKVRecord → List Nat → List (Option FieldValue) → K2Status × SkvStore
  write_refused : ∀ store record erase precondition, store.refuses record precondition = true →
    write store record erase precondition = (K2Status.ConditionFailed, store)
  write_accepted : ∀ store record erase precondition, store.refuses record precondition = false →
    write store record erase precondition = (K2Status.OK, store.put record erase)
  partialUpdateRow_absent : ∀ store record fieldsForUpdate key, store.rows key = none →
    partialUpdateRow store record fieldsForUpdate key = (K2Status.ConditionFailed, store)
  partialUpdateRow_present : ∀ store record fieldsForUpdate key row, store.rows key = some row →
    partialUpdateRow store record fieldsForUpdate key =
      (K2Status.OK, ⟨Function.update store.rows key
        (some (SkvStore.overwriteFields row record fieldsForUpdate))⟩)

namespace SkvTxn

def reference : SkvTxn where
  write := SkvStore.write
  partialUpdateRow := SkvStore.partialUpdateRow
  write_refused store record erase precondition refused := by simp [SkvStore.write, refused]
  write_accepted store record erase precondition accepted := by simp [SkvStore.write, accepted]
  partialUpdateRow_absent store record fieldsForUpdate key absent := by
    simp [SkvStore.partialUpdateRow, absent]
  partialUpdateRow_present store record fieldsForUpdate key row present := by
    simp [SkvStore.partialUpdateRow, present]

variable (txn : SkvTxn)

def partialUpdate (store : SkvStore) (record : SKVRecord) (fieldsForUpdate : List Nat)
    (partitionKey : List (Option FieldValue)) : K2Status × SkvStore :=
  txn.partialUpdateRow store record fieldsForUpdate
    (if partitionKey.isEmpty then record.getKey else partitionKey)

def apply (store : SkvStore) : SkvWriteCall → K2Status × SkvStore
  | .write record erase precondition => txn.write store record erase precondition
  | .partialUpdate record fieldsForUpdate partitionKey =>
      txn.partialUpdate store record fieldsForUpdate partitionKey

theorem write_accepted_rows (store : SkvStore) (record : SKVRecord)
    (precondition : ExistencePrecondition)
    (accepted : (txn.write store record false precondition).1 = K2Status.OK) :
    (txn.write store record false precondition).2.rows =
      Function.update store.rows record.getKey (some record.fieldData) := by
  cases refused : store.refuses record precondition with
  | true =>
      rw [txn.write_refused _ _ _ _ refused] at accepted
      simp [K2Status.ConditionFailed, K2Status.OK] at accepted
  | false =>
      rw [txn.write_accepted _ _ _ _ refused]
      rfl

theorem write_none_status (store : SkvStore) (record : SKVRecord) (erase : Bool) :
    (txn.write store record erase .None).1 = K2Status.OK := by
  rw [txn.write_accepted _ _ _ _ (by simp [SkvStore.refuses])]

theorem write_notExists_status (store : SkvStore) (record : SKVRecord) (erase : Bool) :
    (txn.write store record erase .NotExists).1 =
      if (store.rows record.getKey).isSome then K2Status.ConditionFailed else K2Status.OK := by
  cases present : (store.rows record.getKey).isSome with
  | true => rw [txn.write_refused _ _ _ _ (by simp [SkvStore.refuses, present]), if_pos rfl]
  | false => rw [txn.write_accepted _ _ _ _ (by simp [SkvStore.refuses, present]), if_neg (by simp)]

end SkvTxn

end ChogoriSql
