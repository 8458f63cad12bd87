import ChogoriSql.Catalog.RoundTrip
import ChogoriSql.Cpp.String

/-! Reading oids back from the uuids of `entities/entity_ids.cc`: `PgObjectId::IsPgsqlId`,
`GetDatabaseOidByTableUuid`, `GetTableOidByTableUuid`, `GetDatabaseOidByUuid`, the constructor
`PgObjectId(table_uuid)` of `entities/entity_ids.h` and `IndexInfo::base_table_oid`.  Each reads a
run of digits of the uuid with `stoul` or `stoi`, so that the uuids `GetTableUuid` and
`GetDatabaseUuid` write give their oids back.

The `DCHECK`s of these functions are compiled out of release builds and are not modelled. -/

namespace ChogoriSql

/-- `PgObjectId`: an object's oid and that of the database it belongs to. -/
structure PgObjectId where
  databaseOid : UInt32
  objectOid : UInt32
  deriving DecidableEq, Repr

namespace PgObjectId

/-- `GetDatabaseUuid`: the nil uuid with only the database oid set. -/
def getDatabaseUuid (databaseOid : UInt32) : String :=
  b2aHex (oidBytes databaseOid ++ [0, 0, uuidVersionByte, 0, uuidVariantByte, 0, 0, 0, 0, 0, 0, 0])

/-- `IsPgsqlId`: a uuid of 32 characters whose version digits read as version 3.  Both the
exceptions `substr` and `stoi` throw are caught. -/
def isPgsqlId (uuid : String) : Bool :=
  if uuid.length ≠ 32 then false
  else
    match Cpp.substr uuid (6 * 2) 2 >>= Cpp.stoi with
    | .ok (version, pos) => pos == 2 && ((version &&& 0xF0) >>> 4).toInt == kUuidVersion.toNat
    | .error _ => false

/-- `GetDatabaseOidByTableUuid`: the first eight digits, through `uint32_t`. -/
def getDatabaseOidByTableUuid (tableUuid : String) : Except Status UInt32 :=
  let invalid := Status.withMessages .invalidArgument "Invalid PostgreSQL table uuid" tableUuid
  match Cpp.substr tableUuid 0 (4 * 2) >>= Cpp.stoul with
  | .ok (oid, pos) => if pos = 4 * 2 then .ok oid.toUInt32 else .error invalid
  | .error _ => .error invalid

/-- `GetTableOidByTableUuid`: the last eight digits, or `kPgInvalidOid`. -/
def getTableOidByTableUuid (tableUuid : String) : UInt32 :=
  match Cpp.substr tableUuid (12 * 2) (4 * 2) >>= Cpp.stoul with
  | .ok (oid, pos) => if pos = 4 * 2 then oid.toUInt32 else kPgInvalidOid
  | .error _ => kPgInvalidOid

/-- `GetDatabaseOidByUuid`.  Its failure path returns `kPgInvalidOid` before the
`InvalidArgument` status it goes on to build, so it never fails. -/
def getDatabaseOidByUuid (databaseUuid : String) : Except Status UInt32 :=
  match Cpp.substr databaseUuid 0 (4 * 2) >>= Cpp.stoul with
  | .ok (oid, pos) => if pos = 4 * 2 then .ok oid.toUInt32 else .ok kPgInvalidOid
  | .error _ => .ok kPgInvalidOid

/-- `PgObjectId(table_uuid)`.  A member the constructor does not set keeps an indeterminate
value, `uninitialized` here.  The second result it tests holds the plain `uint32_t` of
`GetTableOidByTableUuid`, which is always ok, so the branch that resets the database oid is never
taken. -/
def ofTableUuid (tableUuid : String) (uninitialized : UInt32) : PgObjectId :=
  let databaseOid := match getDatabaseOidByTableUuid tableUuid with
    | .ok oid => oid
    | .error _ => uninitialized
  let res : Except Status UInt32 := .ok (getTableOidByTableUuid tableUuid)
  match res with
  | .ok oid => { databaseOid, objectOid := oid }
  | .error _ => { databaseOid := kPgInvalidOid, objectOid := uninitialized }

end PgObjectId

def IndexInfo.baseTableOid (index : IndexInfo) : UInt32 :=
  PgObjectId.getTableOidByTableUuid index.baseTableId

namespace PgObjectId

theorem getDatabaseUuid_eq (databaseOid : UInt32) :
    getDatabaseUuid databaseOid = getTableUuid databaseOid kPgInvalidOid := rfl

theorem getTableUuid_toList (databaseOid tableOid : UInt32) :
    (getTableUuid databaseOid tableOid).toList =
      (oidBytes databaseOid).flatMap Hex.encodeByte ++ [0, 0].flatMap Hex.encodeByte ++
        [uuidVersionByte].flatMap Hex.encodeByte ++
        [0, uuidVariantByte, 0, 0, 0].flatMap Hex.encodeByte ++
        (oidBytes tableOid).flatMap Hex.encodeByte := by
  have parts : pgUuidBytes databaseOid tableOid =
      oidBytes databaseOid ++ [0, 0] ++ [uuidVersionByte] ++ [0, uuidVariantByte, 0, 0, 0] ++
        oidBytes tableOid := rfl
  rw [getTableUuid, b2aHex_eq, String.toList_ofList, parts]
  simp only [List.flatMap_append]

theorem oidBytes_length (oid : UInt32) : (oidBytes oid).length = 4 := rfl

theorem oidDigits_length (oid : UInt32) : ((oidBytes oid).flatMap Hex.encodeByte).length = 8 := by
  rw [Hex.length_flatMap_encodeByte, oidBytes_length]

theorem length_getTableUuid (databaseOid tableOid : UInt32) :
    (getTableUuid databaseOid tableOid).length = 32 := by
  rw [← String.length_toList, getTableUuid_toList]
  simp only [List.length_append, Hex.length_flatMap_encodeByte, oidBytes_length, List.length_cons,
    List.length_nil]

theorem getTableUuid_hexChars (databaseOid tableOid : UInt32) :
    ∀ c ∈ (getTableUuid databaseOid tableOid).toList, c ∈ hexChars := by
  rw [getTableUuid, b2aHex_eq, String.toList_ofList]
  exact Cpp.encodeBytes_mem_digits _

theorem substr_databaseDigits (databaseOid tableOid : UInt32) :
    Cpp.substr (getTableUuid databaseOid tableOid) 0 (4 * 2) =
      .ok (String.ofList ((oidBytes databaseOid).flatMap Hex.encodeByte)) := by
  have split := getTableUuid_toList databaseOid tableOid
  simp only [List.append_assoc] at split
  have segment := Cpp.substr_segment (show (getTableUuid databaseOid tableOid).toList =
    [] ++ (oidBytes databaseOid).flatMap Hex.encodeByte ++
      ([0, 0].flatMap Hex.encodeByte ++ ([uuidVersionByte].flatMap Hex.encodeByte ++
        ([0, uuidVariantByte, 0, 0, 0].flatMap Hex.encodeByte ++
          (oidBytes tableOid).flatMap Hex.encodeByte))) by rw [split, List.nil_append])
  rw [List.length_nil, oidDigits_length] at segment
  exact segment

theorem substr_versionDigits (databaseOid tableOid : UInt32) :
    Cpp.substr (getTableUuid databaseOid tableOid) (6 * 2) 2 =
      .ok (String.ofList ([uuidVersionByte].flatMap Hex.encodeByte)) := by
  have split := getTableUuid_toList databaseOid tableOid
  simp only [List.append_assoc] at split
  have segment := Cpp.substr_segment (show (getTableUuid databaseOid tableOid).toList =
    ((oidBytes databaseOid).flatMap Hex.encodeByte ++ [0, 0].flatMap Hex.encodeByte) ++
      [uuidVersionByte].flatMap Hex.encodeByte ++
      ([0, uuidVariantByte, 0, 0, 0].flatMap Hex.encodeByte ++
        (oidBytes tableOid).flatMap Hex.encodeByte) by simp only [split, List.append_assoc])
  rw [List.length_append, oidDigits_length, Hex.length_flatMap_encodeByte,
    Hex.length_flatMap_encodeByte] at segment
  exact segment

theorem substr_tableDigits (databaseOid tableOid : UInt32) :
    Cpp.substr (getTableUuid databaseOid tableOid) (12 * 2) (4 * 2) =
      .ok (String.ofList ((oidBytes tableOid).flatMap Hex.encodeByte)) := by
  have segment := Cpp.substr_segment (show (getTableUuid databaseOid tableOid).toList =
    ((oidBytes databaseOid).flatMap Hex.encodeByte ++ [0, 0].flatMap Hex.encodeByte ++
      [uuidVersionByte].flatMap Hex.encodeByte ++
      [0, uuidVariantByte, 0, 0, 0].flatMap Hex.encodeByte) ++
      (oidBytes tableOid).flatMap Hex.encodeByte ++ [] by
    rw [getTableUuid_toList, List.append_nil])
  simp only [List.length_append, Hex.length_flatMap_encodeByte, List.length_cons,
    List.length_nil] at segment
  exact segment

theorem oidDigits_hexValue (oid : UInt32) :
    Cpp.hexValue ((oidBytes oid).flatMap Hex.encodeByte) = oid.toNat := by
  have folded : (oidBytes oid).foldl (fun value byte => 256 * value + byte.toNat) 0 =
      ((oidBytes oid).map UInt8.toNat).foldl (fun value n => 256 * value + n) 0 := by
    rw [List.foldl_map]
  rw [Cpp.hexValue_encodeBytes, folded, oidBytes_toNat]
  simp only [List.foldl_cons, List.foldl_nil]
  have bound := oid.toNat_lt
  omega

theorem stoul_oidDigits (oid : UInt32) :
    Cpp.stoul (String.ofList ((oidBytes oid).flatMap Hex.encodeByte)) =
      .ok (UInt64.ofNat oid.toNat, 8) := by
  have nonempty : (oidBytes oid).flatMap Hex.encodeByte ≠ [] := by
    intro empty
    have eight := oidDigits_length oid
    rw [empty] at eight
    cases eight
  have small : Cpp.hexValue ((oidBytes oid).flatMap Hex.encodeByte) < 2 ^ 64 := by
    have bound := oid.toNat_lt
    rw [oidDigits_hexValue]
    omega
  rw [Cpp.stoul_digits nonempty (Cpp.encodeBytes_mem_digits _) small, oidDigits_hexValue,
    oidDigits_length]

theorem toUInt32_ofNat_toNat (oid : UInt32) : (UInt64.ofNat oid.toNat).toUInt32 = oid := by
  apply UInt32.toNat_inj.mp
  simp

theorem stoi_versionDigits :
    Cpp.stoi (String.ofList ([uuidVersionByte].flatMap Hex.encodeByte)) =
      .ok (Int32.ofInt 48, 2) := by
  have value : Cpp.hexValue ([uuidVersionByte].flatMap Hex.encodeByte) = 48 := by
    rw [Cpp.hexValue_encodeBytes]
    rfl
  have small : Cpp.hexValue ([uuidVersionByte].flatMap Hex.encodeByte) < 2 ^ 31 := by
    rw [value]
    omega
  have nonempty : [uuidVersionByte].flatMap Hex.encodeByte ≠ [] := by
    simp [Hex.encodeByte]
  rw [Cpp.stoi_digits nonempty (Cpp.encodeBytes_mem_digits _) small, value]
  rfl

theorem isPgsqlId_getTableUuid (databaseOid tableOid : UInt32) :
    isPgsqlId (getTableUuid databaseOid tableOid) = true := by
  unfold isPgsqlId
  rw [if_neg (by rw [length_getTableUuid]; decide), substr_versionDigits, Except.ok_bind,
    stoi_versionDigits]
  decide

theorem getDatabaseOidByTableUuid_getTableUuid (databaseOid tableOid : UInt32) :
    getDatabaseOidByTableUuid (getTableUuid databaseOid tableOid) = .ok databaseOid := by
  unfold getDatabaseOidByTableUuid
  rw [substr_databaseDigits, Except.ok_bind, stoul_oidDigits]
  simp only [if_pos, toUInt32_ofNat_toNat]

theorem getTableOidByTableUuid_getTableUuid (databaseOid tableOid : UInt32) :
    getTableOidByTableUuid (getTableUuid databaseOid tableOid) = tableOid := by
  unfold getTableOidByTableUuid
  rw [substr_tableDigits, Except.ok_bind, stoul_oidDigits]
  simp only [if_pos, toUInt32_ofNat_toNat]

theorem ofTableUuid_getTableUuid (databaseOid tableOid uninitialized : UInt32) :
    ofTableUuid (getTableUuid databaseOid tableOid) uninitialized =
      { databaseOid, objectOid := tableOid } := by
  unfold ofTableUuid
  rw [getDatabaseOidByTableUuid_getTableUuid, getTableOidByTableUuid_getTableUuid]

/-- A database uuid reads back as its oid. -/
theorem getDatabaseOidByUuid_getDatabaseUuid (databaseOid : UInt32) :
    getDatabaseOidByUuid (getDatabaseUuid databaseOid) = .ok databaseOid := by
  unfold getDatabaseOidByUuid
  rw [getDatabaseUuid_eq, substr_databaseDigits, Except.ok_bind, stoul_oidDigits]
  simp only [if_pos, toUInt32_ofNat_toNat]

/-- The uuid of two oids is 32 lower-case hex digits that `IsPgsqlId` accepts and that read back
as the two oids, through the decoders and the constructor alike, so that no two pairs of oids
share a uuid. -/
theorem getTableUuid_roundTrip (databaseOid tableOid : UInt32) :
    (getTableUuid databaseOid tableOid).length = 32 ∧
      (∀ c ∈ (getTableUuid databaseOid tableOid).toList, c ∈ hexChars) ∧
      isPgsqlId (getTableUuid databaseOid tableOid) = true ∧
      getDatabaseOidByTableUuid (getTableUuid databaseOid tableOid) = .ok databaseOid ∧
      getTableOidByTableUuid (getTableUuid databaseOid tableOid) = tableOid ∧
      (∀ uninitialized, ofTableUuid (getTableUuid databaseOid tableOid) uninitialized =
        { databaseOid, objectOid := tableOid }) ∧
      ∀ otherDatabase otherTable,
        getTableUuid otherDatabase otherTable = getTableUuid databaseOid tableOid →
          otherDatabase = databaseOid ∧ otherTable = tableOid := by
  refine ⟨length_getTableUuid databaseOid tableOid, getTableUuid_hexChars databaseOid tableOid,
    isPgsqlId_getTableUuid databaseOid tableOid,
    getDatabaseOidByTableUuid_getTableUuid databaseOid tableOid,
    getTableOidByTableUuid_getTableUuid databaseOid tableOid,
    ofTableUuid_getTableUuid databaseOid tableOid, ?_⟩
  intro otherDatabase otherTable same
  constructor
  · have decoded := getDatabaseOidByTableUuid_getTableUuid otherDatabase otherTable
    rw [same, getDatabaseOidByTableUuid_getTableUuid] at decoded
    exact (Except.ok.inj decoded).symm
  · have decoded := getTableOidByTableUuid_getTableUuid otherDatabase otherTable
    rw [same, getTableOidByTableUuid_getTableUuid] at decoded
    exact decoded.symm

end PgObjectId

end ChogoriSql
