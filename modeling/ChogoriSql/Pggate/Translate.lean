import ChogoriSql.Pggate.DmlWrite
import ChogoriSql.Postgres.Operators

/-! Reading a stored column back into PostgreSQL.  `FieldParser` of `pggate/pg_op.cc` hands
each non-NULL field to `TranslateUserCol`, which casts it to the column's C type and calls the
type entity's `k2pg_to_datum` converter of `catalog/ybctype.c`.  Beside it stand PostgreSQL's own
comparisons of `"char"` and `bpchar` (`btcharcmp`, `bpchareq`, `bpcharcmp`), against which a
stored value is checked.  Text is read in a single-byte server encoding. -/

namespace ChogoriSql

inductive DatumFromK2Pg where
  | K2SqlBoolToDatum
  | K2SqlBinaryToDatum
  | K2SqlCharToDatum
  | K2SqlNameToDatum
  | K2SqlInt64ToDatum
  | K2SqlInt16ToDatum
  | K2SqlInt32ToDatum
  | K2SqlTextToDatum
  | K2SqlOidToDatum
  | K2SqlFloat4ToDatum
  | K2SqlFloat8ToDatum
  | K2SqlBPCharToDatum
  | K2SqlVarcharToDatum
  | K2SqlDateToDatum
  | K2SqlTimeToDatum
  | K2SqlUInt64ToDatum
  | K2SqlCStrToDatum
  deriving DecidableEq, Repr

def DatumToK2Pg.k2pgToDatum : DatumToK2Pg → DatumFromK2Pg
  | .K2SqlDatumToBool => .K2SqlBoolToDatum
  | .K2SqlDatumToBinary => .K2SqlBinaryToDatum
  | .K2SqlDatumToChar => .K2SqlCharToDatum
  | .K2SqlDatumToName => .K2SqlNameToDatum
  | .K2SqlDatumToInt64 => .K2SqlInt64ToDatum
  | .K2SqlDatumToInt16 => .K2SqlInt16ToDatum
  | .K2SqlDatumToInt32 => .K2SqlInt32ToDatum
  | .K2SqlDatumToText => .K2SqlTextToDatum
  | .K2SqlDatumToOid => .K2SqlOidToDatum
  | .K2SqlDatumToFloat4 => .K2SqlFloat4ToDatum
  | .K2SqlDatumToFloat8 => .K2SqlFloat8ToDatum
  | .K2SqlDatumToBPChar => .K2SqlBPCharToDatum
  | .K2SqlDatumToVarchar => .K2SqlVarcharToDatum
  | .K2SqlDatumToDate => .K2SqlDateToDatum
  | .K2SqlDatumToTime => .K2SqlTimeToDatum
  | .K2SqlDatumToUInt64 => .K2SqlUInt64ToDatum
  | .K2SqlDatumToCStr => .K2SqlCStrToDatum

structure PgTypeAttrs where
  typmod : Int
  deriving DecidableEq, Repr

inductive ColumnData where
  | int (value : Int)
  | bool (value : Bool)
  | float (bits : UInt32)
  | double (bits : UInt64)
  | string (bytes : List UInt8)
  deriving DecidableEq, Repr

def kMaxPostgresTextSizeBytes : Nat := 1024 * 1024 * 1024 - 4

def VARHDRSZ : Int := 4

def NAMEDATALEN : Nat := 64

def cString (bytes : List UInt8) : List UInt8 :=
  bytes.takeWhile (· != 0)

def checkDataSize (bytes : Nat) : Except PgError Unit :=
  if kMaxPostgresTextSizeBytes < bytes then .error (.error "Invalid data size") else .ok ()

def clipBlanks (typeName : String) (s : List UInt8) (maxlen : Nat) : Except PgError (List UInt8) :=
  if (s.drop maxlen).all (· == 32) then .ok (s.take maxlen)
  else .error (.error ("value too long for type " ++ typeName ++ "(" ++ toString maxlen ++ ")"))

def bpcharInput (s : List UInt8) (atttypmod : Int) : Except PgError (List UInt8) :=
  if atttypmod < VARHDRSZ then .ok s
  else
    let maxlen := (atttypmod - VARHDRSZ).toNat
    if maxlen < s.length then clipBlanks "character" s maxlen
    else .ok (s ++ List.replicate (maxlen - s.length) 32)

def varcharInput (s : List UInt8) (atttypmod : Int) : Except PgError (List UInt8) :=
  let maxlen := (atttypmod - VARHDRSZ).toNat
  if VARHDRSZ ≤ atttypmod ∧ maxlen < s.length then clipBlanks "character varying" s maxlen
  else .ok s

def nameToDatum (bytes : List UInt8) : Datum :=
  let kept := if NAMEDATALEN ≤ bytes.length then NAMEDATALEN - 1 else bytes.length
  .pointer (bytes.take kept ++ List.replicate (NAMEDATALEN - kept) 0)

def DatumFromK2Pg.convert (attrs : PgTypeAttrs) :
    DatumFromK2Pg → ColumnData → Option (Except PgError Datum)
  | .K2SqlBoolToDatum, .bool value => some (.ok (.word (if value then 1 else 0)))
  | .K2SqlCharToDatum, .int value | .K2SqlInt16ToDatum, .int value
  | .K2SqlInt32ToDatum, .int value | .K2SqlInt64ToDatum, .int value
  | .K2SqlOidToDatum, .int value | .K2SqlDateToDatum, .int value
  | .K2SqlTimeToDatum, .int value
  | .K2SqlUInt64ToDatum, .int value => some (.ok (.word (UInt64.ofInt value)))
  | .K2SqlFloat4ToDatum, .float bits => some (.ok (.word (UInt64.ofInt bits.toInt32.toInt)))
  | .K2SqlFloat8ToDatum, .double bits => some (.ok (.word bits))
  | .K2SqlBinaryToDatum, .string bytes =>
      some (checkDataSize bytes.length *> .ok (.pointer bytes))
  | .K2SqlTextToDatum, .string bytes => some (.ok (.pointer bytes))
  | .K2SqlNameToDatum, .string bytes =>
      some (checkDataSize bytes.length *> .ok (nameToDatum bytes))
  | .K2SqlBPCharToDatum, .string bytes =>
      some (checkDataSize bytes.length *> .pointer <$> bpcharInput (cString bytes) attrs.typmod)
  | .K2SqlVarcharToDatum, .string bytes =>
      some (checkDataSize bytes.length *> .pointer <$> varcharInput (cString bytes) attrs.typmod)
  | .K2SqlCStrToDatum, .string bytes =>
      some (checkDataSize bytes.length *> .ok (.pointer (cString bytes)))
  | _, _ => none

def unsupportedUserCol : Status :=
  Status.withMessages .internalError "unsupported type for user column" ""

/-- The numeric `TranslateUserCol` on an integer field value (an `int64_t` or a `bool`): the
narrowing cast of each integer type.  A cast to `float` or `double` is left out (`none`). -/
def castIntegerCol (value : Int) : K2SqlDataType → Option (Except Status ColumnData)
  | .K2SQL_DATA_TYPE_INT8 => some (.ok (.int (Int8.ofInt value).toInt))
  | .K2SQL_DATA_TYPE_INT16 => some (.ok (.int (Int16.ofInt value).toInt))
  | .K2SQL_DATA_TYPE_INT32 => some (.ok (.int (Int32.ofInt value).toInt))
  | .K2SQL_DATA_TYPE_INT64 | .K2SQL_DATA_TYPE_TIMESTAMP => some (.ok (.int (Int64.ofInt value).toInt))
  | .K2SQL_DATA_TYPE_UINT32 => some (.ok (.int (value % 2 ^ 32)))
  | .K2SQL_DATA_TYPE_UINT64 => some (.ok (.int (value % 2 ^ 64)))
  | .K2SQL_DATA_TYPE_BOOL => some (.ok (.bool (value != 0)))
  | .K2SQL_DATA_TYPE_FLOAT | .K2SQL_DATA_TYPE_DOUBLE => none
  | .K2SQL_DATA_TYPE_STRING | .K2SQL_DATA_TYPE_BINARY | .K2SQL_DATA_TYPE_DECIMAL =>
      some (.error unsupportedUserCol)

/-- `TranslateUserCol` up to the converter, by the C type `FieldParser` reads the field as.  A
float field keeps its bits for its own type; its casts to the other numeric types are left out
(`none`), as is the decoding of a `DECIMAL`: in a table's schema the field type is `toK2Type`
of the column's type, so the parser never meets the first. -/
def castUserCol (type : K2SqlDataType) : FieldValue → Option (Except Status ColumnData)
  | .int64T value => castIntegerCol value.toInt type
  | .bool value => castIntegerCol (if value then 1 else 0) type
  | .float bits =>
      match type with
      | .K2SQL_DATA_TYPE_FLOAT => some (.ok (.float bits))
      | .K2SQL_DATA_TYPE_STRING | .K2SQL_DATA_TYPE_BINARY | .K2SQL_DATA_TYPE_DECIMAL =>
          some (.error unsupportedUserCol)
      | _ => none
  | .double bits =>
      match type with
      | .K2SQL_DATA_TYPE_DOUBLE => some (.ok (.double bits))
      | .K2SQL_DATA_TYPE_STRING | .K2SQL_DATA_TYPE_BINARY | .K2SQL_DATA_TYPE_DECIMAL =>
          some (.error unsupportedUserCol)
      | _ => none
  | .string bytes =>
      match type with
      | .K2SQL_DATA_TYPE_BINARY | .K2SQL_DATA_TYPE_STRING => some (.ok (.string bytes))
      | .K2SQL_DATA_TYPE_DECIMAL => none
      | _ => some (.error unsupportedUserCol)

/-- `TranslateUserCol(index, type_entity, type_attrs, field, pg_tuple)`: the datum written to
the tuple, or the status it returns. -/
def translateUserCol (entity : K2PgTypeEntity) (attrs : PgTypeAttrs) (field : FieldValue) :
    Option (Except PgError Datum) :=
  match castUserCol entity.k2pgType field with
  | none => none
  | some (.error status) => some (.error (.status status))
  | some (.ok data) => entity.datumToK2Pg.k2pgToDatum.convert attrs data

def btcharcmp (first second : Datum) : Int :=
  (first.getChar.toNat : Int) - second.getChar.toNat

def bpchartruelen (s : List UInt8) : Nat :=
  (s.reverse.dropWhile (· == 32)).length

def bpchareq (first second : Datum) : Bool :=
  let len1 := bpchartruelen first.bytes
  let len2 := bpchartruelen second.bytes
  if len1 != len2 then false else first.bytes.take len1 == second.bytes.take len1

def bpcharcmp (first second : Datum) : Int :=
  SqlValue.compareBytes (first.bytes.take (bpchartruelen first.bytes))
    (second.bytes.take (bpchartruelen second.bytes))

theorem bpchartruelen_append_blank (s : List UInt8) :
    bpchartruelen (s ++ [32]) = bpchartruelen s := by
  simp [bpchartruelen]

theorem bpchartruelen_append_blanks (s : List UInt8) (count : Nat) :
    bpchartruelen (s ++ List.replicate count 32) = bpchartruelen s := by
  induction count with
  | zero => simp
  | succ count ih =>
      rw [List.replicate_succ', ← List.append_assoc, bpchartruelen_append_blank, ih]

theorem bpchartruelen_append_nonblank (s : List UInt8) {last : UInt8} (notBlank : last ≠ 32) :
    bpchartruelen (s ++ [last]) = s.length + 1 := by
  have kept : (last == 32) = false := by simpa using notBlank
  simp [bpchartruelen, kept]

theorem bpchartruelen_le (s : List UInt8) : bpchartruelen s ≤ s.length := by
  simpa [bpchartruelen] using List.length_dropWhile_le (· == 32) s.reverse

theorem cString_of_noNul {bytes : List UInt8} (noNul : ∀ byte ∈ bytes, byte ≠ 0) :
    cString bytes = bytes := by
  apply List.takeWhile_eq_self_iff.mpr
  intro byte member
  simpa using noNul byte member

theorem checkDataSize_of_le {bytes : Nat} (fits : bytes ≤ kMaxPostgresTextSizeBytes) :
    checkDataSize bytes = .ok () := by
  unfold checkDataSize
  rw [if_neg (Nat.not_lt.mpr fits)]

theorem bpcharInput_of_short {s : List UInt8} {atttypmod : Int} (declared : VARHDRSZ ≤ atttypmod)
    (short : s.length ≤ (atttypmod - VARHDRSZ).toNat) :
    bpcharInput s atttypmod =
      .ok (s ++ List.replicate ((atttypmod - VARHDRSZ).toNat - s.length) 32) := by
  unfold bpcharInput
  rw [if_neg (Int.not_lt.mpr declared)]
  simp only [Nat.not_lt.mpr short, if_false]

theorem findTypeEntity_bpchar :
    K2PgFindTypeEntity BPCHAROID =
      some ⟨BPCHAROID, .K2SQL_DATA_TYPE_STRING, .K2SqlDatumToBPChar⟩ := by
  decide

theorem ofDatum_bpchar {bytes : List UInt8} (noNul : ∀ byte ∈ bytes, byte ≠ 0) :
    SqlValue.ofDatum ⟨BPCHAROID, .K2SQL_DATA_TYPE_STRING, .K2SqlDatumToBPChar⟩ (.pointer bytes) false =
      .slice ((bytes.reverse.dropWhile isSpace).reverse) := by
  have whole : bytes.takeWhile (· != 0) = bytes := cString_of_noNul noNul
  simp [SqlValue.ofDatum, DatumToK2Pg.convert, Datum.bytes, whole]

theorem translateUserCol_bpchar (attrs : PgTypeAttrs) {bytes : List UInt8}
    (noNul : ∀ byte ∈ bytes, byte ≠ 0) (fits : bytes.length ≤ kMaxPostgresTextSizeBytes)
    (declared : VARHDRSZ ≤ attrs.typmod) (short : bytes.length ≤ (attrs.typmod - VARHDRSZ).toNat) :
    translateUserCol ⟨BPCHAROID, .K2SQL_DATA_TYPE_STRING, .K2SqlDatumToBPChar⟩ attrs (.string bytes) =
      some (.ok (.pointer
        (bytes ++ List.replicate ((attrs.typmod - VARHDRSZ).toNat - bytes.length) 32))) := by
  simp only [translateUserCol, castUserCol, DatumToK2Pg.k2pgToDatum, DatumFromK2Pg.convert,
    checkDataSize_of_le fits, cString_of_noNul noNul, bpcharInput_of_short declared short]
  rfl

theorem bpchar_roundTrip_drops_trailing_white_space (payload : List UInt8) (last : UInt8)
    (noNul : ∀ byte ∈ payload, byte ≠ 0) (blank : isSpace last = true) (notSpace : last ≠ 32)
    (fits : payload.length < kMaxPostgresTextSizeBytes) :
    ∃ entity stored readBack,
      K2PgFindTypeEntity BPCHAROID = some entity ∧ toK2Type entity.k2pgType = .STRING ∧
      (SqlValue.ofDatum entity (.pointer (payload ++ [last])) false).toFieldValue = some stored ∧
      translateUserCol entity ⟨payload.length + 1 + VARHDRSZ⟩ stored = some (.ok readBack) ∧
      bpchareq (.pointer (payload ++ [last])) readBack = false := by
  have lastNonzero : last ≠ 0 := by
    rintro rfl
    exact absurd blank (by decide)
  have allNonzero : ∀ byte ∈ payload ++ [last], byte ≠ 0 := by
    intro byte member
    rcases List.mem_append.mp member with inPayload | isLast
    · exact noNul byte inPayload
    · rw [List.mem_singleton.mp isLast]
      exact lastNonzero
  -- the stored value: the payload less its trailing white space, the last byte included
  set trimmed := (payload.reverse.dropWhile isSpace).reverse with trimmedDef
  have dropsLast : ((payload ++ [last]).reverse.dropWhile isSpace).reverse = trimmed := by
    simp [trimmedDef, blank]
  have kept : trimmed.Sublist payload := by
    simpa using (List.dropWhile_sublist isSpace (l := payload.reverse)).reverse
  have trimmedNoNul : ∀ byte ∈ trimmed, byte ≠ 0 := fun byte member => noNul byte (kept.subset member)
  have declaredLength : ((payload.length + 1 + VARHDRSZ : Int) - VARHDRSZ).toNat = payload.length + 1 := by
    omega
  have short : trimmed.length ≤ ((payload.length + 1 + VARHDRSZ : Int) - VARHDRSZ).toNat := by
    rw [declaredLength]
    exact Nat.le_succ_of_le kept.length_le
  have declared : VARHDRSZ ≤ (payload.length + 1 + VARHDRSZ : Int) := by omega
  refine ⟨_, .string trimmed, _, findTypeEntity_bpchar, rfl, ?_,
    translateUserCol_bpchar ⟨payload.length + 1 + VARHDRSZ⟩ trimmedNoNul (by omega) declared short, ?_⟩
  · rw [ofDatum_bpchar allNonzero, dropsLast]
    rfl
  · have originalLength := bpchartruelen_append_nonblank payload notSpace
    have readBackLength := bpchartruelen_le trimmed
    simp only [bpchareq, Datum.bytes, originalLength, bpchartruelen_append_blanks]
    have differ : (payload.length + 1 != bpchartruelen trimmed) = true := by
      have : trimmed.length ≤ payload.length := kept.length_le
      simp only [bne_iff_ne, ne_eq]
      omega
    rw [differ]
    rfl

theorem bpchar_roundTrip_drops_trailing_white_space_tab :
    (∀ byte ∈ [97], byte ≠ (0 : UInt8)) ∧ isSpace 9 = true ∧ (9 : UInt8) ≠ 32 ∧
      [(97 : UInt8)].length < kMaxPostgresTextSizeBytes ∧
      ∃ entity stored readBack,
        K2PgFindTypeEntity BPCHAROID = some entity ∧ toK2Type entity.k2pgType = .STRING ∧
        (SqlValue.ofDatum entity (.pointer ([97] ++ [9])) false).toFieldValue = some stored ∧
        translateUserCol entity ⟨[(97 : UInt8)].length + 1 + VARHDRSZ⟩ stored = some (.ok readBack) ∧
        bpchareq (.pointer ([97] ++ [9])) readBack = false :=
  ⟨by simp, by decide, by decide, by simp [kMaxPostgresTextSizeBytes],
    bpchar_roundTrip_drops_trailing_white_space [97] 9 (by simp) (by decide) (by decide)
      (by simp [kMaxPostgresTextSizeBytes])⟩

theorem findTypeEntity_char :
    K2PgFindTypeEntity CHAROID = some ⟨CHAROID, .K2SQL_DATA_TYPE_INT8, .K2SqlDatumToChar⟩ := by
  decide

theorem ofDatum_char (datum : Datum) :
    ∃ value, SqlValue.ofDatum ⟨CHAROID, .K2SQL_DATA_TYPE_INT8, .K2SqlDatumToChar⟩ datum false =
        .int value ∧
      value.toInt = if datum.getChar.toNat < 128 then (datum.getChar.toNat : Int)
        else datum.getChar.toNat - 256 := by
  refine ⟨_, rfl, ?_⟩
  have signed := UInt8.toInt8_toInt_eq datum.getChar
  have bound := datum.getChar.toNat_lt
  show (Int64.ofInt datum.getChar.toInt8.toInt).toInt = _
  rw [Int64.toInt_ofInt, signed]
  apply Int.bmod_eq_of_le <;> split_ifs <;> simp only [Int64.size] <;> omega

theorem char_key_order_signed {fieldCompare : FieldValue → FieldValue → Ordering}
    (fieldOrder : FieldOrder fieldCompare) (first second : Datum)
    (ascii : first.getChar.toNat < 128) (high : 128 ≤ second.getChar.toNat) :
    ∃ entity firstField secondField,
      K2PgFindTypeEntity CHAROID = some entity ∧ toK2Type entity.k2pgType = .INT64T ∧
      (SqlValue.ofDatum entity first false).toFieldValue = some firstField ∧
      (SqlValue.ofDatum entity second false).toFieldValue = some secondField ∧
      btcharcmp first second < 0 ∧ fieldCompare firstField secondField = .gt := by
  obtain ⟨firstValue, firstStored, firstInt⟩ := ofDatum_char first
  obtain ⟨secondValue, secondStored, secondInt⟩ := ofDatum_char second
  rw [if_pos ascii] at firstInt
  rw [if_neg (Nat.not_lt.mpr high)] at secondInt
  refine ⟨_, .int64T firstValue, .int64T secondValue, findTypeEntity_char, rfl, ?_, ?_, ?_, ?_⟩
  · rw [firstStored]
    rfl
  · rw [secondStored]
    rfl
  · unfold btcharcmp
    omega
  · rw [fieldOrder.int64T, firstInt, secondInt]
    apply compare_gt_iff_gt.mpr
    have secondBound := second.getChar.toNat_lt
    omega

theorem char_key_order_signed_a_and_200 :
    FieldOrder FieldValue.compare ∧
      (Datum.word 97).getChar.toNat < 128 ∧ 128 ≤ (Datum.word 200).getChar.toNat ∧
      ∃ entity firstField secondField,
        K2PgFindTypeEntity CHAROID = some entity ∧ toK2Type entity.k2pgType = .INT64T ∧
        (SqlValue.ofDatum entity (.word 97) false).toFieldValue = some firstField ∧
        (SqlValue.ofDatum entity (.word 200) false).toFieldValue = some secondField ∧
        btcharcmp (.word 97) (.word 200) < 0 ∧ FieldValue.compare firstField secondField = .gt :=
  ⟨FieldValue.compare_fieldOrder, by decide, by decide,
    char_key_order_signed FieldValue.compare_fieldOrder (.word 97) (.word 200) (by decide) (by decide)⟩

end ChogoriSql
