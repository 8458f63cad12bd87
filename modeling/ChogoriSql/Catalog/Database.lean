import ChogoriSql.Common.Status

/-! The catalog manager's database caches (`database_id_map_`, `database_name_map_`) and
`SqlCatalogManager::CreateDatabase`, which writes the database record in one transaction and
its system tables in another.  What SKV answers at each step is a parameter; the statuses of the
commits are not read by the code, so they do not appear. -/

namespace ChogoriSql

structure DatabaseInfo where
  databaseId : String
  databaseName : String
  databaseOid : UInt32
  nextPgOid : UInt32
  deriving DecidableEq, Repr

structure DatabaseCaches where
  databaseIdMap : String → Option DatabaseInfo
  databaseNameMap : String → Option DatabaseInfo

namespace DatabaseCaches

def empty : DatabaseCaches :=
  { databaseIdMap := fun _ => none, databaseNameMap := fun _ => none }

def insert (caches : DatabaseCaches) (info : DatabaseInfo) : DatabaseCaches :=
  { databaseIdMap := Function.update caches.databaseIdMap info.databaseId (some info)
    databaseNameMap := Function.update caches.databaseNameMap info.databaseName (some info) }

@[simp] theorem insert_databaseIdMap (caches : DatabaseCaches) (info : DatabaseInfo) (id : String) :
    (caches.insert info).databaseIdMap id =
      if id = info.databaseId then some info else caches.databaseIdMap id := by
  simp [insert, Function.update_apply]

@[simp] theorem insert_databaseNameMap (caches : DatabaseCaches) (info : DatabaseInfo)
    (name : String) :
    (caches.insert info).databaseNameMap name =
      if name = info.databaseName then some info else caches.databaseNameMap name := by
  simp [insert, Function.update_apply]

end DatabaseCaches

def updateDatabaseCache (infos : List DatabaseInfo) : DatabaseCaches :=
  infos.foldl DatabaseCaches.insert DatabaseCaches.empty

def checkAndLoadDatabase (cached : DatabaseCaches → Option DatabaseInfo) (caches : DatabaseCaches)
    (listed : Status × List DatabaseInfo) : Option DatabaseInfo × DatabaseCaches :=
  match cached caches with
  | some info => (some info, caches)
  | none =>
      if listed.1.isOk && !listed.2.isEmpty then
        let refreshed := updateDatabaseCache listed.2
        (cached refreshed, refreshed)
      else (none, caches)

def checkAndLoadDatabaseByName (caches : DatabaseCaches) (listed : Status × List DatabaseInfo)
    (databaseName : String) : Option DatabaseInfo × DatabaseCaches :=
  checkAndLoadDatabase (fun caches => caches.databaseNameMap databaseName) caches listed

def checkAndLoadDatabaseById (caches : DatabaseCaches) (listed : Status × List DatabaseInfo)
    (databaseId : String) : Option DatabaseInfo × DatabaseCaches :=
  checkAndLoadDatabase (fun caches => caches.databaseIdMap databaseId) caches listed

structure CreateDatabaseRequest where
  databaseName : String
  databaseId : String
  databaseOid : UInt32
  sourceDatabaseId : String
  nextPgOid : Option UInt32
  deriving DecidableEq, Repr

def CreateDatabaseRequest.newDatabase (request : CreateDatabaseRequest) (nextPgOid : UInt32) :
    DatabaseInfo :=
  { databaseId := request.databaseId, databaseName := request.databaseName,
    databaseOid := request.databaseOid, nextPgOid }

@[simp] theorem CreateDatabaseRequest.newDatabase_databaseId (request : CreateDatabaseRequest)
    (nextPgOid : UInt32) : (request.newDatabase nextPgOid).databaseId = request.databaseId := rfl

/-- What SKV answers to `CreateDatabase`'s calls: `ListDatabases` (for both lookups),
`CreateCollection`, `UpsertDatabase`, `CreateMetaTables`, `ListTableIds` of the source, and
`CopyTable` of each source table; each status already mapped by `K2StatusToK2PgStatus`. -/
structure CreateDatabaseSkv where
  listDatabases : Status × List DatabaseInfo
  createCollection : Status
  upsertDatabase : Status
  createMetaTables : Status
  listTableIds : Status × List String
  copyTable : String → Status

def createDatabaseTables (caches : DatabaseCaches) (request : CreateDatabaseRequest)
    (skv : CreateDatabaseSkv) (nextPgOid : UInt32) : Status × DatabaseCaches :=
  if !skv.createCollection.isOk then (skv.createCollection, caches)
  else if !skv.upsertDatabase.isOk then (skv.upsertDatabase, caches)
  else
    let caches := caches.insert (request.newDatabase nextPgOid)
    if !skv.createMetaTables.isOk then (skv.createMetaTables, caches)
    else if request.sourceDatabaseId.isEmpty then (Status.OK, caches)
    else if !skv.listTableIds.1.isOk then (skv.listTableIds.1, caches)
    else
      match skv.listTableIds.2.find? (fun table => !(skv.copyTable table).isOk) with
      | some failed => (skv.copyTable failed, caches)
      -- the three commits follow, and their statuses are not checked
      | none => (Status.OK, caches)

/-- `SqlCatalogManager::CreateDatabase`; the exception is `request.nextPgOid.value()` on an
empty optional. -/
def createDatabase (caches : DatabaseCaches) (request : CreateDatabaseRequest)
    (skv : CreateDatabaseSkv) : Except String (Status × DatabaseCaches) :=
  let (existing, caches) :=
    checkAndLoadDatabaseByName caches skv.listDatabases request.databaseName
  if existing.isSome then
    .ok ({ code := .alreadyPresent,
           message := "Database " ++ request.databaseName ++ " has already existed" }, caches)
  else
    let (source, caches) :=
      if request.sourceDatabaseId.isEmpty then (none, caches)
      else checkAndLoadDatabaseById caches skv.listDatabases request.sourceDatabaseId
    if !request.sourceDatabaseId.isEmpty && source.isNone then
      .ok ({ code := .notFound,
             message := "Source database " ++ request.sourceDatabaseId ++ " not found" }, caches)
    else
      match (source.map DatabaseInfo.nextPgOid).orElse fun _ => request.nextPgOid with
      | none => .error "bad optional access"
      | some nextPgOid => .ok (createDatabaseTables caches request skv nextPgOid)

theorem checkAndLoadDatabase_miss (cached : DatabaseCaches → Option DatabaseInfo)
    (caches : DatabaseCaches) (listed : Status × List DatabaseInfo) (miss : cached caches = none)
    (nothingListed : listed.2 = []) :
    checkAndLoadDatabase cached caches listed = (none, caches) := by
  simp [checkAndLoadDatabase, miss, nothingListed]

theorem createDatabase_caches_unpersisted_database (caches : DatabaseCaches)
    (request : CreateDatabaseRequest) (skv : CreateDatabaseSkv) (nextPgOid : UInt32)
    (notCached : caches.databaseNameMap request.databaseName = none)
    (nothingListed : skv.listDatabases.2 = []) (noSource : request.sourceDatabaseId = "")
    (nextGiven : request.nextPgOid = some nextPgOid) (collectionOk : skv.createCollection.isOk = true)
    (upsertOk : skv.upsertDatabase.isOk = true) (tablesFail : skv.createMetaTables.isOk = false)
    (idUncached : caches.databaseIdMap request.databaseId = none) :
    ∃ after,
      createDatabase caches request skv = .ok (skv.createMetaTables, after) ∧
        after.databaseIdMap request.databaseId = some (request.newDatabase nextPgOid) ∧
        after.databaseIdMap request.databaseId ≠ caches.databaseIdMap request.databaseId := by
  have lookup : checkAndLoadDatabaseByName caches skv.listDatabases request.databaseName =
      (none, caches) :=
    checkAndLoadDatabase_miss _ caches _ notCached nothingListed
  refine ⟨caches.insert (request.newDatabase nextPgOid), ?_, by simp, by simp [idUncached]⟩
  -- the system tables fail after the record was cached; the record's transaction is aborted
  simp [createDatabase, lookup, noSource, nextGiven, createDatabaseTables, collectionOk, upsertOk,
    tablesFail]

theorem createDatabase_caches_unpersisted_database_db :
    DatabaseCaches.empty.databaseNameMap "db" = none ∧ ([] : List DatabaseInfo) = [] ∧
      "" = "" ∧ some (16384 : UInt32) = some 16384 ∧ Status.OK.isOk = true ∧
      Status.OK.isOk = true ∧ ({ code := .corruption } : Status).isOk = false ∧
      DatabaseCaches.empty.databaseIdMap "id1" = none ∧
      ∃ after,
        createDatabase DatabaseCaches.empty ⟨"db", "id1", 16384, "", some 16384⟩
            ⟨(Status.OK, []), Status.OK, Status.OK, { code := .corruption }, (Status.OK, []),
              fun _ => Status.OK⟩ = .ok ({ code := .corruption }, after) ∧
          after.databaseIdMap "id1" = some ⟨"id1", "db", 16384, 16384⟩ ∧
          after.databaseIdMap "id1" ≠ DatabaseCaches.empty.databaseIdMap "id1" :=
  ⟨rfl, rfl, rfl, rfl, rfl, rfl, rfl, rfl,
    createDatabase_caches_unpersisted_database DatabaseCaches.empty ⟨"db", "id1", 16384, "", some 16384⟩
      ⟨(Status.OK, []), Status.OK, Status.OK, { code := .corruption }, (Status.OK, []),
        fun _ => Status.OK⟩ 16384 rfl rfl rfl rfl rfl rfl rfl rfl⟩

end ChogoriSql
