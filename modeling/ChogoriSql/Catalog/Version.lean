import ChogoriSql.Common.Status
import ChogoriSql.System.Transition

/-! The catalog version of `SqlCatalogManager` (`pggate/catalog/sql_catalog_manager.cc`):
`catalog_version_`, the cluster info record on SKV it is read from and written to, and the
calls that move it.  `IncrementCatalogVersion` and `CheckCatalogVersion` run under `lock_`, each
one step; the caller runs `Start`, `IsInitDbDone`, `IncrementCatalogVersion` and
`GetCatalogVersion` one after another, and the periodic task runs `CheckCatalogVersion` beside
it.  `IsInitDbDone` takes no lock, so its store of a greater version is a step of its own after
its comparison.  Each SKV read, update and commit is given its outcome; another manager's
increment that commits is a step too.  The versions the manager returns are logged. -/

namespace ChogoriSql

namespace SqlCatalogManager

structure ClusterInfo where
  catalogVersion : Nat
  initDbDone : Bool
  deriving DecidableEq, Repr

inductive CallerPc where
  | idle
  | storing (version : Nat)
  deriving DecidableEq, Repr

inductive Returned where
  | gotVersion (version : Nat)
  | incremented (version : Nat)
  deriving DecidableEq, Repr

structure Manager where
  -- the cluster info record on SKV
  persisted : ClusterInfo
  initted : Bool
  -- the periodic catalog-version task runs
  versionTask : Bool
  initDbDone : Bool
  catalogVersion : Nat
  caller : CallerPc
  log : List Returned
  deriving DecidableEq, Repr

def init (persisted : ClusterInfo) : Manager :=
  ⟨persisted, false, false, false, 0, .idle, []⟩

/-- `Start()`, as far as the cluster info record and the catalog-version task go; the
databases' listing is given by its status. -/
def start (m : Manager) (readStatus listStatus : Status) : Manager :=
  if !readStatus.isOk then m
  else
    let loaded :=
      { m with initDbDone := m.persisted.initDbDone, catalogVersion := m.persisted.catalogVersion }
    if !listStatus.isOk then loaded
    else { loaded with versionTask := m.persisted.initDbDone, initted := true }

/-- `IsInitDbDone()` up to its comparison.  It stores `init_db_done_` only where the record has
it set. -/
def isInitDbDone (m : Manager) (readStatus : Status) : Manager :=
  if m.initDbDone || !readStatus.isOk then m
  else
    let loaded := { m with initDbDone := m.persisted.initDbDone }
    if m.catalogVersion < m.persisted.catalogVersion then
      { loaded with caller := .storing m.persisted.catalogVersion }
    else loaded

def storeInitDbVersion (m : Manager) (version : Nat) : Manager :=
  { m with catalogVersion := version, caller := .idle }

def checkCatalogVersion (m : Manager) (readStatus : Status) : Manager :=
  if readStatus.isOk && m.catalogVersion < m.persisted.catalogVersion then
    { m with catalogVersion := m.persisted.catalogVersion }
  else m

def getCatalogVersion (m : Manager) : Nat :=
  m.catalogVersion

structure IncrementCatalogVersionResponse where
  status : Status
  -- left unset on the failure paths
  version : Option Nat
  deriving DecidableEq, Repr

/-- `IncrementCatalogVersion()`.  `catalog_version_` is the version read plus one until a failed
update puts the version read back; the status of `CommitTransaction` is not looked at, and a
commit SKV refuses writes nothing. -/
def incrementCatalogVersion (m : Manager) (readStatus updateStatus : Status) (committed : Bool) :
    IncrementCatalogVersionResponse × Manager :=
  if !readStatus.isOk then (⟨readStatus, none⟩, m)
  else
    let read := m.persisted.catalogVersion
    if !updateStatus.isOk then (⟨updateStatus, none⟩, { m with catalogVersion := read })
    else
      let persisted := if committed then ⟨read + 1, m.initDbDone⟩ else m.persisted
      (⟨Status.OK, some (read + 1)⟩, { m with catalogVersion := read + 1, persisted })

def otherIncrement (m : Manager) (theirInitDbDone : Bool) : Manager :=
  { m with persisted := ⟨m.persisted.catalogVersion + 1, theirInitDbDone⟩ }

inductive Action where
  | start (readStatus listStatus : Status)
  | isInitDbDone (readStatus : Status)
  | storeInitDbVersion
  | checkCatalogVersion (readStatus : Status)
  | incrementCatalogVersion (readStatus updateStatus : Status) (committed : Bool)
  | getCatalogVersion
  | otherIncrement (theirInitDbDone : Bool)
  deriving DecidableEq, Repr

def incrementStep (m : Manager) (readStatus updateStatus : Status) (committed : Bool) : Manager :=
  let result := incrementCatalogVersion m readStatus updateStatus committed
  { result.2 with log := result.2.log ++ result.1.version.toList.map .incremented }

def getStep (m : Manager) : Manager :=
  { m with log := m.log ++ [.gotVersion (getCatalogVersion m)] }

def next (m : Manager) : Action → Option Manager
  | .start readStatus listStatus =>
      if m.caller = .idle ∧ m.initted = false then some (start m readStatus listStatus) else none
  | .isInitDbDone readStatus =>
      if m.caller = .idle then some (isInitDbDone m readStatus) else none
  | .storeInitDbVersion =>
      match m.caller with
      | .storing version => some (storeInitDbVersion m version)
      | .idle => none
  | .checkCatalogVersion readStatus =>
      if m.versionTask then some (checkCatalogVersion m readStatus) else none
  | .incrementCatalogVersion readStatus updateStatus committed =>
      if m.caller = .idle then some (incrementStep m readStatus updateStatus committed) else none
  | .getCatalogVersion =>
      if m.caller = .idle then some (getStep m) else none
  | .otherIncrement theirInitDbDone => some (otherIncrement m theirInitDbDone)

theorem incrementStep_of_readFailed {m : Manager} {readStatus : Status}
    (readFailed : readStatus.isOk = false) (updateStatus : Status) (committed : Bool) :
    incrementStep m readStatus updateStatus committed = m := by
  simp [incrementStep, incrementCatalogVersion, readFailed]

theorem incrementStep_of_updateFailed {m : Manager} {readStatus updateStatus : Status}
    (readOk : readStatus.isOk = true) (updateFailed : updateStatus.isOk = false) (committed : Bool) :
    incrementStep m readStatus updateStatus committed =
      { m with catalogVersion := m.persisted.catalogVersion } := by
  simp [incrementStep, incrementCatalogVersion, readOk, updateFailed]

theorem incrementStep_of_ok {m : Manager} {readStatus updateStatus : Status}
    (readOk : readStatus.isOk = true) (updateOk : updateStatus.isOk = true) (committed : Bool) :
    incrementStep m readStatus updateStatus committed =
      { m with
        catalogVersion := m.persisted.catalogVersion + 1,
        persisted := if committed then ⟨m.persisted.catalogVersion + 1, m.initDbDone⟩ else m.persisted,
        log := m.log ++ [.incremented (m.persisted.catalogVersion + 1)] } := by
  simp [incrementStep, incrementCatalogVersion, readOk, updateOk]

@[simp] theorem incrementStep_caller (m : Manager) (readStatus updateStatus : Status)
    (committed : Bool) : (incrementStep m readStatus updateStatus committed).caller = m.caller := by
  cases readOk : readStatus.isOk with
  | false => rw [incrementStep_of_readFailed readOk]
  | true =>
      cases updateOk : updateStatus.isOk with
      | false => rw [incrementStep_of_updateFailed readOk updateOk]
      | true => rw [incrementStep_of_ok readOk updateOk]

theorem next_incrementCatalogVersion {m : Manager} (idle : m.caller = .idle)
    (readStatus updateStatus : Status) (committed : Bool) :
    next m (.incrementCatalogVersion readStatus updateStatus committed) =
      some (incrementStep m readStatus updateStatus committed) := by
  simp [next, idle]

theorem next_getCatalogVersion {m : Manager} (idle : m.caller = .idle) :
    next m .getCatalogVersion = some (getStep m) := by
  simp [next, idle]

theorem catalogVersion_drops_after_lost_commit (m : Manager) (idle : m.caller = .idle)
    (failure : Status) (failed : failure.isOk = false) :
    ∃ lost got reverted again,
      next m (.incrementCatalogVersion Status.OK Status.OK false) = some lost ∧
      next lost .getCatalogVersion = some got ∧
      next got (.incrementCatalogVersion Status.OK failure true) = some reverted ∧
      next got (.incrementCatalogVersion Status.OK Status.OK true) = some again ∧
      reverted.catalogVersion < got.catalogVersion ∧
      got.log = m.log ++ [.incremented (m.persisted.catalogVersion + 1),
        .gotVersion (m.persisted.catalogVersion + 1)] ∧
      again.log = got.log ++ [.incremented (m.persisted.catalogVersion + 1)] := by
  have lostIdle : (incrementStep m Status.OK Status.OK false).caller = .idle := by
    rw [incrementStep_caller, idle]
  have gotIdle : (getStep (incrementStep m Status.OK Status.OK false)).caller = .idle := lostIdle
  refine ⟨_, _, _, _, next_incrementCatalogVersion idle Status.OK Status.OK false,
    next_getCatalogVersion lostIdle, next_incrementCatalogVersion gotIdle Status.OK failure true,
    next_incrementCatalogVersion gotIdle Status.OK Status.OK true, ?_, ?_, ?_⟩
  · -- SKV refused the first commit, so the record still has the version read; the failed
    -- update puts catalog_version_ back to it, below what the first increment set
    rw [incrementStep_of_updateFailed rfl failed, getStep, incrementStep_of_ok rfl rfl]
    simp
  · rw [getStep, incrementStep_of_ok rfl rfl]
    simp [getCatalogVersion]
  · rw [incrementStep_of_ok rfl rfl, getStep, incrementStep_of_ok rfl rfl]
    simp

theorem catalogVersion_drops_after_lost_commit_from_init :
    (init ⟨0, true⟩).caller = .idle ∧ (⟨.illegalState, "", []⟩ : Status).isOk = false ∧
      ∃ lost got reverted again,
        next (init ⟨0, true⟩) (.incrementCatalogVersion Status.OK Status.OK false) = some lost ∧
        next lost .getCatalogVersion = some got ∧
        next got (.incrementCatalogVersion Status.OK ⟨.illegalState, "", []⟩ true) = some reverted ∧
        next got (.incrementCatalogVersion Status.OK Status.OK true) = some again ∧
        reverted.catalogVersion < got.catalogVersion ∧
        got.log = (init ⟨0, true⟩).log ++ [.incremented ((init ⟨0, true⟩).persisted.catalogVersion + 1),
          .gotVersion ((init ⟨0, true⟩).persisted.catalogVersion + 1)] ∧
        again.log = got.log ++ [.incremented ((init ⟨0, true⟩).persisted.catalogVersion + 1)] :=
  ⟨rfl, rfl, catalogVersion_drops_after_lost_commit (init ⟨0, true⟩) rfl ⟨.illegalState, "", []⟩ rfl⟩

end SqlCatalogManager

end ChogoriSql
