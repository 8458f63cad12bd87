import ChogoriSql.Adapter.StatusMap
import ChogoriSql.System.Transition

/-! `PgTxnHandler` of `pggate/pg_txn_handler.cc`: the four fields that say where the handler's
transaction stands, and each call with what SKV answers.  `K2Adapter::BeginTransaction()` gives
a transaction or throws, `EndTransaction` gives a status.  The handler's requests to SKV are
kept in order, each `EndTransaction` with the transaction pointer it was passed; a null
pointer is `none`. -/

namespace ChogoriSql

namespace PgTxnHandler

inductive SkvCall where
  | beginTxn (txn : Nat)
  | endTxn (txn : Option Nat) (commit : Bool)
  deriving DecidableEq, Repr

structure Handler where
  txn : Option Nat
  txnInProgress : Bool
  readOnly : Bool
  txnAlreadyAborted : Bool
  -- the id SKV gives the next transaction it begins
  nextTxn : Nat
  skvCalls : List SkvCall
  deriving DecidableEq, Repr

def fresh : Handler :=
  ⟨none, false, false, false, 0, []⟩

def resetTransaction (h : Handler) : Handler :=
  { h with readOnly := false, txnInProgress := false, txnAlreadyAborted := false, txn := none }

def endTransaction (h : Handler) (commit : Bool) : Handler :=
  { h with skvCalls := h.skvCalls ++ [.endTxn h.txn commit] }

/-- `BeginTransaction()`.  It sets `txn_in_progress_` before it asks SKV, so a throwing
`beginTxn` leaves a transaction in progress with no transaction. -/
def beginTransaction (h : Handler) (beginThrows : Bool) : Except String Status × Handler :=
  if h.txnInProgress then
    (.ok (Status.withMessages .illegalState "Transaction is already in progress" ""), h)
  else
    let started := { resetTransaction h with txnInProgress := true }
    if beginThrows then (.error "beginTxn", started)
    else
      (.ok Status.OK, { started with txn := some h.nextTxn, nextTxn := h.nextTxn + 1,
                                     skvCalls := h.skvCalls ++ [.beginTxn h.nextTxn] })

/-- `AbortTransaction()`: an already aborted or a read-only transaction is dropped without a
request to SKV. -/
def abortTransaction (h : Handler) (endStatus : K2Status) : Status × Handler :=
  if !h.txnInProgress then (Status.OK, h)
  else if h.txnAlreadyAborted || (h.txn.isSome && h.readOnly) then (Status.OK, resetTransaction h)
  else (K2Adapter.k2StatusToK2PgStatus endStatus, resetTransaction (endTransaction h false))

/-- `CommitTransaction()`.  The comparison with `K23SIStatus::OperationNotAllowed` is that of
`k2::Status`, on the code. -/
def commitTransaction (h : Handler) (endStatus : K2Status) : Status × Handler :=
  if !h.txnInProgress then (Status.OK, h)
  else if h.txn.isSome && h.readOnly then abortTransaction h endStatus
  else
    let ended := endTransaction h true
    if endStatus.is2xxOK then (K2Adapter.k2StatusToK2PgStatus endStatus, resetTransaction ended)
    else if endStatus.code == K2Status.OperationNotAllowed.code then
      (K2Adapter.k2StatusToK2PgStatus endStatus, { ended with txnAlreadyAborted := true })
    else (K2Adapter.k2StatusToK2PgStatus endStatus, ended)

def restartTransaction (h : Handler) (endStatus : K2Status) (beginThrows : Bool) :
    Except String Status × Handler :=
  if h.txn.isSome then
    let (status, aborted) := abortTransaction h endStatus
    if status.isOk then beginTransaction aborted beginThrows else (.ok status, aborted)
  else beginTransaction h beginThrows

def setReadOnly (h : Handler) (readOnly : Bool) : Handler :=
  { h with readOnly }

/-- `GetTxn()`: begins lazily, and throws where the begin does not give OK. -/
def getTxn (h : Handler) (beginThrows : Bool) : Except String (Option Nat) × Handler :=
  if h.txn.isNone then
    match beginTransaction h beginThrows with
    | (.error exception, begun) => (.error exception, begun)
    | (.ok status, begun) =>
        if status.isOk then (.ok begun.txn, begun) else (.error "Cannot start new transaction.", begun)
  else (.ok h.txn, h)

def destroy (h : Handler) (endStatus : K2Status) : Handler :=
  if h.txn.isSome then (abortTransaction h endStatus).2 else h

inductive Call where
  | beginTransaction (beginThrows : Bool)
  | getTxn (beginThrows : Bool)
  | setReadOnly (readOnly : Bool)
  | commitTransaction (endStatus : K2Status)
  | abortTransaction (endStatus : K2Status)
  | restartTransaction (endStatus : K2Status) (beginThrows : Bool)
  deriving DecidableEq, Repr

def step (h : Handler) : Call → Handler
  | .beginTransaction beginThrows => (beginTransaction h beginThrows).2
  | .getTxn beginThrows => (getTxn h beginThrows).2
  | .setReadOnly readOnly => setReadOnly h readOnly
  | .commitTransaction endStatus => (commitTransaction h endStatus).2
  | .abortTransaction endStatus => (abortTransaction h endStatus).2
  | .restartTransaction endStatus beginThrows => (restartTransaction h endStatus beginThrows).2

def next (h : Handler) (call : Call) : Option Handler :=
  some (step h call)

@[simp] theorem resetTransaction_txn (h : Handler) : (resetTransaction h).txn = none := rfl

@[simp] theorem endTransaction_txn (h : Handler) (commit : Bool) :
    (endTransaction h commit).txn = h.txn := rfl

@[simp] theorem endTransaction_txnInProgress (h : Handler) (commit : Bool) :
    (endTransaction h commit).txnInProgress = h.txnInProgress := rfl

def TxnHeld (h : Handler) : Prop :=
  h.txn.isSome = true → h.txnInProgress = true

theorem TxnHeld.reset (h : Handler) : TxnHeld (resetTransaction h) := by
  intro held
  simp at held

theorem TxnHeld.beginTransaction {h : Handler} (held : TxnHeld h) (beginThrows : Bool) :
    TxnHeld (beginTransaction h beginThrows).2 := by
  unfold PgTxnHandler.beginTransaction
  split
  · exact held
  · cases beginThrows
    · intro _
      rfl
    · intro started
      simp at started

theorem TxnHeld.abortTransaction {h : Handler} (held : TxnHeld h) (endStatus : K2Status) :
    TxnHeld (abortTransaction h endStatus).2 := by
  unfold PgTxnHandler.abortTransaction
  split
  · exact held
  · split
    · exact TxnHeld.reset h
    · exact TxnHeld.reset _

theorem TxnHeld.commitTransaction {h : Handler} (held : TxnHeld h) (endStatus : K2Status) :
    TxnHeld (commitTransaction h endStatus).2 := by
  unfold PgTxnHandler.commitTransaction
  split
  · exact held
  · split
    · exact held.abortTransaction endStatus
    · -- a failed commit keeps the transaction, and it is still in progress
      split
      · exact TxnHeld.reset _
      · split
        · exact held
        · exact held

theorem TxnHeld.step {h : Handler} (held : TxnHeld h) (call : Call) : TxnHeld (step h call) := by
  cases call with
  | beginTransaction beginThrows => exact held.beginTransaction beginThrows
  | getTxn beginThrows =>
      simp only [PgTxnHandler.step, getTxn]
      split
      · have begun := held.beginTransaction beginThrows
        split
        · rename_i eq
          rw [eq] at begun
          exact begun
        · rename_i eq
          rw [eq] at begun
          split
          · exact begun
          · exact begun
      · exact held
  | setReadOnly readOnly => exact held
  | commitTransaction endStatus => exact held.commitTransaction endStatus
  | abortTransaction endStatus => exact held.abortTransaction endStatus
  | restartTransaction endStatus beginThrows =>
      simp only [PgTxnHandler.step, restartTransaction]
      split
      · have aborted := held.abortTransaction endStatus
        split
        · exact aborted.beginTransaction beginThrows
        · exact aborted
      · exact held.beginTransaction beginThrows

theorem TxnHeld.of_reachable {h : Handler} (reachable : Transition.Reachable next fresh h) :
    TxnHeld h := by
  refine Transition.Reachable.closed ?_ ?_ reachable
  · intro s call t held stepped
    simp only [next, Option.some.injEq] at stepped
    rw [← stepped]
    exact held.step call
  · intro held
    simp [fresh] at held

theorem beginTransaction_throws {h : Handler} (idle : h.txnInProgress = false) :
    beginTransaction h true = (.error "beginTxn", { resetTransaction h with txnInProgress := true }) := by
  simp [beginTransaction, idle]

theorem beginTransaction_ok {h : Handler} (idle : h.txnInProgress = false) :
    beginTransaction h false =
      (.ok Status.OK,
        { resetTransaction h with
          txnInProgress := true, txn := some h.nextTxn, nextTxn := h.nextTxn + 1,
          skvCalls := h.skvCalls ++ [.beginTxn h.nextTxn] }) := by
  simp [beginTransaction, idle]

theorem commitTransaction_null {h : Handler} (inProgress : h.txnInProgress = true)
    (noTxn : h.txn = none) (endStatus : K2Status) :
    (commitTransaction h endStatus).2.skvCalls = h.skvCalls ++ [.endTxn none true] := by
  unfold commitTransaction
  simp only [inProgress, noTxn, Bool.not_true, Bool.false_eq_true, if_false, Option.isSome_none,
    Bool.false_and]
  split_ifs <;> simp [endTransaction, resetTransaction, noTxn]

theorem commitTransaction_readOnly {h : Handler} (inProgress : h.txnInProgress = true)
    {txn : Nat} (hasTxn : h.txn = some txn) (readOnly : h.readOnly = true) (endStatus : K2Status) :
    commitTransaction h endStatus = (Status.OK, resetTransaction h) := by
  simp [commitTransaction, abortTransaction, inProgress, hasTxn, readOnly]

theorem txnHandler_ends_null_or_never (h : Handler) (idle : h.txnInProgress = false)
    (endStatus : K2Status) :
    ((beginTransaction h true).2.txn = none ∧ (beginTransaction h true).2.txnInProgress = true ∧
      (commitTransaction (beginTransaction h true).2 endStatus).2.skvCalls =
        (beginTransaction h true).2.skvCalls ++ [.endTxn none true]) ∧
    ((beginTransaction h false).2.txn = some h.nextTxn ∧
      (beginTransaction (commitTransaction (setReadOnly (beginTransaction h false).2 true)
          endStatus).2 false).2.skvCalls =
        h.skvCalls ++ [.beginTxn h.nextTxn, .beginTxn (h.nextTxn + 1)]) := by
  constructor
  · rw [beginTransaction_throws idle]
    exact ⟨rfl, rfl, commitTransaction_null rfl rfl endStatus⟩
  · rw [beginTransaction_ok idle]
    refine ⟨rfl, ?_⟩
    rw [commitTransaction_readOnly rfl rfl rfl endStatus, beginTransaction_ok rfl]
    simp [resetTransaction, setReadOnly]

theorem txnHandler_ends_null_or_never_fresh :
    fresh.txnInProgress = false ∧
      (((beginTransaction fresh true).2.txn = none ∧
        (beginTransaction fresh true).2.txnInProgress = true ∧
        (commitTransaction (beginTransaction fresh true).2 K2Status.OK).2.skvCalls =
          (beginTransaction fresh true).2.skvCalls ++ [.endTxn none true]) ∧
      ((beginTransaction fresh false).2.txn = some fresh.nextTxn ∧
        (beginTransaction (commitTransaction (setReadOnly (beginTransaction fresh false).2 true)
            K2Status.OK).2 false).2.skvCalls =
          fresh.skvCalls ++ [.beginTxn fresh.nextTxn, .beginTxn (fresh.nextTxn + 1)])) :=
  ⟨rfl, txnHandler_ends_null_or_never fresh rfl K2Status.OK⟩

end PgTxnHandler

end ChogoriSql
