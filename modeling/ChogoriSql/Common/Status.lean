import Mathlib

/-! `Status` of `common/status.h` with the error payloads of `common/pgsql_error.h` and
`common/transaction_error.h`, and the SQLSTATE encoding of `common/k2pg_errcodes.h`. -/

namespace ChogoriSql

inductive StatusCode where
  | ok
  | notFound
  | corruption
  | notSupported
  | invalidArgument
  | ioError
  | alreadyPresent
  | runtimeError
  | networkError
  | illegalState
  | notAuthorized
  | aborted
  | remoteError
  | serviceUnavailable
  | timedOut
  | uninitialized
  | configurationError
  | incomplete
  | endOfFile
  | invalidCommand
  | qlError
  | internalError
  | expired
  | leaderNotReadyToServe
  | leaderHasNoLease
  | tryAgain
  | busy
  | shutdownInProgress
  | mergeInProgress
  | combined
  | snapshotTooOld
  deriving DecidableEq, Repr

def pgSixBit (ch : Char) : Nat :=
  (ch.toNat - '0'.toNat) % 64

def makeSqlState (ch1 ch2 ch3 ch4 ch5 : Char) : Nat :=
  pgSixBit ch1 + pgSixBit ch2 * 2 ^ 6 + pgSixBit ch3 * 2 ^ 12 + pgSixBit ch4 * 2 ^ 18 +
    pgSixBit ch5 * 2 ^ 24

def K2PG_UNIQUE_VIOLATION : Nat := makeSqlState '2' '3' '5' '0' '5'

def K2PG_T_R_SERIALIZATION_FAILURE : Nat := makeSqlState '4' '0' '0' '0' '1'

def K2PG_SNAPSHOT_TOO_OLD : Nat := makeSqlState '7' '2' '0' '0' '0'

def K2PG_INTERNAL_ERROR : Nat := makeSqlState 'X' 'X' '0' '0' '0'

inductive TransactionErrorCode where
  | kNone
  | kAborted
  | kReadRestartRequired
  | kConflict
  | kSnapshotTooOld
  deriving DecidableEq, Repr

inductive ErrorTag where
  | pgsqlError (sqlState : Nat)
  | transactionError (code : TransactionErrorCode)
  deriving DecidableEq, Repr

structure Status where
  code : StatusCode
  message : String := ""
  errors : List ErrorTag := []
  deriving DecidableEq, Repr

namespace Status

def OK : Status := { code := .ok }

def withMessages (code : StatusCode) (msg msg2 : String) : Status :=
  { code, message := if msg2.isEmpty then msg else msg ++ ": " ++ msg2 }

def isOk (status : Status) : Bool :=
  status.code == .ok

def pgsqlErrorData (status : Status) : Option Nat :=
  status.errors.findSome? fun
    | .pgsqlError sqlState => some sqlState
    | .transactionError _ => none

def transactionErrorData (status : Status) : Option TransactionErrorCode :=
  status.errors.findSome? fun
    | .pgsqlError _ => none
    | .transactionError code => some code

end Status

end ChogoriSql
