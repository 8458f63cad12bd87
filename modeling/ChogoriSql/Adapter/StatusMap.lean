import ChogoriSql.Common.Status

/-! The two translations of SKV status codes in `pggate/k2_adapter.cc`:
`K2Adapter::K2StatusToK2PgStatus` gives the `Status` the future of a request resolves to, and
`K2Adapter::K2StatusToPGStatus` gives the `RequestStatus` stored in the response. -/

namespace ChogoriSql

structure K2Status where
  code : Nat
  message : String := ""
  deriving DecidableEq, Repr

namespace K2Status

def is2xxOK (status : K2Status) : Bool :=
  200 ≤ status.code && status.code < 300

def OK : K2Status := { code := 200 }

def ConditionFailed : K2Status := { code := 412 }

def OperationNotAllowed : K2Status := { code := 405 }

end K2Status

inductive RequestStatus where
  | PGSQL_STATUS_OK
  | PGSQL_STATUS_SCHEMA_VERSION_MISMATCH
  | PGSQL_STATUS_RUNTIME_ERROR
  | PGSQL_STATUS_USAGE_ERROR
  | PGSQL_STATUS_RESTART_REQUIRED_ERROR
  | PGSQL_STATUS_DUPLICATE_KEY_ERROR
  deriving DecidableEq, Repr

namespace K2Adapter

/-- `K2Adapter::K2StatusToK2PgStatus`.  Every status it builds carries only a code and the
message; no error payload is attached. -/
def k2StatusToK2PgStatus (status : K2Status) : Status :=
  match status.code with
  | 200 | 201 | 202 => Status.OK
  | 400 => { code := .invalidCommand, message := status.message }
  | 403 => { code := .aborted, message := status.message }
  | 404 => { code := .notFound, message := status.message }
  | 405 | 406 => { code := .invalidArgument, message := status.message }
  | 408 => { code := .timedOut, message := status.message }
  | 409 => { code := .aborted, message := status.message }
  | 410 => { code := .serviceUnavailable, message := status.message }
  | 412 => { code := .alreadyPresent, message := status.message }
  | 422 => { code := .invalidArgument, message := status.message }
  | 500 => { code := .corruption, message := status.message }
  | 503 => { code := .serviceUnavailable, message := status.message }
  | _ => { code := .corruption, message := "Unknown K2 status code" }

/-- `K2Adapter::K2StatusToPGStatus`. -/
def k2StatusToPGStatus (status : K2Status) : RequestStatus :=
  match status.code with
  | 200 | 201 | 202 => .PGSQL_STATUS_OK
  | 400 => .PGSQL_STATUS_USAGE_ERROR
  | 403 => .PGSQL_STATUS_RESTART_REQUIRED_ERROR
  | 404 => .PGSQL_STATUS_OK
  | 405 | 406 => .PGSQL_STATUS_USAGE_ERROR
  | 408 => .PGSQL_STATUS_RUNTIME_ERROR
  | 409 => .PGSQL_STATUS_RESTART_REQUIRED_ERROR
  | 410 => .PGSQL_STATUS_RUNTIME_ERROR
  | 412 => .PGSQL_STATUS_DUPLICATE_KEY_ERROR
  | 422 => .PGSQL_STATUS_USAGE_ERROR
  | 500 => .PGSQL_STATUS_RUNTIME_ERROR
  | 503 => .PGSQL_STATUS_RUNTIME_ERROR
  | _ => .PGSQL_STATUS_RUNTIME_ERROR

end K2Adapter

end ChogoriSql
