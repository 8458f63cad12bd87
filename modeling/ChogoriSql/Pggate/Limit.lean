import Mathlib

/-! How a statement's LIMIT reaches SKV.  The executor writes `k2pg_exec_params` on the way down
the plan (`ExecLimit` the count and offset, and `limit_use_default` to say whether PostgreSQL
still filters, sorts or aggregates the rows), `PgReadOp::ExecuteInit` turns them into the
request's limit through `SetRequestTotalLimit`, and `handleReadOp` makes a positive request limit
the SKV query's total limit.  The SKV query is a parameter with the laws `TotalLimit` states: it
returns, across its pages, the first `limit` records that pass its conditions, and a negative
limit, like the client's default `-1`, is no limit. -/

namespace ChogoriSql

/-- `PgExecParameters`: the limit fields, with the values `CreateExecutorState` gives them. -/
structure PgExecParameters where
  limitCount : Int64 := -1
  limitOffset : UInt64 := 0
  limitUseDefault : Bool := true
  deriving DecidableEq, Repr

/-- `PgReadOp::SetRequestTotalLimit`: `limit_count + limit_offset` in unsigned 64-bit
arithmetic, whatever `limit_use_default` says. -/
def setRequestTotalLimit (params : PgExecParameters) : UInt64 :=
  params.limitCount.toUInt64 + params.limitOffset

def handleReadOpLimit (requestLimit : UInt64) : Option Int64 :=
  if requestLimit > 0 then some requestLimit.toInt64 else none

/-- What the claims assume of SKV's `Query::setLimit`: `query limit matching` are the records a
query returns, across its pages, when `matching` are those that pass its conditions; a
non-negative limit is a total limit over them, and a negative limit or none is no limit. -/
structure TotalLimit {α : Type} (query : Option Int64 → List α → List α) : Prop where
  limited : ∀ (total : Int64) (matching : List α), 0 ≤ total.toInt →
    query (some total) matching = matching.take total.toInt.toNat
  negative : ∀ (total : Int64) (matching : List α), total.toInt < 0 →
    query (some total) matching = matching
  unlimited : ∀ matching : List α, query none matching = matching

def skvQueryRecords {α : Type} (limit : Option Int64) (matching : List α) : List α :=
  match limit with
  | some total => if 0 ≤ total.toInt then matching.take total.toInt.toNat else matching
  | none => matching

theorem skvQueryRecords_totalLimit {α : Type} : TotalLimit (α := α) skvQueryRecords where
  limited total matching nonNegative := by simp [skvQueryRecords, nonNegative]
  negative total matching below := by simp [skvQueryRecords, not_le.mpr below]
  unlimited matching := rfl

def scanRows {α : Type} (query : Option Int64 → List α → List α) (params : PgExecParameters)
    (matching : List α) : List α :=
  query (handleReadOpLimit (setRequestTotalLimit params)) matching

inductive ScanPlan where
  | limit (limitCount limitOffset : Option Nat) (child : ScanPlan)
  | sort (child : ScanPlan)
  | agg (child : ScanPlan)
  | scan (hasQual : Bool)
  deriving DecidableEq, Repr

def recomputeLimits (limitCount limitOffset : Option Nat) : Nat × Nat :=
  (limitCount.getD 0, limitOffset.getD 0)

/-- The parameters when the scan sends its read: on its first call each node writes them before
it asks its child for a tuple (`ExecLimit`, `ExecSort`, `ExecAgg`, `ExecScan`). -/
def execParamsAtScan : ScanPlan → PgExecParameters → PgExecParameters
  | .limit limitCount limitOffset child, params =>
      let (count, offset) := recomputeLimits limitCount limitOffset
      execParamsAtScan child
        { params with limitCount := Int64.ofNat count, limitOffset := UInt64.ofNat offset,
                      limitUseDefault := false }
  | .sort child, params => execParamsAtScan child { params with limitUseDefault := true }
  | .agg child, params => execParamsAtScan child { params with limitUseDefault := true }
  | .scan hasQual, params => if hasQual then { params with limitUseDefault := true } else params

def camSetupScanKeysLimit (keysPushed : List Bool) (params : PgExecParameters) :
    PgExecParameters :=
  keysPushed.foldl (fun params pushed =>
    if !pushed && !params.limitUseDefault then { params with limitCount := -1 } else params) params

section Limit

variable {α : Type} {query : Option Int64 → List α → List α}

theorem handleReadOpLimit_ofNat (total : Nat) (positive : 0 < total) (fits : total < 2 ^ 63) :
    handleReadOpLimit (UInt64.ofNat total) = some (Int64.ofNat total) := by
  have nonZero : UInt64.ofNat total > 0 := by
    rw [gt_iff_lt, UInt64.lt_iff_toNat_lt]
    simp
    omega
  simp only [handleReadOpLimit, nonZero, if_true]
  rfl

theorem scanRows_of_total (limit : TotalLimit query) (count offset : Nat) (useDefault : Bool)
    (matching : List α) (positive : 0 < count + offset) (fits : count + offset < 2 ^ 63) :
    scanRows query
        { limitCount := Int64.ofNat count, limitOffset := UInt64.ofNat offset,
          limitUseDefault := useDefault } matching = matching.take (count + offset) := by
  have total : setRequestTotalLimit
      { limitCount := Int64.ofNat count, limitOffset := UInt64.ofNat offset,
        limitUseDefault := useDefault } = UInt64.ofNat (count + offset) := by
    simp only [setRequestTotalLimit, UInt64.ofNat_add]
    rfl
  have reading : (Int64.ofNat (count + offset)).toInt = count + offset :=
    Int64.toInt_ofNat_of_lt fits
  rw [scanRows, total, handleReadOpLimit_ofNat _ positive fits,
    limit.limited _ _ (by rw [reading]; omega), reading]
  rfl

theorem scanRows_truncated_with_use_default (limit : TotalLimit query) (count : Nat)
    (matching : List α) (positive : 0 < count) (fits : count < 2 ^ 63)
    (more : count < matching.length) :
    (execParamsAtScan (.limit (some count) none (.scan true)) {}).limitUseDefault = true ∧
      scanRows query (execParamsAtScan (.limit (some count) none (.scan true)) {}) matching =
        matching.take count ∧
      (matching.take count).length < matching.length := by
  -- `ExecLimit` writes the count and clears `limit_use_default`, the scan's qual sets it again
  have params : execParamsAtScan (.limit (some count) none (.scan true)) {} =
      { limitCount := Int64.ofNat count, limitOffset := UInt64.ofNat 0, limitUseDefault := true } :=
    rfl
  refine ⟨by rw [params], ?_, by simp; omega⟩
  rw [params, scanRows_of_total limit count 0 true matching (by omega) (by omega), Nat.add_zero]

theorem scanRows_truncated_with_use_default_ten :
    TotalLimit (α := Nat) skvQueryRecords ∧ 0 < 10 ∧ 10 < 2 ^ 63 ∧ 10 < (List.range 12).length ∧
      ((execParamsAtScan (.limit (some 10) none (.scan true)) {}).limitUseDefault = true ∧
        scanRows skvQueryRecords (execParamsAtScan (.limit (some 10) none (.scan true)) {})
            (List.range 12) = (List.range 12).take 10 ∧
        ((List.range 12).take 10).length < (List.range 12).length) :=
  ⟨skvQueryRecords_totalLimit, by decide, by decide, by decide,
    scanRows_truncated_with_use_default skvQueryRecords_totalLimit 10 (List.range 12) (by decide)
      (by decide) (by decide)⟩

theorem scanRows_after_dropped_key (limit : TotalLimit query) (offset : Nat) (matching : List α)
    (twoOrMore : 2 ≤ offset) (fits : offset < 2 ^ 63) :
    scanRows query
        (camSetupScanKeysLimit [false] (execParamsAtScan (.limit none (some offset) (.scan false)) {}))
        matching = matching.take (offset - 1) := by
  -- `camSetupScanKeys` sets `limit_count` to `-1`, and `-1 + offset` is `offset - 1`
  have params : camSetupScanKeysLimit [false]
      (execParamsAtScan (.limit none (some offset) (.scan false)) {}) =
      { limitCount := -1, limitOffset := UInt64.ofNat offset, limitUseDefault := false } := rfl
  have wrapped : setRequestTotalLimit
      { limitCount := -1, limitOffset := UInt64.ofNat offset, limitUseDefault := false } =
      UInt64.ofNat (offset - 1) := by
    have minusOne : ((-1 : Int64).toUInt64).toNat = 2 ^ 64 - 1 := by decide
    apply UInt64.toNat.inj
    simp only [setRequestTotalLimit, UInt64.toNat_add, minusOne, UInt64.toNat_ofNat']
    omega
  have reading : (Int64.ofNat (offset - 1)).toInt = (offset - 1 : Nat) :=
    Int64.toInt_ofNat_of_lt (by omega)
  rw [params, scanRows, wrapped, handleReadOpLimit_ofNat _ (by omega) (by omega),
    limit.limited _ _ (by rw [reading]; omega), reading]
  rfl

theorem scanRows_after_dropped_key_five :
    TotalLimit (α := Nat) skvQueryRecords ∧ 2 ≤ 5 ∧ 5 < 2 ^ 63 ∧
      scanRows skvQueryRecords
          (camSetupScanKeysLimit [false] (execParamsAtScan (.limit none (some 5) (.scan false)) {}))
          (List.range 12) = (List.range 12).take 4 :=
  ⟨skvQueryRecords_totalLimit, by decide, by decide,
    scanRows_after_dropped_key skvQueryRecords_totalLimit 5 (List.range 12) (by decide) (by decide)⟩

end Limit

end ChogoriSql
