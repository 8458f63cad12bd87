import ChogoriSql.Adapter.RangeConditions

/-! The filter expression of an SKV query (`k2::dto::expression`), how `K2Adapter` builds it
from pggate expressions (`ToK2Expression`, `ToK2AndOrOperator`, `ToK2BinaryLogicOperator`,
`ToK2BetweenOperator`), and the filter `handleReadOp` installs: the where conditions with the
leftover range conditions appended.  The evaluation of a filter on a record belongs to the
SKV server: it is a parameter with the laws `FilterSemantics` states as the claims do, and
`evalFilter` is one evaluation with those laws: comparisons of a field with a literal, integers
and strings compared as numbers and bytes, floats by IEEE, a NULL field failing every
comparison, and a type mismatch failing the query. -/

namespace ChogoriSql

inductive Operation where
  | EQ
  | GT
  | GTE
  | LT
  | LTE
  | IS_NULL
  | AND
  | OR
  | NOT
  | UNKNOWN
  deriving DecidableEq, Repr

inductive ExprValue where
  | reference (fieldName : String)
  | literal (value : FieldValue)
  deriving DecidableEq, Repr

inductive K2Expression where
  | mk (op : Operation) (valueChildren : List ExprValue) (expressionChildren : List K2Expression)
  deriving Repr

namespace K2Adapter

def toK2OperationType : Opcode → Operation
  | .PG_EXPR_NOT => .NOT
  | .PG_EXPR_EQ => .EQ
  | .PG_EXPR_NE => .NOT
  | .PG_EXPR_GE => .GTE
  | .PG_EXPR_GT => .GT
  | .PG_EXPR_LE => .LTE
  | .PG_EXPR_LT => .LT
  | .PG_EXPR_AND => .AND
  | .PG_EXPR_OR => .OR
  | _ => .UNKNOWN

def toK2Value (value : SqlValue) : Except String ExprValue :=
  match value.toFieldValue with
  | some field => .ok (.literal field)
  | none => .error "NULL value should be handled differently"

def toK2ColumnRef (attrName : String) : ExprValue :=
  .reference attrName

/-- `ToK2BinaryLogicOperator`: `column op constant`; an equality with NULL becomes `IS_NULL`,
any other comparison with NULL is an exception. -/
def toK2BinaryLogicOperator (opcode : Opcode) (args : List PgExpr) : Except String K2Expression :=
  match args with
  | [.colRef _ name, .constant value] =>
      if value.isNull then
        if opcode == .PG_EXPR_EQ then .ok (.mk .IS_NULL [toK2ColumnRef name] [])
        else .error "NULL value should not be handled by operator"
      else do
        let literal ← toK2Value value
        .ok (.mk (toK2OperationType opcode) [toK2ColumnRef name, literal] [])
  | [_, _] =>
      match args.head? with
      | some (.colRef _ _) => .error "Second argument should be a value"
      | _ => .error "First argument should be column reference"
  | _ => .error "Binary logic operator must have two arguments"

/-- `ToK2BetweenOperator`: `AND(GTE(column, lower), LTE(column, higher))` with the bounds in
the order `Compare` gives them. -/
def toK2BetweenOperator (args : List PgExpr) : Except String K2Expression :=
  match args with
  | [.colRef _ name, .constant val1, .constant val2] =>
      if val1.isNull || val2.isNull then .error "Between operator should not have null values"
      else do
        let order ← val1.compare val2
        let (lower, higher) := if order > 0 then (val2, val1) else (val1, val2)
        let lowerLiteral ← toK2Value lower
        let higherLiteral ← toK2Value higher
        .ok (.mk .AND []
          [.mk .GTE [toK2ColumnRef name, lowerLiteral] [],
           .mk .LTE [toK2ColumnRef name, higherLiteral] []])
  | [_, _, _] =>
      match args.head? with
      | some (.colRef _ _) => .error "Second and third arguments should be value"
      | _ => .error "First argument should be column reference"
  | _ => .error "Between operator should have 3 arguments"

def andOrTree (op : Operation) : List K2Expression → Except String K2Expression
  | [] => .error "empty argument list"
  | [only] => .ok only
  | [last, previous] => .ok (.mk op [] [last, previous])
  | last :: rest => do
      let others ← andOrTree op rest
      .ok (.mk op [] [last, others])

mutual

/-- `ToK2Expression`. -/
def toK2Expression : PgExpr → Except String K2Expression
  | .operator .PG_EXPR_AND args => do
      -- `ToK2AndOrOperator`: the children are converted from the last to the first
      let children ← toK2ExpressionsFromLast args
      andOrTree .AND children
  | .operator .PG_EXPR_BETWEEN args => toK2BetweenOperator args
  | .operator opcode args =>
      if [Opcode.PG_EXPR_EQ, .PG_EXPR_GE, .PG_EXPR_GT, .PG_EXPR_LE, .PG_EXPR_LT].contains opcode then
        toK2BinaryLogicOperator opcode args
      else .error "Unsupported PgExpr"
  | _ => .error "Unsupported PgExpr"

def toK2ExpressionsFromLast : List PgExpr → Except String (List K2Expression)
  | [] => .ok []
  | arg :: rest => do
      let later ← toK2ExpressionsFromLast rest
      let converted ← toK2Expression arg
      .ok (later ++ [converted])

end

def appendArgs : PgExpr → List PgExpr → PgExpr
  | .operator opcode args, extra => .operator opcode (args ++ extra)
  | expr, _ => expr

def scanFilterExpression (whereConds : Option PgExpr) (leftoverExprs : List PgExpr) :
    Except String (Option K2Expression) :=
  if whereConds.isNone && leftoverExprs.isEmpty then .ok none
  else
    let topOpr :=
      match whereConds with
      | some conds => appendArgs conds leftoverExprs
      | none => .operator .PG_EXPR_AND leftoverExprs
    if topOpr.getArgs.isEmpty then .ok none
    else (toK2Expression topOpr).map some

end K2Adapter

def compareField (op : Operation) : FieldValue → FieldValue → Except String Bool
  | .int64T x, .int64T y => .ok (orderedAs op (compare x.toInt y.toInt))
  | .string x, .string y => .ok (orderedAs op (compareOfLessAndEq x y))
  | .bool x, .bool y => .ok (orderedAs op (compare x y))
  | .float x, .float y => .ok (ieeeAs op (Ieee754.lt 32 23 x.toNat y.toNat)
      (Ieee754.lt 32 23 y.toNat x.toNat) (Ieee754.eq 32 23 x.toNat y.toNat))
  | .double x, .double y => .ok (ieeeAs op (Ieee754.lt 64 52 x.toNat y.toNat)
      (Ieee754.lt 64 52 y.toNat x.toNat) (Ieee754.eq 64 52 x.toNat y.toNat))
  | _, _ => .error "type mismatch"
where
  orderedAs : Operation → Ordering → Bool
    | .EQ, order => order == .eq
    | .LT, order => order == .lt
    | .LTE, order => order != .gt
    | .GT, order => order == .gt
    | .GTE, order => order != .lt
    | _, _ => false
  ieeeAs : Operation → Bool → Bool → Bool → Bool
    | .EQ, _, _, equal => equal
    | .LT, less, _, _ => less
    | .LTE, less, _, equal => less || equal
    | .GT, _, greater, _ => greater
    | .GTE, _, greater, equal => greater || equal
    | _, _, _, _ => false

/-- What the claims assume of SKV's evaluation of a filter on a record, given by its fields by
name (`none` for a name the schema does not have, `some none` for a NULL field): `IS_NULL` and
`AND` as their names say, and a comparison of a field with a literal by `compareField`, a NULL
field failing every comparison. -/
structure FilterSemantics (eval : (String → Option (Option FieldValue)) → K2Expression → Except String Bool) :
    Prop where
  isNull : ∀ field name value, field name = some value →
    eval field (.mk .IS_NULL [.reference name] []) = .ok value.isNone
  and : ∀ field left right, eval field (.mk .AND [] [left, right]) = (do
    let leftHolds ← eval field left
    let rightHolds ← eval field right
    .ok (leftHolds && rightHolds))
  compare : ∀ field op name value literal, op ∈ [Operation.EQ, .LT, .LTE, .GT, .GTE] →
    field name = some (some value) →
    eval field (.mk op [.reference name, .literal literal] []) = compareField op value literal
  compareNull : ∀ field op name literal, op ∈ [Operation.EQ, .LT, .LTE, .GT, .GTE] →
    field name = some none → eval field (.mk op [.reference name, .literal literal] []) = .ok false

def evalFilter (field : String → Option (Option FieldValue)) : K2Expression → Except String Bool
  | .mk .IS_NULL [.reference name] [] =>
      match field name with
      | some value => .ok value.isNone
      | none => .error "no such field"
  | .mk .AND [] [left, right] => do
      let leftHolds ← evalFilter field left
      let rightHolds ← evalFilter field right
      .ok (leftHolds && rightHolds)
  | .mk op [.reference name, .literal literal] [] =>
      if [Operation.EQ, .LT, .LTE, .GT, .GTE].contains op then
        match field name with
        | some (some value) => compareField op value literal
        | some none => .ok false
        | none => .error "no such field"
      else .error "unsupported filter"
  | _ => .error "unsupported filter"

theorem evalFilter_filterSemantics : FilterSemantics evalFilter where
  isNull field name value present := by simp [evalFilter, present]
  and field left right := by simp [evalFilter]
  compare field op name value literal comparison present := by
    rcases (by simpa using comparison :
        op = .EQ ∨ op = .LT ∨ op = .LTE ∨ op = .GT ∨ op = .GTE) with rfl | rfl | rfl | rfl | rfl <;>
      simp [evalFilter, present]
  compareNull field op name literal comparison present := by
    rcases (by simpa using comparison :
        op = .EQ ∨ op = .LT ∨ op = .LTE ∨ op = .GT ∨ op = .GTE) with rfl | rfl | rfl | rfl | rfl <;>
      simp [evalFilter, present]

end ChogoriSql
