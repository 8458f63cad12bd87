import ChogoriSql.Sql.Value

/-! `PgExpr` of `entities/expr.h`: the expression trees pggate builds for conditions.  A
`PgConstant` carries a `SqlValue`, a `PgColumnRef` a column, and a `PgOperator` an opcode
named by `kOperatorNames` with its argument list. -/

namespace ChogoriSql

inductive Opcode where
  | PG_EXPR_CONSTANT
  | PG_EXPR_COLREF
  | PG_EXPR_NOT
  | PG_EXPR_EQ
  | PG_EXPR_NE
  | PG_EXPR_GE
  | PG_EXPR_GT
  | PG_EXPR_LE
  | PG_EXPR_LT
  | PG_EXPR_EXISTS
  | PG_EXPR_AND
  | PG_EXPR_OR
  | PG_EXPR_IN
  | PG_EXPR_BETWEEN
  | PG_EXPR_AVG
  | PG_EXPR_SUM
  | PG_EXPR_COUNT
  | PG_EXPR_MAX
  | PG_EXPR_MIN
  | PG_EXPR_EVAL_EXPR_CALL
  deriving DecidableEq, Repr

inductive PgExpr where
  | constant (value : SqlValue)
  | colRef (attrNum : Int) (attrName : String)
  | operator (opcode : Opcode) (args : List PgExpr)
  deriving Repr

def kOperatorNames : String → Option Opcode
  | "!" => some .PG_EXPR_NOT
  | "not" => some .PG_EXPR_NOT
  | "=" => some .PG_EXPR_EQ
  | "<>" => some .PG_EXPR_NE
  | "!=" => some .PG_EXPR_NE
  | ">" => some .PG_EXPR_GT
  | ">=" => some .PG_EXPR_GE
  | "<" => some .PG_EXPR_LT
  | "<=" => some .PG_EXPR_LE
  | "and" => some .PG_EXPR_AND
  | "or" => some .PG_EXPR_OR
  | "in" => some .PG_EXPR_IN
  | "between" => some .PG_EXPR_BETWEEN
  | "avg" => some .PG_EXPR_AVG
  | "sum" => some .PG_EXPR_SUM
  | "count" => some .PG_EXPR_COUNT
  | "max" => some .PG_EXPR_MAX
  | "min" => some .PG_EXPR_MIN
  | "eval_expr_call" => some .PG_EXPR_EVAL_EXPR_CALL
  | _ => none

namespace PgExpr

def opcode : PgExpr → Opcode
  | constant _ => .PG_EXPR_CONSTANT
  | colRef _ _ => .PG_EXPR_COLREF
  | operator opcode _ => opcode

def isColref : PgExpr → Bool
  | colRef _ _ => true
  | _ => false

def isConstant : PgExpr → Bool
  | constant _ => true
  | _ => false

def getArgs : PgExpr → List PgExpr
  | operator _ args => args
  | _ => []

def getValue? : PgExpr → Option SqlValue
  | constant value => some value
  | _ => none

def attrName? : PgExpr → Option String
  | colRef _ name => some name
  | _ => none

end PgExpr

end ChogoriSql
