import ChogoriSql.Postgres.Operators
import ChogoriSql.Sql.Expr

/-! The filter pushdown of `executor/ybc_fdw.c`: `parse_conditions` flattens each remote clause
into the column references and constants it finds, `build_expr` turns a binary comparison
back into a pggate operator (the comparison is classified by its restriction estimator, and
its direction re-derived from `column_ref_first`), and `K2BindScanKeys` binds those on key
columns as range conditions and the others as where conditions. -/

namespace ChogoriSql

inductive PgNode where
  | var (varno : Nat) (varattno : Int) (vartype : Nat) (vartypmod : Int) (varlevelsup : Nat)
  | const (consttype : Nat) (constisnull : Bool) (constvalue : Datum)
  | param (paramid : Nat) (paramtype : Nat)
  | opExpr (opno : Nat) (args : List PgNode)
  | other
  deriving Repr

structure ParamExternData where
  ptype : Nat
  isnull : Bool
  value : Datum
  pflags : Nat
  deriving Repr

def PARAM_FLAG_CONST : Nat := 1

structure FDWColumnRef where
  attrNum : Int
  attno : Nat
  attrTypid : Nat
  atttypmod : Int
  deriving Repr

structure FDWConstValue where
  atttypid : Nat
  value : Datum
  isNull : Bool
  deriving Repr

structure FDWExprRefValues where
  opno : Nat := 0
  columnRefs : List FDWColumnRef := []
  constValues : List FDWConstValue := []
  columnRefFirst : Bool := false
  deriving Repr

structure FDWOprCond where
  opno : Nat
  ref : FDWColumnRef
  val : FDWConstValue
  columnRefFirst : Bool
  deriving Repr

def parseVar (varno : Nat) (varattno : Int) (vartype : Nat) (vartypmod : Int) (varlevelsup : Nat)
    (refValues : FDWExprRefValues) : FDWExprRefValues :=
  if varlevelsup = 0 then
    { refValues with
      columnRefs := refValues.columnRefs ++ [⟨varattno, varno, vartype, vartypmod⟩] }
  else refValues

def parseConst (consttype : Nat) (constisnull : Bool) (constvalue : Datum)
    (refValues : FDWExprRefValues) : FDWExprRefValues :=
  { refValues with
    constValues := refValues.constValues ++ [⟨consttype, constvalue, constisnull⟩] }

/-- `parse_param` with the parameters given as an array (no `paramFetch` hook); a parameter
the planner did not fix is an `elog(ERROR)`. -/
def parseParam (params : List ParamExternData) (paramid paramtype : Nat)
    (refValues : FDWExprRefValues) : Except String FDWExprRefValues :=
  match params[paramid - 1]? with
  | some prm =>
      if prm.ptype = 0 || prm.ptype != paramtype || prm.pflags % 2 != PARAM_FLAG_CONST then
        .error "Invalid parameter"
      else .ok { refValues with
        constValues := refValues.constValues ++ [⟨prm.ptype, prm.value, prm.isnull⟩] }
  | none => .error "Invalid parameter"

def OprRest.isComparison : OprRest → Bool
  | .otherSel => false
  | _ => true

mutual

/-- `parse_expr`. -/
def parseExpr (params : List ParamExternData) : PgNode → FDWExprRefValues →
    Except String FDWExprRefValues
  | .var varno varattno vartype vartypmod varlevelsup, refValues =>
      .ok (parseVar varno varattno vartype vartypmod varlevelsup refValues)
  | .const consttype constisnull constvalue, refValues =>
      .ok (parseConst consttype constisnull constvalue refValues)
  | .param paramid paramtype, refValues => parseParam params paramid paramtype refValues
  | .opExpr opno args, refValues =>
      -- `parse_op_expr`: binary comparisons only, as their estimator classifies them
      if args.length != 2 then .ok refValues
      else if (getOprrest opno).isComparison then
        parseOpArgs params args true { refValues with opno := opno }
      else .ok refValues
  | .other, refValues => .ok refValues

def parseOpArgs (params : List ParamExternData) : List PgNode → Bool → FDWExprRefValues →
    Except String FDWExprRefValues
  | [], _, refValues => .ok refValues
  | arg :: rest, checkOrder, refValues => do
      let refValues ← parseExpr params arg refValues
      let refValues :=
        if checkOrder then { refValues with columnRefFirst := refValues.columnRefs.length == 1 }
        else refValues
      parseOpArgs params rest false refValues

end

/-- `parse_conditions`: the clauses that flatten to one column reference and one constant. -/
def parseConditions (params : List ParamExternData) :
    List PgNode → Except String (List FDWOprCond)
  | [] => .ok []
  | expr :: rest => do
      let refValues ← parseExpr params expr {}
      let conds ← parseConditions params rest
      match refValues.columnRefs, refValues.constValues with
      | [ref], [val] => .ok (⟨refValues.opno, ref, val, refValues.columnRefFirst⟩ :: conds)
      | _, _ => .ok conds

def buildOprName (oprrest : OprRest) (columnRefFirst : Bool) : Option String :=
  match oprrest with
  | .F_EQSEL => some "="
  | .F_SCALARLTSEL => some (if columnRefFirst then "<" else ">")
  | .F_SCALARLESEL => some (if columnRefFirst then "<=" else ">=")
  | .F_SCALARGTSEL => some (if columnRefFirst then ">" else "<")
  | .F_SCALARGESEL => some (if columnRefFirst then ">=" else "<=")
  | .otherSel => none

def pushdownType (attrTypid : Nat) (entity : K2PgTypeEntity) : Bool :=
  [CHAROID, NAMEOID, TEXTOID, VARCHAROID, CSTRINGOID].contains attrTypid ||
    !(entity.k2pgType == .K2SQL_DATA_TYPE_BINARY || entity.k2pgType == .K2SQL_DATA_TYPE_STRING)

/-- `build_expr`: the pggate operator `column op constant`, the column named as the table
descriptor names it.  A clause it does not push down is `none`. -/
def buildExpr (columnName : Int → String) (oprCond : FDWOprCond) : Option PgExpr := do
  let oprName ← buildOprName (getOprrest oprCond.opno) oprCond.columnRefFirst
  let refType ← K2PgFindTypeEntity oprCond.ref.attrTypid
  guard (pushdownType oprCond.ref.attrTypid refType)
  let opcode ← kOperatorNames oprName
  let valType ← K2PgFindTypeEntity oprCond.val.atttypid
  some (.operator opcode
    [.colRef oprCond.ref.attrNum (columnName oprCond.ref.attrNum),
     .constant (SqlValue.ofDatum valType oprCond.val.value oprCond.val.isNull)])

def findOprCondition (oprConds : List FDWOprCond) (attrNum : Int) : List FDWOprCond :=
  oprConds.filter fun cond => cond.ref.attrNum = attrNum

def bindConditions (columnName : Int → String) (oprConds : List FDWOprCond)
    (attnums : List Int) : List PgExpr :=
  attnums.flatMap fun attnum =>
    (findOprCondition oprConds attnum).filterMap (buildExpr columnName)

/-- `K2BindScanKeys`: the range conditions (on the key attributes) and the where conditions
(on the others), each an `and` operator, or nothing when no clause parses. -/
def K2BindScanKeys (columnName : Int → String) (params : List ParamExternData)
    (remoteExprs : List PgNode) (keyAttnums nonKeyAttnums : List Int) :
    Except String (Option PgExpr × Option PgExpr) :=
  if remoteExprs.isEmpty then .ok (none, none)
  else do
    let oprConds ← parseConditions params remoteExprs
    if oprConds.isEmpty then .ok (none, none)
    else .ok (some (.operator .PG_EXPR_AND (bindConditions columnName oprConds keyAttnums)),
      some (.operator .PG_EXPR_AND (bindConditions columnName oprConds nonKeyAttnums)))

end ChogoriSql
