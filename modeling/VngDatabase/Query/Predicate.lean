import VngDatabase.Sql.Extract

/-!
# Conditions on rows

The evaluator for `WHERE` clauses of `crates/voltnuerongrid-exec-datafusion/src/lib.rs`. The
constructors of `Expr` are the ones it looks at, and all others are one, `Expr.other`.
-/

namespace VngDatabase.Query

open Text

class F64 where
  Number : Type
  parse : String → Option Number
  ofInt : ℤ → Number
  partialCmp : Number → Number → Option Ordering
  neg : Number → Number
  isZero : Number → Bool
  toText : Number → String
  isSome_parse : ∀ s, (parse s).isSome = Sql.parsesAsF64 s.toList

def parseI64 (s : String) : Option ℤ :=
  let (negative, digits) := match s.toList with
    | '-' :: ds => (true, ds)
    | '+' :: ds => (false, ds)
    | ds => (false, ds)
  if digits ≠ [] ∧ digits.all Char.isDigit then
    let n : ℕ := digits.foldl (fun n c => 10 * n + (c.toNat - '0'.toNat)) 0
    let i : ℤ := if negative then -n else n
    if -2 ^ 63 ≤ i ∧ i < 2 ^ 63 then some i else none
  else none

variable [F64]

inductive Val
  | int (i : ℤ)
  | float (x : F64.Number)
  | text (s : String)
  | bool (b : Bool)
  | null

def parseStrToValue (s : String) : Val :=
  if s = "" then .text ""
  else match parseI64 s with
    | some i => .int i
    | none => match F64.parse s with
      | some x => .float x
      | none =>
        if eqIgnoreAsciiCase s "true" then .bool true
        else if eqIgnoreAsciiCase s "false" then .bool false
        else .text s

def valueTruthy : Val → Bool
  | .bool b => b
  | .int i => i ≠ 0
  | .float x => !F64.isZero x
  | .text s => s ≠ ""
  | .null => false

def valueToString : Val → String
  | .int i => toString i
  | .float x => F64.toText x
  | .text s => s
  | .bool b => toString b
  | .null => ""

inductive BinaryOperator
  | and
  | or
  | eq
  | notEq
  | lt
  | ltEq
  | gt
  | gtEq
  | other (name : String)
  deriving DecidableEq

inductive UnaryOperator
  | not
  | minus
  | plus
  | other

inductive Literal
  | number (n : String)
  | text (s : String)
  | boolean (b : Bool)
  | null

inductive Expr
  | binaryOp (left : Expr) (op : BinaryOperator) (right : Expr)
  | unaryOp (op : UnaryOperator) (expr : Expr)
  | isNull (expr : Expr)
  | isNotNull (expr : Expr)
  | between (negated : Bool) (expr low high : Expr)
  | inList (negated : Bool) (expr : Expr) (list : List Expr)
  | like (negated : Bool) (expr pattern : Expr)
  | nested (expr : Expr)
  | identifier (name : String)
  | compoundIdentifier (parts : List String)
  | value (v : Literal)
  | other

inductive ExecError
  | unsupported (what : String)
  | badPredicate (why : String)
  | notASelect
  deriving DecidableEq

structure RowEnv where
  rowKey : String
  rowData : RowData

def colValue (env : RowEnv) (name : String) : Val :=
  if name = "_key" then .text env.rowKey
  else match env.rowData.lookup name with
    | none => .null
    | some s => parseStrToValue s

def literalValue : Literal → Val
  | .number n =>
    match parseI64 n with
    | some i => .int i
    | none => match F64.parse n with
      | some x => .float x
      | none => .text n
  | .text s => .text s
  | .boolean b => .bool b
  | .null => .null

/-- What has no value here is `NULL`. -/
def evalValue (env : RowEnv) : Expr → Val
  | .identifier name => colValue env name
  | .compoundIdentifier parts => colValue env (parts.getLast?.getD "")
  | .value v => literalValue v
  | .nested e => evalValue env e
  | .unaryOp .minus e =>
    match evalValue env e with
    | .int i => .int (Int.bmod (-i) (2 ^ 64))
    | .float x => .float (F64.neg x)
    | _ => .null
  | .unaryOp .plus e => evalValue env e
  | _ => .null

def orderValues : Val → Val → Ordering
  | .int x, .int y => compare x y
  | .float x, .float y => (F64.partialCmp x y).getD .eq
  | .int x, .float y => (F64.partialCmp (F64.ofInt x) y).getD .eq
  | .float x, .int y => (F64.partialCmp x (F64.ofInt y)).getD .eq
  | .text x, .text y => compare x y
  | .bool x, .bool y => compare x y
  | a, b => compare (valueToString a) (valueToString b)

def compareValues (a : Val) (op : BinaryOperator) (b : Val) : Bool :=
  match a, b with
  | .null, _ | _, .null => false
  | a, b =>
    match op with
    | .eq => orderValues a b = .eq
    | .notEq => orderValues a b ≠ .eq
    | .lt => orderValues a b = .lt
    | .ltEq => orderValues a b ≠ .gt
    | .gt => orderValues a b = .gt
    | .gtEq => orderValues a b ≠ .lt
    | _ => false

def globLikeChars : (pattern text : List Char) → Bool
  | [], text => text = []
  | '%' :: pattern, text =>
    (List.range (text.length + 1)).any fun skip => globLikeChars pattern (text.drop skip)
  | '_' :: _, [] => false
  | '_' :: pattern, _ :: text => globLikeChars pattern text
  | _ :: _, [] => false
  | c :: pattern, d :: text => d = c && globLikeChars pattern text

def likeMatch (value pattern : Val) : Bool :=
  globLikeChars (valueToString pattern).toList (valueToString value).toList

def evalPredicate (env : RowEnv) : Expr → Except ExecError Bool
  | .binaryOp left .and right => do
    if ← evalPredicate env left then evalPredicate env right else pure false
  | .binaryOp left .or right => do
    if ← evalPredicate env left then pure true else evalPredicate env right
  | .binaryOp _ (.other name) _ => .error (.unsupported ("binary op " ++ name))
  | .binaryOp left op right => pure (compareValues (evalValue env left) op (evalValue env right))
  | .unaryOp .not e => do return !(← evalPredicate env e)
  | .isNull e => pure (evalValue env e matches .null)
  | .isNotNull e => pure !(evalValue env e matches .null)
  | .between negated e low high =>
    let v := evalValue env e
    let inside := compareValues v .gtEq (evalValue env low) &&
      compareValues v .ltEq (evalValue env high)
    pure (if negated then !inside else inside)
  | .inList negated e list =>
    let v := evalValue env e
    let anyEq := list.any fun item => compareValues v .eq (evalValue env item)
    pure (if negated then !anyEq else anyEq)
  | .like negated e pattern =>
    let matched := likeMatch (evalValue env e) (evalValue env pattern)
    pure (if negated then !matched else matched)
  | .nested e => evalPredicate env e
  | e => pure (valueTruthy (evalValue env e))

namespace Sample

scoped instance : F64 where
  Number := String
  parse s := if Sql.parsesAsF64 s.toList then some s else none
  ofInt := toString
  partialCmp x y := some (compare x y)
  neg x := "-" ++ x
  isZero x := x = "0"
  toText := id
  isSome_parse s := by split_ifs <;> simp_all

end Sample

end VngDatabase.Query
