import Relational.Resolution
import Relational.Scalar.Call
import Relational.Scalar.Logic

/-!
# Evaluation of scalar expressions

An expression is evaluated in a scope, the labelled values of one row. Operands
are evaluated from left to right and the first failure is the outcome. Null
stands for an unknown value: arithmetic and comparison give null for it, and
the logical connectives follow three-valued logic.
-/

namespace Relational

def UnaryOp.apply (op : UnaryOp) (v : Value) : Except EvalError Value :=
  match op, v with
  | _, .null => .ok .null
  | not, .boolean b => .ok (.boolean !b)
  | minus, .number n => bounded (.unary minus) n.neg?
  | op, v => .error (.typeMismatch (.unary op) v.kind none)

namespace ArithmeticOp

def operation (op : ArithmeticOp) : Operation := .binary (.arithmetic op)

/-- The operation on two numbers. A zero divisor is reported before the range
of the result is looked at. -/
def compute (op : ArithmeticOp) (a b : Number) : Except EvalError Value :=
  match op with
  | add => bounded add.operation (a.add? b)
  | sub => bounded sub.operation (a.sub? b)
  | mul => bounded mul.operation (a.mul? b)
  | div => if b.toInt = 0 then .error .divisionByZero else bounded div.operation (a.div? b)

def apply (op : ArithmeticOp) (left right : Value) : Except EvalError Value :=
  match left, right with
  | .null, _ => .ok .null
  | _, .null => .ok .null
  | .number a, .number b => op.compute a b
  | a, b => .error (.typeMismatch op.operation a.kind (some b.kind))

end ArithmeticOp

def Value.compare? : Value → Value → Option Ordering
  | .boolean a, .boolean b => some (compare a b)
  | .number a, .number b => some (compare a.toInt b.toInt)
  | .text a, .text b => some (compare a b)
  | _, _ => none

def Value.compareFor (operation : Operation) (left right : Value) : Except EvalError Ordering :=
  match left.compare? right with
  | some order => .ok order
  | none => .error (.typeMismatch operation left.kind (some right.kind))

namespace ComparisonOp

def accepts : ComparisonOp → Ordering → Bool
  | eq, order => order.isEq
  | ne, order => order.isNe
  | lt, order => order.isLT
  | le, order => order.isLE
  | gt, order => order.isGT
  | ge, order => order.isGE

def apply (op : ComparisonOp) (left right : Value) : Except EvalError Value :=
  if left = .null ∨ right = .null then .ok .null
  else do
    let order ← left.compareFor (.binary (.comparison op)) right
    return .boolean (op.accepts order)

end ComparisonOp

namespace LogicalOp

def operation (op : LogicalOp) : Operation := .binary (.logical op)

def leftTruth (op : LogicalOp) (left : Value) : Except EvalError Truth :=
  match left.truth? with
  | some t => .ok t
  | none => .error (.typeMismatch op.operation left.kind none)

/-- The right operand as a truth value. Its mismatch names both operands. -/
def rightTruth (op : LogicalOp) (left right : Value) : Except EvalError Truth :=
  match right.truth? with
  | some t => .ok t
  | none => .error (.typeMismatch op.operation left.kind (some right.kind))

end LogicalOp

mutual

def Expr.eval (scope : Scope) : Expr → Except EvalError Value
  | .literal v => .ok v
  | .attr name => lookup name scope
  | .unary op operand => do op.apply (← operand.eval scope)
  | .binary (.arithmetic op) left right => do
    let a ← left.eval scope
    let b ← right.eval scope
    op.apply a b
  | .binary (.comparison op) left right => do
    let a ← left.eval scope
    let b ← right.eval scope
    op.apply a b
  | .binary (.logical op) left right => do
    let a ← left.eval scope
    let s ← op.leftTruth a
    if s = some op.dominant then
      return .boolean op.dominant
    else
      let b ← right.eval scope
      let t ← op.rightTruth a b
      return (op.combine s t).toValue
  | .call name args => do
    let f ← ScalarFunction.find name
    let vs ← Expr.evalAll scope args
    f.call vs
  | .named expr _ => expr.eval scope

def Expr.evalAll (scope : Scope) : List Expr → Except EvalError (List Value)
  | [] => .ok []
  | expr :: rest => do
    let v ← expr.eval scope
    let vs ← Expr.evalAll scope rest
    return v :: vs

end

/-- Whether a condition holds. Null counts as false. -/
def Expr.holds (scope : Scope) (condition : Expr) : Except EvalError Bool := do
  match ← condition.eval scope with
  | .boolean b => return b
  | .null => return false
  | v => throw (.typeMismatch .predicate v.kind none)

theorem Expr.evalAll_eq_mapM (scope : Scope) (exprs : List Expr) :
    Expr.evalAll scope exprs = exprs.mapM (Expr.eval scope) := by
  induction exprs with
  | nil => rfl
  | cons expr rest ih =>
    rw [Expr.evalAll, ih, List.mapM_cons]

end Relational
