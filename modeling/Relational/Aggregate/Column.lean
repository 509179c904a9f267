import Relational.Scalar.Eval

/-!
# Aggregate columns

A column of a grouping is a call of an aggregate function, as `sum(x)` or
`count()`. An aggregate without an argument counts rows.
-/

namespace Relational

/-- An aggregate column. Without an argument the rows themselves are counted. -/
structure AggregateColumn where
  function : AggregateFunction
  argument : Option Expr
  name : String

namespace AggregateColumn

def argumentOf (function : AggregateFunction) (args : List Expr) :
    Except EvalError (Option Expr) :=
  match function, args with
  | .count, [] => .ok none
  | _, [arg] => .ok (some arg)
  | function, args => .error (.arityMismatch (.aggregate function) 1 args.length)

def defaultName (function : AggregateFunction) (argument : Option Expr) :
    Except EvalError String :=
  match argument.map Expr.unnamed with
  | none => .ok (function.name ++ "(*)")
  | some (.attr name) => .ok (function.name ++ "(" ++ localName name ++ ")")
  | some _ => .error (.unnamedAttribute (.aggregate function))

/-- The column that an expression such as `sum(x)` describes. A name is taken
from the outermost level of the expression only. -/
def ofExpr (expr : Expr) : Except EvalError AggregateColumn :=
  match expr.unnamed with
  | .call functionName args =>
    match AggregateFunction.find? functionName with
    | none => .error (.unknownFunction functionName)
    | some function => do
      let argument ← argumentOf function args
      let name ←
        match expr with
        | .named _ (some name) => .ok name
        | _ => defaultName function argument
      return ⟨function, argument, name⟩
  | _ => .error .notAnAggregate

/-- The value that a row contributes. A row that is counted as such contributes
a value that is not null. -/
def contribution (column : AggregateColumn) (scope : Scope) : Except EvalError Value :=
  match column.argument with
  | some expr => expr.eval scope
  | none => .ok (.boolean true)

end AggregateColumn

end Relational
