import Relational.Aggregate.Function
import Relational.Attribute
import Relational.Query.Operator
import Relational.Scalar.Expr
import Relational.Scalar.Function

/-!
# Evaluation errors

An error is the cause of a failure; `EvalError.message` has the wording of all
of them, and `EvalError.kind` their categories.
-/

namespace Relational

inductive Operation
  | unary (op : UnaryOp)
  | binary (op : BinaryOp)
  | function (f : ScalarFunction)
  | aggregate (f : AggregateFunction)
  /-- The use of a value as a condition. -/
  | predicate
deriving DecidableEq

def Operation.name : Operation → String
  | .unary op => op.symbol
  | .binary op => op.symbol
  | .function f => f.name
  | .aggregate f => f.name
  | .predicate => "predicate"

inductive ArityContext
  | naming
  | row
  | setOp (op : SetOp)
  | call (f : ScalarFunction)
  | aggregate (f : AggregateFunction)
  | assignment (relvar : String)
deriving DecidableEq

def ArityContext.text : ArityContext → String
  | .naming => "attribute naming"
  | .row => "row"
  | .setOp op => op.name
  | .call f => "call to " ++ f.name
  | .aggregate f => "call to " ++ f.name
  | .assignment relvar => "assignment to " ++ relvar

inductive NamingContext
  | qualification (relvar : String)
  | storage (relvar : String)
  | assignment (relvar : String)
  | projection
  | grouping
  | aggregate (f : AggregateFunction)
deriving DecidableEq

def NamingContext.text : NamingContext → String
  | .qualification relvar => "cannot qualify attributes under " ++ relvar
  | .storage relvar => "cannot store " ++ relvar
  | .assignment relvar => "assignment to " ++ relvar ++ " needs attribute names"
  | .projection => "projected expression has no name"
  | .grouping => "grouping expression has no name"
  | .aggregate f => f.name ++ " over an expression needs an alias"

inductive EvalError
  | arityMismatch (context : ArityContext) (expected actual : Nat)
  | duplicateAttribute (name : String)
  | unnamedAttribute (context : NamingContext)
  | unknownAttribute (name : String)
  | ambiguousAttribute (name : String)
  | unknownRelvar (name : String)
  | unknownSchema (name : String)
  | unknownFunction (name : String)
  | notAnAggregate
  /-- The right kind is left out where one operand is to blame. -/
  | typeMismatch (operation : Operation) (left : Kind) (right : Option Kind)
  | divisionByZero
  | divisorMismatch (divisor : Attribute)
  | numericOverflow (operation : Operation)
  | rowLimitExceeded (operator : Operator) (limit : Nat)
deriving DecidableEq

inductive ErrorKind
  | arityMismatch
  | duplicateAttribute
  | unnamedAttribute
  | unknownAttribute
  | ambiguousAttribute
  | unknownRelvar
  | unknownSchema
  | unknownFunction
  | typeMismatch
  | divisionByZero
  | divisorMismatch
  | numericOverflow
  | rowLimitExceeded
deriving DecidableEq

namespace EvalError

def kind : EvalError → ErrorKind
  | arityMismatch .. => .arityMismatch
  | duplicateAttribute _ => .duplicateAttribute
  | unnamedAttribute _ => .unnamedAttribute
  | unknownAttribute _ => .unknownAttribute
  | ambiguousAttribute _ => .ambiguousAttribute
  | unknownRelvar _ => .unknownRelvar
  | unknownSchema _ => .unknownSchema
  | unknownFunction _ => .unknownFunction
  | notAnAggregate => .unknownFunction
  | typeMismatch .. => .typeMismatch
  | divisionByZero => .divisionByZero
  | divisorMismatch _ => .divisorMismatch
  | numericOverflow _ => .numericOverflow
  | rowLimitExceeded .. => .rowLimitExceeded

def message : EvalError → String
  | arityMismatch context expected actual =>
    s!"Arity mismatch in {context.text}: expected {expected} attributes, got {actual}"
  | duplicateAttribute name => s!"Attribute name \"{name}\" appears more than once"
  | unnamedAttribute context => s!"Relation-value has unnamed attributes: {context.text}"
  | unknownAttribute name => s!"No attribute with name {name}"
  | ambiguousAttribute name => s!"Attribute name {name} is ambiguous"
  | unknownRelvar name => s!"Unknown relation variable: {name}"
  | unknownSchema name => s!"Unknown schema: {name}"
  | unknownFunction name => s!"Unknown function: {name}"
  | notAnAggregate => "Unknown function: non-aggregate expression"
  | typeMismatch operation left right =>
    let other := (right.map Kind.name).getD "-"
    s!"Type mismatch for {operation.name}: left={left.name}, right={other}"
  | divisionByZero => "Division by zero"
  | divisorMismatch divisor =>
    let name := divisor.getD "unnamed"
    s!"Divisor attribute {name} has no unique counterpart in the dividend"
  | numericOverflow operation => s!"Numeric overflow in {operation.name}"
  | rowLimitExceeded operator limit =>
    s!"Result of {operator.name} exceeds the limit of {limit} rows"

end EvalError

end Relational
