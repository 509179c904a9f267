import Relational.Value

/-!
# Scalar expressions

Expressions over the values of one row. A binary operator belongs to one of
three families: arithmetic and comparison need both operands, and the logical
connectives may leave the right operand alone.
-/

namespace Relational

inductive UnaryOp
  | not
  | minus
deriving DecidableEq

def UnaryOp.symbol : UnaryOp → String
  | .not => "not"
  | .minus => "-"

inductive ArithmeticOp
  | add
  | sub
  | mul
  | div
deriving DecidableEq

def ArithmeticOp.symbol : ArithmeticOp → String
  | .add => "+"
  | .sub => "-"
  | .mul => "*"
  | .div => "/"

inductive ComparisonOp
  | eq
  | ne
  | lt
  | le
  | gt
  | ge
deriving DecidableEq

def ComparisonOp.symbol : ComparisonOp → String
  | .eq => "="
  | .ne => "!="
  | .lt => "<"
  | .le => "<="
  | .gt => ">"
  | .ge => ">="

inductive LogicalOp
  | and
  | or
deriving DecidableEq

def LogicalOp.symbol : LogicalOp → String
  | .and => "and"
  | .or => "or"

inductive BinaryOp
  | arithmetic (op : ArithmeticOp)
  | comparison (op : ComparisonOp)
  | logical (op : LogicalOp)
deriving DecidableEq

def BinaryOp.symbol : BinaryOp → String
  | .arithmetic op => op.symbol
  | .comparison op => op.symbol
  | .logical op => op.symbol

inductive Expr
  | literal (value : Value)
  | attr (name : String)
  | unary (op : UnaryOp) (operand : Expr)
  | binary (op : BinaryOp) (left right : Expr)
  | call (name : String) (args : List Expr)
  /-- An expression with an output name, which may be left out. -/
  | named (expr : Expr) (name : Option String)

namespace Expr

def null : Expr := .literal .null

def boolean (b : Bool) : Expr := .literal (.boolean b)

def number (n : Number) : Expr := .literal (.number n)

def text (s : String) : Expr := .literal (.text s)

def called (expr : Expr) (name : String) : Expr := .named expr (some name)

def not (operand : Expr) : Expr := .unary .not operand

def neg (operand : Expr) : Expr := .unary .minus operand

def and (left right : Expr) : Expr := .binary (.logical .and) left right

def or (left right : Expr) : Expr := .binary (.logical .or) left right

def eq (left right : Expr) : Expr := .binary (.comparison .eq) left right

def ne (left right : Expr) : Expr := .binary (.comparison .ne) left right

def lt (left right : Expr) : Expr := .binary (.comparison .lt) left right

def le (left right : Expr) : Expr := .binary (.comparison .le) left right

def gt (left right : Expr) : Expr := .binary (.comparison .gt) left right

def ge (left right : Expr) : Expr := .binary (.comparison .ge) left right

def add (left right : Expr) : Expr := .binary (.arithmetic .add) left right

def sub (left right : Expr) : Expr := .binary (.arithmetic .sub) left right

def mul (left right : Expr) : Expr := .binary (.arithmetic .mul) left right

def div (left right : Expr) : Expr := .binary (.arithmetic .div) left right

def unnamed : Expr → Expr
  | named expr _ => expr.unnamed
  | literal v => literal v
  | attr name => attr name
  | unary op operand => unary op operand
  | binary op left right => binary op left right
  | call name args => call name args

theorem unnamed_ne_named (expr inner : Expr) (name : Option String) :
    expr.unnamed ≠ named inner name :=
  match expr with
  | named expr _ => unnamed_ne_named expr inner name
  | literal _ => nofun
  | attr _ => nofun
  | unary .. => nofun
  | binary .. => nofun
  | call .. => nofun

/-- The name of the column that an expression makes: its outermost given name, or
the name of a bare attribute as written. -/
def outputName : Expr → Option String
  | named _ (some name) => some name
  | named expr none => expr.outputName
  | attr name => some name
  | literal _ => none
  | unary .. => none
  | binary .. => none
  | call .. => none

end Expr

end Relational
