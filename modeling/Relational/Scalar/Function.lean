/-!
# The scalar functions

Names and arities of the functions that an expression can call. A name is
found in any mixture of cases of the letters A to Z.
-/

namespace Relational

inductive ScalarFunction
  | abs
  | length
  | lower
  | upper
  | mod
deriving DecidableEq

namespace ScalarFunction

def name : ScalarFunction → String
  | abs => "abs"
  | length => "length"
  | lower => "lower"
  | upper => "upper"
  | mod => "mod"

def arity : ScalarFunction → Nat
  | mod => 2
  | _ => 1

def all : List ScalarFunction := [abs, length, lower, upper, mod]

def find? (name : String) : Option ScalarFunction :=
  all.find? fun f => f.name == name.toLower

end ScalarFunction

end Relational
