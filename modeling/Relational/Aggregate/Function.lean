/-!
# The aggregate functions

Names of the functions that make one value of many. A name is found in any
mixture of cases of the letters A to Z.
-/

namespace Relational

inductive AggregateFunction
  | count
  | sum
  | avg
  | min
  | max
deriving DecidableEq

namespace AggregateFunction

def name : AggregateFunction → String
  | count => "count"
  | sum => "sum"
  | avg => "avg"
  | min => "min"
  | max => "max"

def all : List AggregateFunction := [count, sum, avg, min, max]

def find? (name : String) : Option AggregateFunction :=
  all.find? fun f => f.name == name.toLower

theorem find?_name (f : AggregateFunction) : find? f.name = some f := by
  cases f <;> decide +kernel

end AggregateFunction

end Relational
