/-!
# The relational operators

The operators as messages name them.
-/

namespace Relational

inductive SetOp
  | union
  | intersect
  | difference
deriving DecidableEq

def SetOp.name : SetOp → String
  | .union => "union"
  | .intersect => "intersect"
  | .difference => "difference"

inductive JoinKind
  | inner
  | leftOuter
  | rightOuter
  | fullOuter
deriving DecidableEq

namespace JoinKind

def name : JoinKind → String
  | inner => "inner join"
  | leftOuter => "left outer join"
  | rightOuter => "right outer join"
  | fullOuter => "full outer join"

def keepsLeft : JoinKind → Bool
  | leftOuter | fullOuter => true
  | inner | rightOuter => false

def keepsRight : JoinKind → Bool
  | rightOuter | fullOuter => true
  | inner | leftOuter => false

end JoinKind

inductive Operator
  | relvar
  | constant
  | rename
  | project
  | select
  | cross
  | setOp (op : SetOp)
  | join (kind : JoinKind)
  | divide
  | group
  | parens
deriving DecidableEq

def Operator.name : Operator → String
  | .relvar => "relation variable"
  | .constant => "constant relation"
  | .rename => "rename"
  | .project => "projection"
  | .select => "selection"
  | .cross => "cross product"
  | .setOp op => op.name
  | .join kind => kind.name
  | .divide => "division"
  | .group => "group/aggregate"
  | .parens => "parentheses"

end Relational
