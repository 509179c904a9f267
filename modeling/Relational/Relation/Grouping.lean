import Relational.Aggregate.Accumulator
import Relational.Aggregate.Column
import Relational.Relation.Rowwise

/-!
# Grouping

Rows with equal values of the grouping expressions form a group, and each group
makes one row: those values and then one result for each aggregate. Rows are
taken in storage order, and the first failure decides the error.
-/

namespace Relational

/-- The groups so far, each with its key and an accumulator for each column. -/
abbrev Groups := List (Row × List Accumulator)

namespace Groups

def updateAll (scope : Scope) :
    List AggregateColumn → List Accumulator → Except EvalError (List Accumulator)
  | column :: columns, acc :: accs => do
    let v ← column.contribution scope
    let acc ← acc.update v
    let accs ← updateAll scope columns accs
    return acc :: accs
  | _, _ => .ok []

def start (columns : List AggregateColumn) : List Accumulator :=
  columns.map fun column => .start column.function

def insertRow (columns : List AggregateColumn) (key : Row) (scope : Scope) :
    Groups → Except EvalError Groups
  | [] => do return [(key, ← updateAll scope columns (start columns))]
  | (k, accs) :: groups =>
    if k = key then do return (k, ← updateAll scope columns accs) :: groups
    else do return (k, accs) :: (← insertRow columns key scope groups)

def toRows (groups : Groups) : List Row :=
  groups.map fun group => group.1 ++ group.2.map Accumulator.result

end Groups

namespace Relation

def groupRow (r : Relation) (keys : List Expr) (columns : List AggregateColumn) (groups : Groups)
    (t : Row) : Except EvalError Groups := do
  let key ← Expr.evalAll (r.scope t) keys
  Groups.insertRow columns key (r.scope t) groups

/-- One row for each group. Without grouping expressions all rows are one
group, even if there are none. -/
def group (r : Relation) (keys : List Expr) (columns : List AggregateColumn) :
    Except EvalError Relation := do
  let keyNames ← columnNames .grouping keys
  let attributes := keyNames ++ columns.map fun column => some column.name
  checkDistinct attributes
  let groups ← r.rows.toList.foldlM (groupRow r keys columns) []
  let groups := if groups.isEmpty && keys.isEmpty then [([], Groups.start columns)] else groups
  return ⟨attributes, .ofList (Groups.toRows groups)⟩

end Relation

end Relational
