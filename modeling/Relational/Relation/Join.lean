import Relational.Relation.Rowwise

/-!
# Products and joins

A join goes through the rows of the left operand and, for each of them, through all rows of the
right one, in storage order, and keeps the pairs that meet its condition. On the way it keeps
track of the rows without a partner. When the loops are done, an outer join adds those of its
kept sides, with nulls for the other side.
-/

namespace Relational.Relation

/-- All pairs of a left and a right row, the left row changing last. -/
def pairs (left right : Relation) : List (Row × Row) :=
  left.rows.toList.flatMap fun l => right.rows.toList.map fun r => (l, r)

theorem mem_pairs {left right : Relation} {pair : Row × Row} :
    pair ∈ pairs left right ↔ pair.1 ∈ left.rows ∧ pair.2 ∈ right.rows := by
  obtain ⟨l, r⟩ := pair
  simp [pairs, RowSet.mem_toList]

def meets (left right : Relation) (condition : Option Expr) (pair : Row × Row) :
    Except EvalError Bool :=
  match condition with
  | some expr => expr.holds ((left.attributes ++ right.attributes).zip (pair.1 ++ pair.2))
  | none => .ok true

structure Trackers where
  rows : RowSet
  leftUnmatched : List Row
  /-- One bit for each position of a right row. -/
  rightMatched : List Bool

namespace Trackers

def start (right : Relation) : Trackers := ⟨.empty, [], List.replicate right.size false⟩

/-- A row that is put together of a left row and the right row at a position. -/
def pair (t : Row) (i : Nat) (trackers : Trackers) : Trackers :=
  { trackers with rows := trackers.rows.insert t, rightMatched := trackers.rightMatched.set i true }

def leave (l : Row) (trackers : Trackers) : Trackers :=
  { trackers with leftUnmatched := trackers.leftUnmatched ++ [l] }

/-- The right rows whose bit is not set. -/
def rightUnmatched (right : Relation) (trackers : Trackers) : List Row :=
  ((right.rows.toList.zip trackers.rightMatched).filter fun entry => !entry.2).map Prod.fst

def toRows (kind : JoinKind) (left right : Relation) (trackers : Trackers) : RowSet :=
  let onlyLeft :=
    if kind.keepsLeft then trackers.leftUnmatched.map (· ++ Row.nulls right.arity) else []
  let onlyRight :=
    if kind.keepsRight then (trackers.rightUnmatched right).map (Row.nulls left.arity ++ ·) else []
  (trackers.rows.insertAll onlyLeft).insertAll onlyRight

end Trackers

section

variable (left right : Relation) (condition : Option Expr)

/-- The inner loop on one right row. The flag says if the left row has had a partner. -/
def joinPair (l : Row) (state : Bool × Trackers) (entry : Row × Nat) :
    Except EvalError (Bool × Trackers) := do
  if ← meets left right condition (l, entry.1) then
    return (true, state.2.pair (l ++ entry.1) entry.2)
  else
    return state

def joinRow (trackers : Trackers) (l : Row) : Except EvalError Trackers := do
  let (found, trackers) ←
    right.rows.toList.zipIdx.foldlM (joinPair left right condition l) (false, trackers)
  return if found then trackers else trackers.leave l

def joinRows : Except EvalError Trackers :=
  left.rows.toList.foldlM (joinRow left right condition) (.start right)

end

def join (kind : JoinKind) (condition : Option Expr) (left right : Relation) :
    Except EvalError Relation := do
  let trackers ← joinRows left right condition
  return ⟨left.attributes ++ right.attributes, trackers.toRows kind left right⟩

def cross (left right : Relation) : Except EvalError Relation := join .inner none left right

end Relational.Relation
