import Relational.Scalar.Expr

/-!
# Three-valued logic

A truth value is true, false or unknown. Each connective has a dominant truth
value, which decides the result whatever the other operand is.
-/

namespace Relational

/-- A truth value; `none` is unknown. -/
abbrev Truth := Option Bool

def Truth.toValue : Truth → Value
  | some b => .boolean b
  | none => .null

def Value.truth? : Value → Option Truth
  | .null => some none
  | .boolean b => some (some b)
  | .number _ => none
  | .text _ => none

theorem Value.truth?_eq_some_iff {v : Value} {t : Truth} : v.truth? = some t ↔ v = t.toValue := by
  cases v <;> cases t <;> simp [Value.truth?, Truth.toValue]

namespace LogicalOp

/-- The truth value that decides the result by itself. -/
def dominant : LogicalOp → Bool
  | and => false
  | or => true

def combine (op : LogicalOp) (left right : Truth) : Truth :=
  if left = some op.dominant ∨ right = some op.dominant then some op.dominant
  else if left = none ∨ right = none then none
  else some !op.dominant

theorem combine_comm (op : LogicalOp) (left right : Truth) :
    op.combine left right = op.combine right left := by
  simp only [combine, or_comm]

end LogicalOp

end Relational
