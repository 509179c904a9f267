import Relational.Relation

/-!
# Set operations

Union, intersection and difference of relations with equally many attributes.
The result has the attributes of the left operand.
-/

namespace Relational

def SetOp.rows : SetOp → RowSet → RowSet → RowSet
  | .union, s, s' => s.union s'
  | .intersect, s, s' => s.inter s'
  | .difference, s, s' => s.diff s'

theorem SetOp.mem_rows_iff {op : SetOp} {s s' : RowSet} {t : Row} :
    t ∈ op.rows s s' ↔
      match op with
      | union => t ∈ s ∨ t ∈ s'
      | intersect => t ∈ s ∧ t ∈ s'
      | difference => t ∈ s ∧ t ∉ s' := by
  cases op with
  | union => exact RowSet.mem_union
  | intersect => exact RowSet.mem_inter
  | difference => exact RowSet.mem_diff

theorem SetOp.mem_of_mem_rows {op : SetOp} {left right : RowSet} {t : Row}
    (h : t ∈ op.rows left right) : t ∈ left ∨ t ∈ right := by
  rw [mem_rows_iff] at h
  cases op with
  | union => exact h
  | intersect => exact .inl h.1
  | difference => exact .inl h.1

namespace Relation

def combine (op : SetOp) (left right : Relation) : Except EvalError Relation :=
  if left.arity ≠ right.arity then .error (.arityMismatch (.setOp op) left.arity right.arity)
  else .ok ⟨left.attributes, op.rows left.rows right.rows⟩

variable {left right : Relation}

theorem combine_of_arity_eq (op : SetOp) (h : left.arity = right.arity) :
    left.combine op right = .ok ⟨left.attributes, op.rows left.rows right.rows⟩ :=
  if_neg fun hn => hn h

theorem combine_of_arity_ne (op : SetOp) (h : left.arity ≠ right.arity) :
    left.combine op right = .error (.arityMismatch (.setOp op) left.arity right.arity) := if_pos h

end Relation

end Relational
