import Relational.Query.Operator

/-!
# Schema expressions

A schema is a named list of attribute names, and schema expressions combine
schemas. Their value is a list without repetitions that keeps the order of its
left operand.
-/

namespace Relational

inductive SchemaExpr
  | name (name : String)
  | setOp (op : SetOp) (left right : SchemaExpr)
  | parens (inner : SchemaExpr)
deriving DecidableEq

def distinct : List String → List String
  | [] => []
  | name :: names => name :: (distinct names).filter (· ≠ name)

theorem mem_distinct {names : List String} {name : String} :
    name ∈ distinct names ↔ name ∈ names := by
  induction names with
  | nil => simp [distinct]
  | cons first names ih =>
    by_cases h : name = first <;> simp [distinct, ih, h]

theorem nodup_distinct (names : List String) : (distinct names).Nodup := by
  induction names with
  | nil => exact .nil
  | cons first names ih =>
    refine List.nodup_cons.2 ⟨fun h => ?_, ih.filter _⟩
    simpa using (List.mem_filter.1 h).2

theorem distinct_eq_self {names : List String} (h : names.Nodup) : distinct names = names := by
  induction names with
  | nil => rfl
  | cons first names ih =>
    rw [List.nodup_cons] at h
    rw [distinct, ih h.2, List.filter_eq_self.2]
    exact fun name hn => decide_eq_true fun he => h.1 (he ▸ hn)

/-- The set operations on lists without repetitions. -/
def SetOp.names (op : SetOp) (left right : List String) : List String :=
  match op with
  | .union => distinct (left ++ right)
  | .intersect => left.filter (right.contains ·)
  | .difference => left.filter (!right.contains ·)

end Relational
