import Relational.Relation
import Relational.Scalar.Eval

/-!
# Selection and projection

Both take the rows one at a time in storage order, and the first row that
fails decides the error.
-/

namespace Relational

section

variable {ε α : Type}

def keepM (test : α → Except ε Bool) : List α → Except ε (List α)
  | [] => .ok []
  | a :: l => do
    let pass ← test a
    let kept ← keepM test l
    return if pass then a :: kept else kept

def passes (test : α → Except ε Bool) (a : α) : Bool :=
  match test a with
  | .ok pass => pass
  | .error _ => false

theorem passes_eq_true_iff {test : α → Except ε Bool} {a : α} :
    passes test a = true ↔ test a = .ok true := by
  unfold passes
  split <;> simp_all

theorem keepM_eq_ok_iff {test : α → Except ε Bool} {l kept : List α} :
    keepM test l = .ok kept ↔
      (∀ a ∈ l, test a = .ok (passes test a)) ∧ kept = l.filter (passes test) := by
  induction l generalizing kept with
  | nil => simp [keepM, eq_comm]
  | cons a l ih =>
    rw [keepM, List.forall_mem_cons, List.filter_cons]
    cases ha : test a with
    | error e => simp [bind, Except.bind]
    | ok pass =>
      have hp : passes test a = pass := by rw [passes, ha]
      rw [hp]
      cases hl : keepM test l with
      | error e =>
        have : ¬ ∀ a ∈ l, test a = .ok (passes test a) := fun h => by
          have := ih.2 ⟨h, rfl⟩
          simp [hl] at this
        simp [bind, Except.bind, this]
      | ok rest =>
        obtain ⟨h, rfl⟩ := ih.1 hl
        simpa [bind, Except.bind, pure, Except.pure, eq_comm] using fun _ => h

end

namespace Relation

def select (r : Relation) (condition : Expr) : Except EvalError Relation := do
  let rows ← keepM (fun t => condition.holds (r.scope t)) r.rows.toList
  return ⟨r.attributes, .ofList rows⟩

def columnNames (context : NamingContext) (exprs : List Expr) :
    Except EvalError (List Attribute) :=
  exprs.mapM fun expr =>
    match expr.outputName with
    | some name => .ok (some name)
    | none => .error (.unnamedAttribute context)

/-- The values of a list of expressions on every row. The names come first: if
they are refused, no row is looked at. -/
def project (r : Relation) (items : List Expr) : Except EvalError Relation := do
  let attributes ← columnNames .projection items
  checkDistinct attributes
  let rows ← r.rows.toList.mapM fun t => Expr.evalAll (r.scope t) items
  return ⟨attributes, .ofList rows⟩

end Relation

end Relational
