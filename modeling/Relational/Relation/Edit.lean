import Relational.Relation

/-!
# Editing in place

The operations that change a relation value, as programs on the value. What a
program has written stays written when a later check refuses the edit, so a check
has to come before all writing, or be one that cannot fail after it. The programs
see to that: an edit either gives the edited value or leaves the old one
(`Edit.run_eq`).
-/

namespace Relational.Relation

abbrev Program := ExceptT EvalError (StateM Relation) Unit

namespace Program

def run (p : Program) (r : Relation) : Except EvalError Unit × Relation :=
  StateT.run (ExceptT.run p) r

theorem run_get_bind (p : Relation → Program) (r : Relation) : run (get >>= p) r = run (p r) r :=
  rfl

theorem run_modify_bind (change : Relation → Relation) (p : Unit → Program) (r : Relation) :
    run (modify change >>= p) r = run (p ()) (change r) := rfl

/-- An open arity is settled first, and then the row is compared with it. -/
def addRow (t : Row) : Program := do
  if !(← get).arityEstablished then
    modify fun r => { r with attributes := List.replicate t.length none }
  let r ← get
  if t.length ≠ r.arity then
    throw (.arityMismatch .row r.arity t.length)
  set { r with rows := r.rows.insert t }

def setAttributes (attributes : List Attribute) : Program := do
  let r ← get
  if r.arityEstablished ∧ attributes.length ≠ r.arity then
    throw (.arityMismatch .naming r.arity attributes.length)
  if let .error e := checkDistinct attributes then
    throw e
  set { r with attributes }

end Program

inductive Edit
  | addRow (t : Row)
  | setAttributes (attributes : List Attribute)
  | setNames (names : List String)

namespace Edit

def program : Edit → Program
  | addRow t => .addRow t
  | setAttributes attributes => .setAttributes attributes
  | setNames names => .setAttributes (names.map some)

def run (edit : Edit) (r : Relation) : Except EvalError Unit × Relation := edit.program.run r

/-- The value that edits leave, one after the other, refused ones included. -/
def runAll (edits : List Edit) (r : Relation) : Relation :=
  edits.foldl (fun r edit => (edit.run r).2) r

def outcome (r : Relation) : Edit → Except EvalError Relation
  | addRow t => r.addRow t
  | setAttributes attributes => r.setAttributes attributes
  | setNames names => r.setNames names

end Edit

def replacing (old : Relation) : Except EvalError Relation → Except EvalError Unit × Relation
  | .ok new => (.ok (), new)
  | .error e => (.error e, old)

theorem Program.run_addRow (t : Row) (r : Relation) :
    (addRow t).run r = r.replacing (r.addRow t) := by
  rw [addRow, run_get_bind, Relation.addRow]
  cases he : r.arityEstablished with
  | false =>
    -- The comparison is with the arity that has just been written.
    have hl : ¬ t.length ≠ arity { r with attributes := List.replicate t.length none } := by
      simp [arity]
    rw [Bool.not_false, if_pos rfl, if_pos rfl, run_modify_bind, run_get_bind, if_neg hl]
    rfl
  | true =>
    rw [Bool.not_true, if_neg Bool.false_ne_true, if_neg Bool.false_ne_true, run_get_bind]
    by_cases hl : t.length ≠ r.arity
    · rw [if_pos hl, if_pos hl]
      rfl
    · rw [if_neg hl, if_neg hl]
      rfl

theorem Program.run_setAttributes (attributes : List Attribute) (r : Relation) :
    (setAttributes attributes).run r = r.replacing (r.setAttributes attributes) := by
  rw [setAttributes, run_get_bind, Relation.setAttributes]
  by_cases hl : r.arityEstablished ∧ attributes.length ≠ r.arity
  · rw [if_pos hl, if_pos hl]
    rfl
  · rw [if_neg hl, if_neg hl]
    cases hd : checkDistinct attributes with
    | error e => rfl
    | ok _ => rfl

theorem Edit.run_eq (edit : Edit) (r : Relation) : edit.run r = r.replacing (edit.outcome r) := by
  cases edit with
  | addRow t => exact Program.run_addRow t r
  | setAttributes attributes => exact Program.run_setAttributes attributes r
  | setNames names => exact Program.run_setAttributes (names.map some) r

end Relational.Relation
