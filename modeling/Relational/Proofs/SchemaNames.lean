import Mathlib.Data.Set.Basic
import Relational.Proofs.Outcome

/-!
# The names of schema expressions

A schema expression stands for a set of names (`SchemaExpr.toSet`), and its value lists them,
each once, in the order of the left operand first. It has a value unless it names a schema that
is not declared. Since the order is fixed, laws of sets that keep it are laws of lists: a union
is its left operand followed by a difference, and a projection cannot tell them apart
(`names_of_schemaExpr`).
-/

namespace Relational

-- ---------------------------------------------------------------------------
-- Set operations on lists
-- ---------------------------------------------------------------------------

section

variable {l l' : List String}

theorem distinct_append (l l' : List String) :
    distinct (l ++ l') = distinct l ++ (distinct l').filter (· ∉ l) := by
  induction l with
  | nil => exact (List.filter_eq_self.2 (by simp)).symm
  | cons first l ih =>
    simp only [List.cons_append, distinct, ih, List.filter_append, List.filter_filter]
    congr 2
    refine List.filter_congr fun name _ => ?_
    simp

theorem distinct_distinct_append (l l' : List String) :
    distinct (distinct l ++ l') = distinct (l ++ l') := by
  simp only [distinct_append, distinct_eq_self (nodup_distinct l), mem_distinct]

theorem distinct_append_distinct (l l' : List String) :
    distinct (l ++ distinct l') = distinct (l ++ l') := by
  rw [distinct_append, distinct_append, distinct_eq_self (nodup_distinct l')]

namespace SetOp

theorem mem_names_iff {op : SetOp} {name : String} :
    name ∈ op.names l l' ↔
      match op with
      | union => name ∈ l ∨ name ∈ l'
      | intersect => name ∈ l ∧ name ∈ l'
      | difference => name ∈ l ∧ name ∉ l' := by
  cases op <;> simp [names, mem_distinct]

theorem nodup_names (op : SetOp) (h : l.Nodup) : (op.names l l').Nodup := by
  cases op with
  | union => exact nodup_distinct _
  | intersect => exact h.filter _
  | difference => exact h.filter _

theorem sublist_names {op : SetOp} (h : op ≠ union) : (op.names l l').Sublist l := by
  cases op with
  | union => exact absurd rfl h
  | intersect => exact List.filter_sublist
  | difference => exact List.filter_sublist

theorem names_difference (l l' : List String) : difference.names l l' = l.filter (· ∉ l') := by
  refine List.filter_congr fun name _ => ?_
  simp

theorem names_union (h : l.Nodup) (h' : l'.Nodup) :
    union.names l l' = l ++ difference.names l' l := by
  rw [names_difference, names, distinct_append, distinct_eq_self h, distinct_eq_self h']

theorem names_union_assoc (l l' l'' : List String) :
    union.names (union.names l l') l'' = union.names l (union.names l' l'') := by
  simp only [names, distinct_distinct_append, distinct_append_distinct, List.append_assoc]

end SetOp

end

-- ---------------------------------------------------------------------------
-- Values of schema expressions
-- ---------------------------------------------------------------------------

namespace SchemaExpr

def schemas : SchemaExpr → List String
  | .name schema => [schema]
  | .setOp _ left right => left.schemas ++ right.schemas
  | .parens inner => inner.schemas

/-- The first schema, from left to right, that is named and not declared. -/
def firstUndeclared? (db : Database) (expr : SchemaExpr) : Option String :=
  expr.schemas.find? fun schema => db.schemas.get? schema = none

/-- The set of names that a schema expression stands for. -/
def toSet (db : Database) : SchemaExpr → Set String
  | .name schema => {name | ∃ names, db.schemas.get? schema = some names ∧ name ∈ names}
  | .setOp .union left right => left.toSet db ∪ right.toSet db
  | .setOp .intersect left right => left.toSet db ∩ right.toSet db
  | .setOp .difference left right => left.toSet db \ right.toSet db
  | .parens inner => inner.toSet db

variable {db : Database} {expr left right : SchemaExpr} {names l r : List String} {name : String}

theorem eval_name_eq_ok_iff {schema : String} :
    (SchemaExpr.name schema).eval db = .ok names ↔
      ∃ declared, db.schemas.get? schema = some declared ∧ distinct declared = names := by
  simp only [eval, bind_eq_ok_iff, pure_eq_ok_iff, Database.schema]
  cases db.schemas.get? schema <;> simp

theorem eval_setOp_eq_ok_iff {op : SetOp} :
    (setOp op left right).eval db = .ok names ↔
      ∃ l r, left.eval db = .ok l ∧ right.eval db = .ok r ∧ op.names l r = names := by
  simp only [eval, bind_eq_ok_iff, pure_eq_ok_iff]
  exact exists_congr fun l => exists_and_left.symm

theorem eval_setOp_of_ok (op : SetOp) (hl : left.eval db = .ok l) (hr : right.eval db = .ok r) :
    (setOp op left right).eval db = .ok (op.names l r) :=
  eval_setOp_eq_ok_iff.2 ⟨l, r, hl, hr, rfl⟩

theorem nodup_of_eval (h : expr.eval db = .ok names) : names.Nodup := by
  induction expr generalizing names with
  | name schema =>
    obtain ⟨declared, -, rfl⟩ := eval_name_eq_ok_iff.1 h
    exact nodup_distinct declared
  | setOp op left right ihl _ =>
    obtain ⟨l, r, hl, -, rfl⟩ := eval_setOp_eq_ok_iff.1 h
    exact op.nodup_names (ihl hl)
  | parens inner ih => exact ih h

theorem mem_iff_of_eval (h : expr.eval db = .ok names) : name ∈ names ↔ name ∈ expr.toSet db := by
  induction expr generalizing names with
  | name schema =>
    obtain ⟨declared, hd, rfl⟩ := eval_name_eq_ok_iff.1 h
    simp [toSet, hd, mem_distinct]
  | setOp op left right ihl ihr =>
    obtain ⟨l, r, hl, hr, rfl⟩ := eval_setOp_eq_ok_iff.1 h
    rw [SetOp.mem_names_iff]
    cases op <;> simp [toSet, ihl hl, ihr hr]
  | parens inner ih => exact ih h

theorem firstUndeclared?_setOp (db : Database) (op : SetOp) (left right : SchemaExpr) :
    (setOp op left right).firstUndeclared? db =
      (left.firstUndeclared? db).or (right.firstUndeclared? db) := List.find?_append ..

theorem exists_eval_of_declared (h : expr.firstUndeclared? db = none) :
    ∃ names, expr.eval db = .ok names := by
  induction expr with
  | name schema =>
    have hs : ∃ declared, db.schemas.get? schema = some declared := by
      simpa [firstUndeclared?, schemas, Option.ne_none_iff_exists'] using h
    obtain ⟨declared, hd⟩ := hs
    exact ⟨_, eval_name_eq_ok_iff.2 ⟨declared, hd, rfl⟩⟩
  | setOp op left right ihl ihr =>
    rw [firstUndeclared?_setOp, Option.or_eq_none_iff] at h
    obtain ⟨l, hl⟩ := ihl h.1
    obtain ⟨r, hr⟩ := ihr h.2
    exact ⟨_, eval_setOp_of_ok op hl hr⟩
  | parens inner ih => exact ih h

theorem eval_of_undeclared (h : expr.firstUndeclared? db = some name) :
    expr.eval db = .error (.unknownSchema name) := by
  induction expr with
  | name schema =>
    have hs : db.schemas.get? schema = none ∧ schema = name := by
      simpa [firstUndeclared?, schemas, List.find?_singleton] using h
    obtain ⟨hs, rfl⟩ := hs
    simp [eval, Database.schema, hs]
  | setOp op left right ihl ihr =>
    rw [firstUndeclared?_setOp, Option.or_eq_some_iff] at h
    rcases h with h | ⟨hl, h⟩
    · rw [eval, ihl h, error_bind]
    · obtain ⟨l, hl⟩ := exists_eval_of_declared hl
      rw [eval, hl, ok_bind, ihr h, error_bind]
  | parens inner ih => exact ih h

theorem eval_eq_error_iff {e : EvalError} :
    expr.eval db = .error e ↔
      ∃ name, expr.firstUndeclared? db = some name ∧ e = .unknownSchema name := by
  cases h : expr.firstUndeclared? db with
  | none =>
    obtain ⟨names, hn⟩ := exists_eval_of_declared h
    simp [hn]
  | some name => simp [eval_of_undeclared h, eq_comm]

theorem eval_union_assoc (db : Database) (a b c : SchemaExpr) :
    (setOp .union (setOp .union a b) c).eval db = (setOp .union a (setOp .union b c)).eval db := by
  simp only [eval, bind_assoc, pure_bind, SetOp.names_union_assoc]

theorem expandItems_union (db : Database) (left right : SchemaExpr) :
    expandItems db [.schema (setOp .union left right)] =
      expandItems db [.schema left, .schema (setOp .difference right left)] := by
  cases hl : left.eval db with
  | error e => simp [expandItems, ProjectItem.expand, eval, hl, error_bind]
  | ok l =>
    cases hr : right.eval db with
    | error e => simp [expandItems, ProjectItem.expand, eval, hl, hr, ok_bind, error_bind]
    | ok r =>
      simp [expandItems, ProjectItem.expand, eval, hl, hr, ok_bind,
        SetOp.names_union (nodup_of_eval hl) (nodup_of_eval hr)]

end SchemaExpr

/-- A schema expression has a value if and only if all its schemas are declared, and otherwise
the first one that is not is reported. The value lists a set, each name once: a union has the
names that are new after all of its left operand, and the other operations leave a part of their
left operand. So it makes no difference how unions are nested, nor, in a projection, whether a
union is written as one entry or as its left operand and the names that are new. -/
theorem names_of_schemaExpr (db : Database) :
    (∀ expr : SchemaExpr, (∃ e, expr.eval db = .error e) ↔
      ∃ schema ∈ expr.schemas, db.schemas.get? schema = none) ∧
    (∀ (expr : SchemaExpr) e, expr.eval db = .error e →
      ∃ schema, expr.firstUndeclared? db = some schema ∧ e = .unknownSchema schema) ∧
    (∀ (expr : SchemaExpr) names, expr.eval db = .ok names →
      names.Nodup ∧ ∀ name, name ∈ names ↔ name ∈ expr.toSet db) ∧
    (∀ (left right : SchemaExpr) l r, left.eval db = .ok l → right.eval db = .ok r →
      (SchemaExpr.setOp .union left right).eval db = .ok (l ++ r.filter (· ∉ l)) ∧
      ∀ op ≠ .union, ∃ names, (SchemaExpr.setOp op left right).eval db = .ok names ∧
        names.Sublist l) ∧
    (∀ a b c : SchemaExpr, (SchemaExpr.setOp .union (.setOp .union a b) c).eval db =
      (SchemaExpr.setOp .union a (.setOp .union b c)).eval db) ∧
    ∀ (config : Config) (left right : SchemaExpr) (input : Query),
      (Query.project [.schema (.setOp .union left right)] input).eval config db =
        (Query.project [.schema left, .schema (.setOp .difference right left)] input).eval
          config db := by
  refine ⟨fun expr => ?_, fun expr e => SchemaExpr.eval_eq_error_iff.1, fun expr names h => ?_,
    fun left right l r hl hr => ⟨?_, fun op hop => ?_⟩, SchemaExpr.eval_union_assoc db,
    fun config left right input => ?_⟩
  · simp only [SchemaExpr.eval_eq_error_iff, exists_comm (α := EvalError), exists_and_left,
      exists_eq, and_true, ← Option.isSome_iff_exists, SchemaExpr.firstUndeclared?,
      List.find?_isSome, decide_eq_true_eq]
  · exact ⟨SchemaExpr.nodup_of_eval h, fun name => SchemaExpr.mem_iff_of_eval h⟩
  · rw [SchemaExpr.eval_setOp_of_ok .union hl hr, ← SetOp.names_difference,
      SetOp.names_union (SchemaExpr.nodup_of_eval hl) (SchemaExpr.nodup_of_eval hr)]
  · exact ⟨_, SchemaExpr.eval_setOp_of_ok op hl hr, SetOp.sublist_names hop⟩
  · simp only [Query.eval, SchemaExpr.expandItems_union]
    rfl

theorem names_of_schemaExpr_shared :
    let db : Database := ⟨.empty, ⟨[("employee", ["id", "salary", "name"]),
      ("person", ["id", "name", "age"])], by decide⟩⟩
    let both : SchemaExpr := .setOp .union (.name "person") (.name "employee")
    let added : SchemaExpr := .setOp .difference (.parens both) (.name "person")
    both.eval db = .ok ["id", "name", "age", "salary"] ∧
      added.eval db = .ok ["salary"] ∧ (∀ name, name ∈ ["salary"] ↔ name ∈ added.toSet db) ∧
      (SchemaExpr.setOp .intersect added (.name "pet")).eval db =
        .error (.unknownSchema "pet") := by
  intro db both added
  obtain ⟨hfails, hfirst, hvalue, horder, -, -⟩ := names_of_schemaExpr db
  have hp : (SchemaExpr.name "person").eval db = .ok ["id", "name", "age"] := by rfl
  have he : (SchemaExpr.name "employee").eval db = .ok ["id", "salary", "name"] := by rfl
  have hadded : added.eval db = .ok ["salary"] := by rfl
  obtain ⟨e, hpet⟩ := (hfails (.setOp .intersect added (.name "pet"))).2 ⟨"pet", by decide, by rfl⟩
  obtain ⟨schema, hs, rfl⟩ := hfirst _ e hpet
  obtain rfl : "pet" = schema := Option.some.inj hs
  exact ⟨(horder _ _ _ _ hp he).1, hadded, (hvalue _ _ hadded).2, hpet⟩

end Relational
