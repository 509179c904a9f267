import Relational.Proofs.Outcome

/-!
# What evaluation reads

Relation variables and schemas are the entries of a database. A query mentions
some of them, and databases that agree on those give it the same value and the
same records (`Query.eval_congr`).
-/

namespace Relational

/-- A name in one of the two name spaces of a database. -/
inductive Entry
  | relvar (name : String)
  | schema (name : String)
deriving DecidableEq

namespace Database

def SameAt (db db' : Database) : Entry → Prop
  | .relvar name => db.relvars.get? name = db'.relvars.get? name
  | .schema name => db.schemas.get? name = db'.schemas.get? name

def AgreeOn (db db' : Database) (entries : List Entry) : Prop :=
  ∀ entry ∈ entries, db.SameAt db' entry

variable {db db' db'' : Database} {entry : Entry}

theorem SameAt.rfl : db.SameAt db entry := by
  cases entry <;> exact Eq.refl _

theorem SameAt.symm (h : db.SameAt db' entry) : db'.SameAt db entry := by
  cases entry <;> exact Eq.symm h

theorem SameAt.trans (h : db.SameAt db' entry) (h' : db'.SameAt db'' entry) :
    db.SameAt db'' entry := by
  cases entry <;> exact Eq.trans h h'

theorem eq_of_sameAt (h : ∀ entry, db.SameAt db' entry) : db = db' :=
  ext (fun name => h (.relvar name)) (fun name => h (.schema name))

theorem agreeOn_cons {entries : List Entry} :
    db.AgreeOn db' (entry :: entries) ↔ db.SameAt db' entry ∧ db.AgreeOn db' entries :=
  List.forall_mem_cons

theorem agreeOn_append {entries entries' : List Entry} :
    db.AgreeOn db' (entries ++ entries') ↔ db.AgreeOn db' entries ∧ db.AgreeOn db' entries' :=
  List.forall_mem_append

end Database

-- ---------------------------------------------------------------------------
-- Schemas
-- ---------------------------------------------------------------------------

def SchemaExpr.mentions : SchemaExpr → List Entry
  | .name schema => [.schema schema]
  | .setOp _ left right => left.mentions ++ right.mentions
  | .parens inner => inner.mentions

def ProjectItem.mentions : ProjectItem → List Entry
  | .expr _ => []
  | .schema names => names.mentions

section

variable {db db' : Database}

theorem Database.schema_congr {name : String} (h : db.SameAt db' (.schema name)) :
    db.schema name = db'.schema name := by
  have h : db.schemas.get? name = db'.schemas.get? name := h
  rw [schema, schema, h]

theorem Database.relvar_congr {name : String} (h : db.SameAt db' (.relvar name)) :
    db.relvar name = db'.relvar name := by
  have h : db.relvars.get? name = db'.relvars.get? name := h
  rw [relvar, relvar, h]

theorem SchemaExpr.eval_congr {expr : SchemaExpr} (h : db.AgreeOn db' expr.mentions) :
    expr.eval db = expr.eval db' := by
  induction expr with
  | name schema =>
    rw [eval, eval, Database.schema_congr (h _ (List.mem_singleton_self _))]
  | setOp op left right ihl ihr =>
    obtain ⟨hl, hr⟩ := Database.agreeOn_append.1 h
    rw [eval, eval, ihl hl, ihr hr]
  | parens inner ih => exact ih h

theorem ProjectItem.expand_congr {item : ProjectItem} (h : db.AgreeOn db' item.mentions) :
    item.expand db = item.expand db' := by
  cases item with
  | expr item => rfl
  | schema names => rw [expand, expand, SchemaExpr.eval_congr h]

theorem mapM_expand_congr {items : List ProjectItem}
    (h : db.AgreeOn db' (items.flatMap ProjectItem.mentions)) :
    items.mapM (ProjectItem.expand db) = items.mapM (ProjectItem.expand db') := by
  induction items with
  | nil => rfl
  | cons item items ih =>
    rw [List.flatMap_cons, Database.agreeOn_append] at h
    rw [List.mapM_cons, List.mapM_cons, ProjectItem.expand_congr h.1, ih h.2]

theorem expandItems_congr {items : List ProjectItem}
    (h : db.AgreeOn db' (items.flatMap ProjectItem.mentions)) :
    expandItems db items = expandItems db' items := by
  rw [expandItems, expandItems, mapM_expand_congr h]

end

-- ---------------------------------------------------------------------------
-- Queries
-- ---------------------------------------------------------------------------

/-- The relation variables and schemas that a query names, wherever it does. -/
def Query.mentions : Query → List Entry
  | .relvar name => [.relvar name]
  | .constant _ => []
  | .rename _ input | .select _ input | .group _ _ input | .parens input => input.mentions
  | .project items input => input.mentions ++ items.flatMap ProjectItem.mentions
  | .cross left right | .setOp _ left right | .join _ _ left right | .divide left right =>
    left.mentions ++ right.mentions

theorem Query.eval_congr {db db' : Database} (config : Config) {query : Query}
    (h : db.AgreeOn db' query.mentions) : query.eval config db = query.eval config db' := by
  induction query with
  | relvar name =>
    rw [eval, eval]
    simp only [Database.relvar_congr (h _ (List.mem_singleton_self _))]
  | constant rows => rfl
  | rename renamings input ih =>
    rw [eval, eval]
    simp only [ih h]
  | project items input ih =>
    obtain ⟨hi, he⟩ := Database.agreeOn_append.1 h
    rw [eval, eval]
    simp only [ih hi, expandItems_congr he]
  | select condition input ih =>
    rw [eval, eval]
    simp only [ih h]
  | cross left right ihl ihr =>
    obtain ⟨hl, hr⟩ := Database.agreeOn_append.1 h
    rw [eval, eval]
    simp only [ihl hl, ihr hr]
  | setOp op left right ihl ihr =>
    obtain ⟨hl, hr⟩ := Database.agreeOn_append.1 h
    rw [eval, eval]
    simp only [ihl hl, ihr hr]
  | join kind condition left right ihl ihr =>
    obtain ⟨hl, hr⟩ := Database.agreeOn_append.1 h
    rw [eval, eval]
    simp only [ihl hl, ihr hr]
  | divide left right ihl ihr =>
    obtain ⟨hl, hr⟩ := Database.agreeOn_append.1 h
    rw [eval, eval]
    simp only [ihl hl, ihr hr]
  | group keys aggregates input ih =>
    rw [eval, eval]
    simp only [ih h]
  | parens inner ih =>
    rw [eval, eval]
    simp only [ih h]

end Relational
