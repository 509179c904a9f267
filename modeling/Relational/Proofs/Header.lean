import Relational.Proofs.Footprint
import Relational.Proofs.Membership
import Relational.Proofs.WellFormed

/-!
# The header of a query

The attributes of a query's value can be computed without a row: each operator
makes them of the attributes of its operands (`Query.header`). So two databases
that differ in nothing but rows give a query values with the same attributes
(`attributes_eval_eq`).
-/

namespace Relational

-- ---------------------------------------------------------------------------
-- Attributes of the operators' results
-- ---------------------------------------------------------------------------

namespace Relation

variable {r s left right : Relation}

def projectedAttributes (items : List Expr) : Except EvalError (List Attribute) := do
  let attributes ← columnNames .projection items
  checkDistinct attributes
  return attributes

def renamedAttributes (attributes : List Attribute) (renamings : List Renaming) :
    Except EvalError (List Attribute) := do
  let targets ← renamings.mapM (renamingTarget attributes)
  checkTargets attributes targets
  let renamed := substitute targets attributes
  checkDistinct renamed
  return renamed

def combinedAttributes (op : SetOp) (left right : List Attribute) :
    Except EvalError (List Attribute) :=
  if left.length ≠ right.length then .error (.arityMismatch (.setOp op) left.length right.length)
  else .ok left

def dividedAttributes (dividend divisor : List Attribute) : Except EvalError (List Attribute) := do
  let matched ← counterparts dividend [] divisor
  let staying := (List.range dividend.length).filter fun i => !matched.contains i
  return staying.map fun i => dividend.getD i none

def groupedAttributes (keys : List Expr) (columns : List AggregateColumn) :
    Except EvalError (List Attribute) := do
  let keyNames ← columnNames .grouping keys
  let attributes := keyNames ++ columns.map fun column => some column.name
  checkDistinct attributes
  return attributes

/-- The attributes of a relation that is written out: as many as its first row has
cells, all of them unnamed. -/
def writtenAttributes : List (List Expr) → List Attribute
  | [] => []
  | cells :: _ => List.replicate cells.length none

theorem exists_projectedAttributes_iff {items : List Expr} :
    (∃ attributes, projectedAttributes items = .ok attributes) ↔
      ∃ attributes, columnNames .projection items = .ok attributes ∧
        checkDistinct attributes = .ok () := by
  simp only [projectedAttributes, bind_eq_ok_iff, pure_eq_ok_iff]
  constructor
  · rintro ⟨_, attributes, ha, _, hd, rfl⟩
    exact ⟨attributes, ha, hd⟩
  · rintro ⟨attributes, ha, hd⟩
    exact ⟨attributes, attributes, ha, (), hd, rfl⟩

theorem projectedAttributes_of_project {items : List Expr} (h : r.project items = .ok s) :
    projectedAttributes items = .ok s.attributes := by
  obtain ⟨attributes, rows, ha, hd, -, rfl⟩ := project_eq_ok_iff.1 h
  rw [projectedAttributes, ha]
  simp [bind, Except.bind, pure, Except.pure, hd]

theorem rename_eq_ok_iff {renamings : List Renaming} :
    r.rename renamings = .ok s ↔
      renamedAttributes r.attributes renamings = .ok s.attributes ∧ s.rows = r.rows := by
  simp only [rename, renamedAttributes, bind_eq_ok_iff, pure_eq_ok_iff]
  constructor
  · rintro ⟨targets, ht, _, hc, _, hd, rfl⟩
    exact ⟨⟨targets, ht, (), hc, (), hd, rfl⟩, rfl⟩
  · rintro ⟨⟨targets, ht, _, hc, _, hd, ha⟩, hr⟩
    refine ⟨targets, ht, (), hc, (), hd, ?_⟩
    rw [ha, ← hr]

theorem combine_eq_ok_iff {op : SetOp} :
    left.combine op right = .ok s ↔
      combinedAttributes op left.attributes right.attributes = .ok s.attributes ∧
        s.rows = op.rows left.rows right.rows := by
  unfold combine combinedAttributes arity
  split
  · simp
  · cases s
    simp [eq_comm]

theorem combine_of_attributes_eq (op : SetOp) (h : left.attributes = right.attributes) :
    left.combine op right = .ok ⟨left.attributes, op.rows left.rows right.rows⟩ :=
  combine_of_arity_eq op (congrArg List.length h)

theorem dividedAttributes_of_divide (h : left.divide right = .ok s) :
    dividedAttributes left.attributes right.attributes = .ok s.attributes := by
  simp only [divide, bind_eq_ok_iff, pure_eq_ok_iff] at h
  obtain ⟨matched, hm, rfl⟩ := h
  rw [dividedAttributes, hm]
  rfl

theorem groupedAttributes_of_group {keys : List Expr} {columns : List AggregateColumn}
    (h : r.group keys columns = .ok s) :
    groupedAttributes keys columns = .ok s.attributes := by
  simp only [group, bind_eq_ok_iff, pure_eq_ok_iff] at h
  obtain ⟨keyNames, hk, _, hd, groups, -, rfl⟩ := h
  rw [groupedAttributes, hk]
  simp [bind, Except.bind, pure, Except.pure, hd]

-- ---------------------------------------------------------------------------
-- Relations that are written out
-- ---------------------------------------------------------------------------

theorem mem_of_addRow {t : Row} (h : r.addRow t = .ok s) : t ∈ s.rows := by
  unfold addRow at h
  split at h
  · obtain rfl := Except.ok.inj h
    exact RowSet.mem_insert.2 (.inl rfl)
  · split at h
    · cases h
    · obtain rfl := Except.ok.inj h
      exact RowSet.mem_insert.2 (.inl rfl)

theorem arityEstablished_of_addRow {t : Row} (h : r.addRow t = .ok s) :
    s.arityEstablished = true := by
  cases he : s.arityEstablished with
  | true => rfl
  | false => exact absurd (mem_of_addRow h) (not_mem_of_not_arityEstablished he t)

theorem attributes_of_addRow {t : Row} (he : r.arityEstablished = true) (h : r.addRow t = .ok s) :
    s.attributes = r.attributes := by
  unfold addRow at h
  rw [he] at h
  split at h
  · contradiction
  · split at h
    · cases h
    · obtain rfl := Except.ok.inj h
      rfl

theorem attributes_of_ofExprs {rows : List (List Expr)} (h : ofExprs rows = .ok r) :
    r.attributes = writtenAttributes rows := by
  cases rows with
  | nil =>
    obtain rfl := Except.ok.inj h
    rfl
  | cons cells rows =>
    simp only [ofExprs, List.foldlM_cons, bind_eq_ok_iff] at h
    obtain ⟨first, ⟨t, ht, hf⟩, h⟩ := h
    have hfirst : first.attributes = writtenAttributes (cells :: rows) := by
      obtain rfl := Except.ok.inj hf
      exact congrArg (List.replicate · none) (Expr.length_of_evalAll ht)
    have hestablished := arityEstablished_of_addRow hf
    refine (foldlM_preserves (p := fun r => r.arityEstablished = true ∧
      r.attributes = writtenAttributes (cells :: rows)) ?_ ⟨hestablished, hfirst⟩ h).2
    rintro r cells r' ⟨he, ha⟩ h
    rw [bind_eq_ok_iff] at h
    obtain ⟨t, -, h⟩ := h
    exact ⟨arityEstablished_of_addRow h, (attributes_of_addRow he h).trans ha⟩

end Relation

-- ---------------------------------------------------------------------------
-- Queries
-- ---------------------------------------------------------------------------

/-- The attributes of a query's value, or a reason why it has none. Of the database
only the attributes of relation variables and the schemas are looked at. -/
def Query.header (db : Database) : Query → Except EvalError (List Attribute)
  | .relvar name => do return (← db.relvar name).attributes
  | .constant rows => .ok (Relation.writtenAttributes rows)
  | .rename renamings input => do Relation.renamedAttributes (← input.header db) renamings
  | .project items input => do
    let _ ← input.header db
    Relation.projectedAttributes (← expandItems db items)
  | .select _ input => input.header db
  | .cross left right => do return (← left.header db) ++ (← right.header db)
  | .setOp op left right => do
    Relation.combinedAttributes op (← left.header db) (← right.header db)
  | .join _ _ left right => do return (← left.header db) ++ (← right.header db)
  | .divide left right => do Relation.dividedAttributes (← left.header db) (← right.header db)
  | .group keys aggregates input => do
    let columns ← aggregates.mapM AggregateColumn.ofExpr
    let _ ← input.header db
    Relation.groupedAttributes keys columns
  | .parens inner => inner.header db

theorem Query.header_of_eval {config : Config} {db : Database} {query : Query} {r : Relation}
    (h : (query.eval config db).outcome = .ok r) : query.header db = .ok r.attributes := by
  induction query generalizing r with
  | relvar name =>
    rw [outcome_relvar, Config.limited_eq_ok_iff] at h
    rw [header, h.1]
    rfl
  | constant rows =>
    rw [outcome_constant, Config.limited_eq_ok_iff] at h
    rw [header, Relation.attributes_of_ofExprs h.1]
  | rename renamings input ih =>
    simp only [outcome_rename, Config.limited_eq_ok_iff, bind_eq_ok_iff] at h
    obtain ⟨⟨i, hi, h⟩, -⟩ := h
    rw [header, ih hi]
    exact (Relation.rename_eq_ok_iff.1 h).1
  | project items input ih =>
    simp only [outcome_project, Config.limited_eq_ok_iff, bind_eq_ok_iff] at h
    obtain ⟨⟨i, hi, exprs, he, h⟩, -⟩ := h
    rw [header, ih hi, he]
    exact Relation.projectedAttributes_of_project h
  | select condition input ih =>
    simp only [outcome_select, Config.limited_eq_ok_iff, bind_eq_ok_iff] at h
    obtain ⟨⟨i, hi, h⟩, -⟩ := h
    rw [header, ih hi, Relation.attributes_of_select h]
  | cross left right ihl ihr =>
    simp only [outcome_cross, Config.limited_eq_ok_iff, bind_eq_ok_iff] at h
    obtain ⟨⟨l, hl, r, hr, h⟩, -⟩ := h
    rw [header, ihl hl, ihr hr, Relation.attributes_of_join h]
    rfl
  | setOp op left right ihl ihr =>
    simp only [outcome_setOp, Config.limited_eq_ok_iff, bind_eq_ok_iff] at h
    obtain ⟨⟨l, hl, r, hr, h⟩, -⟩ := h
    rw [header, ihl hl, ihr hr]
    exact (Relation.combine_eq_ok_iff.1 h).1
  | join kind condition left right ihl ihr =>
    simp only [outcome_join, Config.limited_eq_ok_iff, bind_eq_ok_iff] at h
    obtain ⟨⟨l, hl, r, hr, h⟩, -⟩ := h
    rw [header, ihl hl, ihr hr, Relation.attributes_of_join h]
    rfl
  | divide left right ihl ihr =>
    simp only [outcome_divide, Config.limited_eq_ok_iff, bind_eq_ok_iff] at h
    obtain ⟨⟨l, hl, r, hr, h⟩, -⟩ := h
    rw [header, ihl hl, ihr hr]
    exact Relation.dividedAttributes_of_divide h
  | group keys aggregates input ih =>
    simp only [outcome_group, Config.limited_eq_ok_iff, bind_eq_ok_iff] at h
    obtain ⟨⟨columns, hc, i, hi, h⟩, -⟩ := h
    rw [header, hc, ih hi]
    exact Relation.groupedAttributes_of_group h
  | parens inner ih =>
    rw [outcome_parens, Config.limited_eq_ok_iff] at h
    exact ih h.1

-- ---------------------------------------------------------------------------
-- Databases that differ in rows
-- ---------------------------------------------------------------------------

structure Database.SameShape (db db' : Database) : Prop where
  headers : ∀ name, (db.relvars.get? name).map Relation.attributes =
    (db'.relvars.get? name).map Relation.attributes
  schemas : db.schemas = db'.schemas

section

variable {db db' : Database}

theorem Database.SameShape.relvar (h : db.SameShape db') (name : String) :
    Relation.attributes <$> db.relvar name = Relation.attributes <$> db'.relvar name := by
  have hn := h.headers name
  unfold Database.relvar
  cases hr : db.relvars.get? name with
  | none =>
    rw [hr, Option.map_none, eq_comm, Option.map_eq_none_iff] at hn
    rw [hn]
  | some r =>
    rw [hr, Option.map_some, eq_comm, Option.map_eq_some_iff] at hn
    obtain ⟨r', hr', ha⟩ := hn
    rw [hr']
    exact congrArg Except.ok ha.symm

theorem Database.SameShape.agreeOn_mentions (h : db.SameShape db') (expr : SchemaExpr) :
    db.AgreeOn db' expr.mentions := by
  induction expr with
  | name schema =>
    rintro entry he
    obtain rfl := List.mem_singleton.1 he
    exact congrArg (·.get? schema) h.schemas
  | setOp op left right ihl ihr => exact Database.agreeOn_append.2 ⟨ihl, ihr⟩
  | parens inner ih => exact ih

theorem Database.SameShape.expandItems (h : db.SameShape db') (items : List ProjectItem) :
    expandItems db items = expandItems db' items := by
  refine expandItems_congr fun entry he => ?_
  obtain ⟨item, -, he⟩ := List.mem_flatMap.1 he
  cases item with
  | expr item => cases he
  | schema names => exact h.agreeOn_mentions names entry he

theorem Query.header_congr (h : db.SameShape db') (query : Query) :
    query.header db = query.header db' := by
  induction query with
  | relvar name =>
    rw [header, header]
    exact h.relvar name
  | constant rows => rfl
  | rename renamings input ih => rw [header, header, ih]
  | project items input ih => rw [header, header, ih, h.expandItems]
  | select condition input ih => rw [header, header, ih]
  | cross left right ihl ihr => rw [header, header, ihl, ihr]
  | setOp op left right ihl ihr => rw [header, header, ihl, ihr]
  | join kind condition left right ihl ihr => rw [header, header, ihl, ihr]
  | divide left right ihl ihr => rw [header, header, ihl, ihr]
  | group keys aggregates input ih => rw [header, header, ih]
  | parens inner ih => rw [header, header, ih]

end

/-- Rows have no say in the attributes of a value, and neither has the configuration. -/
theorem attributes_eval_eq {db db' : Database} (h : db.SameShape db') (query : Query)
    {config config' : Config} {r r' : Relation} (hr : (query.eval config db).outcome = .ok r)
    (hr' : (query.eval config' db').outcome = .ok r') : r.attributes = r'.attributes := by
  have hh := query.header_congr h
  rw [query.header_of_eval hr, query.header_of_eval hr'] at hh
  exact Except.ok.inj hh

def Database.ofPairs (rows : RowSet) : Database where
  relvars := ⟨[("R", ⟨[some "R.x", some "R.y"], rows⟩)], List.pairwise_singleton ..⟩
  schemas := ⟨[("key", ["y"])], List.pairwise_singleton ..⟩

theorem Database.ofPairs_sameShape (rows rows' : RowSet) :
    (ofPairs rows).SameShape (ofPairs rows') := by
  refine ⟨fun name => ?_, rfl⟩
  by_cases hn : name = "R" <;> simp [ofPairs, NameMap.get?, NameMap.find?, hn]

/-- The attributes that a division leaves are those of its dividend, whether or not it has
rows to look at. -/
theorem attributes_eval_eq_divide :
    (Database.ofPairs .empty).SameShape (.ofPairs (.ofList [[.boolean true, .boolean false]])) ∧
    ∃ r r', ((Query.divide (.relvar "R") (.project [.schema (.name "key")] (.relvar "R"))).eval
        {} (.ofPairs .empty)).outcome = .ok r ∧
      ((Query.divide (.relvar "R") (.project [.schema (.name "key")] (.relvar "R"))).eval
        { maxRows := some 1 } (.ofPairs (.ofList [[.boolean true, .boolean false]]))).outcome =
          .ok r' ∧
      r.rows ≠ r'.rows ∧ r.attributes = r'.attributes := by
  have h := Database.ofPairs_sameShape .empty (.ofList [[.boolean true, .boolean false]])
  have hr : ((Query.divide (.relvar "R") (.project [.schema (.name "key")] (.relvar "R"))).eval
      {} (.ofPairs .empty)).outcome = .ok ⟨[some "R.x"], .empty⟩ := by rfl
  have hr' : ((Query.divide (.relvar "R") (.project [.schema (.name "key")] (.relvar "R"))).eval
      { maxRows := some 1 } (.ofPairs (.ofList [[.boolean true, .boolean false]]))).outcome =
        .ok ⟨[some "R.x"], .ofList [[.boolean true]]⟩ := by rfl
  exact ⟨h, _, _, hr, hr', by decide, attributes_eval_eq h _ hr hr'⟩

end Relational
