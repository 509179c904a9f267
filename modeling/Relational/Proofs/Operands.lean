import Relational.Proofs.Outcome

/-!
# Operands

The nodes of a query and how one of them is evaluated. The evaluation of a node
evaluates its operands from the left as long as they succeed, applies its operator
to their values, and holds the result against the row limit; `Query.Evaluates` is
that, with the records it leaves. Proofs about whole evaluations go by it and by
induction on operands.
-/

namespace Relational

namespace Query

def operands : Query → List Query
  | relvar _ | constant _ => []
  | rename _ input | project _ input | select _ input | group _ _ input | parens input => [input]
  | cross left right | setOp _ left right | join _ _ left right | divide left right => [left, right]

def postorder (query : Query) : List Query :=
  let below :=
    match query with
    | relvar _ | constant _ => []
    | rename _ input | project _ input | select _ input | group _ _ input | parens input =>
      input.postorder
    | cross left right | setOp _ left right | join _ _ left right | divide left right =>
      left.postorder ++ right.postorder
  below ++ [query]

theorem postorder_eq (query : Query) :
    query.postorder = query.operands.flatMap postorder ++ [query] := by
  cases query <;> simp [postorder, operands]

theorem induction_on_operands {motive : Query → Prop}
    (step : ∀ query, (∀ operand ∈ query.operands, motive operand) → motive query)
    (query : Query) : motive query := by
  induction query with
  | relvar | constant => exact step _ (by simp [operands])
  | rename _ _ ih | project _ _ ih | select _ _ ih | group _ _ _ ih | parens _ ih =>
    exact step _ (by simpa [operands] using ih)
  | cross _ _ ihl ihr | setOp _ _ _ ihl ihr | join _ _ _ _ ihl ihr | divide _ _ ihl ihr =>
    exact step _ (by simp [operands, ihl, ihr])

-- ---------------------------------------------------------------------------
-- The result of an operator
-- ---------------------------------------------------------------------------

variable (config : Config) (db : Database)

def Succeeds (query : Query) : Prop := ∃ r, (query.eval config db).outcome = .ok r

/-- What a query's operator makes of the outcomes of its operands, before the result is
held against the row limit. -/
def operation : Query → Except EvalError Relation
  | relvar name => db.relvar name
  | constant rows => Relation.ofExprs rows
  | rename renamings input => do (← (input.eval config db).outcome).rename renamings
  | project items input => do
    let r ← (input.eval config db).outcome
    r.project (← expandItems db items)
  | select condition input => do (← (input.eval config db).outcome).select condition
  | cross left right => do
    (← (left.eval config db).outcome).cross (← (right.eval config db).outcome)
  | setOp op left right => do
    (← (left.eval config db).outcome).combine op (← (right.eval config db).outcome)
  | join kind condition left right => do
    (← (left.eval config db).outcome).join kind condition (← (right.eval config db).outcome)
  | divide left right => do
    (← (left.eval config db).outcome).divide (← (right.eval config db).outcome)
  | group keys aggregates input => do
    let columns ← aggregates.mapM AggregateColumn.ofExpr
    (← (input.eval config db).outcome).group keys columns
  | parens inner => (inner.eval config db).outcome

theorem outcome_eval (query : Query) :
    (query.eval config db).outcome = config.limited query.operator (query.operation config db) := by
  cases query with
  | relvar name => exact outcome_relvar ..
  | constant rows => exact outcome_constant ..
  | rename renamings input => exact outcome_rename ..
  | project items input => exact outcome_project ..
  | select condition input => exact outcome_select ..
  | cross left right => exact outcome_cross ..
  | setOp op left right => exact outcome_setOp ..
  | join kind condition left right => exact outcome_join ..
  | divide left right => exact outcome_divide ..
  | group keys aggregates input => exact outcome_group ..
  | parens inner => exact outcome_parens ..

theorem size_le_of_eval {config : Config} {db : Database} {query : Query} {r : Relation}
    (h : (query.eval config db).outcome = .ok r) {limit : Nat} (hl : config.maxRows = some limit) :
    r.size ≤ limit := by
  rw [outcome_eval, Config.limited_eq_ok_iff] at h
  exact Config.checkLimit_eq_ok_iff.1 h.2 limit hl

-- ---------------------------------------------------------------------------
-- The operands that are evaluated
-- ---------------------------------------------------------------------------

/-- Which operands have been evaluated when an operator comes to a result. -/
inductive Applies : Query → List Query → Except EvalError Relation → Prop
  | applied {query result} : (∀ operand ∈ query.operands, operand.Succeeds config db) →
      Applies query query.operands result
  /-- The aggregates of a grouping are looked at before its operand. -/
  | unread {keys aggregates input e} : aggregates.mapM AggregateColumn.ofExpr = .error e →
      Applies (group keys aggregates input) [] (.error e)
  | passed {query before operand after e} : query.operands = before ++ operand :: after →
      (∀ earlier ∈ before, earlier.Succeeds config db) →
      (operand.eval config db).outcome = .error e →
      Applies query (before ++ [operand]) (.error e)

end Query

/-- The record that a node leaves when its operator has come to a result. One that is over
the row limit leaves none. -/
def Config.ending (config : Config) (operator : Operator) :
    Except EvalError Relation → List Record
  | .ok r =>
    match config.checkLimit operator r with
    | .ok _ => [⟨config.producedLevel, .produced operator r.size r.arity⟩]
    | .error _ => []
  | .error e => [⟨.debug, .failed operator e⟩]

theorem Config.log_settle (config : Config) (operator : Operator) (x : Logged Relation) :
    (config.settle operator x).log = x.log ++ config.ending operator x.outcome := by
  cases hx : x.outcome with
  | error e => rw [settle_of_error hx, ending]
  | ok r =>
    rw [ending]
    cases hl : config.checkLimit operator r with
    | ok _ => rw [settle_of_ok hx hl]
    | error e => simp [settle_of_limit hx hl]

theorem Logged.log_bind_lift {α β : Type} (x : Logged α) (f : α → Except EvalError β) :
    (x >>= fun a => lift (f a)).log = x.log := by
  cases hx : x.outcome with
  | ok a => simp [bind_of_ok hx, lift]
  | error e => simp [bind_of_error hx]

namespace Query

variable {config : Config} {db : Database} {query : Query}

/-- The evaluation of a node: what becomes of its operands, and the records. -/
structure Evaluates (config : Config) (db : Database) (query : Query) (evaluated : List Query) :
    Prop where
  applies : query.Applies config db evaluated (query.operation config db)
  log : (query.eval config db).log =
    evaluated.flatMap (fun operand => (operand.eval config db).log) ++
      config.ending query.operator (query.operation config db)

theorem evaluates_leaf (ho : query.operands = []) {result : Except EvalError Relation}
    (hr : query.operation config db = result)
    (he : query.eval config db = config.settle query.operator (.lift result)) :
    ∃ evaluated, query.Evaluates config db evaluated := by
  refine ⟨query.operands, .applied (by simp [ho]), ?_⟩
  rw [he, Config.log_settle, ho, hr]
  rfl

theorem evaluates_unary {input : Query} {f : Relation → Except EvalError Relation}
    (ho : query.operands = [input])
    (hr : query.operation config db = (input.eval config db).outcome >>= f)
    (he : query.eval config db =
      config.settle query.operator (input.eval config db >>= fun r => .lift (f r))) :
    ∃ evaluated, query.Evaluates config db evaluated := by
  have hlog : (query.eval config db).log =
      (input.eval config db).log ++ config.ending query.operator (query.operation config db) := by
    rw [he, Config.log_settle, Logged.log_bind_lift, Logged.outcome_bind, hr]
    rfl
  cases hi : (input.eval config db).outcome with
  | ok i =>
    refine ⟨query.operands, .applied ?_, by simp [hlog, ho]⟩
    simpa [ho] using ⟨i, hi⟩
  | error e =>
    refine ⟨[] ++ [input], ?_, by simp [hlog]⟩
    rw [hr, hi]
    exact .passed ho (by simp) hi

theorem evaluates_binary {left right : Query} {f : Relation → Relation → Except EvalError Relation}
    (ho : query.operands = [left, right])
    (hr : query.operation config db =
      (left.eval config db).outcome >>= fun l => (right.eval config db).outcome >>= f l)
    (he : query.eval config db = config.settle query.operator
      (left.eval config db >>= fun l => right.eval config db >>= fun r => .lift (f l r))) :
    ∃ evaluated, query.Evaluates config db evaluated := by
  cases hl : (left.eval config db).outcome with
  | error e =>
    refine ⟨[] ++ [left], ?_, ?_⟩
    · rw [hr, hl]
      exact .passed ho (by simp) hl
    · rw [he, hr, Logged.bind_of_error hl, Config.log_settle, hl]
      simp [bind, Except.bind]
  | ok l =>
    have hlog : (query.eval config db).log = (left.eval config db).log ++
        (right.eval config db).log ++ config.ending query.operator (query.operation config db) := by
      rw [he, hr, Logged.bind_of_ok hl, Config.log_settle, Logged.log_bind_lift,
        Logged.outcome_bind, hl]
      rfl
    cases hi : (right.eval config db).outcome with
    | ok i =>
      refine ⟨query.operands, .applied ?_, by simp [hlog, ho]⟩
      simpa [ho] using ⟨⟨l, hl⟩, i, hi⟩
    | error e =>
      refine ⟨[left] ++ [right], ?_, by simp [hlog]⟩
      rw [hr, hl, hi]
      exact .passed ho (by simpa using ⟨l, hl⟩) hi

theorem eval_evaluates (config : Config) (db : Database) (query : Query) :
    ∃ evaluated, query.Evaluates config db evaluated := by
  cases query with
  | relvar name => exact evaluates_leaf rfl rfl rfl
  | constant rows => exact evaluates_leaf rfl rfl rfl
  | rename renamings input => exact evaluates_unary rfl rfl rfl
  | project items input => exact evaluates_unary rfl rfl rfl
  | select condition input => exact evaluates_unary rfl rfl rfl
  | cross left right => exact evaluates_binary rfl rfl rfl
  | setOp op left right => exact evaluates_binary rfl rfl rfl
  | join kind condition left right => exact evaluates_binary rfl rfl rfl
  | divide left right => exact evaluates_binary rfl rfl rfl
  | group keys aggregates input =>
    cases hc : aggregates.mapM AggregateColumn.ofExpr with
    | error e =>
      refine ⟨[], ?_, ?_⟩
      · rw [operation, hc]
        exact .unread hc
      · rw [eval, operation, hc]
        rfl
    | ok columns =>
      refine evaluates_unary (f := fun r => r.group keys columns) rfl ?_ ?_
      · rw [operation, hc]
        rfl
      · rw [eval, hc]
        rfl
  | parens inner =>
    refine evaluates_unary (f := .ok) rfl ?_ ?_
    · exact (bind_pure _).symm
    · exact congrArg (config.settle .parens) (bind_pure _).symm

end Query

end Relational
