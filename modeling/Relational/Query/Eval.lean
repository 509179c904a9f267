import Relational.Database
import Relational.Query
import Relational.Relation.Division
import Relational.Relation.Grouping
import Relational.Relation.Join
import Relational.Relation.SetOp

/-!
# Evaluation of queries

Operands are evaluated before their operator, the left one first. Each result
is held against the row limit and recorded, and each operator whose evaluation
fails is recorded. A result that is over the limit fails after its operator, so
that only the operators around it are recorded as failed.
-/

namespace Relational

structure Config where
  /-- The most rows that the result of any operator may have. -/
  maxRows : Option Nat := none
  /-- Record results at debug level, not at trace level. -/
  traceOperators : Bool := false
deriving DecidableEq

namespace Config

def producedLevel (config : Config) : Level := if config.traceOperators then .debug else .trace

def checkLimit (config : Config) (operator : Operator) (r : Relation) : Except EvalError Unit :=
  match config.maxRows with
  | some limit => if limit < r.size then .error (.rowLimitExceeded operator limit) else .ok ()
  | none => .ok ()

def settle (config : Config) (operator : Operator) (result : Logged Relation) :
    Logged Relation := do
  let r ← result.onFailure .debug (.failed operator)
  .lift (config.checkLimit operator r)
  .record config.producedLevel (.produced operator r.size r.arity)
  return r

theorem settle_of_error {result : Logged Relation} {e : EvalError} (h : result.outcome = .error e)
    (config : Config) (operator : Operator) :
    config.settle operator result = ⟨result.log ++ [⟨.debug, .failed operator e⟩], .error e⟩ := by
  rw [settle, Logged.onFailure_of_error h]
  rfl

theorem settle_of_limit {result : Logged Relation} {r : Relation} {e : EvalError}
    (h : result.outcome = .ok r) {config : Config} {operator : Operator}
    (hl : config.checkLimit operator r = .error e) :
    config.settle operator result = ⟨result.log, .error e⟩ := by
  rw [settle, Logged.onFailure_of_ok h, Logged.bind_of_ok h, hl]
  simp [bind, Logged.bind, Logged.lift]

theorem settle_of_ok {result : Logged Relation} {r : Relation} (h : result.outcome = .ok r)
    {config : Config} {operator : Operator} (hl : config.checkLimit operator r = .ok ()) :
    config.settle operator result =
      ⟨result.log ++ [⟨config.producedLevel, .produced operator r.size r.arity⟩], .ok r⟩ := by
  rw [settle, Logged.onFailure_of_ok h, Logged.bind_of_ok h, hl]
  rfl

end Config

def Relation.ofExprs (rows : List (List Expr)) : Except EvalError Relation :=
  rows.foldlM (fun r cells => do r.addRow (← Expr.evalAll [] cells)) .empty

def ProjectItem.expand (db : Database) : ProjectItem → Except EvalError (List Expr)
  | .expr item => .ok [item]
  | .schema names => do return (← names.eval db).map .attr

def expandItems (db : Database) (items : List ProjectItem) : Except EvalError (List Expr) := do
  return (← items.mapM (ProjectItem.expand db)).flatten

def Query.eval (config : Config) (db : Database) (query : Query) : Logged Relation :=
  config.settle query.operator <|
    match query with
    | .relvar name => .lift (db.relvar name)
    | .constant rows => .lift (Relation.ofExprs rows)
    | .rename renamings input => do
      let r ← input.eval config db
      .lift (r.rename renamings)
    | .project items input => do
      let r ← input.eval config db
      .lift (do r.project (← expandItems db items))
    | .select condition input => do
      let r ← input.eval config db
      .lift (r.select condition)
    | .cross left right => do
      let l ← left.eval config db
      let r ← right.eval config db
      .lift (l.cross r)
    | .setOp op left right => do
      let l ← left.eval config db
      let r ← right.eval config db
      .lift (l.combine op r)
    | .join kind condition left right => do
      let l ← left.eval config db
      let r ← right.eval config db
      .lift (l.join kind condition r)
    | .divide left right => do
      let l ← left.eval config db
      let r ← right.eval config db
      .lift (l.divide r)
    | .group keys aggregates input => do
      let columns ← .lift (aggregates.mapM AggregateColumn.ofExpr)
      let r ← input.eval config db
      .lift (r.group keys columns)
    | .parens inner => inner.eval config db

end Relational
