import Relational.Action
import Relational.Query.Eval

/-!
# Execution of statements

A statement is executed in full or not at all: when it fails, the database
stays as it was. In a batch, later statements are executed after a failure too.
-/

namespace Relational

inductive Outcome
  | relation (r : Relation)
  | schema (name : String) (names : List String)

def Outcome.relation? : Outcome → Option Relation
  | relation r => some r
  | schema .. => none

/-- Name the attributes of a value that is assigned to a relation variable:
by the given names, or by its own local names, or else by the names that the
variable has. All but the last are qualified by the variable. -/
def nameForAssignment (db : Database) (relvar : String) (names : Option (List String))
    (r : Relation) : Except EvalError Relation :=
  match names with
  | some names =>
    if r.arity ≠ names.length ∧ r.arity ≠ 0 then
      .error (.arityMismatch (.assignment relvar) r.arity names.length)
    else r.setNames (names.map (qualify relvar))
  | none =>
    if r.arityEstablished ∧ !r.hasUnnamed then r.qualified relvar
    else
      match db.relvars.get? relvar with
      | some old => r.setAttributes old.attributes
      | none => .error (.unnamedAttribute (.assignment relvar))

/-- The work of a statement. The value of a query is complete before the
database is touched. -/
def Statement.run (config : Config) : Statement → Action Outcome
  | .assign relvar names query => do
    let r ← .read (query.eval config)
    let r ← .read fun db => .lift (nameForAssignment db relvar names r)
    .update (·.store relvar r)
    .record .debug (.assigned relvar r.size)
    return .relation r
  | .compute query => do
    let r ← .read (query.eval config)
    .record .debug (.computed r.size)
    return .relation r
  | .declare schema names => do
    .update (·.declare schema names)
    return .schema schema names

def execute (config : Config) (db : Database) (statement : Statement) :
    Executed (Except EvalError Outcome) := (statement.run config).run db

def executeFrom (config : Config) (number : Nat) (db : Database) :
    List Statement → Executed (List (Except EvalError Outcome))
  | [] => ⟨[], [], db⟩
  | statement :: rest =>
    let first := execute config db statement
    let rejection :=
      match first.result with
      | .ok _ => []
      | .error e => [⟨.warn, .rejected number e⟩]
    let others := executeFrom config (number + 1) first.database rest
    ⟨first.result :: others.result, first.log ++ rejection ++ others.log, others.database⟩

/-- Execute statements one after the other, whether or not they succeed. -/
def executeBatch (config : Config) (db : Database) (statements : List Statement) :
    Executed (List (Except EvalError Outcome)) := executeFrom config 1 db statements

end Relational
