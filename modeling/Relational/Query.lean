import Relational.Relation.Rename
import Relational.Scalar.Expr
import Relational.Schema

/-!
# Queries

The expressions of relational algebra, and the statements that use them.
-/

namespace Relational

/-- An entry of a projection: an expression, or a schema that stands for one
attribute reference for each of its names. -/
inductive ProjectItem
  | expr (expr : Expr)
  | schema (schema : SchemaExpr)

inductive Query
  | relvar (name : String)
  /-- A relation that is written out; its cells refer to no attributes. -/
  | constant (rows : List (List Expr))
  | rename (renamings : List Renaming) (input : Query)
  | project (items : List ProjectItem) (input : Query)
  | select (condition : Expr) (input : Query)
  | cross (left right : Query)
  | setOp (op : SetOp) (left right : Query)
  | join (kind : JoinKind) (condition : Option Expr) (left right : Query)
  | divide (left right : Query)
  | group (keys aggregates : List Expr) (input : Query)
  | parens (inner : Query)

def Query.operator : Query → Operator
  | relvar _ => .relvar
  | constant _ => .constant
  | rename .. => .rename
  | project .. => .project
  | select .. => .select
  | cross .. => .cross
  | setOp op .. => .setOp op
  | join kind .. => .join kind
  | divide .. => .divide
  | group .. => .group
  | parens _ => .parens

def Query.projectExprs (items : List Expr) (input : Query) : Query :=
  .project (items.map .expr) input

inductive Statement
  | assign (relvar : String) (names : Option (List String)) (query : Query)
  | compute (query : Query)
  | declare (schema : String) (names : List String)

end Relational
