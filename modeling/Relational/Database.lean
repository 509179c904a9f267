import Relational.Log
import Relational.NameMap
import Relational.Relation
import Relational.Schema

/-!
# Databases

A database holds relation variables, all of whose attributes are named, and
schemas, in name spaces of their own.
-/

namespace Relational

structure Database where
  relvars : NameMap Relation
  schemas : NameMap (List String)

namespace Database

protected def empty : Database := ⟨.empty, .empty⟩

theorem ext {db db' : Database} (hr : ∀ name, db.relvars.get? name = db'.relvars.get? name)
    (hs : ∀ name, db.schemas.get? name = db'.schemas.get? name) : db = db' := by
  have hr := NameMap.ext hr
  have hs := NameMap.ext hs
  cases db; cases db'; simp_all

def relvar (db : Database) (name : String) : Except EvalError Relation :=
  match db.relvars.get? name with
  | some r => .ok r
  | none => .error (.unknownRelvar name)

def schema (db : Database) (name : String) : Except EvalError (List String) :=
  match db.schemas.get? name with
  | some names => .ok names
  | none => .error (.unknownSchema name)

/-- Set a relation variable. Its value must have no unnamed attribute. -/
def store (db : Database) (name : String) (r : Relation) : Logged Database :=
  if r.hasUnnamed then .lift (.error (.unnamedAttribute (.storage name)))
  else do
    .record .debug (.stored name r.size)
    return { db with relvars := db.relvars.insert name r }

def delete (db : Database) (name : String) : Except EvalError (Relation × Database) := do
  let r ← db.relvar name
  return (r, { db with relvars := db.relvars.erase name })

def declare (db : Database) (name : String) (names : List String) : Logged Database :=
  match firstRepeat? names with
  | some repeated => .lift (.error (.duplicateAttribute repeated))
  | none => do
    .record .debug (.declared name names)
    return { db with schemas := db.schemas.insert name names }

end Database

def SchemaExpr.eval (db : Database) : SchemaExpr → Except EvalError (List String)
  | .name schema => do return distinct (← db.schema schema)
  | .setOp op left right => do
    let l ← left.eval db
    let r ← right.eval db
    return op.names l r
  | .parens inner => inner.eval db

end Relational
