import Relational.Distinct
import Relational.Resolution
import Relational.RowSet

/-!
# Relation values

A relation value is a list of attributes and a set of rows. Its arity is
established as soon as it has an attribute or a row. While it is built, named
attributes stay distinct and rows have one value for each attribute
(`Relation.WellFormed`, `Relation.NamesDistinct`).
-/

namespace Relational

structure Relation where
  attributes : List Attribute
  rows : RowSet
deriving DecidableEq

def attributeNames (attributes : List Attribute) : List String := attributes.filterMap id

def checkDistinct (attributes : List Attribute) : Except EvalError Unit :=
  match firstRepeat? (attributeNames attributes) with
  | some name => .error (.duplicateAttribute name)
  | none => .ok ()

theorem checkDistinct_eq_ok_iff {attributes : List Attribute} :
    checkDistinct attributes = .ok () ↔ (attributeNames attributes).Nodup := by
  unfold checkDistinct
  split
  · rename_i h
    simp [← firstRepeat?_eq_none_iff, h]
  · rename_i h
    simp [firstRepeat?_eq_none_iff.1 h]

theorem exists_checkDistinct_error {attributes : List Attribute}
    (h : ¬ (attributeNames attributes).Nodup) :
    ∃ name, checkDistinct attributes = .error (.duplicateAttribute name) := by
  unfold checkDistinct
  split
  · exact ⟨_, rfl⟩
  · rename_i hn
    exact absurd (firstRepeat?_eq_none_iff.1 hn) h

namespace Relation

/-- Every row has one value for each attribute. -/
def WellFormed (r : Relation) : Prop := ∀ t ∈ r.rows, t.length = r.attributes.length

def NamesDistinct (r : Relation) : Prop := (attributeNames r.attributes).Nodup

def arity (r : Relation) : Nat := r.attributes.length

def size (r : Relation) : Nat := r.rows.size

def isEmpty (r : Relation) : Bool := r.rows.isEmpty

def contains (r : Relation) (t : Row) : Bool := decide (t ∈ r.rows)

def hasUnnamed (r : Relation) : Bool := r.attributes.any Option.isNone

def arityEstablished (r : Relation) : Bool := !r.attributes.isEmpty || !r.rows.isEmpty

def scope (r : Relation) (t : Row) : Scope := r.attributes.zip t

protected def empty : Relation := ⟨[], .empty⟩

def withAttributes (attributes : List Attribute) : Except EvalError Relation := do
  checkDistinct attributes
  return ⟨attributes, .empty⟩

def named (names : List String) : Except EvalError Relation := withAttributes (names.map some)

/-- Give the attributes new names. The first ones of a relation whose arity is
open may be any number. -/
def setAttributes (r : Relation) (attributes : List Attribute) : Except EvalError Relation := do
  if r.arityEstablished ∧ attributes.length ≠ r.arity then
    throw (.arityMismatch .naming r.arity attributes.length)
  checkDistinct attributes
  return ⟨attributes, r.rows⟩

def setNames (r : Relation) (names : List String) : Except EvalError Relation :=
  r.setAttributes (names.map some)

/-- Add a row. The first row of a relation whose arity is open settles it and
leaves the attributes unnamed. -/
def addRow (r : Relation) (t : Row) : Except EvalError Relation :=
  if !r.arityEstablished then .ok ⟨List.replicate t.length none, r.rows.insert t⟩
  else if t.length ≠ r.arity then .error (.arityMismatch .row r.arity t.length)
  else .ok ⟨r.attributes, r.rows.insert t⟩

def addRows (r : Relation) (rows : List Row) : Except EvalError Relation := rows.foldlM addRow r

def ofRows (attributes : List Attribute) (rows : List Row) : Except EvalError Relation := do
  (← withAttributes attributes).addRows rows

def qualifyAttribute (relvar : String) : Attribute → Except EvalError Attribute
  | some name => .ok (some (qualify relvar (localName name)))
  | none => .error (.unnamedAttribute (.qualification relvar))

/-- The same rows under the local names, qualified by a relation variable. -/
def qualified (r : Relation) (relvar : String) : Except EvalError Relation := do
  let attributes ← r.attributes.mapM (qualifyAttribute relvar)
  checkDistinct attributes
  return ⟨attributes, r.rows⟩

/-- The table of a relation: the attributes, a rule as long as they are in
UTF-8, and a line for each row. -/
def render (r : Relation) : String :=
  let header := "(" ++ ",".intercalate (r.attributes.map (·.getD "unnamed")) ++ ")"
  let rule := String.ofList (List.replicate header.utf8ByteSize '-')
  let lines :=
    if r.isEmpty then ["no rows"]
    else r.rows.toList.map fun t => "(" ++ ", ".intercalate (t.map Value.render) ++ ")"
  String.join ((header :: rule :: lines).map (· ++ "\n"))

end Relation

end Relational
