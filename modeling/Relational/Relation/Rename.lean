import Relational.Relation

/-!
# Renaming

A renaming substitutes all its names at once: every source is resolved in the
old attributes, so two attributes can change places.
-/

namespace Relational

structure Renaming where
  source : String
  target : String
deriving DecidableEq

namespace Relation

def renamingTarget (attributes : List Attribute) (name : Renaming) :
    Except EvalError (Nat × String) := do
  return (← resolve name.source attributes, name.target)

def substitute (targets : List (Nat × String)) (attributes : List Attribute) : List Attribute :=
  attributes.mapIdx fun i old =>
    match targets.lookup i with
    | some new => some new
    | none => old

theorem length_substitute (targets : List (Nat × String)) (attributes : List Attribute) :
    (substitute targets attributes).length = attributes.length := List.length_mapIdx

def checkTargets (attributes : List Attribute) (targets : List (Nat × String)) :
    Except EvalError Unit :=
  match firstRepeat? (targets.map Prod.fst) with
  | some i => .error (.duplicateAttribute ((attributes[i]?.join).getD ""))
  | none => .ok ()

theorem nodup_of_checkTargets {attributes : List Attribute} {targets : List (Nat × String)}
    (h : checkTargets attributes targets = .ok ()) : (targets.map Prod.fst).Nodup := by
  unfold checkTargets at h
  split at h
  · cases h
  · rename_i hn
    exact firstRepeat?_eq_none_iff.1 hn

def rename (r : Relation) (renamings : List Renaming) : Except EvalError Relation := do
  let targets ← renamings.mapM (renamingTarget r.attributes)
  checkTargets r.attributes targets
  let attributes := substitute targets r.attributes
  checkDistinct attributes
  return ⟨attributes, r.rows⟩

end Relation

end Relational
