import Relational.Relation

/-!
# Division

The quotient holds the rows that the dividend pairs with every row of the
divisor. Each attribute of the divisor is matched by its local name to one
attribute of the dividend, and the quotient has the attributes that are left.
-/

namespace Relational.Relation

def counterpart (dividend : List Attribute) : Attribute → Except EvalError Nat
  | none => .error (.divisorMismatch none)
  | some name =>
    match resolve (localName name) dividend with
    | .ok i => .ok i
    | .error _ => .error (.divisorMismatch (some name))

theorem lt_length_of_counterpart {dividend : List Attribute} {divisor : Attribute} {i : Nat}
    (h : counterpart dividend divisor = .ok i) : i < dividend.length := by
  unfold counterpart at h
  split at h
  · cases h
  · split at h
    · rename_i hr
      obtain rfl := Except.ok.inj h
      exact lt_length_of_resolve hr
    · cases h

/-- The positions of the divisor attributes, which have to be different from
each other and from the positions taken already. -/
def counterparts (dividend : List Attribute) (taken : List Nat) :
    List Attribute → Except EvalError (List Nat)
  | [] => .ok []
  | divisor :: rest => do
    let i ← counterpart dividend divisor
    if i ∈ taken then
      throw (.divisorMismatch divisor)
    let positions ← counterparts dividend (i :: taken) rest
    return i :: positions

/-- The candidates for the quotient, each with the pieces that it stands beside in the dividend. -/
abbrev Pairings := List (Row × RowSet)

namespace Pairings

def add (q s : Row) : Pairings → Pairings
  | [] => [(q, RowSet.empty.insert s)]
  | (k, paired) :: pairings =>
    if k = q then (k, paired.insert s) :: pairings else (k, paired) :: add q s pairings

def ofRows (staying matched : List Nat) (rows : List Row) : Pairings :=
  rows.foldl (fun pairings t => add (Row.pick staying t) (Row.pick matched t) pairings) []

def quotient (divisor : RowSet) (pairings : Pairings) : RowSet :=
  .ofList <| (pairings.filter fun entry => divisor.toList.all fun s => decide (s ∈ entry.2)).map
    Prod.fst

end Pairings

def quotientRows (staying matched : List Nat) (dividend divisor : RowSet) : RowSet :=
  (Pairings.ofRows staying matched dividend.toList).quotient divisor

def divide (dividend divisor : Relation) : Except EvalError Relation := do
  let matched ← counterparts dividend.attributes [] divisor.attributes
  let staying := (List.range dividend.arity).filter fun i => !matched.contains i
  return ⟨staying.map fun i => dividend.attributes.getD i none,
    quotientRows staying matched dividend.rows divisor.rows⟩

end Relational.Relation
