import Relational.Value

/-!
# Rows

A row is a list of values. Rows are stored in lexicographic order, a proper
initial part before the longer row.
-/

namespace Relational

abbrev Row := List Value

namespace Row

theorem lt_irrefl (t : Row) : ¬ t < t := List.lt_irrefl t

theorem lt_trans {s t u : Row} (h : s < t) (h' : t < u) : s < u := List.lt_trans h h'

theorem lt_asymm {s t : Row} (h : s < t) : ¬ t < s := List.lt_asymm h

theorem eq_of_not_lt {s t : Row} (h : ¬ s < t) (h' : ¬ t < s) : s = t :=
  List.lex_trichotomous (fun _ _ => Value.eq_of_not_lt) h' h

theorem ne_of_lt {s t : Row} (h : s < t) : s ≠ t := fun he => lt_irrefl t (he ▸ h)

/-- The values at the given positions. A position past the end gives null. -/
def pick (positions : List Nat) (t : Row) : Row := positions.map fun i => t.getD i .null

theorem length_pick (positions : List Nat) (t : Row) :
    (pick positions t).length = positions.length := List.length_map _

def nulls (n : Nat) : Row := List.replicate n .null

theorem length_nulls (n : Nat) : (nulls n).length = n := List.length_replicate

end Row

end Relational
