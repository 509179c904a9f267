import Mathlib.Data.Finset.Card
import Relational.Proofs.Outcome
import Relational.Relation.SetOp

/-!
# The algebra of set operations

A set of rows loses nothing but its order when it is read as a finite set, so what is known
of unions, intersections and differences of finite sets holds of sets of rows, sizes included.
A set operation on relations succeeds if and only if they have equally many attributes, and
then works on their rows alone. The laws of sets are therefore laws of relations
(`laws_of_combine`).
-/

namespace Relational

namespace RowSet

variable {s s' s'' : RowSet} {t : Row}

def toFinset (s : RowSet) : Finset Row := s.toList.toFinset

@[simp] theorem mem_toFinset : t ∈ s.toFinset ↔ t ∈ s := List.mem_toFinset

theorem toFinset_inj : s.toFinset = s'.toFinset ↔ s = s' := by
  refine ⟨fun h => ext fun t => ?_, fun h => h ▸ rfl⟩
  rw [← mem_toFinset, h, mem_toFinset]

@[simp] theorem card_toFinset (s : RowSet) : s.toFinset.card = s.size :=
  List.toFinset_card_of_nodup s.nodup_toList

@[simp] theorem toFinset_union (s s' : RowSet) :
    (s.union s').toFinset = s.toFinset ∪ s'.toFinset := by
  ext t
  simp [mem_union]

@[simp] theorem toFinset_inter (s s' : RowSet) :
    (s.inter s').toFinset = s.toFinset ∩ s'.toFinset := by
  ext t
  simp [mem_inter]

@[simp] theorem toFinset_diff (s s' : RowSet) :
    (s.diff s').toFinset = s.toFinset \ s'.toFinset := by
  ext t
  simp [mem_diff]

theorem size_union_add_size_inter (s s' : RowSet) :
    (s.union s').size + (s.inter s').size = s.size + s'.size := by
  simpa only [← toFinset_union, ← toFinset_inter, card_toFinset] using
    Finset.card_union_add_card_inter s.toFinset s'.toFinset

theorem size_diff_add_size_inter (s s' : RowSet) :
    (s.diff s').size + (s.inter s').size = s.size := by
  simpa only [← toFinset_diff, ← toFinset_inter, card_toFinset] using
    Finset.card_sdiff_add_card_inter s.toFinset s'.toFinset

theorem diff_diff_self_left (s s' : RowSet) : s.diff (s.diff s') = s.inter s' := by
  simp [← toFinset_inj]

theorem diff_union (s s' s'' : RowSet) :
    s.diff (s'.union s'') = (s.diff s').inter (s.diff s'') := by
  simp [← toFinset_inj, Finset.sdiff_union_distrib]

theorem union_self (s : RowSet) : s.union s = s := by
  simp [← toFinset_inj]

theorem inter_self (s : RowSet) : s.inter s = s := by
  simp [← toFinset_inj]

end RowSet

namespace Relation

variable {left right a b c : Relation} {op : SetOp}

theorem contains_iff {r : Relation} {t : Row} : r.contains t ↔ t ∈ r.rows := decide_eq_true_iff

theorem exists_combine_iff : (∃ s, left.combine op right = .ok s) ↔ left.arity = right.arity := by
  by_cases h : left.arity = right.arity
  · simp [combine_of_arity_eq op h, h]
  · simp [combine_of_arity_ne op h, h]

theorem combine_union_self (a : Relation) : a.combine .union a = .ok a := by
  rw [combine_of_arity_eq .union rfl]
  simp only [SetOp.rows, RowSet.union_self]

theorem combine_intersect_self (a : Relation) : a.combine .intersect a = .ok a := by
  rw [combine_of_arity_eq .intersect rfl]
  simp only [SetOp.rows, RowSet.inter_self]

theorem combine_difference_difference (h : a.arity = b.arity) :
    (a.combine .difference b >>= fun rest => a.combine .difference rest) =
      a.combine .intersect b := by
  have hrest : a.arity = (⟨a.attributes, a.rows.diff b.rows⟩ : Relation).arity := rfl
  rw [combine_of_arity_eq .difference h, ok_bind, combine_of_arity_eq .intersect h]
  refine (combine_of_arity_eq .difference hrest).trans ?_
  simp only [SetOp.rows, RowSet.diff_diff_self_left]

theorem combine_difference_union (hb : a.arity = b.arity) (hc : a.arity = c.arity) :
    (b.combine .union c >>= fun either => a.combine .difference either) =
      (a.combine .difference b >>= fun rest => a.combine .difference c >>= fun rest' =>
        rest.combine .intersect rest') := by
  have heither : a.arity = (⟨b.attributes, b.rows.union c.rows⟩ : Relation).arity := hb
  have hrest : (⟨a.attributes, a.rows.diff b.rows⟩ : Relation).arity =
      (⟨a.attributes, a.rows.diff c.rows⟩ : Relation).arity := rfl
  rw [combine_of_arity_eq .union (hb.symm.trans hc), combine_of_arity_eq .difference hb,
    combine_of_arity_eq .difference hc, ok_bind, ok_bind, ok_bind]
  refine (combine_of_arity_eq .difference heither).trans ?_
  refine Eq.trans ?_ (combine_of_arity_eq .intersect hrest).symm
  simp only [SetOp.rows, RowSet.diff_union]

/-- A set operation fails if and only if the operands differ in their number of attributes. Its
result has the attributes of the left operand and, in storage order, the rows that the operation
is about. On relations with equally many attributes the operations all succeed, the sizes add
up, and intersections and differences by a union come from differences, attributes and all. -/
theorem laws_of_combine :
    (∀ (op : SetOp) (left right : Relation),
      (left.arity ≠ right.arity → left.combine op right =
        .error (.arityMismatch (.setOp op) left.arity right.arity)) ∧
      ((∃ s, left.combine op right = .ok s) ↔ left.arity = right.arity) ∧
      ∀ s, left.combine op right = .ok s →
        s.attributes = left.attributes ∧ s.rows.toList.Pairwise (· < ·) ∧
        ∀ t, s.contains t ↔
          match op with
          | .union => left.contains t ∨ right.contains t
          | .intersect => left.contains t ∧ right.contains t
          | .difference => left.contains t ∧ ¬ right.contains t) ∧
    ∀ a b c : Relation, a.arity = b.arity → a.arity = c.arity →
      (∃ either both rest, a.combine .union b = .ok either ∧ a.combine .intersect b = .ok both ∧
        a.combine .difference b = .ok rest ∧
        either.size + both.size = a.size + b.size ∧ rest.size + both.size = a.size) ∧
      (a.combine .difference b >>= fun rest => a.combine .difference rest) =
        a.combine .intersect b ∧
      (b.combine .union c >>= fun either => a.combine .difference either) =
        (a.combine .difference b >>= fun rest => a.combine .difference c >>= fun rest' =>
          rest.combine .intersect rest') ∧
      (∃ s, (b.combine .union c >>= fun either => a.combine .difference either) = .ok s) ∧
      a.combine .union a = .ok a ∧ a.combine .intersect a = .ok a := by
  refine ⟨fun op left right => ⟨combine_of_arity_ne op, exists_combine_iff, fun s hs => ?_⟩, ?_⟩
  · have harity := exists_combine_iff.1 ⟨s, hs⟩
    obtain rfl := Except.ok.inj ((combine_of_arity_eq op harity).symm.trans hs)
    refine ⟨rfl, RowSet.sorted _, fun t => ?_⟩
    simp only [contains_iff]
    exact SetOp.mem_rows_iff
  · intro a b c hb hc
    refine ⟨?_, combine_difference_difference hb, combine_difference_union hb hc, ?_,
      combine_union_self a, combine_intersect_self a⟩
    · exact ⟨_, _, _, combine_of_arity_eq .union hb, combine_of_arity_eq .intersect hb,
        combine_of_arity_eq .difference hb, RowSet.size_union_add_size_inter ..,
        RowSet.size_diff_add_size_inter ..⟩
    · rw [combine_of_arity_eq .union (hb.symm.trans hc), ok_bind]
      exact ⟨_, combine_of_arity_eq .difference hb⟩

theorem laws_of_combine_mixed :
    let a : Relation := ⟨[some "R.x"], .ofList
      [[.text "a"], [.null], [.boolean true], [.number .one]]⟩
    let b : Relation := ⟨[none], .ofList [[.number .one], [.number .zero], [.null]]⟩
    let c : Relation := ⟨[some "y"], .ofList [[.boolean true]]⟩
    a.arity = b.arity ∧ a.arity = c.arity ∧
      (∃ either both rest, a.combine .union b = .ok either ∧ a.combine .intersect b = .ok both ∧
        a.combine .difference b = .ok rest ∧ either.size + both.size = 7 ∧
        rest.size + both.size = 4 ∧ ∀ t, rest.contains t ↔ a.contains t ∧ ¬ b.contains t) ∧
      (a.combine .difference b >>= fun rest => a.combine .difference c >>= fun rest' =>
        rest.combine .intersect rest') = .ok ⟨[some "R.x"], .ofList [[.text "a"]]⟩ ∧
      a.combine .union ⟨[], .empty⟩ = .error (.arityMismatch (.setOp .union) 1 0) := by
  intro a b c
  obtain ⟨hop, hlaws⟩ := laws_of_combine
  obtain ⟨⟨either, both, rest, he, hi, hd, hsum, hrest⟩, -, hunion, -⟩ := hlaws a b c rfl rfl
  obtain ⟨-, -, hrows⟩ := hop .difference a b
  refine ⟨rfl, rfl, ⟨either, both, rest, he, hi, hd, hsum, hrest, (hrows rest hd).2.2⟩, ?_, ?_⟩
  · rw [← hunion]
    rfl
  · exact (hop .union a ⟨[], .empty⟩).1 (by decide)

end Relation

end Relational
