import Relational.Row
import Relational.Sorted

/-!
# Sets of rows

A set of rows is its strictly increasing list in storage order, so two sets
with the same members are equal (`RowSet.ext`). Every operation is described
by its members.
-/

namespace Relational

structure RowSet where
  toList : List Row
  sorted : toList.Pairwise (· < ·)
deriving DecidableEq

namespace RowSet

instance : Membership Row RowSet := ⟨fun s t => t ∈ s.toList⟩

instance (t : Row) (s : RowSet) : Decidable (t ∈ s) := inferInstanceAs (Decidable (t ∈ s.toList))

theorem mem_toList {t : Row} {s : RowSet} : t ∈ s.toList ↔ t ∈ s := Iff.rfl

theorem toList_inj {s s' : RowSet} : s.toList = s'.toList ↔ s = s' := by
  cases s; cases s'; simp

theorem nodup_toList (s : RowSet) : s.toList.Nodup := s.sorted.imp Row.ne_of_lt

theorem ext {s s' : RowSet} (h : ∀ t, t ∈ s ↔ t ∈ s') : s = s' :=
  toList_inj.1 (eq_of_sorted_of_mem_iff (fun _ _ => Row.lt_asymm) s.sorted s'.sorted h)

def size (s : RowSet) : Nat := s.toList.length

def isEmpty (s : RowSet) : Bool := s.toList.isEmpty

protected def empty : RowSet := ⟨[], .nil⟩

theorem not_mem_empty (t : Row) : ¬ t ∈ RowSet.empty := List.not_mem_nil

def insertInto (t : Row) : List Row → List Row
  | [] => [t]
  | u :: l => if t < u then t :: u :: l else if u < t then u :: insertInto t l else u :: l

theorem mem_insertInto {t u : Row} {l : List Row} : u ∈ insertInto t l ↔ u = t ∨ u ∈ l := by
  induction l with
  | nil => simp [insertInto]
  | cons v l ih =>
    unfold insertInto
    split
    · simp
    · split
      · simp [ih, or_left_comm]
      · rename_i h h'
        have : t = v := Row.eq_of_not_lt h h'
        simp [this]

theorem sorted_insertInto {t : Row} {l : List Row} (h : l.Pairwise (· < ·)) :
    (insertInto t l).Pairwise (· < ·) := by
  induction l with
  | nil => simp [insertInto]
  | cons v l ih =>
    rw [List.pairwise_cons] at h
    unfold insertInto
    split
    · rename_i hlt
      refine List.pairwise_cons.2 ⟨fun u hu => ?_, List.pairwise_cons.2 h⟩
      rcases List.mem_cons.1 hu with rfl | hm
      · exact hlt
      · exact Row.lt_trans hlt (h.1 u hm)
    · split
      · rename_i hlt
        refine List.pairwise_cons.2 ⟨fun u hu => ?_, ih h.2⟩
        rcases mem_insertInto.1 hu with rfl | hm
        · exact hlt
        · exact h.1 u hm
      · exact List.pairwise_cons.2 h

def insert (t : Row) (s : RowSet) : RowSet := ⟨insertInto t s.toList, sorted_insertInto s.sorted⟩

theorem mem_insert {t u : Row} {s : RowSet} : u ∈ s.insert t ↔ u = t ∨ u ∈ s := mem_insertInto

/-- The set of the rows of a list, in any order and with repetitions. -/
def ofList (l : List Row) : RowSet := l.foldr (fun t s => s.insert t) .empty

theorem mem_ofList {t : Row} {l : List Row} : t ∈ ofList l ↔ t ∈ l := by
  induction l with
  | nil => simp [ofList, not_mem_empty]
  | cons u l ih =>
    rw [List.mem_cons, ← ih]
    exact mem_insert

theorem ofList_toList (s : RowSet) : ofList s.toList = s := ext fun _ => mem_ofList

theorem toList_ofList {l : List Row} (h : l.Pairwise (· < ·)) : (ofList l).toList = l :=
  congrArg toList (ofList_toList ⟨l, h⟩)

def insertAll (s : RowSet) (l : List Row) : RowSet := l.foldl (fun s t => s.insert t) s

theorem mem_insertAll {t : Row} {s : RowSet} {l : List Row} :
    t ∈ s.insertAll l ↔ t ∈ s ∨ t ∈ l := by
  induction l generalizing s with
  | nil => simp [insertAll]
  | cons u l ih =>
    have hcons : s.insertAll (u :: l) = (s.insert u).insertAll l := rfl
    simp only [hcons, ih, mem_insert, List.mem_cons, or_assoc, or_left_comm]

def filter (p : Row → Bool) (s : RowSet) : RowSet := ⟨s.toList.filter p, s.sorted.filter p⟩

theorem mem_filter {p : Row → Bool} {t : Row} {s : RowSet} : t ∈ s.filter p ↔ t ∈ s ∧ p t :=
  List.mem_filter

def union (s s' : RowSet) : RowSet := ofList (s.toList ++ s'.toList)

theorem mem_union {t : Row} {s s' : RowSet} : t ∈ s.union s' ↔ t ∈ s ∨ t ∈ s' :=
  mem_ofList.trans List.mem_append

def inter (s s' : RowSet) : RowSet := s.filter (decide <| · ∈ s')

theorem mem_inter {t : Row} {s s' : RowSet} : t ∈ s.inter s' ↔ t ∈ s ∧ t ∈ s' := by
  simp [inter, mem_filter]

def diff (s s' : RowSet) : RowSet := s.filter (decide <| ¬ · ∈ s')

theorem mem_diff {t : Row} {s s' : RowSet} : t ∈ s.diff s' ↔ t ∈ s ∧ ¬ t ∈ s' := by
  simp [diff, mem_filter]

end RowSet

end Relational
