/-!
# Repetitions in a list

The repetition that is reported is the first member, from the left, that has
been seen before.
-/

namespace Relational

def firstRepeat? {α : Type} [DecidableEq α] (l : List α) : Option α := go [] l
where
  go (seen : List α) : List α → Option α
  | [] => none
  | a :: l => if a ∈ seen then some a else go (a :: seen) l

private theorem firstRepeat_go_eq_none {α : Type} [DecidableEq α] {seen l : List α} :
    firstRepeat?.go seen l = none ↔ l.Nodup ∧ ∀ a ∈ l, a ∉ seen := by
  induction l generalizing seen with
  | nil => simp [firstRepeat?.go]
  | cons a l ih =>
    unfold firstRepeat?.go
    split
    · rename_i h
      simp [h]
    · rename_i h
      simp only [ih, List.nodup_cons, List.mem_cons, not_or, forall_eq_or_imp]
      constructor
      · intro ⟨hn, hs⟩
        exact ⟨⟨fun ha => (hs a ha).1 rfl, hn⟩, h, fun b hb => (hs b hb).2⟩
      · intro ⟨⟨ha, hn⟩, _, hs⟩
        exact ⟨hn, fun b hb => ⟨fun he => ha (he ▸ hb), hs b hb⟩⟩

theorem firstRepeat?_eq_none_iff {α : Type} [DecidableEq α] {l : List α} :
    firstRepeat? l = none ↔ l.Nodup := by
  simp [firstRepeat?, firstRepeat_go_eq_none]

private theorem mem_of_firstRepeat_go {α : Type} [DecidableEq α] {seen l : List α} {a : α}
    (h : firstRepeat?.go seen l = some a) : a ∈ l := by
  induction l generalizing seen with
  | nil => cases h
  | cons b l ih =>
    unfold firstRepeat?.go at h
    split at h
    · obtain rfl := Option.some.inj h
      exact List.mem_cons_self ..
    · exact List.mem_cons_of_mem _ (ih h)

theorem mem_of_firstRepeat? {α : Type} [DecidableEq α] {l : List α} {a : α}
    (h : firstRepeat? l = some a) : a ∈ l := mem_of_firstRepeat_go h

end Relational
