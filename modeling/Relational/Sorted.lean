/-!
# Strictly sorted lists

A list that is strictly sorted by an asymmetric relation is determined by its
members.
-/

namespace Relational

theorem eq_of_sorted_of_mem_iff {α : Type} {lt : α → α → Prop} (asymm : ∀ a b, lt a b → ¬ lt b a) :
    {l l' : List α} → l.Pairwise lt → l'.Pairwise lt → (∀ a, a ∈ l ↔ a ∈ l') → l = l'
  | [], [], _, _, _ => rfl
  | [], a :: _, _, _, h => absurd ((h a).2 (List.mem_cons_self ..)) List.not_mem_nil
  | a :: _, [], _, _, h => absurd ((h a).1 (List.mem_cons_self ..)) List.not_mem_nil
  | a :: l, b :: l', ha, hb, h => by
    rw [List.pairwise_cons] at ha hb
    have heads : a = b := by
      rcases List.mem_cons.1 ((h a).1 (List.mem_cons_self ..)) with he | hm
      · exact he
      · rcases List.mem_cons.1 ((h b).2 (List.mem_cons_self ..)) with he | hm'
        · exact he.symm
        · exact absurd (ha.1 b hm') (asymm b a (hb.1 a hm))
    subst heads
    refine congrArg (a :: ·) (eq_of_sorted_of_mem_iff asymm ha.2 hb.2 fun c => ⟨fun hc => ?_, fun hc => ?_⟩)
    · rcases List.mem_cons.1 ((h c).1 (List.mem_cons_of_mem _ hc)) with he | hm
      · exact absurd (ha.1 c hc) (he ▸ fun hlt => asymm _ _ hlt hlt)
      · exact hm
    · rcases List.mem_cons.1 ((h c).2 (List.mem_cons_of_mem _ hc)) with he | hm
      · exact absurd (hb.1 c hc) (he ▸ fun hlt => asymm _ _ hlt hlt)
      · exact hm

end Relational
