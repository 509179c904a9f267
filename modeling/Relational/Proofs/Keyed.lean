import Mathlib.Data.List.Nodup

/-!
# Keyed entries

A list of entries with distinct keys is a map: looking a key up gives the entry that has it
(`lookup_eq_some_iff_mem`), and putting an entry changes what its key gives and nothing else
(`lookup_put`).
-/

namespace Relational

variable {α β : Type}

theorem lookup_eq_some_iff_mem [BEq α] [LawfulBEq α] {l : List (α × β)}
    (hn : (l.map Prod.fst).Nodup) {a : α} {b : β} : l.lookup a = some b ↔ (a, b) ∈ l := by
  induction l with
  | nil => simp
  | cons head l ih =>
    obtain ⟨a', b'⟩ := head
    rw [List.map_cons, List.nodup_cons] at hn
    rw [List.lookup_cons, List.mem_cons, ← ih hn.2]
    by_cases h : a = a'
    · subst h
      have hl : (a, b) ∉ l := fun hm => hn.1 (List.mem_map.2 ⟨_, hm, rfl⟩)
      simp [ih hn.2, hl, eq_comm]
    · simp [beq_false_of_ne h, h]

section

variable [DecidableEq α] {entries : List (α × β)} {key a : α} {b : β}

/-- Give a key its entry, in place of the one that it has, or at the end. -/
def put (key : α) (b : β) : List (α × β) → List (α × β)
  | [] => [(key, b)]
  | (a, old) :: entries => if a = key then (a, b) :: entries else (a, old) :: put key b entries

theorem lookup_put [BEq α] [LawfulBEq α] :
    (put key b entries).lookup a = if a = key then some b else entries.lookup a := by
  induction entries with
  | nil => by_cases h : a = key <;> simp [put, List.lookup_cons, h, beq_false_of_ne]
  | cons entry entries ih =>
    obtain ⟨a', old⟩ := entry
    unfold put
    split
    · rename_i h
      subst h
      by_cases ha : a = a' <;> simp [List.lookup_cons, ha, beq_false_of_ne]
    · rename_i h
      by_cases ha : a = a'
      · subst ha
        simp [h]
      · simp [List.lookup_cons, beq_false_of_ne ha, ih]

theorem mem_keys_put :
    a ∈ (put key b entries).map Prod.fst ↔ a = key ∨ a ∈ entries.map Prod.fst := by
  induction entries with
  | nil => simp [put]
  | cons entry entries ih =>
    obtain ⟨a', old⟩ := entry
    unfold put
    split
    · rename_i h
      simp [h]
    · simp only [List.map_cons, List.mem_cons, ih, or_left_comm]

theorem nodup_keys_put (hn : (entries.map Prod.fst).Nodup) :
    ((put key b entries).map Prod.fst).Nodup := by
  induction entries with
  | nil => simp [put]
  | cons entry entries ih =>
    obtain ⟨a, old⟩ := entry
    rw [List.map_cons, List.nodup_cons] at hn
    unfold put
    split
    · exact List.nodup_cons.2 hn
    · rename_i h
      refine List.nodup_cons.2 ⟨fun hm => ?_, ih hn.2⟩
      rcases mem_keys_put.1 hm with he | hm
      · exact h he
      · exact hn.1 hm

end

end Relational
