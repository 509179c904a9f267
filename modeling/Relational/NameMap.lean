import Relational.Sorted

/-!
# Maps from names

A map from names to values is its list of entries in the order of the names,
so two maps with the same look-ups are equal (`NameMap.ext`).
-/

namespace Relational

structure NameMap (α : Type) where
  entries : List (String × α)
  sorted : entries.Pairwise (·.1 < ·.1)

namespace NameMap

variable {α : Type}

protected def empty : NameMap α := ⟨[], .nil⟩

def find? (name : String) : List (String × α) → Option α
  | [] => none
  | (n, a) :: l => if name = n then some a else find? name l

def get? (m : NameMap α) (name : String) : Option α := find? name m.entries

def names (m : NameMap α) : List String := m.entries.map Prod.fst

def insertInto (name : String) (a : α) : List (String × α) → List (String × α)
  | [] => [(name, a)]
  | (n, b) :: l =>
    if name < n then (name, a) :: (n, b) :: l
    else if n < name then (n, b) :: insertInto name a l
    else (name, a) :: l

theorem fst_mem_insertInto {name : String} {a : α} {l : List (String × α)} {entry : String × α}
    (h : entry ∈ insertInto name a l) : entry = (name, a) ∨ entry ∈ l := by
  induction l with
  | nil => simpa [insertInto] using h
  | cons head l ih =>
    unfold insertInto at h
    split at h
    · simpa using h
    · split at h
      · rcases List.mem_cons.1 h with rfl | h
        · simp
        · exact (ih h).imp_right (List.mem_cons_of_mem _)
      · exact (List.mem_cons.1 h).imp_right (List.mem_cons_of_mem _)

theorem sorted_insertInto {name : String} {a : α} {l : List (String × α)}
    (h : l.Pairwise (·.1 < ·.1)) : (insertInto name a l).Pairwise (·.1 < ·.1) := by
  induction l with
  | nil => simp [insertInto]
  | cons head l ih =>
    obtain ⟨n, b⟩ := head
    rw [List.pairwise_cons] at h
    unfold insertInto
    split
    · rename_i hlt
      refine List.pairwise_cons.2 ⟨fun entry he => ?_, List.pairwise_cons.2 h⟩
      rcases List.mem_cons.1 he with rfl | hm
      · exact hlt
      · exact String.lt_trans hlt (h.1 entry hm)
    · split
      · rename_i hlt
        refine List.pairwise_cons.2 ⟨fun entry he => ?_, ih h.2⟩
        rcases fst_mem_insertInto he with rfl | hm
        · exact hlt
        · exact h.1 entry hm
      · rename_i hge hle
        have : name = n := String.le_antisymm hle hge
        exact List.pairwise_cons.2 ⟨this ▸ h.1, h.2⟩

def insert (m : NameMap α) (name : String) (a : α) : NameMap α :=
  ⟨insertInto name a m.entries, sorted_insertInto m.sorted⟩

def erase (m : NameMap α) (name : String) : NameMap α :=
  ⟨m.entries.filter (·.1 ≠ name), m.sorted.filter _⟩

private theorem find?_insertInto {name : String} {a : α} {l : List (String × α)} (other : String) :
    find? other (insertInto name a l) = if other = name then some a else find? other l := by
  induction l with
  | nil => rfl
  | cons head l ih =>
    obtain ⟨n, b⟩ := head
    unfold insertInto
    split
    · rfl
    · split
      · rename_i hlt
        rw [find?, find?, ih]
        by_cases he : other = n
        · subst he
          have : other ≠ name := fun he => String.lt_irrefl name (he ▸ hlt)
          simp [this]
        · simp [he]
      · rename_i hge hle
        have : name = n := String.le_antisymm hle hge
        subst this
        by_cases he : other = name <;> simp [find?, he]

theorem get?_insert (m : NameMap α) (name other : String) (a : α) :
    (m.insert name a).get? other = if other = name then some a else m.get? other :=
  find?_insertInto other

private theorem find?_filter_ne {name : String} {l : List (String × α)} (other : String) :
    find? other (l.filter (·.1 ≠ name)) = if other = name then none else find? other l := by
  induction l with
  | nil => simp [find?]
  | cons head l ih =>
    obtain ⟨n, b⟩ := head
    rw [List.filter_cons]
    by_cases hn : n = name
    · subst hn
      by_cases ho : other = n <;> simp_all [find?]
    · by_cases ho : other = n
      · subst ho
        simp [hn, find?]
      · simp only [ne_eq, hn, not_false_eq_true, decide_true, ↓reduceIte, find?, ho]
        exact ih

theorem get?_erase (m : NameMap α) (name other : String) :
    (m.erase name).get? other = if other = name then none else m.get? other :=
  find?_filter_ne other

section

variable {p : String → α → Prop} {m : NameMap α}

theorem forall_insert (h : ∀ name a, m.get? name = some a → p name a) {name : String} {a : α}
    (ha : p name a) : ∀ other b, (m.insert name a).get? other = some b → p other b := by
  intro other b hb
  rw [get?_insert] at hb
  split at hb
  · rename_i ho
    obtain rfl := Option.some.inj hb
    exact ho ▸ ha
  · exact h other b hb

theorem forall_erase (h : ∀ name a, m.get? name = some a → p name a) (name : String) :
    ∀ other b, (m.erase name).get? other = some b → p other b := by
  intro other b hb
  rw [get?_erase] at hb
  split at hb
  · cases hb
  · exact h other b hb

end

private theorem mem_iff_find? {name : String} {a : α} {l : List (String × α)}
    (h : l.Pairwise (·.1 < ·.1)) : (name, a) ∈ l ↔ find? name l = some a := by
  induction l with
  | nil => simp [find?]
  | cons head l ih =>
    obtain ⟨n, b⟩ := head
    rw [List.pairwise_cons] at h
    rw [List.mem_cons, ih h.2, find?]
    by_cases he : name = n
    · subst he
      have : find? name l ≠ some a := fun hf =>
        String.lt_irrefl name (h.1 (name, a) ((ih h.2).2 hf))
      simp [this, eq_comm]
    · simp [he]

theorem mem_entries_iff {m : NameMap α} {name : String} {a : α} :
    (name, a) ∈ m.entries ↔ m.get? name = some a := mem_iff_find? m.sorted

theorem ext {m m' : NameMap α} (h : ∀ name, m.get? name = m'.get? name) : m = m' := by
  have : m.entries = m'.entries :=
    eq_of_sorted_of_mem_iff (fun _ _ => String.lt_asymm) m.sorted m'.sorted fun (name, a) => by
      rw [mem_entries_iff, mem_entries_iff, h]
  cases m; cases m'; simp_all

end NameMap

end Relational
