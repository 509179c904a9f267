import Mathlib.Data.List.Forall2
import Mathlib.Data.List.Perm.Subperm
import Relational.Proofs.Keyed
import Relational.Proofs.Outcome

/-!
# The rows of the results

When a selection or a projection succeeds, and which rows the result has. Both
go through the rows in storage order and stop at the first failure, but for
success the order makes no difference: what they do has to succeed on every
row.
-/

namespace Relational

section

variable {ε α β : Type}

theorem exists_keepM_iff {test : α → Except ε Bool} {l : List α} :
    (∃ kept, keepM test l = .ok kept) ↔ ∀ a ∈ l, ∃ pass, test a = .ok pass := by
  constructor
  · rintro ⟨kept, h⟩ a ha
    exact ⟨_, (keepM_eq_ok_iff.1 h).1 a ha⟩
  · intro h
    refine ⟨_, keepM_eq_ok_iff.2 ⟨fun a ha => ?_, rfl⟩⟩
    obtain ⟨pass, hp⟩ := h a ha
    rw [passes, hp]

theorem mem_keepM_iff {test : α → Except ε Bool} {l kept : List α} (h : keepM test l = .ok kept)
    {a : α} : a ∈ kept ↔ a ∈ l ∧ test a = .ok true := by
  obtain ⟨-, rfl⟩ := keepM_eq_ok_iff.1 h
  rw [List.mem_filter, passes_eq_true_iff]

theorem foldlM_bind_eq_ok_iff {γ : Type} {f : α → Except ε β} {g : γ → β → Except ε γ}
    {l : List α} {c c' : γ} :
    l.foldlM (fun c a => f a >>= g c) c = .ok c' ↔
      ∃ l', l.mapM f = .ok l' ∧ l'.foldlM g c = .ok c' := by
  induction l generalizing c with
  | nil => simp [pure_eq_ok_iff]
  | cons a l ih =>
    simp only [List.foldlM_cons, List.mapM_cons, bind_eq_ok_iff, pure_eq_ok_iff, ih]
    constructor
    · rintro ⟨next, ⟨b, hb, hg⟩, rest, hr, hfold⟩
      exact ⟨_, ⟨b, hb, rest, hr, rfl⟩, by simpa [bind_eq_ok_iff] using ⟨next, hg, hfold⟩⟩
    · rintro ⟨_, ⟨b, hb, rest, hr, rfl⟩, h⟩
      obtain ⟨next, hg, hfold⟩ := bind_eq_ok_iff.1 h
      exact ⟨next, ⟨b, hb, hg⟩, rest, hr, hfold⟩

theorem foldlM_bind_of_mapM {γ : Type} {f : α → Except ε β} {g : γ → β → Except ε γ}
    {l : List α} {l' : List β} (h : l.mapM f = .ok l') (c : γ) :
    l.foldlM (fun c a => f a >>= g c) c = l'.foldlM g c := by
  induction l generalizing l' c with
  | nil =>
    obtain rfl := pure_eq_ok_iff.1 h
    rfl
  | cons a l ih =>
    simp only [List.mapM_cons, bind_eq_ok_iff, pure_eq_ok_iff] at h
    obtain ⟨b, hb, rest, hr, rfl⟩ := h
    simp only [List.foldlM_cons, hb]
    exact bind_congr fun next => ih hr next

theorem exists_forall₂_iff {R : α → β → Prop} {l : List α} :
    (∃ l', List.Forall₂ R l l') ↔ ∀ a ∈ l, ∃ b, R a b := by
  induction l with
  | nil => simp
  | cons a l ih =>
    rw [List.forall_mem_cons, ← ih]
    constructor
    · rintro ⟨_, _ | ⟨hb, hrest⟩⟩
      exact ⟨⟨_, hb⟩, _, hrest⟩
    · rintro ⟨⟨b, hb⟩, rest, hrest⟩
      exact ⟨b :: rest, .cons hb hrest⟩

theorem mapM_eq_ok_iff {f : α → Except ε β} {l : List α} {l' : List β} :
    l.mapM f = .ok l' ↔ List.Forall₂ (fun a b => f a = .ok b) l l' := by
  induction l generalizing l' with
  | nil => rw [List.mapM_nil, pure_eq_ok_iff, List.forall₂_nil_left_iff, eq_comm]
  | cons a l ih =>
    simp only [List.mapM_cons, bind_eq_ok_iff, pure_eq_ok_iff, ih, List.forall₂_cons_left_iff,
      @eq_comm _ l']
    exact ⟨fun ⟨b, hb, rest, hr, he⟩ => ⟨b, rest, hb, hr, he⟩,
      fun ⟨b, rest, hb, hr, he⟩ => ⟨b, hb, rest, hr, he⟩⟩

theorem exists_mapM_iff {f : α → Except ε β} {l : List α} :
    (∃ l', l.mapM f = .ok l') ↔ ∀ a ∈ l, ∃ b, f a = .ok b := by
  simp only [mapM_eq_ok_iff, exists_forall₂_iff]

theorem mem_mapM_iff {f : α → Except ε β} {l : List α} {l' : List β} (h : l.mapM f = .ok l')
    {b : β} : b ∈ l' ↔ ∃ a ∈ l, f a = .ok b := by
  refine ⟨mem_of_mapM h, ?_⟩
  rintro ⟨a, ha, hb⟩
  induction l generalizing l' with
  | nil => simp at ha
  | cons head l ih =>
    simp only [List.mapM_cons, bind_eq_ok_iff, pure_eq_ok_iff] at h
    obtain ⟨b', hb', rest, hr, rfl⟩ := h
    rcases List.mem_cons.1 ha with rfl | ha
    · obtain rfl := Except.ok.inj (hb.symm.trans hb')
      exact List.mem_cons_self ..
    · exact List.mem_cons_of_mem _ (ih hr ha)

end

theorem RowSet.size_le_of_subset {s s' : RowSet} (h : ∀ t ∈ s, t ∈ s') : s.size ≤ s'.size :=
  (List.subperm_of_subset s.nodup_toList h).length_le

namespace Relation

variable {r s left right : Relation}

theorem ext_rows {s s' : Relation} (ha : s.attributes = s'.attributes)
    (hr : ∀ t, t ∈ s.rows ↔ t ∈ s'.rows) : s = s' := by
  have hrows : s.rows = s'.rows := RowSet.ext hr
  cases s
  cases s'
  simp_all

-- ---------------------------------------------------------------------------
-- Selection and projection
-- ---------------------------------------------------------------------------

theorem exists_select_iff {condition : Expr} :
    (∃ s, r.select condition = .ok s) ↔
      ∀ t ∈ r.rows, ∃ b, condition.holds (r.scope t) = .ok b :=
  exists_bind_pure_iff.trans exists_keepM_iff

theorem attributes_of_select {condition : Expr} (h : r.select condition = .ok s) :
    s.attributes = r.attributes := by
  simp only [select, bind_eq_ok_iff, pure_eq_ok_iff] at h
  obtain ⟨rows, -, rfl⟩ := h
  rfl

theorem mem_select_iff {condition : Expr} (h : r.select condition = .ok s) {t : Row} :
    t ∈ s.rows ↔ t ∈ r.rows ∧ condition.holds (r.scope t) = .ok true := by
  simp only [select, bind_eq_ok_iff, pure_eq_ok_iff] at h
  obtain ⟨rows, hr, rfl⟩ := h
  rw [RowSet.mem_ofList, mem_keepM_iff hr, RowSet.mem_toList]

theorem project_eq_ok_iff {items : List Expr} :
    r.project items = .ok s ↔
      ∃ attributes rows, columnNames .projection items = .ok attributes ∧
        checkDistinct attributes = .ok () ∧
        r.rows.toList.mapM (fun t => Expr.evalAll (r.scope t) items) = .ok rows ∧
        ⟨attributes, .ofList rows⟩ = s := by
  simp only [project, bind_eq_ok_iff, pure_eq_ok_iff]
  constructor
  · rintro ⟨attributes, ha, _, hd, rows, hr, rfl⟩
    exact ⟨attributes, rows, ha, hd, hr, rfl⟩
  · rintro ⟨attributes, rows, ha, hd, hr, rfl⟩
    exact ⟨attributes, ha, (), hd, rows, hr, rfl⟩

theorem exists_project_iff {items : List Expr} :
    (∃ s, r.project items = .ok s) ↔
      (∃ attributes, columnNames .projection items = .ok attributes ∧
        checkDistinct attributes = .ok ()) ∧
      ∀ t ∈ r.rows, ∃ u, Expr.evalAll (r.scope t) items = .ok u := by
  simp only [project_eq_ok_iff, ← RowSet.mem_toList, ← exists_mapM_iff]
  constructor
  · rintro ⟨_, attributes, rows, ha, hd, hr, rfl⟩
    exact ⟨⟨attributes, ha, hd⟩, rows, hr⟩
  · rintro ⟨⟨attributes, ha, hd⟩, rows, hr⟩
    exact ⟨_, attributes, rows, ha, hd, hr, rfl⟩

theorem mem_project_iff {items : List Expr} (h : r.project items = .ok s) {u : Row} :
    u ∈ s.rows ↔ ∃ t ∈ r.rows, Expr.evalAll (r.scope t) items = .ok u := by
  obtain ⟨attributes, rows, -, -, hr, rfl⟩ := project_eq_ok_iff.1 h
  rw [RowSet.mem_ofList, mem_mapM_iff hr]
  rfl

-- ---------------------------------------------------------------------------
-- Division
-- ---------------------------------------------------------------------------

namespace Pairings

variable {pairings : Pairings} {rows : List Row} {staying matched : List Nat} {q s t : Row}

theorem add_eq_put :
    add q s pairings = put q (((pairings.lookup q).getD .empty).insert s) pairings := by
  induction pairings with
  | nil => rfl
  | cons entry pairings ih =>
    obtain ⟨k, paired⟩ := entry
    unfold add put
    split
    · rename_i h
      subst h
      simp
    · rename_i h
      simp [List.lookup_cons, beq_false_of_ne (Ne.symm h), ih]

structure Collects (staying matched : List Nat) (rows : List Row) (pairings : Pairings) :
    Prop where
  nodup : (pairings.map Prod.fst).Nodup
  mem_keys : ∀ q, q ∈ pairings.map Prod.fst ↔ ∃ t ∈ rows, Row.pick staying t = q
  mem_paired : ∀ q s, s ∈ (pairings.lookup q).getD .empty ↔
    ∃ t ∈ rows, Row.pick staying t = q ∧ Row.pick matched t = s

theorem Collects.add (h : Collects staying matched rows pairings) (t : Row) :
    Collects staying matched (rows ++ [t])
      (add (Row.pick staying t) (Row.pick matched t) pairings) := by
  rw [add_eq_put]
  refine ⟨nodup_keys_put h.nodup, fun q => ?_, fun q s => ?_⟩
  · simp only [mem_keys_put, h.mem_keys, List.mem_append, List.mem_singleton, or_and_right,
      exists_or, exists_eq_left, @eq_comm _ q, or_comm]
  · rw [lookup_put]
    by_cases hq : q = Row.pick staying t
    · subst hq
      simp [RowSet.mem_insert, h.mem_paired, or_and_right, exists_or, @eq_comm _ s, or_comm]
    · simp [hq, h.mem_paired, or_and_right, exists_or, Ne.symm hq]

theorem collects_ofRows (staying matched : List Nat) (rows : List Row) :
    Collects staying matched rows (ofRows staying matched rows) := by
  have hrun {seen : List Row} {pairings : Pairings} (h : Collects staying matched seen pairings) :
      Collects staying matched (seen ++ rows) (rows.foldl (fun pairings t =>
        Pairings.add (Row.pick staying t) (Row.pick matched t) pairings) pairings) := by
    induction rows generalizing seen pairings with
    | nil => simpa using h
    | cons t rows ih => simpa using ih (h.add t)
  have hstart : Collects staying matched [] [] :=
    ⟨List.nodup_nil, by simp, by simp [RowSet.not_mem_empty]⟩
  exact hrun hstart

end Pairings

theorem mem_quotientRows {staying matched : List Nat} {dividend divisor : RowSet} {q : Row} :
    q ∈ quotientRows staying matched dividend divisor ↔
      (∃ t ∈ dividend, Row.pick staying t = q) ∧
        ∀ s ∈ divisor, ∃ t ∈ dividend, Row.pick staying t = q ∧ Row.pick matched t = s := by
  have hc := Pairings.collects_ofRows staying matched dividend.toList
  have hentry : q ∈ quotientRows staying matched dividend divisor ↔
      ∃ paired, (q, paired) ∈ Pairings.ofRows staying matched dividend.toList ∧
        ∀ s ∈ divisor, s ∈ paired := by
    simp [quotientRows, Pairings.quotient, RowSet.mem_ofList, RowSet.mem_toList]
  simp only [← RowSet.mem_toList (s := dividend), ← hc.mem_keys, ← hc.mem_paired, hentry]
  constructor
  · rintro ⟨paired, hm, hall⟩
    refine ⟨List.mem_map.2 ⟨_, hm, rfl⟩, ?_⟩
    rwa [(lookup_eq_some_iff_mem hc.nodup).2 hm]
  · rintro ⟨hq, hall⟩
    obtain ⟨⟨q, paired⟩, hm, rfl⟩ := List.mem_map.1 hq
    rw [(lookup_eq_some_iff_mem hc.nodup).2 hm] at hall
    exact ⟨paired, hm, hall⟩

end Relation

end Relational
