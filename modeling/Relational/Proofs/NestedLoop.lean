import Mathlib.Data.List.Nodup
import Relational.Proofs.Membership

/-!
# The loops of a join

The trackers of a join are told by the pairs that have met the condition so far: the left rows
put aside are those that are in no such pair, and the bit at a position is set if the right row
there is in one (`Trackers.of`). This holds after each pair (`joinPair_of`), after each left row
(`joinRow_of`) and after the loops (`joinRows_eq`), which so test all pairs and stop at the first
failure. The rows of a join of any kind follow (`mem_join_iff`).
-/

namespace Relational

section

variable {ε α β : Type}

theorem keepM_append (test : α → Except ε Bool) (l l' : List α) :
    keepM test (l ++ l') =
      keepM test l >>= fun kept => keepM test l' >>= fun kept' => pure (kept ++ kept') := by
  induction l with
  | nil => simp [keepM, ok_bind]
  | cons a l ih =>
    simp only [List.cons_append, keepM, ih, bind_assoc, pure_bind]
    refine bind_congr fun pass => bind_congr fun kept => bind_congr fun kept' => ?_
    cases pass <;> rfl

theorem keepM_map (f : α → β) (test : β → Except ε Bool) (l : List α) :
    keepM test (l.map f) = keepM (test ∘ f) l >>= fun kept => pure (kept.map f) := by
  induction l with
  | nil => rfl
  | cons a l ih =>
    simp only [List.map_cons, keepM, ih, bind_assoc, pure_bind, Function.comp_apply]
    refine bind_congr fun pass => bind_congr fun kept => ?_
    cases pass <;> rfl

end

namespace Relation

variable {left right s : Relation} {kind : JoinKind} {condition : Option Expr}

-- ---------------------------------------------------------------------------
-- The trackers and the pairs so far
-- ---------------------------------------------------------------------------

namespace Trackers

variable {done : List Row} {matched : List (Row × Row)} {l r t : Row} {i : Nat}

/-- The trackers when the rows `done` have been gone through and the pairs `matched` have met the
condition. -/
def of (right : Relation) (done : List Row) (matched : List (Row × Row)) : Trackers where
  rows := .ofList (matched.map fun pair => pair.1 ++ pair.2)
  leftUnmatched := done.filter fun l => !matched.any (·.1 == l)
  rightMatched := right.rows.toList.map fun r => matched.any (·.2 == r)

theorem start_eq_of (right : Relation) : start right = of right [] [] := by
  simp [start, of, RowSet.ofList, size, RowSet.size, List.map_const']

/-- A pair sets the bit of its right row and no other, as the right rows are distinct, and it
takes nothing away from the left rows put aside, as its left row is not yet among them. -/
theorem pair_of (hl : l ∉ done) (hr : right.rows.toList[i]? = some r) :
    (of right done matched).pair (l ++ r) i = of right done (matched ++ [(l, r)]) := by
  have hrows : (RowSet.ofList (matched.map fun pair => pair.1 ++ pair.2)).insert (l ++ r) =
      .ofList ((matched ++ [(l, r)]).map fun pair => pair.1 ++ pair.2) :=
    RowSet.ext fun t => by simp [RowSet.mem_insert, RowSet.mem_ofList, or_comm, eq_comm]
  have hleft : (done.filter fun l => !matched.any (·.1 == l)) =
      done.filter fun l' => !(matched ++ [(l, r)]).any (·.1 == l') := by
    refine List.filter_congr fun l' hl' => ?_
    have hne : l ≠ l' := fun he => hl (he ▸ hl')
    simp [hne]
  have hright : (right.rows.toList.map fun r => matched.any (·.2 == r)).set i true =
      right.rows.toList.map fun r' => (matched ++ [(l, r)]).any (·.2 == r') := by
    refine List.ext_getElem (by simp) fun j hj _ => ?_
    obtain ⟨hi, rfl⟩ := List.getElem?_eq_some_iff.1 hr
    simp only [List.length_set, List.length_map] at hj
    have hij : right.rows.toList[i] = right.rows.toList[j] ↔ i = j :=
      List.Nodup.getElem_inj_iff right.rows.nodup_toList
    by_cases h : i = j
    · subst h
      simp
    · simp [h, hij]
  simp only [pair, of, hrows, hleft, hright]

theorem leave_of (h : ∀ pair ∈ matched, pair.1 ≠ l) :
    (of right done matched).leave l = of right (done ++ [l]) matched := by
  have hl : matched.any (·.1 == l) = false := by simpa using h
  simp [leave, of, hl]

theorem of_append_of_mem (h : ∃ pair ∈ matched, pair.1 = l) :
    of right (done ++ [l]) matched = of right done matched := by
  have hl : matched.any (·.1 == l) = true := by simpa [and_comm] using h
  simp [of, hl]

theorem mem_rightUnmatched_of :
    r ∈ (of right done matched).rightUnmatched right ↔
      r ∈ right.rows ∧ ∀ pair ∈ matched, pair.2 ≠ r := by
  have hzip : right.rows.toList.zip (of right done matched).rightMatched =
      right.rows.toList.map fun r => (r, matched.any (·.2 == r)) :=
    List.map_prod_left_eq_zip.symm
  simp [rightUnmatched, hzip, RowSet.mem_toList]

theorem mem_toRows {trackers : Trackers} :
    t ∈ trackers.toRows kind left right ↔ t ∈ trackers.rows ∨
      (kind.keepsLeft ∧ ∃ l ∈ trackers.leftUnmatched, l ++ Row.nulls right.arity = t) ∨
      (kind.keepsRight ∧ ∃ r ∈ trackers.rightUnmatched right, Row.nulls left.arity ++ r = t) := by
  simp only [toRows, RowSet.mem_insertAll, or_assoc]
  cases kind <;> simp [JoinKind.keepsLeft, JoinKind.keepsRight]

end Trackers

-- ---------------------------------------------------------------------------
-- One pair, one left row, all rows
-- ---------------------------------------------------------------------------

section

variable {done : List Row} {matched : List (Row × Row)} {l r : Row} {i : Nat} {found : Bool}

theorem joinPair_of (hl : l ∉ done) (hr : right.rows.toList[i]? = some r) :
    joinPair left right condition l (found, .of right done matched) (r, i) =
      meets left right condition (l, r) >>= fun pass =>
        pure (found || pass, .of right done (if pass then matched ++ [(l, r)] else matched)) := by
  simp only [joinPair, Trackers.pair_of hl hr]
  refine bind_congr fun pass => ?_
  cases pass <;> simp

theorem foldlM_joinPair_of {rows : List Row} (hl : l ∉ done)
    (hrows : right.rows.toList.drop i = rows) :
    (rows.zipIdx i).foldlM (joinPair left right condition l) (found, .of right done matched) =
      keepM (meets left right condition) (rows.map fun r => (l, r)) >>= fun kept =>
        pure (found || !kept.isEmpty, .of right done (matched ++ kept)) := by
  induction rows generalizing i found matched with
  | nil =>
    rw [List.map_nil, keepM, ok_bind]
    simp
  | cons r rows ih =>
    have hr : right.rows.toList[i]? = some r := by
      simpa [List.head?_drop] using congrArg List.head? hrows
    have hrest : right.rows.toList.drop (i + 1) = rows := by
      simpa [List.tail_drop] using congrArg List.tail hrows
    simp only [List.zipIdx_cons, List.foldlM_cons, joinPair_of hl hr, bind_assoc, pure_bind,
      ih hrest, List.map_cons, keepM]
    refine bind_congr fun pass => bind_congr fun kept => ?_
    cases pass <;> simp

/-- One left row: it is put aside if and only if none of its pairs meets the condition. -/
theorem joinRow_of (hl : l ∉ done) (hm : ∀ pair ∈ matched, pair.1 ∈ done) :
    joinRow left right condition (.of right done matched) l =
      keepM (meets left right condition) (right.rows.toList.map fun r => (l, r)) >>= fun kept =>
        pure (.of right (done ++ [l]) (matched ++ kept)) := by
  simp only [joinRow, foldlM_joinPair_of hl List.drop_zero, bind_assoc, pure_bind]
  cases hk : keepM (meets left right condition) (right.rows.toList.map fun r => (l, r)) with
  | error e => rfl
  | ok kept =>
    have hfirst : ∀ pair ∈ kept, pair.1 = l := by
      intro pair hp
      obtain ⟨r, -, rfl⟩ := List.mem_map.1 ((mem_keepM_iff hk).1 hp).1
      rfl
    rw [ok_bind, ok_bind]
    cases kept with
    | nil =>
      have hnew : ∀ pair ∈ matched, pair.1 ≠ l := fun pair hp he => hl (he ▸ hm pair hp)
      simp [Trackers.leave_of hnew]
    | cons pair kept =>
      have hpair : ∃ pair' ∈ matched ++ pair :: kept, pair'.1 = l :=
        ⟨pair, by simp, hfirst pair (List.mem_cons_self ..)⟩
      simp [Trackers.of_append_of_mem hpair]

theorem foldlM_joinRow_of {rows : List Row} (hn : (done ++ rows).Nodup)
    (hm : ∀ pair ∈ matched, pair.1 ∈ done) :
    rows.foldlM (joinRow left right condition) (.of right done matched) =
      keepM (meets left right condition)
          (rows.flatMap fun l => right.rows.toList.map fun r => (l, r)) >>= fun kept =>
        pure (.of right (done ++ rows) (matched ++ kept)) := by
  induction rows generalizing done matched with
  | nil =>
    rw [List.flatMap_nil, keepM, ok_bind]
    simp
  | cons l rows ih =>
    have hl : l ∉ done := fun h => (List.nodup_append.1 hn).2.2 l h l (List.mem_cons_self ..) rfl
    simp only [List.foldlM_cons, joinRow_of hl hm, List.flatMap_cons, keepM_append, bind_assoc,
      pure_bind]
    cases hk : keepM (meets left right condition) (right.rows.toList.map fun r => (l, r)) with
    | error e => rfl
    | ok kept =>
      have hm' : ∀ pair ∈ matched ++ kept, pair.1 ∈ done ++ [l] := by
        intro pair hp
        rcases List.mem_append.1 hp with hp | hp
        · exact List.mem_append_left _ (hm pair hp)
        · obtain ⟨r, -, rfl⟩ := List.mem_map.1 ((mem_keepM_iff hk).1 hp).1
          simp
      rw [ok_bind, ok_bind, ih (by simpa using hn) hm']
      simp

/-- The loops test all pairs in order, and their trackers are told by the pairs that met the
condition. -/
theorem joinRows_eq (left right : Relation) (condition : Option Expr) :
    joinRows left right condition =
      keepM (meets left right condition) (pairs left right) >>= fun matched =>
        pure (.of right left.rows.toList matched) := by
  have hn : ([] ++ left.rows.toList).Nodup := left.rows.nodup_toList
  simp [joinRows, Trackers.start_eq_of, foldlM_joinRow_of hn, pairs]

end

-- ---------------------------------------------------------------------------
-- Rows of a join
-- ---------------------------------------------------------------------------

/-- A left and a right row that a join puts together. -/
def Partners (left right : Relation) (condition : Option Expr) (l r : Row) : Prop :=
  meets left right condition (l, r) = .ok true

theorem join_eq_ok_iff :
    left.join kind condition right = .ok s ↔
      ∃ matched, keepM (meets left right condition) (pairs left right) = .ok matched ∧
        ⟨left.attributes ++ right.attributes,
          (Trackers.of right left.rows.toList matched).toRows kind left right⟩ = s := by
  simp only [join, joinRows_eq, bind_assoc, pure_bind, bind_eq_ok_iff, pure_eq_ok_iff]

theorem exists_join_iff :
    (∃ s, left.join kind condition right = .ok s) ↔
      ∀ l ∈ left.rows, ∀ r ∈ right.rows, ∃ b, meets left right condition (l, r) = .ok b := by
  have hkeep : (∃ s, left.join kind condition right = .ok s) ↔
      ∃ matched, keepM (meets left right condition) (pairs left right) = .ok matched := by
    simp only [join_eq_ok_iff]
    exact ⟨fun ⟨_, matched, hm, _⟩ => ⟨matched, hm⟩, fun ⟨matched, hm⟩ => ⟨_, matched, hm, rfl⟩⟩
  rw [hkeep, exists_keepM_iff]
  simp only [mem_pairs, Prod.forall, and_imp]
  exact ⟨fun h l hl r hr => h l r hl hr, fun h l r hl hr => h l hl r hr⟩

theorem exists_join_error_iff :
    (∃ e, left.join kind condition right = .error e) ↔
      ∃ l ∈ left.rows, ∃ r ∈ right.rows, ∃ e, meets left right condition (l, r) = .error e := by
  simp only [exists_error_iff, exists_join_iff, Classical.not_forall, exists_prop]

theorem attributes_of_join (h : left.join kind condition right = .ok s) :
    s.attributes = left.attributes ++ right.attributes := by
  obtain ⟨matched, -, rfl⟩ := join_eq_ok_iff.1 h
  rfl

section

variable {matched : List (Row × Row)} {l r t : Row}
  (hm : keepM (meets left right condition) (pairs left right) = .ok matched)

include hm

theorem mem_matched_iff :
    (l, r) ∈ matched ↔ (l ∈ left.rows ∧ r ∈ right.rows) ∧ Partners left right condition l r := by
  rw [mem_keepM_iff hm, mem_pairs, Partners]

theorem mem_rows_of_iff :
    t ∈ (Trackers.of right left.rows.toList matched).rows ↔
      ∃ l ∈ left.rows, ∃ r ∈ right.rows, Partners left right condition l r ∧ l ++ r = t := by
  simp only [Trackers.of, RowSet.mem_ofList, List.mem_map, Prod.exists, mem_matched_iff hm]
  constructor
  · rintro ⟨l, r, ⟨⟨hl, hr⟩, hp⟩, rfl⟩
    exact ⟨l, hl, r, hr, hp, rfl⟩
  · rintro ⟨l, hl, r, hr, hp, rfl⟩
    exact ⟨l, r, ⟨⟨hl, hr⟩, hp⟩, rfl⟩

theorem mem_leftUnmatched_of_iff :
    l ∈ (Trackers.of right left.rows.toList matched).leftUnmatched ↔
      l ∈ left.rows ∧ ∀ r ∈ right.rows, ¬ Partners left right condition l r := by
  simp only [Trackers.of, List.mem_filter, RowSet.mem_toList, Bool.not_eq_true', List.any_eq_false,
    beq_iff_eq, Prod.forall, mem_matched_iff hm]
  refine and_congr_right fun hl => ⟨fun h r hr hp => h l r ⟨⟨hl, hr⟩, hp⟩ rfl, ?_⟩
  rintro h l' r ⟨⟨-, hr⟩, hp⟩ rfl
  exact h r hr hp

theorem mem_rightUnmatched_of_iff :
    r ∈ (Trackers.of right left.rows.toList matched).rightUnmatched right ↔
      r ∈ right.rows ∧ ∀ l ∈ left.rows, ¬ Partners left right condition l r := by
  simp only [Trackers.mem_rightUnmatched_of, Prod.forall, mem_matched_iff hm]
  refine and_congr_right fun hr => ⟨fun h l hl hp => h l r ⟨⟨hl, hr⟩, hp⟩ rfl, ?_⟩
  rintro h l r' ⟨⟨hl, -⟩, hp⟩ rfl
  exact h l hl hp

end

theorem mem_join_iff (h : left.join kind condition right = .ok s) {t : Row} :
    t ∈ s.rows ↔
      (∃ l ∈ left.rows, ∃ r ∈ right.rows, Partners left right condition l r ∧ l ++ r = t) ∨
      (kind.keepsLeft ∧ ∃ l ∈ left.rows,
        (∀ r ∈ right.rows, ¬ Partners left right condition l r) ∧
          l ++ Row.nulls right.arity = t) ∨
      (kind.keepsRight ∧ ∃ r ∈ right.rows,
        (∀ l ∈ left.rows, ¬ Partners left right condition l r) ∧
          Row.nulls left.arity ++ r = t) := by
  obtain ⟨matched, hm, rfl⟩ := join_eq_ok_iff.1 h
  simp only [Trackers.mem_toRows, mem_rows_of_iff hm, mem_leftUnmatched_of_iff hm,
    mem_rightUnmatched_of_iff hm, and_assoc]

theorem mem_innerJoin_iff (h : left.join .inner condition right = .ok s) {t : Row} :
    t ∈ s.rows ↔ ∃ l ∈ left.rows, ∃ r ∈ right.rows,
      meets left right condition (l, r) = .ok true ∧ l ++ r = t := by
  simpa [JoinKind.keepsLeft, JoinKind.keepsRight, Partners] using mem_join_iff h (t := t)

theorem mem_cross_iff (h : left.cross right = .ok s) {t : Row} :
    t ∈ s.rows ↔ ∃ l ∈ left.rows, ∃ r ∈ right.rows, l ++ r = t := by
  have htrue {l r : Row} : meets left right none (l, r) = .ok true := rfl
  simp only [mem_innerJoin_iff h, htrue, true_and]

end Relation

end Relational
