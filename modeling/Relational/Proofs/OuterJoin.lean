import Relational.Proofs.Join
import Relational.Proofs.References

/-!
# Outer joins

A join read from the other side is the join of the mirrored kind with the two blocks of
columns exchanged, and a full outer join is the union of a left and a right one
(`outer_joins_mirror_and_compose`). The condition cannot tell the blocks apart, because a
name is looked up among all columns and more than one match is an error in either order.
-/

namespace Relational

theorem Expr.holds_perm {scope scope' : Scope} (h : scope.Perm scope') (condition : Expr) :
    condition.holds scope = condition.holds scope' := by
  simp only [holds, condition.eval_perm h]

-- ---------------------------------------------------------------------------
-- Mirrored joins
-- ---------------------------------------------------------------------------

/-- A list with its last `m` members moved to the front. -/
def lastToFront {α : Type} (m : Nat) (l : List α) : List α :=
  l.drop (l.length - m) ++ l.take (l.length - m)

theorem lastToFront_append {α : Type} {m : Nat} (l : List α) {l' : List α} (h : l'.length = m) :
    lastToFront m (l ++ l') = l' ++ l := by
  have hl : (l ++ l').length - m = l.length := by rw [List.length_append, h, Nat.add_sub_cancel]
  simp only [lastToFront, hl, List.drop_left, List.take_left]

theorem lastToFront_lastToFront {α : Type} {m n : Nat} {l : List α} (h : l.length = m + n) :
    lastToFront m (lastToFront n l) = l := by
  have hm : (l.take m).length = m := by simp [h]
  have hn : (l.drop m).length = n := by simp [h]
  calc lastToFront m (lastToFront n l)
    _ = lastToFront m (lastToFront n (l.take m ++ l.drop m)) := by rw [List.take_append_drop]
    _ = lastToFront m (l.drop m ++ l.take m) := by rw [lastToFront_append _ hn]
    _ = l.take m ++ l.drop m := lastToFront_append _ hm
    _ = l := List.take_append_drop m l

def JoinKind.mirror : JoinKind → JoinKind
  | inner => inner
  | leftOuter => rightOuter
  | rightOuter => leftOuter
  | fullOuter => fullOuter

theorem JoinKind.mirror_mirror (kind : JoinKind) : kind.mirror.mirror = kind := by
  cases kind <;> rfl

theorem JoinKind.keepsLeft_mirror (kind : JoinKind) : kind.mirror.keepsLeft = kind.keepsRight := by
  cases kind <;> rfl

theorem JoinKind.keepsRight_mirror (kind : JoinKind) : kind.mirror.keepsRight = kind.keepsLeft := by
  cases kind <;> rfl

namespace Relation

variable {left right s s' : Relation} {kind : JoinKind} {condition : Option Expr} {l r t : Row}

theorem meets_swap (hl : l.length = left.arity) (hr : r.length = right.arity)
    (condition : Option Expr) :
    meets left right condition (l, r) = meets right left condition (r, l) := by
  cases condition with
  | none => rfl
  | some expr =>
    simp only [meets, List.zip_append hl.symm, List.zip_append hr.symm]
    exact expr.holds_perm List.perm_append_comm

theorem attributes_of_join_mirror (h : left.join kind condition right = .ok s)
    (h' : right.join kind.mirror condition left = .ok s') :
    s.attributes = lastToFront left.arity s'.attributes := by
  have hlen : left.attributes.length = left.arity := rfl
  rw [attributes_of_join h, attributes_of_join h', lastToFront_append _ hlen]

section

variable (hl : left.WellFormed) (hr : right.WellFormed)
include hl hr

theorem partners_swap (hml : l ∈ left.rows) (hmr : r ∈ right.rows) :
    Partners left right condition l r ↔ Partners right left condition r l := by
  simp only [Partners, meets_swap (hl l hml) (hr r hmr) condition]

theorem exists_join_swap_iff (kind kind' : JoinKind) :
    (∃ s, left.join kind condition right = .ok s) ↔
      ∃ s', right.join kind' condition left = .ok s' := by
  simp only [exists_join_iff]
  constructor
  · intro h r hmr l hml
    exact meets_swap (hl l hml) (hr r hmr) condition ▸ h l hml r hmr
  · intro h l hml r hmr
    exact meets_swap (hl l hml) (hr r hmr) condition ▸ h r hmr l hml

theorem exists_mem_join_mirror (h : left.join kind condition right = .ok s)
    (h' : right.join kind.mirror condition left = .ok s') (ht : t ∈ s.rows) :
    ∃ u ∈ s'.rows, lastToFront left.arity u = t := by
  have hlen {l : Row} (hml : l ∈ left.rows) : l.length = left.arity := hl l hml
  simp only [mem_join_iff h', kind.keepsLeft_mirror, kind.keepsRight_mirror]
  obtain ⟨l, hml, r, hmr, hp, rfl⟩ | ⟨hk, l, hml, hn, rfl⟩ | ⟨hk, r, hmr, hn, rfl⟩ :=
    (mem_join_iff h).1 ht
  · have hp := (partners_swap hl hr hml hmr).1 hp
    exact ⟨r ++ l, .inl ⟨r, hmr, l, hml, hp, rfl⟩, lastToFront_append r (hlen hml)⟩
  · refine ⟨Row.nulls right.arity ++ l, .inr (.inr ⟨hk, l, hml, ?_, rfl⟩), ?_⟩
    · intro r hmr hp
      exact hn r hmr ((partners_swap hl hr hml hmr).2 hp)
    · exact lastToFront_append _ (hlen hml)
  · refine ⟨r ++ Row.nulls left.arity, .inr (.inl ⟨hk, r, hmr, ?_, rfl⟩), ?_⟩
    · intro l hml hp
      exact hn l hml ((partners_swap hl hr hml hmr).2 hp)
    · exact lastToFront_append r (Row.length_nulls _)

theorem mem_join_mirror_iff (h : left.join kind condition right = .ok s)
    (h' : right.join kind.mirror condition left = .ok s') :
    t ∈ s.rows ↔ ∃ u ∈ s'.rows, lastToFront left.arity u = t := by
  refine ⟨exists_mem_join_mirror hl hr h h', ?_⟩
  rintro ⟨u, hu, rfl⟩
  -- the mirrored join is mirrored by the join itself
  obtain ⟨t, ht, rfl⟩ := exists_mem_join_mirror hr hl h' (kind.mirror_mirror.symm ▸ h) hu
  have hlen : t.length = left.arity + right.arity := by
    simpa [attributes_of_join h, arity] using join_wellFormed hl hr h t ht
  rwa [lastToFront_lastToFront hlen]

end

-- ---------------------------------------------------------------------------
-- Full outer joins
-- ---------------------------------------------------------------------------

/-- All kinds of join go through the same loops, so they fail alike. -/
theorem join_fullOuter_eq (left right : Relation) (condition : Option Expr) :
    left.join .fullOuter condition right =
      left.join .leftOuter condition right >>= fun l =>
        left.join .rightOuter condition right >>= fun r => l.combine .union r := by
  cases h : joinRows left right condition with
  | error e => simp only [join, h, error_bind]
  | ok trackers =>
    have hrows : trackers.toRows .fullOuter left right =
        (trackers.toRows .leftOuter left right).union (trackers.toRows .rightOuter left right) := by
      refine RowSet.ext fun t => ?_
      simp only [RowSet.mem_union, Trackers.mem_toRows, JoinKind.keepsLeft, JoinKind.keepsRight,
        Bool.false_eq_true, false_and, true_and, or_false, false_or]
      exact or_or_distrib_left
    have hcombine (attributes : List Attribute) (rows rows' : RowSet) :
        combine .union ⟨attributes, rows⟩ ⟨attributes, rows'⟩ =
          .ok ⟨attributes, rows.union rows'⟩ := combine_of_attributes_eq .union rfl
    simp only [join, h, ok_bind, pure_bind, hrows]
    exact (hcombine ..).symm

end Relation

theorem Query.outcome_join_fullOuter (config : Config) (db : Database) (condition : Option Expr)
    (left right : Query) :
    ((Query.join .fullOuter condition left right).eval config.unlimited db).outcome =
      ((Query.setOp .union (.join .leftOuter condition left right)
        (.join .rightOuter condition left right)).eval config.unlimited db).outcome := by
  simp only [outcome_join, outcome_setOp, Config.limited_unlimited]
  cases (left.eval config.unlimited db).outcome with
  | error e => rfl
  | ok l =>
    cases (right.eval config.unlimited db).outcome with
    | error e => rfl
    | ok r => exact l.join_fullOuter_eq r condition

/-- A right outer join succeeds if the left outer join of the exchanged operands does, and
then it has the same columns and rows with the last columns, those of its left operand,
moved to the front. Without a row limit, a full outer join is the union of the left and the
right outer join: the same value, or the same error. -/
theorem outer_joins_mirror_and_compose (condition : Option Expr) :
    (∀ left right : Relation, left.WellFormed → right.WellFormed →
      ((∃ s, left.join .rightOuter condition right = .ok s) ↔
        ∃ s', right.join .leftOuter condition left = .ok s') ∧
      ∀ s s', left.join .rightOuter condition right = .ok s →
        right.join .leftOuter condition left = .ok s' →
        s.attributes = lastToFront left.arity s'.attributes ∧
          ∀ t, t ∈ s.rows ↔ ∃ u ∈ s'.rows, lastToFront left.arity u = t) ∧
    ∀ (config : Config) (db : Database) (left right : Query),
      ((Query.join .fullOuter condition left right).eval config.unlimited db).outcome =
        ((Query.setOp .union (.join .leftOuter condition left right)
          (.join .rightOuter condition left right)).eval config.unlimited db).outcome := by
  constructor
  · intro left right hl hr
    refine ⟨Relation.exists_join_swap_iff hl hr .rightOuter .leftOuter, ?_⟩
    intro s s' h h'
    have hmirror : right.join JoinKind.rightOuter.mirror condition left = .ok s' := h'
    exact ⟨Relation.attributes_of_join_mirror h hmirror,
      fun t => Relation.mem_join_mirror_iff hl hr h hmirror⟩
  · intro config db left right
    exact Query.outcome_join_fullOuter config db condition left right

theorem outer_joins_mirror_and_compose_padded :
    let left : Relation := ⟨[some "a", none], .ofList [[.null, .null], [.boolean true, .null]]⟩
    let right : Relation := ⟨[some "b"], .ofList [[.boolean false], [.boolean true]]⟩
    let condition := some (Expr.eq (.attr "a") (.attr "b"))
    let s : Relation := ⟨[some "a", none, some "b"],
      .ofList [[.null, .null, .boolean false], [.boolean true, .null, .boolean true]]⟩
    let s' : Relation := ⟨[some "b", some "a", none],
      .ofList [[.boolean false, .null, .null], [.boolean true, .boolean true, .null]]⟩
    left.WellFormed ∧ right.WellFormed ∧
      left.join .rightOuter condition right = .ok s ∧
      right.join .leftOuter condition left = .ok s' ∧
      s.attributes = lastToFront left.arity s'.attributes ∧
      ∀ t, t ∈ s.rows ↔ ∃ u ∈ s'.rows, lastToFront left.arity u = t := by
  intro left right condition s s'
  have hl : left.WellFormed := Relation.wellFormed_ofList (by decide)
  have hr : right.WellFormed := Relation.wellFormed_ofList (by decide)
  have h : left.join .rightOuter condition right = .ok s := by rfl
  have h' : right.join .leftOuter condition left = .ok s' := by rfl
  obtain ⟨ha, hrows⟩ := ((outer_joins_mirror_and_compose condition).1 left right hl hr).2 s s' h h'
  exact ⟨hl, hr, h, h', ha, hrows⟩

end Relational
