import Relational.Proofs.Header
import Relational.Proofs.RowLimit

/-!
# Joins

What a join of any kind has in its result (`rows_of_join`), and that an inner join is
a selection from the product (`eval_join_eq_select`). The selection goes through the
rows of the product in storage order and the join through pairs of rows. All left rows
are equally long, so both orders are the same and both stop at the same failure.
-/

namespace Relational

-- ---------------------------------------------------------------------------
-- Rows of a join
-- ---------------------------------------------------------------------------

theorem JoinKind.keepsLeft_iff {kind : JoinKind} :
    kind.keepsLeft ↔ kind = .leftOuter ∨ kind = .fullOuter := by
  cases kind <;> simp [keepsLeft]

theorem JoinKind.keepsRight_iff {kind : JoinKind} :
    kind.keepsRight ↔ kind = .rightOuter ∨ kind = .fullOuter := by
  cases kind <;> simp [keepsRight]

namespace Relation

variable {left right s : Relation} {kind : JoinKind} {condition : Option Expr}

theorem exists_append_mem_join (h : left.join kind condition right = .ok s)
    (hk : kind.keepsLeft) {l : Row} (hl : l ∈ left.rows) : ∃ u, l ++ u ∈ s.rows := by
  by_cases hp : ∃ r ∈ right.rows, Partners left right condition l r
  · obtain ⟨r, hr, hp⟩ := hp
    exact ⟨r, (mem_join_iff h).2 (.inl ⟨l, hl, r, hr, hp, rfl⟩)⟩
  · have hn : ∀ r ∈ right.rows, ¬ Partners left right condition l r :=
      fun r hr hp' => hp ⟨r, hr, hp'⟩
    exact ⟨_, (mem_join_iff h).2 (.inr (.inl ⟨hk, l, hl, hn, rfl⟩))⟩

theorem exists_prepend_mem_join (h : left.join kind condition right = .ok s)
    (hk : kind.keepsRight) {r : Row} (hr : r ∈ right.rows) : ∃ u, u ++ r ∈ s.rows := by
  by_cases hp : ∃ l ∈ left.rows, Partners left right condition l r
  · obtain ⟨l, hl, hp⟩ := hp
    exact ⟨l, (mem_join_iff h).2 (.inl ⟨l, hl, r, hr, hp, rfl⟩)⟩
  · have hn : ∀ l ∈ left.rows, ¬ Partners left right condition l r :=
      fun l hl hp' => hp ⟨l, hl, hp'⟩
    exact ⟨_, (mem_join_iff h).2 (.inr (.inr ⟨hk, r, hr, hn, rfl⟩))⟩

theorem nulls_mem_of_partner (hw : left.WellFormed) (h : left.join kind condition right = .ok s)
    {l r : Row} (hl : l ∈ left.rows) (hr : r ∈ right.rows)
    (hp : Partners left right condition l r) (ht : l ++ Row.nulls right.arity ∈ s.rows) :
    Row.nulls right.arity ∈ right.rows := by
  have hlen {l'} (hl' : l' ∈ left.rows) : l'.length = l.length := (hw l' hl').trans (hw l hl).symm
  obtain ⟨l', hl', r', hr', -, he⟩ | ⟨-, l', hl', hn, he⟩ | ⟨-, r', hr', -, he⟩ :=
    (mem_join_iff h).1 ht
  · exact (List.append_inj he (hlen hl')).2 ▸ hr'
  · obtain ⟨rfl, -⟩ := List.append_inj he (hlen hl')
    exact absurd hp (hn r hr)
  · have hlen : (Row.nulls left.arity).length = l.length := by simp [Row.length_nulls, hw l hl, arity]
    exact (List.append_inj he hlen).2 ▸ hr'

theorem nulls_mem_of_partner_right (hw : right.WellFormed)
    (h : left.join kind condition right = .ok s) {l r : Row} (hl : l ∈ left.rows)
    (hr : r ∈ right.rows)
    (hp : Partners left right condition l r) (ht : Row.nulls left.arity ++ r ∈ s.rows) :
    Row.nulls left.arity ∈ left.rows := by
  have hlen {r'} (hr' : r' ∈ right.rows) : r'.length = r.length := (hw r' hr').trans (hw r hr).symm
  obtain ⟨l', hl', r', hr', -, he⟩ | ⟨-, l', hl', -, he⟩ | ⟨-, r', hr', hn, he⟩ :=
    (mem_join_iff h).1 ht
  · exact (List.append_inj' he (hlen hr')).1 ▸ hl'
  · have hlen : (Row.nulls right.arity).length = r.length := by simp [Row.length_nulls, hw r hr, arity]
    exact (List.append_inj' he hlen).1 ▸ hl'
  · obtain ⟨-, rfl⟩ := List.append_inj' he (hlen hr')
    exact absurd hp (hn l hl)

/-- A join fails if its condition fails on a pair of rows, whatever its kind. Else its
rows are the pairs of partners and, padded with nulls, the rows of its kept sides that
have no partner. Every row of a kept side is in it, and a row with a partner is beside
nulls only where the other side has a row of nulls itself. -/
theorem rows_of_join (hl : left.WellFormed) (hr : right.WellFormed) (kind : JoinKind)
    (condition : Option Expr) :
    ((∃ e, left.join kind condition right = .error e) ↔
      ∃ l ∈ left.rows, ∃ r ∈ right.rows, ∃ e, meets left right condition (l, r) = .error e) ∧
    ∀ s, left.join kind condition right = .ok s →
      s.attributes = left.attributes ++ right.attributes ∧
      (∀ t, t ∈ s.rows ↔
        (∃ l ∈ left.rows, ∃ r ∈ right.rows, Partners left right condition l r ∧ l ++ r = t) ∨
        ((kind = .leftOuter ∨ kind = .fullOuter) ∧ ∃ l ∈ left.rows,
          (∀ r ∈ right.rows, ¬ Partners left right condition l r) ∧
            l ++ Row.nulls right.arity = t) ∨
        ((kind = .rightOuter ∨ kind = .fullOuter) ∧ ∃ r ∈ right.rows,
          (∀ l ∈ left.rows, ¬ Partners left right condition l r) ∧
            Row.nulls left.arity ++ r = t)) ∧
      (kind.keepsLeft → ∀ l ∈ left.rows, ∃ u, l ++ u ∈ s.rows) ∧
      (kind.keepsRight → ∀ r ∈ right.rows, ∃ u, u ++ r ∈ s.rows) ∧
      ∀ l ∈ left.rows, ∀ r ∈ right.rows, Partners left right condition l r →
        (l ++ Row.nulls right.arity ∈ s.rows → Row.nulls right.arity ∈ right.rows) ∧
        (Row.nulls left.arity ++ r ∈ s.rows → Row.nulls left.arity ∈ left.rows) := by
  refine ⟨exists_join_error_iff, fun s h => ?_⟩
  refine ⟨attributes_of_join h, fun t => ?_, ?_, ?_, ?_⟩
  · rw [mem_join_iff h, JoinKind.keepsLeft_iff, JoinKind.keepsRight_iff]
  · exact fun hk l => exists_append_mem_join h hk
  · exact fun hk r => exists_prepend_mem_join h hk
  · intro l hml r hmr hp
    exact ⟨nulls_mem_of_partner hl h hml hmr hp, nulls_mem_of_partner_right hr h hml hmr hp⟩

theorem rows_of_join_fullOuter :
    let left : Relation := ⟨[some "a"], .ofList [[.null], [.boolean true]]⟩
    let right : Relation := ⟨[some "b"], .ofList [[.boolean false], [.boolean true]]⟩
    let rows := [[.null, .null], [.null, .boolean false], [.boolean true, .boolean true]]
    left.WellFormed ∧ right.WellFormed ∧
      left.join .fullOuter (some (.eq (.attr "a") (.attr "b"))) right =
        .ok ⟨[some "a", some "b"], .ofList rows⟩ ∧
      (∀ l ∈ left.rows, ∃ u, l ++ u ∈ RowSet.ofList rows) ∧
      (∀ r ∈ right.rows, ∃ u, u ++ r ∈ RowSet.ofList rows) := by
  intro left right rows
  have hl : left.WellFormed := wellFormed_ofList (by decide)
  have hr : right.WellFormed := wellFormed_ofList (by decide)
  have h : left.join .fullOuter (some (.eq (.attr "a") (.attr "b"))) right =
      .ok ⟨[some "a", some "b"], .ofList rows⟩ := by rfl
  obtain ⟨-, -, hkeepsLeft, hkeepsRight, -⟩ := (rows_of_join hl hr _ _).2 _ h
  exact ⟨hl, hr, h, hkeepsLeft rfl, hkeepsRight rfl⟩

end Relation

-- ---------------------------------------------------------------------------
-- Joins and products
-- ---------------------------------------------------------------------------

theorem Row.append_lt_append_left {t t' : Row} (h : t < t') (s : Row) : s ++ t < s ++ t' :=
  List.append_left_lt h

theorem Row.append_lt_append {s s' : Row} (hl : s.length = s'.length) (h : s < s') (t t' : Row) :
    s ++ t < s' ++ t' := by
  induction h with
  | nil => simp at hl
  | rel h => exact .rel h
  | cons _ ih => exact .cons (ih (by simpa using hl))

theorem keepM_true {ε α : Type} (l : List α) :
    keepM (fun _ => (.ok true : Except ε Bool)) l = .ok l :=
  keepM_eq_ok_iff.2 ⟨fun _ _ => rfl, (List.filter_eq_self.2 fun _ _ => rfl).symm⟩

namespace Relation

variable {left right : Relation}

def pairedRows (left right : Relation) : List Row :=
  (pairs left right).map fun pair => pair.1 ++ pair.2

theorem sorted_pairedRows (hl : left.WellFormed) (right : Relation) :
    (pairedRows left right).Pairwise (· < ·) := by
  rw [pairedRows, pairs, List.map_flatMap, List.pairwise_flatMap]
  constructor
  · intro l _
    rw [List.map_map, List.pairwise_map]
    exact right.rows.sorted.imp fun h => Row.append_lt_append_left h l
  · refine left.rows.sorted.imp_of_mem fun {l l'} hm hm' hlt => ?_
    simp only [List.map_map, List.mem_map, Function.comp_apply]
    rintro _ ⟨r, -, rfl⟩ _ ⟨r', -, rfl⟩
    exact Row.append_lt_append ((hl l hm).trans (hl l' hm').symm) hlt r r'

/-- The value of a product, which always has one. -/
def product (left right : Relation) : Relation :=
  ⟨left.attributes ++ right.attributes, .ofList (pairedRows left right)⟩

theorem toList_product (hl : left.WellFormed) (right : Relation) :
    (left.product right).rows.toList = pairedRows left right :=
  RowSet.toList_ofList (sorted_pairedRows hl right)

theorem join_inner_eq (left right : Relation) (condition : Option Expr) :
    left.join .inner condition right = keepM (meets left right condition) (pairs left right) >>=
      fun matched => pure ⟨left.attributes ++ right.attributes,
        .ofList (matched.map fun pair => pair.1 ++ pair.2)⟩ := by
  simp only [join, joinRows_eq, bind_assoc, pure_bind]
  rfl

theorem cross_eq (left right : Relation) : left.cross right = .ok (left.product right) := by
  have hm : meets left right none = fun _ => .ok true := rfl
  rw [cross, join_inner_eq, hm, keepM_true]
  rfl

theorem join_eq_select (hl : left.WellFormed) (right : Relation) (condition : Expr) :
    left.join .inner (some condition) right = left.cross right >>= (·.select condition) := by
  have hmeets : meets left right (some condition) =
      (fun t => condition.holds ((left.attributes ++ right.attributes).zip t)) ∘
        fun pair => pair.1 ++ pair.2 := rfl
  rw [cross_eq, ok_bind, select, toList_product hl, join_inner_eq, hmeets]
  simp only [scope, product, pairedRows, keepM_map, bind_assoc, pure_bind]

end Relation

/-- Without a row limit, an inner join is the selection of its condition from the product:
the same value, or the same error even if pairs fail with different ones. -/
theorem eval_join_eq_select {db : Database} (hdb : db.WellFormed) (config : Config)
    (left right : Query) (condition : Expr) :
    ((Query.join .inner (some condition) left right).eval config.unlimited db).outcome =
        ((Query.select condition (.cross left right)).eval config.unlimited db).outcome ∧
      ((Query.join .inner none left right).eval config.unlimited db).outcome =
        ((Query.cross left right).eval config.unlimited db).outcome := by
  simp only [Query.outcome_join, Query.outcome_select, Query.outcome_cross,
    Config.limited_unlimited]
  refine ⟨?_, rfl⟩
  cases hl : (left.eval config.unlimited db).outcome with
  | error e => rfl
  | ok l =>
    cases (right.eval config.unlimited db).outcome with
    | error e => rfl
    | ok r => exact l.join_eq_select (Query.eval_wellFormed hdb hl) r condition

/-- Both left rows make the condition fail, and the first one decides the error. -/
theorem eval_join_eq_select_errors :
    let db := Database.ofPairs (.ofList [[.text "a", .null], [.number .one, .null]])
    let right : Query := .constant [[.null], [.boolean true]]
    db.WellFormed ∧
      ((Query.select (.not (.attr "x")) (.cross (.relvar "R") right)).eval
        ({} : Config).unlimited db).outcome = .error (.typeMismatch (.unary .not) .number none) ∧
      ((Query.join .inner (some (.not (.attr "x"))) (.relvar "R") right).eval
        ({} : Config).unlimited db).outcome = .error (.typeMismatch (.unary .not) .number none) := by
  intro db right
  have hdb : db.WellFormed := by
    intro name r hr
    have hm : (name, r) ∈ db.relvars.entries := NameMap.mem_entries_iff.2 hr
    obtain ⟨-, rfl⟩ := Prod.mk.inj (List.mem_singleton.1 hm)
    exact Relation.wellFormed_ofList (by decide)
  have h : ((Query.select (.not (.attr "x")) (.cross (.relvar "R") right)).eval
      ({} : Config).unlimited db).outcome = .error (.typeMismatch (.unary .not) .number none) := by
    rfl
  exact ⟨hdb, h, (eval_join_eq_select hdb {} (.relvar "R") right (.not (.attr "x"))).1.trans h⟩

end Relational
