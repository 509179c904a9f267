import Relational.Proofs.Condition
import Relational.Proofs.Header
import Relational.Proofs.Operands

/-!
# Selections by compound conditions

A selection keeps the rows on which its condition has the truth value true, and it succeeds
if the condition has a truth value on all rows. So connectives in a condition are set
operations on what is selected (`selections_of_connectives`), and a conjunction can be split
into two selections, the second of which is spared the rows on which the first condition is
not true (`eval_select_and`).
-/

namespace Relational

section

variable {ε α : Type} {l : List α}

theorem keepM_congr {test test' : α → Except ε Bool} (h : ∀ a ∈ l, test a = test' a) :
    keepM test l = keepM test' l := by
  induction l with
  | nil => rfl
  | cons a l ih =>
    obtain ⟨ha, hl⟩ := List.forall_mem_cons.1 h
    simp only [keepM, ha, ih hl]

theorem upToKind_keepM (test : α → Except EvalError Bool) (l : List α) :
    upToKind (keepM test l) = keepM (fun a => upToKind (test a)) l := by
  induction l with
  | nil => rfl
  | cons a l ih => simp only [keepM, upToKind_bind, upToKind_pure, ih]

end

namespace LogicalOp

def setOp : LogicalOp → SetOp
  | and => .intersect
  | or => .union

theorem mem_setOp_rows {op : LogicalOp} {t : Row} {s s' : RowSet} :
    t ∈ op.setOp.rows s s' ↔
      match op with
      | and => t ∈ s ∧ t ∈ s'
      | or => t ∈ s ∨ t ∈ s' := by
  cases op <;> exact SetOp.mem_rows_iff

end LogicalOp

namespace Relation

variable {r s s' : Relation} {condition condition' p q : Expr} {t : Row}

-- ---------------------------------------------------------------------------
-- Selections and truth values
-- ---------------------------------------------------------------------------

theorem exists_select_iff_truth :
    (∃ s, r.select condition = .ok s) ↔
      ∀ t ∈ r.rows, ∃ b, condition.truth (r.scope t) = .ok b := by
  simp only [exists_select_iff, Expr.exists_holds_iff]

theorem mem_select_iff_truth (h : r.select condition = .ok s) :
    t ∈ s.rows ↔ t ∈ r.rows ∧ condition.truth (r.scope t) = .ok (some true) := by
  simp only [mem_select_iff h, Expr.holds_eq_true_iff, Expr.truth_eq_ok_iff, Truth.toValue]

theorem select_eq_ok_iff :
    r.select condition = .ok s ↔
      (∀ t ∈ r.rows, ∃ b, condition.truth (r.scope t) = .ok b) ∧
        s.attributes = r.attributes ∧
        ∀ t, t ∈ s.rows ↔ t ∈ r.rows ∧ condition.truth (r.scope t) = .ok (some true) := by
  constructor
  · intro h
    have hall := exists_select_iff_truth.1 ⟨s, h⟩
    exact ⟨hall, attributes_of_select h, fun t => mem_select_iff_truth h⟩
  · rintro ⟨hall, ha, hrows⟩
    obtain ⟨s', h⟩ := exists_select_iff_truth.2 hall
    have he : s' = s := by
      refine ext_rows ((attributes_of_select h).trans ha.symm) fun t => ?_
      rw [mem_select_iff_truth h, hrows]
    rw [h, he]

theorem select_congr
    (h : ∀ t ∈ r.rows, condition.eval (r.scope t) = condition'.eval (r.scope t)) :
    r.select condition = r.select condition' := by
  have hholds : ∀ t ∈ r.rows.toList,
      condition.holds (r.scope t) = condition'.holds (r.scope t) := by
    intro t ht
    simp only [Expr.holds, h t ht]
  simp only [select, keepM_congr hholds]

theorem upToKind_select_congr
    (h : ∀ t ∈ r.rows, condition.truth (r.scope t) = condition'.truth (r.scope t)) :
    upToKind (r.select condition) = upToKind (r.select condition') := by
  have hholds : ∀ t ∈ r.rows.toList, upToKind (condition.holds (r.scope t)) =
      upToKind (condition'.holds (r.scope t)) := by
    intro t ht
    simp only [Expr.upToKind_holds, h t ht]
  simp only [select, upToKind_bind, upToKind_pure, upToKind_keepM, keepM_congr hholds]

-- ---------------------------------------------------------------------------
-- Connectives
-- ---------------------------------------------------------------------------

theorem select_logical (op : LogicalOp) (hp : r.select p = .ok s) (hq : r.select q = .ok s') :
    r.select (.binary (.logical op) p q) = .ok ⟨r.attributes, op.setOp.rows s.rows s'.rows⟩ := by
  have hvalue : ∀ t ∈ r.rows, ∃ a b, p.truth (r.scope t) = .ok a ∧ q.truth (r.scope t) = .ok b ∧
      (Expr.binary (.logical op) p q).truth (r.scope t) = .ok (op.combine a b) := by
    intro t ht
    obtain ⟨a, ha⟩ := exists_select_iff_truth.1 ⟨s, hp⟩ t ht
    obtain ⟨b, hb⟩ := exists_select_iff_truth.1 ⟨s', hq⟩ t ht
    exact ⟨a, b, ha, hb, Expr.truth_logical_eq_ok_iff.2 ⟨a, b, ha, .inr hb, rfl⟩⟩
  refine select_eq_ok_iff.2 ⟨?_, rfl, ?_⟩
  · intro t ht
    obtain ⟨a, b, -, -, h⟩ := hvalue t ht
    exact ⟨_, h⟩
  · intro t
    rw [LogicalOp.mem_setOp_rows, mem_select_iff_truth hp, mem_select_iff_truth hq]
    by_cases ht : t ∈ r.rows
    · obtain ⟨a, b, ha, hb, h⟩ := hvalue t ht
      cases op <;> simp [ht, ha, hb, h, LogicalOp.combine_eq_true_iff]
    · cases op <;> simp [ht]

theorem exists_select_not (hp : r.select p = .ok s) :
    ∃ n, r.select (.not p) = .ok n ∧ n.attributes = r.attributes ∧
      ∀ t, t ∈ n.rows ↔ t ∈ r.rows ∧ p.eval (r.scope t) = .ok (.boolean false) := by
  have hok : ∃ n, r.select (.not p) = .ok n := by
    refine exists_select_iff_truth.2 fun t ht => ?_
    obtain ⟨b, hb⟩ := exists_select_iff_truth.1 ⟨s, hp⟩ t ht
    exact ⟨b.not, Expr.truth_not_eq_ok_iff.2 (by rw [hb, Truth.not_not])⟩
  obtain ⟨n, hn⟩ := hok
  refine ⟨n, hn, attributes_of_select hn, fun t => ?_⟩
  rw [mem_select_iff_truth hn, Expr.truth_not_eq_ok_iff, Expr.truth_eq_ok_iff]
  rfl

theorem upToKind_select_not_logical (r : Relation) (op : LogicalOp) (p q : Expr) :
    upToKind (r.select (.not (.binary (.logical op) p q))) =
      upToKind (r.select (.binary (.logical op.dual) (.not p) (.not q))) :=
  upToKind_select_congr fun t _ => Expr.truth_not_logical (r.scope t) op p q

/-- Where both conditions can be selected by, their conjunction selects the common rows and
their disjunction the rows of either, and the negation of the first selects the rows on which
it is false. These and the rows selected by the condition leave out those on which it is null.
Negation goes through a connective as in De Morgan's laws, whether or not there are failures. -/
theorem selections_of_connectives (r : Relation) (p q : Expr) :
    (∀ s, r.select p = .ok s →
      (∀ s', r.select q = .ok s' →
        r.select (.and p q) = .ok ⟨r.attributes, s.rows.inter s'.rows⟩ ∧
        r.select (.or p q) = .ok ⟨r.attributes, s.rows.union s'.rows⟩) ∧
      ∃ n, r.select (.not p) = .ok n ∧ n.attributes = r.attributes ∧
        (∀ t, t ∈ n.rows ↔ t ∈ r.rows ∧ p.eval (r.scope t) = .ok (.boolean false)) ∧
        (∀ t ∈ n.rows, t ∉ s.rows) ∧
        ∀ t ∈ r.rows, t ∉ s.rows ∧ t ∉ n.rows ↔ p.eval (r.scope t) = .ok .null) ∧
    upToKind (r.select (.not (.and p q))) = upToKind (r.select (.or (.not p) (.not q))) ∧
    upToKind (r.select (.not (.or p q))) = upToKind (r.select (.and (.not p) (.not q))) := by
  refine ⟨fun s hp => ⟨fun s' hq => ?_, ?_⟩, ?_, ?_⟩
  · exact ⟨select_logical .and hp hq, select_logical .or hp hq⟩
  · obtain ⟨n, hn, ha, hrows⟩ := exists_select_not hp
    refine ⟨n, hn, ha, hrows, fun t ht hs => ?_, fun t ht => ?_⟩
    · have htrue := Expr.truth_eq_ok_iff.1 ((mem_select_iff_truth hp).1 hs).2
      simp [((hrows t).1 ht).2, Truth.toValue] at htrue
    · obtain ⟨b, hb⟩ := exists_select_iff_truth.1 ⟨s, hp⟩ t ht
      simp only [hrows, mem_select_iff_truth hp, ht, true_and, Expr.truth_eq_ok_iff] at hb ⊢
      rcases b with _ | _ | _ <;> simp [hb, Truth.toValue]
  · exact upToKind_select_not_logical r .and p q
  · exact upToKind_select_not_logical r .or p q

theorem selections_of_connectives_unknown :
    let r : Relation := ⟨[some "a", some "b"], .ofList
      [[.null, .boolean true], [.boolean true, .null], [.boolean true, .boolean true],
        [.boolean false, .null], [.null, .null]]⟩
    let s : Relation := ⟨r.attributes, .ofList [[.boolean true, .null], [.boolean true, .boolean true]]⟩
    let s' : Relation := ⟨r.attributes, .ofList [[.null, .boolean true], [.boolean true, .boolean true]]⟩
    r.select (.attr "a") = .ok s ∧ r.select (.attr "b") = .ok s' ∧
      r.select (.and (.attr "a") (.attr "b")) = .ok ⟨r.attributes, s.rows.inter s'.rows⟩ ∧
      r.select (.or (.attr "a") (.attr "b")) = .ok ⟨r.attributes, s.rows.union s'.rows⟩ ∧
      (s.rows.inter s'.rows).toList = [[.boolean true, .boolean true]] ∧
      ∃ n, r.select (.not (.attr "a")) = .ok n ∧
        (∀ t, t ∈ n.rows ↔ t ∈ r.rows ∧ (Expr.attr "a").eval (r.scope t) = .ok (.boolean false)) ∧
        ∀ t ∈ n.rows, t ∉ s.rows := by
  intro r s s'
  have hp : r.select (.attr "a") = .ok s := by rfl
  have hq : r.select (.attr "b") = .ok s' := by rfl
  obtain ⟨hboth, n, hn, -, hrows, hdisjoint, -⟩ :=
    (selections_of_connectives r (.attr "a") (.attr "b")).1 s hp
  obtain ⟨hand, hor⟩ := hboth s' hq
  exact ⟨hp, hq, hand, hor, rfl, n, hn, hrows, hdisjoint⟩

-- ---------------------------------------------------------------------------
-- Nested selections
-- ---------------------------------------------------------------------------

theorem scope_of_select (h : r.select condition = .ok s) (t : Row) : s.scope t = r.scope t := by
  simp only [scope, attributes_of_select h]

theorem size_le_of_select (h : r.select condition = .ok s) : s.size ≤ r.size :=
  RowSet.size_le_of_subset fun _ ht => ((mem_select_iff h).1 ht).1

theorem select_select_eq_ok_iff :
    (r.select p >>= fun inner => inner.select q) = .ok s ↔
      (∀ t ∈ r.rows, ∃ a, p.truth (r.scope t) = .ok a ∧
        (a = some true → ∃ b, q.truth (r.scope t) = .ok b)) ∧
      s.attributes = r.attributes ∧
      ∀ t, t ∈ s.rows ↔ t ∈ r.rows ∧
        p.truth (r.scope t) = .ok (some true) ∧ q.truth (r.scope t) = .ok (some true) := by
  constructor
  · intro h
    obtain ⟨inner, hp, hq⟩ := bind_eq_ok_iff.1 h
    obtain ⟨hall, ha, hrows⟩ := select_eq_ok_iff.1 hq
    simp only [mem_select_iff_truth hp, scope_of_select hp] at hall hrows
    refine ⟨fun t ht => ?_, ha.trans (attributes_of_select hp), fun t => ?_⟩
    · obtain ⟨a, ha⟩ := exists_select_iff_truth.1 ⟨inner, hp⟩ t ht
      exact ⟨a, ha, fun htrue => hall t ⟨ht, htrue ▸ ha⟩⟩
    · rw [hrows, and_assoc]
  · rintro ⟨hall, ha, hrows⟩
    have hok : ∃ inner, r.select p = .ok inner := by
      refine exists_select_iff_truth.2 fun t ht => ?_
      obtain ⟨a, ha, -⟩ := hall t ht
      exact ⟨a, ha⟩
    obtain ⟨inner, hp⟩ := hok
    refine bind_eq_ok_iff.2 ⟨inner, hp, select_eq_ok_iff.2 ?_⟩
    simp only [mem_select_iff_truth hp, scope_of_select hp]
    refine ⟨?_, ha.trans (attributes_of_select hp).symm, fun t => ?_⟩
    · rintro t ⟨ht, htrue⟩
      obtain ⟨a, ha, hb⟩ := hall t ht
      exact hb (Except.ok.inj (ha.symm.trans htrue))
    · rw [hrows, and_assoc]

/-- A conjunction asks for more than the nested selections: its second condition is looked at
also where the first one is unknown. -/
theorem select_and_eq_ok_iff :
    r.select (.and p q) = .ok s ↔
      (r.select p >>= fun inner => inner.select q) = .ok s ∧
        ∀ t ∈ r.rows, p.truth (r.scope t) = .ok none → ∃ b, q.truth (r.scope t) = .ok b := by
  rw [select_eq_ok_iff, select_select_eq_ok_iff]
  simp only [Expr.truth_and_eq_true_iff]
  constructor
  · rintro ⟨hall, ha, hrows⟩
    have hvalue : ∀ t ∈ r.rows, ∃ a, p.truth (r.scope t) = .ok a ∧
        (a ≠ some false → ∃ b, q.truth (r.scope t) = .ok b) :=
      fun t ht => Expr.exists_truth_logical_iff.1 (hall t ht)
    refine ⟨⟨fun t ht => ?_, ha, hrows⟩, fun t ht hn => ?_⟩
    · obtain ⟨a, ha, hb⟩ := hvalue t ht
      exact ⟨a, ha, fun htrue => hb (by simp [htrue])⟩
    · obtain ⟨a, ha, hb⟩ := hvalue t ht
      obtain rfl := Except.ok.inj (hn.symm.trans ha)
      exact hb nofun
  · rintro ⟨⟨hall, ha, hrows⟩, hnull⟩
    refine ⟨fun t ht => ?_, ha, hrows⟩
    obtain ⟨a, ha, hb⟩ := hall t ht
    refine Expr.exists_truth_logical_iff.2 ⟨a, ha, fun hn => ?_⟩
    -- False decides the conjunction, and the rows with true are those of the inner selection.
    rcases a with _ | _ | _
    · exact hnull t ht ha
    · exact absurd rfl hn
    · exact hb rfl

end Relation

namespace Query

variable {config : Config} {db : Database} {input : Query} {r s : Relation} {p q q' : Expr}

theorem limited_select (h : (input.eval config db).outcome = .ok r) (operator : Operator)
    (condition : Expr) : config.limited operator (r.select condition) = r.select condition := by
  cases hs : r.select condition with
  | error e => rfl
  | ok s =>
    refine Config.limited_eq_ok_iff.2 ⟨rfl, Config.checkLimit_eq_ok_iff.2 fun limit hl => ?_⟩
    exact Nat.le_trans (Relation.size_le_of_select hs) (size_le_of_eval h hl)

theorem outcome_select_of_ok (h : (input.eval config db).outcome = .ok r) (condition : Expr) :
    ((select condition input).eval config db).outcome = r.select condition := by
  rw [outcome_select, h, ok_bind, limited_select h]

theorem outcome_select_of_error {e : EvalError} (h : (input.eval config db).outcome = .error e)
    (condition : Expr) : ((select condition input).eval config db).outcome = .error e := by
  rw [outcome_select, h]
  rfl

theorem outcome_select_select_of_ok (h : (input.eval config db).outcome = .ok r) (p q : Expr) :
    ((select q (select p input)).eval config db).outcome =
      r.select p >>= fun inner => inner.select q := by
  have hp := outcome_select_of_ok h p
  cases hs : r.select p with
  | error e => exact outcome_select_of_error (hp.trans hs) q
  | ok inner => exact outcome_select_of_ok (hp.trans hs) q

end Query

/-- A conjunction selects what its second condition selects from what the first one selects,
under every row limit. For the conjunction to succeed, its second condition must in addition
be null or a boolean where the first one is null. Neither form depends on what the second
condition is where the first one is false. -/
theorem eval_select_and (config : Config) (db : Database) (input : Query) (p q : Expr) :
    (∀ s, ((Query.select (.and p q) input).eval config db).outcome = .ok s ↔
      ((Query.select q (.select p input)).eval config db).outcome = .ok s ∧
        ∀ r, (input.eval config db).outcome = .ok r → ∀ t ∈ r.rows,
          p.eval (r.scope t) = .ok .null → ∃ b : Truth, q.eval (r.scope t) = .ok b.toValue) ∧
    ∀ q' : Expr,
      (∀ r, (input.eval config db).outcome = .ok r → ∀ t ∈ r.rows,
        p.eval (r.scope t) ≠ .ok (.boolean false) → q'.eval (r.scope t) = q.eval (r.scope t)) →
      ((Query.select (.and p q') input).eval config db).outcome =
          ((Query.select (.and p q) input).eval config db).outcome ∧
        ((Query.select q' (.select p input)).eval config db).outcome =
          ((Query.select q (.select p input)).eval config db).outcome := by
  cases h : (input.eval config db).outcome with
  | error e =>
    have hconj (condition : Expr) := Query.outcome_select_of_error h condition
    have hnested (q : Expr) := Query.outcome_select_of_error (hconj p) q
    simp [hconj, hnested]
  | ok r =>
    simp only [Query.outcome_select_of_ok h, Query.outcome_select_select_of_ok h, Except.ok.injEq,
      forall_eq']
    refine ⟨fun s => ?_, fun q' hagree => ⟨?_, ?_⟩⟩
    · simp only [Relation.select_and_eq_ok_iff, Expr.truth_eq_ok_iff, Truth.toValue]
    · exact Relation.select_congr fun t ht => Expr.eval_logical_congr_right (hagree t ht)
    · cases hp : r.select p with
      | error e => rfl
      | ok inner =>
        refine Relation.select_congr fun t ht => ?_
        obtain ⟨ht, htrue⟩ := (Relation.mem_select_iff_truth hp).1 ht
        rw [Relation.scope_of_select hp]
        refine hagree t ht ?_
        simp [Expr.truth_eq_ok_iff.1 htrue, Truth.toValue]

/-- On the row that the first condition rejects the second one is a number. -/
theorem eval_select_and_rejected :
    let db := Database.ofPairs (.ofList [[.boolean false, .number .one],
      [.boolean true, .boolean true], [.null, .boolean true]])
    let conjunction (q : Expr) : Query := .select (.and (.attr "x") q) (.relvar "R")
    let nested (q : Expr) : Query := .select q (.select (.attr "x") (.relvar "R"))
    let s : Relation := ⟨[some "R.x", some "R.y"], .ofList [[.boolean true, .boolean true]]⟩
    ((conjunction (.attr "y")).eval { maxRows := some 3 } db).outcome = .ok s ∧
      ((nested (.attr "y")).eval { maxRows := some 3 } db).outcome = .ok s ∧
      ((conjunction (.boolean true)).eval { maxRows := some 3 } db).outcome = .ok s ∧
      ((nested (.boolean true)).eval { maxRows := some 3 } db).outcome = .ok s := by
  intro db conjunction nested s
  have h : ((conjunction (.attr "y")).eval { maxRows := some 3 } db).outcome = .ok s := by rfl
  have hagree : ∀ r, ((Query.relvar "R").eval { maxRows := some 3 } db).outcome = .ok r →
      ∀ t ∈ r.rows, (Expr.attr "x").eval (r.scope t) ≠ .ok (.boolean false) →
        (Expr.boolean true).eval (r.scope t) = (Expr.attr "y").eval (r.scope t) := by
    intro r hr
    obtain rfl := Except.ok.inj hr
    intro t ht
    have ht := RowSet.mem_ofList.1 ht
    simp only [List.mem_cons, List.not_mem_nil, or_false] at ht
    rcases ht with rfl | rfl | rfl
    · exact fun hn => absurd rfl hn
    · exact fun _ => rfl
    · exact fun _ => rfl
  obtain ⟨hsplit, hfree⟩ :=
    eval_select_and { maxRows := some 3 } db (.relvar "R") (.attr "x") (.attr "y")
  obtain ⟨hnested, -⟩ := (hsplit s).1 h
  obtain ⟨hconjunction', hnested'⟩ := hfree (.boolean true) hagree
  exact ⟨h, hnested, hconjunction'.trans h, hnested'.trans hnested⟩

end Relational
