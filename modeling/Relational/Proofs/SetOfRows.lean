import Relational.Proofs.Building
import Relational.Proofs.SetAlgebra

/-!
# A relation as the set of its rows

Rows of one length that are added one after the other make the same relation in any order and
with any repetitions. It has the old and the new rows, each once and in storage order, and its
attributes do not depend on which row was the first. So a relation that is written out has the
same value if its rows are written in another order or more than once, and its only failure
other than in a cell or at the row limit is that two rows differ in length
(`added_rows_form_set`).
-/

namespace Relational

namespace Relation

variable {r s : Relation} {t u : Row} {rows rows' : List Row} {n : Nat}

-- ---------------------------------------------------------------------------
-- One row
-- ---------------------------------------------------------------------------

def attributesWith (r : Relation) (n : Nat) : List Attribute :=
  if r.arityEstablished then r.attributes else List.replicate n none

theorem addRow_eq_ok_iff :
    r.addRow t = .ok s ↔
      ¬ r.Misfits t.length ∧ s = ⟨r.attributesWith t.length, r.rows.insert t⟩ := by
  unfold addRow Misfits attributesWith
  cases r.arityEstablished with
  | false => simp [eq_comm]
  | true => by_cases hl : t.length = r.arity <;> simp [hl, eq_comm]

theorem mem_addRow_iff (h : r.addRow t = .ok s) : u ∈ s.rows ↔ u = t ∨ u ∈ r.rows := by
  obtain ⟨-, rfl⟩ := addRow_eq_ok_iff.1 h
  exact RowSet.mem_insert

theorem not_misfits_of_addRow (h : r.addRow t = .ok s) : ¬ s.Misfits t.length := by
  obtain ⟨hf, rfl⟩ := addRow_eq_ok_iff.1 h
  unfold Misfits attributesWith arity at *
  cases he : r.arityEstablished with
  | false => simp
  | true => simp_all

-- ---------------------------------------------------------------------------
-- Rows one after the other
-- ---------------------------------------------------------------------------

theorem addRows_cons_eq_ok_iff :
    r.addRows (t :: rows) = .ok s ↔ ∃ next, r.addRow t = .ok next ∧ next.addRows rows = .ok s := by
  simp only [addRows, List.foldlM_cons, bind_eq_ok_iff]

theorem mem_addRows_iff (h : r.addRows rows = .ok s) : u ∈ s.rows ↔ u ∈ r.rows ∨ u ∈ rows := by
  induction rows generalizing r with
  | nil =>
    obtain rfl := Except.ok.inj h
    simp
  | cons t rows ih =>
    obtain ⟨next, hn, h⟩ := addRows_cons_eq_ok_iff.1 h
    simp only [ih h, mem_addRow_iff hn, List.mem_cons]
    tauto

theorem addRows_wellFormed (hw : r.WellFormed) (h : r.addRows rows = .ok s) : s.WellFormed :=
  foldlM_preserves (fun _ _ _ hw h => addRow_wellFormed hw h) hw h

theorem kind_of_addRows_error {e : EvalError} (h : r.addRows rows = .error e) :
    e.kind = .arityMismatch := by
  obtain ⟨_, _, _, _, -, -, he⟩ := exists_of_foldlM_error h
  obtain ⟨-, rfl⟩ := addRow_eq_error_iff.1 he
  rfl

theorem exists_addRows (hl : ∀ t ∈ rows, t.length = n) (hf : ¬ r.Misfits n) :
    ∃ s, r.addRows rows = .ok s := by
  induction rows generalizing r with
  | nil => exact ⟨r, rfl⟩
  | cons t rows ih =>
    rw [List.forall_mem_cons] at hl
    obtain ⟨rfl, hrest⟩ := hl
    have hn := addRow_eq_ok_iff.2 ⟨hf, rfl⟩
    obtain ⟨s, hs⟩ := ih hrest (not_misfits_of_addRow hn)
    exact ⟨s, addRows_cons_eq_ok_iff.2 ⟨_, hn, hs⟩⟩

theorem attributes_of_addRows_settled (he : r.arityEstablished) (h : r.addRows rows = .ok s) :
    s.attributes = r.attributes := by
  refine (foldlM_preserves (p := fun s => s.arityEstablished ∧ s.attributes = r.attributes) ?_
    ⟨he, rfl⟩ h).2
  rintro s t s' ⟨hs, ha⟩ h
  exact ⟨arityEstablished_of_addRow h, (attributes_of_addRow hs h).trans ha⟩

theorem attributes_of_addRows (hl : ∀ t ∈ rows, t.length = n) (h : r.addRows rows = .ok s) :
    s.attributes = if rows = [] then r.attributes else r.attributesWith n := by
  cases rows with
  | nil =>
    obtain rfl := Except.ok.inj h
    simp
  | cons t rows =>
    obtain ⟨next, hn, h⟩ := addRows_cons_eq_ok_iff.1 h
    rw [attributes_of_addRows_settled (arityEstablished_of_addRow hn) h]
    obtain ⟨-, rfl⟩ := addRow_eq_ok_iff.1 hn
    simp [hl t (List.mem_cons_self ..)]

theorem addRows_congr (hl : ∀ t ∈ rows, t.length = n) (hf : ¬ r.Misfits n)
    (hm : ∀ t, t ∈ rows' ↔ t ∈ rows) : r.addRows rows' = r.addRows rows := by
  obtain ⟨s, hs⟩ := exists_addRows hl hf
  have hl' : ∀ t ∈ rows', t.length = n := fun t ht => hl t ((hm t).1 ht)
  obtain ⟨s', hs'⟩ := exists_addRows hl' hf
  have hnil : rows' = [] ↔ rows = [] := by simp only [List.eq_nil_iff_forall_not_mem, hm]
  have heq : s' = s := by
    refine ext_rows ?_ fun t => ?_
    · simp only [attributes_of_addRows hl' hs', attributes_of_addRows hl hs, hnil]
    · simp only [mem_addRows_iff hs', mem_addRows_iff hs, hm]
  rw [hs, hs', heq]

theorem size_of_addRows (h : r.addRows rows = .ok s) :
    s.size = (r.rows.toList ++ rows).toFinset.card := by
  rw [size, ← RowSet.card_toFinset]
  congr 1
  ext t
  simp [mem_addRows_iff h, RowSet.mem_toList]

theorem runAll_addRow (h : r.addRows rows = .ok s) : Edit.runAll (rows.map .addRow) r = s := by
  induction rows generalizing r with
  | nil => exact Except.ok.inj h
  | cons t rows ih =>
    obtain ⟨next, hn, h⟩ := addRows_cons_eq_ok_iff.1 h
    have hrun : ((Edit.addRow t).run r).2 = next := by
      rw [Edit.run_eq, Edit.outcome, hn, replacing]
    rw [List.map_cons, Edit.runAll, List.foldl_cons, hrun]
    exact ih h

-- ---------------------------------------------------------------------------
-- Relations that are written out
-- ---------------------------------------------------------------------------

section

variable {written written' : List (List Expr)} {e : EvalError}

theorem not_misfits_empty (n : Nat) : ¬ Misfits .empty n := fun h => nomatch h.1

theorem ofExprs_of_mapM (h : written.mapM (Expr.evalAll []) = .ok rows) :
    ofExprs written = Relation.empty.addRows rows :=
  foldlM_bind_of_mapM h _

variable (hv : ∀ cells ∈ written, ∃ t, Expr.evalAll [] cells = .ok t)

include hv

theorem ofExprs_congr (hl : ∀ cells ∈ written, cells.length = n)
    (hm : ∀ cells, cells ∈ written' ↔ cells ∈ written) : ofExprs written' = ofExprs written := by
  obtain ⟨rows, hr⟩ := exists_mapM_iff.2 hv
  obtain ⟨rows', hr'⟩ := exists_mapM_iff.2 fun cells hc => hv cells ((hm cells).1 hc)
  have hlength : ∀ t ∈ rows, t.length = n := by
    intro t ht
    obtain ⟨cells, hc, hcells⟩ := mem_of_mapM hr ht
    exact (Expr.length_of_evalAll hcells).trans (hl cells hc)
  rw [ofExprs_of_mapM hr, ofExprs_of_mapM hr']
  refine addRows_congr hlength (not_misfits_empty n) fun t => ?_
  simp only [mem_mapM_iff hr, mem_mapM_iff hr', hm]

theorem exists_ofExprs_iff :
    (∃ r, ofExprs written = .ok r) ↔
      ∀ cells ∈ written, ∀ cells' ∈ written, cells.length = cells'.length := by
  obtain ⟨rows, hr⟩ := exists_mapM_iff.2 hv
  rw [ofExprs_of_mapM hr]
  constructor
  · rintro ⟨s, hs⟩ cells hc cells' hc'
    -- all rows are in the result, whose rows are as long as it has attributes
    have hlength : ∀ cells ∈ written, cells.length = s.attributes.length := by
      intro cells hc
      obtain ⟨t, ht⟩ := hv cells hc
      have hmem : t ∈ s.rows := (mem_addRows_iff hs).2 (.inr ((mem_mapM_iff hr).2 ⟨cells, hc, ht⟩))
      rw [← Expr.length_of_evalAll ht]
      exact addRows_wellFormed (wellFormed_of_no_rows []) hs t hmem
    rw [hlength cells hc, hlength cells' hc']
  · intro h
    cases written with
    | nil =>
      obtain rfl := pure_eq_ok_iff.1 hr
      exact ⟨_, rfl⟩
    | cons cells rest =>
      refine exists_addRows (n := cells.length) (fun t ht => ?_) (not_misfits_empty _)
      obtain ⟨cells', hc, hcells⟩ := mem_of_mapM hr ht
      exact (Expr.length_of_evalAll hcells).trans (h cells' hc cells (List.mem_cons_self ..))

theorem exists_ofExprs_error_iff :
    (∃ e, ofExprs written = .error e ∧ e.kind = .arityMismatch) ↔
      ∃ cells ∈ written, ∃ cells' ∈ written, cells.length ≠ cells'.length := by
  obtain ⟨rows, hr⟩ := exists_mapM_iff.2 hv
  have hkind : (∃ e, ofExprs written = .error e ∧ e.kind = .arityMismatch) ↔
      ∃ e, ofExprs written = .error e := by
    refine exists_congr fun e => and_iff_left_of_imp fun h => ?_
    exact kind_of_addRows_error ((ofExprs_of_mapM hr).symm.trans h)
  rw [hkind, exists_error_iff, exists_ofExprs_iff hv]
  simp

end

end Relation

theorem Config.exists_limited_arityMismatch_iff (config : Config) (operator : Operator)
    (result : Except EvalError Relation) :
    (∃ e, config.limited operator result = .error e ∧ e.kind = .arityMismatch) ↔
      ∃ e, result = .error e ∧ e.kind = .arityMismatch := by
  refine exists_congr fun e => and_congr_left fun hk => ?_
  rw [limited_eq_error_iff]
  refine or_iff_left ?_
  rintro ⟨r, -, hl⟩
  obtain ⟨limit, -, -, rfl⟩ := checkLimit_eq_error_iff.1 hl
  cases hk

/-- Rows that are as long as a value takes them make the same value in whatever order and
however often they are added to it. It has the old rows and the new, counts them once each, and
lists them in increasing order. A relation that is written out and whose cells have values
therefore has the same evaluation if its rows, all of one length, are written in another order
or repeated, and a mismatch of arities is its failure if and only if two of its rows differ in
length. -/
theorem added_rows_form_set :
    (∀ (r : Relation) (n : Nat) (rows : List Row), (∀ t ∈ rows, t.length = n) → ¬ r.Misfits n →
      ∃ s : Relation,
        (∀ rows' : List Row, (∀ t, t ∈ rows' ↔ t ∈ rows) →
          r.addRows rows' = .ok s ∧ Relation.Edit.runAll (rows'.map .addRow) r = s) ∧
        (∀ t, s.contains t ↔ r.contains t ∨ t ∈ rows) ∧
        s.size = (r.rows.toList ++ rows).toFinset.card ∧ s.rows.toList.Pairwise (· < ·)) ∧
    ∀ (config : Config) (db : Database) (written : List (List Expr)),
      (∀ cells ∈ written, ∀ cell ∈ cells, ∃ v, cell.eval [] = .ok v) →
      (∀ n, (∀ cells ∈ written, cells.length = n) →
        ∀ written' : List (List Expr), (∀ cells, cells ∈ written' ↔ cells ∈ written) →
          (Query.constant written').eval config db = (Query.constant written).eval config db) ∧
      ((∃ e, ((Query.constant written).eval config db).outcome = .error e ∧
          e.kind = .arityMismatch) ↔
        ∃ cells ∈ written, ∃ cells' ∈ written, cells.length ≠ cells'.length) := by
  constructor
  · intro r n rows hl hf
    obtain ⟨s, hs⟩ := Relation.exists_addRows hl hf
    refine ⟨s, fun rows' hm => ?_, fun t => ?_, Relation.size_of_addRows hs, s.rows.sorted⟩
    · have hs' := (Relation.addRows_congr hl hf hm).trans hs
      exact ⟨hs', Relation.runAll_addRow hs'⟩
    · simp only [Relation.contains_iff, Relation.mem_addRows_iff hs]
  · intro config db written hcells
    have hv : ∀ cells ∈ written, ∃ t, Expr.evalAll [] cells = .ok t := by
      intro cells hc
      rw [Expr.evalAll_eq_mapM]
      exact exists_mapM_iff.2 (hcells cells hc)
    refine ⟨fun n hl written' hm => ?_, ?_⟩
    · simp only [Query.eval, Relation.ofExprs_congr hv hl hm]
      rfl
    · rw [Query.outcome_constant, Config.exists_limited_arityMismatch_iff,
        Relation.exists_ofExprs_error_iff hv]

theorem added_rows_form_set_repeated :
    let a : Row := [.number .one, .text "a"]
    let b : Row := [.null, .text "b"]
    let x : List Expr := [.add (.number .one) (.number .one)]
    let y : List Expr := [.null]
    (∀ t ∈ [a, b, a], t.length = 2) ∧ ¬ Relation.Misfits .empty 2 ∧
      (∃ s, Relation.empty.addRows [a, b, a] = .ok s ∧ Relation.empty.addRows [b, a] = .ok s ∧
        s.size = 2) ∧
      (∀ cells ∈ [x, y, x, []], ∀ cell ∈ cells, ∃ v, cell.eval [] = .ok v) ∧
      ∀ (config : Config) (db : Database),
        (Query.constant [y, x]).eval config db = (Query.constant [x, y, x]).eval config db ∧
          ∃ e, ((Query.constant [x, y, x, []]).eval config db).outcome = .error e ∧
            e.kind = .arityMismatch := by
  intro a b x y
  obtain ⟨hadded, hwritten⟩ := added_rows_form_set
  have hl : ∀ t ∈ [a, b, a], t.length = 2 := by decide
  have hf : ¬ Relation.Misfits .empty 2 := by decide
  obtain ⟨s, hs, -, hsize, -⟩ := hadded .empty 2 [a, b, a] hl hf
  have hx : ∀ cell ∈ x, ∃ v, cell.eval [] = .ok v := by simpa [x] using ⟨_, rfl⟩
  have hy : ∀ cell ∈ y, ∃ v, cell.eval [] = .ok v := by simpa [y] using ⟨_, rfl⟩
  have hcells : ∀ cells ∈ [x, y, x, []], ∀ cell ∈ cells, ∃ v, cell.eval [] = .ok v := by
    simpa using ⟨hx, hy, hx⟩
  refine ⟨hl, hf, ⟨s, ?_, ?_, ?_⟩, hcells, fun config db => ⟨?_, ?_⟩⟩
  · exact (hs _ fun _ => Iff.rfl).1
  · exact (hs [b, a] (by simp [or_comm])).1
  · exact hsize.trans (by decide)
  · have hxy : ∀ cells ∈ [x, y, x], ∀ cell ∈ cells, ∃ v, cell.eval [] = .ok v := by
      simpa using ⟨hx, hy, hx⟩
    exact (hwritten config db [x, y, x] hxy).1 1 (by simp [x, y]) [y, x] (by simp [or_comm])
  · exact (hwritten config db [x, y, x, []] hcells).2.2 ⟨x, by simp, [], by simp, by simp [x]⟩

end Relational
