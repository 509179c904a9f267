import Relational.Proofs.NestedLoop

/-!
# Rows match their attributes

A relation is well formed when each row has one value for each attribute. The
public constructors make well-formed relations, every operator makes one of
well-formed operands, and so a query over a well-formed database has a
well-formed value (`Query.eval_wellFormed`).
-/

namespace Relational

theorem Expr.length_of_evalAll {scope : Scope} {exprs : List Expr} {vs : List Value}
    (h : Expr.evalAll scope exprs = .ok vs) : vs.length = exprs.length := by
  rw [evalAll_eq_mapM] at h
  exact length_of_mapM h

namespace Relation

-- ---------------------------------------------------------------------------
-- Construction
-- ---------------------------------------------------------------------------

theorem not_mem_of_not_arityEstablished {r : Relation} (h : r.arityEstablished = false) (t : Row) :
    t ∉ r.rows := by
  simp only [arityEstablished, RowSet.isEmpty, Bool.or_eq_false_iff, Bool.not_eq_false',
    List.isEmpty_iff] at h
  rw [← RowSet.mem_toList, h.2]
  exact List.not_mem_nil

theorem wellFormed_of_no_rows (attributes : List Attribute) : WellFormed ⟨attributes, .empty⟩ :=
  fun t ht => absurd ht (RowSet.not_mem_empty t)

theorem withAttributes_wellFormed {attributes : List Attribute} {r : Relation}
    (h : withAttributes attributes = .ok r) : r.WellFormed := by
  simp only [withAttributes, bind_eq_ok_iff, pure_eq_ok_iff] at h
  obtain ⟨_, -, rfl⟩ := h
  exact wellFormed_of_no_rows attributes

theorem setAttributes_wellFormed {r r' : Relation} {attributes : List Attribute}
    (hw : r.WellFormed) (h : r.setAttributes attributes = .ok r') : r'.WellFormed := by
  unfold setAttributes at h
  split at h
  · cases h
  · rename_i hn
    simp only [bind_eq_ok_iff, pure_eq_ok_iff] at h
    obtain ⟨_, -, rfl⟩ := h
    intro t ht
    cases he : r.arityEstablished with
    | false => exact absurd ht (not_mem_of_not_arityEstablished he t)
    | true =>
      have hl : attributes.length = r.arity := by simpa [he] using hn
      exact (hw t ht).trans hl.symm

theorem addRow_wellFormed {r r' : Relation} {t : Row} (hw : r.WellFormed)
    (h : r.addRow t = .ok r') : r'.WellFormed := by
  unfold addRow at h
  split at h
  · rename_i he
    obtain rfl := Except.ok.inj h
    intro u hu
    rcases RowSet.mem_insert.1 hu with rfl | hm
    · simp
    · exact absurd hm (not_mem_of_not_arityEstablished (by simpa using he) u)
  · split at h
    · cases h
    · rename_i hl
      obtain rfl := Except.ok.inj h
      intro u hu
      rcases RowSet.mem_insert.1 hu with rfl | hm
      · exact Decidable.not_not.1 hl
      · exact hw u hm

theorem qualified_wellFormed {r r' : Relation} {relvar : String} (hw : r.WellFormed)
    (h : r.qualified relvar = .ok r') : r'.WellFormed := by
  simp only [qualified, bind_eq_ok_iff, pure_eq_ok_iff] at h
  obtain ⟨attributes, ha, _, -, rfl⟩ := h
  exact fun t ht => (hw t ht).trans (length_of_mapM ha).symm

theorem ofExprs_wellFormed {rows : List (List Expr)} {r : Relation}
    (h : ofExprs rows = .ok r) : r.WellFormed := by
  refine foldlM_preserves (p := WellFormed) ?_ (wellFormed_of_no_rows []) h
  intro r cells r' hw h
  rw [bind_eq_ok_iff] at h
  obtain ⟨t, -, h⟩ := h
  exact addRow_wellFormed hw h

-- ---------------------------------------------------------------------------
-- Operators
-- ---------------------------------------------------------------------------

theorem wellFormed_ofList {attributes : List Attribute} {rows : List Row}
    (h : ∀ t ∈ rows, t.length = attributes.length) : WellFormed ⟨attributes, .ofList rows⟩ :=
  fun t ht => h t (RowSet.mem_ofList.1 ht)

theorem select_wellFormed {r r' : Relation} {condition : Expr} (hw : r.WellFormed)
    (h : r.select condition = .ok r') : r'.WellFormed := by
  simp only [select, bind_eq_ok_iff, pure_eq_ok_iff] at h
  obtain ⟨rows, hr, rfl⟩ := h
  obtain ⟨-, rfl⟩ := keepM_eq_ok_iff.1 hr
  exact wellFormed_ofList fun t ht => hw t (List.mem_filter.1 ht).1

theorem project_wellFormed {r r' : Relation} {items : List Expr}
    (h : r.project items = .ok r') : r'.WellFormed := by
  simp only [project, bind_eq_ok_iff, pure_eq_ok_iff] at h
  obtain ⟨attributes, ha, _, -, rows, hr, rfl⟩ := h
  refine wellFormed_ofList fun t ht => ?_
  obtain ⟨u, -, hu⟩ := mem_of_mapM hr ht
  exact (Expr.length_of_evalAll hu).trans (length_of_mapM ha).symm

theorem rename_wellFormed {r r' : Relation} {renamings : List Renaming} (hw : r.WellFormed)
    (h : r.rename renamings = .ok r') : r'.WellFormed := by
  simp only [rename, bind_eq_ok_iff, pure_eq_ok_iff] at h
  obtain ⟨targets, -, _, -, _, -, rfl⟩ := h
  exact fun t ht => (hw t ht).trans (length_substitute targets r.attributes).symm

theorem combine_wellFormed {op : SetOp} {left right r : Relation} (hl : left.WellFormed)
    (hr : right.WellFormed) (h : left.combine op right = .ok r) : r.WellFormed := by
  unfold combine at h
  split at h
  · cases h
  · rename_i ha
    obtain rfl := Except.ok.inj h
    intro t ht
    rcases SetOp.mem_of_mem_rows ht with hm | hm
    · exact hl t hm
    · exact (hr t hm).trans (Decidable.not_not.1 ha).symm

theorem join_wellFormed {kind : JoinKind} {condition : Option Expr} {left right s : Relation}
    (hl : left.WellFormed) (hr : right.WellFormed)
    (h : left.join kind condition right = .ok s) : s.WellFormed := by
  intro t ht
  rw [attributes_of_join h, List.length_append]
  obtain ⟨l, hml, r, hmr, -, rfl⟩ | ⟨-, l, hml, -, rfl⟩ | ⟨-, r, hmr, -, rfl⟩ :=
    (mem_join_iff h).1 ht
  · rw [List.length_append, hl l hml, hr r hmr]
  · rw [List.length_append, hl l hml, Row.length_nulls, arity]
  · rw [List.length_append, hr r hmr, Row.length_nulls, arity]

theorem divide_wellFormed {dividend divisor r : Relation}
    (h : dividend.divide divisor = .ok r) : r.WellFormed := by
  simp only [divide, bind_eq_ok_iff, pure_eq_ok_iff] at h
  obtain ⟨matched, -, rfl⟩ := h
  intro q hq
  obtain ⟨⟨t, -, rfl⟩, -⟩ := mem_quotientRows.1 hq
  rw [Row.length_pick, List.length_map]

end Relation

-- ---------------------------------------------------------------------------
-- Grouping
-- ---------------------------------------------------------------------------

namespace Groups

def Shaped (keys columns : Nat) (groups : Groups) : Prop :=
  ∀ group ∈ groups, group.1.length = keys ∧ group.2.length = columns

theorem length_of_updateAll {scope : Scope} {columns : List AggregateColumn}
    {accs accs' : List Accumulator} (hl : accs.length = columns.length)
    (h : updateAll scope columns accs = .ok accs') : accs'.length = columns.length := by
  induction columns generalizing accs accs' with
  | nil =>
    obtain rfl : accs' = [] := by simpa [updateAll, eq_comm] using h
    rfl
  | cons column columns ih =>
    cases accs with
    | nil => simp at hl
    | cons acc accs =>
      simp only [updateAll, bind_eq_ok_iff, pure_eq_ok_iff] at h
      obtain ⟨_, -, _, -, rest, hr, rfl⟩ := h
      simp [ih (by simpa using hl) hr]

theorem length_start (columns : List AggregateColumn) : (start columns).length = columns.length :=
  List.length_map _

theorem insertRow_shaped {columns : List AggregateColumn} {key : Row} {scope : Scope}
    {groups groups' : Groups} {keys : Nat} (hk : key.length = keys)
    (hs : groups.Shaped keys columns.length)
    (h : insertRow columns key scope groups = .ok groups') :
    groups'.Shaped keys columns.length := by
  induction groups generalizing groups' with
  | nil =>
    simp only [insertRow, bind_eq_ok_iff, pure_eq_ok_iff] at h
    obtain ⟨accs, ha, rfl⟩ := h
    intro group hg
    obtain rfl := List.mem_singleton.1 hg
    exact ⟨hk, length_of_updateAll (length_start columns) ha⟩
  | cons head groups ih =>
    obtain ⟨hh, ht⟩ := List.forall_mem_cons.1 hs
    obtain ⟨k, accs⟩ := head
    unfold insertRow at h
    split at h
    · simp only [bind_eq_ok_iff, pure_eq_ok_iff] at h
      obtain ⟨accs', ha, rfl⟩ := h
      exact List.forall_mem_cons.2 ⟨⟨hh.1, length_of_updateAll hh.2 ha⟩, ht⟩
    · simp only [bind_eq_ok_iff, pure_eq_ok_iff] at h
      obtain ⟨rest, hr, rfl⟩ := h
      exact List.forall_mem_cons.2 ⟨hh, ih ht hr⟩

theorem length_of_mem_toRows {groups : Groups} {keys columns : Nat} (hs : groups.Shaped keys columns)
    {t : Row} (ht : t ∈ toRows groups) : t.length = keys + columns := by
  obtain ⟨group, hg, rfl⟩ := List.mem_map.1 ht
  obtain ⟨hk, hc⟩ := hs group hg
  rw [List.length_append, List.length_map, hk, hc]

end Groups

theorem Relation.group_wellFormed {r r' : Relation} {keys : List Expr}
    {columns : List AggregateColumn} (h : r.group keys columns = .ok r') : r'.WellFormed := by
  simp only [group, bind_eq_ok_iff, pure_eq_ok_iff] at h
  obtain ⟨keyNames, hk, _, -, groups, hg, rfl⟩ := h
  have shaped : Groups.Shaped keys.length columns.length groups := by
    refine foldlM_preserves ?_ (by simp [Groups.Shaped]) hg
    intro groups t groups' hs h
    simp only [groupRow, bind_eq_ok_iff] at h
    obtain ⟨key, he, h⟩ := h
    exact Groups.insertRow_shaped (Expr.length_of_evalAll he) hs h
  refine wellFormed_ofList fun t ht => ?_
  rw [List.length_append, List.length_map, length_of_mapM hk]
  refine Groups.length_of_mem_toRows ?_ ht
  split
  · rename_i hn
    have hkeys : keys = [] := by simpa using (Bool.and_eq_true_iff.1 hn).2
    intro group hg
    obtain rfl := List.mem_singleton.1 hg
    exact ⟨by rw [hkeys]; rfl, Groups.length_start columns⟩
  · exact shaped

-- ---------------------------------------------------------------------------
-- Queries
-- ---------------------------------------------------------------------------

def Database.WellFormed (db : Database) : Prop :=
  ∀ name r, db.relvars.get? name = some r → r.WellFormed

theorem Database.relvar_eq_ok_iff {db : Database} {name : String} {r : Relation} :
    db.relvar name = .ok r ↔ db.relvars.get? name = some r := by
  unfold relvar
  split <;> simp_all

theorem Query.eval_wellFormed {config : Config} {db : Database} (hw : db.WellFormed)
    {query : Query} {r : Relation} (h : (query.eval config db).outcome = .ok r) :
    r.WellFormed := by
  induction query generalizing r with
  | relvar name =>
    rw [outcome_relvar, Config.limited_eq_ok_iff, Database.relvar_eq_ok_iff] at h
    exact hw name r h.1
  | constant rows =>
    rw [outcome_constant, Config.limited_eq_ok_iff] at h
    exact Relation.ofExprs_wellFormed h.1
  | rename renamings input ih =>
    simp only [outcome_rename, Config.limited_eq_ok_iff, bind_eq_ok_iff] at h
    obtain ⟨⟨i, hi, h⟩, -⟩ := h
    exact Relation.rename_wellFormed (ih hi) h
  | project items input =>
    simp only [outcome_project, Config.limited_eq_ok_iff, bind_eq_ok_iff] at h
    obtain ⟨⟨i, -, exprs, -, h⟩, -⟩ := h
    exact Relation.project_wellFormed h
  | select condition input ih =>
    simp only [outcome_select, Config.limited_eq_ok_iff, bind_eq_ok_iff] at h
    obtain ⟨⟨i, hi, h⟩, -⟩ := h
    exact Relation.select_wellFormed (ih hi) h
  | cross left right ihl ihr =>
    simp only [outcome_cross, Config.limited_eq_ok_iff, bind_eq_ok_iff] at h
    obtain ⟨⟨l, hl, r, hr, h⟩, -⟩ := h
    exact Relation.join_wellFormed (ihl hl) (ihr hr) h
  | setOp op left right ihl ihr =>
    simp only [outcome_setOp, Config.limited_eq_ok_iff, bind_eq_ok_iff] at h
    obtain ⟨⟨l, hl, r, hr, h⟩, -⟩ := h
    exact Relation.combine_wellFormed (ihl hl) (ihr hr) h
  | join kind condition left right ihl ihr =>
    simp only [outcome_join, Config.limited_eq_ok_iff, bind_eq_ok_iff] at h
    obtain ⟨⟨l, hl, r, hr, h⟩, -⟩ := h
    exact Relation.join_wellFormed (ihl hl) (ihr hr) h
  | divide left right =>
    simp only [outcome_divide, Config.limited_eq_ok_iff, bind_eq_ok_iff] at h
    obtain ⟨⟨l, -, r, -, h⟩, -⟩ := h
    exact Relation.divide_wellFormed h
  | group keys aggregates input =>
    simp only [outcome_group, Config.limited_eq_ok_iff, bind_eq_ok_iff] at h
    obtain ⟨⟨columns, -, i, -, h⟩, -⟩ := h
    exact Relation.group_wellFormed h
  | parens inner ih =>
    rw [outcome_parens, Config.limited_eq_ok_iff] at h
    exact ih h.1

end Relational
