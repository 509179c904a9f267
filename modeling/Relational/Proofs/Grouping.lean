import Mathlib.Data.List.Induction
import Mathlib.Data.List.Nodup
import Relational.Proofs.Accumulation
import Relational.Proofs.WellFormed

/-!
# Grouping

Which rows a grouping has (`rows_of_group`): one for each key, made of the key and of what
each aggregate column makes of the rows with that key. The groups of a run over the rows
are told by the rows that have been seen (`Gathers`).
-/

namespace Relational

theorem exists_getElem?_of_forall₂ {α β : Type} {R : α → β → Prop} {l : List α} {l' : List β}
    (h : List.Forall₂ R l l') {i : Nat} {a : α} (ha : l[i]? = some a) :
    ∃ b, l'[i]? = some b ∧ R a b := by
  induction h generalizing i with
  | nil => simp at ha
  | cons hr _ ih =>
    cases i with
    | zero =>
      obtain rfl := Option.some.inj ha
      exact ⟨_, rfl, hr⟩
    | succ i => exact ih ha

-- ---------------------------------------------------------------------------
-- One column over the rows of one group
-- ---------------------------------------------------------------------------

namespace AggregateColumn

variable {r : Relation} {column : AggregateColumn} {members : List Row} {acc : Accumulator}
  {v v' : Value}

/-- What a column has over some rows: their number, or what its function yields over those
values of its argument that are not null. -/
inductive Summarises (r : Relation) (members : List Row) (column : AggregateColumn) :
    Value → Prop
  | rows {n : Number} : column.argument = none → n.toInt = members.length →
      Summarises r members column (.number n)
  | values {expr values v} : column.argument = some expr →
      members.mapM (fun t => expr.eval (r.scope t)) = .ok values →
      column.function.Yields (Value.present values) v → Summarises r members column v

/-- A column gets through some rows: they can be counted, or the argument has a value on each
of them and the function gets through those that are not null. -/
def Accepts (r : Relation) (members : List Row) (column : AggregateColumn) : Prop :=
  match column.argument with
  | none => Number.InRange members.length
  | some expr =>
    ∃ values, members.mapM (fun t => expr.eval (r.scope t)) = .ok values ∧
      column.function.Admits (Value.present values)

theorem Summarises.unique (h : Summarises r members column v)
    (h' : Summarises r members column v') : v = v' := by
  cases h with
  | rows ha hn =>
    cases h' with
    | rows _ hn' => rw [Number.ext (hn.trans hn'.symm)]
    | values ha' => simp [ha] at ha'
  | values ha hv hy =>
    cases h' with
    | rows ha' => simp [ha] at ha'
    | values ha' hv' hy' =>
      obtain rfl := Option.some.inj (ha.symm.trans ha')
      obtain rfl := Except.ok.inj (hv.symm.trans hv')
      exact hy.unique hy'

theorem forall₂_summarises_unique {columns : List AggregateColumn} {vs vs' : List Value}
    (h : List.Forall₂ (Summarises r members) columns vs)
    (h' : List.Forall₂ (Summarises r members) columns vs') : vs = vs' := by
  have unique : Relator.RightUnique (Summarises r members) := fun _ _ _ => Summarises.unique
  exact unique.forall₂ h h'

def take (r : Relation) (column : AggregateColumn) (acc : Accumulator) (t : Row) :
    Except EvalError Accumulator := do
  acc.update (← column.contribution (r.scope t))

def gather (r : Relation) (members : List Row) (column : AggregateColumn) :
    Except EvalError Accumulator :=
  members.foldlM (take r column) (.start column.function)

theorem gather_eq_ok_iff :
    gather r members column = .ok acc ↔
      ∃ values, members.mapM (fun t => column.contribution (r.scope t)) = .ok values ∧
        (Value.present values).foldlM Accumulator.absorb (.start column.function) = .ok acc := by
  simp only [gather, ← Accumulator.foldlM_update]
  exact foldlM_bind_eq_ok_iff

theorem present_ne_null {values : List Value} : ∀ v ∈ Value.present values, v ≠ .null := by
  simp [Value.present]

theorem mapM_contribution_of_none (ha : column.argument = none) (members : List Row) :
    members.mapM (fun t => column.contribution (r.scope t)) =
      .ok (List.replicate members.length (.boolean true)) := by
  simp only [contribution, ha]
  induction members with
  | nil => rfl
  | cons t members ih => simp [ih, List.replicate_succ, bind, Except.bind, pure, Except.pure]

theorem contribution_of_some {expr : Expr} (ha : column.argument = some expr) (scope : Scope) :
    column.contribution scope = expr.eval scope := by
  rw [contribution, ha]

theorem count_of_argumentOf {function : AggregateFunction} {args : List Expr}
    (h : argumentOf function args = .ok none) : function = .count := by
  unfold argumentOf at h
  split at h
  · rfl
  · cases h
  · cases h

theorem count_of_ofExpr {expr : Expr} (h : ofExpr expr = .ok column) :
    column.argument = none → column.function = .count := by
  unfold ofExpr at h
  split at h
  · rename_i name args _
    cases hf : AggregateFunction.find? name with
    | none => simp [hf] at h
    | some function =>
      simp only [hf, bind_eq_ok_iff] at h
      obtain ⟨argument, ha, h⟩ := h
      obtain ⟨rfl, rfl⟩ : column.function = function ∧ column.argument = argument := by
        split at h <;> simp only [bind_eq_ok_iff, pure_eq_ok_iff] at h <;>
          obtain ⟨_, -, rfl⟩ := h <;> exact ⟨rfl, rfl⟩
      exact fun hn => count_of_argumentOf (hn ▸ ha)
  · cases h

theorem count_of_mapM_ofExpr {aggregates : List Expr} {columns : List AggregateColumn}
    (h : aggregates.mapM ofExpr = .ok columns) :
    ∀ column ∈ columns, column.argument = none → column.function = .count := by
  intro column hm
  obtain ⟨expr, -, he⟩ := mem_of_mapM h hm
  exact count_of_ofExpr he

theorem summarises_of_gather (hcount : column.argument = none → column.function = .count)
    (h : gather r members column = .ok acc) : Summarises r members column acc.result := by
  obtain ⟨values, hv, hacc⟩ := gather_eq_ok_iff.1 h
  have hy := Accumulator.yields_of_absorb present_ne_null hacc
  cases ha : column.argument with
  | none =>
    rw [mapM_contribution_of_none ha, Except.ok.injEq] at hv
    subst hv
    rw [hcount ha] at hy
    generalize acc.result = v at hy ⊢
    cases hy with
    | count hn => exact .rows ha (by simpa [Value.present] using hn)
  | some expr =>
    simp only [contribution_of_some ha] at hv
    exact .values ha hv hy

theorem exists_gather_iff (hcount : column.argument = none → column.function = .count) :
    (∃ acc, gather r members column = .ok acc) ↔ Accepts r members column := by
  simp only [gather_eq_ok_iff]
  rw [exists_comm]
  simp only [exists_and_left, Accumulator.exists_absorb_iff present_ne_null, Accepts]
  cases ha : column.argument with
  | none =>
    simp [mapM_contribution_of_none ha, hcount ha, AggregateFunction.Admits, Value.present]
  | some expr => simp only [contribution_of_some ha]

end AggregateColumn

-- ---------------------------------------------------------------------------
-- All columns over the rows of one group
-- ---------------------------------------------------------------------------

namespace Groups

variable {r : Relation} {columns : List AggregateColumn} {members : List Row}
  {accs accs' : List Accumulator}

def gatherAll (r : Relation) (columns : List AggregateColumn) (members : List Row) :
    List Accumulator → Except EvalError (List Accumulator) :=
  members.foldlM fun accs t => updateAll (r.scope t) columns accs

theorem updateAll_cons_eq_ok_iff {column : AggregateColumn} {t : Row} {acc : Accumulator} :
    updateAll (r.scope t) (column :: columns) (acc :: accs) = .ok accs' ↔
      ∃ next rest, column.take r acc t = .ok next ∧
        updateAll (r.scope t) columns accs = .ok rest ∧ next :: rest = accs' := by
  simp only [updateAll, AggregateColumn.take, bind_eq_ok_iff, pure_eq_ok_iff]
  constructor
  · rintro ⟨v, hv, next, hn, rest, hr, rfl⟩
    exact ⟨next, rest, ⟨v, hv, hn⟩, hr, rfl⟩
  · rintro ⟨next, rest, ⟨v, hv, hn⟩, hr, rfl⟩
    exact ⟨v, hv, next, hn, rest, hr, rfl⟩

theorem gatherAll_cons_eq_ok_iff {column : AggregateColumn} {acc : Accumulator} :
    gatherAll r (column :: columns) members (acc :: accs) = .ok accs' ↔
      ∃ last rest, members.foldlM (column.take r) acc = .ok last ∧
        gatherAll r columns members accs = .ok rest ∧ last :: rest = accs' := by
  unfold gatherAll
  induction members generalizing acc accs with
  | nil => simp [pure_eq_ok_iff]
  | cons t members ih =>
    simp only [List.foldlM_cons, bind_eq_ok_iff, updateAll_cons_eq_ok_iff]
    constructor
    · rintro ⟨_, ⟨next, accs₁, hn, ha, rfl⟩, h⟩
      obtain ⟨last, rest, hl, hr, rfl⟩ := ih.1 h
      exact ⟨last, rest, ⟨next, hn, hl⟩, ⟨accs₁, ha, hr⟩, rfl⟩
    · rintro ⟨last, rest, ⟨next, hn, hl⟩, ⟨accs₁, ha, hr⟩, rfl⟩
      exact ⟨_, ⟨next, accs₁, hn, ha, rfl⟩, ih.2 ⟨last, rest, hl, hr, rfl⟩⟩

theorem gatherAll_nil (members : List Row) : gatherAll r [] members [] = .ok [] := by
  unfold gatherAll
  induction members with
  | nil => rfl
  | cons t members ih => simpa [updateAll, bind, Except.bind] using ih

theorem gatherAll_start_eq_ok_iff :
    gatherAll r columns members (start columns) = .ok accs ↔
      List.Forall₂ (fun column acc => column.gather r members = .ok acc) columns accs := by
  induction columns generalizing accs with
  | nil =>
    rw [start, List.map_nil, gatherAll_nil, List.forall₂_nil_left_iff, Except.ok.injEq, eq_comm]
  | cons column columns ih =>
    rw [start, List.map_cons, ← start, gatherAll_cons_eq_ok_iff, List.forall₂_cons_left_iff]
    simp only [ih, AggregateColumn.gather, @eq_comm _ accs]

-- ---------------------------------------------------------------------------
-- Groups and their keys
-- ---------------------------------------------------------------------------

variable {groups groups' : Groups} {key k : Row} {t : Row}

theorem insertRow_eq_ok_iff {scope : Scope} :
    insertRow columns key scope groups = .ok groups' ↔
      ∃ accs, updateAll scope columns ((groups.lookup key).getD (start columns)) = .ok accs ∧
        put key accs groups = groups' := by
  induction groups generalizing groups' with
  | nil => simp only [insertRow, put, bind_eq_ok_iff, pure_eq_ok_iff, List.lookup_nil,
      Option.getD_none]
  | cons group groups ih =>
    obtain ⟨k, old⟩ := group
    unfold insertRow put
    split
    · rename_i h
      subst h
      simp only [bind_eq_ok_iff, pure_eq_ok_iff, List.lookup_cons_self, Option.getD_some]
    · rename_i h
      simp only [bind_eq_ok_iff, pure_eq_ok_iff, ih, List.lookup_cons,
        beq_false_of_ne (Ne.symm h)]
      constructor
      · rintro ⟨_, ⟨accs, ha, rfl⟩, rfl⟩
        exact ⟨accs, ha, rfl⟩
      · rintro ⟨accs, ha, rfl⟩
        exact ⟨_, ⟨accs, ha, rfl⟩, rfl⟩

end Groups

-- ---------------------------------------------------------------------------
-- A run over the rows
-- ---------------------------------------------------------------------------

namespace Relation

open Groups (gatherAll start)

variable {r v : Relation} {keys : List Expr} {columns : List AggregateColumn}
  {rows : List Row} {groups groups' : Groups} {t k : Row}

def withKey (r : Relation) (keys : List Expr) (k : Row) (rows : List Row) : List Row :=
  rows.filter fun t => Expr.evalAll (r.scope t) keys = .ok k

theorem withKey_append_singleton (ht : Expr.evalAll (r.scope t) keys = .ok k) (k' : Row) :
    withKey r keys k' (rows ++ [t]) =
      if k' = k then withKey r keys k' rows ++ [t] else withKey r keys k' rows := by
  by_cases h : k' = k
  · simp [withKey, ht, h]
  · simp [withKey, ht, h, Ne.symm h]

/-- Each row has one of the keys, so it counts for that key only. -/
theorem total_of_counts {ks : List Row} {ns : List Number} (hn : ks.Nodup)
    (hns : List.Forall₂ (fun k (n : Number) => n.toInt = (withKey r keys k rows).length) ks ns)
    (h : ∀ t ∈ rows, ∃ k ∈ ks, Expr.evalAll (r.scope t) keys = .ok k) :
    Number.total ns = rows.length := by
  induction ks generalizing ns rows with
  | nil =>
    cases hns
    cases rows with
    | nil => rfl
    | cons t rows => simpa using h t (List.mem_cons_self ..)
  | cons k ks ih =>
    obtain ⟨hk, hn⟩ := List.nodup_cons.1 hn
    obtain ⟨n, ns, hcount, hrest, rfl⟩ := List.forall₂_cons_left_iff.1 hns
    let others := rows.filter fun t => ¬ Expr.evalAll (r.scope t) keys = .ok k
    have hothers (k' : Row) (hne : k' ≠ k) : withKey r keys k' others = withKey r keys k' rows := by
      simp only [withKey, others, List.filter_filter]
      refine List.filter_congr fun t _ => ?_
      by_cases ht : Expr.evalAll (r.scope t) keys = .ok k' <;> simp [ht, hne]
    have htotal : Number.total ns = others.length := by
      have hne : ∀ k' ∈ ks, k' ≠ k := fun k' hm he => hk (he ▸ hm)
      refine ih hn (((List.forall₂_and_left _ _).2 ⟨hne, hrest⟩).imp fun k' n h => ?_) fun t ht => ?_
      · rw [h.2, hothers k' h.1]
      · simp only [others, List.mem_filter, decide_eq_true_eq] at ht
        obtain ⟨k', hk', ht'⟩ := h t ht.1
        rcases List.mem_cons.1 hk' with rfl | hk'
        · exact absurd ht' ht.2
        · exact ⟨k', hk', ht'⟩
    have hsplit : rows.length = (withKey r keys k rows).length + others.length := by
      simpa [withKey, others, List.countP_eq_length_filter] using
        List.length_eq_countP_add_countP fun t => decide (Expr.evalAll (r.scope t) keys = .ok k)
    calc Number.total (n :: ns)
      _ = n.toInt + Number.total ns := rfl
      _ = rows.length := by omega

/-- The groups that a run has made of the rows seen so far: one for each of their keys, with
the accumulators of the rows with that key. -/
structure Gathers (r : Relation) (keys : List Expr) (columns : List AggregateColumn)
    (seen : List Row) (groups : Groups) : Prop where
  keyed : ∀ t ∈ seen, ∃ k, Expr.evalAll (r.scope t) keys = .ok k
  nodup : (groups.map Prod.fst).Nodup
  mem_keys : ∀ k, k ∈ groups.map Prod.fst ↔ ∃ t ∈ seen, Expr.evalAll (r.scope t) keys = .ok k
  gathered : ∀ k, gatherAll r columns (withKey r keys k seen) (start columns) =
    .ok ((groups.lookup k).getD (start columns))

theorem gathers_nil (r : Relation) (keys : List Expr) (columns : List AggregateColumn) :
    Gathers r keys columns [] [] where
  keyed := by simp
  nodup := .nil
  mem_keys := by simp
  gathered _ := rfl

theorem gatherAll_append_singleton {members : List Row} {accs : List Accumulator} :
    gatherAll r columns (members ++ [t]) accs =
      gatherAll r columns members accs >>= Groups.updateAll (r.scope t) columns := by
  simp [gatherAll, List.foldlM_append]

theorem Gathers.gatherAll_row (h : Gathers r keys columns rows groups)
    (ht : Expr.evalAll (r.scope t) keys = .ok k) :
    gatherAll r columns (withKey r keys k (rows ++ [t])) (start columns) =
      Groups.updateAll (r.scope t) columns ((groups.lookup k).getD (start columns)) := by
  rw [withKey_append_singleton ht, if_pos rfl, gatherAll_append_singleton, h.gathered]
  rfl

theorem Gathers.groupRow (h : Gathers r keys columns rows groups)
    (hg : r.groupRow keys columns groups t = .ok groups') :
    Gathers r keys columns (rows ++ [t]) groups' := by
  obtain ⟨k, ht, hi⟩ := bind_eq_ok_iff.1 hg
  obtain ⟨accs, ha, rfl⟩ := Groups.insertRow_eq_ok_iff.1 hi
  refine ⟨fun t' hm => ?_, nodup_keys_put h.nodup, fun k' => ?_, fun k' => ?_⟩
  · rcases List.mem_append.1 hm with hm | hm
    · exact h.keyed t' hm
    · obtain rfl := List.mem_singleton.1 hm
      exact ⟨k, ht⟩
  · rw [mem_keys_put, h.mem_keys]
    simp only [List.mem_append, List.mem_singleton, or_and_right, exists_or, exists_eq_left, ht,
      Except.ok.injEq, @eq_comm _ k, or_comm]
  · by_cases hk : k' = k
    · subst hk
      rw [h.gatherAll_row ht, ha, lookup_put, if_pos rfl, Option.getD_some]
    · rw [withKey_append_singleton ht, if_neg hk, h.gathered, lookup_put, if_neg hk]

theorem gathers_of_foldlM (h : rows.foldlM (r.groupRow keys columns) [] = .ok groups) :
    Gathers r keys columns rows groups := by
  induction rows using List.reverseRecOn generalizing groups with
  | nil =>
    obtain rfl := pure_eq_ok_iff.1 h
    exact gathers_nil r keys columns
  | append_singleton rows t ih =>
    simp only [List.foldlM_append, List.foldlM_cons, List.foldlM_nil, bind_pure] at h
    obtain ⟨before, hb, hg⟩ := bind_eq_ok_iff.1 h
    exact (ih hb).groupRow hg

/-- A run gets through the rows if each has a key and each group by itself can be gathered. -/
theorem exists_foldlM_groupRow_iff :
    (∃ groups, rows.foldlM (r.groupRow keys columns) [] = .ok groups) ↔
      (∀ t ∈ rows, ∃ k, Expr.evalAll (r.scope t) keys = .ok k) ∧
        ∀ k, ∃ accs, gatherAll r columns (withKey r keys k rows) (start columns) = .ok accs := by
  constructor
  · rintro ⟨groups, h⟩
    have hg := gathers_of_foldlM h
    exact ⟨hg.keyed, fun k => ⟨_, hg.gathered k⟩⟩
  · rintro ⟨hkeyed, hgathered⟩
    induction rows using List.reverseRecOn with
    | nil => exact ⟨[], rfl⟩
    | append_singleton rows t ih =>
      obtain ⟨k, ht⟩ := hkeyed t (by simp)
      have hbefore : ∀ k', ∃ accs,
          gatherAll r columns (withKey r keys k' rows) (start columns) = .ok accs := by
        intro k'
        obtain ⟨accs, ha⟩ := hgathered k'
        rw [withKey_append_singleton ht] at ha
        split at ha
        · rw [gatherAll_append_singleton, bind_eq_ok_iff] at ha
          obtain ⟨before, hb, -⟩ := ha
          exact ⟨before, hb⟩
        · exact ⟨accs, ha⟩
      obtain ⟨groups, hfold⟩ :=
        ih (fun t ht => hkeyed t (List.mem_append_left _ ht)) hbefore
      obtain ⟨accs, ha⟩ := hgathered k
      rw [(gathers_of_foldlM hfold).gatherAll_row ht] at ha
      have hrow : r.groupRow keys columns groups t = .ok (put k accs groups) :=
        bind_eq_ok_iff.2 ⟨k, ht, Groups.insertRow_eq_ok_iff.2 ⟨accs, ha, rfl⟩⟩
      refine ⟨put k accs groups, ?_⟩
      simp only [List.foldlM_append, hfold, List.foldlM_cons, List.foldlM_nil, bind_pure]
      exact hrow

theorem Gathers.mem_iff (h : Gathers r keys columns rows groups) {accs : List Accumulator} :
    (k, accs) ∈ groups ↔
      (∃ t ∈ rows, Expr.evalAll (r.scope t) keys = .ok k) ∧
        gatherAll r columns (withKey r keys k rows) (start columns) = .ok accs := by
  rw [← h.mem_keys, h.gathered, Except.ok.injEq]
  constructor
  · intro hm
    have hl := (lookup_eq_some_iff_mem h.nodup).2 hm
    exact ⟨List.mem_map.2 ⟨_, hm, rfl⟩, by rw [hl, Option.getD_some]⟩
  · rintro ⟨hk, rfl⟩
    obtain ⟨⟨k, accs⟩, hm, rfl⟩ := List.mem_map.1 hk
    have hl := (lookup_eq_some_iff_mem h.nodup).2 hm
    rwa [hl, Option.getD_some]

-- ---------------------------------------------------------------------------
-- Rows of a grouping
-- ---------------------------------------------------------------------------

def members (r : Relation) (keys : List Expr) (k : Row) : List Row :=
  withKey r keys k r.rows.toList

/-- The keys of the rows and, without grouping expressions, the empty key. -/
def groupKeys (r : Relation) (keys : List Expr) : RowSet :=
  .ofList (r.rows.toList.filterMap (fun t => (Expr.evalAll (r.scope t) keys).toOption) ++
    if keys = [] then [[]] else [])

theorem mem_groupKeys_iff :
    k ∈ r.groupKeys keys ↔
      (∃ t ∈ r.rows, Expr.evalAll (r.scope t) keys = .ok k) ∨ keys = [] ∧ k = [] := by
  have hsome {x : Except EvalError Row} : x.toOption = some k ↔ x = .ok k := by
    cases x <;> simp [Except.toOption]
  rw [groupKeys, RowSet.mem_ofList, List.mem_append, List.mem_filterMap]
  simp only [hsome, RowSet.mem_toList]
  by_cases h : keys = [] <;> simp [h]

theorem length_of_mem_groupKeys (h : k ∈ r.groupKeys keys) : k.length = keys.length := by
  obtain ⟨t, -, ht⟩ | ⟨rfl, rfl⟩ := mem_groupKeys_iff.1 h
  · exact Expr.length_of_evalAll ht
  · rfl

theorem members_of_not_mem_groupKeys (h : k ∉ r.groupKeys keys) : r.members keys k = [] := by
  simp only [members, withKey, List.filter_eq_nil_iff, decide_eq_true_eq]
  exact fun t ht he => h (mem_groupKeys_iff.2 (.inl ⟨t, ht, he⟩))

/-- The groups of all rows, with the empty one that there is without grouping expressions. -/
def allGroups (keys : List Expr) (columns : List AggregateColumn) (groups : Groups) : Groups :=
  if groups.isEmpty && keys.isEmpty then [([], start columns)] else groups

theorem Gathers.mem_allGroups_iff (h : Gathers r keys columns r.rows.toList groups)
    {accs : List Accumulator} :
    (k, accs) ∈ allGroups keys columns groups ↔
      k ∈ r.groupKeys keys ∧
        gatherAll r columns (r.members keys k) (start columns) = .ok accs := by
  unfold allGroups members
  split
  · rename_i he
    obtain ⟨rfl, rfl⟩ : groups = [] ∧ keys = [] := by simpa using he
    have hnone : ∀ t, t ∉ r.rows := by
      intro t ht
      have := (h.mem_keys []).2 ⟨t, ht, rfl⟩
      simp at this
    have hnil : r.rows.toList = [] := List.eq_nil_iff_forall_not_mem.2 hnone
    have hstart : gatherAll r columns [] (start columns) = .ok accs ↔ start columns = accs :=
      pure_eq_ok_iff
    simp [mem_groupKeys_iff, hnone, hnil, withKey, hstart, @eq_comm _ accs]
  · rename_i he
    rw [h.mem_iff, mem_groupKeys_iff]
    refine and_congr_left fun _ => ⟨.inl, ?_⟩
    rintro (hk | ⟨rfl, rfl⟩)
    · exact hk
    · cases groups with
      | nil => simp at he
      | cons group groups =>
        -- the first group has the key of some row, which is the empty one as well
        obtain ⟨t, ht, -⟩ := (h.mem_keys group.1).1 (List.mem_cons_self ..)
        exact ⟨t, ht, rfl⟩

theorem columnNames_eq_ok_iff {context : NamingContext} {exprs : List Expr}
    {attributes : List Attribute} :
    columnNames context exprs = .ok attributes ↔
      (∀ expr ∈ exprs, expr.outputName ≠ none) ∧ exprs.map Expr.outputName = attributes := by
  unfold columnNames
  induction exprs generalizing attributes with
  | nil => simp [pure_eq_ok_iff]
  | cons expr exprs ih =>
    simp only [List.mapM_cons, bind_eq_ok_iff, pure_eq_ok_iff, ih]
    cases he : expr.outputName <;> simp [he]

theorem group_eq_ok_iff :
    r.group keys columns = .ok v ↔
      (∀ key ∈ keys, key.outputName ≠ none) ∧
        (keys.filterMap Expr.outputName ++ columns.map (·.name)).Nodup ∧
        ∃ groups, r.rows.toList.foldlM (r.groupRow keys columns) [] = .ok groups ∧
          ⟨keys.map Expr.outputName ++ columns.map fun column => some column.name,
            .ofList (Groups.toRows (allGroups keys columns groups))⟩ = v := by
  have hnames : attributeNames (keys.map Expr.outputName ++
      columns.map fun column => some column.name) =
      keys.filterMap Expr.outputName ++ columns.map (·.name) := by
    simp [attributeNames, List.filterMap_map]
  simp only [group, bind_eq_ok_iff, pure_eq_ok_iff, columnNames_eq_ok_iff]
  constructor
  · rintro ⟨_, ⟨hn, rfl⟩, _, hd, groups, hg, rfl⟩
    exact ⟨hn, hnames ▸ checkDistinct_eq_ok_iff.1 hd, groups, hg, rfl⟩
  · rintro ⟨hn, hd, groups, hg, rfl⟩
    exact ⟨_, ⟨hn, rfl⟩, (), checkDistinct_eq_ok_iff.2 (hnames ▸ hd), groups, hg, rfl⟩

section

variable (hcount : ∀ column ∈ columns, column.argument = none → column.function = .count)

include hcount

theorem summarises_of_gatherAll {members : List Row} {accs : List Accumulator}
    (h : gatherAll r columns members (start columns) = .ok accs) :
    List.Forall₂ (AggregateColumn.Summarises r members) columns (accs.map Accumulator.result) := by
  rw [Groups.gatherAll_start_eq_ok_iff] at h
  induction h with
  | nil => exact .nil
  | cons hacc _ ih =>
    obtain ⟨hc, hcount⟩ := List.forall_mem_cons.1 hcount
    exact .cons (AggregateColumn.summarises_of_gather hc hacc) (ih hcount)

theorem exists_gatherAll_iff {members : List Row} :
    (∃ accs, gatherAll r columns members (start columns) = .ok accs) ↔
      ∀ column ∈ columns, column.Accepts r members := by
  simp only [Groups.gatherAll_start_eq_ok_iff, exists_forall₂_iff]
  exact forall₂_congr fun column hm => AggregateColumn.exists_gather_iff (hcount column hm)

theorem mem_group_iff (h : r.group keys columns = .ok v) {u : Row} :
    u ∈ v.rows ↔ ∃ k ∈ r.groupKeys keys, ∃ vs,
      List.Forall₂ (AggregateColumn.Summarises r (r.members keys k)) columns vs ∧ k ++ vs = u := by
  obtain ⟨-, -, groups, hg, rfl⟩ := group_eq_ok_iff.1 h
  have hg := gathers_of_foldlM hg
  simp only [RowSet.mem_ofList, Groups.toRows, List.mem_map, Prod.exists, hg.mem_allGroups_iff]
  constructor
  · rintro ⟨k, accs, ⟨hk, ha⟩, rfl⟩
    exact ⟨k, hk, _, summarises_of_gatherAll hcount ha, rfl⟩
  · rintro ⟨k, hk, vs, hvs, rfl⟩
    have ha := hg.gathered k
    refine ⟨k, _, ⟨hk, ha⟩, ?_⟩
    rw [AggregateColumn.forall₂_summarises_unique (summarises_of_gatherAll hcount ha) hvs]

theorem exists_group_iff :
    (∃ v, r.group keys columns = .ok v) ↔
      (∀ key ∈ keys, key.outputName ≠ none) ∧
        (keys.filterMap Expr.outputName ++ columns.map (·.name)).Nodup ∧
        (∀ t ∈ r.rows, ∃ k, Expr.evalAll (r.scope t) keys = .ok k) ∧
        ∀ k ∈ r.groupKeys keys, ∀ column ∈ columns, column.Accepts r (r.members keys k) := by
  simp only [group_eq_ok_iff, exists_and_left, @exists_comm Relation, exists_eq', and_true,
    exists_foldlM_groupRow_iff, exists_gatherAll_iff hcount]
  refine and_congr_right fun _ => and_congr_right fun _ => and_congr_right fun _ => ?_
  refine ⟨fun h k _ => h k, fun h k => ?_⟩
  by_cases hk : k ∈ r.groupKeys keys
  · exact h k hk
  · rw [← members, members_of_not_mem_groupKeys hk]
    exact (exists_gatherAll_iff hcount).1 ⟨_, rfl⟩

theorem summarises_of_mem_group (h : r.group keys columns = .ok v) (hk : k ∈ r.groupKeys keys)
    {vs : List Value} (hm : k ++ vs ∈ v.rows) :
    List.Forall₂ (AggregateColumn.Summarises r (r.members keys k)) columns vs := by
  obtain ⟨k', hk', vs', hvs', he⟩ := (mem_group_iff hcount h).1 hm
  have hlen := (length_of_mem_groupKeys hk').trans (length_of_mem_groupKeys hk).symm
  obtain ⟨rfl, rfl⟩ := List.append_inj he hlen
  exact hvs'

theorem existsUnique_append_mem_group (h : r.group keys columns = .ok v)
    (hk : k ∈ r.groupKeys keys) : ∃! vs, k ++ vs ∈ v.rows := by
  have haccepts := ((exists_group_iff hcount).1 ⟨v, h⟩).2.2.2 k hk
  obtain ⟨accs, ha⟩ := (exists_gatherAll_iff hcount).2 haccepts
  have hvs := summarises_of_gatherAll hcount ha
  refine ⟨_, (mem_group_iff hcount h).2 ⟨k, hk, _, hvs, rfl⟩, ?_⟩
  intro vs hm
  exact AggregateColumn.forall₂_summarises_unique (summarises_of_mem_group hcount h hk hm) hvs

theorem mem_map_take_iff (h : r.group keys columns = .ok v) :
    k ∈ v.rows.toList.map (List.take keys.length) ↔ k ∈ r.groupKeys keys := by
  rw [List.mem_map]
  constructor
  · rintro ⟨u, hu, rfl⟩
    obtain ⟨k, hk, vs, -, rfl⟩ := (mem_group_iff hcount h).1 hu
    rwa [List.take_left' (length_of_mem_groupKeys hk)]
  · intro hk
    obtain ⟨vs, hm, -⟩ := existsUnique_append_mem_group hcount h hk
    exact ⟨k ++ vs, hm, List.take_left' (length_of_mem_groupKeys hk)⟩

theorem nodup_map_take (h : r.group keys columns = .ok v) :
    (v.rows.toList.map (List.take keys.length)).Nodup := by
  refine List.Nodup.map_on (fun u hu u' hu' he => ?_) v.rows.nodup_toList
  obtain ⟨k, hk, vs, -, rfl⟩ := (mem_group_iff hcount h).1 hu
  obtain ⟨k', hk', vs', -, rfl⟩ := (mem_group_iff hcount h).1 hu'
  rw [List.take_left' (length_of_mem_groupKeys hk),
    List.take_left' (length_of_mem_groupKeys hk')] at he
  subst he
  rw [(existsUnique_append_mem_group hcount h hk).unique hu hu']

theorem size_of_group (h : r.group keys columns = .ok v) :
    v.size = (r.groupKeys keys).size := by
  have hperm := (List.perm_ext_iff_of_nodup (nodup_map_take hcount h)
    (r.groupKeys keys).nodup_toList).2 fun _ => mem_map_take_iff hcount h
  simpa [size, RowSet.size] using hperm.length_eq

theorem count_of_mem_group (h : r.group keys columns = .ok v) {i : Nat} {column : AggregateColumn}
    (hi : columns[i]? = some column) (ha : column.argument = none) {u : Row} (hu : u ∈ v.rows) :
    ∃ n : Number, u[keys.length + i]? = some (.number n) ∧
      n.toInt = (r.members keys (u.take keys.length)).length := by
  obtain ⟨k, hk, vs, hvs, rfl⟩ := (mem_group_iff hcount h).1 hu
  obtain ⟨w, hw, hs⟩ := exists_getElem?_of_forall₂ hvs hi
  have hlen := length_of_mem_groupKeys hk
  rw [List.take_left' hlen, ← hlen, List.getElem?_append_right (by omega)]
  cases hs with
  | rows _ hn => exact ⟨_, by simpa using hw, hn⟩
  | values ha' => simp [ha] at ha'

theorem counts_of_group (h : r.group keys columns = .ok v) {i : Nat} {column : AggregateColumn}
    (hi : columns[i]? = some column) (ha : column.argument = none) :
    ∃ ns, List.Forall₂ (fun u n => u[keys.length + i]? = some (Value.number n)) v.rows.toList ns ∧
      Number.total ns = r.size := by
  obtain ⟨ns, hns⟩ := exists_forall₂_iff.2 fun u hu => count_of_mem_group hcount h hi ha hu
  refine ⟨ns, hns.imp fun _ _ => And.left, ?_⟩
  have hcounts : List.Forall₂ (fun k (n : Number) => n.toInt = (r.members keys k).length)
      (v.rows.toList.map (List.take keys.length)) ns :=
    List.forall₂_map_left_iff.2 (hns.imp fun _ _ => And.right)
  have hkeyed := ((exists_group_iff hcount).1 ⟨v, h⟩).2.2.1
  have hkeys : ∀ t ∈ r.rows.toList, ∃ k ∈ v.rows.toList.map (List.take keys.length),
      Expr.evalAll (r.scope t) keys = .ok k := by
    intro t ht
    obtain ⟨k, hk⟩ := hkeyed t ht
    exact ⟨k, (mem_map_take_iff hcount h).2 (mem_groupKeys_iff.2 (.inl ⟨t, ht, hk⟩)), hk⟩
  exact total_of_counts (nodup_map_take hcount h) hcounts hkeys

end

/-- A grouping has one row for each key, made of the key and of what each column has over the
rows with that key. So there are as many rows as keys, and a count of rows adds up to the
number of all rows. It succeeds if there is a name for each column, each its own, every row
has a key, and every column gets through the rows of every key. -/
theorem rows_of_group {aggregates : List Expr}
    (hc : aggregates.mapM AggregateColumn.ofExpr = .ok columns) :
    (∀ v, r.group keys columns = .ok v →
      (∀ u, u ∈ v.rows ↔ ∃ k ∈ r.groupKeys keys, ∃ vs,
        List.Forall₂ (AggregateColumn.Summarises r (r.members keys k)) columns vs ∧ k ++ vs = u) ∧
      (∀ k ∈ r.groupKeys keys, ∃! vs, k ++ vs ∈ v.rows) ∧
      v.size = (r.groupKeys keys).size ∧
      ∀ i column, columns[i]? = some column → column.argument = none →
        ∃ ns, List.Forall₂ (fun u n => u[keys.length + i]? = some (Value.number n))
          v.rows.toList ns ∧ Number.total ns = r.size) ∧
    ((∃ v, r.group keys columns = .ok v) ↔
      (∀ key ∈ keys, key.outputName ≠ none) ∧
        (keys.filterMap Expr.outputName ++ columns.map (·.name)).Nodup ∧
        (∀ t ∈ r.rows, ∃ k, Expr.evalAll (r.scope t) keys = .ok k) ∧
        ∀ k ∈ r.groupKeys keys, ∀ column ∈ columns, column.Accepts r (r.members keys k)) := by
  have hcount := AggregateColumn.count_of_mapM_ofExpr hc
  refine ⟨fun v h => ⟨fun u => mem_group_iff hcount h, ?_, size_of_group hcount h, ?_⟩,
    exists_group_iff hcount⟩
  · exact fun k hk => existsUnique_append_mem_group hcount h hk
  · exact fun i column hi ha => counts_of_group hcount h hi ha

/-- Two of three rows have the same key, and one of those has no amount. -/
theorem rows_of_group_averages :
    let r : Relation := ⟨[some "region", some "amount"], .ofList [[.text "east", .null],
      [.text "east", .number ⟨3, by decide⟩], [.text "west", .number ⟨-7, by decide⟩]]⟩
    let aggregates : List Expr := [.call "count" [], .call "avg" [.attr "amount"]]
    let columns : List AggregateColumn :=
      [⟨.count, none, "count(*)"⟩, ⟨.avg, some (.attr "amount"), "avg(amount)"⟩]
    let v : Relation := ⟨[some "region", some "count(*)", some "avg(amount)"],
      .ofList [[.text "east", .number ⟨2, by decide⟩, .number ⟨3, by decide⟩],
        [.text "west", .number ⟨1, by decide⟩, .number ⟨-7, by decide⟩]]⟩
    aggregates.mapM AggregateColumn.ofExpr = .ok columns ∧
      r.group [.attr "region"] columns = .ok v ∧
      v.size = (r.groupKeys [.attr "region"]).size ∧
      ∃ ns, List.Forall₂ (fun u n => u[1]? = some (Value.number n)) v.rows.toList ns ∧
        Number.total ns = r.size := by
  intro r aggregates columns v
  have hcount : AggregateFunction.find? "count" = some .count := by decide +kernel
  have havg : AggregateFunction.find? "avg" = some .avg := by decide +kernel
  have hc : aggregates.mapM AggregateColumn.ofExpr = .ok columns := by
    simp only [aggregates, List.mapM_cons, AggregateColumn.ofExpr, Expr.unnamed, hcount, havg]
    rfl
  have h : r.group [.attr "region"] columns = .ok v := by rfl
  obtain ⟨-, -, hsize, hcounts⟩ := (rows_of_group hc).1 v h
  exact ⟨hc, h, hsize, hcounts 0 _ rfl rfl⟩

end Relation

end Relational
