import Relational.Proofs.Grouping
import Relational.Proofs.Header

/-!
# The keys of a grouping

A grouping without aggregates is the projection on its keys: both name their columns, go through
the rows and drop repetitions alike, and so they fail alike. Aggregates add columns to those of
the projection and take or add no row (`group_projects_keys`).
-/

namespace Relational

section

variable {α β γ ε : Type}

/-- A fold that can only fail where it looks at a member looks at all of them first. -/
theorem foldlM_bind_pure (f : α → Except ε β) (g : γ → β → γ) (l : List α) (c : γ) :
    l.foldlM (fun c a => f a >>= fun b => pure (g c b)) c =
      l.mapM f >>= fun bs => pure (bs.foldl g c) := by
  induction l generalizing c with
  | nil => rfl
  | cons a l ih =>
    simp only [List.foldlM_cons, List.mapM_cons, bind_assoc, pure_bind, ih, List.foldl_cons]

theorem upToKind_mapM (f : α → Except EvalError β) (l : List α) :
    upToKind (l.mapM f) = l.mapM fun a => upToKind (f a) := by
  induction l with
  | nil => rfl
  | cons a l ih => simp only [List.mapM_cons, upToKind_bind, upToKind_pure, ih]

end

theorem Config.upToKind_limited (config : Config) {operator operator' : Operator}
    {x y : Except EvalError Relation} (h : upToKind x = upToKind y) :
    upToKind (config.limited operator x) = upToKind (config.limited operator' y) := by
  have hcheck (r : Relation) :
      upToKind (config.checkLimit operator r) = upToKind (config.checkLimit operator' r) := by
    unfold checkLimit
    cases config.maxRows with
    | none => rfl
    | some limit => dsimp only; split <;> rfl
  simp only [limited, upToKind_bind, h, hcheck]

-- ---------------------------------------------------------------------------
-- Groupings without aggregates
-- ---------------------------------------------------------------------------

namespace Groups

theorem insertRow_nil (key : Row) (scope : Scope) (groups : Groups) :
    insertRow [] key scope groups = .ok (put key [] groups) := by
  induction groups with
  | nil => rfl
  | cons group groups ih =>
    obtain ⟨k, accs⟩ := group
    unfold insertRow put
    split
    · cases accs <;> rfl
    · rw [ih]
      rfl

end Groups

namespace Relation

variable {r v : Relation} {keys : List Expr} {columns : List AggregateColumn}

theorem upToKind_columnNames (context context' : NamingContext) (exprs : List Expr) :
    upToKind (columnNames context exprs) = upToKind (columnNames context' exprs) := by
  simp only [columnNames, upToKind_mapM]
  congr 1
  funext expr
  cases expr.outputName <;> rfl

theorem attributes_of_project {items : List Expr} {p : Relation} (h : r.project items = .ok p) :
    p.attributes = items.map Expr.outputName := by
  obtain ⟨attributes, rows, ha, -, -, rfl⟩ := project_eq_ok_iff.1 h
  exact (columnNames_eq_ok_iff.1 ha).2.symm

theorem attributes_of_group (h : r.group keys columns = .ok v) :
    v.attributes = keys.map Expr.outputName ++ columns.map fun column => some column.name := by
  obtain ⟨-, -, groups, -, rfl⟩ := group_eq_ok_iff.1 h
  rfl

theorem groupRow_nil (r : Relation) (keys : List Expr) (groups : Groups) (t : Row) :
    r.groupRow keys [] groups t =
      Expr.evalAll (r.scope t) keys >>= fun key => pure (put key [] groups) := by
  simp only [groupRow, Groups.insertRow_nil]
  rfl

theorem mem_toRows_iff {rows : List Row} {groups : Groups} {k : Row}
    (h : rows.foldlM (r.groupRow keys []) [] = .ok groups) :
    k ∈ groups.toRows ↔ ∃ t ∈ rows, Expr.evalAll (r.scope t) keys = .ok k := by
  have hnil (members : List Row) : Groups.gatherAll r [] members (Groups.start []) = .ok [] :=
    Groups.gatherAll_nil members
  simp [Groups.toRows, (gathers_of_foldlM h).mem_iff, hnil]

theorem group_of_no_columns (hk : keys ≠ []) :
    r.group keys [] = do
      let attributes ← columnNames .grouping keys
      checkDistinct attributes
      let rows ← r.rows.toList.mapM fun t => Expr.evalAll (r.scope t) keys
      return ⟨attributes, .ofList rows⟩ := by
  have hfold : r.rows.toList.foldlM (r.groupRow keys []) [] =
      r.rows.toList.mapM (fun t => Expr.evalAll (r.scope t) keys) >>= fun rows =>
        pure (rows.foldl (fun groups key => put key [] groups) []) := by
    simp only [funext₂ (groupRow_nil r keys)]
    exact foldlM_bind_pure ..
  simp only [group, List.map_nil, List.append_nil]
  refine bind_congr fun attributes => bind_congr fun _ => ?_
  cases hrows : r.rows.toList.mapM (fun t => Expr.evalAll (r.scope t) keys) with
  | error e =>
    rw [hfold, hrows]
    rfl
  | ok rows =>
    rw [hrows, ok_bind] at hfold
    have hset : RowSet.ofList
        (Groups.toRows (rows.foldl (fun groups key => put key [] groups) [])) = .ofList rows :=
      RowSet.ext fun k => by
        rw [RowSet.mem_ofList, RowSet.mem_ofList, mem_toRows_iff hfold, mem_mapM_iff hrows]
    have hne : keys.isEmpty = false := by simpa using hk
    rw [hfold, pure_bind, ok_bind, hne, Bool.and_false, if_neg Bool.false_ne_true, hset]

theorem upToKind_group_eq_project (hk : keys ≠ []) :
    upToKind (r.group keys []) = upToKind (r.project keys) := by
  rw [group_of_no_columns hk, project]
  simp only [upToKind_bind, upToKind_columnNames .grouping .projection]

theorem exists_project_of_group
    (hcount : ∀ column ∈ columns, column.argument = none → column.function = .count)
    (hk : keys ≠ []) (h : r.group keys columns = .ok v) :
    ∃ p, r.project keys = .ok p ∧ p.attributes = v.attributes.take keys.length ∧
      p.rows = r.groupKeys keys := by
  obtain ⟨hnames, hdistinct, hkeyed, -⟩ := (exists_group_iff hcount).1 ⟨v, h⟩
  have hproject : ∃ p, r.project keys = .ok p := by
    refine exists_project_iff.2 ⟨⟨_, columnNames_eq_ok_iff.2 ⟨hnames, rfl⟩, ?_⟩, hkeyed⟩
    rw [checkDistinct_eq_ok_iff, attributeNames, List.filterMap_map]
    exact hdistinct.of_append_left
  obtain ⟨p, hp⟩ := hproject
  refine ⟨p, hp, ?_, RowSet.ext fun k => ?_⟩
  · rw [attributes_of_project hp, attributes_of_group h, List.take_left' (List.length_map _)]
  · rw [mem_project_iff hp, mem_groupKeys_iff]
    simp [hk]

end Relation

-- ---------------------------------------------------------------------------
-- Queries
-- ---------------------------------------------------------------------------

theorem expandItems_exprs (db : Database) (items : List Expr) :
    expandItems db (items.map .expr) = .ok items := by
  have hitems : (items.map ProjectItem.expr).mapM (ProjectItem.expand db) =
      .ok (items.map fun item => [item]) := by
    induction items with
    | nil => rfl
    | cons item items ih =>
      rw [List.map_cons, List.mapM_cons, ih]
      rfl
  rw [expandItems, hitems, ok_bind, ← List.flatMap_def, List.flatMap_singleton']
  rfl

theorem Query.outcome_projectExprs (config : Config) (db : Database) (items : List Expr)
    (input : Query) :
    ((projectExprs items input).eval config db).outcome =
      config.limited .project ((input.eval config db).outcome >>= fun r => r.project items) := by
  simp only [projectExprs, outcome_project, expandItems_exprs, ok_bind]

/-- A grouping without aggregates and the projection on its keys have the same value or fail with
the same kind of error. With aggregates, where the grouping succeeds the projection does too,
with the first columns of the grouping, and every row of the projection is the start of exactly
one row of the grouping. -/
theorem group_projects_keys (config : Config) (db : Database) {keys : List Expr} (hk : keys ≠ [])
    (input : Query) :
    upToKind ((Query.group keys [] input).eval config db).outcome =
      upToKind ((Query.projectExprs keys input).eval config db).outcome ∧
    ∀ aggregates v, ((Query.group keys aggregates input).eval config db).outcome = .ok v →
      ∃ p, ((Query.projectExprs keys input).eval config db).outcome = .ok p ∧
        p.attributes = v.attributes.take keys.length ∧
        (∀ k, k ∈ p.rows ↔ ∃ u ∈ v.rows, u.take keys.length = k) ∧
        ∀ u ∈ v.rows, ∀ u' ∈ v.rows, u.take keys.length = u'.take keys.length → u = u' := by
  constructor
  · rw [Query.outcome_group, Query.outcome_projectExprs, List.mapM_nil, pure_bind]
    refine config.upToKind_limited ?_
    simp only [upToKind_bind, Relation.upToKind_group_eq_project hk]
  · intro aggregates v h
    simp only [Query.outcome_group, Config.limited_eq_ok_iff, bind_eq_ok_iff] at h
    obtain ⟨⟨columns, hc, r, hr, hv⟩, hl⟩ := h
    have hcount := AggregateColumn.count_of_mapM_ofExpr hc
    obtain ⟨p, hp, ha, hrows⟩ := Relation.exists_project_of_group hcount hk hv
    have hsize : p.size = v.size := by
      rw [Relation.size_of_group hcount hv, Relation.size, hrows]
    refine ⟨p, ?_, ha, fun k => ?_, fun u hu u' hu' he => ?_⟩
    · rw [Query.outcome_projectExprs, hr, ok_bind, hp]
      refine Config.limited_eq_ok_iff.2 ⟨rfl, ?_⟩
      rw [Config.checkLimit_eq_ok_iff] at hl ⊢
      rwa [hsize]
    · rw [hrows, ← Relation.mem_map_take_iff hcount hv, List.mem_map]
      rfl
    · exact List.inj_on_of_nodup_map (Relation.nodup_map_take hcount hv) hu hu' he

theorem group_projects_keys_repeated :
    let db := Database.ofPairs (.ofList [[.boolean false, .null], [.boolean false, .number .one],
      [.boolean true, .null]])
    let config : Config := { maxRows := some 3 }
    let keys : List Expr := [.attr "x"]
    let s : Relation := ⟨[some "x"], .ofList [[.boolean false], [.boolean true]]⟩
    let v : Relation := ⟨[some "x", some "count(y)"],
      .ofList [[.boolean false, .number .one], [.boolean true, .number .zero]]⟩
    keys ≠ [] ∧
      ((Query.group keys [] (.relvar "R")).eval config db).outcome = .ok s ∧
      ((Query.projectExprs keys (.relvar "R")).eval config db).outcome = .ok s ∧
      ((Query.group keys [.call "count" [.attr "y"]] (.relvar "R")).eval config db).outcome =
        .ok v ∧
      ∀ k, k ∈ s.rows ↔ ∃ u ∈ v.rows, u.take 1 = k := by
  intro db config keys s v
  have hk : keys ≠ [] := List.cons_ne_nil _ _
  obtain ⟨hsame, hcut⟩ := group_projects_keys config db hk (.relvar "R")
  have hs : ((Query.group keys [] (.relvar "R")).eval config db).outcome = .ok s := by rfl
  have hp : ((Query.projectExprs keys (.relvar "R")).eval config db).outcome = .ok s := by
    rwa [hs, eq_comm, upToKind_ok, upToKind_eq_ok_iff] at hsame
  have hf : AggregateFunction.find? "count" = some .count :=
    AggregateFunction.find?_name .count
  have hcolumn : AggregateColumn.ofExpr (.call "count" [.attr "y"]) =
      .ok ⟨.count, some (.attr "y"), "count(y)"⟩ := by
    simp only [AggregateColumn.ofExpr, Expr.unnamed, hf]
    rfl
  have hv : ((Query.group keys [.call "count" [.attr "y"]] (.relvar "R")).eval config
      db).outcome = .ok v := by
    rw [Query.outcome_group, List.mapM_cons, hcolumn]
    rfl
  obtain ⟨p, hp', -, hrows, -⟩ := hcut _ v hv
  obtain rfl := Except.ok.inj (hp.symm.trans hp')
  exact ⟨hk, hs, hp, hv, hrows⟩

end Relational
