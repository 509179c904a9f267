import Relational.Proofs.Header

/-!
# Monotone queries

A query is positive when it does without difference, division, grouping and
outer joins. Its operators let a row into their result because of some rows of
the operands and never for want of others, and they fail because of single rows.
So with fewer rows in the database a positive query has fewer rows in its value,
and no new way to fail (`eval_monotone`).
-/

namespace Relational

structure Relation.Within (r r' : Relation) : Prop where
  attributes : r.attributes = r'.attributes
  rows : ∀ t ∈ r.rows, t ∈ r'.rows

/-- If the second computation succeeds then so does the first, and its value is within
that of the second. -/
def ResultWithin (x x' : Except EvalError Relation) : Prop :=
  ∀ s', x' = .ok s' → ∃ s, x = .ok s ∧ s.Within s'

namespace ResultWithin

variable {x x' : Except EvalError Relation}

theorem refl (x : Except EvalError Relation) : ResultWithin x x :=
  fun s hs => ⟨s, hs, rfl, fun _ ht => ht⟩

theorem bind {f f' : Relation → Except EvalError Relation} (hx : ResultWithin x x')
    (hf : ∀ r r', r.Within r' → ResultWithin (f r) (f' r')) :
    ResultWithin (x >>= f) (x' >>= f') := by
  intro s' hs'
  obtain ⟨r', hr', hs'⟩ := bind_eq_ok_iff.1 hs'
  obtain ⟨r, hr, hw⟩ := hx r' hr'
  obtain ⟨s, hs, hw⟩ := hf r r' hw s' hs'
  exact ⟨s, bind_eq_ok_iff.2 ⟨r, hr, hs⟩, hw⟩

theorem bind_same {α : Type} (y : Except EvalError α) {f f' : α → Except EvalError Relation}
    (hf : ∀ a, ResultWithin (f a) (f' a)) : ResultWithin (y >>= f) (y >>= f') := by
  intro s' hs'
  obtain ⟨a, ha, hs'⟩ := bind_eq_ok_iff.1 hs'
  obtain ⟨s, hs, hw⟩ := hf a s' hs'
  exact ⟨s, bind_eq_ok_iff.2 ⟨a, ha, hs⟩, hw⟩

end ResultWithin

theorem ResultWithin.limited {x x' : Except EvalError Relation} (h : ResultWithin x x')
    (config : Config) (operator : Operator) :
    ResultWithin (config.limited operator x) (config.limited operator x') := by
  intro s' hs'
  obtain ⟨hs', hl⟩ := Config.limited_eq_ok_iff.1 hs'
  obtain ⟨s, hs, hw⟩ := h s' hs'
  rw [Config.checkLimit_eq_ok_iff] at hl
  have hl' : ∀ limit, config.maxRows = some limit → s.size ≤ limit := fun limit hm =>
    calc
      s.size ≤ s'.size := RowSet.size_le_of_subset hw.rows
      _ ≤ limit := hl limit hm
  exact ⟨s, Config.limited_eq_ok_iff.2 ⟨hs, Config.checkLimit_eq_ok_iff.2 hl'⟩, hw⟩

-- ---------------------------------------------------------------------------
-- Operators
-- ---------------------------------------------------------------------------

namespace Relation.Within

variable {r r' left left' right right' : Relation}

theorem scope_eq (h : r.Within r') (t : Row) : r.scope t = r'.scope t :=
  congrArg (List.zip · t) h.attributes

theorem select (h : r.Within r') (condition : Expr) :
    ResultWithin (r.select condition) (r'.select condition) := by
  intro s' hs'
  have hholds := exists_select_iff.1 ⟨s', hs'⟩
  have hok : ∃ s, r.select condition = .ok s := by
    refine exists_select_iff.2 fun t ht => ?_
    rw [h.scope_eq t]
    exact hholds t (h.rows t ht)
  obtain ⟨s, hs⟩ := hok
  refine ⟨s, hs, ?_, fun t ht => ?_⟩
  · rw [attributes_of_select hs, attributes_of_select hs', h.attributes]
  · obtain ⟨ht, hc⟩ := (mem_select_iff hs).1 ht
    exact (mem_select_iff hs').2 ⟨h.rows t ht, h.scope_eq t ▸ hc⟩

theorem project (h : r.Within r') (items : List Expr) :
    ResultWithin (r.project items) (r'.project items) := by
  intro s' hs'
  obtain ⟨hnames, hvalues⟩ := exists_project_iff.1 ⟨s', hs'⟩
  have hok : ∃ s, r.project items = .ok s := by
    refine exists_project_iff.2 ⟨hnames, fun t ht => ?_⟩
    rw [h.scope_eq t]
    exact hvalues t (h.rows t ht)
  obtain ⟨s, hs⟩ := hok
  refine ⟨s, hs, ?_, fun u hu => ?_⟩
  · exact Except.ok.inj ((projectedAttributes_of_project hs).symm.trans
      (projectedAttributes_of_project hs'))
  · obtain ⟨t, ht, hv⟩ := (mem_project_iff hs).1 hu
    exact (mem_project_iff hs').2 ⟨t, h.rows t ht, h.scope_eq t ▸ hv⟩

theorem rename (h : r.Within r') (renamings : List Renaming) :
    ResultWithin (r.rename renamings) (r'.rename renamings) := by
  intro s' hs'
  obtain ⟨ha, hr⟩ := rename_eq_ok_iff.1 hs'
  refine ⟨⟨s'.attributes, r.rows⟩, rename_eq_ok_iff.2 ⟨h.attributes ▸ ha, rfl⟩, rfl, ?_⟩
  exact hr ▸ h.rows

theorem combine {op : SetOp} (hop : op ≠ .difference) (hl : left.Within left')
    (hr : right.Within right') :
    ResultWithin (left.combine op right) (left'.combine op right') := by
  intro s' hs'
  obtain ⟨ha, hs⟩ := combine_eq_ok_iff.1 hs'
  refine ⟨⟨s'.attributes, op.rows left.rows right.rows⟩, combine_eq_ok_iff.2 ⟨?_, rfl⟩, rfl, ?_⟩
  · rw [hl.attributes, hr.attributes, ha]
  · rw [hs]
    intro t ht
    cases op with
    | union => exact RowSet.mem_union.2 ((RowSet.mem_union.1 ht).imp (hl.rows t) (hr.rows t))
    | intersect =>
      obtain ⟨htl, htr⟩ := RowSet.mem_inter.1 ht
      exact RowSet.mem_inter.2 ⟨hl.rows t htl, hr.rows t htr⟩
    | difference => exact absurd rfl hop

theorem meets_eq (hl : left.Within left') (hr : right.Within right') (condition : Option Expr)
    (pair : Row × Row) : meets left right condition pair = meets left' right' condition pair := by
  unfold meets
  rw [hl.attributes, hr.attributes]

theorem join (hl : left.Within left') (hr : right.Within right') (condition : Option Expr) :
    ResultWithin (left.join .inner condition right) (left'.join .inner condition right') := by
  intro s' hs'
  have hmeets := exists_join_iff.1 ⟨s', hs'⟩
  have hok : ∃ s, left.join .inner condition right = .ok s := by
    refine exists_join_iff.2 fun l htl r htr => ?_
    rw [hl.meets_eq hr condition (l, r)]
    exact hmeets l (hl.rows l htl) r (hr.rows r htr)
  obtain ⟨s, hs⟩ := hok
  refine ⟨s, hs, ?_, fun t ht => ?_⟩
  · rw [attributes_of_join hs, attributes_of_join hs', hl.attributes, hr.attributes]
  · obtain ⟨l, htl, r, htr, hm, rfl⟩ := (mem_innerJoin_iff hs).1 ht
    refine (mem_innerJoin_iff hs').2 ⟨l, hl.rows l htl, r, hr.rows r htr, ?_, rfl⟩
    exact hl.meets_eq hr condition (l, r) ▸ hm

end Relation.Within

-- ---------------------------------------------------------------------------
-- Queries
-- ---------------------------------------------------------------------------

/-- Queries without difference, division, grouping and outer joins. -/
inductive Query.Positive : Query → Prop
  | relvar (name : String) : Positive (.relvar name)
  | constant (rows : List (List Expr)) : Positive (.constant rows)
  | rename (renamings : List Renaming) {input : Query} :
      Positive input → Positive (.rename renamings input)
  | project (items : List ProjectItem) {input : Query} :
      Positive input → Positive (.project items input)
  | select (condition : Expr) {input : Query} :
      Positive input → Positive (.select condition input)
  | cross {left right : Query} : Positive left → Positive right → Positive (.cross left right)
  | union {left right : Query} :
      Positive left → Positive right → Positive (.setOp .union left right)
  | intersect {left right : Query} :
      Positive left → Positive right → Positive (.setOp .intersect left right)
  | join (condition : Option Expr) {left right : Query} :
      Positive left → Positive right → Positive (.join .inner condition left right)
  | parens {inner : Query} : Positive inner → Positive (.parens inner)

structure Database.Within (db db' : Database) : Prop extends db.SameShape db' where
  rows : ∀ name r r', db.relvars.get? name = some r → db'.relvars.get? name = some r' →
    ∀ t ∈ r.rows, t ∈ r'.rows

theorem Database.Within.relvar {db db' : Database} (h : db.Within db') (name : String) :
    ResultWithin (db.relvar name) (db'.relvar name) := by
  intro r' hr'
  have hr' := Database.relvar_eq_ok_iff.1 hr'
  have hn := h.headers name
  rw [hr', Option.map_some, Option.map_eq_some_iff] at hn
  obtain ⟨r, hr, ha⟩ := hn
  exact ⟨r, Database.relvar_eq_ok_iff.2 hr, ha, h.rows name r r' hr hr'⟩

theorem Query.Positive.eval_within {db db' : Database} (hd : db.Within db') {query : Query}
    (hq : query.Positive) (config : Config) :
    ResultWithin (query.eval config db).outcome (query.eval config db').outcome := by
  induction hq with
  | relvar name =>
    rw [outcome_relvar, outcome_relvar]
    exact (hd.relvar name).limited config _
  | constant rows =>
    rw [outcome_constant, outcome_constant]
    exact .refl _
  | rename renamings _ ih =>
    rw [outcome_rename, outcome_rename]
    exact (ih.bind fun r r' h => h.rename renamings).limited config _
  | project items _ ih =>
    rw [outcome_project, outcome_project, hd.expandItems]
    exact (ih.bind fun r r' h => .bind_same _ fun exprs => h.project exprs).limited config _
  | select condition _ ih =>
    rw [outcome_select, outcome_select]
    exact (ih.bind fun r r' h => h.select condition).limited config _
  | cross _ _ ihl ihr =>
    rw [outcome_cross, outcome_cross]
    exact (ihl.bind fun l l' hl => ihr.bind fun r r' hr => hl.join hr none).limited config _
  | union _ _ ihl ihr =>
    rw [outcome_setOp, outcome_setOp]
    refine ResultWithin.limited (ihl.bind fun l l' hl => ihr.bind fun r r' hr => ?_) config _
    exact hl.combine (by decide) hr
  | intersect _ _ ihl ihr =>
    rw [outcome_setOp, outcome_setOp]
    refine ResultWithin.limited (ihl.bind fun l l' hl => ihr.bind fun r r' hr => ?_) config _
    exact hl.combine (by decide) hr
  | join condition _ _ ihl ihr =>
    rw [outcome_join, outcome_join]
    exact (ihl.bind fun l l' hl => ihr.bind fun r r' hr => hl.join hr condition).limited config _
  | parens _ ih =>
    rw [outcome_parens, outcome_parens]
    exact ih.limited config _

/-- Where a positive query succeeds on the larger database, under a row limit or not, it
succeeds on the smaller one too, and all rows of its value are rows of the larger value. -/
theorem eval_monotone {db db' : Database} (hd : db.Within db') {query : Query}
    (hq : query.Positive) (config : Config) {r' : Relation}
    (h : (query.eval config db').outcome = .ok r') :
    ∃ r, (query.eval config db).outcome = .ok r ∧ r.attributes = r'.attributes ∧
      ∀ t ∈ r.rows, t ∈ r'.rows := by
  obtain ⟨r, hr, ha, hrows⟩ := hq.eval_within hd config r' h
  exact ⟨r, hr, ha, hrows⟩

theorem eval_monotone_select :
    (Database.ofPairs (.ofList [[.boolean true, .boolean false]])).Within
      (.ofPairs (.ofList [[.boolean true, .boolean false], [.boolean true, .boolean true]])) ∧
    (Query.project [.schema (.name "key")] (.select (.attr "y") (.relvar "R"))).Positive ∧
    ((Query.project [.schema (.name "key")] (.select (.attr "y") (.relvar "R"))).eval
      { maxRows := some 2 } (.ofPairs (.ofList
        [[.boolean true, .boolean false], [.boolean true, .boolean true]]))).outcome =
      .ok ⟨[some "y"], .ofList [[.boolean true]]⟩ ∧
    ∃ r, ((Query.project [.schema (.name "key")] (.select (.attr "y") (.relvar "R"))).eval
        { maxRows := some 2 } (.ofPairs (.ofList [[.boolean true, .boolean false]]))).outcome =
          .ok r ∧
      r.attributes = [some "y"] ∧ ∀ t ∈ r.rows, t ∈ RowSet.ofList [[.boolean true]] := by
  have hd : (Database.ofPairs (.ofList [[.boolean true, .boolean false]])).Within
      (.ofPairs (.ofList [[.boolean true, .boolean false], [.boolean true, .boolean true]])) := by
    refine ⟨Database.ofPairs_sameShape _ _, fun name r r' hr hr' t ht => ?_⟩
    by_cases hn : name = "R"
    · subst hn
      obtain rfl := Option.some.inj hr
      obtain rfl := Option.some.inj hr'
      exact RowSet.mem_ofList.2 (List.mem_cons.2 (.inl (List.mem_singleton.1 ht)))
    · simp [Database.ofPairs, NameMap.get?, NameMap.find?, hn] at hr
  have hq : (Query.project [.schema (.name "key")] (.select (.attr "y") (.relvar "R"))).Positive :=
    .project _ (.select _ (.relvar "R"))
  have h : ((Query.project [.schema (.name "key")] (.select (.attr "y") (.relvar "R"))).eval
      { maxRows := some 2 } (.ofPairs (.ofList
        [[.boolean true, .boolean false], [.boolean true, .boolean true]]))).outcome =
      .ok ⟨[some "y"], .ofList [[.boolean true]]⟩ := by rfl
  exact ⟨hd, hq, h, eval_monotone hd hq _ h⟩

end Relational
