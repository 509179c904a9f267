import Relational.Proofs.Guarded.Scalar
import Relational.Proofs.WellFormed

/-!
# Guarded evaluation of queries

The operators with a guard at each environment that they build for a row and at
each position that they read or write. On well-formed operands the guarded
operators agree with the operators, and so guarded evaluation of a query agrees
with its evaluation, whatever the outcome (`Query.evalGuarded_agrees`).
-/

namespace Relational

open Guarded (Agrees readAt writeAt)

namespace Relation

-- ---------------------------------------------------------------------------
-- Selection and projection
-- ---------------------------------------------------------------------------

def selectGuarded (r : Relation) (condition : Expr) : Guarded Relation := do
  let rows ← Guarded.keep
    (fun t => do condition.holdsGuarded (← Environment.of r.attributes t)) r.rows.toList
  return ⟨r.attributes, .ofList rows⟩

def projectGuarded (r : Relation) (items : List Expr) : Guarded Relation := do
  let attributes ← .lift (columnNames .projection items)
  .lift (checkDistinct attributes)
  let rows ← r.rows.toList.mapM fun t => do
    Expr.evalAllGuarded (← Environment.of r.attributes t) items
  return ⟨attributes, .ofList rows⟩

theorem selectGuarded_agrees {r : Relation} (hw : r.WellFormed) (condition : Expr) :
    Agrees (r.selectGuarded condition) (r.select condition) := by
  refine .bind (.keep fun t ht => ?_) fun rows _ => .pure _
  exact .bind_ok (Environment.of_agrees (hw t ht).symm) (condition.holdsGuarded_agrees _)

/-- A row that is too short is a fault. -/
example : (selectGuarded ⟨[some "a"], .ofList [[]]⟩ (.attr "a")).run = none := rfl

theorem projectGuarded_agrees {r : Relation} (hw : r.WellFormed) (items : List Expr) :
    Agrees (r.projectGuarded items) (r.project items) := by
  refine .bind (.lift _) fun attributes _ => .bind (.lift _) fun _ _ => ?_
  refine .bind (.mapM fun t ht => ?_) fun rows _ => .pure _
  exact .bind_ok (Environment.of_agrees (hw t ht).symm) (Expr.evalAllGuarded_agrees _ items)

-- ---------------------------------------------------------------------------
-- Renaming
-- ---------------------------------------------------------------------------

def checkTargetsGuarded (attributes : List Attribute) (targets : List (Nat × String)) :
    Guarded Unit :=
  match firstRepeat? (targets.map Prod.fst) with
  | some i => do
    let old ← readAt attributes i
    .lift (.error (.duplicateAttribute (old.getD "")))
  | none => pure ()

def writeTargets (attributes : List Attribute) (targets : List (Nat × String)) :
    Guarded (List Attribute) :=
  targets.foldlM (fun attributes target => writeAt attributes target.1 (some target.2)) attributes

def renameGuarded (r : Relation) (renamings : List Renaming) : Guarded Relation := do
  let targets ← .lift (renamings.mapM (renamingTarget r.attributes))
  checkTargetsGuarded r.attributes targets
  let attributes ← writeTargets r.attributes targets
  .lift (checkDistinct attributes)
  return ⟨attributes, r.rows⟩

theorem lt_length_of_renamingTarget {attributes : List Attribute} {renamings : List Renaming}
    {targets : List (Nat × String)} (h : renamings.mapM (renamingTarget attributes) = .ok targets) :
    ∀ target ∈ targets, target.1 < attributes.length := by
  intro target ht
  obtain ⟨name, -, hn⟩ := mem_of_mapM h ht
  simp only [renamingTarget, bind_eq_ok_iff, pure_eq_ok_iff] at hn
  obtain ⟨i, hi, rfl⟩ := hn
  exact lt_length_of_resolve hi

theorem checkTargetsGuarded_agrees {attributes : List Attribute} {targets : List (Nat × String)}
    (hb : ∀ target ∈ targets, target.1 < attributes.length) :
    Agrees (checkTargetsGuarded attributes targets) (checkTargets attributes targets) := by
  unfold checkTargetsGuarded checkTargets
  cases hi : firstRepeat? (targets.map Prod.fst) with
  | none => exact .pure ()
  | some i =>
    obtain ⟨target, ht, rfl⟩ := List.mem_map.1 (mem_of_firstRepeat? hi)
    have hl := hb target ht
    refine .bind_ok (.readAt hl none) ?_
    show Agrees _ (.error (.duplicateAttribute ((attributes[target.1]?.join).getD "")))
    rw [List.getD_eq_getElem?_getD, List.getElem?_eq_getElem hl]
    exact .lift _

/-- Each target is another position, so that writing the first one does not
disturb the rest. -/
theorem substitute_cons {i : Nat} {name : String} {targets : List (Nat × String)}
    (hi : i ∉ targets.map Prod.fst) (attributes : List Attribute) :
    substitute ((i, name) :: targets) attributes =
      substitute targets (attributes.set i (some name)) := by
  have hl : targets.lookup i = none := by
    rw [List.lookup_eq_none_iff]
    intro target ht
    simpa using fun he : i = target.1 => hi (he ▸ List.mem_map_of_mem ht)
  refine List.ext_getElem (by simp [substitute]) fun j _ _ => ?_
  simp only [substitute, List.getElem_mapIdx, List.lookup_cons, List.getElem_set]
  by_cases hj : j = i
  · subst hj
    simp [hl]
  · simp [beq_eq_false_iff_ne.2 hj, Ne.symm hj]

theorem writeTargets_agrees {attributes : List Attribute} {targets : List (Nat × String)}
    (hn : (targets.map Prod.fst).Nodup)
    (hb : ∀ target ∈ targets, target.1 < attributes.length) :
    Agrees (writeTargets attributes targets) (.ok (substitute targets attributes)) := by
  induction targets generalizing attributes with
  | nil =>
    have hs : substitute [] attributes = attributes :=
      List.ext_getElem (by simp [substitute]) (by simp [substitute])
    rw [hs]
    exact .pure attributes
  | cons target targets ih =>
    obtain ⟨i, name⟩ := target
    obtain ⟨hi, hn⟩ := List.nodup_cons.1 hn
    obtain ⟨hl, hb⟩ := List.forall_mem_cons.1 hb
    rw [writeTargets, List.foldlM_cons, substitute_cons hi]
    exact .bind_ok (.writeAt hl _) (ih hn (by simpa using hb))

theorem renameGuarded_agrees (r : Relation) (renamings : List Renaming) :
    Agrees (r.renameGuarded renamings) (r.rename renamings) := by
  refine .bind (.lift _) fun targets ht => ?_
  have hb := lt_length_of_renamingTarget ht
  refine .bind (checkTargetsGuarded_agrees hb) fun _ hc => ?_
  refine .bind_ok (writeTargets_agrees (nodup_of_checkTargets hc) hb) ?_
  exact .bind (.lift _) fun _ _ => .pure _

-- ---------------------------------------------------------------------------
-- Joins
-- ---------------------------------------------------------------------------

def meetsGuarded (left right : Relation) (condition : Option Expr) (pair : Row × Row) :
    Guarded Bool :=
  match condition with
  | some expr => do
    expr.holdsGuarded (← Environment.of (left.attributes ++ right.attributes) (pair.1 ++ pair.2))
  | none => pure true

section

variable (left right : Relation) (condition : Option Expr)

def joinPairGuarded (l : Row) (state : Bool × Trackers) (entry : Row × Nat) :
    Guarded (Bool × Trackers) := do
  if ← meetsGuarded left right condition (l, entry.1) then
    let rightMatched ← writeAt state.2.rightMatched entry.2 true
    return (true, { state.2 with rows := state.2.rows.insert (l ++ entry.1), rightMatched })
  else
    return state

def joinRowGuarded (trackers : Trackers) (l : Row) : Guarded Trackers := do
  let (found, trackers) ←
    right.rows.toList.zipIdx.foldlM (joinPairGuarded left right condition l) (false, trackers)
  return if found then trackers else trackers.leave l

end

def joinGuarded (kind : JoinKind) (condition : Option Expr) (left right : Relation) :
    Guarded Relation := do
  let trackers ← left.rows.toList.foldlM (joinRowGuarded left right condition) (.start right)
  return ⟨left.attributes ++ right.attributes, trackers.toRows kind left right⟩

def Trackers.Covers (right : Relation) (trackers : Trackers) : Prop :=
  trackers.rightMatched.length = right.size

section

variable {left right : Relation} {condition : Option Expr} {l : Row} {trackers trackers' : Trackers}

theorem covers_of_joinPair {state state' : Bool × Trackers} {entry : Row × Nat}
    (hc : state.2.Covers right) (h : joinPair left right condition l state entry = .ok state') :
    state'.2.Covers right := by
  simp only [joinPair, bind_eq_ok_iff] at h
  obtain ⟨pass, -, h⟩ := h
  cases pass with
  | false =>
    obtain rfl := pure_eq_ok_iff.1 h
    exact hc
  | true =>
    obtain rfl := pure_eq_ok_iff.1 h
    simpa [Trackers.Covers, Trackers.pair] using hc

theorem covers_of_joinRow (hc : trackers.Covers right)
    (h : joinRow left right condition trackers l = .ok trackers') : trackers'.Covers right := by
  simp only [joinRow, bind_eq_ok_iff, pure_eq_ok_iff] at h
  obtain ⟨⟨found, next⟩, hfold, rfl⟩ := h
  have hnext : next.Covers right := foldlM_preserves (p := fun state => state.2.Covers right)
    (fun _ _ _ hc h => covers_of_joinPair hc h) hc hfold
  cases found <;> exact hnext

variable (hl : left.WellFormed) (hr : right.WellFormed)

include hl hr

theorem meetsGuarded_agrees {r : Row} (hml : l ∈ left.rows) (hmr : r ∈ right.rows) :
    Agrees (meetsGuarded left right condition (l, r)) (meets left right condition (l, r)) := by
  cases condition with
  | none => exact .pure true
  | some expr =>
    have ha : (left.attributes ++ right.attributes).length = (l ++ r).length := by
      rw [List.length_append, List.length_append, hl l hml, hr r hmr]
    exact .bind_ok (Environment.of_agrees ha) (expr.holdsGuarded_agrees _)

theorem joinPairGuarded_agrees {state : Bool × Trackers} {entry : Row × Nat} (hml : l ∈ left.rows)
    (hc : state.2.Covers right) (he : entry ∈ right.rows.toList.zipIdx) :
    Agrees (joinPairGuarded left right condition l state entry)
      (joinPair left right condition l state entry) := by
  obtain ⟨hi, hr'⟩ := List.getElem?_eq_some_iff.1 (List.mem_zipIdx_iff_getElem?.1 he)
  have hmr : entry.1 ∈ right.rows := hr' ▸ List.getElem_mem hi
  refine .bind (meetsGuarded_agrees hl hr hml hmr) fun pass _ => ?_
  cases pass with
  | false => exact .pure _
  | true => exact .bind_ok (.writeAt (hc.symm ▸ hi) true) (.pure _)

theorem joinRowGuarded_agrees (hml : l ∈ left.rows) (hc : trackers.Covers right) :
    Agrees (joinRowGuarded left right condition trackers l)
      (joinRow left right condition trackers l) := by
  refine .bind (.foldlM_of (p := fun state => state.2.Covers right) hc ?_ ?_) fun _ _ => .pure _
  · exact fun state hc entry he => joinPairGuarded_agrees hl hr hml hc he
  · exact fun _ _ _ hc h => covers_of_joinPair hc h

theorem joinGuarded_agrees (kind : JoinKind) (condition : Option Expr) :
    Agrees (left.joinGuarded kind condition right) (left.join kind condition right) := by
  refine .bind (.foldlM_of (p := Trackers.Covers right) ?_ ?_ ?_) fun trackers _ => .pure _
  · exact List.length_replicate
  · exact fun trackers hc l hml => joinRowGuarded_agrees hl hr hml hc
  · exact fun _ _ _ hc h => covers_of_joinRow hc h

end

-- ---------------------------------------------------------------------------
-- Division
-- ---------------------------------------------------------------------------

def pickGuarded (positions : List Nat) (t : Row) : Guarded Row := positions.mapM (readAt t)

def Pairings.addGuarded (staying matched : List Nat) (pairings : Pairings) (t : Row) :
    Guarded Pairings := do
  let q ← pickGuarded staying t
  let s ← pickGuarded matched t
  return add q s pairings

def divideGuarded (dividend divisor : Relation) : Guarded Relation := do
  let matched ← .lift (counterparts dividend.attributes [] divisor.attributes)
  let staying := (List.range dividend.arity).filter fun i => !matched.contains i
  let pairings ← dividend.rows.toList.foldlM (Pairings.addGuarded staying matched) []
  let attributes ← staying.mapM (readAt dividend.attributes)
  return ⟨attributes, pairings.quotient divisor.rows⟩

theorem pickGuarded_agrees {positions : List Nat} {t : Row} (h : ∀ i ∈ positions, i < t.length) :
    Agrees (pickGuarded positions t) (.ok (Row.pick positions t)) :=
  .mapM_ok fun i hi => .readAt (h i hi) .null

theorem Pairings.addGuarded_agrees {staying matched : List Nat} {t : Row}
    (hs : ∀ i ∈ staying, i < t.length) (hm : ∀ i ∈ matched, i < t.length) (pairings : Pairings) :
    Agrees (addGuarded staying matched pairings t)
      (.ok (add (Row.pick staying t) (Row.pick matched t) pairings)) :=
  .bind_ok (pickGuarded_agrees hs) (.bind_ok (pickGuarded_agrees hm) (.pure _))

theorem lt_length_of_counterparts {dividend divisor : List Attribute} {taken positions : List Nat}
    (h : counterparts dividend taken divisor = .ok positions) :
    ∀ i ∈ positions, i < dividend.length := by
  induction divisor generalizing taken positions with
  | nil =>
    obtain rfl : positions = [] := by simpa [counterparts, eq_comm] using h
    nofun
  | cons attr divisor ih =>
    simp only [counterparts, bind_eq_ok_iff] at h
    obtain ⟨i, hi, h⟩ := h
    split at h
    · cases h
    · simp only [bind_eq_ok_iff, pure_eq_ok_iff] at h
      obtain ⟨rest, hr, rfl⟩ := h
      exact List.forall_mem_cons.2 ⟨lt_length_of_counterpart hi, ih hr⟩

theorem divideGuarded_agrees {dividend : Relation} (hw : dividend.WellFormed) (divisor : Relation) :
    Agrees (dividend.divideGuarded divisor) (dividend.divide divisor) := by
  refine .bind (.lift _) fun matched hm => ?_
  have hmatched := lt_length_of_counterparts hm
  have hstaying : ∀ i ∈ (List.range dividend.arity).filter fun i => !matched.contains i,
      i < dividend.attributes.length :=
    fun i hi => List.mem_range.1 (List.mem_filter.1 hi).1
  have hpairings {pairings : Pairings} {t : Row} (ht : t ∈ dividend.rows.toList) :=
    Pairings.addGuarded_agrees (fun i hi => hw t ht ▸ hstaying i hi)
      (fun i hi => hw t ht ▸ hmatched i hi) pairings
  refine .bind_ok (.foldlM_ok (fun pairings t ht => hpairings ht) []) ?_
  exact .bind_ok (.mapM_ok fun i hi => .readAt (hstaying i hi) none) (.pure _)

end Relation

-- ---------------------------------------------------------------------------
-- Grouping
-- ---------------------------------------------------------------------------

def AggregateColumn.contributionGuarded (column : AggregateColumn) (env : Environment) :
    Guarded Value :=
  match column.argument with
  | some expr => expr.evalGuarded env
  | none => pure (.boolean true)

namespace Groups

def updateAllGuarded (env : Environment) :
    List AggregateColumn → List Accumulator → Guarded (List Accumulator)
  | column :: columns, acc :: accs => do
    let v ← column.contributionGuarded env
    let acc ← .lift (acc.update v)
    let accs ← updateAllGuarded env columns accs
    return acc :: accs
  | _, _ => pure []

def insertRowGuarded (columns : List AggregateColumn) (key : Row) (env : Environment) :
    Groups → Guarded Groups
  | [] => do return [(key, ← updateAllGuarded env columns (start columns))]
  | (k, accs) :: groups =>
    if k = key then do return (k, ← updateAllGuarded env columns accs) :: groups
    else do return (k, accs) :: (← insertRowGuarded columns key env groups)

theorem updateAllGuarded_agrees (env : Environment) (columns : List AggregateColumn)
    (accs : List Accumulator) :
    Agrees (updateAllGuarded env columns accs) (updateAll env.scope columns accs) := by
  induction columns generalizing accs with
  | nil => cases accs <;> exact .pure []
  | cons column columns ih =>
    cases accs with
    | nil => exact .pure []
    | cons acc accs =>
      have hv : Agrees (column.contributionGuarded env) (column.contribution env.scope) := by
        unfold AggregateColumn.contributionGuarded AggregateColumn.contribution
        cases column.argument with
        | none => exact .pure _
        | some expr => exact expr.evalGuarded_agrees env
      refine .bind hv fun v _ => .bind (.lift _) fun acc _ => ?_
      exact .bind (ih accs) fun accs _ => .pure _

theorem insertRowGuarded_agrees (columns : List AggregateColumn) (key : Row) (env : Environment)
    (groups : Groups) :
    Agrees (insertRowGuarded columns key env groups) (insertRow columns key env.scope groups) := by
  induction groups with
  | nil => exact .bind (updateAllGuarded_agrees env columns _) fun accs _ => .pure _
  | cons head groups ih =>
    obtain ⟨k, accs⟩ := head
    unfold insertRowGuarded insertRow
    split
    · exact .bind (updateAllGuarded_agrees env columns accs) fun accs _ => .pure _
    · exact .bind ih fun groups _ => .pure _

end Groups

namespace Relation

def groupRowGuarded (r : Relation) (keys : List Expr) (columns : List AggregateColumn)
    (groups : Groups) (t : Row) : Guarded Groups := do
  let env ← Environment.of r.attributes t
  let key ← Expr.evalAllGuarded env keys
  Groups.insertRowGuarded columns key env groups

def groupGuarded (r : Relation) (keys : List Expr) (columns : List AggregateColumn) :
    Guarded Relation := do
  let keyNames ← .lift (columnNames .grouping keys)
  let attributes := keyNames ++ columns.map fun column => some column.name
  .lift (checkDistinct attributes)
  let groups ← r.rows.toList.foldlM (groupRowGuarded r keys columns) []
  let groups := if groups.isEmpty && keys.isEmpty then [([], Groups.start columns)] else groups
  return ⟨attributes, .ofList (Groups.toRows groups)⟩

theorem groupGuarded_agrees {r : Relation} (hw : r.WellFormed) (keys : List Expr)
    (columns : List AggregateColumn) :
    Agrees (r.groupGuarded keys columns) (r.group keys columns) := by
  refine .bind (.lift _) fun keyNames _ => .bind (.lift _) fun _ _ => ?_
  refine .bind (.foldlM (fun groups t ht => ?_) []) fun groups _ => .pure _
  refine .bind_ok (Environment.of_agrees (hw t ht).symm) ?_
  refine .bind (Expr.evalAllGuarded_agrees _ keys) fun key _ => ?_
  exact Groups.insertRowGuarded_agrees columns key _ groups

-- ---------------------------------------------------------------------------
-- Queries
-- ---------------------------------------------------------------------------

def ofExprsGuarded (rows : List (List Expr)) : Guarded Relation :=
  rows.foldlM (fun r cells => do .lift (r.addRow (← Expr.evalAllGuarded .empty cells))) .empty

theorem ofExprsGuarded_agrees (rows : List (List Expr)) :
    Agrees (ofExprsGuarded rows) (ofExprs rows) :=
  .foldlM (fun _ cells _ => .bind (Expr.evalAllGuarded_agrees .empty cells) fun _ _ => .lift _) _

end Relation

def Config.limitedGuarded (config : Config) (operator : Operator) (result : Guarded Relation) :
    Guarded Relation := do
  let r ← result
  .lift (config.checkLimit operator r)
  return r

theorem Config.limitedGuarded_agrees (config : Config) (operator : Operator)
    {x : Guarded Relation} {y : Except EvalError Relation} (h : Agrees x y) :
    Agrees (config.limitedGuarded operator x) (config.limited operator y) :=
  .bind h fun r _ => .bind (.lift _) fun _ _ => .pure r

def Query.evalGuarded (config : Config) (db : Database) (query : Query) : Guarded Relation :=
  config.limitedGuarded query.operator <|
    match query with
    | .relvar name => .lift (db.relvar name)
    | .constant rows => Relation.ofExprsGuarded rows
    | .rename renamings input => do
      let r ← input.evalGuarded config db
      r.renameGuarded renamings
    | .project items input => do
      let r ← input.evalGuarded config db
      let exprs ← .lift (expandItems db items)
      r.projectGuarded exprs
    | .select condition input => do
      let r ← input.evalGuarded config db
      r.selectGuarded condition
    | .cross left right => do
      let l ← left.evalGuarded config db
      let r ← right.evalGuarded config db
      l.joinGuarded .inner none r
    | .setOp op left right => do
      let l ← left.evalGuarded config db
      let r ← right.evalGuarded config db
      .lift (l.combine op r)
    | .join kind condition left right => do
      let l ← left.evalGuarded config db
      let r ← right.evalGuarded config db
      l.joinGuarded kind condition r
    | .divide left right => do
      let l ← left.evalGuarded config db
      let r ← right.evalGuarded config db
      l.divideGuarded r
    | .group keys aggregates input => do
      let columns ← .lift (aggregates.mapM AggregateColumn.ofExpr)
      let r ← input.evalGuarded config db
      r.groupGuarded keys columns
    | .parens inner => inner.evalGuarded config db

/-- The operands of an operator are well formed because they are values of
queries, and this is all that its guards ask for. -/
theorem Query.evalGuarded_agrees (config : Config) {db : Database} (hw : db.WellFormed)
    (query : Query) : Agrees (query.evalGuarded config db) (query.eval config db).outcome := by
  induction query with
  | relvar name =>
    rw [outcome_relvar]
    exact config.limitedGuarded_agrees _ (.lift _)
  | constant rows =>
    rw [outcome_constant]
    exact config.limitedGuarded_agrees _ (Relation.ofExprsGuarded_agrees rows)
  | rename renamings input ih =>
    rw [outcome_rename]
    exact config.limitedGuarded_agrees _ (.bind ih fun r _ => r.renameGuarded_agrees renamings)
  | project items input ih =>
    rw [outcome_project]
    refine config.limitedGuarded_agrees _ (.bind ih fun r hr => .bind (.lift _) fun exprs _ => ?_)
    exact Relation.projectGuarded_agrees (eval_wellFormed hw hr) exprs
  | select condition input ih =>
    rw [outcome_select]
    refine config.limitedGuarded_agrees _ (.bind ih fun r hr => ?_)
    exact Relation.selectGuarded_agrees (eval_wellFormed hw hr) condition
  | cross left right ihl ihr =>
    rw [outcome_cross]
    refine config.limitedGuarded_agrees _ (.bind ihl fun l hl => .bind ihr fun r hr => ?_)
    exact Relation.joinGuarded_agrees (eval_wellFormed hw hl) (eval_wellFormed hw hr) .inner none
  | setOp op left right ihl ihr =>
    rw [outcome_setOp]
    exact config.limitedGuarded_agrees _ (.bind ihl fun l _ => .bind ihr fun r _ => .lift _)
  | join kind condition left right ihl ihr =>
    rw [outcome_join]
    refine config.limitedGuarded_agrees _ (.bind ihl fun l hl => .bind ihr fun r hr => ?_)
    exact Relation.joinGuarded_agrees (eval_wellFormed hw hl) (eval_wellFormed hw hr) kind condition
  | divide left right ihl ihr =>
    rw [outcome_divide]
    refine config.limitedGuarded_agrees _ (.bind ihl fun l hl => .bind ihr fun r _ => ?_)
    exact Relation.divideGuarded_agrees (eval_wellFormed hw hl) r
  | group keys aggregates input ih =>
    rw [outcome_group]
    refine config.limitedGuarded_agrees _ (.bind (.lift _) fun columns _ => .bind ih fun r hr => ?_)
    exact Relation.groupGuarded_agrees (eval_wellFormed hw hr) keys columns
  | parens inner ih =>
    rw [outcome_parens]
    exact config.limitedGuarded_agrees _ ih

end Relational
