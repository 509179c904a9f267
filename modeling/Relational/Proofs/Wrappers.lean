import Mathlib.Data.List.Forall2
import Relational.Proofs.Header
import Relational.Proofs.Operands

/-!
# Wrappers

Parentheses, and names given to expressions, wrap what they stand around. Names
count where a column takes its name from an expression, and there only the outermost
chain of them does. All other wrappers can be taken off and the evaluation comes to
the same value or the same error (`eval_of_unwraps`).
-/

namespace Relational

open List (Forall₂)

-- ---------------------------------------------------------------------------
-- Syntax with wrappers taken off
-- ---------------------------------------------------------------------------

/-- The second expression is the first with some names taken off. -/
inductive Expr.Unwraps : Expr → Expr → Prop
  | literal (v : Value) : Unwraps (.literal v) (.literal v)
  | attr (name : String) : Unwraps (.attr name) (.attr name)
  | unary (op : UnaryOp) {operand operand' : Expr} : Unwraps operand operand' →
      Unwraps (.unary op operand) (.unary op operand')
  | binary (op : BinaryOp) {left left' right right' : Expr} : Unwraps left left' →
      Unwraps right right' → Unwraps (.binary op left right) (.binary op left' right')
  | call (name : String) {args args' : List Expr} : Forall₂ Unwraps args args' →
      Unwraps (.call name args) (.call name args')
  | named (name : Option String) {expr expr' : Expr} : Unwraps expr expr' →
      Unwraps (.named expr name) (.named expr' name)
  | taken (name : Option String) {expr expr' : Expr} : Unwraps expr expr' →
      Unwraps (.named expr name) expr'

/-- Names are taken off below the chain of names at the root, which stays. -/
inductive Expr.UnwrapsBelow : Expr → Expr → Prop
  | named (name : Option String) {expr expr' : Expr} : UnwrapsBelow expr expr' →
      UnwrapsBelow (.named expr name) (.named expr' name)
  | root {expr expr' : Expr} : (∀ inner name, expr ≠ .named inner name) → expr.Unwraps expr' →
      UnwrapsBelow expr expr'

inductive SchemaExpr.Unwraps : SchemaExpr → SchemaExpr → Prop
  | name (schema : String) : Unwraps (.name schema) (.name schema)
  | setOp (op : SetOp) {left left' right right' : SchemaExpr} : Unwraps left left' →
      Unwraps right right' → Unwraps (.setOp op left right) (.setOp op left' right')
  | parens {inner inner' : SchemaExpr} : Unwraps inner inner' →
      Unwraps (.parens inner) (.parens inner')
  | taken {inner inner' : SchemaExpr} : Unwraps inner inner' → Unwraps (.parens inner) inner'

inductive ProjectItem.Unwraps : ProjectItem → ProjectItem → Prop
  | expr {item item' : Expr} : item.UnwrapsBelow item' → Unwraps (.expr item) (.expr item')
  | schema {names names' : SchemaExpr} : names.Unwraps names' →
      Unwraps (.schema names) (.schema names')

inductive Query.Unwraps : Query → Query → Prop
  | relvar (name : String) : Unwraps (.relvar name) (.relvar name)
  | constant {rows rows' : List (List Expr)} : Forall₂ (Forall₂ Expr.Unwraps) rows rows' →
      Unwraps (.constant rows) (.constant rows')
  | rename (renamings : List Renaming) {input input' : Query} : Unwraps input input' →
      Unwraps (.rename renamings input) (.rename renamings input')
  | project {items items' : List ProjectItem} {input input' : Query} :
      Forall₂ ProjectItem.Unwraps items items' → Unwraps input input' →
      Unwraps (.project items input) (.project items' input')
  | select {condition condition' : Expr} {input input' : Query} : condition.Unwraps condition' →
      Unwraps input input' → Unwraps (.select condition input) (.select condition' input')
  | cross {left left' right right' : Query} : Unwraps left left' → Unwraps right right' →
      Unwraps (.cross left right) (.cross left' right')
  | setOp (op : SetOp) {left left' right right' : Query} : Unwraps left left' →
      Unwraps right right' → Unwraps (.setOp op left right) (.setOp op left' right')
  | join (kind : JoinKind) {condition condition' : Option Expr} {left left' right right' : Query} :
      Option.Rel Expr.Unwraps condition condition' → Unwraps left left' → Unwraps right right' →
      Unwraps (.join kind condition left right) (.join kind condition' left' right')
  | divide {left left' right right' : Query} : Unwraps left left' → Unwraps right right' →
      Unwraps (.divide left right) (.divide left' right')
  | group {keys keys' aggregates aggregates' : List Expr} {input input' : Query} :
      Forall₂ Expr.UnwrapsBelow keys keys' → Forall₂ Expr.UnwrapsBelow aggregates aggregates' →
      Unwraps input input' → Unwraps (.group keys aggregates input) (.group keys' aggregates' input')
  | parens {inner inner' : Query} : Unwraps inner inner' → Unwraps (.parens inner) (.parens inner')
  | taken {inner inner' : Query} : Unwraps inner inner' → Unwraps (.parens inner) inner'

-- ---------------------------------------------------------------------------
-- Computations that fail alike
-- ---------------------------------------------------------------------------

section

variable {ε α α' β β' : Type}

inductive Matches (p : α → α' → Prop) : Except ε α → Except ε α' → Prop
  | ok {a : α} {a' : α'} : p a a' → Matches p (.ok a) (.ok a')
  | error (e : ε) : Matches p (.error e) (.error e)

namespace Matches

theorem refl (x : Except ε α) : Matches (· = ·) x x := by
  cases x with
  | ok a => exact .ok rfl
  | error e => exact .error e

variable {p : α → α' → Prop} {q : β → β' → Prop} {x : Except ε α} {x' : Except ε α'}

theorem bind {f : α → Except ε β} {f' : α' → Except ε β'} (hx : Matches p x x')
    (hf : ∀ a a', p a a' → Matches q (f a) (f' a')) : Matches q (x >>= f) (x' >>= f') := by
  cases hx with
  | ok ha => exact hf _ _ ha
  | error e => exact .error e

theorem bind_eq {f : α → Except ε β} {f' : α' → Except ε β} (hx : Matches p x x')
    (hf : ∀ a a', p a a' → f a = f' a') : x >>= f = x' >>= f' := by
  cases hx with
  | ok ha => exact hf _ _ ha
  | error e => rfl

theorem mapM {f : α → Except ε β} {f' : α' → Except ε β'}
    (hf : ∀ a a', p a a' → Matches q (f a) (f' a')) {l : List α} {l' : List α'}
    (h : Forall₂ p l l') : Matches (Forall₂ q) (l.mapM f) (l'.mapM f') := by
  induction h with
  | nil => exact .ok .nil
  | cons ha _ ih =>
    rw [List.mapM_cons, List.mapM_cons]
    exact (hf _ _ ha).bind fun b b' hb => ih.bind fun bs bs' hbs => .ok (.cons hb hbs)

end Matches

theorem map_congr_forall₂ {f : α → β} {l l' : List α} (h : Forall₂ (fun a a' => f a = f a') l l') :
    l.map f = l'.map f := by
  rw [← List.forall₂_eq_eq_eq, List.forall₂_map_left_iff, List.forall₂_map_right_iff]
  exact h

theorem mapM_congr_forall₂ {f : α → Except ε β} {l l' : List α}
    (h : Forall₂ (fun a a' => f a = f a') l l') : l.mapM f = l'.mapM f := by
  induction h with
  | nil => rfl
  | cons ha _ ih => rw [List.mapM_cons, List.mapM_cons, ha, ih]

theorem foldlM_congr_forall₂ {f : β → α → Except ε β} {l l' : List α}
    (h : Forall₂ (fun a a' => ∀ b, f b a = f b a') l l') (b : β) : l.foldlM f b = l'.foldlM f b := by
  induction h generalizing b with
  | nil => rfl
  | cons ha _ ih => simp only [List.foldlM_cons, ha, ih]

end

-- ---------------------------------------------------------------------------
-- Scalar expressions
-- ---------------------------------------------------------------------------

mutual

theorem Expr.Unwraps.eval_eq (scope : Scope) {expr expr' : Expr} (h : expr.Unwraps expr') :
    expr.eval scope = expr'.eval scope := by
  match expr with
  | .literal v =>
    cases h
    rfl
  | .attr name =>
    cases h
    rfl
  | .unary op operand =>
    cases h with
    | unary _ ho => rw [eval, eval, Expr.Unwraps.eval_eq scope ho]
  | .binary op left right =>
    cases h with
    | binary _ hl hr =>
      have hl := Expr.Unwraps.eval_eq scope hl
      have hr := Expr.Unwraps.eval_eq scope hr
      cases op <;> rw [eval, eval, hl, hr]
  | .call name args =>
    cases h with
    | call _ ha => rw [eval, eval, Expr.Unwraps.evalAll_eq scope ha]
  | .named inner name =>
    cases h with
    | named _ hi => rw [eval, eval, Expr.Unwraps.eval_eq scope hi]
    | taken _ hi => rw [eval, Expr.Unwraps.eval_eq scope hi]

theorem Expr.Unwraps.evalAll_eq (scope : Scope) {exprs exprs' : List Expr}
    (h : Forall₂ Expr.Unwraps exprs exprs') :
    Expr.evalAll scope exprs = Expr.evalAll scope exprs' := by
  match exprs with
  | [] =>
    cases h
    rfl
  | expr :: rest =>
    cases h with
    | cons he hr =>
      rw [evalAll, evalAll, Expr.Unwraps.eval_eq scope he, Expr.Unwraps.evalAll_eq scope hr]

end

namespace Expr

variable {expr expr' : Expr} {exprs exprs' : List Expr}

theorem Unwraps.holds_eq (h : expr.Unwraps expr') (scope : Scope) :
    expr.holds scope = expr'.holds scope := by
  rw [holds, holds, h.eval_eq]

theorem Unwraps.unnamed {expr expr' : Expr} (h : expr.Unwraps expr') :
    expr.unnamed.Unwraps expr'.unnamed := by
  match expr with
  | .named inner name =>
    rw [Expr.unnamed]
    cases h with
    | named _ hi =>
      rw [Expr.unnamed]
      exact Unwraps.unnamed hi
    | taken _ hi => exact Unwraps.unnamed hi
  | .literal _ | .attr _ | .unary .. | .binary .. | .call .. =>
    cases h
    constructor <;> assumption

theorem UnwrapsBelow.unwraps (h : expr.UnwrapsBelow expr') : expr.Unwraps expr' := by
  induction h with
  | named name _ ih => exact .named name ih
  | root _ h => exact h

theorem UnwrapsBelow.outputName_eq (h : expr.UnwrapsBelow expr') :
    expr.outputName = expr'.outputName := by
  induction h with
  | named name _ ih =>
    cases name with
    | none => exact ih
    | some name => rfl
  | root hn h =>
    cases h with
    | named | taken => exact absurd rfl (hn _ _)
    | literal | attr | unary | binary | call => rfl

theorem UnwrapsBelow.attrs (names : List String) :
    Forall₂ UnwrapsBelow (names.map .attr) (names.map .attr) := by
  induction names with
  | nil => exact .nil
  | cons name names ih => exact .cons (.root nofun (.attr name)) ih

theorem UnwrapsBelow.evalAll_eq (h : Forall₂ UnwrapsBelow exprs exprs') (scope : Scope) :
    Expr.evalAll scope exprs = Expr.evalAll scope exprs' :=
  Unwraps.evalAll_eq scope (h.imp fun _ _ => unwraps)

theorem UnwrapsBelow.columnNames_eq (h : Forall₂ UnwrapsBelow exprs exprs')
    (context : NamingContext) :
    Relation.columnNames context exprs = Relation.columnNames context exprs' :=
  mapM_congr_forall₂ (h.imp fun _ _ h => by rw [h.outputName_eq])

end Expr

theorem SchemaExpr.Unwraps.eval_eq {names names' : SchemaExpr} (h : names.Unwraps names')
    (db : Database) : names.eval db = names'.eval db := by
  induction h with
  | name schema => rfl
  | setOp op _ _ ihl ihr => rw [eval, eval, ihl, ihr]
  | parens _ ih => exact ih
  | taken _ ih => exact ih

-- ---------------------------------------------------------------------------
-- Aggregate columns
-- ---------------------------------------------------------------------------

namespace AggregateColumn

structure Same (column column' : AggregateColumn) : Prop where
  function : column.function = column'.function
  name : column.name = column'.name
  contribution : ∀ scope, column.contribution scope = column'.contribution scope

variable {args args' : List Expr} {argument argument' : Option Expr} {expr expr' : Expr}

theorem argumentOf_matches (function : AggregateFunction) (h : Forall₂ Expr.Unwraps args args') :
    Matches (Option.Rel Expr.Unwraps) (argumentOf function args) (argumentOf function args') := by
  have hl := h.length_eq
  cases h with
  | nil => cases function <;> constructor; exact .none
  | cons ha hrest =>
    cases hrest with
    | nil => cases function <;> exact .ok (.some ha)
    | cons =>
      cases function <;> simp only [argumentOf, hl] <;> exact .error _

theorem defaultName_eq (function : AggregateFunction)
    (h : Option.Rel Expr.Unwraps argument argument') :
    defaultName function argument = defaultName function argument' := by
  cases h with
  | none => rfl
  | @some arg arg' h =>
    have hn := arg.unnamed_ne_named
    have hu := h.unnamed
    simp only [defaultName, Option.map_some]
    generalize arg.unnamed = u at hn hu
    generalize arg'.unnamed = u' at hu
    cases hu with
    | named | taken => exact absurd rfl (hn _ _)
    | literal | attr | unary | binary | call => rfl

def nameOf (expr : Expr) (function : AggregateFunction) (argument : Option Expr) :
    Except EvalError String :=
  match expr with
  | .named _ (some name) => .ok name
  | _ => defaultName function argument

theorem nameOf_eq (h : expr.UnwrapsBelow expr') (function : AggregateFunction)
    (ha : Option.Rel Expr.Unwraps argument argument') :
    nameOf expr function argument = nameOf expr' function argument' := by
  cases h with
  | named name _ =>
    cases name with
    | none => exact defaultName_eq function ha
    | some name => rfl
  | root hn h =>
    cases h with
    | named | taken => exact absurd rfl (hn _ _)
    | literal | attr | unary | binary | call => exact defaultName_eq function ha

theorem ofExpr_eq (expr : Expr) :
    ofExpr expr =
      match expr.unnamed with
      | .call functionName args =>
        match AggregateFunction.find? functionName with
        | none => .error (.unknownFunction functionName)
        | some function => do
          let argument ← argumentOf function args
          let name ← nameOf expr function argument
          return ⟨function, argument, name⟩
      | _ => .error .notAnAggregate := by
  cases expr with
  | named inner name => cases name <;> rfl
  | literal | attr | unary | binary | call => rfl

theorem contribution_same {function : AggregateFunction} {name : String}
    (ha : Option.Rel Expr.Unwraps argument argument') :
    Same ⟨function, argument, name⟩ ⟨function, argument', name⟩ := by
  refine ⟨rfl, rfl, fun scope => ?_⟩
  cases ha with
  | none => rfl
  | some h => exact h.eval_eq scope

theorem ofExpr_matches (h : expr.UnwrapsBelow expr') :
    Matches Same (ofExpr expr) (ofExpr expr') := by
  have hn := expr.unnamed_ne_named
  have hu := h.unwraps.unnamed
  rw [ofExpr_eq, ofExpr_eq]
  generalize expr.unnamed = u at hn hu
  generalize expr'.unnamed = u' at hu
  cases hu with
  | named | taken => exact absurd rfl (hn _ _)
  | literal | attr | unary | binary => exact .error _
  | call functionName hargs =>
    dsimp only
    cases AggregateFunction.find? functionName with
    | none => exact .error _
    | some function =>
      refine (argumentOf_matches function hargs).bind fun argument argument' ha => ?_
      rw [nameOf_eq h function ha]
      cases nameOf expr' function argument' with
      | error e => exact .error e
      | ok name => exact .ok (contribution_same ha)

end AggregateColumn

-- ---------------------------------------------------------------------------
-- Operators
-- ---------------------------------------------------------------------------

namespace Groups

variable {columns columns' : List AggregateColumn}

theorem start_eq (h : Forall₂ AggregateColumn.Same columns columns') :
    start columns = start columns' :=
  map_congr_forall₂ (h.imp fun _ _ hc => congrArg Accumulator.start hc.function)

theorem updateAll_eq (h : Forall₂ AggregateColumn.Same columns columns') (scope : Scope)
    (accs : List Accumulator) : updateAll scope columns accs = updateAll scope columns' accs := by
  induction h generalizing accs with
  | nil => rfl
  | cons hc _ ih =>
    cases accs with
    | nil => rfl
    | cons acc accs => rw [updateAll, updateAll, hc.contribution, ih]

theorem insertRow_eq (h : Forall₂ AggregateColumn.Same columns columns') (key : Row) (scope : Scope)
    (groups : Groups) : insertRow columns key scope groups = insertRow columns' key scope groups := by
  induction groups with
  | nil => rw [insertRow, insertRow, updateAll_eq h, start_eq h]
  | cons group groups ih => rw [insertRow, insertRow, updateAll_eq h, ih]

end Groups

theorem ProjectItem.Unwraps.expand_matches {item item' : ProjectItem} (h : item.Unwraps item')
    (db : Database) :
    Matches (Forall₂ Expr.UnwrapsBelow) (item.expand db) (item'.expand db) := by
  cases h with
  | expr h => exact .ok (.cons h .nil)
  | schema h =>
    rw [expand, expand, h.eval_eq db]
    refine (Matches.refl _).bind (q := Forall₂ Expr.UnwrapsBelow) fun names names' hn => ?_
    subst hn
    exact .ok (Expr.UnwrapsBelow.attrs names)

theorem expandItems_matches {items items' : List ProjectItem}
    (h : Forall₂ ProjectItem.Unwraps items items') (db : Database) :
    Matches (Forall₂ Expr.UnwrapsBelow) (expandItems db items) (expandItems db items') := by
  have hm : Matches (Forall₂ (Forall₂ Expr.UnwrapsBelow)) (items.mapM (ProjectItem.expand db))
      (items'.mapM (ProjectItem.expand db)) :=
    Matches.mapM (fun _ _ hi => hi.expand_matches db) h
  exact hm.bind fun _ _ hexprs => .ok (List.rel_flatten hexprs)

namespace Relation

theorem select_unwraps {condition condition' : Expr} (h : condition.Unwraps condition')
    (r : Relation) : r.select condition = r.select condition' := by
  simp only [select, h.holds_eq]

theorem project_unwraps {items items' : List Expr} (h : Forall₂ Expr.UnwrapsBelow items items')
    (r : Relation) : r.project items = r.project items' := by
  simp only [project, Expr.UnwrapsBelow.columnNames_eq h, Expr.UnwrapsBelow.evalAll_eq h]

theorem join_unwraps {condition condition' : Option Expr}
    (h : Option.Rel Expr.Unwraps condition condition') (kind : JoinKind) (left right : Relation) :
    left.join kind condition right = left.join kind condition' right := by
  cases h with
  | none => rfl
  | @some condition condition' h =>
    have hmeets : left.meets right (some condition) = left.meets right (some condition') :=
      funext fun pair => h.holds_eq _
    simp only [join, joinRows_eq, hmeets]

theorem ofExprs_unwraps {rows rows' : List (List Expr)}
    (h : Forall₂ (Forall₂ Expr.Unwraps) rows rows') : ofExprs rows = ofExprs rows' := by
  unfold ofExprs
  refine foldlM_congr_forall₂ (h.imp fun cells cells' hcells r => ?_) Relation.empty
  rw [Expr.Unwraps.evalAll_eq [] hcells]

theorem group_unwraps {keys keys' : List Expr} {columns columns' : List AggregateColumn}
    (hk : Forall₂ Expr.UnwrapsBelow keys keys')
    (hc : Forall₂ AggregateColumn.Same columns columns') (r : Relation) :
    r.group keys columns = r.group keys' columns' := by
  have hnames : columns.map (fun column => some column.name) =
      columns'.map (fun column => some column.name) :=
    map_congr_forall₂ (hc.imp fun _ _ h => congrArg some h.name)
  have hrow : r.groupRow keys columns = r.groupRow keys' columns' := by
    funext groups t
    simp only [groupRow, Expr.UnwrapsBelow.evalAll_eq hk, Groups.insertRow_eq hc]
  have hempty : keys.isEmpty = keys'.isEmpty := by
    cases hk <;> rfl
  simp only [group, Expr.UnwrapsBelow.columnNames_eq hk, hnames, hrow, hempty, Groups.start_eq hc]

end Relation

-- ---------------------------------------------------------------------------
-- Queries
-- ---------------------------------------------------------------------------

/-- Wrappers have no say in the outcome, not even in which operator is over the row limit. -/
theorem eval_of_unwraps {query query' : Query} (h : query.Unwraps query') (config : Config)
    (db : Database) : (query'.eval config db).outcome = (query.eval config db).outcome := by
  induction h with
  | relvar name => rfl
  | constant hrows =>
    rw [Query.outcome_constant, Query.outcome_constant, Relation.ofExprs_unwraps hrows]
  | rename renamings _ ih => rw [Query.outcome_rename, Query.outcome_rename, ih]
  | project hitems _ ih =>
    have hp := fun r => (expandItems_matches hitems db).bind_eq fun _ _ hexprs =>
      Relation.project_unwraps hexprs r
    simp only [Query.outcome_project, ih, hp]
  | select hcondition _ ih =>
    simp only [Query.outcome_select, ih, Relation.select_unwraps hcondition]
  | cross _ _ ihl ihr => rw [Query.outcome_cross, Query.outcome_cross, ihl, ihr]
  | setOp op _ _ ihl ihr => rw [Query.outcome_setOp, Query.outcome_setOp, ihl, ihr]
  | join kind hcondition _ _ ihl ihr =>
    simp only [Query.outcome_join, ihl, ihr, Relation.join_unwraps hcondition]
  | divide _ _ ihl ihr => rw [Query.outcome_divide, Query.outcome_divide, ihl, ihr]
  | group hkeys haggregates _ ih =>
    have hc := Matches.mapM (fun _ _ ha => AggregateColumn.ofExpr_matches ha) haggregates
    rw [Query.outcome_group, Query.outcome_group, ih]
    refine congrArg _ (Eq.symm (hc.bind_eq fun columns columns' hcolumns => ?_))
    simp only [Relation.group_unwraps hkeys hcolumns]
  | parens _ ih => rw [Query.outcome_parens, Query.outcome_parens, ih]
  | taken _ ih =>
    rw [Query.outcome_parens, ih, Query.outcome_eval, Config.limited_limited]

/-- Names and parentheses at all places from which they can be taken. -/
def Query.wrapped : Query :=
  .parens (.group [.called (.not (.called (.attr "x") "given")) "key"]
    [.call "count" [.called (.attr "y") "given"]]
    (.project [.expr (.attr "x"), .schema (.parens (.name "key"))] (.parens (.relvar "R"))))

theorem eval_of_unwraps_wrapped :
    let query : Query := .group [.called (.not (.attr "x")) "key"] [.call "count" [.attr "y"]]
      (.project [.expr (.attr "x"), .schema (.name "key")] (.relvar "R"))
    let db := Database.ofPairs (.ofList [[.boolean true, .null], [.boolean true, .boolean false]])
    Query.wrapped.Unwraps query ∧
      (Query.wrapped.eval {} db).outcome = .ok
        ⟨[some "key", some "count(y)"], .ofList [[.boolean false, .number .one]]⟩ ∧
      (query.eval {} db).outcome = (Query.wrapped.eval {} db).outcome := by
  intro query db
  have hkey : (Expr.called (.not (.called (.attr "x") "given")) "key").UnwrapsBelow
      (.called (.not (.attr "x")) "key") :=
    .named _ (.root nofun (.unary _ (.taken _ (.attr "x"))))
  have hcount : (Expr.call "count" [.called (.attr "y") "given"]).UnwrapsBelow
      (.call "count" [.attr "y"]) :=
    .root nofun (.call _ (.cons (.taken _ (.attr "y")) .nil))
  have hinput : (Query.project [.expr (.attr "x"), .schema (.parens (.name "key"))]
      (.parens (.relvar "R"))).Unwraps
      (.project [.expr (.attr "x"), .schema (.name "key")] (.relvar "R")) :=
    .project (.cons (.expr (.root nofun (.attr "x"))) (.cons (.schema (.taken (.name "key"))) .nil))
      (.taken (.relvar "R"))
  have h : Query.wrapped.Unwraps query :=
    .taken (.group (.cons hkey .nil) (.cons hcount .nil) hinput)
  have hcolumn : AggregateColumn.ofExpr (.call "count" [.called (.attr "y") "given"]) =
      .ok ⟨.count, some (.called (.attr "y") "given"), "count(y)"⟩ := by
    have hf : AggregateFunction.find? "count" = some .count := by decide +kernel
    simp only [AggregateColumn.ofExpr, Expr.unnamed, hf]
    rfl
  have hvalue : (Query.wrapped.eval {} db).outcome = .ok
      ⟨[some "key", some "count(y)"], .ofList [[.boolean false, .number .one]]⟩ := by
    rw [Query.wrapped, Query.outcome_parens, Query.outcome_group, List.mapM_cons, hcolumn]
    rfl
  exact ⟨h, hvalue, eval_of_unwraps h {} db⟩

end Relational
