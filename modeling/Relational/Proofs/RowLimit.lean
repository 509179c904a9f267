import Relational.Proofs.Outcome

/-!
# The row limit

Evaluation under a row limit is evaluation without one, cut off at the first
result that is too large (`cut`). What evaluation without a limit completes can
be read off the query (`Query.completions`) and off the records. The cut goes
with the steps of a computation, so one induction on the query proves it.
-/

namespace Relational

-- ---------------------------------------------------------------------------
-- Completed results
-- ---------------------------------------------------------------------------

abbrev Completion := Operator × Nat

def Event.completion? : Event → Option Completion
  | produced operator rows _ => some (operator, rows)
  | _ => none

def onSuccess {α β : Type} (x : Except EvalError α) (l : List β) : List β :=
  match x with
  | .ok _ => l
  | .error _ => []

def completion (operator : Operator) : Except EvalError Relation → List Completion
  | .ok r => [(operator, r.size)]
  | .error _ => []

namespace Config

def unlimited (config : Config) : Config := { config with maxRows := none }

def limitedTo (config : Config) (limit : Nat) : Config := { config with maxRows := some limit }

theorem checkLimit_unlimited (config : Config) (operator : Operator) (r : Relation) :
    config.unlimited.checkLimit operator r = .ok () := rfl

theorem checkLimit_limitedTo (config : Config) (limit : Nat) (operator : Operator) (r : Relation) :
    (config.limitedTo limit).checkLimit operator r =
      if limit < r.size then .error (.rowLimitExceeded operator limit) else .ok () := rfl

end Config

/-- The results that evaluation without a limit completes, in the order in which
it does: those of the operands, from the left up to the first that fails, and
then its own. -/
def Query.completions (config : Config) (db : Database) (query : Query) : List Completion :=
  let ofOperands :=
    match query with
    | .relvar _ | .constant _ => []
    | .rename _ input | .project _ input | .select _ input | .parens input =>
      input.completions config db
    | .cross left right | .setOp _ left right | .join _ _ left right | .divide left right =>
      left.completions config db ++
        onSuccess (left.eval config.unlimited db).outcome (right.completions config db)
    | .group _ aggregates input =>
      onSuccess (aggregates.mapM AggregateColumn.ofExpr) (input.completions config db)
  ofOperands ++ completion query.operator (query.eval config.unlimited db).outcome

namespace Logged

variable {α β : Type}

def completed (x : Logged α) : List Completion := x.log.filterMap (·.event.completion?)

theorem completed_lift (outcome : Except EvalError α) : (lift outcome).completed = [] := rfl

theorem completed_bind_of_ok {x : Logged α} {a : α} (h : x.outcome = .ok a) (f : α → Logged β) :
    (x >>= f).completed = x.completed ++ (f a).completed := by
  rw [bind_of_ok h, completed, List.filterMap_append]
  rfl

theorem completed_bind_of_error {x : Logged α} {e : EvalError} (h : x.outcome = .error e)
    (f : α → Logged β) : (x >>= f).completed = x.completed := by
  rw [bind_of_error h]
  rfl

theorem completed_bind_lift (x : Logged α) (f : α → Except EvalError β) :
    (x >>= fun a => lift (f a)).completed = x.completed := by
  cases h : x.outcome with
  | ok a => rw [completed_bind_of_ok h, completed_lift, List.append_nil]
  | error e => rw [completed_bind_of_error h]

theorem completed_bind_of_forall {x : Logged α} {f : α → Logged β} {l : List Completion}
    (hf : ∀ a, (f a).completed = l) :
    (x >>= f).completed = x.completed ++ onSuccess x.outcome l := by
  cases h : x.outcome with
  | ok a => rw [completed_bind_of_ok h, hf, onSuccess]
  | error e => rw [completed_bind_of_error h, onSuccess, List.append_nil]

theorem completed_settle (config : Config) (operator : Operator) (x : Logged Relation) :
    (config.unlimited.settle operator x).completed =
      x.completed ++ completion operator (config.unlimited.settle operator x).outcome := by
  cases h : x.outcome with
  | ok r =>
    rw [Config.settle_of_ok h (config.checkLimit_unlimited operator r), completed,
      List.filterMap_append]
    rfl
  | error e =>
    rw [Config.settle_of_error h, completed, List.filterMap_append]
    rfl

end Logged

namespace Query

open Logged

theorem completed_eval (config : Config) (db : Database) (query : Query) :
    (query.eval config.unlimited db).completed = query.completions config db := by
  induction query with
  | relvar name => rw [eval, completed_settle]; rfl
  | constant rows => rw [eval, completed_settle]; rfl
  | rename renamings input ih =>
    rw [completions, ← ih, eval, completed_settle, completed_bind_lift]
  | project items input ih =>
    rw [completions, ← ih, eval, completed_settle, completed_bind_lift]
  | select condition input ih =>
    rw [completions, ← ih, eval, completed_settle, completed_bind_lift]
  | cross left right ihl ihr =>
    rw [completions, ← ihl, ← ihr, eval, completed_settle,
      completed_bind_of_forall fun l => completed_bind_lift ..]
  | setOp op left right ihl ihr =>
    rw [completions, ← ihl, ← ihr, eval, completed_settle,
      completed_bind_of_forall fun l => completed_bind_lift ..]
  | join kind condition left right ihl ihr =>
    rw [completions, ← ihl, ← ihr, eval, completed_settle,
      completed_bind_of_forall fun l => completed_bind_lift ..]
  | divide left right ihl ihr =>
    rw [completions, ← ihl, ← ihr, eval, completed_settle,
      completed_bind_of_forall fun l => completed_bind_lift ..]
  | group keys aggregates input ih =>
    rw [completions, ← ih, eval, completed_settle,
      completed_bind_of_forall fun columns => completed_bind_lift ..]
    rfl
  | parens inner ih => rw [completions, ← ih, eval, completed_settle]

end Query

-- ---------------------------------------------------------------------------
-- The cut
-- ---------------------------------------------------------------------------

/-- An outcome, or else the first of the completed results that is too large. -/
def cut {α : Type} (limit : Nat) (completed : List Completion) (outcome : Except EvalError α) :
    Except EvalError α :=
  match completed.find? (limit < ·.2) with
  | some (operator, _) => .error (.rowLimitExceeded operator limit)
  | none => outcome

section

variable {α β : Type} {limit : Nat}

theorem cut_append (l l' : List Completion) (outcome : Except EvalError α) :
    cut limit (l ++ l') outcome = cut limit l (cut limit l' outcome) := by
  unfold cut
  rw [List.find?_append]
  cases l.find? (limit < ·.2) <;> rfl

theorem cut_bind (l : List Completion) (outcome : Except EvalError α) (f : α → Except EvalError β) :
    cut limit l outcome >>= f = cut limit l (outcome >>= f) := by
  unfold cut
  split <;> rfl

theorem cut_eq_ok_iff {l : List Completion} {outcome : Except EvalError α} {a : α} :
    cut limit l outcome = .ok a ↔ (∀ completion ∈ l, completion.2 ≤ limit) ∧ outcome = .ok a := by
  unfold cut
  split
  · rename_i h
    have hm := List.mem_of_find?_eq_some h
    have hl := List.find?_some h
    simp only [decide_eq_true_eq] at hl
    simp only [reduceCtorEq, false_iff, not_and]
    exact fun hall => absurd (hall _ hm) (Nat.not_le.2 hl)
  · rename_i h
    simp only [List.find?_eq_none, decide_eq_true_eq, Nat.not_lt] at h
    exact ⟨fun ho => ⟨h, ho⟩, And.right⟩

def Cuts (limit : Nat) (x y : Logged α) : Prop := y.outcome = cut limit x.completed x.outcome

theorem Cuts.lift (outcome : Except EvalError α) : Cuts limit (.lift outcome) (.lift outcome) := rfl

/-- The second step of a computation is not reached after a cut in the first, nor
after a failure of it. -/
theorem Cuts.bind {x y : Logged α} {f g : α → Logged β} (hx : Cuts limit x y)
    (hf : ∀ a, Cuts limit (f a) (g a)) : Cuts limit (x >>= f) (y >>= g) := by
  unfold Cuts at hx hf ⊢
  rw [Logged.outcome_bind, Logged.outcome_bind, hx, cut_bind]
  cases h : x.outcome with
  | ok a =>
    rw [Logged.completed_bind_of_ok h, cut_append]
    exact congrArg (cut limit x.completed) (hf a)
  | error e =>
    rw [Logged.completed_bind_of_error h]
    rfl

theorem Config.limited_unlimited (config : Config) (operator : Operator)
    (result : Except EvalError Relation) : config.unlimited.limited operator result = result := by
  cases result <;> rfl

theorem Config.limited_limitedTo (config : Config) (operator : Operator)
    (result : Except EvalError Relation) :
    (config.limitedTo limit).limited operator result =
      cut limit (completion operator result) result := by
  cases result with
  | error e => rfl
  | ok r =>
    unfold cut
    by_cases h : limit < r.size <;>
      simp [limited, completion, h, checkLimit_limitedTo, bind, Except.bind, pure, Except.pure]

theorem Cuts.settle {x y : Logged Relation} (hx : Cuts limit x y) (config : Config)
    (operator : Operator) :
    Cuts limit (config.unlimited.settle operator x) ((config.limitedTo limit).settle operator y) := by
  unfold Cuts at hx ⊢
  rw [Logged.completed_settle, Config.outcome_settle, Config.outcome_settle, hx, cut_append,
    Config.limited_unlimited, ← Config.limited_limitedTo config, Config.limited, Config.limited,
    cut_bind]

end

theorem Query.eval_cuts (config : Config) (db : Database) (limit : Nat) (query : Query) :
    Cuts limit (query.eval config.unlimited db) (query.eval (config.limitedTo limit) db) := by
  induction query with
  | relvar name => exact .settle (.lift _) ..
  | constant rows => exact .settle (.lift _) ..
  | rename renamings input ih => exact .settle (.bind ih fun r => .lift _) ..
  | project items input ih => exact .settle (.bind ih fun r => .lift _) ..
  | select condition input ih => exact .settle (.bind ih fun r => .lift _) ..
  | cross left right ihl ihr => exact .settle (.bind ihl fun l => .bind ihr fun r => .lift _) ..
  | setOp op left right ihl ihr => exact .settle (.bind ihl fun l => .bind ihr fun r => .lift _) ..
  | join kind condition left right ihl ihr =>
    exact .settle (.bind ihl fun l => .bind ihr fun r => .lift _) ..
  | divide left right ihl ihr => exact .settle (.bind ihl fun l => .bind ihr fun r => .lift _) ..
  | group keys aggregates input ih =>
    exact .settle (.bind (.lift _) fun columns => .bind ih fun r => .lift _) ..
  | parens inner ih => exact .settle ih ..

/-- The row limit cuts evaluation off at the first completed result that is over it
and changes nothing else, so that a value under a limit is the value under each
larger one and under none. -/
theorem eval_limitedTo (config : Config) (db : Database) (query : Query) (limit : Nat) :
    (query.eval config.unlimited db).completed = query.completions config db ∧
    (query.eval (config.limitedTo limit) db).outcome =
      cut limit (query.completions config db) (query.eval config.unlimited db).outcome ∧
    ∀ r, (query.eval (config.limitedTo limit) db).outcome = .ok r →
      (query.eval config.unlimited db).outcome = .ok r ∧
        ∀ larger ≥ limit, (query.eval (config.limitedTo larger) db).outcome = .ok r := by
  have hc (limit : Nat) : (query.eval (config.limitedTo limit) db).outcome =
      cut limit (query.completions config db) (query.eval config.unlimited db).outcome :=
    query.completed_eval config db ▸ query.eval_cuts config db limit
  refine ⟨query.completed_eval config db, hc limit, fun r h => ?_⟩
  rw [hc, cut_eq_ok_iff] at h
  obtain ⟨hle, ho⟩ := h
  refine ⟨ho, fun larger hl => ?_⟩
  rw [hc, cut_eq_ok_iff]
  exact ⟨fun completion hm => Nat.le_trans (hle completion hm) hl, ho⟩

end Relational
