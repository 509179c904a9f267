import Mathlib.Data.List.Forall2
import Relational.Proofs.Operands

/-!
# The log of an evaluation

The evaluation of a query that has a value reports the value of each node, in
post-order, and tracing decides at which level it does (`eval_log`). An evaluation
that fails reports the values of the nodes that were complete when the error came
up, and then the error, once for each node that it has come out of. A node whose own
result is over the row limit does not report that, but the nodes around it do
(`log_of_failure`).
-/

namespace Relational

section

variable (config : Config) (db : Database)

def Record.ReportsValue (node : Query) (record : Record) : Prop :=
  ∃ r, (node.eval config db).outcome = .ok r ∧
    record.level = (if config.traceOperators then .debug else .trace) ∧
    record.event.text = s!"{node.operator.name} produced {r.size} rows over {r.arity} attributes"

def Record.ReportsFailure (e : EvalError) (node : Query) (record : Record) : Prop :=
  (node.eval config db).outcome = .error e ∧ record.level = .debug ∧
    record.event.text = s!"{node.operator.name} failed: {e.message}"

end

-- ---------------------------------------------------------------------------
-- Values
-- ---------------------------------------------------------------------------

theorem forall₂_flatMap {α β γ : Type} {R : β → γ → Prop} {f : α → List β} {g : α → List γ}
    {l : List α} (h : ∀ a ∈ l, List.Forall₂ R (f a) (g a)) :
    List.Forall₂ R (l.flatMap f) (l.flatMap g) := by
  induction l with
  | nil => exact .nil
  | cons a l ih =>
    obtain ⟨ha, hl⟩ := List.forall_mem_cons.1 h
    exact List.rel_append ha (ih hl)

section

variable {config : Config} {db : Database} {query : Query}

theorem Query.log_of_value {r : Relation} (h : (query.eval config db).outcome = .ok r) :
    List.Forall₂ (Record.ReportsValue config db) query.postorder (query.eval config db).log := by
  induction query using induction_on_operands generalizing r with
  | step query ih =>
    obtain ⟨evaluated, happlies, hlog⟩ := query.eval_evaluates config db
    obtain ⟨hr, hl⟩ := Config.limited_eq_ok_iff.1 (query.outcome_eval config db ▸ h)
    rw [hr] at happlies hlog
    cases happlies with
    | applied hs =>
      rw [postorder_eq, hlog, Config.ending, hl]
      refine List.rel_append (forall₂_flatMap fun operand ho => ?_) (.cons ⟨r, h, rfl, rfl⟩ .nil)
      obtain ⟨v, hv⟩ := hs operand ho
      exact ih operand ho hv

theorem Query.log_of_values {nodes : List Query} (h : ∀ node ∈ nodes, node.Succeeds config db) :
    List.Forall₂ (Record.ReportsValue config db) (nodes.flatMap postorder)
      (nodes.flatMap fun node => (node.eval config db).log) := by
  refine forall₂_flatMap fun node hn => ?_
  obtain ⟨v, hv⟩ := h node hn
  exact log_of_value hv

end

-- ---------------------------------------------------------------------------
-- Tracing
-- ---------------------------------------------------------------------------

def Config.tracing (config : Config) (trace : Bool) : Config :=
  { config with traceOperators := trace }

def Record.traced (trace : Bool) (record : Record) : Record :=
  match record.event with
  | .produced .. => { record with level := if trace then .debug else .trace }
  | _ => record

theorem Record.event_traced (trace : Bool) (record : Record) :
    (record.traced trace).event = record.event := by
  unfold traced
  split <;> rfl

namespace Logged

variable {α β : Type}

def mapLog (f : Record → Record) (x : Logged α) : Logged α := ⟨x.log.map f, x.outcome⟩

theorem mapLog_bind (f : Record → Record) (x : Logged α) (g : α → Logged β) :
    (x >>= g).mapLog f = x.mapLog f >>= fun a => (g a).mapLog f := by
  cases h : x.outcome with
  | ok a =>
    have h' : (x.mapLog f).outcome = .ok a := h
    rw [bind_of_ok h, bind_of_ok h']
    simp [mapLog]
  | error e =>
    have h' : (x.mapLog f).outcome = .error e := h
    rw [bind_of_error h, bind_of_error h']
    rfl

end Logged

theorem Config.settle_tracing (config : Config) (trace : Bool) (operator : Operator)
    (x : Logged Relation) :
    (config.tracing trace).settle operator (x.mapLog (Record.traced trace)) =
      (config.settle operator x).mapLog (Record.traced trace) := by
  cases h : x.outcome with
  | error e =>
    have h' : (x.mapLog (Record.traced trace)).outcome = .error e := h
    rw [settle_of_error h, settle_of_error h']
    simp [Logged.mapLog, Record.traced]
  | ok r =>
    have h' : (x.mapLog (Record.traced trace)).outcome = .ok r := h
    cases hl : config.checkLimit operator r with
    | error e =>
      have hl' : (config.tracing trace).checkLimit operator r = .error e := hl
      rw [settle_of_limit h hl, settle_of_limit h' hl']
      rfl
    | ok _ =>
      have hl' : (config.tracing trace).checkLimit operator r = .ok () := hl
      rw [settle_of_ok h hl, settle_of_ok h' hl']
      simp only [Logged.mapLog, List.map_append]
      rfl

/-- Tracing has no part in an evaluation other than the level of the results' records. -/
theorem Query.eval_tracing (config : Config) (db : Database) (trace : Bool) (query : Query) :
    query.eval (config.tracing trace) db = (query.eval config db).mapLog (Record.traced trace) := by
  induction query with
  | relvar name => exact config.settle_tracing trace .relvar (.lift _)
  | constant rows => exact config.settle_tracing trace .constant (.lift _)
  | rename _ _ ih | project _ _ ih | select _ _ ih | group _ _ _ ih =>
    rw [eval, eval, ih, ← Config.settle_tracing]
    simp only [Logged.mapLog_bind]
    rfl
  | cross _ _ ihl ihr | setOp _ _ _ ihl ihr | join _ _ _ _ ihl ihr | divide _ _ ihl ihr =>
    rw [eval, eval, ihl, ihr, ← Config.settle_tracing]
    simp only [Logged.mapLog_bind]
    rfl
  | parens inner ih => rw [eval, eval, ih, ← Config.settle_tracing, operator]

/-- The log of a value has one record for each node of the query, in post-order. With
tracing switched on or off the outcome, the events and their order are the same, and
only the records of results change their level. -/
theorem eval_log (config : Config) (db : Database) (query : Query) :
    (∀ r, (query.eval config db).outcome = .ok r →
      List.Forall₂ (Record.ReportsValue config db) query.postorder (query.eval config db).log) ∧
    ∀ trace, (query.eval (config.tracing trace) db).outcome = (query.eval config db).outcome ∧
      (query.eval (config.tracing trace) db).log.map Record.event =
        (query.eval config db).log.map Record.event ∧
      (query.eval (config.tracing trace) db).log =
        (query.eval config db).log.map (Record.traced trace) := by
  refine ⟨fun r h => Query.log_of_value h, fun trace => ?_⟩
  rw [query.eval_tracing config db trace]
  refine ⟨rfl, ?_, rfl⟩
  simp [Logged.mapLog, Function.comp_def, Record.event_traced]

theorem eval_log_cross :
    ((Query.parens (.cross (.constant [[.boolean true]]) (.constant [[.null], [.null]]))).eval
      { traceOperators := true } .empty).outcome =
        .ok ⟨[none, none], .ofList [[.boolean true, .null]]⟩ ∧
    List.Forall₂ (Record.ReportsValue { traceOperators := true } .empty)
      [.constant [[.boolean true]], .constant [[.null], [.null]],
        .cross (.constant [[.boolean true]]) (.constant [[.null], [.null]]),
        .parens (.cross (.constant [[.boolean true]]) (.constant [[.null], [.null]]))]
      [⟨.debug, .produced .constant 1 1⟩, ⟨.debug, .produced .constant 1 1⟩,
        ⟨.debug, .produced .cross 1 2⟩, ⟨.debug, .produced .parens 1 2⟩] := by
  have h : ((Query.parens (.cross (.constant [[.boolean true]])
      (.constant [[.null], [.null]]))).eval { traceOperators := true } .empty).outcome =
        .ok ⟨[none, none], .ofList [[.boolean true, .null]]⟩ := by rfl
  exact ⟨h, (eval_log _ _ _).1 _ h⟩

-- ---------------------------------------------------------------------------
-- Failures
-- ---------------------------------------------------------------------------

namespace Query

section

variable (config : Config) (db : Database) (e : EvalError)

/-- Where in a query an error comes up: the nodes with values that are complete by then, in
post-order, the node that raises the error, and the nodes around that one, the innermost
first. -/
inductive FailsAt : Query → List Query → Query → List Query → Prop
  | raised {query} : (∀ operand ∈ query.operands, operand.Succeeds config db) →
      (query.eval config db).outcome = .error e →
      FailsAt query (query.operands.flatMap postorder) query []
  /-- Its aggregates are refused, and its operand is left alone. -/
  | unread {keys aggregates input} : aggregates.mapM AggregateColumn.ofExpr = .error e →
      FailsAt (group keys aggregates input) [] (group keys aggregates input) []
  | within {query before operand after completed raiser ancestors} :
      query.operands = before ++ operand :: after →
      (∀ earlier ∈ before, earlier.Succeeds config db) →
      FailsAt operand completed raiser ancestors →
      FailsAt query (before.flatMap postorder ++ completed) raiser (ancestors ++ [query])

/-- The operator has a result, which has too many rows. -/
def ExceedsLimit (query : Query) : Prop :=
  ∃ r limit, query.operation config db = .ok r ∧ config.maxRows = some limit ∧ limit < r.size ∧
    e = .rowLimitExceeded query.operator limit

/-- The log of a failure: the values that were complete when the error came up, and then the
failures of the node that raised it and of the nodes around that one. A result over the row
limit is no failure of its own node. -/
def FailureLog (query : Query) (log : List Record) : Prop :=
  ∃ completed raiser ancestors failing values failures,
    query.FailsAt config db e completed raiser ancestors ∧ completed <+: query.postorder ∧
    (raiser.operation config db = .error e ∧ failing = raiser :: ancestors ∨
      raiser.ExceedsLimit config db e ∧ failing = ancestors) ∧
    List.Forall₂ (Record.ReportsValue config db) completed values ∧
    List.Forall₂ (Record.ReportsFailure config db e) failing failures ∧
    log = values ++ failures

end

variable {config : Config} {db : Database} {e : EvalError} {query : Query}

theorem FailsAt.completed_prefix {completed ancestors : List Query} {raiser : Query}
    (h : query.FailsAt config db e completed raiser ancestors) :
    completed <+: query.postorder := by
  induction h with
  | raised _ _ =>
    rw [postorder_eq]
    exact List.prefix_append ..
  | unread _ => exact List.nil_prefix
  | @within query before operand after completed raiser ancestors ho _ _ ih =>
    rw [postorder_eq, ho, List.flatMap_append, List.flatMap_cons]
    obtain ⟨rest, hrest⟩ := ih
    exact ⟨rest ++ after.flatMap postorder ++ [query], by simp [← hrest]⟩

theorem exceedsLimit_of_operation {r : Relation} (h : (query.eval config db).outcome = .error e)
    (hr : query.operation config db = .ok r) : query.ExceedsLimit config db e := by
  rw [outcome_eval, hr, Config.limited] at h
  simp only [bind, Except.bind, pure, Except.pure, Config.checkLimit] at h
  cases hm : config.maxRows with
  | none => simp [hm] at h
  | some limit =>
    by_cases hlt : limit < r.size
    · exact ⟨r, limit, hr, hm, hlt, by simpa [hm, hlt, eq_comm] using h⟩
    · simp [hm, hlt] at h

theorem outcome_of_operation (h : query.operation config db = .error e) :
    (query.eval config db).outcome = .error e := by
  rw [outcome_eval, h]
  rfl

theorem reportsFailure (h : (query.eval config db).outcome = .error e) :
    Record.ReportsFailure config db e query ⟨.debug, .failed query.operator e⟩ := ⟨h, rfl, rfl⟩

namespace FailureLog

theorem of_operation {evaluated : List Query} (h : (query.eval config db).outcome = .error e)
    (hr : query.operation config db = .error e)
    (hat : query.FailsAt config db e (evaluated.flatMap postorder) query [])
    (hs : ∀ operand ∈ evaluated, operand.Succeeds config db) :
    query.FailureLog config db e (evaluated.flatMap (fun operand => (operand.eval config db).log) ++
      [⟨.debug, .failed query.operator e⟩]) :=
  ⟨_, query, [], [query], _, _, hat, hat.completed_prefix, .inl ⟨hr, rfl⟩, log_of_values hs,
    .cons (reportsFailure h) .nil, rfl⟩

theorem of_limit (h : (query.eval config db).outcome = .error e)
    (hl : query.ExceedsLimit config db e)
    (hs : ∀ operand ∈ query.operands, operand.Succeeds config db) :
    query.FailureLog config db e
      (query.operands.flatMap fun operand => (operand.eval config db).log) := by
  have hat := FailsAt.raised hs h
  exact ⟨_, query, [], [], _, [], hat, hat.completed_prefix, .inr ⟨hl, rfl⟩, log_of_values hs,
    .nil, (List.append_nil _).symm⟩

theorem within {before after : List Query} {operand : Query} {log : List Record}
    (h : (query.eval config db).outcome = .error e)
    (ho : query.operands = before ++ operand :: after)
    (hs : ∀ earlier ∈ before, earlier.Succeeds config db)
    (hf : operand.FailureLog config db e log) :
    query.FailureLog config db e (before.flatMap (fun earlier => (earlier.eval config db).log) ++
      log ++ [⟨.debug, .failed query.operator e⟩]) := by
  obtain ⟨completed, raiser, ancestors, failing, values, failures, hat, -, hraised, hv, hf, rfl⟩ :=
    hf
  have hat := FailsAt.within ho hs hat
  refine ⟨_, raiser, _, failing ++ [query], _, failures ++ [_], hat, hat.completed_prefix, ?_,
    List.rel_append (log_of_values hs) hv, List.rel_append hf (.cons (reportsFailure h) .nil), ?_⟩
  · rcases hraised with ⟨hr, rfl⟩ | ⟨hl, rfl⟩
    · exact .inl ⟨hr, rfl⟩
    · exact .inr ⟨hl, rfl⟩
  · simp

end FailureLog

end Query

/-- When an evaluation fails, its log ends with the failures of the nodes from the one that
raised the error out to the query, and before them are the values that were complete. The
node that raised it is left out if it did so for the size of its own result. -/
theorem log_of_failure {config : Config} {db : Database} {query : Query} {e : EvalError}
    (h : (query.eval config db).outcome = .error e) :
    query.FailureLog config db e (query.eval config db).log := by
  induction query using Query.induction_on_operands with
  | step query ih =>
    obtain ⟨evaluated, happlies, hlog⟩ := query.eval_evaluates config db
    cases hr : query.operation config db with
    | ok r =>
      obtain ⟨r', limit, hr', hm, hlt, rfl⟩ := Query.exceedsLimit_of_operation h hr
      obtain rfl := Except.ok.inj (hr.symm.trans hr')
      rw [hr] at happlies hlog
      cases happlies with
      | applied hs =>
        rw [hlog, Config.ending, Config.checkLimit, hm]
        simpa [hlt] using Query.FailureLog.of_limit h ⟨r, limit, hr, hm, hlt, rfl⟩ hs
    | error e' =>
      obtain rfl : e' = e := Except.error.inj ((Query.outcome_of_operation hr).symm.trans h)
      rw [hr] at happlies hlog
      rw [hlog, Config.ending]
      cases happlies with
      | applied hs => exact .of_operation h hr (.raised hs h) hs
      | unread hc => exact .of_operation h hr (.unread hc) (List.forall_mem_nil _)
      | passed ho hs he =>
        rw [List.flatMap_append, List.flatMap_singleton]
        exact .within h ho hs (ih _ (by simp [ho]) he)

theorem log_of_failure_cross :
    ((Query.cross (.constant [[.boolean true]]) (.select (.attr "x") (.constant [[.null]]))).eval
      {} .empty).outcome = .error (.unknownAttribute "x") ∧
    (Query.cross (.constant [[.boolean true]]) (.select (.attr "x") (.constant [[.null]]))).FailureLog
      {} .empty (.unknownAttribute "x")
      [⟨.trace, .produced .constant 1 1⟩, ⟨.trace, .produced .constant 1 1⟩,
        ⟨.debug, .failed .select (.unknownAttribute "x")⟩,
        ⟨.debug, .failed .cross (.unknownAttribute "x")⟩] := by
  have h : ((Query.cross (.constant [[.boolean true]])
      (.select (.attr "x") (.constant [[.null]]))).eval {} .empty).outcome =
        .error (.unknownAttribute "x") := by rfl
  exact ⟨h, log_of_failure h⟩

/-- A relation that is written out with more rows than the limit allows is refused, and no
record says so. -/
theorem log_of_written_out_over_limit :
    ((Query.constant [[.boolean true], [.boolean false]]).eval { maxRows := some 1 }
      .empty).outcome = .error (.rowLimitExceeded .constant 1) ∧
    ((Query.constant [[.boolean true], [.boolean false]]).eval { maxRows := some 1 }
      .empty).log = [] := by
  exact ⟨rfl, rfl⟩

end Relational
