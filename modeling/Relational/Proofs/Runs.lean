import Relational.Proofs.Execution
import Relational.Proofs.Guarded.Query

/-!
# Runs

What the users of the library can do to relation values, to sessions and to
databases, call after call. A call that fails leaves what there was. What every
call preserves holds after every run, and so every database that can come about
is well formed (`Database.ofCalls_wellFormed`).
-/

namespace Relational

def changed {α : Type} (old : α) : Except EvalError α → α
  | .ok new => new
  | .error _ => old

theorem changed_preserves {α : Type} {p : α → Prop} {old : α} {change : Except EvalError α}
    (hold : p old) (h : ∀ new, change = .ok new → p new) : p (changed old change) := by
  cases change with
  | ok new => exact h new rfl
  | error e => exact hold

theorem foldl_preserves {α β : Type} {p : α → Prop} {step : α → β → α}
    (hstep : ∀ a b, p a → p (step a b)) {a : α} (h : p a) (l : List β) : p (l.foldl step a) := by
  induction l generalizing a with
  | nil => exact h
  | cons b l ih => exact ih (hstep a b h)

-- ---------------------------------------------------------------------------
-- Relation values
-- ---------------------------------------------------------------------------

inductive RelationCall
  | empty
  | withAttributes (attributes : List Attribute)
  | named (names : List String)
  | setAttributes (attributes : List Attribute)
  | setNames (names : List String)
  | addRow (t : Row)
  | qualified (relvar : String)

namespace RelationCall

def outcome (r : Relation) : RelationCall → Except EvalError Relation
  | empty => .ok .empty
  | withAttributes attributes => Relation.withAttributes attributes
  | named names => Relation.named names
  | setAttributes attributes => r.setAttributes attributes
  | setNames names => r.setNames names
  | addRow t => r.addRow t
  | qualified relvar => r.qualified relvar

theorem outcome_wellFormed {r r' : Relation} (hw : r.WellFormed) {call : RelationCall}
    (h : call.outcome r = .ok r') : r'.WellFormed := by
  cases call with
  | empty =>
    obtain rfl := Except.ok.inj h
    exact Relation.wellFormed_of_no_rows []
  | withAttributes attributes => exact Relation.withAttributes_wellFormed h
  | named names => exact Relation.withAttributes_wellFormed h
  | setAttributes attributes => exact Relation.setAttributes_wellFormed hw h
  | setNames names => exact Relation.setAttributes_wellFormed hw h
  | addRow t => exact Relation.addRow_wellFormed hw h
  | qualified relvar => exact Relation.qualified_wellFormed hw h

end RelationCall

def Relation.ofCalls (calls : List RelationCall) : Relation :=
  calls.foldl (fun r call => changed r (call.outcome r)) .empty

theorem Relation.ofCalls_wellFormed (calls : List RelationCall) : (ofCalls calls).WellFormed := by
  refine foldl_preserves ?_ (wellFormed_of_no_rows []) calls
  intro r call hw
  exact changed_preserves hw fun r' h => RelationCall.outcome_wellFormed hw h

-- ---------------------------------------------------------------------------
-- Sessions
-- ---------------------------------------------------------------------------

inductive SessionCall
  | execute (statement : Statement)
  | executeBatch (statements : List Statement)
  | delete (relvar : String)

def SessionCall.statements : SessionCall → List Statement
  | execute statement => [statement]
  | executeBatch statements => statements
  | delete _ => []

def Database.without (db : Database) (relvar : String) : Database :=
  changed db (do return (← db.delete relvar).2)

def SessionCall.apply (config : Config) (db : Database) : SessionCall → Database
  | execute statement => (Relational.execute config db statement).database
  | executeBatch statements => (Relational.executeBatch config db statements).database
  | delete relvar => db.without relvar

theorem Database.without_preserves {p : Database → Prop} {db : Database} {relvar : String}
    (hdb : p db) (h : p { db with relvars := db.relvars.erase relvar }) :
    p (db.without relvar) := by
  refine changed_preserves hdb fun db' h' => ?_
  simp only [delete, bind_eq_ok_iff, pure_eq_ok_iff] at h'
  obtain ⟨_, ⟨r, -, rfl⟩, rfl⟩ := h'
  exact h

theorem SessionCall.apply_preserves_of_statements {p : Database → Prop} {config : Config}
    {call : SessionCall}
    (hexecute : ∀ db, ∀ statement ∈ call.statements, p db →
      p (Relational.execute config db statement).database)
    (herase : ∀ db relvar, p db → p { db with relvars := db.relvars.erase relvar })
    {db : Database} (h : p db) : p (call.apply config db) := by
  cases call with
  | execute statement => exact hexecute db statement (List.mem_singleton_self _) h
  | executeBatch statements =>
    rw [apply, Relational.executeBatch, database_executeFrom]
    exact List.foldlRecOn statements _ h fun db h statement hs => hexecute db statement hs h
  | delete relvar => exact Database.without_preserves h (herase db relvar h)

theorem SessionCall.apply_preserves {p : Database → Prop} {config : Config}
    (hexecute : ∀ db statement, p db → p (Relational.execute config db statement).database)
    (herase : ∀ db relvar, p db → p { db with relvars := db.relvars.erase relvar })
    {db : Database} (h : p db) (call : SessionCall) : p (call.apply config db) :=
  apply_preserves_of_statements (fun db statement _ => hexecute db statement) herase h

-- ---------------------------------------------------------------------------
-- Databases
-- ---------------------------------------------------------------------------

inductive DatabaseCall
  | store (name : String) (value : List RelationCall)
  | delete (name : String)
  | declare (schema : String) (names : List String)
  | session (config : Config) (call : SessionCall)

def DatabaseCall.apply (db : Database) : DatabaseCall → Database
  | store name value => changed db (db.store name (.ofCalls value)).outcome
  | delete name => db.without name
  | declare schema names => changed db (db.declare schema names).outcome
  | session config call => call.apply config db

def Database.ofCalls (calls : List DatabaseCall) : Database :=
  calls.foldl DatabaseCall.apply .empty

namespace Database

theorem empty_wellFormed : Database.empty.WellFormed := nofun

theorem insert_wellFormed {db : Database} (hw : db.WellFormed) {name : String} {r : Relation}
    (hr : r.WellFormed) : WellFormed { db with relvars := db.relvars.insert name r } :=
  NameMap.forall_insert hw hr

theorem erase_wellFormed {db : Database} (hw : db.WellFormed) (name : String) :
    WellFormed { db with relvars := db.relvars.erase name } :=
  NameMap.forall_erase hw name

end Database

theorem nameForAssignment_wellFormed {db : Database} {relvar : String}
    {names : Option (List String)} {value r : Relation} (hw : value.WellFormed)
    (h : nameForAssignment db relvar names value = .ok r) : r.WellFormed := by
  obtain ⟨attributes, h⟩ | h := named_or_qualified h
  · exact Relation.setAttributes_wellFormed hw h
  · exact Relation.qualified_wellFormed hw h

theorem Executes.wellFormed {config : Config} {db db' : Database} {statement : Statement}
    {result : Except EvalError Outcome} (h : Executes config db statement result db')
    (hw : db.WellFormed) : db'.WellFormed := by
  cases h with
  | failed e => exact hw
  | assigned hq hn hu =>
    exact Database.insert_wellFormed hw
      (nameForAssignment_wellFormed (Query.eval_wellFormed hw hq) hn)
  | computed hq => exact hw
  | declared hn => exact hw

theorem DatabaseCall.apply_wellFormed {db : Database} (hw : db.WellFormed) (call : DatabaseCall) :
    (call.apply db).WellFormed := by
  cases call with
  | store name value =>
    refine changed_preserves hw fun db' h => ?_
    rw [Database.outcome_store] at h
    split at h
    · cases h
    · obtain rfl := Except.ok.inj h
      exact Database.insert_wellFormed hw (Relation.ofCalls_wellFormed value)
  | delete name => exact Database.without_preserves hw (Database.erase_wellFormed hw name)
  | declare schema names =>
    refine changed_preserves hw fun db' h => ?_
    rw [Database.outcome_declare] at h
    split at h
    · cases h
    · obtain rfl := Except.ok.inj h
      exact hw
  | session config call =>
    exact call.apply_preserves (p := Database.WellFormed)
      (fun db statement => (execute_executes config db statement).wellFormed)
      (fun db relvar hw => Database.erase_wellFormed hw relvar) hw

theorem Database.ofCalls_wellFormed (calls : List DatabaseCall) : (ofCalls calls).WellFormed :=
  foldl_preserves (fun _ call hw => call.apply_wellFormed hw) empty_wellFormed calls

/-- Over every database that can be built, each value of a query has rows that
match its attributes and stand in storage order, and no evaluation, whatever its
outcome, meets a misaligned environment or a position out of bounds. -/
theorem eval_ofCalls (calls : List DatabaseCall) (config : Config) (query : Query) :
    (∀ r, (query.eval config (.ofCalls calls)).outcome = .ok r →
      (∀ t ∈ r.rows.toList, t.length = r.arity) ∧ r.rows.toList.Pairwise (· < ·) ∧
        r.rows.toList.Nodup) ∧
    (query.evalGuarded config (.ofCalls calls)).run =
      some (query.eval config (.ofCalls calls)).outcome := by
  have hw := Database.ofCalls_wellFormed calls
  refine ⟨fun r h => ?_, Query.evalGuarded_agrees config hw query⟩
  exact ⟨Query.eval_wellFormed hw h, r.rows.sorted, r.rows.nodup_toList⟩

end Relational
