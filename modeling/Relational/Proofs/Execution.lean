import Relational.Proofs.Outcome
import Relational.Session

/-!
# Execution is atomic

A statement either fails and leaves the database alone, or changes no more than
the one entry that it names. `Executes` lists the ways in which an execution can
end; everything that is proved of statements goes by it. In a batch each
statement works on what its predecessors leave, so that the failed ones might as
well not be there.
-/

namespace Relational

-- ---------------------------------------------------------------------------
-- Actions
-- ---------------------------------------------------------------------------

namespace Action

variable {α β : Type} {db : Database}

theorem run_read_bind {look : Database → Logged α} {a : α} (h : (look db).outcome = .ok a)
    (f : α → Action β) :
    (read look >>= f).run db =
      ⟨((f a).run db).result, (look db).log ++ ((f a).run db).log, ((f a).run db).database⟩ := by
  rw [run_bind_of_ok (by rw [run_read, h]), run_read]

theorem run_read_bind_of_error {look : Database → Logged α} {e : EvalError}
    (h : (look db).outcome = .error e) (f : α → Action β) :
    (read look >>= f).run db = ⟨.error e, (look db).log, db⟩ := by
  rw [run_bind_of_error (by rw [run_read, h]), run_read]

theorem run_update_bind {change : Database → Logged Database} {db' : Database}
    (h : (change db).outcome = .ok db') (f : Unit → Action β) :
    (update change >>= f).run db = ⟨((f ()).run db').result,
      (change db).log ++ ((f ()).run db').log, ((f ()).run db').database⟩ := by
  rw [run_bind_of_ok (by rw [run_update_of_ok h]), run_update_of_ok h]

theorem run_update_bind_of_error {change : Database → Logged Database} {e : EvalError}
    (h : (change db).outcome = .error e) (f : Unit → Action β) :
    (update change >>= f).run db = ⟨.error e, (change db).log, db⟩ := by
  rw [run_bind_of_error (by rw [run_update_of_error h]), run_update_of_error h]

end Action

namespace Database

theorem outcome_store (db : Database) (name : String) (r : Relation) :
    (db.store name r).outcome =
      if r.hasUnnamed then .error (.unnamedAttribute (.storage name))
      else .ok { db with relvars := db.relvars.insert name r } := by
  unfold store
  split <;> rfl

theorem outcome_declare (db : Database) (name : String) (names : List String) :
    (db.declare name names).outcome =
      match firstRepeat? names with
      | some repeated => .error (.duplicateAttribute repeated)
      | none => .ok { db with schemas := db.schemas.insert name names } := by
  unfold declare
  cases firstRepeat? names <;> rfl

end Database

-- ---------------------------------------------------------------------------
-- Statements
-- ---------------------------------------------------------------------------

inductive Executes (config : Config) (db : Database) :
    Statement → Except EvalError Outcome → Database → Prop
  | failed {statement} (e : EvalError) : Executes config db statement (.error e) db
  | assigned {relvar names query value r} :
      (query.eval config db).outcome = .ok value →
      nameForAssignment db relvar names value = .ok r → r.hasUnnamed = false →
      Executes config db (.assign relvar names query) (.ok (.relation r))
        { db with relvars := db.relvars.insert relvar r }
  | computed {query r} : (query.eval config db).outcome = .ok r →
      Executes config db (.compute query) (.ok (.relation r)) db
  | declared {schema names} : names.Nodup →
      Executes config db (.declare schema names) (.ok (.schema schema names))
        { db with schemas := db.schemas.insert schema names }

theorem execute_assign (config : Config) (db : Database) (relvar : String)
    (names : Option (List String)) (query : Query) :
    Executes config db (.assign relvar names query)
      (execute config db (.assign relvar names query)).result
      (execute config db (.assign relvar names query)).database := by
  rw [execute, Statement.run]
  cases hq : (query.eval config db).outcome with
  | error e =>
    rw [Action.run_read_bind_of_error hq]
    exact .failed e
  | ok value =>
    rw [Action.run_read_bind hq]
    cases hn : nameForAssignment db relvar names value with
    | error e =>
      rw [Action.run_read_bind_of_error (e := e) hn]
      exact .failed e
    | ok r =>
      rw [Action.run_read_bind (a := r) hn]
      have hs := db.outcome_store relvar r
      split at hs
      · rw [Action.run_update_bind_of_error hs]
        exact .failed _
      · rename_i hu
        rw [Action.run_update_bind hs]
        exact .assigned hq hn (by simpa using hu)

theorem execute_compute (config : Config) (db : Database) (query : Query) :
    Executes config db (.compute query) (execute config db (.compute query)).result
      (execute config db (.compute query)).database := by
  rw [execute, Statement.run]
  cases hq : (query.eval config db).outcome with
  | error e =>
    rw [Action.run_read_bind_of_error hq]
    exact .failed e
  | ok r =>
    rw [Action.run_read_bind hq]
    exact .computed hq

theorem execute_declare (config : Config) (db : Database) (schema : String) (names : List String) :
    Executes config db (.declare schema names)
      (execute config db (.declare schema names)).result
      (execute config db (.declare schema names)).database := by
  rw [execute, Statement.run]
  have hd := db.outcome_declare schema names
  split at hd
  · rw [Action.run_update_bind_of_error hd]
    exact .failed _
  · rename_i hn
    rw [Action.run_update_bind hd]
    exact .declared (firstRepeat?_eq_none_iff.1 hn)

theorem execute_executes (config : Config) (db : Database) (statement : Statement) :
    Executes config db statement (execute config db statement).result
      (execute config db statement).database := by
  cases statement with
  | assign relvar names query => exact execute_assign config db relvar names query
  | compute query => exact execute_compute config db query
  | declare schema names => exact execute_declare config db schema names

theorem Executes.database_of_error {config : Config} {db db' : Database} {statement : Statement}
    {e : EvalError} (h : Executes config db statement (.error e) db') : db' = db := by
  cases h
  rfl

theorem database_of_error {config : Config} {db : Database} {statement : Statement} {e : EvalError}
    (h : (execute config db statement).result = .error e) :
    (execute config db statement).database = db := by
  have hx := execute_executes config db statement
  rw [h] at hx
  exact hx.database_of_error

-- ---------------------------------------------------------------------------
-- Frames
-- ---------------------------------------------------------------------------

/-- A database differs from another one at most in the value of a relation variable. -/
structure Database.AssignsOnly (db db' : Database) (relvar : String) (r : Relation) : Prop where
  assigned : db'.relvars.get? relvar = some r
  relvars : ∀ name, name ≠ relvar → db'.relvars.get? name = db.relvars.get? name
  schemas : db'.schemas = db.schemas

/-- A database differs from another one at most in the names of a schema. -/
structure Database.DeclaresOnly (db db' : Database) (schema : String) (names : List String) :
    Prop where
  declared : db'.schemas.get? schema = some names
  schemas : ∀ name, name ≠ schema → db'.schemas.get? name = db.schemas.get? name
  relvars : db'.relvars = db.relvars

theorem Relation.rows_of_setAttributes {r r' : Relation} {attributes : List Attribute}
    (h : r.setAttributes attributes = .ok r') : r'.rows = r.rows := by
  unfold setAttributes at h
  split at h
  · cases h
  · simp only [bind_eq_ok_iff, pure_eq_ok_iff] at h
    obtain ⟨_, -, rfl⟩ := h
    rfl

theorem Relation.rows_of_qualified {r r' : Relation} {relvar : String}
    (h : r.qualified relvar = .ok r') : r'.rows = r.rows := by
  simp only [qualified, bind_eq_ok_iff, pure_eq_ok_iff] at h
  obtain ⟨attributes, -, _, -, rfl⟩ := h
  rfl

theorem nameForAssignment_cases {db : Database} {relvar : String} {names : Option (List String)}
    {value r : Relation} (h : nameForAssignment db relvar names value = .ok r) :
    (∃ given, names = some given ∧ value.setNames (given.map (qualify relvar)) = .ok r) ∨
    (names = none ∧ value.qualified relvar = .ok r) ∨
    ∃ old, names = none ∧ db.relvars.get? relvar = some old ∧
      value.setAttributes old.attributes = .ok r := by
  unfold nameForAssignment at h
  cases names with
  | some given =>
    simp only at h
    split at h
    · cases h
    · exact .inl ⟨given, rfl, h⟩
  | none =>
    simp only at h
    split at h
    · exact .inr (.inl ⟨rfl, h⟩)
    · split at h
      · rename_i old hold
        exact .inr (.inr ⟨old, rfl, hold, h⟩)
      · cases h

theorem named_or_qualified {db : Database} {relvar : String} {names : Option (List String)}
    {value r : Relation} (h : nameForAssignment db relvar names value = .ok r) :
    (∃ attributes, value.setAttributes attributes = .ok r) ∨ value.qualified relvar = .ok r := by
  obtain ⟨given, -, h⟩ | ⟨-, h⟩ | ⟨old, -, -, h⟩ := nameForAssignment_cases h
  · exact .inl ⟨_, h⟩
  · exact .inr h
  · exact .inl ⟨_, h⟩

theorem rows_of_nameForAssignment {db : Database} {relvar : String} {names : Option (List String)}
    {value r : Relation} (h : nameForAssignment db relvar names value = .ok r) :
    r.rows = value.rows := by
  obtain ⟨attributes, h⟩ | h := named_or_qualified h
  · exact Relation.rows_of_setAttributes h
  · exact Relation.rows_of_qualified h

theorem assign_frame {config : Config} {db db' : Database} {relvar : String}
    {names : Option (List String)} {query : Query} {outcome : Outcome}
    (h : Executes config db (.assign relvar names query) (.ok outcome) db') :
    ∃ r value, outcome = .relation r ∧ (query.eval config db).outcome = .ok value ∧
      r.rows = value.rows ∧ db.AssignsOnly db' relvar r := by
  cases h with
  | @assigned _ _ _ value r hq hn _ =>
    refine ⟨r, value, rfl, hq, rows_of_nameForAssignment hn, ?_, ?_, rfl⟩
    · rw [NameMap.get?_insert, if_pos rfl]
    · intro name hne
      rw [NameMap.get?_insert, if_neg hne]

theorem compute_frame {config : Config} {db db' : Database} {query : Query}
    {result : Except EvalError Outcome} (h : Executes config db (.compute query) result db') :
    db' = db := by
  cases h <;> rfl

theorem declare_frame {config : Config} {db db' : Database} {schema : String} {names : List String}
    {outcome : Outcome} (h : Executes config db (.declare schema names) (.ok outcome) db') :
    db.DeclaresOnly db' schema names := by
  cases h with
  | declared =>
    refine ⟨?_, ?_, rfl⟩
    · rw [NameMap.get?_insert, if_pos rfl]
    · intro name hne
      rw [NameMap.get?_insert, if_neg hne]

-- ---------------------------------------------------------------------------
-- Batches
-- ---------------------------------------------------------------------------

def databaseAfter (config : Config) (db : Database) (statements : List Statement) : Database :=
  statements.foldl (fun db statement => (execute config db statement).database) db

theorem database_executeFrom (config : Config) (number : Nat) (db : Database)
    (statements : List Statement) :
    (executeFrom config number db statements).database = databaseAfter config db statements := by
  induction statements generalizing number db with
  | nil => rfl
  | cons statement rest ih => exact ih ..

theorem length_executeFrom (config : Config) (number : Nat) (db : Database)
    (statements : List Statement) :
    (executeFrom config number db statements).result.length = statements.length := by
  induction statements generalizing number db with
  | nil => rfl
  | cons statement rest ih => exact congrArg (· + 1) (ih ..)

theorem getElem?_executeFrom {config : Config} {number : Nat} {db : Database}
    {statements : List Statement} {i : Nat} {statement : Statement}
    (h : statements[i]? = some statement) :
    (executeFrom config number db statements).result[i]? =
      some (execute config (databaseAfter config db (statements.take i)) statement).result := by
  induction statements generalizing number db i with
  | nil => simp at h
  | cons first rest ih =>
    cases i with
    | zero =>
      obtain rfl : first = statement := by simpa using h
      rfl
    | succ i =>
      rw [List.getElem?_cons_succ] at h
      exact ih h

/-- The members of a list that are marked to stay. -/
def retain {α : Type} : List Bool → List α → List α
  | true :: marks, a :: l => a :: retain marks l
  | false :: marks, _ :: l => retain marks l
  | _, _ => []

/-- A statement that fails hands on the database that it was given, so the
statements after it cannot tell whether it was there. -/
theorem executeFrom_retain {config : Config} {number : Nat} {db : Database}
    {statements : List Statement} {marks : List Bool} (hl : marks.length = statements.length)
    (hf : ∀ i : Nat, marks[i]? = some false →
      ∃ e, (executeFrom config number db statements).result[i]? = some (Except.error e))
    (number' : Nat) :
    (executeFrom config number' db (retain marks statements)).database =
        (executeFrom config number db statements).database ∧
      (executeFrom config number' db (retain marks statements)).result =
        retain marks (executeFrom config number db statements).result := by
  induction statements generalizing number db marks number' with
  | nil =>
    obtain rfl : marks = [] := List.length_eq_zero_iff.1 hl
    exact ⟨rfl, rfl⟩
  | cons statement rest ih =>
    cases marks with
    | nil => simp at hl
    | cons mark marks =>
      have hlength : marks.length = rest.length := by simpa using hl
      have hrest := fun (i : Nat) (hi : marks[i]? = some false) =>
        hf (i + 1) (by simpa using hi)
      cases mark with
      | true =>
        obtain ⟨hd, hr⟩ := ih hlength hrest (number' + 1)
        exact ⟨hd, congrArg (_ :: ·) hr⟩
      | false =>
        obtain ⟨e, he⟩ := hf 0 rfl
        have he : (execute config db statement).result = .error e := Option.some.inj he
        have hdb := database_of_error he
        obtain ⟨hd, hr⟩ := ih hlength hrest number'
        rw [hdb] at hd hr
        rw [retain, executeFrom, hdb]
        exact ⟨hd, hr⟩

/-- Statements are atomic and change nothing but what they name, and in a batch
the failed statements make no difference to the others. -/
theorem execution_atomic (config : Config) (db : Database) :
    (∀ statement e, (execute config db statement).result = .error e →
      (execute config db statement).database = db) ∧
    (∀ relvar names query outcome,
      (execute config db (.assign relvar names query)).result = .ok outcome →
      ∃ r value, outcome = .relation r ∧ (query.eval config db).outcome = .ok value ∧
        r.rows = value.rows ∧
        db.AssignsOnly (execute config db (.assign relvar names query)).database relvar r) ∧
    (∀ query, (execute config db (.compute query)).database = db) ∧
    (∀ schema names outcome, (execute config db (.declare schema names)).result = .ok outcome →
      db.DeclaresOnly (execute config db (.declare schema names)).database schema names) ∧
    ∀ statements,
      (executeBatch config db statements).result.length = statements.length ∧
      (executeBatch config db statements).database = databaseAfter config db statements ∧
      (∀ i statement, statements[i]? = some statement →
        (executeBatch config db statements).result[i]? =
          some (execute config (databaseAfter config db (statements.take i)) statement).result) ∧
      ∀ marks : List Bool, marks.length = statements.length →
        (∀ i : Nat, marks[i]? = some false →
          ∃ e, (executeBatch config db statements).result[i]? = some (Except.error e)) →
        (executeBatch config db (retain marks statements)).database =
            (executeBatch config db statements).database ∧
          (executeBatch config db (retain marks statements)).result =
            retain marks (executeBatch config db statements).result := by
  refine ⟨fun statement e => database_of_error, ?_, ?_, ?_, ?_⟩
  · intro relvar names query outcome h
    exact assign_frame (h ▸ execute_assign config db relvar names query)
  · intro query
    exact compute_frame (execute_compute config db query)
  · intro schema names outcome h
    exact declare_frame (h ▸ execute_declare config db schema names)
  · intro statements
    refine ⟨length_executeFrom .., database_executeFrom .., ?_, ?_⟩
    · exact fun i statement h => getElem?_executeFrom h
    · exact fun marks hl hf => executeFrom_retain hl hf 1

end Relational
