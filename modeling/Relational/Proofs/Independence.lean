import Mathlib.Data.List.Pairwise
import Relational.Proofs.Execution
import Relational.Proofs.Footprint

/-!
# Independent statements

The result of a statement depends on the entries that it reads, and its
execution changes the entry that it writes. So two statements of which neither
writes what the other one reads or writes can change places, and a batch of such
statements can be executed in any order (`executeBatch_perm`).
-/

namespace Relational

-- ---------------------------------------------------------------------------
-- Reads and writes
-- ---------------------------------------------------------------------------

namespace Statement

/-- The entries that a query mentions, and the target of an assignment, whose
names may be used again. -/
def reads : Statement → List Entry
  | assign relvar _ query => .relvar relvar :: query.mentions
  | compute query => query.mentions
  | declare .. => []

def writes : Statement → List Entry
  | assign relvar .. => [.relvar relvar]
  | compute _ => []
  | declare schema _ => [.schema schema]

def Spares (s s' : Statement) : Prop :=
  ∀ entry ∈ s.writes, entry ∉ s'.reads ∧ entry ∉ s'.writes

def Independent (s s' : Statement) : Prop := s.Spares s' ∧ s'.Spares s

instance (s s' : Statement) : Decidable (Spares s s') :=
  inferInstanceAs (Decidable (∀ entry ∈ s.writes, entry ∉ s'.reads ∧ entry ∉ s'.writes))

instance (s s' : Statement) : Decidable (Independent s s') := inferInstanceAs (Decidable (_ ∧ _))

instance : Std.Symm Independent := ⟨fun _ _ h => ⟨h.2, h.1⟩⟩

-- ---------------------------------------------------------------------------
-- The result of a statement
-- ---------------------------------------------------------------------------

def result (config : Config) (db : Database) : Statement → Except EvalError Outcome
  | assign relvar names query => do
    let value ← (query.eval config db).outcome
    let r ← nameForAssignment db relvar names value
    if r.hasUnnamed then .error (.unnamedAttribute (.storage relvar))
    else return .relation r
  | compute query => do return .relation (← (query.eval config db).outcome)
  | declare schema names =>
    match firstRepeat? names with
    | some repeated => .error (.duplicateAttribute repeated)
    | none => .ok (.schema schema names)

end Statement

variable {config : Config} {db db' : Database}

theorem nameForAssignment_congr {relvar : String} (h : db.SameAt db' (.relvar relvar))
    (names : Option (List String)) (value : Relation) :
    nameForAssignment db relvar names value = nameForAssignment db' relvar names value := by
  have h : db.relvars.get? relvar = db'.relvars.get? relvar := h
  simp only [nameForAssignment, h]

theorem Statement.result_congr {s : Statement} (h : db.AgreeOn db' s.reads) :
    s.result config db = s.result config db' := by
  cases s with
  | assign relvar names query =>
    obtain ⟨ht, hq⟩ := Database.agreeOn_cons.1 h
    rw [result, result, query.eval_congr config hq]
    simp only [nameForAssignment_congr ht]
  | compute query => rw [result, result, query.eval_congr config h]
  | declare schema names => rfl

theorem result_execute (config : Config) (db : Database) (s : Statement) :
    (execute config db s).result = s.result config db := by
  cases s with
  | assign relvar names query =>
    rw [execute, Statement.run, Statement.result]
    cases hq : (query.eval config db).outcome with
    | error e =>
      rw [Action.run_read_bind_of_error hq]
      rfl
    | ok value =>
      rw [Action.run_read_bind hq]
      show _ = Except.bind (nameForAssignment db relvar names value) _
      cases hn : nameForAssignment db relvar names value with
      | error e =>
        rw [Action.run_read_bind_of_error (e := e) hn]
        rfl
      | ok r =>
        rw [Action.run_read_bind (a := r) hn]
        show _ = if r.hasUnnamed then _ else _
        have hs := db.outcome_store relvar r
        split at hs
        · rename_i hu
          rw [Action.run_update_bind_of_error hs, if_pos hu]
        · rename_i hu
          rw [Action.run_update_bind hs, if_neg hu]
          rfl
  | compute query =>
    rw [execute, Statement.run, Statement.result]
    cases hq : (query.eval config db).outcome with
    | error e =>
      rw [Action.run_read_bind_of_error hq]
      rfl
    | ok r =>
      rw [Action.run_read_bind hq]
      rfl
  | declare schema names =>
    have hd := db.outcome_declare schema names
    rw [execute, Statement.run, Statement.result]
    cases hn : firstRepeat? names with
    | some repeated =>
      rw [hn] at hd
      rw [Action.run_update_bind_of_error hd]
    | none =>
      rw [hn] at hd
      rw [Action.run_update_bind hd]
      rfl

-- ---------------------------------------------------------------------------
-- The database that a statement leaves
-- ---------------------------------------------------------------------------

/-- The database with what a statement writes when it ends with a given result. -/
def Database.written (db : Database) (s : Statement) (result : Except EvalError Outcome) :
    Database :=
  match s, result with
  | .assign relvar .., .ok (.relation r) => { db with relvars := db.relvars.insert relvar r }
  | .declare schema _, .ok (.schema _ names) =>
    { db with schemas := db.schemas.insert schema names }
  | _, _ => db

theorem Executes.database_eq {s : Statement} {result : Except EvalError Outcome}
    (h : Executes config db s result db') : db' = db.written s result := by
  cases h with
  | failed e => cases s <;> rfl
  | assigned => rfl
  | computed => rfl
  | declared => rfl

theorem database_execute (config : Config) (db : Database) (s : Statement) :
    (execute config db s).database = db.written s (s.result config db) := by
  rw [← result_execute]
  exact (execute_executes config db s).database_eq

namespace Database

variable {s s' : Statement} {entry : Entry}

theorem sameAt_written (h : entry ∉ s.writes) (result : Except EvalError Outcome) :
    (db.written s result).SameAt db entry := by
  unfold written
  split
  · cases entry with
    | relvar name =>
      have hne : name ≠ _ := fun he => h (he ▸ List.mem_singleton_self _)
      exact (NameMap.get?_insert ..).trans (if_neg hne)
    | schema name => exact rfl
  · cases entry with
    | relvar name => exact rfl
    | schema name =>
      have hne : name ≠ _ := fun he => h (he ▸ List.mem_singleton_self _)
      exact (NameMap.get?_insert ..).trans (if_neg hne)
  · exact .rfl

theorem SameAt.written (h : db.SameAt db' entry) (s : Statement)
    (result : Except EvalError Outcome) :
    (db.written s result).SameAt (db'.written s result) entry := by
  unfold Database.written
  split
  · cases entry with
    | relvar name =>
      have h : db.relvars.get? name = db'.relvars.get? name := h
      show (db.relvars.insert ..).get? name = (db'.relvars.insert ..).get? name
      rw [NameMap.get?_insert, NameMap.get?_insert, h]
    | schema name => exact h
  · cases entry with
    | relvar name => exact h
    | schema name =>
      have h : db.schemas.get? name = db'.schemas.get? name := h
      show (db.schemas.insert ..).get? name = (db'.schemas.insert ..).get? name
      rw [NameMap.get?_insert, NameMap.get?_insert, h]
  · exact h

theorem written_comm (h : ∀ entry ∈ s.writes, entry ∉ s'.writes)
    (result result' : Except EvalError Outcome) :
    (db.written s result).written s' result' = (db.written s' result').written s result := by
  refine eq_of_sameAt fun entry => ?_
  by_cases hw : entry ∈ s.writes
  · have hw' := h entry hw
    exact (sameAt_written hw' result').trans ((sameAt_written hw' result').symm.written s result)
  · exact ((sameAt_written hw result).written s' result').trans (sameAt_written hw result).symm

end Database

-- ---------------------------------------------------------------------------
-- Batches
-- ---------------------------------------------------------------------------

namespace Statement

variable {s s' : Statement}

theorem Spares.result_execute (h : s.Spares s') :
    s'.result config (execute config db s).database = s'.result config db := by
  rw [database_execute]
  refine result_congr fun entry he => Database.sameAt_written (fun hw => ?_) _
  exact (h entry hw).1 he

theorem Independent.database_comm (h : s.Independent s') :
    (execute config (execute config db s).database s').database =
      (execute config (execute config db s').database s).database := by
  rw [database_execute _ _ s', h.1.result_execute, database_execute _ _ s]
  rw [database_execute _ _ s, h.2.result_execute, database_execute _ _ s']
  exact Database.written_comm (fun entry he => (h.1 entry he).2) _ _

end Statement

theorem databaseAfter_perm {l l' : List Statement} (hi : l.Pairwise Statement.Independent)
    (hp : l.Perm l') : databaseAfter config db l = databaseAfter config db l' := by
  refine hp.foldl_eq' (fun s hs s' hs' db => ?_) db
  by_cases he : s = s'
  · rw [he]
  · exact (hi.forall hs hs' he).database_comm

theorem result_executeFrom {l : List Statement} (hi : l.Pairwise Statement.Independent)
    (number : Nat) (db : Database) :
    (executeFrom config number db l).result = l.map (Statement.result config db) := by
  induction l generalizing number db with
  | nil => rfl
  | cons s l ih =>
    obtain ⟨hs, hl⟩ := List.pairwise_cons.1 hi
    rw [executeFrom, List.map_cons, ih hl, result_execute]
    refine congrArg (_ :: ·) (List.map_congr_left fun s' hs' => ?_)
    exact (hs s' hs').1.result_execute

theorem getElem?_executeBatch {l : List Statement} (hi : l.Pairwise Statement.Independent)
    {i : Nat} {s : Statement} (h : l[i]? = some s) :
    (executeBatch config db l).result[i]? = some (s.result config db) := by
  rw [executeBatch, result_executeFrom hi, List.getElem?_map, h]
  rfl

/-- Statements that do not touch each other's entries can be executed in any order:
wherever a statement stands it has the same outcome, and the batch leaves the same
database. -/
theorem executeBatch_perm (config : Config) (db : Database) {l l' : List Statement}
    (hi : l.Pairwise Statement.Independent) (hp : l.Perm l') :
    (executeBatch config db l').database = (executeBatch config db l).database ∧
    ∀ (i j : Nat) (s : Statement), l[i]? = some s → l'[j]? = some s →
      ∃ outcome, (executeBatch config db l).result[i]? = some outcome ∧
        (executeBatch config db l').result[j]? = some outcome := by
  have hi' : l'.Pairwise Statement.Independent := hp.pairwise hi fun h => ⟨h.2, h.1⟩
  refine ⟨?_, fun i j s hs hs' => ?_⟩
  · rw [executeBatch, executeBatch, database_executeFrom, database_executeFrom]
    exact (databaseAfter_perm hi hp).symm
  · exact ⟨s.result config db, getElem?_executeBatch hi hs, getElem?_executeBatch hi' hs'⟩

/-- A relation variable and a schema are assigned and declared while a query, which fails,
mentions a schema and a relation variable of the same names. -/
def Statement.namesakes : List Statement :=
  [.assign "A" (some ["x"]) (.constant [[.boolean true]]),
    .compute (.project [.schema (.name "A")] (.relvar "B")),
    .declare "B" ["x"]]

theorem executeBatch_perm_namesakes :
    Statement.namesakes.Pairwise Statement.Independent ∧
    Statement.namesakes.Perm Statement.namesakes.reverse ∧
    (executeBatch {} .empty Statement.namesakes.reverse).database =
      (executeBatch {} .empty Statement.namesakes).database ∧
    ∃ outcome, (executeBatch {} .empty Statement.namesakes).result[0]? = some outcome ∧
      (executeBatch {} .empty Statement.namesakes.reverse).result[2]? = some outcome := by
  have hi : Statement.namesakes.Pairwise Statement.Independent := by decide
  have hp : Statement.namesakes.Perm Statement.namesakes.reverse := (List.reverse_perm _).symm
  obtain ⟨hd, hr⟩ := executeBatch_perm {} .empty hi hp
  exact ⟨hi, hp, hd, hr 0 2 _ rfl rfl⟩

end Relational
