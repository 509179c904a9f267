import Relational.Database

/-!
# Actions

An action is a computation on a database. Each step works on the database that
the steps before it have left, and what they have changed stays changed when it
fails.
-/

namespace Relational

structure Executed (α : Type) where
  result : α
  log : List Record
  database : Database

structure Action (α : Type) where
  run : Database → Executed (Except EvalError α)

namespace Action

variable {α β : Type}

protected def bind (x : Action α) (f : α → Action β) : Action β where
  run db :=
    match (x.run db).result with
    | .ok a =>
      let next := (f a).run (x.run db).database
      ⟨next.result, (x.run db).log ++ next.log, next.database⟩
    | .error e => ⟨.error e, (x.run db).log, (x.run db).database⟩

instance : Monad Action where
  pure a := ⟨fun db => ⟨.ok a, [], db⟩⟩
  bind := Action.bind

def read (look : Database → Logged α) : Action α :=
  ⟨fun db => ⟨(look db).outcome, (look db).log, db⟩⟩

def record (level : Level) (event : Event) : Action Unit := read fun _ => .record level event

/-- A change of the database. One that is refused makes none. -/
def update (change : Database → Logged Database) : Action Unit where
  run db :=
    match (change db).outcome with
    | .ok db' => ⟨.ok (), (change db).log, db'⟩
    | .error e => ⟨.error e, (change db).log, db⟩

variable {db : Database}

theorem run_bind_of_ok {x : Action α} {a : α} (h : (x.run db).result = .ok a)
    (f : α → Action β) :
    (x >>= f).run db = ⟨((f a).run (x.run db).database).result,
      (x.run db).log ++ ((f a).run (x.run db).database).log,
      ((f a).run (x.run db).database).database⟩ := by
  simp only [bind, Action.bind, h]

theorem run_bind_of_error {x : Action α} {e : EvalError} (h : (x.run db).result = .error e)
    (f : α → Action β) : (x >>= f).run db = ⟨.error e, (x.run db).log, (x.run db).database⟩ := by
  simp only [bind, Action.bind, h]

theorem run_read (look : Database → Logged α) (db : Database) :
    (read look).run db = ⟨(look db).outcome, (look db).log, db⟩ := rfl

theorem run_update_of_ok {change : Database → Logged Database} {db' : Database}
    (h : (change db).outcome = .ok db') :
    (update change).run db = ⟨.ok (), (change db).log, db'⟩ := by
  simp only [update, h]

theorem run_update_of_error {change : Database → Logged Database} {e : EvalError}
    (h : (change db).outcome = .error e) :
    (update change).run db = ⟨.error e, (change db).log, db⟩ := by
  simp only [update, h]

end Action

end Relational
