import Relational.Error

/-!
# Log records

Evaluation and storage leave records. `Logged` is a computation that may fail
and keeps its records either way.
-/

namespace Relational

inductive Level
  | trace
  | debug
  | warn
deriving DecidableEq

inductive Event
  | produced (operator : Operator) (rows attributes : Nat)
  | failed (operator : Operator) (error : EvalError)
  | stored (relvar : String) (rows : Nat)
  | declared (schema : String) (names : List String)
  | assigned (relvar : String) (rows : Nat)
  | computed (rows : Nat)
  /-- A statement of a batch failed. Statements are numbered from 1. -/
  | rejected (statement : Nat) (error : EvalError)
deriving DecidableEq

def Event.text : Event → String
  | produced operator rows attributes =>
    s!"{operator.name} produced {rows} rows over {attributes} attributes"
  | failed operator error => s!"{operator.name} failed: {error.message}"
  | stored relvar rows => s!"storing relation variable {relvar} ({rows} rows)"
  | declared schema names =>
    "declaring schema " ++ schema ++ " = (" ++ ", ".intercalate names ++ ")"
  | assigned relvar rows => s!"{relvar} := {rows} rows"
  | computed rows => s!"expression produced {rows} rows"
  | rejected statement error => s!"statement {statement} failed: {error.message}"

structure Record where
  level : Level
  event : Event
deriving DecidableEq

structure Logged (α : Type) where
  log : List Record
  outcome : Except EvalError α

namespace Logged

variable {α β : Type}

def lift (outcome : Except EvalError α) : Logged α := ⟨[], outcome⟩

def record (level : Level) (event : Event) : Logged Unit := ⟨[⟨level, event⟩], .ok ()⟩

protected def bind (x : Logged α) (f : α → Logged β) : Logged β :=
  match x.outcome with
  | .ok a => ⟨x.log ++ (f a).log, (f a).outcome⟩
  | .error e => ⟨x.log, .error e⟩

instance : Monad Logged where
  pure a := lift (.ok a)
  bind := Logged.bind

instance : LawfulMonad Logged := .mk' Logged
  (fun x => by
    obtain ⟨log, outcome⟩ := x
    cases outcome <;> simp [Functor.map, Logged.bind, lift])
  (fun a f => by simp [bind, pure, Logged.bind, lift])
  (fun x f g => by
    obtain ⟨log, outcome⟩ := x
    cases outcome with
    | error e => rfl
    | ok a =>
      simp only [bind, Logged.bind]
      cases (f a).outcome <;> simp)

theorem bind_of_ok {x : Logged α} {a : α} (h : x.outcome = .ok a) (f : α → Logged β) :
    x >>= f = ⟨x.log ++ (f a).log, (f a).outcome⟩ := by
  simp only [bind, Logged.bind, h]

theorem bind_of_error {x : Logged α} {e : EvalError} (h : x.outcome = .error e)
    (f : α → Logged β) : x >>= f = ⟨x.log, .error e⟩ := by
  simp only [bind, Logged.bind, h]

theorem outcome_bind (x : Logged α) (f : α → Logged β) :
    (x >>= f).outcome = x.outcome >>= fun a => (f a).outcome := by
  cases h : x.outcome with
  | ok a => rw [bind_of_ok h]; rfl
  | error e => rw [bind_of_error h]; rfl

def onFailure (x : Logged α) (level : Level) (event : EvalError → Event) : Logged α :=
  match x.outcome with
  | .ok _ => x
  | .error e => ⟨x.log ++ [⟨level, event e⟩], x.outcome⟩

theorem onFailure_of_ok {x : Logged α} {a : α} (h : x.outcome = .ok a) (level : Level)
    (event : EvalError → Event) : x.onFailure level event = x := by
  simp only [onFailure, h]

theorem onFailure_of_error {x : Logged α} {e : EvalError} (h : x.outcome = .error e)
    (level : Level) (event : EvalError → Event) :
    x.onFailure level event = ⟨x.log ++ [⟨level, event e⟩], .error e⟩ := by
  simp only [onFailure, h]

end Logged

end Relational
