import Relational.Error
import Relational.Text.Case

/-!
# Function calls

A call first needs the right number of arguments. Then a null argument makes
the result null, and only then the function looks at its arguments.
-/

namespace Relational

def bounded (operation : Operation) : Option Number → Except EvalError Value
  | some n => .ok (.number n)
  | none => .error (.numericOverflow operation)

namespace ScalarFunction

def find (name : String) : Except EvalError ScalarFunction :=
  match find? name with
  | some f => .ok f
  | none => .error (.unknownFunction name)

def absolute : Value → Except EvalError Value
  | .number n => bounded (.function abs) n.abs?
  | v => .error (.typeMismatch (.function abs) v.kind none)

def onText (f : ScalarFunction) (result : String → Value) : Value → Except EvalError Value
  | .text s => .ok (result s)
  | v => .error (.typeMismatch (.function f) v.kind none)

/-- The number of characters, as a machine word. -/
def lengthOf : Value → Except EvalError Value := onText length fun s => .number (.wrap s.length)

def lowered : Value → Except EvalError Value := onText lower fun s => .text (Text.lower s)

def uppered : Value → Except EvalError Value := onText upper fun s => .text (Text.upper s)

def modulo : Value → Value → Except EvalError Value
  | .number a, .number b => if b.toInt = 0 then .error .divisionByZero else .ok (.number (a.rem b))
  | a, b => .error (.typeMismatch (.function mod) a.kind (some b.kind))

def apply (f : ScalarFunction) (args : List Value) : Except EvalError Value :=
  match f, args with
  | abs, [a] => absolute a
  | length, [a] => lengthOf a
  | lower, [a] => lowered a
  | upper, [a] => uppered a
  | mod, [a, b] => modulo a b
  | f, args => .error (.arityMismatch (.call f) f.arity args.length)

def call (f : ScalarFunction) (args : List Value) : Except EvalError Value :=
  if args.length = f.arity ∧ args.any Value.isNull then .ok .null else f.apply args

theorem apply_of_length_ne {f : ScalarFunction} {args : List Value} (h : args.length ≠ f.arity) :
    f.apply args = .error (.arityMismatch (.call f) f.arity args.length) := by
  unfold apply
  split <;> first | rfl | exact absurd rfl h

theorem call_of_length_ne {f : ScalarFunction} {args : List Value} (h : args.length ≠ f.arity) :
    f.call args = .error (.arityMismatch (.call f) f.arity args.length) := by
  rw [call, if_neg (fun hn => h hn.1), apply_of_length_ne h]

end ScalarFunction

end Relational
