import Mathlib.Data.Option.NAry
import Relational.Proofs.Guarded.Word

/-!
# Exact arithmetic

The evaluation of arithmetic beside a reference evaluation over all integers, in which null
absorbs. Evaluation takes the sub-expressions of an expression in post-order. It gives the
exact value, or else the error of the first of them that divides by zero or whose exact value
is out of range (`Expr.eval_arithmetic`).
-/

namespace Relational

open Guarded (Agrees)

inductive Value.Represents : Value → Option Int → Prop
  | null : Represents .null none
  | number (n : Number) : Represents (.number n) (some n.toInt)

def Value.integer? : Value → Option Int
  | .number n => some n.toInt
  | _ => none

theorem Value.Represents.integer?_eq {v : Value} {x : Option Int} (h : v.Represents x) :
    v.integer? = x := by
  cases h <;> rfl

theorem Value.Represents.inRange {v : Value} {n : Int} (h : v.Represents (some n)) :
    Number.InRange n := by
  cases h with
  | number n => exact n.inRange

-- ---------------------------------------------------------------------------
-- The reference evaluation
-- ---------------------------------------------------------------------------

def ArithmeticOp.exact : ArithmeticOp → Int → Int → Int
  | add => (· + ·)
  | sub => (· - ·)
  | mul => (· * ·)
  | div => Int.tdiv

def ScalarFunction.exact : ScalarFunction → List (Option Int) → Option Int
  | abs, [a] => a.map fun n => n.natAbs
  | mod, [a, b] => Option.map₂ Int.tmod a b
  | _, _ => none

mutual

/-- The value of an arithmetic expression over all integers. It means nothing past a division
by zero. -/
def Expr.exact (scope : Scope) : Expr → Option Int
  | .literal v => v.integer?
  | .attr name => (lookup name scope).toOption.bind Value.integer?
  | .unary .minus operand => (operand.exact scope).map (- ·)
  | .binary (.arithmetic op) left right => Option.map₂ op.exact (left.exact scope) (right.exact scope)
  | .call name args => (ScalarFunction.find? name).bind fun f => f.exact (Expr.exactAll scope args)
  | .unary .not _ => none
  | .binary (.comparison _) _ _ => none
  | .binary (.logical _) _ _ => none
  | .named _ _ => none

def Expr.exactAll (scope : Scope) : List Expr → List (Option Int)
  | [] => []
  | expr :: rest => expr.exact scope :: Expr.exactAll scope rest

end

namespace Expr

mutual

/-- The sub-expressions in the order in which their values are settled. -/
def steps : Expr → List Expr
  | literal v => [literal v]
  | attr name => [attr name]
  | unary op operand => operand.steps ++ [unary op operand]
  | binary op left right => left.steps ++ right.steps ++ [binary op left right]
  | call name args => stepsAll args ++ [call name args]
  | named expr name => expr.steps ++ [named expr name]

def stepsAll : List Expr → List Expr
  | [] => []
  | expr :: rest => expr.steps ++ stepsAll rest

end

/-- The expression divides an integer by zero or takes its remainder by zero. -/
def DividesByZero (scope : Scope) (expr : Expr) : Prop :=
  match expr with
  | binary (.arithmetic .div) left right => left.exact scope ≠ none ∧ right.exact scope = some 0
  | call name [left, right] =>
    ScalarFunction.find? name = some .mod ∧ left.exact scope ≠ none ∧ right.exact scope = some 0
  | _ => False

instance (scope : Scope) (expr : Expr) : Decidable (expr.DividesByZero scope) := by
  unfold DividesByZero
  split <;> infer_instance

def Fits (scope : Scope) (expr : Expr) : Prop :=
  ∀ n ∈ expr.exact scope, Number.InRange n

instance (scope : Scope) (expr : Expr) : Decidable (expr.Fits scope) :=
  inferInstanceAs (Decidable (∀ n ∈ expr.exact scope, Number.InRange n))

def operation? : Expr → Option Operation
  | unary op _ => some (.unary op)
  | binary op _ _ => some (.binary op)
  | call name _ => (ScalarFunction.find? name).map .function
  | _ => none

def Safe (scope : Scope) (expr : Expr) : Prop :=
  expr.Fits scope ∧ ¬ expr.DividesByZero scope

instance (scope : Scope) (expr : Expr) : Decidable (expr.Safe scope) :=
  inferInstanceAs (Decidable (_ ∧ _))

inductive Refused (scope : Scope) (expr : Expr) : EvalError → Prop
  | divisionByZero : expr.DividesByZero scope → Refused scope expr .divisionByZero
  | overflow {operation : Operation} : ¬ expr.DividesByZero scope → ¬ expr.Fits scope →
    expr.operation? = some operation → Refused scope expr (.numericOverflow operation)

/-- Arithmetic on numbers and null: signs, the four operations, absolute values and
remainders. -/
inductive Arithmetic (scope : Scope) : Expr → Prop
  | null : Arithmetic scope null
  | number (n : Number) : Arithmetic scope (number n)
  | attr {name : String} {v : Value} {x : Option Int} :
    lookup name scope = .ok v → v.Represents x → Arithmetic scope (attr name)
  | neg {operand : Expr} : Arithmetic scope operand → Arithmetic scope operand.neg
  | binary (op : ArithmeticOp) {left right : Expr} :
    Arithmetic scope left → Arithmetic scope right →
    Arithmetic scope (binary (.arithmetic op) left right)
  | abs {name : String} {operand : Expr} : ScalarFunction.find? name = some .abs →
    Arithmetic scope operand → Arithmetic scope (call name [operand])
  | mod {name : String} {left right : Expr} : ScalarFunction.find? name = some .mod →
    Arithmetic scope left → Arithmetic scope right → Arithmetic scope (call name [left, right])

-- ---------------------------------------------------------------------------
-- Outcomes beside exact values
-- ---------------------------------------------------------------------------

/-- The outcome of a computation that has taken the steps: the exact value when all of them
are safe, and else the error of the first that is not. -/
inductive Settles (scope : Scope) (steps : List Expr) (exact : Option Int) :
    Except EvalError Value → Prop
  | value {v : Value} : (∀ e ∈ steps, Safe scope e) → v.Represents exact →
    Settles scope steps exact (.ok v)
  | refused {before after : List Expr} {expr : Expr} {error : EvalError} :
    steps = before ++ expr :: after → (∀ e ∈ before, Safe scope e) →
    expr.Refused scope error → Settles scope steps exact (.error error)

variable {scope : Scope} {expr : Expr} {steps : List Expr} {x y : Option Int}

theorem Refused.not_safe {error : EvalError} (h : expr.Refused scope error) :
    ¬ expr.Safe scope := by
  intro hs
  cases h with
  | divisionByZero hz => exact hs.2 hz
  | overflow _ hf _ => exact hf hs.1

theorem Settles.bind {outcome : Except EvalError Value} {steps' : List Expr}
    {f : Value → Except EvalError Value} (h : Settles scope steps x outcome)
    (hf : ∀ v, v.Represents x → Settles scope steps' y (f v)) :
    Settles scope (steps ++ steps') y (outcome >>= f) := by
  cases h with
  | @refused before after expr error he hb hr =>
    have he' : steps ++ steps' = before ++ expr :: (after ++ steps') := by simp [he]
    exact .refused he' hb hr
  | @value v hs hv =>
    have hfv := hf v hv
    rw [ok_bind]
    generalize f v = outcome at hfv ⊢
    cases hfv with
    | value hs' hv' => exact .value (by simpa [or_imp, forall_and] using ⟨hs, hs'⟩) hv'
    | @refused before after expr _ he hb hr =>
      have he' : steps ++ steps' = steps ++ before ++ expr :: after := by simp [he]
      exact .refused he' (by simpa [or_imp, forall_and] using ⟨hs, hb⟩) hr

theorem Settles.of_represents {v : Value} (he : expr.exact scope = x)
    (hz : ¬ expr.DividesByZero scope) (hv : v.Represents x) : Settles scope [expr] x (.ok v) := by
  have hf : expr.Fits scope := by
    rintro n hn
    rw [he] at hn
    exact (hn ▸ hv).inRange
  exact .value (by simpa using ⟨hf, hz⟩) hv

theorem Settles.of_refused {error : EvalError} (h : expr.Refused scope error) :
    Settles scope [expr] x (.error error) := by
  have he : [expr] = [] ++ expr :: [] := rfl
  exact .refused he (by simp) h

theorem Settles.bounded {operation : Operation} {n : Int} (he : expr.exact scope = some n)
    (hz : ¬ expr.DividesByZero scope) (ho : expr.operation? = some operation) :
    Settles scope [expr] (some n) (bounded operation (Number.ofInt? n)) := by
  cases ha : Number.ofInt? n with
  | some a =>
    obtain rfl := Number.ofInt?_eq_some_iff.1 ha
    exact .of_represents he hz (.number a)
  | none =>
    have hf : ¬ expr.Fits scope := fun hf => Number.ofInt?_eq_none_iff.1 ha (hf n he)
    exact .of_refused (.overflow hz hf ho)

-- ---------------------------------------------------------------------------
-- One operation
-- ---------------------------------------------------------------------------

variable {operand left right : Expr} {name : String} {a b : Value}

theorem not_zero_divisor (hx : left.exact scope = x) (hy : right.exact scope = y)
    (h : x = none ∨ y ≠ some 0) : ¬ (left.exact scope ≠ none ∧ right.exact scope = some 0) := by
  rintro ⟨hl, hr⟩
  exact h.elim (fun hn => hl (hx.trans hn)) (fun hn => hn (hy.symm.trans hr))

theorem settles_neg (ha : a.Represents (operand.exact scope)) :
    Settles scope [operand.neg] (operand.neg.exact scope) (UnaryOp.minus.apply a) := by
  generalize hx : operand.exact scope = x at ha
  have he : operand.neg.exact scope = x.map (- ·) := by simp [neg, exact, hx]
  rw [he]
  cases ha with
  | null => exact .of_represents he id .null
  | number n => exact .bounded he id rfl

theorem settles_binary (op : ArithmeticOp) (ha : a.Represents (left.exact scope))
    (hb : b.Represents (right.exact scope)) :
    Settles scope [binary (.arithmetic op) left right]
      ((binary (.arithmetic op) left right).exact scope) (op.apply a b) := by
  generalize hx : left.exact scope = x at ha
  generalize hy : right.exact scope = y at hb
  have he : (binary (.arithmetic op) left right).exact scope = Option.map₂ op.exact x y := by
    simp [exact, hx, hy]
  have hz (h : x = none ∨ y ≠ some 0) :
      ¬ (binary (.arithmetic op) left right).DividesByZero scope := by
    cases op with
    | div => exact not_zero_divisor hx hy h
    | _ => exact id
  rw [he]
  -- null absorbs before the divisor is looked at
  cases ha with
  | null => exact .of_represents he (hz (.inl rfl)) (by cases y <;> exact .null)
  | number m =>
    cases hb with
    | null => exact .of_represents he (hz (.inr (by simp))) .null
    | number n =>
      cases op with
      | add => exact .bounded he id rfl
      | sub => exact .bounded he id rfl
      | mul => exact .bounded he id rfl
      | div =>
        rw [ArithmeticOp.apply, ArithmeticOp.compute]
        split
        · rename_i hn
          exact .of_refused (.divisionByZero ⟨by simp [hx], by rw [hy, hn]⟩)
        · rename_i hn
          exact .bounded he (hz (.inr fun h => hn (Option.some.inj h))) rfl

theorem settles_abs (hname : ScalarFunction.find? name = some .abs)
    (ha : a.Represents (operand.exact scope)) :
    Settles scope [call name [operand]] ((call name [operand]).exact scope)
      (ScalarFunction.abs.call [a]) := by
  generalize hx : operand.exact scope = x at ha
  have he : (call name [operand]).exact scope = x.map fun n => (n.natAbs : Int) := by
    simp [exact, exactAll, hname, ScalarFunction.exact, hx]
  have ho : (call name [operand]).operation? = some (.function .abs) := by
    simp [operation?, hname]
  rw [he]
  cases ha with
  | null => exact .of_represents he id .null
  | number n => exact .bounded he id ho

theorem settles_mod (hname : ScalarFunction.find? name = some .mod)
    (ha : a.Represents (left.exact scope)) (hb : b.Represents (right.exact scope)) :
    Settles scope [call name [left, right]] ((call name [left, right]).exact scope)
      (ScalarFunction.mod.call [a, b]) := by
  generalize hx : left.exact scope = x at ha
  generalize hy : right.exact scope = y at hb
  have he : (call name [left, right]).exact scope = Option.map₂ Int.tmod x y := by
    simp [exact, exactAll, hname, ScalarFunction.exact, hx, hy]
  have hz (h : x = none ∨ y ≠ some 0) : ¬ (call name [left, right]).DividesByZero scope := by
    exact fun hd => not_zero_divisor hx hy h hd.2
  rw [he]
  cases ha with
  | null =>
    have hcall : ScalarFunction.mod.call [.null, b] = .ok .null := by
      simp [ScalarFunction.call, ScalarFunction.arity, Value.isNull]
    rw [hcall]
    exact .of_represents he (hz (.inl rfl)) (by cases y <;> exact .null)
  | number m =>
    cases hb with
    | null => exact .of_represents he (hz (.inr (by simp))) .null
    | number n =>
      have hcall : ScalarFunction.mod.call [.number m, .number n] =
          if n.toInt = 0 then .error .divisionByZero else .ok (.number (m.rem n)) := rfl
      rw [hcall]
      split
      · rename_i hn
        exact .of_refused (.divisionByZero ⟨hname, by simp [hx], by rw [hy, hn]⟩)
      · rename_i hn
        exact .of_represents he (hz (.inr fun h => hn (Option.some.inj h))) (.number (m.rem n))

-- ---------------------------------------------------------------------------
-- Expressions
-- ---------------------------------------------------------------------------

theorem eval_call_one {f : ScalarFunction} (hname : ScalarFunction.find? name = some f) :
    (call name [operand]).eval scope = operand.eval scope >>= fun a => f.call [a] := by
  simp [eval, evalAll, ScalarFunction.find, hname, ok_bind]

theorem eval_call_two {f : ScalarFunction} (hname : ScalarFunction.find? name = some f) :
    (call name [left, right]).eval scope =
      left.eval scope >>= fun a => right.eval scope >>= fun b => f.call [a, b] := by
  simp [eval, evalAll, ScalarFunction.find, hname, ok_bind]

/-- The steps of the operands come first, from left to right, then the operation itself. -/
theorem Arithmetic.settles (h : expr.Arithmetic scope) :
    Settles scope expr.steps (expr.exact scope) (expr.eval scope) := by
  induction h with
  | null => exact .of_represents rfl id .null
  | number n => exact .of_represents rfl id (.number n)
  | @attr name v x hv hx =>
    have he : (Expr.attr name).exact scope = x := by
      simp [Expr.exact, hv, Except.toOption, hx.integer?_eq]
    rw [he, eval, hv]
    exact .of_represents he id hx
  | neg _ ih => exact ih.bind fun a ha => settles_neg ha
  | binary op _ _ ihl ihr =>
    rw [steps, List.append_assoc]
    exact ihl.bind fun a ha => ihr.bind fun b hb => settles_binary op ha hb
  | abs hname _ ih =>
    rw [eval_call_one hname]
    simpa [steps, stepsAll] using ih.bind fun a ha => settles_abs hname ha
  | mod hname _ _ ihl ihr =>
    rw [eval_call_two hname]
    simpa [steps, stepsAll] using
      ihl.bind fun a ha => ihr.bind fun b hb => settles_mod hname ha hb

end Expr

/-- If all sub-expressions of an arithmetic expression are safe, its value is the exact one.
Otherwise the outcome is the error of the first sub-expression that is not: division by zero,
or the overflow of the operation whose exact value is out of range. On machine words nothing
wraps and no instruction has a fault. -/
theorem Expr.eval_arithmetic {env : Environment} {expr : Expr} (h : expr.Arithmetic env.scope) :
    ((∀ e ∈ expr.steps, e.Safe env.scope) →
      ∃ v, expr.eval env.scope = .ok v ∧ v.Represents (expr.exact env.scope)) ∧
    (¬ (∀ e ∈ expr.steps, e.Safe env.scope) →
      ∃ before e after error, expr.steps = before ++ e :: after ∧
        (∀ e' ∈ before, e'.Safe env.scope) ∧ e.Refused env.scope error ∧
        expr.eval env.scope = .error error) ∧
    Agrees (expr.evalWord env) (expr.eval env.scope) := by
  refine ⟨?_, ?_, expr.evalWord_agrees env⟩
  · intro hs
    have hsettles := h.settles
    generalize expr.eval env.scope = outcome at hsettles ⊢
    cases hsettles with
    | @value v _ hv => exact ⟨v, rfl, hv⟩
    | refused he _ hr => exact absurd (hs _ (by simp [he])) hr.not_safe
  · intro hs
    have hsettles := h.settles
    generalize expr.eval env.scope = outcome at hsettles ⊢
    cases hsettles with
    | value hall _ => exact absurd hall hs
    | @refused before after e error he hb hr => exact ⟨before, e, after, error, he, hb, hr, rfl⟩

/-- At the least number: its half, its remainder by -1 and null over zero have values, its
quotient by -1 has none. -/
theorem Expr.eval_arithmetic_least :
    let env : Environment := ⟨[some "R.x", some "y"], [.number ⟨Number.least, by decide⟩, .null], rfl⟩
    let half : Expr := .call "ABS" [.div (.attr "x") (.number ⟨2, by decide⟩)]
    let rest : Expr := .call "mod" [.attr "R.x", .number ⟨-1, by decide⟩]
    let outside : Expr := .sub (.div (.attr "y") (.number .zero))
      (.add (.div (.attr "x") (.number ⟨-1, by decide⟩)) (.div (.attr "x") (.number .zero)))
    (half.add rest).Arithmetic env.scope ∧ (∀ e ∈ (half.add rest).steps, e.Safe env.scope) ∧
      (half.add rest).exact env.scope = some 4611686018427387904 ∧
      (∃ v, (half.add rest).eval env.scope = .ok v ∧ v.Represents (some 4611686018427387904)) ∧
      outside.Arithmetic env.scope ∧ ¬ (∀ e ∈ outside.steps, e.Safe env.scope) ∧
      outside.eval env.scope = .error (.numericOverflow (.binary (.arithmetic .div))) ∧
      Agrees (outside.evalWord env) (.error (.numericOverflow (.binary (.arithmetic .div)))) := by
  intro env half rest outside
  have hx : (Expr.attr "x").Arithmetic env.scope := .attr rfl (.number _)
  have hrx : (Expr.attr "R.x").Arithmetic env.scope := .attr rfl (.number _)
  have hy : (Expr.attr "y").Arithmetic env.scope := .attr rfl .null
  have hsum : (half.add rest).Arithmetic env.scope :=
    .binary .add (.abs (by decide +kernel) (.binary .div hx (.number _)))
      (.mod (by decide +kernel) hrx (.number _))
  have houtside : outside.Arithmetic env.scope :=
    .binary .sub (.binary .div hy (.number _))
      (.binary .add (.binary .div hx (.number _)) (.binary .div hx (.number _)))
  have hsafe : ∀ e ∈ (half.add rest).steps, e.Safe env.scope := by decide +kernel
  have hunsafe : ¬ (∀ e ∈ outside.steps, e.Safe env.scope) := by decide +kernel
  have hexact : (half.add rest).exact env.scope = some 4611686018427387904 := by decide +kernel
  have herror : outside.eval env.scope = .error (.numericOverflow (.binary (.arithmetic .div))) := rfl
  exact ⟨hsum, hsafe, hexact, hexact ▸ (eval_arithmetic hsum).1 hsafe, houtside, hunsafe, herror,
    herror ▸ (eval_arithmetic houtside).2.2⟩

end Relational
