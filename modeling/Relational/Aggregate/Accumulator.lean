import Relational.Scalar.Eval

/-!
# Accumulators

An accumulator takes in the values of an aggregate one at a time and passes
over nulls. All functions share one record: a value first revises the total or
the best value, which may fail, and is then counted.
-/

namespace Relational

structure Accumulator where
  function : AggregateFunction
  count : Nat
  sum : Number
  extreme : Option Value

namespace Accumulator

def start (f : AggregateFunction) : Accumulator := ⟨f, 0, .zero, none⟩

def addTo (f : AggregateFunction) (total : Number) : Value → Except EvalError Number
  | .number n =>
    match total.add? n with
    | some more => .ok more
    | none => .error (.numericOverflow (.aggregate f))
  | v => .error (.typeMismatch (.aggregate f) v.kind none)

/-- The better of the best value so far and one more value. Booleans have no
least or greatest. -/
def improve (f : AggregateFunction) (wanted : Ordering) (best : Option Value) (v : Value) :
    Except EvalError Value :=
  if v.kind = .boolean then .error (.typeMismatch (.aggregate f) v.kind none)
  else
    match best with
    | none => .ok v
    | some old => do
      let order ← v.compareFor (.aggregate f) old
      return if order = wanted then v else old

/-- What a value that is not null changes besides the count. -/
def revise (acc : Accumulator) (v : Value) : Except EvalError Accumulator :=
  match acc.function with
  | .count => .ok acc
  | .sum | .avg => do return { acc with sum := ← addTo acc.function acc.sum v }
  | .min => do return { acc with extreme := some (← improve .min .lt acc.extreme v) }
  | .max => do return { acc with extreme := some (← improve .max .gt acc.extreme v) }

/-- Count one more value. No memory holds the 2^63 rows that would take a count out of the
range of numbers; that it is refused there only lets a count be the number of the values
without an assumption on how many there are. -/
def tally (acc : Accumulator) : Except EvalError Accumulator :=
  if acc.function = .count ∧ ¬ Number.InRange (acc.count + 1) then
    .error (.numericOverflow (.aggregate .count))
  else
    .ok { acc with count := acc.count + 1 }

def absorb (acc : Accumulator) (v : Value) : Except EvalError Accumulator := do
  (← acc.revise v).tally

def update (acc : Accumulator) (v : Value) : Except EvalError Accumulator :=
  if v = .null then .ok acc else acc.absorb v

def result (acc : Accumulator) : Value :=
  match acc.function with
  | .count => .number (.wrap acc.count)
  | .sum => .number acc.sum
  | .avg => if acc.count = 0 then .null else .number (acc.sum.divNat acc.count)
  | .min | .max => acc.extreme.getD .null

end Accumulator

end Relational
