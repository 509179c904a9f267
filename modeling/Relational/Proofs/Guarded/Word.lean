import Relational.Proofs.Guarded.Scalar

/-!
# Evaluation on machine words

Evaluation with numbers as 64-bit words in two's complement. Sums, differences, products and
negations wrap, and each has a test for it; division has a fault on the operands whose
quotient does not exist or is no word. Evaluation on words agrees with evaluation: nothing
wraps, and no division has a fault.
-/

namespace Relational

open Guarded (Agrees)

abbrev Word := BitVec 64

namespace Word

variable {a b : Word}

def least : Word := BitVec.intMin 64

theorem inRange_toInt (a : Word) : Number.InRange a.toInt := by
  have hl := BitVec.le_toInt a
  have hg := BitVec.toInt_lt (x := a)
  simp only [Number.InRange, Number.least, Number.greatest]
  omega

def number (a : Word) : Number := ⟨a.toInt, a.inRange_toInt⟩

@[simp]
theorem number_toInt (a : Word) : (number a).toInt = a.toInt := rfl

theorem toInt_eq_zero_iff : a.toInt = 0 ↔ a = 0 := by
  rw [← BitVec.toInt_inj]
  rfl

-- ---------------------------------------------------------------------------
-- Tests for overflow
-- ---------------------------------------------------------------------------

def checkedNeg (a : Word) : Option Word := if a.negOverflow then none else some (-a)

def checkedAbs (a : Word) : Option Word := if a.slt 0 then checkedNeg a else some a

def checkedAdd (a b : Word) : Option Word := if a.saddOverflow b then none else some (a + b)

def checkedSub (a b : Word) : Option Word := if a.ssubOverflow b then none else some (a - b)

def checkedMul (a b : Word) : Option Word := if a.smulOverflow b then none else some (a * b)

theorem map_number_ite {overflow : Bool} {w : Word} {n : Int}
    (ho : overflow = true ↔ ¬ Number.InRange n) (hw : ¬ overflow = true → w.toInt = n) :
    (if overflow then none else some w).map number = Number.ofInt? n := by
  split
  · rename_i h
    simp [Number.ofInt?_eq_none_iff.2 (ho.1 h)]
  · rename_i h
    simp [Number.ofInt?_eq_some_iff.2 (number_toInt w ▸ hw h)]

theorem checkedNeg_eq (a : Word) : (checkedNeg a).map number = (number a).neg? := by
  refine map_number_ite ?_ fun h => BitVec.toInt_neg_of_not_negOverflow h
  have hr := a.inRange_toInt
  simp only [BitVec.negOverflow, Number.InRange, Number.least, Number.greatest, number_toInt,
    beq_iff_eq] at *
  omega

theorem checkedAbs_eq (a : Word) : (checkedAbs a).map number = (number a).abs? := by
  unfold checkedAbs
  split
  · rename_i h
    have hn : a.toInt < 0 := by simpa [BitVec.slt_iff_toInt_lt] using h
    have habs : (a.toInt.natAbs : Int) = -a.toInt := by omega
    simp [checkedNeg_eq, Number.neg?, Number.abs?, habs]
  · rename_i h
    have hn : 0 ≤ a.toInt := by simpa [BitVec.slt_iff_toInt_lt] using h
    have habs : (a.toInt.natAbs : Int) = a.toInt := by omega
    have hself := Number.ofInt?_toInt (number a)
    simpa [Number.abs?, habs] using hself.symm

theorem checkedAdd_eq (a b : Word) : (checkedAdd a b).map number = (number a).add? (number b) := by
  refine map_number_ite ?_ fun h => BitVec.toInt_add_of_not_saddOverflow h
  simp only [BitVec.saddOverflow, Number.InRange, Number.least, Number.greatest, number_toInt,
    Bool.or_eq_true, decide_eq_true_eq]
  omega

theorem checkedSub_eq (a b : Word) : (checkedSub a b).map number = (number a).sub? (number b) := by
  refine map_number_ite ?_ fun h => BitVec.toInt_sub_of_not_ssubOverflow h
  simp only [BitVec.ssubOverflow, Number.InRange, Number.least, Number.greatest, number_toInt,
    Bool.or_eq_true, decide_eq_true_eq]
  omega

theorem checkedMul_eq (a b : Word) : (checkedMul a b).map number = (number a).mul? (number b) := by
  refine map_number_ite ?_ fun h => BitVec.toInt_mul_of_not_smulOverflow h
  simp only [BitVec.smulOverflow, Number.InRange, Number.least, Number.greatest, number_toInt,
    Bool.or_eq_true, decide_eq_true_eq]
  omega

-- ---------------------------------------------------------------------------
-- Division
-- ---------------------------------------------------------------------------

/-- A quotient exists and is a word. -/
def Divides (a b : Word) : Prop := b ≠ 0 ∧ ¬ (a = least ∧ b = -1)

instance (a b : Word) : Decidable (Divides a b) := inferInstanceAs (Decidable (_ ∧ _))

def quotient (a b : Word) : Guarded Word := if Divides a b then pure (a.sdiv b) else .fault

/-- The remainder is a by-product of the quotient and has a fault where that one has. -/
def remainder (a b : Word) : Guarded Word := if Divides a b then pure (a.srem b) else .fault

def checkedDiv (a b : Word) : Guarded (Option Word) :=
  if Divides a b then some <$> quotient a b else pure none

/-- The remainder is zero at -1, also where the quotient is no word. -/
def wrappingRem (a b : Word) : Guarded Word := if b = -1 then pure 0 else remainder a b

theorem toInt_sdiv (h : Divides a b) : (a.sdiv b).toInt = a.toInt.tdiv b.toInt := by
  refine BitVec.toInt_sdiv_of_ne_or_ne a b ?_
  by_cases ha : a = BitVec.intMin 64
  · exact .inr fun hb => h.2 ⟨ha, hb⟩
  · exact .inl ha

theorem not_inRange_least_tdiv : ¬ Number.InRange (least.toInt.tdiv (-1 : Word).toInt) := by decide

theorem quotient_agrees (h : Divides a b) : Agrees (quotient a b) (.ok (a.sdiv b)) := by
  rw [quotient, if_pos h]
  exact .pure _

theorem remainder_agrees (h : Divides a b) : Agrees (remainder a b) (.ok (a.srem b)) := by
  rw [remainder, if_pos h]
  exact .pure _

theorem checkedDiv_agrees (hb : b ≠ 0) :
    ∃ w, Agrees (checkedDiv a b) (.ok w) ∧ w.map number = (number a).div? (number b) := by
  by_cases h : Divides a b
  · refine ⟨some (a.sdiv b), ?_, ?_⟩
    · rw [checkedDiv, if_pos h, map_eq_pure_bind]
      exact .bind_ok (quotient_agrees h) (.pure _)
    · refine (Number.ofInt?_eq_some_iff.2 ?_).symm
      exact toInt_sdiv h
  · obtain ⟨rfl, rfl⟩ : a = least ∧ b = -1 := Decidable.not_not.1 fun hn => h ⟨hb, hn⟩
    refine ⟨none, ?_, (Number.ofInt?_eq_none_iff.2 not_inRange_least_tdiv).symm⟩
    rw [checkedDiv, if_neg h]
    exact .pure _

theorem wrappingRem_agrees (hb : b ≠ 0) :
    ∃ w, Agrees (wrappingRem a b) (.ok w) ∧ number w = (number a).rem (number b) := by
  by_cases h : b = -1
  · refine ⟨0, ?_, Number.ext ?_⟩
    · rw [wrappingRem, if_pos h]
      exact .pure _
    · simp [Number.rem, h, Int.tmod_neg]
  · refine ⟨a.srem b, ?_, Number.ext (BitVec.toInt_srem a b)⟩
    rw [wrappingRem, if_neg h]
    exact remainder_agrees ⟨hb, fun hn => h hn.2⟩

end Word

def Number.word (n : Number) : Word := BitVec.ofInt 64 n.toInt

@[simp]
theorem Number.number_word (n : Number) : n.word.number = n := by
  have hr := n.inRange
  simp only [InRange, least, greatest] at hr
  refine Number.ext (BitVec.toInt_ofInt_eq_self (by decide) ?_ ?_) <;> omega

theorem Number.word_eq_zero_iff {n : Number} : n.word = 0 ↔ n.toInt = 0 := by
  rw [← Word.toInt_eq_zero_iff, ← Word.number_toInt, number_word]

-- ---------------------------------------------------------------------------
-- Operations and expressions
-- ---------------------------------------------------------------------------

theorem Guarded.Agrees.eq_lift {α : Type} {x : Guarded α} {y : Except EvalError α}
    (h : Agrees x y) : x = .lift y := h

def boundedWord (operation : Operation) (w? : Option Word) : Guarded Value :=
  .lift (bounded operation (w?.map Word.number))

def UnaryOp.applyWord (op : UnaryOp) (v : Value) : Guarded Value :=
  match op, v with
  | minus, .number n => boundedWord (.unary minus) n.word.checkedNeg
  | op, v => .lift (op.apply v)

theorem UnaryOp.applyWord_eq (op : UnaryOp) (v : Value) : op.applyWord v = .lift (op.apply v) := by
  unfold applyWord
  split
  · simp [boundedWord, Word.checkedNeg_eq, apply]
  · rfl

namespace ArithmeticOp

def computeWord (op : ArithmeticOp) (a b : Word) : Guarded Value :=
  match op with
  | add => boundedWord add.operation (a.checkedAdd b)
  | sub => boundedWord sub.operation (a.checkedSub b)
  | mul => boundedWord mul.operation (a.checkedMul b)
  | div => if b = 0 then .lift (.error .divisionByZero) else do
    boundedWord div.operation (← a.checkedDiv b)

def applyWord (op : ArithmeticOp) (left right : Value) : Guarded Value :=
  match left, right with
  | .number a, .number b => op.computeWord a.word b.word
  | a, b => .lift (op.apply a b)

theorem computeWord_eq (op : ArithmeticOp) (a b : Number) :
    op.computeWord a.word b.word = .lift (op.compute a b) := by
  cases op with
  | add => simp [computeWord, compute, boundedWord, Word.checkedAdd_eq]
  | sub => simp [computeWord, compute, boundedWord, Word.checkedSub_eq]
  | mul => simp [computeWord, compute, boundedWord, Word.checkedMul_eq]
  | div =>
    by_cases hb : b.toInt = 0
    · have hw : b.word = 0 := Number.word_eq_zero_iff.2 hb
      simp only [computeWord, compute, if_pos hw, if_pos hb]
    · obtain ⟨w, hw, he⟩ := Word.checkedDiv_agrees (a := a.word) (mt Number.word_eq_zero_iff.1 hb)
      simp only [Number.number_word] at he
      simp only [computeWord, compute, Number.word_eq_zero_iff, hb, if_false, ← he]
      exact (Agrees.bind_ok hw (.lift _)).eq_lift

theorem applyWord_eq (op : ArithmeticOp) (left right : Value) :
    op.applyWord left right = .lift (op.apply left right) := by
  unfold applyWord
  split
  · exact op.computeWord_eq ..
  · rfl

end ArithmeticOp

namespace ScalarFunction

def moduloWord (a b : Word) : Guarded Value :=
  if b = 0 then .lift (.error .divisionByZero) else do
    return .number (← a.wrappingRem b).number

def callWord (f : ScalarFunction) (args : List Value) : Guarded Value :=
  match f, args with
  | abs, [.number a] => boundedWord (.function abs) a.word.checkedAbs
  | mod, [.number a, .number b] => moduloWord a.word b.word
  | f, args => f.callGuarded args

theorem moduloWord_eq (a b : Number) :
    moduloWord a.word b.word = .lift (modulo (.number a) (.number b)) := by
  by_cases hb : b.toInt = 0
  · have hw : b.word = 0 := Number.word_eq_zero_iff.2 hb
    simp only [moduloWord, modulo, if_pos hw, if_pos hb]
  · obtain ⟨w, hw, he⟩ := Word.wrappingRem_agrees (a := a.word) (mt Number.word_eq_zero_iff.1 hb)
    simp only [Number.number_word] at he
    simp only [moduloWord, modulo, Number.word_eq_zero_iff, hb, if_false, ← he]
    exact (Agrees.bind_ok hw (.pure (Value.number w.number))).eq_lift

theorem callGuarded_eq (f : ScalarFunction) (args : List Value) :
    f.callGuarded args = .lift (f.call args) := (f.callGuarded_agrees args).eq_lift

theorem callWord_eq (f : ScalarFunction) (args : List Value) :
    f.callWord args = .lift (f.call args) := by
  unfold callWord
  split
  · simp [boundedWord, Word.checkedAbs_eq, call, apply, absolute, Value.isNull]
  · simp [moduloWord_eq, call, apply, Value.isNull]
  · exact f.callGuarded_eq args

end ScalarFunction

mutual

def Expr.evalWord (env : Environment) : Expr → Guarded Value
  | .literal v => pure v
  | .attr name => env.get name
  | .unary op operand => do op.applyWord (← operand.evalWord env)
  | .binary (.arithmetic op) left right => do
    let a ← left.evalWord env
    let b ← right.evalWord env
    op.applyWord a b
  | .binary (.comparison op) left right => do
    let a ← left.evalWord env
    let b ← right.evalWord env
    .lift (op.apply a b)
  | .binary (.logical op) left right => do
    let a ← left.evalWord env
    let s ← .lift (op.leftTruth a)
    if s = some op.dominant then
      return .boolean op.dominant
    else
      let b ← right.evalWord env
      let t ← .lift (op.rightTruth a b)
      return (op.combine s t).toValue
  | .call name args => do
    let f ← .lift (ScalarFunction.find name)
    let vs ← Expr.evalAllWord env args
    f.callWord vs
  | .named expr _ => expr.evalWord env

def Expr.evalAllWord (env : Environment) : List Expr → Guarded (List Value)
  | [] => pure []
  | expr :: rest => do
    let v ← expr.evalWord env
    let vs ← Expr.evalAllWord env rest
    return v :: vs

end

mutual

theorem Expr.evalWord_eq (env : Environment) (expr : Expr) :
    expr.evalWord env = expr.evalGuarded env := by
  match expr with
  | .literal v => rfl
  | .attr name => rfl
  | .unary op operand =>
    simp only [evalWord, evalGuarded, operand.evalWord_eq env, UnaryOp.applyWord_eq]
  | .binary (.arithmetic op) left right =>
    simp only [evalWord, evalGuarded, left.evalWord_eq env, right.evalWord_eq env,
      ArithmeticOp.applyWord_eq]
  | .binary (.comparison op) left right =>
    simp only [evalWord, evalGuarded, left.evalWord_eq env, right.evalWord_eq env]
  | .binary (.logical op) left right =>
    simp only [evalWord, evalGuarded, left.evalWord_eq env, right.evalWord_eq env]
  | .call name args =>
    simp only [evalWord, evalGuarded, Expr.evalAllWord_eq env args, ScalarFunction.callWord_eq,
      ScalarFunction.callGuarded_eq]
  | .named expr _ => simp only [evalWord, evalGuarded, expr.evalWord_eq env]

theorem Expr.evalAllWord_eq (env : Environment) (exprs : List Expr) :
    Expr.evalAllWord env exprs = Expr.evalAllGuarded env exprs := by
  match exprs with
  | [] => rfl
  | expr :: rest =>
    simp only [evalAllWord, evalAllGuarded, expr.evalWord_eq env, Expr.evalAllWord_eq env rest]

end

theorem Expr.evalWord_agrees (env : Environment) (expr : Expr) :
    Agrees (expr.evalWord env) (expr.eval env.scope) :=
  expr.evalWord_eq env ▸ expr.evalGuarded_agrees env

end Relational
