import Mathlib.Data.List.Forall2
import Relational.Proofs.Condition
import Relational.Proofs.Membership

/-!
# Null as an unknown value

A null approximates whatever value is found out to stand in its place. The value
of an expression on a row approximates its value on a row where more is known,
so that finding out more can make an evaluation fail but cannot change a result
that was not null (`eval_of_approximates`).
-/

namespace Relational

def Value.Approximates (v v' : Value) : Prop := v = .null ∨ v = v'

def Scope.Approximates (scope scope' : Scope) : Prop :=
  List.Forall₂ (fun entry entry' => entry.1 = entry'.1 ∧ entry.2.Approximates entry'.2)
    scope scope'

namespace Value.Approximates

theorem refl (v : Value) : v.Approximates v := .inr rfl

theorem of_null (v : Value) : Value.null.Approximates v := .inl rfl

theorem eq_of_ne_null {v v' : Value} (h : v.Approximates v') (hn : v ≠ .null) : v' = v := by
  rcases h with h | h
  · exact absurd h hn
  · exact h.symm

theorem eq_of_not_any_null {vs vs' : List Value} (h : List.Forall₂ Value.Approximates vs vs')
    (hn : vs.any Value.isNull = false) : vs' = vs := by
  induction h with
  | nil => rfl
  | cons hv _ ih =>
    rw [List.any_cons, Bool.or_eq_false_iff] at hn
    rw [hv.eq_of_ne_null fun he => by simp [he, Value.isNull] at hn, ih hn.2]

-- ---------------------------------------------------------------------------
-- Operations that are unknown when an operand is
-- ---------------------------------------------------------------------------

section

variable {a a' b b' v v' : Value}

theorem of_strict {f : Value → Except EvalError Value} (hf : f .null = .ok .null)
    (ha : a.Approximates a') (hv : f a = .ok v) (hv' : f a' = .ok v') : v.Approximates v' := by
  rcases ha with rfl | rfl
  · obtain rfl := Except.ok.inj (hf.symm.trans hv)
    exact .of_null v'
  · obtain rfl := Except.ok.inj (hv.symm.trans hv')
    exact .refl v

theorem of_strict₂ {f : Value → Value → Except EvalError Value}
    (hl : ∀ b, f .null b = .ok .null) (hr : ∀ a, f a .null = .ok .null)
    (ha : a.Approximates a') (hb : b.Approximates b') (hv : f a b = .ok v)
    (hv' : f a' b' = .ok v') : v.Approximates v' := by
  rcases ha with rfl | rfl
  · obtain rfl := Except.ok.inj ((hl b).symm.trans hv)
    exact .of_null v'
  · exact hb.of_strict (hr a) hv hv'

end

end Value.Approximates

theorem UnaryOp.apply_null (op : UnaryOp) : op.apply .null = .ok .null := by
  cases op <;> rfl

theorem ArithmeticOp.apply_null_left (op : ArithmeticOp) (b : Value) :
    op.apply .null b = .ok .null := rfl

theorem ArithmeticOp.apply_null_right (op : ArithmeticOp) (a : Value) :
    op.apply a .null = .ok .null := by
  cases a <;> rfl

theorem ComparisonOp.apply_null_left (op : ComparisonOp) (b : Value) :
    op.apply .null b = .ok .null := if_pos (.inl rfl)

theorem ComparisonOp.apply_null_right (op : ComparisonOp) (a : Value) :
    op.apply a .null = .ok .null := if_pos (.inr rfl)

theorem ScalarFunction.call_approximates {f : ScalarFunction} {vs vs' : List Value} {v v' : Value}
    (h : List.Forall₂ Value.Approximates vs vs') (hv : f.call vs = .ok v)
    (hv' : f.call vs' = .ok v') : v.Approximates v' := by
  by_cases hl : vs.length = f.arity
  · cases hn : vs.any Value.isNull with
    | true =>
      rw [call, if_pos ⟨hl, hn⟩] at hv
      obtain rfl := Except.ok.inj hv
      exact .of_null v'
    | false =>
      rw [Value.Approximates.eq_of_not_any_null h hn] at hv'
      obtain rfl := Except.ok.inj (hv.symm.trans hv')
      exact .refl v
  · rw [call_of_length_ne hl] at hv
    cases hv

-- ---------------------------------------------------------------------------
-- Logical connectives
-- ---------------------------------------------------------------------------

theorem Truth.toValue_approximates_iff {s s' : Truth} :
    s.toValue.Approximates s'.toValue ↔ s = none ∨ s = s' :=
  or_congr (toValue_inj (t := none)) toValue_inj

namespace LogicalOp

variable {op : LogicalOp}

/-- Each connective is monotone in both operands. -/
theorem combine_approximates {s s' t t' : Truth} (hs : s = none ∨ s = s') (ht : t = none ∨ t = t') :
    op.combine s t = none ∨ op.combine s t = op.combine s' t' := by
  rcases hs with rfl | rfl
  · by_cases hd : t = some op.dominant
    · obtain rfl : t = t' := ht.resolve_left (by simp [hd])
      exact .inr (by rw [hd, combine_dominant_right, combine_dominant_right])
    · exact .inl (combine_unknown hd)
  · rcases ht with rfl | rfl
    · by_cases hd : s = some op.dominant
      · exact .inr (by rw [hd, combine_dominant_left, combine_dominant_left])
      · exact .inl (by rw [combine_comm, combine_unknown hd])
    · exact .inr rfl

theorem combine_approximates_dominant {s : Truth} (hs : s = none ∨ s = some op.dominant)
    (t t' : Truth) :
    op.combine s t = none ∨ op.combine s t = op.combine (some op.dominant) t' := by
  rw [combine_dominant_left]
  rcases hs with rfl | rfl
  · by_cases hd : t = some op.dominant
    · exact .inr (by rw [hd, combine_dominant_right])
    · exact .inl (combine_unknown hd)
  · exact .inr (combine_dominant_left t)

end LogicalOp

-- ---------------------------------------------------------------------------
-- Expressions
-- ---------------------------------------------------------------------------

theorem candidates_approximates {scope scope' : Scope} (h : scope.Approximates scope')
    (name : String) :
    List.Forall₂ Value.Approximates (candidates name scope) (candidates name scope') := by
  induction h with
  | nil => exact .nil
  | @cons entry entry' scope scope' he _ ih =>
    obtain ⟨ha, hv⟩ := he
    simp only [candidates, List.filter_cons, ← ha] at ih ⊢
    split
    · exact .cons hv ih
    · exact ih

theorem lookup_approximates {scope scope' : Scope} (h : scope.Approximates scope') {name : String}
    {v v' : Value} (hv : lookup name scope = .ok v) (hv' : lookup name scope' = .ok v') :
    v.Approximates v' := by
  have hc := candidates_approximates h name
  rw [lookup_eq_ok_iff.1 hv, lookup_eq_ok_iff.1 hv', List.forall₂_cons] at hc
  exact hc.1

mutual

theorem Expr.eval_approximates {scope scope' : Scope} (h : scope.Approximates scope')
    {expr : Expr} {v v' : Value} (hv : expr.eval scope = .ok v)
    (hv' : expr.eval scope' = .ok v') : v.Approximates v' := by
  match expr with
  | .literal w =>
    rw [eval] at hv hv'
    obtain rfl := Except.ok.inj (hv.symm.trans hv')
    exact .refl v
  | .attr name =>
    rw [eval] at hv hv'
    exact lookup_approximates h hv hv'
  | .unary op operand =>
    simp only [eval, bind_eq_ok_iff] at hv hv'
    obtain ⟨a, ha, hv⟩ := hv
    obtain ⟨a', ha', hv'⟩ := hv'
    exact (Expr.eval_approximates h ha ha').of_strict op.apply_null hv hv'
  | .binary (.arithmetic op) left right =>
    simp only [eval, bind_eq_ok_iff] at hv hv'
    obtain ⟨a, ha, b, hb, hv⟩ := hv
    obtain ⟨a', ha', b', hb', hv'⟩ := hv'
    have hl := Expr.eval_approximates h ha ha'
    have hr := Expr.eval_approximates h hb hb'
    exact hl.of_strict₂ op.apply_null_left op.apply_null_right hr hv hv'
  | .binary (.comparison op) left right =>
    simp only [eval, bind_eq_ok_iff] at hv hv'
    obtain ⟨a, ha, b, hb, hv⟩ := hv
    obtain ⟨a', ha', b', hb', hv'⟩ := hv'
    have hl := Expr.eval_approximates h ha ha'
    have hr := Expr.eval_approximates h hb hb'
    exact hl.of_strict₂ op.apply_null_left op.apply_null_right hr hv hv'
  | .binary (.logical op) left right =>
    obtain ⟨s, t, hs, ht, rfl⟩ := Expr.eval_logical_eq_ok_iff.1 hv
    obtain ⟨s', t', hs', ht', rfl⟩ := Expr.eval_logical_eq_ok_iff.1 hv'
    have hl := Truth.toValue_approximates_iff.1 (Expr.eval_approximates h hs hs')
    rw [Truth.toValue_approximates_iff]
    -- Either run may leave the right operand out.
    rcases ht with rfl | ht
    · obtain rfl := hl.resolve_left nofun
      exact LogicalOp.combine_approximates_dominant (.inr rfl) t t'
    rcases ht' with rfl | ht'
    · exact LogicalOp.combine_approximates_dominant hl t t'
    · have hr := Truth.toValue_approximates_iff.1 (Expr.eval_approximates h ht ht')
      exact LogicalOp.combine_approximates hl hr
  | .call name args =>
    simp only [eval, bind_eq_ok_iff] at hv hv'
    obtain ⟨f, hf, vs, hvs, hv⟩ := hv
    obtain ⟨f', hf', vs', hvs', hv'⟩ := hv'
    obtain rfl := Except.ok.inj (hf.symm.trans hf')
    exact f.call_approximates (Expr.evalAll_approximates h hvs hvs') hv hv'
  | .named expr _ =>
    rw [eval] at hv hv'
    exact Expr.eval_approximates h hv hv'

theorem Expr.evalAll_approximates {scope scope' : Scope} (h : scope.Approximates scope')
    {exprs : List Expr} {vs vs' : List Value} (hv : Expr.evalAll scope exprs = .ok vs)
    (hv' : Expr.evalAll scope' exprs = .ok vs') : List.Forall₂ Value.Approximates vs vs' := by
  match exprs with
  | [] =>
    rw [evalAll] at hv hv'
    obtain rfl := Except.ok.inj hv
    obtain rfl := Except.ok.inj hv'
    exact .nil
  | expr :: rest =>
    simp only [evalAll, bind_eq_ok_iff, pure_eq_ok_iff] at hv hv'
    obtain ⟨a, ha, as, has, rfl⟩ := hv
    obtain ⟨a', ha', as', has', rfl⟩ := hv'
    exact .cons (Expr.eval_approximates h ha ha') (Expr.evalAll_approximates h has has')

end

-- ---------------------------------------------------------------------------
-- Conditions
-- ---------------------------------------------------------------------------

section

variable {scope scope' : Scope} (h : scope.Approximates scope')
include h

theorem Expr.eval_stays {expr : Expr} {v : Value} (hv : expr.eval scope = .ok v)
    (hn : v ≠ .null) :
    expr.eval scope' = .ok v ∨ ∃ e, expr.eval scope' = .error e := by
  cases hv' : expr.eval scope' with
  | error e => exact .inr ⟨e, rfl⟩
  | ok v' => exact .inl (congrArg _ ((Expr.eval_approximates h hv hv').eq_of_ne_null hn))

theorem Expr.holds_stays {condition : Expr} {b : Bool}
    (hb : condition.eval scope = .ok (.boolean b)) :
    condition.holds scope' = .ok b ∨ ∃ e, condition.holds scope' = .error e := by
  rcases Expr.eval_stays h hb nofun with hv | ⟨e, he⟩
  · exact .inl (Expr.holds_of_eval hv)
  · exact .inr ⟨e, Expr.holds_of_error he⟩

end

/-- When unknown values become known, a result that was not null stays or gives way to
an error. So a condition that held goes on to hold if it does not fail, a condition that
was false goes on not to hold, and a selection does with a row accordingly. -/
theorem eval_of_approximates {scope scope' : Scope} (h : scope.Approximates scope')
    (expr : Expr) :
    (∀ v, expr.eval scope = .ok v → v ≠ .null →
      expr.eval scope' = .ok v ∨ ∃ e, expr.eval scope' = .error e) ∧
    (expr.holds scope = .ok true →
      expr.holds scope' = .ok true ∨ ∃ e, expr.holds scope' = .error e) ∧
    (expr.eval scope = .ok (.boolean false) →
      expr.holds scope' = .ok false ∨ ∃ e, expr.holds scope' = .error e) ∧
    ∀ (r r' s s' : Relation) (t t' : Row), r.scope t = scope → r'.scope t' = scope' →
      t' ∈ r'.rows → r.select expr = .ok s → r'.select expr = .ok s' →
      (t ∈ s.rows → t' ∈ s'.rows) ∧
        (expr.eval scope = .ok (.boolean false) → t' ∉ s'.rows) := by
  refine ⟨fun v hv hn => Expr.eval_stays h hv hn, fun ht => ?_, Expr.holds_stays h, ?_⟩
  · exact Expr.holds_stays h (Expr.holds_eq_true_iff.1 ht)
  · rintro r r' s s' t t' rfl rfl ht' hs hs'
    obtain ⟨b, hb⟩ := Relation.exists_select_iff.1 ⟨s', hs'⟩ t' ht'
    simp only [Relation.mem_select_iff hs, Relation.mem_select_iff hs', ht', true_and]
    refine ⟨fun ⟨_, ht⟩ => ?_, fun hf => ?_⟩
    · rcases Expr.holds_stays h (Expr.holds_eq_true_iff.1 ht) with h' | ⟨e, he⟩
      · exact h'
      · simp [hb] at he
    · rcases Expr.holds_stays h hf with h' | ⟨e, he⟩
      · simp [h']
      · simp [hb] at he

/-- The right operand decides until the left one is known, and is left out afterwards. -/
theorem eval_of_approximates_or :
    Scope.Approximates [(some "x", .null), (some "y", .boolean true)]
      [(some "x", .boolean true), (some "y", .boolean true)] ∧
    (Expr.or (.attr "x") (.attr "y")).eval [(some "x", .null), (some "y", .boolean true)] =
      .ok (.boolean true) ∧
    ((Expr.or (.attr "x") (.attr "y")).eval
        [(some "x", .boolean true), (some "y", .boolean true)] = .ok (.boolean true) ∨
      ∃ e, (Expr.or (.attr "x") (.attr "y")).eval
        [(some "x", .boolean true), (some "y", .boolean true)] = .error e) := by
  have h : Scope.Approximates [(some "x", .null), (some "y", .boolean true)]
      [(some "x", .boolean true), (some "y", .boolean true)] :=
    .cons ⟨rfl, .of_null _⟩ (.cons ⟨rfl, .refl _⟩ .nil)
  have hv : (Expr.or (.attr "x") (.attr "y")).eval
      [(some "x", .null), (some "y", .boolean true)] = .ok (.boolean true) := by rfl
  exact ⟨h, hv, (eval_of_approximates h _).1 _ hv nofun⟩

end Relational
