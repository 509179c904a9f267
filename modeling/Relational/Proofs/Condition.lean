import Relational.Proofs.Outcome

/-!
# Conditions and connectives

What a logical connective makes of the truth values of its operands
(`Expr.eval_logical_eq_ok_iff`), and when a condition holds. Up to the kinds of errors, all
that matters of a condition is its truth value (`Expr.truth`), and negation and the
connectives can be computed on truth values (`Expr.truth_not`, `Expr.truth_logical`).
-/

namespace Relational

theorem Truth.toValue_inj {s t : Truth} : s.toValue = t.toValue ↔ s = t := by
  cases s <;> cases t <;> simp [toValue]

def Truth.not (t : Truth) : Truth := t.map (!·)

theorem Truth.not_not (t : Truth) : t.not.not = t := by
  rcases t with _ | _ | _ <;> rfl

theorem Truth.not_eq_iff {s t : Truth} : s.not = t ↔ s = t.not :=
  ⟨fun h => h ▸ (not_not s).symm, fun h => h ▸ not_not t⟩

namespace LogicalOp

variable {op : LogicalOp}

theorem combine_dominant_left (t : Truth) : op.combine (some op.dominant) t = some op.dominant :=
  if_pos (.inl rfl)

theorem combine_dominant_right (s : Truth) : op.combine s (some op.dominant) = some op.dominant :=
  if_pos (.inr rfl)

theorem combine_unknown {t : Truth} (h : t ≠ some op.dominant) : op.combine none t = none := by
  simp [combine, h]

theorem combine_eq_true_iff {s t : Truth} :
    op.combine s t = some true ↔
      match op with
      | and => s = some true ∧ t = some true
      | or => s = some true ∨ t = some true := by
  cases op <;> rcases s with _ | _ | _ <;> rcases t with _ | _ | _ <;> simp [combine, dominant]

def dual : LogicalOp → LogicalOp
  | and => or
  | or => and

theorem not_eq_dominant_dual_iff {t : Truth} :
    t.not = some op.dual.dominant ↔ t = some op.dominant := by
  cases op <;> rcases t with _ | _ | _ <;> simp [Truth.not, dual, dominant]

theorem combine_dual (op : LogicalOp) (s t : Truth) :
    op.dual.combine s.not t.not = (op.combine s t).not := by
  cases op <;> rcases s with _ | _ | _ <;> rcases t with _ | _ | _ <;> rfl

theorem leftTruth_eq_ok_iff {a : Value} {s : Truth} :
    op.leftTruth a = .ok s ↔ a = s.toValue := by
  rw [← Value.truth?_eq_some_iff, leftTruth]
  split <;> simp_all

theorem rightTruth_eq_ok_iff {a b : Value} {t : Truth} :
    op.rightTruth a b = .ok t ↔ b = t.toValue := by
  rw [← Value.truth?_eq_some_iff, rightTruth]
  split <;> simp_all

end LogicalOp

theorem Expr.eval_logical_eq_ok_iff {scope : Scope} {op : LogicalOp} {left right : Expr}
    {v : Value} :
    (binary (.logical op) left right).eval scope = .ok v ↔
      ∃ s t : Truth, left.eval scope = .ok s.toValue ∧
        (s = some op.dominant ∨ right.eval scope = .ok t.toValue) ∧
        v = (op.combine s t).toValue := by
  simp only [eval, bind_eq_ok_iff, LogicalOp.leftTruth_eq_ok_iff]
  constructor
  · rintro ⟨_, hl, s, rfl, h⟩
    split at h
    · rename_i hs
      refine ⟨s, none, hl, .inl hs, ?_⟩
      rw [hs, LogicalOp.combine_dominant_left]
      exact (Except.ok.inj h).symm
    · simp only [bind_eq_ok_iff, LogicalOp.rightTruth_eq_ok_iff, pure_eq_ok_iff] at h
      obtain ⟨_, hr, t, rfl, rfl⟩ := h
      exact ⟨s, t, hl, .inr hr, rfl⟩
  · rintro ⟨s, t, hl, hr, rfl⟩
    refine ⟨_, hl, s, rfl, ?_⟩
    split
    · rename_i hs
      rw [hs, LogicalOp.combine_dominant_left]
      rfl
    · rename_i hs
      simp only [bind_eq_ok_iff, LogicalOp.rightTruth_eq_ok_iff, pure_eq_ok_iff]
      exact ⟨_, hr.resolve_left hs, t, rfl, rfl⟩

theorem Expr.eval_logical_congr_right {scope : Scope} {op : LogicalOp} {left right right' : Expr}
    (h : left.eval scope ≠ .ok (.boolean op.dominant) → right.eval scope = right'.eval scope) :
    (binary (.logical op) left right).eval scope =
      (binary (.logical op) left right').eval scope := by
  by_cases hl : left.eval scope = .ok (.boolean op.dominant)
  · simp only [eval, hl, ok_bind]
    cases op <;> rfl
  · simp only [eval, h hl]

theorem Expr.holds_eq_true_iff {scope : Scope} {condition : Expr} :
    condition.holds scope = .ok true ↔ condition.eval scope = .ok (.boolean true) := by
  unfold holds
  cases condition.eval scope with
  | error e => simp [bind, Except.bind]
  | ok v =>
    cases v <;> simp [bind, Except.bind, pure, Except.pure, throw, throwThe, MonadExceptOf.throw]

theorem Expr.holds_of_eval {scope : Scope} {condition : Expr} {b : Bool}
    (h : condition.eval scope = .ok (.boolean b)) : condition.holds scope = .ok b := by
  rw [holds, h]
  rfl

theorem Expr.holds_of_error {scope : Scope} {condition : Expr} {e : EvalError}
    (h : condition.eval scope = .error e) : condition.holds scope = .error e := by
  rw [holds, h]
  rfl

-- ---------------------------------------------------------------------------
-- Truth values of conditions
-- ---------------------------------------------------------------------------

def Value.asTruth (v : Value) : Except ErrorKind Truth :=
  match v.truth? with
  | some t => .ok t
  | none => .error .typeMismatch

theorem Value.asTruth_eq_ok_iff {v : Value} {t : Truth} : v.asTruth = .ok t ↔ v = t.toValue := by
  rw [← truth?_eq_some_iff, asTruth]
  split <;> simp_all

theorem LogicalOp.upToKind_leftTruth (op : LogicalOp) (a : Value) :
    upToKind (op.leftTruth a) = a.asTruth := by
  unfold leftTruth Value.asTruth
  cases a.truth? <;> rfl

theorem LogicalOp.upToKind_rightTruth (op : LogicalOp) (a b : Value) :
    upToKind (op.rightTruth a b) = b.asTruth := by
  unfold rightTruth Value.asTruth
  cases b.truth? <;> rfl

namespace Expr

def truth (scope : Scope) (condition : Expr) : Except ErrorKind Truth := do
  (← upToKind (condition.eval scope)).asTruth

variable {scope : Scope} {condition p q : Expr} {t : Truth}

theorem truth_eq_ok_iff : condition.truth scope = .ok t ↔ condition.eval scope = .ok t.toValue := by
  simp only [truth, bind_eq_ok_iff, upToKind_eq_ok_iff, Value.asTruth_eq_ok_iff, exists_eq_right]

theorem upToKind_holds (scope : Scope) (condition : Expr) :
    upToKind (condition.holds scope) =
      condition.truth scope >>= fun t => pure (decide (t = some true)) := by
  simp only [holds, truth, upToKind_bind, bind_assoc]
  refine bind_congr fun v => ?_
  rcases v with _ | (_ | _) | _ | _ <;> rfl

theorem exists_holds_iff :
    (∃ b, condition.holds scope = .ok b) ↔ ∃ t, condition.truth scope = .ok t := by
  simp only [← upToKind_eq_ok_iff (x := condition.holds scope), upToKind_holds,
    exists_bind_pure_iff]

theorem truth_not (scope : Scope) (p : Expr) :
    (not p).truth scope = p.truth scope >>= fun t => pure t.not := by
  simp only [truth, not, eval, upToKind_bind, bind_assoc]
  refine bind_congr fun v => ?_
  cases v <;> rfl

theorem truth_not_eq_ok_iff : (not p).truth scope = .ok t ↔ p.truth scope = .ok t.not := by
  simp only [truth_not, bind_eq_ok_iff, pure_eq_ok_iff, Truth.not_eq_iff, exists_eq_right]

theorem truth_logical (scope : Scope) (op : LogicalOp) (p q : Expr) :
    (binary (.logical op) p q).truth scope =
      p.truth scope >>= fun s =>
        if s = some op.dominant then pure s
        else q.truth scope >>= fun t => pure (op.combine s t) := by
  simp only [truth, eval, upToKind_bind, bind_assoc, LogicalOp.upToKind_leftTruth]
  refine bind_congr fun a => bind_congr fun s => ?_
  split
  · rename_i h
    rw [h]
    rfl
  · simp only [upToKind_bind, bind_assoc, LogicalOp.upToKind_rightTruth, upToKind_pure, pure_bind]
    refine bind_congr fun b => bind_congr fun t => ?_
    exact Value.asTruth_eq_ok_iff.2 rfl

theorem truth_logical_eq_ok_iff {op : LogicalOp} :
    (binary (.logical op) p q).truth scope = .ok t ↔
      ∃ a b, p.truth scope = .ok a ∧ (a = some op.dominant ∨ q.truth scope = .ok b) ∧
        t = op.combine a b := by
  simp only [truth_eq_ok_iff, eval_logical_eq_ok_iff, Truth.toValue_inj]

theorem exists_truth_logical_iff {op : LogicalOp} :
    (∃ t, (binary (.logical op) p q).truth scope = .ok t) ↔
      ∃ a, p.truth scope = .ok a ∧ (a ≠ some op.dominant → ∃ b, q.truth scope = .ok b) := by
  simp only [truth_logical_eq_ok_iff]
  constructor
  · rintro ⟨_, a, b, ha, hb, rfl⟩
    exact ⟨a, ha, fun hn => ⟨b, hb.resolve_left hn⟩⟩
  · rintro ⟨a, ha, hb⟩
    by_cases hd : a = some op.dominant
    · exact ⟨_, a, none, ha, .inl hd, rfl⟩
    · obtain ⟨b, hb⟩ := hb hd
      exact ⟨_, a, b, ha, .inr hb, rfl⟩

theorem truth_and_eq_true_iff :
    (and p q).truth scope = .ok (some true) ↔
      p.truth scope = .ok (some true) ∧ q.truth scope = .ok (some true) := by
  constructor
  · intro h
    obtain ⟨a, b, ha, hb, hc⟩ := truth_logical_eq_ok_iff.1 h
    obtain ⟨rfl, rfl⟩ := LogicalOp.combine_eq_true_iff.1 hc.symm
    exact ⟨ha, hb.resolve_left nofun⟩
  · rintro ⟨hp, hq⟩
    exact truth_logical_eq_ok_iff.2 ⟨_, _, hp, .inr hq, rfl⟩

/-- De Morgan's laws hold for failures too: both sides look at the right operand in the same
cases, and what is no truth value is the same kind of mismatch for all three operators. -/
theorem truth_not_logical (scope : Scope) (op : LogicalOp) (p q : Expr) :
    (not (binary (.logical op) p q)).truth scope =
      (binary (.logical op.dual) (not p) (not q)).truth scope := by
  simp only [truth_not, truth_logical, bind_assoc, pure_bind]
  refine bind_congr fun s => ?_
  simp only [LogicalOp.not_eq_dominant_dual_iff]
  split
  · rfl
  · simp only [bind_assoc, pure_bind, LogicalOp.combine_dual]

end Expr

end Relational
