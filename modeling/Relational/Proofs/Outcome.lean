import Relational.Query.Eval

/-!
# Outcomes

What the success of a computation says about its parts, and the outcome of a
query from those of its operands. Proofs about values go by these equations and
leave the records aside.
-/

namespace Relational

section

variable {ε α β : Type}

theorem ok_bind (a : α) (f : α → Except ε β) : Except.ok a >>= f = f a := rfl

theorem error_bind (e : ε) (f : α → Except ε β) : Except.error e >>= f = .error e := rfl

theorem bind_eq_ok_iff {x : Except ε α} {f : α → Except ε β} {b : β} :
    x >>= f = .ok b ↔ ∃ a, x = .ok a ∧ f a = .ok b := by
  cases x <;> simp [bind, Except.bind]

theorem pure_eq_ok_iff {a b : α} : (pure a : Except ε α) = .ok b ↔ a = b := by
  simp [pure, Except.pure]

theorem exists_error_iff {x : Except ε α} : (∃ e, x = .error e) ↔ ¬ ∃ a, x = .ok a := by
  cases x <;> simp

theorem exists_bind_pure_iff {x : Except ε α} {f : α → β} :
    (∃ b, (x >>= fun a => pure (f a)) = .ok b) ↔ ∃ a, x = .ok a := by
  cases x <;> simp [bind, Except.bind, pure, Except.pure]

theorem length_of_mapM {f : α → Except ε β} {l : List α} {l' : List β}
    (h : l.mapM f = .ok l') : l'.length = l.length := by
  induction l generalizing l' with
  | nil =>
    simp only [List.mapM_nil, pure_eq_ok_iff] at h
    subst h; rfl
  | cons a l ih =>
    simp only [List.mapM_cons, bind_eq_ok_iff, pure_eq_ok_iff] at h
    obtain ⟨b, -, rest, hr, rfl⟩ := h
    simp [ih hr]

theorem mem_of_mapM {f : α → Except ε β} {l : List α} {l' : List β} {b : β}
    (h : l.mapM f = .ok l') (hb : b ∈ l') : ∃ a ∈ l, f a = .ok b := by
  induction l generalizing l' with
  | nil =>
    simp only [List.mapM_nil, pure_eq_ok_iff] at h
    subst h
    simp at hb
  | cons a l ih =>
    simp only [List.mapM_cons, bind_eq_ok_iff, pure_eq_ok_iff] at h
    obtain ⟨b', hb', rest, hr, rfl⟩ := h
    rcases List.mem_cons.1 hb with rfl | hb
    · exact ⟨a, List.mem_cons_self .., hb'⟩
    · obtain ⟨a', ha', hf⟩ := ih hr hb
      exact ⟨a', List.mem_cons_of_mem _ ha', hf⟩

theorem foldlM_preserves {f : β → α → Except ε β} {p : β → Prop} {l : List α} {b b' : β}
    (step : ∀ b a b', p b → f b a = .ok b' → p b') (hb : p b)
    (h : l.foldlM f b = .ok b') : p b' := by
  induction l generalizing b with
  | nil =>
    simp only [List.foldlM_nil, pure_eq_ok_iff] at h
    subst h; exact hb
  | cons a l ih =>
    simp only [List.foldlM_cons, bind_eq_ok_iff] at h
    obtain ⟨next, hn, h⟩ := h
    exact ih (step b a next hb hn) h

theorem exists_of_foldlM_error {f : β → α → Except ε β} {l : List α} {b : β} {e : ε}
    (h : l.foldlM f b = .error e) :
    ∃ before a after b', l = before ++ a :: after ∧ before.foldlM f b = .ok b' ∧
      f b' a = .error e := by
  induction l generalizing b with
  | nil => simp [pure, Except.pure] at h
  | cons a l ih =>
    cases hf : f b a with
    | error e' =>
      refine ⟨[], a, l, b, rfl, rfl, ?_⟩
      simpa [hf, error_bind] using h
    | ok next =>
      rw [List.foldlM_cons, hf, ok_bind] at h
      obtain ⟨before, a', after, b', rfl, hb, he⟩ := ih h
      exact ⟨a :: before, a', after, b', rfl, by simp [hf, ok_bind, hb], he⟩

end

-- ---------------------------------------------------------------------------
-- Failures of one kind
-- ---------------------------------------------------------------------------

section

variable {α β : Type}

def upToKind (x : Except EvalError α) : Except ErrorKind α := x.mapError EvalError.kind

@[simp] theorem upToKind_ok (a : α) : upToKind (.ok a) = .ok a := rfl

@[simp] theorem upToKind_error (e : EvalError) :
    upToKind (.error e : Except EvalError α) = .error e.kind := rfl

theorem upToKind_eq_ok_iff {x : Except EvalError α} {a : α} : upToKind x = .ok a ↔ x = .ok a := by
  cases x <;> simp

theorem upToKind_pure (a : α) : upToKind (pure a) = pure a := rfl

theorem upToKind_bind (x : Except EvalError α) (f : α → Except EvalError β) :
    upToKind (x >>= f) = upToKind x >>= fun a => upToKind (f a) := by
  cases x <;> rfl

end

-- ---------------------------------------------------------------------------
-- The row limit
-- ---------------------------------------------------------------------------

def Config.limited (config : Config) (operator : Operator) (result : Except EvalError Relation) :
    Except EvalError Relation := do
  let r ← result
  config.checkLimit operator r
  return r

theorem Config.checkLimit_eq_ok_iff {config : Config} {operator : Operator} {r : Relation} :
    config.checkLimit operator r = .ok () ↔
      ∀ limit, config.maxRows = some limit → r.size ≤ limit := by
  unfold checkLimit
  split
  · rename_i limit hl
    simp [hl]
  · rename_i hl
    simp [hl]

theorem Config.limited_eq_ok_iff {config : Config} {operator : Operator}
    {result : Except EvalError Relation} {r : Relation} :
    config.limited operator result = .ok r ↔
      result = .ok r ∧ config.checkLimit operator r = .ok () := by
  simp only [limited, bind_eq_ok_iff, pure_eq_ok_iff]
  constructor
  · rintro ⟨_, hr, _, hl, rfl⟩
    exact ⟨hr, hl⟩
  · rintro ⟨hr, hl⟩
    exact ⟨r, hr, (), hl, rfl⟩

theorem Config.checkLimit_eq_error_iff {config : Config} {operator : Operator} {r : Relation}
    {e : EvalError} :
    config.checkLimit operator r = .error e ↔
      ∃ limit, config.maxRows = some limit ∧ limit < r.size ∧
        e = .rowLimitExceeded operator limit := by
  unfold checkLimit
  split
  · rename_i limit hl
    by_cases hlt : limit < r.size <;> simp [hl, hlt, eq_comm]
  · rename_i hl
    simp [hl]

theorem Config.limited_eq_error_iff {config : Config} {operator : Operator}
    {result : Except EvalError Relation} {e : EvalError} :
    config.limited operator result = .error e ↔
      result = .error e ∨ ∃ r, result = .ok r ∧ config.checkLimit operator r = .error e := by
  cases result with
  | error e' => simp [limited, error_bind]
  | ok r =>
    cases hl : config.checkLimit operator r <;>
      simp [limited, ok_bind, error_bind, hl, pure, Except.pure]

theorem Config.limited_limited (config : Config) (outer inner : Operator)
    (result : Except EvalError Relation) :
    config.limited outer (config.limited inner result) = config.limited inner result := by
  cases h : config.limited inner result with
  | error e => rfl
  | ok r =>
    have hl := checkLimit_eq_ok_iff.1 (limited_eq_ok_iff.1 h).2
    exact limited_eq_ok_iff.2 ⟨rfl, checkLimit_eq_ok_iff.2 hl⟩

theorem Config.outcome_settle (config : Config) (operator : Operator) (result : Logged Relation) :
    (config.settle operator result).outcome = config.limited operator result.outcome := by
  cases hr : result.outcome with
  | error e => rw [settle_of_error hr]; rfl
  | ok r =>
    cases hl : config.checkLimit operator r with
    | error e => rw [settle_of_limit hr hl]; simp [limited, bind, Except.bind, hl]
    | ok _ => rw [settle_of_ok hr hl]; simp [limited, bind, Except.bind, pure, Except.pure, hl]

-- ---------------------------------------------------------------------------
-- The outcome of a query from the outcomes of its operands
-- ---------------------------------------------------------------------------

namespace Query

variable (config : Config) (db : Database)

theorem outcome_relvar (name : String) :
    ((relvar name).eval config db).outcome = config.limited .relvar (db.relvar name) :=
  config.outcome_settle ..

theorem outcome_constant (rows : List (List Expr)) :
    ((constant rows).eval config db).outcome =
      config.limited .constant (Relation.ofExprs rows) :=
  config.outcome_settle ..

theorem outcome_rename (renamings : List Renaming) (input : Query) :
    ((rename renamings input).eval config db).outcome =
      config.limited .rename ((input.eval config db).outcome >>= fun r => r.rename renamings) := by
  refine (config.outcome_settle ..).trans ?_
  simp only [Logged.outcome_bind]; rfl

theorem outcome_project (items : List ProjectItem) (input : Query) :
    ((project items input).eval config db).outcome =
      config.limited .project ((input.eval config db).outcome >>= fun r =>
        expandItems db items >>= fun exprs => r.project exprs) := by
  refine (config.outcome_settle ..).trans ?_
  simp only [Logged.outcome_bind]; rfl

theorem outcome_select (condition : Expr) (input : Query) :
    ((select condition input).eval config db).outcome =
      config.limited .select ((input.eval config db).outcome >>= fun r => r.select condition) := by
  refine (config.outcome_settle ..).trans ?_
  simp only [Logged.outcome_bind]; rfl

theorem outcome_cross (left right : Query) :
    ((cross left right).eval config db).outcome =
      config.limited .cross ((left.eval config db).outcome >>= fun l =>
        (right.eval config db).outcome >>= fun r => l.cross r) := by
  refine (config.outcome_settle ..).trans ?_
  simp only [Logged.outcome_bind]; rfl

theorem outcome_setOp (op : SetOp) (left right : Query) :
    ((setOp op left right).eval config db).outcome =
      config.limited (.setOp op) ((left.eval config db).outcome >>= fun l =>
        (right.eval config db).outcome >>= fun r => l.combine op r) := by
  refine (config.outcome_settle ..).trans ?_
  simp only [Logged.outcome_bind]; rfl

theorem outcome_join (kind : JoinKind) (condition : Option Expr) (left right : Query) :
    ((join kind condition left right).eval config db).outcome =
      config.limited (.join kind) ((left.eval config db).outcome >>= fun l =>
        (right.eval config db).outcome >>= fun r => l.join kind condition r) := by
  refine (config.outcome_settle ..).trans ?_
  simp only [Logged.outcome_bind]; rfl

theorem outcome_divide (left right : Query) :
    ((divide left right).eval config db).outcome =
      config.limited .divide ((left.eval config db).outcome >>= fun l =>
        (right.eval config db).outcome >>= fun r => l.divide r) := by
  refine (config.outcome_settle ..).trans ?_
  simp only [Logged.outcome_bind]; rfl

theorem outcome_group (keys aggregates : List Expr) (input : Query) :
    ((group keys aggregates input).eval config db).outcome =
      config.limited .group (aggregates.mapM AggregateColumn.ofExpr >>= fun columns =>
        (input.eval config db).outcome >>= fun r => r.group keys columns) := by
  refine (config.outcome_settle ..).trans ?_
  simp only [Logged.outcome_bind]; rfl

theorem outcome_parens (inner : Query) :
    ((parens inner).eval config db).outcome =
      config.limited .parens (inner.eval config db).outcome :=
  config.outcome_settle ..

end Query

end Relational
