import Relational.Proofs.Guarded.Scalar

/-!
# What evaluation reads in a scope

The value of an expression comes from a scope through the look-ups of the names that the
expression refers to. A look-up has the same outcome in any order of the columns, whatever
values the columns have that the name does not mean, and whatever unnamed columns there are
besides, so evaluation has the same outcome too, the same error included
(`eval_of_other_scopes`).
-/

namespace Relational

-- ---------------------------------------------------------------------------
-- Look-ups in two scopes
-- ---------------------------------------------------------------------------

theorem lookup_perm {α : Type} {entries entries' : List (Attribute × α)}
    (h : entries.Perm entries') (name : String) : lookup name entries = lookup name entries' := by
  have hc : (candidates name entries).Perm (candidates name entries') := (h.filter _).map _
  unfold lookup
  generalize candidates name entries = found, candidates name entries' = found' at hc
  match found, found' with
  | [], _ =>
    obtain rfl := hc.nil_eq
    rfl
  | [a], _ =>
    obtain rfl := hc.singleton_eq
    rfl
  | _ :: _ :: _, [] => exact absurd hc.length_eq (by simp)
  | _ :: _ :: _, [_] => exact absurd hc.length_eq (by simp)
  | _ :: _ :: _, _ :: _ :: _ => rfl

namespace Scope

variable {scope scope' : Scope} {name : String}

def attributes (scope : Scope) : List Attribute := scope.map Prod.fst

theorem lookup_eq_map_resolve (name : String) (scope : Scope) :
    lookup name scope =
      (fun i => (scope.map Prod.snd).getD i .null) <$> resolve name scope.attributes := by
  have hzip : scope.attributes.zip (scope.map Prod.snd) = scope := by
    simp [attributes, List.zip_map']
  calc lookup name scope
      = lookup name (scope.attributes.zip (scope.map Prod.snd)) := by rw [hzip]
    _ = _ := by
      rw [zip_eq_map_zipIdx (by simp [attributes]),
        lookup_map fun i => (scope.map Prod.snd).getD i .null, resolve]

theorem lookup_congr (ha : scope'.attributes = scope.attributes)
    (h : ∀ i, resolve name scope.attributes = .ok i → scope'[i]? = scope[i]?) :
    lookup name scope' = lookup name scope := by
  rw [lookup_eq_map_resolve, lookup_eq_map_resolve, ha]
  cases hr : resolve name scope.attributes with
  | error e => rfl
  | ok i => exact congrArg Except.ok (by simp [h i hr])

/-- The second scope is the first with unnamed columns put in, anywhere and with any values. -/
inductive Pads : Scope → Scope → Prop
  | nil : Pads [] []
  | kept (entry : Attribute × Value) {scope scope' : Scope} : Pads scope scope' →
      Pads (entry :: scope) (entry :: scope')
  | unnamed (v : Value) {scope scope' : Scope} : Pads scope scope' →
      Pads scope ((none, v) :: scope')

theorem Pads.candidates_eq (h : Pads scope scope') (name : String) :
    candidates name scope' = candidates name scope := by
  induction h with
  | nil => rfl
  | kept entry _ ih => simp [candidates_cons, ih]
  | unnamed v _ ih => simp [candidates_cons, Attribute.answersTo, ih]

theorem Pads.lookup_eq (h : Pads scope scope') (name : String) :
    lookup name scope' = lookup name scope := by
  simp only [lookup, h.candidates_eq]

end Scope

-- ---------------------------------------------------------------------------
-- Expressions in two scopes
-- ---------------------------------------------------------------------------

namespace Expr

mutual

def references : Expr → List String
  | literal _ => []
  | attr name => [name]
  | unary _ operand => operand.references
  | binary _ left right => left.references ++ right.references
  | call _ args => allReferences args
  | named expr _ => expr.references

def allReferences : List Expr → List String
  | [] => []
  | expr :: rest => expr.references ++ allReferences rest

end

variable {scope scope' : Scope}

mutual

/-- Evaluation reads a scope through the look-ups of the names that are referred to. -/
theorem eval_congr (expr : Expr)
    (h : ∀ name ∈ expr.references, lookup name scope = lookup name scope') :
    expr.eval scope = expr.eval scope' := by
  match expr with
  | literal v => rfl
  | attr name => exact h name (List.mem_singleton_self name)
  | unary op operand => simp only [eval, operand.eval_congr h]
  | binary op left right =>
    have hl := left.eval_congr fun name hn => h name (List.mem_append_left _ hn)
    have hr := right.eval_congr fun name hn => h name (List.mem_append_right _ hn)
    cases op <;> simp only [eval, hl, hr]
  | call name args => simp only [eval, evalAll_congr args h]
  | named expr _ => simp only [eval, expr.eval_congr h]

theorem evalAll_congr (exprs : List Expr)
    (h : ∀ name ∈ allReferences exprs, lookup name scope = lookup name scope') :
    evalAll scope exprs = evalAll scope' exprs := by
  match exprs with
  | [] => rfl
  | expr :: rest =>
    have hfirst := expr.eval_congr fun name hn => h name (List.mem_append_left _ hn)
    have hrest := evalAll_congr rest fun name hn => h name (List.mem_append_right _ hn)
    simp only [evalAll, hfirst, hrest]

end

theorem eval_perm (h : scope.Perm scope') (expr : Expr) : expr.eval scope = expr.eval scope' :=
  expr.eval_congr fun name _ => lookup_perm h name

/-- Evaluation has the same outcome, be it a value or an error, in every order of the columns;
whatever values stand in columns that no name in the expression is resolved to; and however many
unnamed columns are put in, wherever they are put and whatever their values are. -/
theorem eval_of_other_scopes (expr : Expr) (scope : Scope) :
    (∀ scope' : Scope, scope'.Perm scope → expr.eval scope' = expr.eval scope) ∧
    (∀ scope' : Scope, scope'.attributes = scope.attributes →
      (∀ i, scope'[i]? ≠ scope[i]? →
        ∀ name ∈ expr.references, resolve name scope.attributes ≠ .ok i) →
      expr.eval scope' = expr.eval scope) ∧
    ∀ scope' : Scope, scope.Pads scope' → expr.eval scope' = expr.eval scope := by
  refine ⟨fun scope' h => eval_perm h expr, fun scope' ha h => ?_, fun scope' h => ?_⟩
  · refine expr.eval_congr fun name hn => Scope.lookup_congr ha fun i hi => ?_
    exact Decidable.not_not.1 fun hne => h i hne name hn hi
  · exact expr.eval_congr fun name _ => h.lookup_eq name

theorem eval_of_other_scopes_ambiguous :
    let expr : Expr := .add (.attr "S.a") (.neg (.attr "a"))
    let scope : Scope := [(some "R.a", .text "x"), (some "S.a", .number .one), (some "b", .null)]
    let turned : Scope := [(some "b", .null), (some "R.a", .text "x"), (some "S.a", .number .one)]
    let changed : Scope := [(some "R.a", .null), (some "S.a", .number .one), (some "b", .text "y")]
    let padded : Scope := (none, .null) :: scope ++ [(none, .boolean true)]
    expr.eval scope = .error (.ambiguousAttribute "a") ∧ turned.Perm scope ∧
      changed.attributes = scope.attributes ∧ scope.Pads padded ∧
      expr.eval turned = expr.eval scope ∧ expr.eval changed = expr.eval scope ∧
      expr.eval padded = expr.eval scope := by
  intro expr scope turned changed padded
  obtain ⟨hperm, hvalues, hpads⟩ := eval_of_other_scopes expr scope
  have ht : turned.Perm scope := by decide
  have hc : changed.attributes = scope.attributes := rfl
  have hp : scope.Pads padded := .unnamed _ (.kept _ (.kept _ (.kept _ (.unnamed _ .nil))))
  have hresolved : resolve "S.a" scope.attributes = .ok 1 := rfl
  have hambiguous : resolve "a" scope.attributes = .error (.ambiguousAttribute "a") := rfl
  refine ⟨rfl, ht, hc, hp, hperm turned ht, hvalues changed hc ?_, hpads padded hp⟩
  intro i hi name hn
  obtain rfl | rfl : name = "S.a" ∨ name = "a" := by
    simpa [expr, Expr.add, Expr.neg, references] using hn
  · rw [hresolved]
    rintro ⟨⟩
    exact hi rfl
  · rw [hambiguous]
    exact nofun

end Expr

end Relational
