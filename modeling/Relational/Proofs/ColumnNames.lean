import Relational.Proofs.Grouping
import Relational.Proofs.Wrappers

/-!
# The names of aggregate columns

A projection finds the name of a column anywhere in the chain of names around an expression, the
outermost one first. An aggregate column takes the name that is given at the outermost level and
looks no further: with none there it falls back on its function and argument, even where a name
is given further in (`names_of_aggregateColumn`).
-/

namespace Relational

def Expr.givenName : Expr → Option String
  | .named _ name => name
  | .literal _ | .attr _ | .unary .. | .binary .. | .call .. => none

theorem Expr.outputName_of_givenName {expr : Expr} {name : String}
    (h : expr.givenName = some name) : expr.outputName = some name := by
  cases expr with
  | named inner given =>
    obtain rfl : given = some name := h
    rfl
  | literal | attr | unary | binary | call => cases h

namespace AggregateColumn

variable {expr : Expr} {functionName name attr : String} {args : List Expr} {arg : Expr}
  {function : AggregateFunction} {argument : Option Expr}

theorem nameOf_eq_elim (expr : Expr) (function : AggregateFunction) (argument : Option Expr) :
    nameOf expr function argument =
      expr.givenName.elim (defaultName function argument) .ok := by
  cases expr with
  | named inner given => cases given <;> rfl
  | literal | attr | unary | binary | call => rfl

-- ---------------------------------------------------------------------------
-- Names that are not given
-- ---------------------------------------------------------------------------

theorem defaultName_of_attr (h : arg.unnamed = .attr attr) :
    defaultName function (some arg) =
      .ok (function.name ++ "(" ++ localName attr ++ ")") := by
  simp only [defaultName, Option.map_some, h]

theorem defaultName_of_not_attr (h : ∀ attr, arg.unnamed ≠ .attr attr) :
    defaultName function (some arg) = .error (.unnamedAttribute (.aggregate function)) := by
  simp only [defaultName, Option.map_some]

-- ---------------------------------------------------------------------------
-- Calls under names
-- ---------------------------------------------------------------------------

theorem map_mk_eq_ok_iff {found : Except EvalError String} :
    mk function argument <$> found = .ok ⟨function, argument, name⟩ ↔ found = .ok name := by
  cases found <;> simp

section

variable (hcall : expr.unnamed = .call functionName args)
  (hf : AggregateFunction.find? functionName = some function)
  (ha : argumentOf function args = .ok argument)

include hcall hf ha

theorem ofExpr_of_call :
    ofExpr expr =
      mk function argument <$> expr.givenName.elim (defaultName function argument) .ok := by
  rw [ofExpr_eq, hcall]
  simp only [hf, ha, ok_bind, nameOf_eq_elim, bind_pure_comp]

theorem ofExpr_of_given (h : expr.givenName = some name) :
    ofExpr expr = .ok ⟨function, argument, name⟩ := by
  rw [ofExpr_of_call hcall hf ha, h]
  rfl

theorem ofExpr_of_not_given (h : expr.givenName = none) :
    ofExpr expr = mk function argument <$> defaultName function argument := by
  rw [ofExpr_of_call hcall hf ha, h]
  rfl

theorem ofExpr_eq_ok_iff :
    ofExpr expr = .ok ⟨function, argument, name⟩ ↔
      expr.givenName = some name ∨
        expr.givenName = none ∧ defaultName function argument = .ok name := by
  rw [ofExpr_of_call hcall hf ha]
  cases expr.givenName with
  | none => simp [map_mk_eq_ok_iff]
  | some given => simp

theorem ofExpr_eq_ok_iff_of_outputName (ho : expr.outputName = some name) :
    ofExpr expr = .ok ⟨function, argument, name⟩ ↔
      expr.givenName = some name ∨ defaultName function argument = .ok name := by
  rw [ofExpr_eq_ok_iff hcall hf ha]
  cases hg : expr.givenName with
  | none => simp
  | some given =>
    -- a name at the outermost level is the one that a projection finds
    have hgiven : given = name :=
      Option.some.inj ((Expr.outputName_of_givenName hg).symm.trans ho)
    simp [hgiven]

/-- One more level without a name hides the name that is given below it. -/
theorem ofExpr_named_none_iff :
    ofExpr (.named expr none) = ofExpr expr ↔
      ∀ name, expr.givenName = some name → defaultName function argument = .ok name := by
  have hnone : ofExpr (.named expr none) = mk function argument <$> defaultName function argument :=
    ofExpr_of_not_given hcall hf ha rfl
  rw [hnone]
  cases hg : expr.givenName with
  | none => simp [ofExpr_of_not_given hcall hf ha hg]
  | some given =>
    simp [ofExpr_of_given hcall hf ha hg, map_mk_eq_ok_iff]

end

/-- The column of an aggregate call under any names has the name that is given at the outermost
level, which is then the one that a projection finds. If there is none, it is named for its
function and argument: `count(*)` without an argument, the function over the local name of an
attribute, and no name at all for other arguments, which is an error. So a name that a projection
finds is that of the column if and only if it is given at the outermost level or is the one made
of function and argument, and one more level without a name changes nothing if and only if no
other name than this is given at the outermost level. -/
theorem names_of_aggregateColumn (hcall : expr.unnamed = .call functionName args)
    (hf : AggregateFunction.find? functionName = some function)
    (ha : argumentOf function args = .ok argument) :
    (∀ name, expr.givenName = some name →
      expr.outputName = some name ∧ ofExpr expr = .ok ⟨function, argument, name⟩) ∧
    (expr.outputName = none → expr.givenName = none) ∧
    (expr.givenName = none →
      (argument = none → ofExpr expr = .ok ⟨.count, none, "count(*)"⟩) ∧
      (∀ arg attr, argument = some arg → arg.unnamed = .attr attr →
        ofExpr expr = .ok ⟨function, argument, function.name ++ "(" ++ localName attr ++ ")"⟩) ∧
      (∀ arg, argument = some arg → (∀ attr, arg.unnamed ≠ .attr attr) →
        ofExpr expr = .error (.unnamedAttribute (.aggregate function)))) ∧
    (∀ name, expr.outputName = some name →
      (ofExpr expr = .ok ⟨function, argument, name⟩ ↔
        expr.givenName = some name ∨ defaultName function argument = .ok name)) ∧
    (ofExpr (.named expr none) = ofExpr expr ↔
      ∀ name, expr.givenName = some name → defaultName function argument = .ok name) := by
  refine ⟨fun name hg => ?_, fun ho => ?_, fun hg => ⟨?_, ?_, ?_⟩, fun name ho => ?_, ?_⟩
  · exact ⟨Expr.outputName_of_givenName hg, ofExpr_of_given hcall hf ha hg⟩
  · cases hg : expr.givenName with
    | none => rfl
    | some name => simp [Expr.outputName_of_givenName hg] at ho
  · rintro rfl
    obtain rfl := count_of_argumentOf ha
    exact ofExpr_of_not_given hcall hf ha hg
  · rintro arg attr rfl hattr
    rw [ofExpr_of_not_given hcall hf ha hg, defaultName_of_attr hattr]
    rfl
  · rintro arg rfl hattr
    rw [ofExpr_of_not_given hcall hf ha hg, defaultName_of_not_attr hattr]
    rfl
  · exact ofExpr_eq_ok_iff_of_outputName hcall hf ha ho
  · exact ofExpr_named_none_iff hcall hf ha

theorem names_of_aggregateColumn_hidden :
    let argument : Expr := .called (.attr "S.amount") "given"
    let expr : Expr := .named (.called (.call "SUM" [argument]) "total") none
    expr.outputName = some "total" ∧
      ofExpr expr = .ok ⟨.sum, some argument, "sum(amount)"⟩ ∧
      ofExpr (.called expr "all") = .ok ⟨.sum, some argument, "all"⟩ := by
  intro argument expr
  have hf : AggregateFunction.find? "SUM" = some .sum := by decide +kernel
  have ha : argumentOf .sum [argument] = .ok (some argument) := rfl
  have hcall : expr.unnamed = .call "SUM" [argument] := rfl
  obtain ⟨-, -, hdefault, -⟩ := names_of_aggregateColumn hcall hf ha
  have hcalled : (expr.called "all").unnamed = .call "SUM" [argument] := rfl
  obtain ⟨hgiven, -⟩ := names_of_aggregateColumn hcalled hf ha
  exact ⟨rfl, (hdefault rfl).2.1 argument "S.amount" rfl rfl, (hgiven "all" rfl).2⟩

/-- A column is refused for want of a name that it has been given. -/
theorem names_of_aggregateColumn_refused :
    let argument : Expr := .mul (.attr "x") (.number ⟨2, by decide⟩)
    let called : Expr := .called (.call "sum" [argument]) "total"
    let expr : Expr := .named called none
    expr.outputName = some "total" ∧
      ofExpr expr = .error (.unnamedAttribute (.aggregate .sum)) ∧
      ofExpr called = .ok ⟨.sum, some argument, "total"⟩ := by
  intro argument called expr
  have hf : AggregateFunction.find? "sum" = some .sum := AggregateFunction.find?_name .sum
  refine ⟨rfl, ?_, ?_⟩ <;> simp only [ofExpr, expr, called, Expr.called, Expr.unnamed, hf] <;> rfl

end AggregateColumn

end Relational
