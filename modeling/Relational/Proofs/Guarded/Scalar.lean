import Relational.Proofs.Outcome

/-!
# Guarded evaluation of scalar expressions

A guarded computation reads and writes lists by position, and has a fault where
a position is past the end of the list or a row does not fit its attributes. A
fault is not an error of the evaluation: it is what must never happen. Guarded
evaluation takes the steps of evaluation with all these guards and agrees with
it, which says that no guard is ever hit.
-/

namespace Relational

abbrev Guarded := ExceptT EvalError Option

namespace Guarded

variable {α β : Type}

def fault : Guarded α := ExceptT.mk none

def lift (x : Except EvalError α) : Guarded α := ExceptT.mk (some x)

def readAt (l : List α) (i : Nat) : Guarded α :=
  match l[i]? with
  | some a => pure a
  | none => fault

def writeAt (l : List α) (i : Nat) (a : α) : Guarded (List α) :=
  if i < l.length then pure (l.set i a) else fault

def keep (test : α → Guarded Bool) : List α → Guarded (List α)
  | [] => pure []
  | a :: l => do
    let pass ← test a
    let kept ← keep test l
    return if pass then a :: kept else kept

-- ---------------------------------------------------------------------------
-- Agreement
-- ---------------------------------------------------------------------------

/-- No fault occurs, and the outcome is the given one. -/
def Agrees (x : Guarded α) (y : Except EvalError α) : Prop := x.run = some y

theorem Agrees.pure (a : α) : Agrees (Pure.pure a) (.ok a) := rfl

theorem Agrees.lift (x : Except EvalError α) : Agrees (Guarded.lift x) x := rfl

theorem Agrees.bind {x : Guarded α} {y : Except EvalError α} {f : α → Guarded β}
    {g : α → Except EvalError β} (hx : Agrees x y) (hf : ∀ a, y = .ok a → Agrees (f a) (g a)) :
    Agrees (x >>= f) (y >>= g) := by
  have hx : x.run = some y := hx
  rw [Agrees, ExceptT.run_bind, hx]
  cases y with
  | error e => rfl
  | ok a => exact hf a rfl

theorem Agrees.bind_ok {x : Guarded α} {a : α} {f : α → Guarded β} {y : Except EvalError β}
    (hx : Agrees x (.ok a)) (hf : Agrees (f a) y) : Agrees (x >>= f) y :=
  Agrees.bind (g := fun _ => y) hx (by rintro _ ⟨⟩; exact hf)

theorem Agrees.mapM {f : α → Guarded β} {g : α → Except EvalError β} {l : List α}
    (h : ∀ a ∈ l, Agrees (f a) (g a)) : Agrees (l.mapM f) (l.mapM g) := by
  induction l with
  | nil => exact .pure []
  | cons a l ih =>
    rw [List.mapM_cons, List.mapM_cons]
    obtain ⟨ha, hl⟩ := List.forall_mem_cons.1 h
    refine .bind ha fun b _ => .bind (ih hl) fun bs _ => ?_
    exact .pure (b :: bs)

theorem Agrees.mapM_ok {f : α → Guarded β} {g : α → β} {l : List α}
    (h : ∀ a ∈ l, Agrees (f a) (.ok (g a))) : Agrees (l.mapM f) (.ok (l.map g)) := by
  induction l with
  | nil => exact .pure []
  | cons a l ih =>
    rw [List.mapM_cons]
    obtain ⟨ha, hl⟩ := List.forall_mem_cons.1 h
    exact .bind_ok ha (.bind_ok (ih hl) (.pure _))

theorem Agrees.foldlM_of {f : β → α → Guarded β} {g : β → α → Except EvalError β} {l : List α}
    {p : β → Prop} {b : β} (hb : p b) (h : ∀ b, p b → ∀ a ∈ l, Agrees (f b a) (g b a))
    (step : ∀ b a b', p b → g b a = .ok b' → p b') : Agrees (l.foldlM f b) (l.foldlM g b) := by
  induction l generalizing b with
  | nil => exact .pure b
  | cons a l ih =>
    rw [List.foldlM_cons, List.foldlM_cons]
    refine .bind (h b hb a (List.mem_cons_self ..)) fun b' hb' => ?_
    exact ih (step b a b' hb hb') fun b hb a ha => h b hb a (List.mem_cons_of_mem _ ha)

theorem Agrees.foldlM {f : β → α → Guarded β} {g : β → α → Except EvalError β} {l : List α}
    (h : ∀ b, ∀ a ∈ l, Agrees (f b a) (g b a)) (b : β) : Agrees (l.foldlM f b) (l.foldlM g b) :=
  .foldlM_of trivial (fun b _ => h b) fun _ _ _ _ _ => trivial

theorem Agrees.foldlM_ok {f : β → α → Guarded β} {g : β → α → β} {l : List α}
    (h : ∀ b, ∀ a ∈ l, Agrees (f b a) (.ok (g b a))) (b : β) :
    Agrees (l.foldlM f b) (.ok (l.foldl g b)) := by
  have hpure : l.foldlM (fun b a => (.ok (g b a) : Except EvalError β)) b = .ok (l.foldl g b) :=
    List.foldlM_pure ..
  exact hpure ▸ .foldlM h b

theorem Agrees.keep {f : α → Guarded Bool} {g : α → Except EvalError Bool} {l : List α}
    (h : ∀ a ∈ l, Agrees (f a) (g a)) : Agrees (Guarded.keep f l) (keepM g l) := by
  induction l with
  | nil => exact .pure []
  | cons a l ih =>
    obtain ⟨ha, hl⟩ := List.forall_mem_cons.1 h
    refine .bind ha fun pass _ => .bind (ih hl) fun kept _ => ?_
    exact .pure _

theorem Agrees.readAt {l : List α} {i : Nat} (h : i < l.length) (default : α) :
    Agrees (Guarded.readAt l i) (.ok (l.getD i default)) := by
  have hl : l.getD i default = l[i] := by simp [h]
  rw [Guarded.readAt, List.getElem?_eq_getElem h, hl]
  exact .pure _

theorem Agrees.writeAt {l : List α} {i : Nat} (h : i < l.length) (a : α) :
    Agrees (Guarded.writeAt l i a) (.ok (l.set i a)) := by
  rw [Guarded.writeAt, if_pos h]
  exact .pure _

theorem map_getD_range (l : List α) (default : α) :
    (List.range l.length).map (fun i => l.getD i default) = l := by
  refine List.ext_getElem (by simp) fun i _ hi => ?_
  simp [List.getElem?_eq_getElem hi]

end Guarded

open Guarded (Agrees)

-- ---------------------------------------------------------------------------
-- Environments
-- ---------------------------------------------------------------------------

structure Environment where
  attributes : List Attribute
  values : List Value
  aligned : attributes.length = values.length

namespace Environment

/-- There is an environment only if there are as many values as attributes. -/
def of (attributes : List Attribute) (values : List Value) : Guarded Environment :=
  if h : attributes.length = values.length then pure ⟨attributes, values, h⟩ else .fault

def empty : Environment := ⟨[], [], rfl⟩

def get (env : Environment) (name : String) : Guarded Value := do
  let i ← .lift (resolve name env.attributes)
  .readAt env.values i

def scope (env : Environment) : Scope := env.attributes.zip env.values

theorem of_agrees {attributes : List Attribute} {values : List Value}
    (h : attributes.length = values.length) :
    Agrees (of attributes values) (.ok ⟨attributes, values, h⟩) := by
  rw [of, dif_pos h]
  exact .pure _

end Environment

theorem lookup_map {α β : Type} (f : α → β) (name : String) (entries : List (Attribute × α)) :
    lookup name (entries.map fun entry => (entry.1, f entry.2)) = f <$> lookup name entries := by
  rw [lookup, candidates_map, lookup]
  rcases candidates name entries with _ | ⟨_, _ | _⟩ <;> rfl

theorem zip_eq_map_zipIdx {attributes : List Attribute} {values : List Value}
    (h : attributes.length = values.length) :
    attributes.zip values = attributes.zipIdx.map fun entry => (entry.1, values.getD entry.2 .null) := by
  refine List.ext_getElem (by simp [h]) fun i hi _ => ?_
  have hv : i < values.length := by simp at hi; omega
  simp [hv]

theorem Environment.get_agrees (env : Environment) (name : String) :
    Agrees (env.get name) (lookup name env.scope) := by
  rw [scope, zip_eq_map_zipIdx env.aligned,
    lookup_map fun i => env.values.getD i .null, map_eq_pure_bind]
  refine .bind (.lift _) fun i hi => ?_
  exact .readAt (env.aligned ▸ lt_length_of_resolve hi) .null

-- ---------------------------------------------------------------------------
-- Functions and expressions
-- ---------------------------------------------------------------------------

namespace ScalarFunction

def applyGuarded (f : ScalarFunction) (args : List Value) : Guarded Value :=
  match f with
  | abs => do .lift (absolute (← Guarded.readAt args 0))
  | length => do .lift (lengthOf (← Guarded.readAt args 0))
  | lower => do .lift (lowered (← Guarded.readAt args 0))
  | upper => do .lift (uppered (← Guarded.readAt args 0))
  | mod => do
    let a ← Guarded.readAt args 0
    let b ← Guarded.readAt args 1
    .lift (modulo a b)

def callGuarded (f : ScalarFunction) (args : List Value) : Guarded Value :=
  if args.length ≠ f.arity then
    .lift (.error (.arityMismatch (.call f) f.arity args.length))
  else if args.any Value.isNull then pure .null
  else f.applyGuarded args

theorem applyGuarded_agrees {f : ScalarFunction} {args : List Value} (h : args.length = f.arity) :
    Agrees (f.applyGuarded args) (f.apply args) := by
  cases f with
  | mod =>
    obtain ⟨a, _, rfl⟩ := List.exists_cons_of_length_eq_add_one h
    obtain ⟨b, rfl⟩ := List.length_eq_one_iff.1 (Nat.succ.inj h)
    exact .bind_ok (.pure a) (.bind_ok (.pure b) (.lift _))
  | _ =>
    obtain ⟨a, rfl⟩ := List.length_eq_one_iff.1 h
    exact .bind_ok (.pure a) (.lift _)

/-- A function that is called with too few arguments has a fault. -/
example : (mod.applyGuarded [.null]).run = none := rfl

theorem callGuarded_agrees (f : ScalarFunction) (args : List Value) :
    Agrees (f.callGuarded args) (f.call args) := by
  unfold callGuarded
  split
  · rename_i hl
    rw [call_of_length_ne hl]
    exact .lift _
  · rename_i hl
    have hl : args.length = f.arity := Decidable.not_not.1 hl
    unfold call
    split
    · rename_i hn
      rw [if_pos ⟨hl, hn⟩]
      exact .pure _
    · rename_i hn
      rw [if_neg fun h => hn h.2]
      exact applyGuarded_agrees hl

end ScalarFunction

mutual

def Expr.evalGuarded (env : Environment) : Expr → Guarded Value
  | .literal v => pure v
  | .attr name => env.get name
  | .unary op operand => do .lift (op.apply (← operand.evalGuarded env))
  | .binary (.arithmetic op) left right => do
    let a ← left.evalGuarded env
    let b ← right.evalGuarded env
    .lift (op.apply a b)
  | .binary (.comparison op) left right => do
    let a ← left.evalGuarded env
    let b ← right.evalGuarded env
    .lift (op.apply a b)
  | .binary (.logical op) left right => do
    let a ← left.evalGuarded env
    let s ← .lift (op.leftTruth a)
    if s = some op.dominant then
      return .boolean op.dominant
    else
      let b ← right.evalGuarded env
      let t ← .lift (op.rightTruth a b)
      return (op.combine s t).toValue
  | .call name args => do
    let f ← .lift (ScalarFunction.find name)
    let vs ← Expr.evalAllGuarded env args
    f.callGuarded vs
  | .named expr _ => expr.evalGuarded env

def Expr.evalAllGuarded (env : Environment) : List Expr → Guarded (List Value)
  | [] => pure []
  | expr :: rest => do
    let v ← expr.evalGuarded env
    let vs ← Expr.evalAllGuarded env rest
    return v :: vs

end

def Expr.holdsGuarded (env : Environment) (condition : Expr) : Guarded Bool := do
  match ← condition.evalGuarded env with
  | .boolean b => return b
  | .null => return false
  | v => .lift (.error (.typeMismatch .predicate v.kind none))

mutual

theorem Expr.evalGuarded_agrees (env : Environment) (expr : Expr) :
    Agrees (expr.evalGuarded env) (expr.eval env.scope) := by
  match expr with
  | .literal v => exact .pure v
  | .attr name => exact env.get_agrees name
  | .unary op operand =>
    rw [evalGuarded, eval]
    exact .bind (operand.evalGuarded_agrees env) fun v _ => .lift _
  | .binary (.arithmetic op) left right =>
    rw [evalGuarded, eval]
    refine .bind (left.evalGuarded_agrees env) fun a _ => ?_
    exact .bind (right.evalGuarded_agrees env) fun b _ => .lift _
  | .binary (.comparison op) left right =>
    rw [evalGuarded, eval]
    refine .bind (left.evalGuarded_agrees env) fun a _ => ?_
    exact .bind (right.evalGuarded_agrees env) fun b _ => .lift _
  | .binary (.logical op) left right =>
    rw [evalGuarded, eval]
    refine .bind (left.evalGuarded_agrees env) fun a _ => .bind (.lift _) fun s _ => ?_
    -- The right operand is left alone where the left one decides.
    split
    · exact .pure _
    · exact .bind (right.evalGuarded_agrees env) fun b _ => .bind (.lift _) fun t _ => .pure _
  | .call name args =>
    rw [evalGuarded, eval]
    refine .bind (.lift _) fun f _ => .bind (Expr.evalAllGuarded_agrees env args) fun vs _ => ?_
    exact f.callGuarded_agrees vs
  | .named expr _ =>
    rw [evalGuarded, eval]
    exact expr.evalGuarded_agrees env

theorem Expr.evalAllGuarded_agrees (env : Environment) (exprs : List Expr) :
    Agrees (Expr.evalAllGuarded env exprs) (Expr.evalAll env.scope exprs) := by
  match exprs with
  | [] => exact .pure []
  | expr :: rest =>
    rw [evalAllGuarded, evalAll]
    refine .bind (expr.evalGuarded_agrees env) fun v _ => ?_
    exact .bind (Expr.evalAllGuarded_agrees env rest) fun vs _ => .pure _

end

theorem Expr.holdsGuarded_agrees (env : Environment) (condition : Expr) :
    Agrees (condition.holdsGuarded env) (condition.holds env.scope) := by
  refine .bind (condition.evalGuarded_agrees env) fun v _ => ?_
  cases v with
  | boolean b => exact .pure b
  | null => exact .pure false
  | _ => exact .lift _

end Relational
