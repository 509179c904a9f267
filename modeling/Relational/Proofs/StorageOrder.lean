import Mathlib.Data.Ordering.Basic
import Mathlib.Order.Defs.Unbundled
import Relational.Proofs.Accumulation

/-!
# The storage order

Values are ordered by kind and then by content, texts by code points, which is the order of
their bytes in UTF-8, and rows by the first value in which they differ. Both orders are strict
and total. A comparison of two values is about the storage order too, but only of values of one
kind other than null (`storage_order`).
-/

namespace Relational

-- ---------------------------------------------------------------------------
-- Texts and their bytes
-- ---------------------------------------------------------------------------

section

variable {c d : Char} {s t : String}

theorem utf8EncodeChar_append_lt (h : c < d) (rest rest' : List UInt8) :
    String.utf8EncodeChar c ++ rest < String.utf8EncodeChar d ++ rest' := by
  have hcd : c.val.toNat < d.val.toNat := h
  have hd : d.val.toNat < 1114112 := by
    rcases d.valid with hv | hv
    · exact Nat.lt_trans hv (by decide)
    · exact hv.2
  unfold String.utf8EncodeChar
  dsimp only
  generalize c.val.toNat = m, d.val.toNat = n at *
  split_ifs <;>
    simp (disch := omega) only [List.cons_append, List.nil_append, List.cons_lt_cons_iff,
      UInt8.lt_iff_toNat_lt, ← UInt8.toNat_inj, UInt8.toNat_ofNat', Nat.mod_eq_of_lt] <;> omega

theorem utf8EncodeChar_ne_nil (c : Char) : String.utf8EncodeChar c ≠ [] := by
  unfold String.utf8EncodeChar
  dsimp only
  split_ifs <;> simp

theorem flatMap_utf8EncodeChar_lt {l l' : List Char} (h : List.Lex (· < ·) l l') :
    l.flatMap String.utf8EncodeChar < l'.flatMap String.utf8EncodeChar := by
  induction h with
  | @nil d l' =>
    obtain ⟨byte, rest, hbytes⟩ := List.exists_cons_of_ne_nil (utf8EncodeChar_ne_nil d)
    simp [hbytes]
  | rel hcd =>
    rw [List.flatMap_cons, List.flatMap_cons]
    exact utf8EncodeChar_append_lt hcd _ _
  | cons _ ih =>
    rw [List.flatMap_cons, List.flatMap_cons]
    exact List.append_left_lt ih

theorem toList_data_toUTF8 (s : String) :
    s.toUTF8.data.toList = s.toList.flatMap String.utf8EncodeChar := by
  have hs : s.toList.utf8Encode = s.toByteArray := by simp
  simp [String.toUTF8_eq_toByteArray, ← hs, List.utf8Encode]

/-- What is greater for greater texts orders them. -/
theorem lt_iff_of_increasing {α : Type} [LT α] [Std.Asymm (α := α) (· < ·)] {f : String → α}
    (hf : ∀ s t, s < t → f s < f t) : s < t ↔ f s < f t := by
  refine ⟨hf s t, fun h => ?_⟩
  rcases Std.lt_trichotomy s t with hst | rfl | hts
  · exact hst
  · exact absurd h (Std.Asymm.asymm _ _ h)
  · exact absurd h (Std.Asymm.asymm _ _ (hf t s hts))

theorem lt_iff_toUTF8_lt : s < t ↔ s.toUTF8.data.toList < t.toUTF8.data.toList := by
  refine lt_iff_of_increasing (f := fun s => s.toUTF8.data.toList) fun s t h => ?_
  simpa only [toList_data_toUTF8] using flatMap_utf8EncodeChar_lt h

theorem lt_iff_map_toNat_lt : s < t ↔ s.toList.map Char.toNat < t.toList.map Char.toNat :=
  lt_iff_of_increasing (f := fun s => s.toList.map Char.toNat) fun _ _ h =>
    List.map_lt (fun _ _ hcd => hcd) h

end

-- ---------------------------------------------------------------------------
-- The order of values and of rows
-- ---------------------------------------------------------------------------

theorem existsUnique_compares {α : Type} [LT α] (h : IsStrictTotalOrder α (· < ·)) (a b : α) :
    ∃! order : Ordering, order.Compares a b := by
  have hasymm {a b : α} (hab : a < b) : ¬ b < a := fun hba => h.irrefl a (h.trans a b a hab hba)
  have hne {a b : α} (hab : a < b) : a ≠ b := fun he => h.irrefl a (he ▸ hab)
  by_cases hlt : a < b
  · refine ⟨.lt, hlt, fun order ho => ?_⟩
    cases order with
    | lt => rfl
    | eq => exact absurd ho (hne hlt)
    | gt => exact absurd ho (hasymm hlt)
  · by_cases hgt : b < a
    · refine ⟨.gt, hgt, fun order ho => ?_⟩
      cases order with
      | lt => exact absurd ho hlt
      | eq => exact absurd ho.symm (hne hgt)
      | gt => rfl
    · refine ⟨.eq, h.trichotomous a b hlt hgt, fun order ho => ?_⟩
      cases order with
      | lt => exact absurd ho hlt
      | eq => rfl
      | gt => exact absurd ho hgt

def Kind.rank : Kind → Nat
  | .null => 0
  | .boolean => 1
  | .number => 2
  | .text => 3

namespace Value

variable {a b : Value} {order : Ordering} {operation : Operation}

inductive Precedes : Value → Value → Prop
  | kinds {a b : Value} : a.kind.rank < b.kind.rank → Precedes a b
  | booleans : Precedes (boolean false) (boolean true)
  | numbers {m n : Number} : m.toInt < n.toInt → Precedes (number m) (number n)
  | texts {s t : String} : s.toList.map Char.toNat < t.toList.map Char.toNat →
      Precedes (text s) (text t)

theorem lt_of_rank_lt (h : a.kind.rank < b.kind.rank) : a < b := by
  cases a <;> cases b <;> first | exact trivial | simp [kind, Kind.rank] at h

theorem lt_iff_precedes : a < b ↔ a.Precedes b := by
  constructor
  · intro h
    rcases Nat.lt_trichotomy a.kind.rank b.kind.rank with hlt | heq | hgt
    · exact .kinds hlt
    · cases a <;> cases b <;> first | (simp [kind, Kind.rank] at heq; done) | skip
      case null.null => exact h.elim
      case boolean.boolean =>
        obtain ⟨rfl, rfl⟩ := boolean_lt_boolean.1 h
        exact .booleans
      case number.number => exact .numbers (number_lt_number.1 h)
      case text.text => exact .texts (lt_iff_map_toNat_lt.1 (text_lt_text.1 h))
    · exact absurd (lt_of_rank_lt hgt) (lt_asymm h)
  · rintro (h | _ | h | h)
    · exact lt_of_rank_lt h
    · exact boolean_lt_boolean.2 ⟨rfl, rfl⟩
    · exact number_lt_number.2 h
    · exact text_lt_text.2 (lt_iff_map_toNat_lt.2 h)

theorem isStrictTotalOrder : IsStrictTotalOrder Value (· < ·) where
  trichotomous _ _ := eq_of_not_lt
  irrefl := lt_irrefl
  trans _ _ _ := lt_trans

-- ---------------------------------------------------------------------------
-- Comparisons
-- ---------------------------------------------------------------------------

/-- Values of one kind, which is not that of null. -/
def Comparable (a b : Value) : Prop := a ≠ null ∧ b ≠ null ∧ a.kind = b.kind

theorem compareOfLessAndEq_eq_iff : compareOfLessAndEq a b = order ↔ order.Compares a b := by
  have hlt := compareOfLessAndEq_eq_lt_iff (a := a) (b := b)
  have hgt := compareOfLessAndEq_eq_gt_iff (a := a) (b := b)
  cases order with
  | lt => exact hlt
  | gt => exact hgt
  | eq =>
    constructor
    · intro h
      exact eq_of_not_lt (fun hab => by simp [hlt.2 hab] at h) fun hba => by simp [hgt.2 hba] at h
    · rintro rfl
      simp [compareOfLessAndEq, lt_irrefl]

theorem compare?_eq_some_iff :
    a.compare? b = some order ↔ a.Comparable b ∧ order.Compares a b := by
  by_cases hk : a.kind = b.kind
  · by_cases hn : a.kind = .null
    · have ha : a = null := kind_eq_null_iff.1 hn
      simp [ha, Comparable, compare?]
    · have hc : a.Comparable b :=
        ⟨hn ∘ kind_eq_null_iff.2, (hk ▸ hn) ∘ kind_eq_null_iff.2, hk⟩
      rw [compare?_of_kind_eq hk hn, Option.some_inj, compareOfLessAndEq_eq_iff]
      exact (and_iff_right hc).symm
  · simp [compare?_of_kind_ne hk, Comparable, hk]

theorem compareFor_eq_ok_iff :
    a.compareFor operation b = .ok order ↔ a.Comparable b ∧ order.Compares a b := by
  rw [← compare?_eq_some_iff, compareFor]
  cases a.compare? b <;> simp

theorem exists_compares (a b : Value) : ∃ order : Ordering, order.Compares a b :=
  (existsUnique_compares isStrictTotalOrder a b).exists

theorem exists_compareFor_iff :
    (∃ order, a.compareFor operation b = .ok order) ↔ a.Comparable b := by
  simp [compareFor_eq_ok_iff, exists_compares]

end Value

namespace ComparisonOp

variable {a b : Value} {order : Ordering} {op : ComparisonOp}

theorem apply_of_comparable (hc : a.Comparable b) (ho : order.Compares a b) :
    op.apply a b = .ok (.boolean (op.accepts order)) := by
  have hnull : ¬ (a = .null ∨ b = .null) := by simp [hc.1, hc.2.1]
  rw [apply, if_neg hnull, Value.compareFor_eq_ok_iff.2 ⟨hc, ho⟩]
  rfl

def complement : ComparisonOp → ComparisonOp
  | eq => ne
  | ne => eq
  | lt => ge
  | ge => lt
  | gt => le
  | le => gt

theorem accepts_complement (op : ComparisonOp) (order : Ordering) :
    op.complement.accepts order = !op.accepts order := by
  cases op <;> cases order <;> rfl

theorem existsUnique_accepts (order : Ordering) :
    ∃! op, op ∈ [lt, eq, gt] ∧ accepts op order := by
  have hiff (op : ComparisonOp) : op ∈ [lt, eq, gt] ∧ accepts op order ↔
      op = match order with | .lt => lt | .eq => eq | .gt => gt := by
    cases order <;> cases op <;> simp [accepts]
  simp only [hiff, existsUnique_eq]

end ComparisonOp

namespace Expr

variable {scope : Scope} {left right : Expr} {a b : Value} {order : Ordering}

section

variable (hl : left.eval scope = .ok a) (hr : right.eval scope = .ok b) (hc : a.Comparable b)
  (ho : order.Compares a b)

include hl hr hc ho

theorem eval_comparison (op : ComparisonOp) :
    (binary (.comparison op) left right).eval scope = .ok (.boolean (op.accepts order)) := by
  simp only [eval, hl, hr, ok_bind, ComparisonOp.apply_of_comparable hc ho]

theorem eval_complement (op : ComparisonOp) :
    (binary (.comparison op.complement) left right).eval scope =
      (not (binary (.comparison op) left right)).eval scope := by
  rw [eval_comparison hl hr hc ho, Expr.not, eval, eval_comparison hl hr hc ho,
    ComparisonOp.accepts_complement]
  rfl

end

end Expr

namespace Row

theorem isStrictTotalOrder : IsStrictTotalOrder Row (· < ·) where
  trichotomous _ _ := eq_of_not_lt
  irrefl := lt_irrefl
  trans _ _ _ := lt_trans

/-- A row precedes those that go on after it, and those that are greater in the first value that
is not the same. -/
inductive Precedes : Row → Row → Prop
  | ended (s : Row) (b : Value) (rest : Row) : Precedes s (s ++ b :: rest)
  | decided (start : Row) {a b : Value} (rest rest' : Row) : a < b →
      Precedes (start ++ a :: rest) (start ++ b :: rest')

theorem Precedes.cons (a : Value) {s t : Row} (h : Precedes s t) : Precedes (a :: s) (a :: t) := by
  cases h with
  | ended _ b rest => exact .ended (a :: s) b rest
  | decided start rest rest' h => exact .decided (a :: start) rest rest' h

theorem lt_iff_precedes {s t : Row} : s < t ↔ s.Precedes t := by
  constructor
  · intro h
    replace h : List.Lex (· < ·) s t := h
    induction h with
    | nil => exact .ended [] _ _
    | rel h => exact .decided [] _ _ h
    | cons _ ih => exact ih.cons _
  · rintro (⟨_, b, rest⟩ | ⟨start, rest, rest', h⟩)
    · have hlt : s ++ [] < s ++ b :: rest := List.append_left_lt (List.nil_lt_cons b rest)
      simpa using hlt
    · exact List.append_left_lt (List.cons_lt_cons_iff.2 (.inl h))

end Row

/-- The storage order of values goes by kind, and within a kind it puts false first, numbers in
order, and texts by code points, which is by bytes in UTF-8. That of rows goes by the first
difference, a row before those that it is the start of. Both are strict total orders, in which
any two members are in exactly one of three relations. Comparing two values has a result if and
only if they are of one kind other than null, and it is their storage order. All comparison
operators go by it then: one of less, equal and greater holds, and the other three operators
are their negations. -/
theorem storage_order :
    (∀ a b : Value, a < b ↔ a.Precedes b) ∧
    (∀ s t : String, Value.text s < Value.text t ↔
      s.toUTF8.data.toList < t.toUTF8.data.toList) ∧
    (∀ s t : Row, s < t ↔ s.Precedes t) ∧
    (IsStrictTotalOrder Value (· < ·) ∧ ∀ a b : Value, ∃! order : Ordering, order.Compares a b) ∧
    (IsStrictTotalOrder Row (· < ·) ∧ ∀ s t : Row, ∃! order : Ordering, order.Compares s t) ∧
    (∀ (operation : Operation) (a b : Value),
      ((∃ order, a.compareFor operation b = .ok order) ↔ a.Comparable b) ∧
      ∀ order, a.compareFor operation b = .ok order → order.Compares a b) ∧
    ∀ (scope : Scope) (left right : Expr) (a b : Value), left.eval scope = .ok a →
      right.eval scope = .ok b → a.Comparable b →
      (∀ order : Ordering, order.Compares a b → ∀ op,
        (Expr.binary (.comparison op) left right).eval scope =
          .ok (.boolean (op.accepts order))) ∧
      (∃! op, op ∈ [ComparisonOp.lt, .eq, .gt] ∧
        (Expr.binary (.comparison op) left right).eval scope = .ok (.boolean true)) ∧
      (Expr.le left right).eval scope = (Expr.not (Expr.gt left right)).eval scope ∧
      (Expr.ge left right).eval scope = (Expr.not (Expr.lt left right)).eval scope ∧
      (Expr.ne left right).eval scope = (Expr.not (Expr.eq left right)).eval scope := by
  refine ⟨fun _ _ => Value.lt_iff_precedes, fun _ _ => Value.text_lt_text.trans lt_iff_toUTF8_lt,
    fun _ _ => Row.lt_iff_precedes,
    ⟨Value.isStrictTotalOrder, existsUnique_compares Value.isStrictTotalOrder⟩,
    ⟨Row.isStrictTotalOrder, existsUnique_compares Row.isStrictTotalOrder⟩,
    fun operation a b => ⟨Value.exists_compareFor_iff, fun _ h => ?_⟩, ?_⟩
  · exact (Value.compareFor_eq_ok_iff.1 h).2
  · intro scope left right a b hl hr hc
    obtain ⟨order, ho⟩ := Value.exists_compares a b
    refine ⟨fun _ ho => Expr.eval_comparison hl hr hc ho, ?_,
      Expr.eval_complement hl hr hc ho .gt, Expr.eval_complement hl hr hc ho .lt,
      Expr.eval_complement hl hr hc ho .eq⟩
    simpa only [Expr.eval_comparison hl hr hc ho, Except.ok.injEq, Value.boolean.injEq] using
      ComparisonOp.existsUnique_accepts order

theorem storage_order_prefix :
    let scope : Scope := [(some "R.s", .text "é"), (some "R.t", .text "éa")]
    let left : Expr := .attr "s"
    let right : Expr := .attr "t"
    left.eval scope = .ok (.text "é") ∧ right.eval scope = .ok (.text "éa") ∧
      Value.Comparable (.text "é") (.text "éa") ∧
      (∃! op, op ∈ [ComparisonOp.lt, .eq, .gt] ∧
        (Expr.binary (.comparison op) left right).eval scope = .ok (.boolean true)) ∧
      (Expr.le left right).eval scope = .ok (.boolean true) ∧
      ¬ ∃ order, Value.compareFor .predicate (.text "é") .null = .ok order := by
  intro scope left right
  have hl : left.eval scope = .ok (.text "é") := rfl
  have hr : right.eval scope = .ok (.text "éa") := rfl
  have hc : Value.Comparable (.text "é") (.text "éa") := ⟨nofun, nofun, rfl⟩
  have ho : Ordering.lt.Compares (Value.text "é") (Value.text "éa") :=
    (by decide : Value.text "é" < Value.text "éa")
  obtain ⟨-, -, -, -, -, hcompare, hoperators⟩ := storage_order
  obtain ⟨hvalue, hone, -⟩ := hoperators scope left right _ _ hl hr hc
  refine ⟨hl, hr, hc, hone, hvalue .lt ho .le, fun h => ?_⟩
  obtain ⟨-, hnull, -⟩ := (hcompare .predicate (.text "é") .null).1.1 h
  exact hnull rfl

end Relational
