import Relational.Proofs.Join
import Relational.Proofs.Selection

/-!
# Row-wise operators and set operations

An operator is row-wise when it takes the rows of its operand one by one: whether it accepts
a row and what it makes of it is settled by the row and the attributes. Selections,
projections and products with a fixed right operand are row-wise, and so they distribute over
unions. A selection makes no row of anything but that row, and therefore distributes over
intersections and differences as well (`rowwise_over_setOps`).
-/

namespace Relational

namespace Relation

/-- What an operator on relations does row by row. -/
structure Rowwise (f : Relation → Except EvalError Relation) where
  header : List Attribute → Except EvalError (List Attribute)
  /-- Whether a row lets the operator succeed. -/
  Accepts : List Attribute → Row → Prop
  /-- The rows that are made of a row. -/
  Yields : List Attribute → Row → Row → Prop
  exists_iff : ∀ r, (∃ s, f r = .ok s) ↔
    (∃ attributes, header r.attributes = .ok attributes) ∧ ∀ t ∈ r.rows, Accepts r.attributes t
  attributes_of : ∀ r s, f r = .ok s → header r.attributes = .ok s.attributes
  mem_iff : ∀ r s, f r = .ok s → ∀ u, u ∈ s.rows ↔ ∃ t ∈ r.rows, Yields r.attributes t u

variable {f : Relation → Except EvalError Relation} {r s u v : Relation}

namespace Rowwise

theorem exists_union_iff (h : Rowwise f) (ha : r.attributes = s.attributes) :
    (∃ w, (r.combine .union s >>= f) = .ok w) ↔ (∃ u, f r = .ok u) ∧ ∃ v, f s = .ok v := by
  rw [combine_of_attributes_eq .union ha, ok_bind]
  simp only [h.exists_iff, ← ha, SetOp.rows, RowSet.mem_union]
  constructor
  · rintro ⟨hheader, hall⟩
    exact ⟨⟨hheader, fun t ht => hall t (.inl ht)⟩, hheader, fun t ht => hall t (.inr ht)⟩
  · rintro ⟨⟨hheader, hr⟩, -, hs⟩
    exact ⟨hheader, fun t ht => ht.elim (hr t) (hs t)⟩

theorem attributes_eq (h : Rowwise f) (ha : r.attributes = s.attributes) (hu : f r = .ok u)
    (hv : f s = .ok v) : u.attributes = v.attributes := by
  have hheader := h.attributes_of r u hu
  rw [ha, h.attributes_of s v hv] at hheader
  exact (Except.ok.inj hheader).symm

theorem union_eq (h : Rowwise f) (ha : r.attributes = s.attributes) (hu : f r = .ok u)
    (hv : f s = .ok v) :
    ∃ w, (r.combine .union s >>= f) = .ok w ∧ u.combine .union v = .ok w := by
  obtain ⟨w, hw⟩ := (h.exists_union_iff ha).2 ⟨⟨u, hu⟩, v, hv⟩
  refine ⟨w, hw, ?_⟩
  rw [combine_of_attributes_eq .union ha, ok_bind] at hw
  have hheader := h.attributes_of _ w hw
  have hattrs : u.attributes = w.attributes :=
    Except.ok.inj ((h.attributes_of r u hu).symm.trans hheader)
  have hrows := h.mem_iff s v hv
  rw [← ha] at hrows
  rw [combine_of_attributes_eq .union (h.attributes_eq ha hu hv)]
  -- Rows of both sides may yield one row, so it is the sets of yielded rows that agree.
  refine congrArg Except.ok (ext_rows hattrs fun t => ?_)
  simp only [SetOp.rows, RowSet.mem_union, h.mem_iff r u hu, hrows, h.mem_iff _ w hw, or_and_right,
    exists_or]

end Rowwise

-- ---------------------------------------------------------------------------
-- Row-wise operators
-- ---------------------------------------------------------------------------

def selectRowwise (condition : Expr) : Rowwise fun r => r.select condition where
  header := .ok
  Accepts attributes t := ∃ b, condition.holds (attributes.zip t) = .ok b
  Yields attributes t u := t = u ∧ condition.holds (attributes.zip t) = .ok true
  exists_iff r := by simp [exists_select_iff, scope]
  attributes_of r s h := by rw [attributes_of_select h]
  mem_iff r s h u := by simp [mem_select_iff h, scope]

def projectRowwise (items : List Expr) : Rowwise fun r => r.project items where
  header _ := projectedAttributes items
  Accepts attributes t := ∃ u, Expr.evalAll (attributes.zip t) items = .ok u
  Yields attributes t u := Expr.evalAll (attributes.zip t) items = .ok u
  exists_iff _ :=
    exists_project_iff.trans (and_congr_left fun _ => exists_projectedAttributes_iff.symm)
  attributes_of _ _ h := projectedAttributes_of_project h
  mem_iff _ _ h _ := mem_project_iff h

def crossRowwise (right : Relation) : Rowwise fun left => left.cross right where
  header attributes := .ok (attributes ++ right.attributes)
  Accepts _ _ := True
  Yields _ l u := ∃ r ∈ right.rows, l ++ r = u
  exists_iff left := by simp [cross_eq]
  attributes_of left s h := by rw [attributes_of_join h]
  mem_iff _ _ h _ := mem_cross_iff h

-- ---------------------------------------------------------------------------
-- Set operations
-- ---------------------------------------------------------------------------

theorem select_combine (op : SetOp) (ha : r.attributes = s.attributes) {condition : Expr}
    (hu : r.select condition = .ok u) (hv : s.select condition = .ok v) :
    ∃ w, (r.combine op s >>= fun both => both.select condition) = .ok w ∧ u.combine op v = .ok w := by
  have hattrs : u.attributes = v.attributes := (selectRowwise condition).attributes_eq ha hu hv
  refine ⟨_, ?_, combine_of_attributes_eq op hattrs⟩
  rw [combine_of_attributes_eq op ha, ok_bind]
  have hsame : u.attributes = r.attributes := attributes_of_select hu
  -- The attributes are the same, so a row is in the same scope wherever it comes from.
  have hscope (t : Row) : s.scope t = r.scope t := by simp only [scope, ha]
  refine select_eq_ok_iff.2 ⟨fun t ht => ?_, hsame, fun t => ?_⟩
  · rcases SetOp.mem_of_mem_rows ht with ht | ht
    · exact exists_select_iff_truth.1 ⟨u, hu⟩ t ht
    · exact hscope t ▸ exists_select_iff_truth.1 ⟨v, hv⟩ t ht
  · have hmu := mem_select_iff_truth hu (t := t)
    have hmv := mem_select_iff_truth hv (t := t)
    rw [hscope t] at hmv
    cases op with
    | union => simp only [SetOp.rows, RowSet.mem_union, hmu, hmv, or_and_right]; rfl
    | intersect => simp only [SetOp.rows, RowSet.mem_inter, hmu, hmv]; tauto
    | difference => simp only [SetOp.rows, RowSet.mem_diff, hmu, hmv]; tauto

theorem cross_combine_union (ha : r.attributes = s.attributes) (t : Relation) :
    ∃ w, (r.combine .union s >>= fun both => both.cross t) = .ok w ∧
      (r.cross t >>= fun u => s.cross t >>= fun v => u.combine .union v) = .ok w := by
  obtain ⟨w, hw, hunion⟩ := (crossRowwise t).union_eq ha (cross_eq r t) (cross_eq s t)
  refine ⟨w, hw, ?_⟩
  rw [cross_eq r t, ok_bind, cross_eq s t, ok_bind, hunion]

/-- Selections, projections and products with a right operand distribute over the union of
relations that have the same attributes, and selections over intersections and differences
too. From a union a value is made if and only if one is made from both sides. Projections
whose names are refused are refused on all sides. -/
theorem rowwise_over_setOps (ha : r.attributes = s.attributes) :
    (∀ condition : Expr,
      ((∃ w, (r.combine .union s >>= fun both => both.select condition) = .ok w) ↔
        (∃ u, r.select condition = .ok u) ∧ ∃ v, s.select condition = .ok v) ∧
      ∀ u v, r.select condition = .ok u → s.select condition = .ok v → ∀ op : SetOp,
        ∃ w, (r.combine op s >>= fun both => both.select condition) = .ok w ∧
          u.combine op v = .ok w) ∧
    (∀ items : List Expr,
      ((∃ w, (r.combine .union s >>= fun both => both.project items) = .ok w) ↔
        (∃ u, r.project items = .ok u) ∧ ∃ v, s.project items = .ok v) ∧
      ∀ u v, r.project items = .ok u → s.project items = .ok v →
        ∃ w, (r.combine .union s >>= fun both => both.project items) = .ok w ∧
          u.combine .union v = .ok w) ∧
    ∀ t : Relation, ∃ w, (r.combine .union s >>= fun both => both.cross t) = .ok w ∧
      (r.cross t >>= fun u => s.cross t >>= fun v => u.combine .union v) = .ok w := by
  refine ⟨fun condition => ⟨?_, ?_⟩, fun items => ⟨?_, ?_⟩, cross_combine_union ha⟩
  · exact (selectRowwise condition).exists_union_iff ha
  · intro u v hu hv op
    exact select_combine op ha hu hv
  · exact (projectRowwise items).exists_union_iff ha
  · intro u v hu hv
    exact (projectRowwise items).union_eq ha hu hv

/-- Two of the four rows differ in what the projection leaves out, and one row is on both
sides. -/
theorem rowwise_over_setOps_collapsing :
    let r : Relation := ⟨[some "a", some "b"], .ofList
      [[.boolean true, .null], [.boolean true, .boolean true], [.null, .null]]⟩
    let s : Relation := ⟨r.attributes, .ofList
      [[.boolean true, .boolean true], [.boolean false, .null]]⟩
    let column (rows : List Row) : Relation := ⟨[some "a"], .ofList rows⟩
    r.attributes = s.attributes ∧
      r.select (.attr "a") = .ok ⟨r.attributes, .ofList
        [[.boolean true, .null], [.boolean true, .boolean true]]⟩ ∧
      s.select (.attr "a") = .ok ⟨r.attributes, .ofList [[.boolean true, .boolean true]]⟩ ∧
      (r.combine .difference s >>= fun both => both.select (.attr "a")) =
        .ok ⟨r.attributes, .ofList [[.boolean true, .null]]⟩ ∧
      r.project [.attr "a"] = .ok (column [[.boolean true], [.null]]) ∧
      s.project [.attr "a"] = .ok (column [[.boolean false], [.boolean true]]) ∧
      (r.combine .union s >>= fun both => both.project [.attr "a"]) =
        .ok (column [[.boolean false], [.boolean true], [.null]]) := by
  intro r s column
  have hattrs : r.attributes = s.attributes := rfl
  obtain ⟨hselect, hproject, -⟩ := rowwise_over_setOps hattrs
  have hsr : r.select (.attr "a") = .ok ⟨r.attributes, .ofList
      [[.boolean true, .null], [.boolean true, .boolean true]]⟩ := by rfl
  have hss : s.select (.attr "a") = .ok ⟨r.attributes, .ofList [[.boolean true, .boolean true]]⟩ := by
    rfl
  have hpr : r.project [.attr "a"] = .ok (column [[.boolean true], [.null]]) := by rfl
  have hps : s.project [.attr "a"] = .ok (column [[.boolean false], [.boolean true]]) := by rfl
  obtain ⟨w, hselected, hw⟩ := (hselect (.attr "a")).2 _ _ hsr hss .difference
  obtain ⟨w', hprojected, hw'⟩ := (hproject [.attr "a"]).2 _ _ hpr hps
  refine ⟨hattrs, hsr, hss, ?_, hpr, hps, ?_⟩
  · rw [hselected, ← hw]
    rfl
  · rw [hprojected, ← hw']
    rfl

end Relation

end Relational
