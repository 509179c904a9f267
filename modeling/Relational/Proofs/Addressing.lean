import Relational.Proofs.Division
import Relational.Proofs.GroupingKeys
import Relational.Proofs.Substitution

/-!
# Addressing columns by their names

Renamings, projections and groupings give all their columns names, no two of them the same. That
is enough to address a column by a qualified name. A name without a dot means all columns of that
local name, so it is ambiguous if it is the local name of another column too
(`addressing_of_named`).
-/

namespace Relational

-- ---------------------------------------------------------------------------
-- Attributes under their own names
-- ---------------------------------------------------------------------------

section

variable {attributes : List Attribute} {attr : Attribute} {name : String} {i : Nat}

theorem answersTo_self (name : String) : Attribute.answersTo name (some name) := by
  cases h : isQualified name with
  | true => simp [Attribute.answersTo, h]
  | false => simp [Attribute.answersTo, h, localName_of_not_isQualified h]

/-- A name that means an attribute is resolved to it or means another one as well. -/
theorem resolve_of_answersTo (hi : attributes[i]? = some attr) (ha : attr.answersTo name) :
    resolve name attributes = .ok i ∨
      resolve name attributes = .error (.ambiguousAttribute name) := by
  have hm : i ∈ candidates name attributes.zipIdx := mem_candidates_zipIdx.2 ⟨attr, hi, ha⟩
  unfold resolve lookup
  split
  · rename_i h
    simp [h] at hm
  · rename_i h
    rw [h, List.mem_singleton] at hm
    exact .inl (congrArg Except.ok hm.symm)
  · exact .inr rfl

variable (hn : (attributeNames attributes).Nodup) (hi : attributes[i]? = some (some name))

include hn hi

theorem resolve_own_name_iff :
    resolve name attributes = .ok i ↔ isQualified name ∨ OnlyAt attributes name i := by
  cases h : isQualified name with
  | true => simp [resolve_of_isQualified h hn hi]
  | false =>
    have hlocal : resolve (localName name) attributes = .ok i ↔
        OnlyAt attributes (localName name) i := resolve_localName_eq_ok_iff
    rw [localName_of_not_isQualified h] at hlocal
    simp [hlocal]

theorem resolve_own_name_of_not (h : ¬ (isQualified name ∨ OnlyAt attributes name i)) :
    resolve name attributes = .error (.ambiguousAttribute name) :=
  (resolve_of_answersTo hi (answersTo_self name)).resolve_left
    ((resolve_own_name_iff hn hi).not.2 h)

end

-- ---------------------------------------------------------------------------
-- Operators that name columns
-- ---------------------------------------------------------------------------

namespace Relation

variable {r s : Relation}

/-- The results of the operators that name the columns of their result. -/
inductive NamesColumns (r : Relation) : Relation → Prop
  | rename {renamings : List Renaming} {s : Relation} : r.rename renamings = .ok s →
      NamesColumns r s
  | project {items : List Expr} {s : Relation} : r.project items = .ok s → NamesColumns r s
  | group {keys aggregates : List Expr} {s : Relation} :
      aggregates.mapM AggregateColumn.ofExpr >>= r.group keys = .ok s → NamesColumns r s

/-- All columns have names, no two of them the same. -/
structure AllNamed (r : Relation) : Prop where
  named : none ∉ r.attributes
  distinct : r.NamesDistinct

theorem AllNamed.rename {renamings : List Renaming} (hr : r.AllNamed)
    (h : r.rename renamings = .ok s) : s.AllNamed := by
  obtain ⟨-, -, hs, hd, -⟩ := rename_eq_ok_iff_substitutes.1 h
  refine ⟨fun hm => ?_, hd⟩
  obtain ⟨i, hi⟩ := List.mem_iff_getElem?.1 hm
  by_cases hmeant : ∃ m ∈ renamings, m.Means r.attributes i
  · obtain ⟨m, hm, hmi⟩ := hmeant
    rw [hs.renamed m hm i hmi] at hi
    cases hi
  · rw [hs.kept i fun m hm hmi => hmeant ⟨m, hm, hmi⟩] at hi
    exact hr.named (List.mem_of_getElem? hi)

theorem allNamed_of_project {items : List Expr} (h : r.project items = .ok s) : s.AllNamed := by
  obtain ⟨attributes, rows, ha, hd, -, rfl⟩ := project_eq_ok_iff.1 h
  obtain ⟨hnames, rfl⟩ := columnNames_eq_ok_iff.1 ha
  refine ⟨fun hm => ?_, checkDistinct_eq_ok_iff.1 hd⟩
  obtain ⟨item, hi, hn⟩ := List.mem_map.1 hm
  exact hnames item hi hn

theorem allNamed_of_group {keys : List Expr} {columns : List AggregateColumn}
    (h : r.group keys columns = .ok s) : s.AllNamed := by
  have ha := attributes_of_group h
  obtain ⟨hnames, hd, -⟩ := group_eq_ok_iff.1 h
  constructor
  · rw [ha]
    simpa using hnames
  · rw [NamesDistinct, ha, attributeNames, List.filterMap_append, List.filterMap_map]
    simpa [List.filterMap_map] using hd

theorem NamesColumns.allNamed (h : r.NamesColumns s) (hr : r.AllNamed) : s.AllNamed := by
  cases h with
  | rename h => exact hr.rename h
  | project h => exact allNamed_of_project h
  | group h =>
    obtain ⟨columns, -, h⟩ := bind_eq_ok_iff.1 h
    exact allNamed_of_group h

/-- A renaming, a projection or a grouping of a relation whose columns have names of their own
gives all columns such names. The name of a column is resolved to its position if it is qualified
or the local name of no other column, and is ambiguous otherwise; it never means another
position. -/
theorem addressing_of_named (h : r.NamesColumns s) (hr : r.AllNamed) {i : Nat}
    (hi : i < s.attributes.length) :
    ∃ name, s.attributes[i]? = some (some name) ∧
      (resolve name s.attributes = .ok i ↔ isQualified name ∨ OnlyAt s.attributes name i) ∧
      (¬ (isQualified name ∨ OnlyAt s.attributes name i) →
        resolve name s.attributes = .error (.ambiguousAttribute name)) := by
  obtain ⟨hnamed, hd⟩ := h.allNamed hr
  cases ha : s.attributes[i] with
  | none => exact absurd (ha ▸ List.getElem_mem hi) hnamed
  | some name =>
    have hat : s.attributes[i]? = some (some name) := List.getElem?_eq_some_iff.2 ⟨hi, ha⟩
    exact ⟨name, hat, resolve_own_name_iff hd hat, resolve_own_name_of_not hd hat⟩

theorem addressing_of_named_qualified :
    let r : Relation := ⟨[some "R.a", some "R.x"], .ofList [[.number .one, .null]]⟩
    let s : Relation := ⟨[some "S.x", some "R.x"], r.rows⟩
    r.AllNamed ∧ r.NamesColumns s ∧ resolve "S.x" s.attributes = .ok 0 := by
  intro r s
  have hr : r.AllNamed := ⟨by decide, (by decide : (attributeNames r.attributes).Nodup)⟩
  have hrename : r.rename [⟨"a", "S.x"⟩] = .ok s := rfl
  have h : r.NamesColumns s := .rename hrename
  have hi : 0 < s.attributes.length := by decide
  obtain ⟨name, hname, hiff, -⟩ := addressing_of_named h hr hi
  obtain rfl : "S.x" = name := Option.some.inj (Option.some.inj hname)
  exact ⟨hr, h, hiff.2 (.inl (by decide))⟩

/-- A name without a dot next to a qualified name of which it is the local name. -/
theorem addressing_of_named_ambiguous :
    let r : Relation := ⟨[some "R.a", some "R.x"], .ofList [[.number .one, .null]]⟩
    let s : Relation := ⟨[some "x", some "R.x"], r.rows⟩
    let items : List Expr := [.called (.attr "a") "x", .attr "R.x"]
    r.AllNamed ∧ r.rename [⟨"a", "x"⟩] = .ok s ∧ r.project items = .ok s ∧
      ([].mapM AggregateColumn.ofExpr >>= r.group items) = .ok s ∧
      s.attributes[0]? = some (some "x") ∧
      resolve "x" s.attributes = .error (.ambiguousAttribute "x") := by
  intro r s items
  have hr : r.AllNamed := ⟨by decide, (by decide : (attributeNames r.attributes).Nodup)⟩
  exact ⟨hr, rfl, rfl, rfl, rfl, rfl⟩

end Relation

end Relational
