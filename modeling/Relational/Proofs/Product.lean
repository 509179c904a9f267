import Relational.Proofs.Join

/-!
# Products

If the left rows are equally long, the rows of a product come in the order of the pairs
(`sorted_pairedRows`). So no two pairs give the same row, and the size of a product is the
product of the sizes, which decides whether a product of two values is within the row limit
(`size_and_assoc_of_cross`).
-/

namespace Relational

namespace Relation

variable {left right : Relation} {t : Row}

theorem mem_product_iff :
    t ∈ (left.product right).rows ↔ ∃ l ∈ left.rows, ∃ r ∈ right.rows, l ++ r = t :=
  mem_cross_iff (cross_eq left right)

theorem length_pairs (left right : Relation) :
    (pairs left right).length = left.size * right.size := by
  simp [pairs, size, RowSet.size, List.length_flatMap]

theorem size_product (hl : left.WellFormed) (right : Relation) :
    (left.product right).size = left.size * right.size := by
  rw [size, RowSet.size, toList_product hl, pairedRows, List.length_map, length_pairs]

-- With left rows of different lengths two pairs may give the same row.
example : (product ⟨[some "a"], .ofList [[], [.null]]⟩
    ⟨[some "b"], .ofList [[.null], [.null, .null]]⟩).size = 3 := by rfl

theorem product_assoc (r s t : Relation) :
    (r.product s).product t = r.product (s.product t) := by
  refine ext_rows (List.append_assoc ..) fun u => ?_
  simp only [mem_product_iff]
  constructor
  · rintro ⟨_, ⟨a, ha, b, hb, rfl⟩, c, hc, rfl⟩
    exact ⟨a, ha, b ++ c, ⟨b, hb, c, hc, rfl⟩, (List.append_assoc ..).symm⟩
  · rintro ⟨a, ha, _, ⟨b, hb, c, hc, rfl⟩, rfl⟩
    exact ⟨a ++ b, ⟨a, ha, b, hb, rfl⟩, c, hc, List.append_assoc ..⟩

end Relation

theorem Query.outcome_cross_of_ok {config : Config} {db : Database} {left right : Query}
    {l r : Relation} (limit : Nat)
    (hl : (left.eval (config.limitedTo limit) db).outcome = .ok l)
    (hr : (right.eval (config.limitedTo limit) db).outcome = .ok r) :
    ((cross left right).eval (config.limitedTo limit) db).outcome =
      if limit < (l.product r).size then .error (.rowLimitExceeded .cross limit)
      else .ok (l.product r) := by
  rw [outcome_cross, hl, ok_bind, hr, ok_bind, Relation.cross_eq, Config.limited, ok_bind,
    Config.checkLimit_limitedTo]
  split <;> rfl

/-- A product of a well-formed relation has as many rows as there are pairs, and products
are associative, attributes and all. A query that is a product of two values fails for the
row limit if and only if there are more pairs than it allows, and has the value of the
product otherwise. -/
theorem size_and_assoc_of_cross :
    (∀ left right : Relation, left.WellFormed →
      ∃ p, left.cross right = .ok p ∧ p.size = left.size * right.size) ∧
    (∀ r s t : Relation, ∃ p, (r.cross s >>= fun rs => rs.cross t) = .ok p ∧
      (s.cross t >>= fun st => r.cross st) = .ok p) ∧
    ∀ (config : Config) (db : Database) (limit : Nat) (left right : Query) (l r : Relation),
      (left.eval (config.limitedTo limit) db).outcome = .ok l →
      (right.eval (config.limitedTo limit) db).outcome = .ok r → l.WellFormed →
        (limit < l.size * r.size →
          ((Query.cross left right).eval (config.limitedTo limit) db).outcome =
            .error (.rowLimitExceeded .cross limit)) ∧
        (l.size * r.size ≤ limit →
          ((Query.cross left right).eval (config.limitedTo limit) db).outcome = l.cross r) ∧
        ((∃ e, ((Query.cross left right).eval (config.limitedTo limit) db).outcome = .error e ∧
          e.kind = .rowLimitExceeded) ↔ limit < l.size * r.size) := by
  refine ⟨fun left right hl => ?_, fun r s t => ?_, fun config db limit left right l r hl hr hw => ?_⟩
  · exact ⟨left.product right, Relation.cross_eq left right, Relation.size_product hl right⟩
  · refine ⟨(r.product s).product t, ?_, ?_⟩
    · rw [Relation.cross_eq, ok_bind, Relation.cross_eq]
    · rw [Relation.cross_eq, ok_bind, Relation.cross_eq, Relation.product_assoc]
  · rw [Query.outcome_cross_of_ok limit hl hr, Relation.size_product hw r,
      Relation.cross_eq]
    refine ⟨fun hlt => if_pos hlt, fun hle => if_neg (Nat.not_lt.2 hle), ?_⟩
    by_cases hlt : limit < l.size * r.size <;> simp [hlt, EvalError.kind]

theorem size_and_assoc_of_cross_over_limit :
    let db := Database.ofPairs (.ofList [[.boolean true, .null], [.null, .null]])
    let right : Query := .constant [[.null], [.boolean true]]
    let l : Relation := ⟨[some "R.x", some "R.y"], .ofList [[.boolean true, .null], [.null, .null]]⟩
    let r : Relation := ⟨[none], .ofList [[.boolean true], [.null]]⟩
    ((Query.relvar "R").eval (({} : Config).limitedTo 3) db).outcome = .ok l ∧
      (right.eval (({} : Config).limitedTo 3) db).outcome = .ok r ∧ l.WellFormed ∧
      (∃ p, l.cross r = .ok p ∧ p.size = 4) ∧
      ((Query.cross (.relvar "R") right).eval (({} : Config).limitedTo 3) db).outcome =
        .error (.rowLimitExceeded .cross 3) := by
  intro db right l r
  have hl : ((Query.relvar "R").eval (({} : Config).limitedTo 3) db).outcome = .ok l := by rfl
  have hr : (right.eval (({} : Config).limitedTo 3) db).outcome = .ok r := by rfl
  have hw : l.WellFormed := Relation.wellFormed_ofList (by decide)
  obtain ⟨hsize, -, hlimit⟩ := size_and_assoc_of_cross
  have hover : 3 < l.size * r.size := by decide
  exact ⟨hl, hr, hw, hsize l r hw, (hlimit {} db 3 (.relvar "R") right l r hl hr hw).1 hover⟩

end Relational
