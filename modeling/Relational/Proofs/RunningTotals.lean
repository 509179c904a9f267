import Relational.Proofs.Grouping

/-!
# Running totals

Sums and averages add up their values in the storage order of the rows, and each total on the
way has to be in range. So a grouping can fail although all totals are in range in the end,
and then the order of the rows decides (`totals_of_group`). It cannot when the positive values
by themselves and the negative values by themselves have totals in range
(`Number.inRange_of_prefix`).
-/

namespace Relational

section

variable {ε α β : Type}

theorem exists_mapM_of_prefix {f : α → Except ε β} {l start : List α} {l' : List β}
    (h : l.mapM f = .ok l') (hs : start <+: l) :
    ∃ start', start.mapM f = .ok start' ∧ start' <+: l' := by
  obtain ⟨rest, rfl⟩ := hs
  rw [List.mapM_append] at h
  simp only [bind_eq_ok_iff, pure_eq_ok_iff] at h
  obtain ⟨start', hs', rest', -, rfl⟩ := h
  exact ⟨start', hs', List.prefix_append ..⟩

theorem bind_pure_eq_error_iff {x : Except ε α} {f : α → β} {e : ε} :
    (x >>= fun a => pure (f a)) = .error e ↔ x = .error e := by
  cases x <;> simp [bind, Except.bind, pure, Except.pure]

end

-- ---------------------------------------------------------------------------
-- Totals of the parts of a list
-- ---------------------------------------------------------------------------

namespace Number

def positiveTotal (ns : List Number) : Int := ns.foldr (fun n rest => max n.toInt 0 + rest) 0

def negativeTotal (ns : List Number) : Int := ns.foldr (fun n rest => min n.toInt 0 + rest) 0

variable {ns start : List Number}

theorem total_nil_bounds (ns : List Number) :
    negativeTotal ns ≤ total [] ∧ total [] ≤ positiveTotal ns := by
  induction ns with
  | nil => exact ⟨Int.le_refl 0, Int.le_refl 0⟩
  | cons n ns ih =>
    simp only [negativeTotal, positiveTotal, List.foldr_cons] at ih ⊢
    omega

theorem total_of_prefix_bounds (h : start <+: ns) :
    negativeTotal ns ≤ total start ∧ total start ≤ positiveTotal ns := by
  induction ns generalizing start with
  | nil =>
    obtain rfl := List.prefix_nil.1 h
    exact total_nil_bounds []
  | cons n ns ih =>
    rcases List.prefix_cons_iff.1 h with rfl | ⟨rest, rfl, hr⟩
    · exact total_nil_bounds (n :: ns)
    · have hrest := ih hr
      simp only [negativeTotal, positiveTotal, total, List.foldr_cons] at hrest ⊢
      omega

/-- Whatever the order, no running total is out of range if neither the positive nor the
negative values have a total that is. -/
theorem inRange_of_prefix (hn : InRange (negativeTotal ns)) (hp : InRange (positiveTotal ns))
    (h : start <+: ns) : InRange (total start) := by
  have hb := total_of_prefix_bounds h
  exact ⟨Int.le_trans hn.1 hb.1, Int.le_trans hb.2 hp.2⟩

end Number

-- ---------------------------------------------------------------------------
-- One function over suitable values
-- ---------------------------------------------------------------------------

namespace AggregateFunction

/-- The kinds of value that a function is for: any that are not null, numbers, or numbers
only or texts only. -/
def Takes : AggregateFunction → List Value → Prop
  | .count, _ => True
  | .sum, values | .avg, values => ∀ v ∈ values, v.kind = .number
  | .min, values | .max, values => Value.Ranked values

instance decidableTakes : (f : AggregateFunction) → (values : List Value) →
    Decidable (f.Takes values)
  | .count, _ => isTrue trivial
  | .sum, values | .avg, values => inferInstanceAs (Decidable (∀ v ∈ values, v.kind = .number))
  | .min, _ | .max, _ => inferInstanceAs (Decidable (_ ∨ _))

inductive Overflows (f : AggregateFunction) (values : List Value) : Prop
  | count : f = .count → ¬ Number.InRange values.length → Overflows f values
  | total {ns start : List Number} : f = .sum ∨ f = .avg → values = ns.map .number →
    start <+: ns → ¬ Number.InRange (Number.total start) → Overflows f values

variable {f : AggregateFunction} {values start : List Value} {ns : List Number} {e : EvalError}

theorem exists_numbers (h : ∀ v ∈ values, v.kind = .number) :
    ∃ ns : List Number, values = ns.map .number := by
  induction values with
  | nil => exact ⟨[], rfl⟩
  | cons v values ih =>
    obtain ⟨hv, hvalues⟩ := List.forall_mem_cons.1 h
    obtain ⟨ns, rfl⟩ := ih hvalues
    cases v with
    | number n => exact ⟨n :: ns, rfl⟩
    | _ => cases hv

theorem Takes.of_prefix (h : f.Takes values) (hs : start <+: values) : f.Takes start := by
  have hsub : start ⊆ values := hs.subset
  cases f with
  | count => trivial
  | sum => exact fun v hv => h v (hsub hv)
  | avg => exact fun v hv => h v (hsub hv)
  | min => exact h.imp (fun h v hv => h v (hsub hv)) (fun h v hv => h v (hsub hv))
  | max => exact h.imp (fun h v hv => h v (hsub hv)) (fun h v hv => h v (hsub hv))

theorem admits_numbers_iff (hf : f = .sum ∨ f = .avg) :
    f.Admits (ns.map .number) ↔ ∀ start, start <+: ns → Number.InRange (Number.total start) := by
  have hadmits : f.Admits (ns.map .number) ↔ ∃ ns', ns.map Value.number = ns'.map .number ∧
      ∀ start, start <+: ns' → Number.InRange (Number.total start) := by
    rcases hf with rfl | rfl <;> rfl
  rw [hadmits]
  constructor
  · rintro ⟨ns', he, h⟩
    obtain rfl := map_number_inj he
    exact h
  · exact fun h => ⟨ns, rfl, h⟩

theorem Overflows.not_admits (h : f.Overflows values) : ¬ f.Admits values := by
  cases h with
  | count hf hr =>
    subst hf
    exact hr
  | total hf hv hs hr =>
    subst hv
    exact fun ha => hr ((admits_numbers_iff hf).1 ha _ hs)

theorem overflows_of_not_admits (ht : f.Takes values) (h : ¬ f.Admits values) :
    f.Overflows values := by
  have hnumbers (hf : f = .sum ∨ f = .avg) (hkind : ∀ v ∈ values, v.kind = .number) :
      f.Overflows values := by
    obtain ⟨ns, rfl⟩ := exists_numbers hkind
    simp only [admits_numbers_iff hf, not_forall] at h
    obtain ⟨start, hs, hr⟩ := h
    exact .total hf rfl hs hr
  cases f with
  | count => exact .count rfl h
  | sum => exact hnumbers (.inl rfl) ht
  | avg => exact hnumbers (.inr rfl) ht
  | min => exact absurd ht h
  | max => exact absurd ht h

theorem Yields.of_sum {w : Value} (h : f.Yields (ns.map .number) w) (hf : f = .sum) :
    ∃ n : Number, w = .number n ∧ n.toInt = Number.total ns := by
  subst hf
  generalize hv : ns.map Value.number = values at h
  cases h with
  | @sum ns' n hn =>
    obtain rfl := map_number_inj hv
    exact ⟨n, rfl, hn⟩

theorem Yields.of_avg {w : Value} (h : f.Yields (ns.map .number) w) (hf : f = .avg) :
    ns = [] ∧ w = .null ∨
      ns ≠ [] ∧ ∃ n : Number, w = .number n ∧ n.toInt = (Number.total ns).tdiv ns.length := by
  subst hf
  generalize hv : ns.map Value.number = values at h
  cases h with
  | avg_none => exact .inl ⟨List.map_eq_nil_iff.1 hv, rfl⟩
  | @avg ns' n hne hn =>
    obtain rfl := map_number_inj hv
    exact .inr ⟨hne, n, rfl, hn⟩

end AggregateFunction

namespace Accumulator

variable {f : AggregateFunction} {values : List Value} {ns : List Number} {e : EvalError}

theorem error_of_addTo {total : Number}
    (h : (ns.map Value.number).foldlM (addTo f) total = .error e) :
    e = .numericOverflow (.aggregate f) := by
  obtain ⟨before, v, after, total', hv, -, he⟩ := exists_of_foldlM_error h
  obtain ⟨n, -, rfl⟩ : ∃ n ∈ ns, Value.number n = v := List.mem_map.1 (by simp [hv])
  unfold addTo at he
  cases hadd : total'.add? n <;> simp [hadd] at he
  exact he.symm

theorem error_of_absorb_count {n : Nat} {total : Number} {best : Option Value}
    (h : values.foldlM absorb ⟨.count, n, total, best⟩ = .error e) :
    e = .numericOverflow (.aggregate .count) := by
  induction values generalizing n with
  | nil => cases h
  | cons v values ih =>
    rw [List.foldlM_cons, absorb, revise, ok_bind, tally] at h
    split at h
    · simpa [error_bind, eq_comm] using h
    · exact ih h

/-- A function can only fail on values of the kinds that it is for because a count or a total
is out of range. -/
theorem error_of_absorb (hnull : ∀ v ∈ values, v ≠ .null) (ht : f.Takes values)
    (h : values.foldlM absorb (start f) = .error e) : e = .numericOverflow (.aggregate f) := by
  have hranked (ha : f.Admits values) : e = .numericOverflow (.aggregate f) := by
    obtain ⟨acc, hacc⟩ := (exists_absorb_iff hnull).2 ha
    rw [h] at hacc
    cases hacc
  cases f with
  | count => exact error_of_absorb_count h
  | sum =>
    obtain ⟨ns, rfl⟩ := AggregateFunction.exists_numbers ht
    rw [start, foldlM_absorb_total (.inl rfl), bind_pure_eq_error_iff] at h
    exact error_of_addTo h
  | avg =>
    obtain ⟨ns, rfl⟩ := AggregateFunction.exists_numbers ht
    rw [start, foldlM_absorb_total (.inr rfl), bind_pure_eq_error_iff] at h
    exact error_of_addTo h
  | min => exact hranked ht
  | max => exact hranked ht

end Accumulator

-- ---------------------------------------------------------------------------
-- One column over the rows of one group
-- ---------------------------------------------------------------------------

namespace AggregateColumn

variable {r : Relation} {column : AggregateColumn} {members : List Row} {e : EvalError}

/-- A column has a value of its argument on every row, and its function is for these values. -/
def Suits (r : Relation) (members : List Row) (column : AggregateColumn) : Prop :=
  ∃ values, members.mapM (fun t => column.contribution (r.scope t)) = .ok values ∧
    column.function.Takes (Value.present values)

def Overflows (r : Relation) (members : List Row) (column : AggregateColumn) : Prop :=
  ∃ values, members.mapM (fun t => column.contribution (r.scope t)) = .ok values ∧
    column.function.Overflows (Value.present values)

/-- The numbers that a sum or an average adds up over some rows, in the order of the rows. -/
def AddsUp (r : Relation) (members : List Row) (column : AggregateColumn) (ns : List Number) :
    Prop :=
  (column.function = .sum ∨ column.function = .avg) ∧
    ∃ values, members.mapM (fun t => column.contribution (r.scope t)) = .ok values ∧
      Value.present values = ns.map .number

theorem gather_of_mapM {values : List Value}
    (h : members.mapM (fun t => column.contribution (r.scope t)) = .ok values) :
    gather r members column =
      (Value.present values).foldlM Accumulator.absorb (.start column.function) := by
  rw [← Accumulator.foldlM_update]
  exact foldlM_bind_of_mapM h _

theorem Suits.exists_gather_iff (h : Suits r members column) :
    (∃ acc, gather r members column = .ok acc) ↔ ¬ Overflows r members column := by
  obtain ⟨values, hv, ht⟩ := h
  rw [gather_of_mapM hv, Accumulator.exists_absorb_iff present_ne_null]
  constructor
  · rintro ha ⟨values', hv', ho⟩
    obtain rfl := Except.ok.inj (hv.symm.trans hv')
    exact ho.not_admits ha
  · intro ho
    by_contra ha
    exact ho ⟨values, hv, AggregateFunction.overflows_of_not_admits ht ha⟩

theorem Suits.of_gather_error {start : List Row} (h : Suits r members column)
    (hs : start <+: members) (he : gather r start column = .error e) :
    Overflows r members column ∧ e = .numericOverflow (.aggregate column.function) := by
  obtain ⟨values, hv, ht⟩ := h
  constructor
  · by_contra ho
    obtain ⟨acc, hacc⟩ := (Suits.exists_gather_iff ⟨values, hv, ht⟩).2 ho
    obtain ⟨rest, rfl⟩ := hs
    rw [gather] at he
    simp [gather, List.foldlM_append, he, error_bind] at hacc
  · obtain ⟨values', hv', hp⟩ := exists_mapM_of_prefix hv hs
    rw [gather_of_mapM hv'] at he
    exact Accumulator.error_of_absorb present_ne_null (ht.of_prefix (hp.filter _)) he

theorem AddsUp.overflows_iff {ns : List Number} (h : AddsUp r members column ns) :
    Overflows r members column ↔ ∃ start, start <+: ns ∧ ¬ Number.InRange (Number.total start) := by
  obtain ⟨hf, values, hv, hns⟩ := h
  constructor
  · rintro ⟨values', hv', ho⟩
    obtain rfl := Except.ok.inj (hv.symm.trans hv')
    have ha := ho.not_admits
    rw [hns, AggregateFunction.admits_numbers_iff hf] at ha
    simpa only [not_forall, exists_prop] using ha
  · rintro ⟨start, hs, hr⟩
    exact ⟨values, hv, .total hf hns hs hr⟩

theorem AddsUp.yields {ns : List Number} {w : Value} (h : AddsUp r members column ns)
    (hcount : column.argument = none → column.function = .count)
    (hw : Summarises r members column w) : column.function.Yields (ns.map .number) w := by
  obtain ⟨hf, values, hv, hns⟩ := h
  cases hw with
  | rows ha _ => rcases hf with hf | hf <;> simp [hcount ha] at hf
  | values ha hv' hy =>
    simp only [contribution_of_some ha] at hv
    obtain rfl := Except.ok.inj (hv.symm.trans hv')
    rwa [← hns]

end AggregateColumn

-- ---------------------------------------------------------------------------
-- A run over the rows
-- ---------------------------------------------------------------------------

namespace Groups

variable {r : Relation} {columns : List AggregateColumn} {accs : List Accumulator}
  {groups : Groups} {key t : Row} {e : EvalError}

theorem exists_take_error {R : AggregateColumn → Accumulator → Prop}
    (h : List.Forall₂ R columns accs) (he : updateAll (r.scope t) columns accs = .error e) :
    ∃ column ∈ columns, ∃ acc, R column acc ∧ column.take r acc t = .error e := by
  induction h with
  | nil => cases he
  | @cons column acc columns accs hr _ ih =>
    have hcons : updateAll (r.scope t) (column :: columns) (acc :: accs) =
        column.take r acc t >>= fun next => updateAll (r.scope t) columns accs >>= fun rest =>
          pure (next :: rest) := by
      simp [updateAll, AggregateColumn.take]
    rw [hcons] at he
    cases htake : column.take r acc t with
    | error e' =>
      obtain rfl : e' = e := by simpa [htake, error_bind] using he
      exact ⟨column, List.mem_cons_self .., acc, hr, htake⟩
    | ok next =>
      rw [htake] at he
      obtain ⟨column', hm, acc', hr', he'⟩ := ih (bind_pure_eq_error_iff.1 he)
      exact ⟨column', List.mem_cons_of_mem _ hm, acc', hr', he'⟩

theorem insertRow_eq_error_iff {scope : Scope} :
    insertRow columns key scope groups = .error e ↔
      updateAll scope columns ((groups.lookup key).getD (start columns)) = .error e := by
  induction groups with
  | nil => exact bind_pure_eq_error_iff
  | cons group groups ih =>
    obtain ⟨k, old⟩ := group
    unfold insertRow
    split
    · rename_i h
      subst h
      simpa using bind_pure_eq_error_iff
    · rename_i h
      simpa [List.lookup_cons, beq_false_of_ne (Ne.symm h), ← ih] using bind_pure_eq_error_iff

end Groups

namespace Relation

open Groups (gatherAll start)

variable {r v : Relation} {keys : List Expr} {columns : List AggregateColumn}
  {rows : List Row} {e : EvalError}

theorem exists_gather_error (hkeys : ∀ t ∈ rows, ∃ k, Expr.evalAll (r.scope t) keys = .ok k)
    (h : rows.foldlM (r.groupRow keys columns) [] = .error e) :
    ∃ t ∈ rows, ∃ k, Expr.evalAll (r.scope t) keys = .ok k ∧ ∃ column ∈ columns, ∃ start,
      start <+: withKey r keys k rows ∧ column.gather r start = .error e := by
  obtain ⟨before, t, after, groups, rfl, hb, ht⟩ := exists_of_foldlM_error h
  have hg := gathers_of_foldlM hb
  obtain ⟨k, hk⟩ := hkeys t (by simp)
  have hupdate : Groups.updateAll (r.scope t) columns
      ((groups.lookup k).getD (start columns)) = .error e := by
    rw [groupRow, hk] at ht
    exact Groups.insertRow_eq_error_iff.1 ht
  -- the accumulators are those of the rows with this key that came before
  have haccs := Groups.gatherAll_start_eq_ok_iff.1 (hg.gathered k)
  obtain ⟨column, hm, acc, hacc, htake⟩ := Groups.exists_take_error haccs hupdate
  refine ⟨t, by simp, k, hk, column, hm, withKey r keys k before ++ [t], ?_, ?_⟩
  · refine ⟨withKey r keys k after, ?_⟩
    simp [withKey, List.filter_append, hk]
  · rw [AggregateColumn.gather] at hacc ⊢
    rw [List.foldlM_append, hacc, ok_bind]
    simpa using htake

section

variable (hnames : ∀ key ∈ keys, key.outputName ≠ none)
  (hdistinct : (keys.filterMap Expr.outputName ++ columns.map (·.name)).Nodup)
  (hkeys : ∀ t ∈ r.rows, ∃ k, Expr.evalAll (r.scope t) keys = .ok k)
  (hsuits : ∀ k ∈ r.groupKeys keys, ∀ column ∈ columns, column.Suits r (r.members keys k))

include hnames hdistinct hkeys hsuits

theorem overflows_of_group_error (h : r.group keys columns = .error e) :
    ∃ k ∈ r.groupKeys keys, ∃ column ∈ columns, column.Overflows r (r.members keys k) ∧
      e = .numericOverflow (.aggregate column.function) := by
  have hnamed : columnNames .grouping keys = .ok (keys.map Expr.outputName) :=
    columnNames_eq_ok_iff.2 ⟨hnames, rfl⟩
  have hchecked : checkDistinct (keys.map Expr.outputName ++
      columns.map fun column => some column.name) = .ok () :=
    checkDistinct_eq_ok_iff.2 (by simpa [attributeNames, List.filterMap_map] using hdistinct)
  have hfold : r.rows.toList.foldlM (r.groupRow keys columns) [] = .error e := by
    simp only [group, hnamed, ok_bind, hchecked] at h
    exact bind_pure_eq_error_iff.1 h
  obtain ⟨t, ht, k, hk, column, hm, start, hs, he⟩ := exists_gather_error hkeys hfold
  have hkey : k ∈ r.groupKeys keys := mem_groupKeys_iff.2 (.inl ⟨t, ht, hk⟩)
  exact ⟨k, hkey, column, hm, (hsuits k hkey column hm).of_gather_error hs he⟩

theorem exists_group_error_iff
    (hcount : ∀ column ∈ columns, column.argument = none → column.function = .count) :
    (∃ e, r.group keys columns = .error e) ↔
      ∃ k ∈ r.groupKeys keys, ∃ column ∈ columns, column.Overflows r (r.members keys k) := by
  have hok : (∃ v, r.group keys columns = .ok v) ↔
      ∀ k ∈ r.groupKeys keys, ∀ column ∈ columns, ¬ column.Overflows r (r.members keys k) := by
    rw [exists_group_iff hcount, and_iff_right hnames, and_iff_right hdistinct,
      and_iff_right hkeys]
    refine forall₂_congr fun k hk => forall₂_congr fun column hm => ?_
    rw [← (hsuits k hk column hm).exists_gather_iff,
      AggregateColumn.exists_gather_iff (hcount column hm)]
  rw [exists_error_iff, hok]
  simp only [not_forall, not_not, exists_prop]

end

/-- A grouping that has a name for each column, each its own, keys for all rows, and values of
suitable kinds in all columns fails only by an overflow, and exactly when a count or a total on
the way through the rows of some group is out of range. That is so where the last total is, and
never where the positive values and the negative values both have totals in range. On success
sums are exact, and averages are their quotients rounded toward zero. -/
theorem totals_of_group {aggregates : List Expr}
    (hc : aggregates.mapM AggregateColumn.ofExpr = .ok columns)
    (hnames : ∀ key ∈ keys, key.outputName ≠ none)
    (hdistinct : (keys.filterMap Expr.outputName ++ columns.map (·.name)).Nodup)
    (hkeys : ∀ t ∈ r.rows, ∃ k, Expr.evalAll (r.scope t) keys = .ok k)
    (hsuits : ∀ k ∈ r.groupKeys keys, ∀ column ∈ columns, column.Suits r (r.members keys k)) :
    ((∃ e, r.group keys columns = .error e) ↔
      ∃ k ∈ r.groupKeys keys, ∃ column ∈ columns, column.Overflows r (r.members keys k)) ∧
    (∀ e, r.group keys columns = .error e →
      ∃ k ∈ r.groupKeys keys, ∃ column ∈ columns, column.Overflows r (r.members keys k) ∧
        e = .numericOverflow (.aggregate column.function)) ∧
    (∀ k ∈ r.groupKeys keys, ∀ column ∈ columns, ∀ ns, column.AddsUp r (r.members keys k) ns →
      (column.Overflows r (r.members keys k) ↔
        ∃ start, start <+: ns ∧ ¬ Number.InRange (Number.total start)) ∧
      (¬ Number.InRange (Number.total ns) → column.Overflows r (r.members keys k)) ∧
      (Number.InRange (Number.negativeTotal ns) → Number.InRange (Number.positiveTotal ns) →
        ¬ column.Overflows r (r.members keys k))) ∧
    ∀ v, r.group keys columns = .ok v → ∀ k ∈ r.groupKeys keys, ∃ vs, k ++ vs ∈ v.rows ∧
      List.Forall₂ (fun column w => ∀ ns, column.AddsUp r (r.members keys k) ns →
        (column.function = .sum → ∃ n : Number, w = .number n ∧ n.toInt = Number.total ns) ∧
        (column.function = .avg → ns = [] ∧ w = .null ∨ ns ≠ [] ∧
          ∃ n : Number, w = .number n ∧ n.toInt = (Number.total ns).tdiv ns.length))
        columns vs := by
  have hcount := AggregateColumn.count_of_mapM_ofExpr hc
  refine ⟨exists_group_error_iff hnames hdistinct hkeys hsuits hcount,
    fun e he => overflows_of_group_error hnames hdistinct hkeys hsuits he, ?_, ?_⟩
  · intro k _ column _ ns hns
    rw [hns.overflows_iff]
    refine ⟨Iff.rfl, fun hr => ⟨ns, List.prefix_rfl, hr⟩, ?_⟩
    rintro hneg hpos ⟨start, hs, hr⟩
    exact hr (Number.inRange_of_prefix hneg hpos hs)
  · intro v hv k hk
    obtain ⟨vs, hm, -⟩ := existsUnique_append_mem_group hcount hv hk
    have hvs := summarises_of_mem_group hcount hv hk hm
    refine ⟨vs, hm, ((List.forall₂_and_left _ _).2 ⟨hcount, hvs⟩).imp ?_⟩
    rintro column w ⟨hcolumn, hw⟩ ns hns
    have hy := hns.yields hcolumn hw
    exact ⟨hy.of_sum, hy.of_avg⟩

theorem totals_of_group_regions :
    let r : Relation := ⟨[some "region", some "amount"],
      .ofList [[.text "east", .number ⟨-1, by decide⟩],
        [.text "east", .number ⟨Number.greatest, by decide⟩], [.text "west", .null]]⟩
    let keys : List Expr := [.attr "region"]
    let aggregates : List Expr := [.call "sum" [.attr "amount"], .call "avg" [.attr "amount"]]
    let columns : List AggregateColumn := [⟨.sum, some (.attr "amount"), "sum(amount)"⟩,
      ⟨.avg, some (.attr "amount"), "avg(amount)"⟩]
    aggregates.mapM AggregateColumn.ofExpr = .ok columns ∧
      (∀ t ∈ r.rows, ∃ k, Expr.evalAll (r.scope t) keys = .ok k) ∧
      (∀ k ∈ r.groupKeys keys, ∀ column ∈ columns, column.Suits r (r.members keys k)) ∧
      r.group keys columns = .ok ⟨[some "region", some "sum(amount)", some "avg(amount)"],
        .ofList [[.text "east", .number ⟨9223372036854775806, by decide⟩,
          .number ⟨4611686018427387903, by decide⟩], [.text "west", .number .zero, .null]]⟩ ∧
      ¬ ∃ k ∈ r.groupKeys keys, ∃ column ∈ columns, column.Overflows r (r.members keys k) := by
  intro r keys aggregates columns
  have hsum : AggregateFunction.find? "sum" = some .sum := by decide +kernel
  have havg : AggregateFunction.find? "avg" = some .avg := by decide +kernel
  have hc : aggregates.mapM AggregateColumn.ofExpr = .ok columns := by
    simp only [aggregates, List.mapM_cons, AggregateColumn.ofExpr, Expr.unnamed, hsum, havg]
    rfl
  have hkeys : ∀ t ∈ r.rows, ∃ k, Expr.evalAll (r.scope t) keys = .ok k := by
    simp only [r, RowSet.mem_ofList, List.forall_mem_cons, List.not_mem_nil, false_implies,
      implies_true, and_true]
    exact ⟨⟨_, rfl⟩, ⟨_, rfl⟩, ⟨_, rfl⟩⟩
  have hsuits : ∀ k ∈ r.groupKeys keys, ∀ column ∈ columns,
      column.Suits r (r.members keys k) := by
    have hk : r.groupKeys keys = .ofList [[.text "east"], [.text "west"]] := by rfl
    simp only [hk, columns, RowSet.mem_ofList, List.forall_mem_cons, List.not_mem_nil,
      false_implies, implies_true, and_true]
    exact ⟨⟨⟨_, rfl, by decide⟩, ⟨_, rfl, by decide⟩⟩, ⟨_, rfl, by decide⟩, ⟨_, rfl, by decide⟩⟩
  have hv : r.group keys columns = .ok ⟨[some "region", some "sum(amount)", some "avg(amount)"],
      .ofList [[.text "east", .number ⟨9223372036854775806, by decide⟩,
        .number ⟨4611686018427387903, by decide⟩], [.text "west", .number .zero, .null]]⟩ := by rfl
  refine ⟨hc, hkeys, hsuits, hv, fun ho => ?_⟩
  obtain ⟨e, he⟩ := (totals_of_group hc (by decide) (by decide) hkeys hsuits).1.2 ho
  simp [hv] at he

/-- The last total is in range. In one order of the rows so are the totals on the way; with two
values exchanged one of them is not, and the sum fails. -/
theorem totals_of_group_out_of_order :
    let values (second third : Number) : Relation := ⟨[some "R.i", some "R.x"],
      .ofList [[.number .one, .number ⟨Number.greatest, by decide⟩],
        [.number ⟨2, by decide⟩, .number second], [.number ⟨3, by decide⟩, .number third]]⟩
    let columns : List AggregateColumn := [⟨.sum, some (.attr "x"), "sum(x)"⟩]
    let minusOne : Number := ⟨-1, by decide⟩
    let r := values .one minusOne
    [Expr.call "sum" [.attr "x"]].mapM AggregateColumn.ofExpr = .ok columns ∧
      (columns.map (·.name)).Nodup ∧
      (∀ k ∈ r.groupKeys [], k = [] ∧ ∀ column ∈ columns,
        column.Suits r (r.members [] k) ∧
        column.AddsUp r (r.members [] k) [⟨Number.greatest, by decide⟩, .one, minusOne]) ∧
      Number.total [⟨Number.greatest, by decide⟩, .one, minusOne] = Number.greatest ∧
      r.group [] columns = .error (.numericOverflow (.aggregate .sum)) ∧
      (values minusOne .one).group [] columns = .ok ⟨[some "sum(x)"],
        .ofList [[.number ⟨Number.greatest, by decide⟩]]⟩ := by
  intro values columns minusOne r
  have hsum : AggregateFunction.find? "sum" = some .sum := by decide +kernel
  have hc : [Expr.call "sum" [.attr "x"]].mapM AggregateColumn.ofExpr = .ok columns := by
    simp only [List.mapM_cons, AggregateColumn.ofExpr, Expr.unnamed, hsum]
    rfl
  have hk : r.groupKeys [] = .ofList [[]] := by rfl
  refine ⟨hc, by decide, ?_, by decide, by rfl, by rfl⟩
  simp only [hk, columns, RowSet.mem_ofList, List.forall_mem_cons, List.not_mem_nil,
    false_implies, implies_true, and_true, true_and]
  exact ⟨⟨_, rfl, by decide⟩, .inl rfl, _, rfl, rfl⟩

end Relation

end Relational
