import Relational.Proofs.Membership

/-!
# What accumulators compute

An accumulator that has taken in values has their number, their exact sum, or the best of
them (`yields_of_absorb`). It gets through them as long as counts and running totals stay
in range and the values are of a kind that the function takes (`exists_absorb_iff`).
-/

namespace Relational

-- ---------------------------------------------------------------------------
-- The order of two values of one kind
-- ---------------------------------------------------------------------------

namespace Value

theorem compare?_of_kind_ne {a b : Value} (h : a.kind ≠ b.kind) : a.compare? b = none := by
  cases a <;> cases b <;> first | rfl | exact absurd rfl h

theorem compare?_of_kind_eq {a b : Value} (h : a.kind = b.kind) (hn : a.kind ≠ .null) :
    a.compare? b = some (compareOfLessAndEq a b) := by
  cases a <;> cases b <;> first | exact absurd rfl hn | cases h
  · rename_i a b
    cases a <;> cases b <;> rfl
  · rename_i a b
    rw [compare?]
    have hlt : (Value.number a < .number b) ↔ a.toInt < b.toInt := number_lt_number
    have heq : Value.number a = .number b ↔ a.toInt = b.toInt := by
      rw [number.injEq, Number.toInt_inj]
    simp only [compare, compareOfLessAndEq, hlt, heq]
  · rename_i a b
    rw [compare?]
    have hlt : (Value.text a < .text b) ↔ a < b := text_lt_text
    have heq : Value.text a = .text b ↔ a = b := by rw [text.injEq]
    simp only [compare, String.compare, compareOfLessAndEq, hlt, heq]

theorem compareOfLessAndEq_eq_lt_iff {a b : Value} : compareOfLessAndEq a b = .lt ↔ a < b := by
  unfold compareOfLessAndEq
  by_cases hlt : a < b
  · simp [hlt]
  · by_cases heq : a = b <;> simp [hlt, heq, lt_irrefl]

theorem compareOfLessAndEq_eq_gt_iff {a b : Value} : compareOfLessAndEq a b = .gt ↔ b < a := by
  unfold compareOfLessAndEq
  by_cases hlt : a < b
  · simp [hlt, lt_asymm hlt]
  · by_cases heq : a = b
    · simp [heq, lt_irrefl]
    · simp [hlt, heq, Decidable.not_not.1 fun hgt => heq (eq_of_not_lt hlt hgt)]

/-- A strict order in which a wanted result of comparisons is the step to a better value. -/
structure Prefers (wanted : Ordering) (better : Value → Value → Prop) : Prop where
  compare_iff : ∀ {a b}, compareOfLessAndEq a b = wanted ↔ better a b
  trans : ∀ {a b c}, better a b → better b c → better a c
  asymm : ∀ {a b}, better a b → ¬ better b a
  eq_of_not : ∀ {a b}, ¬ better a b → ¬ better b a → a = b

def Best (better : Value → Value → Prop) (values : List Value) (v : Value) : Prop :=
  v ∈ values ∧ ∀ w ∈ values, ¬ better w v

namespace Prefers

variable {wanted : Ordering} {better : Value → Value → Prop}

theorem best_cons_of_better (hp : Prefers wanted better) {b w v : Value} {values : List Value}
    (h : better w b) : Best better (b :: w :: values) v ↔ Best better (w :: values) v := by
  simp only [Best, List.mem_cons, forall_eq_or_imp]
  constructor
  · rintro ⟨rfl | hv, -, hw, hall⟩
    · exact absurd h hw
    · exact ⟨hv, hw, hall⟩
  · rintro ⟨hv, hw, hall⟩
    exact ⟨.inr hv, fun hb => hw (hp.trans h hb), hw, hall⟩

theorem best_cons_of_not_better (hp : Prefers wanted better) {b w v : Value}
    {values : List Value} (h : ¬ better w b) :
    Best better (b :: w :: values) v ↔ Best better (b :: values) v := by
  simp only [Best, List.mem_cons, forall_eq_or_imp]
  constructor
  · rintro ⟨hv, hb, -, hall⟩
    refine ⟨?_, hb, hall⟩
    rcases hv with rfl | rfl | hv
    · exact .inl rfl
    · exact .inl (hp.eq_of_not h hb)
    · exact .inr hv
  · rintro ⟨hv, hb, hall⟩
    refine ⟨hv.imp_right .inr, hb, fun hw => ?_, hall⟩
    -- as `w` is not better than `b`, what is worse than `w` is worse than `b`
    by_cases hbw : better b w
    · exact hb (hp.trans hbw hw)
    · exact hb (hp.eq_of_not h hbw ▸ hw)

theorem exists_best (hp : Prefers wanted better) (b : Value) (values : List Value) :
    ∃ v, Best better (b :: values) v := by
  induction values generalizing b with
  | nil => exact ⟨b, List.mem_singleton_self b, by simpa using fun h => hp.asymm h h⟩
  | cons w values ih =>
    by_cases h : better w b
    · simpa only [hp.best_cons_of_better h] using ih w
    · simpa only [hp.best_cons_of_not_better h] using ih b

theorem best_unique (hp : Prefers wanted better) {values : List Value} {v v' : Value}
    (h : Best better values v) (h' : Best better values v') : v = v' :=
  hp.eq_of_not (h'.2 v h.1) (h.2 v' h'.1)

end Prefers

theorem prefers_least : Prefers .lt (· < ·) where
  compare_iff := compareOfLessAndEq_eq_lt_iff
  trans := lt_trans
  asymm := lt_asymm
  eq_of_not := eq_of_not_lt

theorem prefers_greatest : Prefers .gt (fun a b => b < a) where
  compare_iff := compareOfLessAndEq_eq_gt_iff
  trans h h' := lt_trans h' h
  asymm := lt_asymm
  eq_of_not h h' := eq_of_not_lt h' h

end Value

def Value.present (values : List Value) : List Value := values.filter (· ≠ .null)

def Value.Ranked (values : List Value) : Prop :=
  (∀ v ∈ values, v.kind = .number) ∨ (∀ v ∈ values, v.kind = .text)

def Number.total (ns : List Number) : Int := ns.foldr (fun n rest => n.toInt + rest) 0

-- ---------------------------------------------------------------------------
-- What aggregate functions are
-- ---------------------------------------------------------------------------

namespace AggregateFunction

/-- The value of an aggregate function over values that are not null. -/
inductive Yields : AggregateFunction → List Value → Value → Prop
  | count {values n} : n.toInt = values.length → Yields count values (.number n)
  | sum {ns n} : n.toInt = Number.total ns → Yields sum (ns.map .number) (.number n)
  | avg_none : Yields avg [] .null
  | avg {ns n} : ns ≠ [] → n.toInt = (Number.total ns).tdiv ns.length →
      Yields avg (ns.map .number) (.number n)
  | min_none : Yields min [] .null
  | min {values v} : Value.Best (· < ·) values v → Yields min values v
  | max_none : Yields max [] .null
  | max {values v} : Value.Best (fun a b => b < a) values v → Yields max values v

/-- The values that an aggregate function gets through, one after the other: not more than
can be counted, numbers no running total of which is out of range, or numbers only or texts
only. -/
def Admits : AggregateFunction → List Value → Prop
  | .count, values => Number.InRange values.length
  | .sum, values | .avg, values =>
    ∃ ns, values = ns.map .number ∧ ∀ start, start <+: ns → Number.InRange (Number.total start)
  | .min, values | .max, values => Value.Ranked values

theorem map_number_inj {ns ns' : List Number} (h : ns.map Value.number = ns'.map .number) :
    ns = ns' := (List.map_inj_right fun _ _ => Value.number.inj).1 h

theorem Yields.unique {f : AggregateFunction} {values : List Value} {v v' : Value}
    (h : f.Yields values v) (h' : f.Yields values v') : v = v' := by
  cases h with
  | count hn =>
    cases h' with
    | count hn' => rw [Number.ext (hn.trans hn'.symm)]
  | sum hn =>
    generalize hm : List.map Value.number _ = values at h'
    cases h' with
    | sum hn' =>
      obtain rfl := map_number_inj hm
      rw [Number.ext (hn.trans hn'.symm)]
  | avg_none =>
    generalize hm : [] = values at h'
    cases h' with
    | avg_none => rfl
    | avg hne _ => exact absurd (List.map_eq_nil_iff.1 hm.symm) hne
  | avg hne hn =>
    generalize hm : List.map Value.number _ = values at h'
    cases h' with
    | avg_none => exact absurd (List.map_eq_nil_iff.1 hm) hne
    | avg _ hn' =>
      obtain rfl := map_number_inj hm
      rw [Number.ext (hn.trans hn'.symm)]
  | min_none =>
    cases h' with
    | min_none => rfl
    | min hb => exact absurd hb.1 List.not_mem_nil
  | min hb =>
    cases h' with
    | min_none => exact absurd hb.1 List.not_mem_nil
    | min hb' => exact Value.prefers_least.best_unique hb hb'
  | max_none =>
    cases h' with
    | max_none => rfl
    | max hb => exact absurd hb.1 List.not_mem_nil
  | max hb =>
    cases h' with
    | max_none => exact absurd hb.1 List.not_mem_nil
    | max hb' => exact Value.prefers_greatest.best_unique hb hb'

end AggregateFunction

namespace Accumulator

-- ---------------------------------------------------------------------------
-- Counts and totals
-- ---------------------------------------------------------------------------

variable {f : AggregateFunction} {n : Nat} {total : Number} {best : Option Value}

theorem absorb_count_eq_ok_iff {v : Value} {acc : Accumulator} :
    absorb ⟨.count, n, total, best⟩ v = .ok acc ↔
      Number.InRange (n + 1) ∧ ⟨.count, n + 1, total, best⟩ = acc := by
  rw [absorb, revise, ok_bind, tally]
  by_cases h : Number.InRange (n + 1) <;> simp [h]

/-- As a count never falls, it is in range on the way if it is in the end. -/
theorem foldlM_absorb_count_eq_ok_iff {values : List Value} {acc : Accumulator}
    (hn : Number.InRange n) :
    values.foldlM absorb ⟨.count, n, total, best⟩ = .ok acc ↔
      Number.InRange (n + values.length) ∧ ⟨.count, n + values.length, total, best⟩ = acc := by
  induction values generalizing n with
  | nil => simp [pure_eq_ok_iff, hn]
  | cons v values ih =>
    have hlength : n + 1 + values.length = n + (values.length + 1) := by omega
    have hcast : ((n + 1 : Nat) : Int) + values.length = n + (values.length + 1 : Nat) := by omega
    simp only [List.foldlM_cons, bind_eq_ok_iff, absorb_count_eq_ok_iff, List.length_cons]
    constructor
    · rintro ⟨_, ⟨hnext, rfl⟩, h⟩
      rwa [ih hnext, hcast, hlength] at h
    · rintro ⟨hr, rfl⟩
      have hnext : Number.InRange (n + 1) := by
        unfold Number.InRange at *
        omega
      exact ⟨_, ⟨hnext, rfl⟩, (ih hnext).2 ⟨hcast ▸ hr, by rw [hlength]⟩⟩

theorem addTo_eq_ok_iff {f : AggregateFunction} {total m : Number} {v : Value} :
    addTo f total v = .ok m ↔ ∃ n, v = .number n ∧ m.toInt = total.toInt + n.toInt := by
  cases v <;> simp only [addTo, reduceCtorEq, false_and, exists_false, Value.number.injEq,
    exists_eq_left']
  rename_i n
  rw [← Number.ofInt?_eq_some_iff, ← Number.add?]
  cases total.add? n <;> simp

theorem forall_prefix_cons {α : Type} {p : List α → Prop} {a : α} {l : List α} :
    (∀ start, start <+: a :: l → p start) ↔ p [] ∧ ∀ start, start <+: l → p (a :: start) := by
  simp only [List.prefix_cons_iff]
  constructor
  · intro h
    exact ⟨h [] (.inl rfl), fun start hs => h _ (.inr ⟨start, rfl, hs⟩)⟩
  · rintro ⟨hnil, hcons⟩ _ (rfl | ⟨start, rfl, hs⟩)
    · exact hnil
    · exact hcons start hs

/-- Every running total has to be in range, not only the last one. -/
theorem foldlM_addTo_eq_ok_iff {f : AggregateFunction} {values : List Value} {total m : Number} :
    values.foldlM (addTo f) total = .ok m ↔
      ∃ ns, values = ns.map .number ∧
        (∀ start, start <+: ns → Number.InRange (total.toInt + Number.total start)) ∧
        m.toInt = total.toInt + Number.total ns := by
  induction values generalizing total with
  | nil =>
    rw [List.foldlM_nil, pure_eq_ok_iff]
    simp [eq_comm, Number.total, total.inRange, Number.toInt_inj]
  | cons v values ih =>
    simp only [List.foldlM_cons, bind_eq_ok_iff, addTo_eq_ok_iff, ih]
    constructor
    · rintro ⟨next, ⟨n, rfl, hn⟩, ns, rfl, hr, hm⟩
      refine ⟨n :: ns, rfl, forall_prefix_cons.2 ⟨?_, fun start hs => ?_⟩, ?_⟩
      · simpa [Number.total] using total.inRange
      · simpa [Number.total, hn, Int.add_assoc] using hr start hs
      · simp [hm, hn, Number.total, Int.add_assoc]
    · rintro ⟨ns, hv, hr, hm⟩
      cases ns with
      | nil => cases hv
      | cons n ns =>
        obtain ⟨rfl, rfl⟩ := List.cons.inj hv
        obtain ⟨-, hr⟩ := forall_prefix_cons.1 hr
        have hn : Number.InRange (total.toInt + n.toInt) := by
          simpa [Number.total] using hr [] (List.nil_prefix ..)
        refine ⟨⟨_, hn⟩, ⟨n, rfl, rfl⟩, ns, rfl, fun start hs => ?_, ?_⟩
        · simpa [Number.total, Int.add_assoc] using hr start hs
        · simpa [Number.total, Int.add_assoc] using hm

theorem exists_addTo_iff {f : AggregateFunction} {values : List Value} :
    (∃ m, values.foldlM (addTo f) .zero = .ok m) ↔
      ∃ ns, values = ns.map .number ∧
        ∀ start, start <+: ns → Number.InRange (Number.total start) := by
  simp only [foldlM_addTo_eq_ok_iff, Number.zero, Int.zero_add]
  constructor
  · rintro ⟨m, ns, rfl, hr, -⟩
    exact ⟨ns, rfl, hr⟩
  · rintro ⟨ns, rfl, hr⟩
    exact ⟨⟨_, hr ns List.prefix_rfl⟩, ns, rfl, hr, rfl⟩

theorem absorb_total (hf : f = .sum ∨ f = .avg) (v : Value) :
    absorb ⟨f, n, total, best⟩ v = addTo f total v >>= fun m => pure ⟨f, n + 1, m, best⟩ := by
  rcases hf with rfl | rfl <;> simp [absorb, revise, tally, pure, Except.pure, ok_bind]

theorem foldlM_absorb_total (hf : f = .sum ∨ f = .avg) (values : List Value) :
    values.foldlM absorb ⟨f, n, total, best⟩ =
      values.foldlM (addTo f) total >>= fun m => pure ⟨f, n + values.length, m, best⟩ := by
  induction values generalizing n total with
  | nil => rfl
  | cons v values ih => simp [absorb_total hf, ih, Nat.add_assoc, Nat.add_comm 1]

-- ---------------------------------------------------------------------------
-- Least and greatest values
-- ---------------------------------------------------------------------------

section

variable {f : AggregateFunction} {wanted : Ordering} {better : Value → Value → Prop}

theorem improve_none_eq_ok_iff {v v' : Value} :
    improve f wanted none v = .ok v' ↔ v.kind ≠ .boolean ∧ v = v' := by
  unfold improve
  split <;> simp_all

theorem improve_some_eq_ok_iff (hp : Value.Prefers wanted better) {b v v' : Value}
    (hn : b.kind ≠ .null) (hb : b.kind ≠ .boolean) :
    improve f wanted (some b) v = .ok v' ↔
      v.kind = b.kind ∧ (better v b ∧ v' = v ∨ ¬ better v b ∧ v' = b) := by
  by_cases hk : v.kind = b.kind
  · have hc := Value.compare?_of_kind_eq hk (hk ▸ hn)
    rw [improve, if_neg (hk ▸ hb)]
    simp only [Value.compareFor, hc, bind_eq_ok_iff, pure_eq_ok_iff, Except.ok.injEq,
      exists_eq_left', hp.compare_iff, hk, true_and]
    by_cases h : better v b <;> simp [hp.compare_iff, h, eq_comm]
  · have hc := Value.compare?_of_kind_ne hk
    unfold improve
    split <;> simp [Value.compareFor, hc, hk]

/-- The best value so far is that of all the values taken in, and they are of its kind. -/
theorem foldlM_improve_eq_ok_iff (hp : Value.Prefers wanted better) {values : List Value}
    {b v : Value} (hn : b.kind ≠ .null) (hb : b.kind ≠ .boolean) :
    values.foldlM (fun best => improve f wanted (some best)) b = .ok v ↔
      (∀ w ∈ values, w.kind = b.kind) ∧ Value.Best better (b :: values) v := by
  induction values generalizing b with
  | nil =>
    have : ¬ better b b := fun h => hp.asymm h h
    rw [List.foldlM_nil, pure_eq_ok_iff]
    simp only [Value.Best, List.mem_singleton, forall_eq, List.not_mem_nil, false_implies,
      implies_true, true_and, @eq_comm _ b]
    exact ⟨fun h => ⟨h, h ▸ this⟩, And.left⟩
  | cons w values ih =>
    simp only [List.foldlM_cons, bind_eq_ok_iff, improve_some_eq_ok_iff hp hn hb,
      List.forall_mem_cons, and_assoc]
    constructor
    · rintro ⟨next, hw, ⟨h, rfl⟩ | ⟨h, rfl⟩, hrest⟩
      · rw [ih (hw ▸ hn) (hw ▸ hb), hw] at hrest
        exact ⟨hw, hrest.1, (hp.best_cons_of_better h).2 hrest.2⟩
      · rw [ih hn hb] at hrest
        exact ⟨hw, hrest.1, (hp.best_cons_of_not_better h).2 hrest.2⟩
    · rintro ⟨hw, hrest, hbest⟩
      by_cases h : better w b
      · refine ⟨w, hw, .inl ⟨h, rfl⟩, (ih (hw ▸ hn) (hw ▸ hb)).2 ⟨?_, ?_⟩⟩
        · exact hw ▸ hrest
        · exact (hp.best_cons_of_better h).1 hbest
      · exact ⟨b, hw, .inr ⟨h, rfl⟩,
          (ih hn hb).2 ⟨hrest, (hp.best_cons_of_not_better h).1 hbest⟩⟩

structure KeepsBest (f : AggregateFunction) (wanted : Ordering) : Prop where
  absorb_eq : ∀ n total best v, absorb ⟨f, n, total, best⟩ v =
    improve f wanted best v >>= fun m => pure ⟨f, n + 1, total, some m⟩

theorem keepsBest_min : KeepsBest .min .lt := by
  constructor
  simp [absorb, revise, tally, pure, Except.pure, ok_bind]

theorem keepsBest_max : KeepsBest .max .gt := by
  constructor
  simp [absorb, revise, tally, pure, Except.pure, ok_bind]

theorem foldlM_absorb_some (hm : KeepsBest f wanted) (values : List Value) (b : Value) :
    values.foldlM absorb ⟨f, n, total, some b⟩ =
      values.foldlM (fun best => improve f wanted (some best)) b >>=
        fun m => pure ⟨f, n + values.length, total, some m⟩ := by
  induction values generalizing n b with
  | nil => rfl
  | cons v values ih => simp [hm.absorb_eq, ih, Nat.add_assoc, Nat.add_comm 1]

theorem foldlM_absorb_best_eq_ok_iff (hp : Value.Prefers wanted better)
    (hm : KeepsBest f wanted) {values : List Value} (hnull : ∀ v ∈ values, v ≠ .null)
    {acc : Accumulator} :
    values.foldlM absorb (start f) = .ok acc ↔
      Value.Ranked values ∧
        (values = [] ∧ start f = acc ∨
          ∃ v, Value.Best better values v ∧ ⟨f, values.length, .zero, some v⟩ = acc) := by
  cases values with
  | nil => simp [pure_eq_ok_iff, Value.Ranked, Value.Best]
  | cons b values =>
    have hb : b.kind ≠ .null := fun h =>
      hnull b (List.mem_cons_self ..) (Value.kind_eq_null_iff.1 h)
    have hlength : (b :: values).length = 0 + 1 + values.length := by
      rw [List.length_cons, Nat.zero_add, Nat.add_comm]
    simp only [hlength, start, List.foldlM_cons, hm.absorb_eq, bind_eq_ok_iff, pure_eq_ok_iff,
      improve_none_eq_ok_iff, Value.Ranked, List.forall_mem_cons, reduceCtorEq, false_and, false_or]
    constructor
    · rintro ⟨_, ⟨_, ⟨hbool, rfl⟩, rfl⟩, h⟩
      rw [foldlM_absorb_some hm, bind_eq_ok_iff] at h
      obtain ⟨v, hv, ha⟩ := h
      obtain rfl := pure_eq_ok_iff.1 ha
      obtain ⟨hrest, hbest⟩ := (foldlM_improve_eq_ok_iff hp hb hbool).1 hv
      refine ⟨?_, v, hbest, rfl⟩
      cases hk : b.kind with
      | null => exact absurd hk hb
      | boolean => exact absurd hk hbool
      | number => exact .inl ⟨rfl, hk ▸ hrest⟩
      | text => exact .inr ⟨rfl, hk ▸ hrest⟩
    · rintro ⟨hkind, v, hbest, rfl⟩
      have hbool : b.kind ≠ .boolean := by
        rcases hkind with ⟨hk, -⟩ | ⟨hk, -⟩ <;> simp [hk]
      have hrest : ∀ w ∈ values, w.kind = b.kind := by
        rcases hkind with ⟨hk, hrest⟩ | ⟨hk, hrest⟩ <;> exact hk ▸ hrest
      refine ⟨_, ⟨b, ⟨hbool, rfl⟩, rfl⟩, ?_⟩
      rw [foldlM_absorb_some hm, bind_eq_ok_iff]
      exact ⟨v, (foldlM_improve_eq_ok_iff hp hb hbool).2 ⟨hrest, hbest⟩, rfl⟩

theorem exists_absorb_best_iff (hp : Value.Prefers wanted better)
    (hm : KeepsBest f wanted) {values : List Value} (hnull : ∀ v ∈ values, v ≠ .null) :
    (∃ acc, values.foldlM absorb (start f) = .ok acc) ↔ Value.Ranked values := by
  simp only [foldlM_absorb_best_eq_ok_iff hp hm hnull]
  refine ⟨fun ⟨_, h, _⟩ => h, fun h => ?_⟩
  cases values with
  | nil => exact ⟨_, h, .inl ⟨rfl, rfl⟩⟩
  | cons b values =>
    obtain ⟨v, hv⟩ := hp.exists_best b values
    exact ⟨_, h, .inr ⟨v, hv, rfl⟩⟩

end

-- ---------------------------------------------------------------------------
-- All aggregate functions
-- ---------------------------------------------------------------------------

section

variable {f : AggregateFunction} {values : List Value}

theorem yields_of_absorb (hnull : ∀ v ∈ values, v ≠ .null) {acc : Accumulator}
    (h : values.foldlM absorb (start f) = .ok acc) : f.Yields values acc.result := by
  cases f with
  | count =>
    obtain ⟨hr, rfl⟩ := (foldlM_absorb_count_eq_ok_iff (by decide)).1 h
    exact .count (by simpa using Number.toInt_wrap hr)
  | sum =>
    simp only [start, foldlM_absorb_total (.inl rfl), bind_eq_ok_iff, foldlM_addTo_eq_ok_iff,
      pure_eq_ok_iff] at h
    obtain ⟨m, ⟨ns, rfl, -, hm⟩, rfl⟩ := h
    exact .sum (by simpa [Number.zero] using hm)
  | avg =>
    simp only [start, foldlM_absorb_total (.inr rfl), bind_eq_ok_iff, foldlM_addTo_eq_ok_iff,
      pure_eq_ok_iff] at h
    obtain ⟨m, ⟨ns, rfl, -, hm⟩, rfl⟩ := h
    cases ns with
    | nil => exact .avg_none
    | cons n ns =>
      refine .avg (by simp) ?_
      have hm : m.toInt = Number.total (n :: ns) := by simpa [Number.zero] using hm
      simp [Number.divNat, hm]
  | min =>
    obtain ⟨-, ⟨rfl, rfl⟩ | ⟨v, hv, rfl⟩⟩ :=
      (foldlM_absorb_best_eq_ok_iff Value.prefers_least keepsBest_min hnull).1 h
    · exact .min_none
    · exact .min hv
  | max =>
    obtain ⟨-, ⟨rfl, rfl⟩ | ⟨v, hv, rfl⟩⟩ :=
      (foldlM_absorb_best_eq_ok_iff Value.prefers_greatest keepsBest_max hnull).1 h
    · exact .max_none
    · exact .max hv

theorem exists_absorb_iff (hnull : ∀ v ∈ values, v ≠ .null) :
    (∃ acc, values.foldlM absorb (start f) = .ok acc) ↔ f.Admits values := by
  cases f with
  | count =>
    simp [start, foldlM_absorb_count_eq_ok_iff (show Number.InRange (0 : Nat) by decide),
      AggregateFunction.Admits]
  | sum =>
    rw [start, foldlM_absorb_total (.inl rfl), exists_bind_pure_iff]
    exact exists_addTo_iff
  | avg =>
    rw [start, foldlM_absorb_total (.inr rfl), exists_bind_pure_iff]
    exact exists_addTo_iff
  | min => exact exists_absorb_best_iff Value.prefers_least keepsBest_min hnull
  | max => exact exists_absorb_best_iff Value.prefers_greatest keepsBest_max hnull

theorem foldlM_update (values : List Value) (acc : Accumulator) :
    values.foldlM update acc = (Value.present values).foldlM absorb acc := by
  induction values generalizing acc with
  | nil => rfl
  | cons v values ih =>
    by_cases hv : v = .null
    · simpa [Value.present, update, hv, bind, Except.bind] using ih acc
    · simp [Value.present, update, hv, ih]

end

end Accumulator

end Relational
