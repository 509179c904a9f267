import Relational.Proofs.Header
import Relational.Proofs.StoredNames
import Relational.Relation.Edit

/-!
# Values under construction

New relation values and what edits make of them (`edits_of_new`). The first
attribute or the first row settles the arity of a value for good. An edit is refused
if its values or names do not match an arity that is settled, or if it gives a name
twice, and a refused edit has changed nothing.
-/

namespace Relational

namespace Relation

section

variable {r r' : Relation} {t : Row} {attributes : List Attribute} {e : EvalError}

/-- A number of values or names that a settled arity does not allow. -/
def Misfits (r : Relation) (n : Nat) : Prop := r.arityEstablished ∧ n ≠ r.arity

instance (r : Relation) (n : Nat) : Decidable (r.Misfits n) := inferInstanceAs (Decidable (_ ∧ _))

-- ---------------------------------------------------------------------------
-- Refusals
-- ---------------------------------------------------------------------------

theorem addRow_eq_error_iff :
    r.addRow t = .error e ↔ r.Misfits t.length ∧ e = .arityMismatch .row r.arity t.length := by
  unfold addRow Misfits
  cases r.arityEstablished with
  | false => simp
  | true => by_cases hl : t.length = r.arity <;> simp [hl, eq_comm]

theorem setAttributes_of_misfits (h : r.Misfits attributes.length) :
    r.setAttributes attributes = .error (.arityMismatch .naming r.arity attributes.length) :=
  if_pos h

theorem setAttributes_of_fits (h : ¬ r.Misfits attributes.length) :
    r.setAttributes attributes =
      match firstRepeat? (attributeNames attributes) with
      | some name => .error (.duplicateAttribute name)
      | none => .ok ⟨attributes, r.rows⟩ := by
  unfold Misfits at h
  rw [setAttributes, if_neg h, checkDistinct]
  cases firstRepeat? (attributeNames attributes) <;> rfl

theorem setAttributes_eq_ok_iff :
    r.setAttributes attributes = .ok r' ↔
      ¬ r.Misfits attributes.length ∧ (attributeNames attributes).Nodup ∧
        r' = ⟨attributes, r.rows⟩ := by
  by_cases hm : r.Misfits attributes.length
  · simp [setAttributes_of_misfits hm, hm]
  · rw [setAttributes_of_fits hm, ← firstRepeat?_eq_none_iff]
    cases firstRepeat? (attributeNames attributes) <;> simp [hm, eq_comm]

theorem setAttributes_eq_error_iff :
    r.setAttributes attributes = .error e ↔
      r.Misfits attributes.length ∧ e = .arityMismatch .naming r.arity attributes.length ∨
      ¬ r.Misfits attributes.length ∧
        ∃ name, firstRepeat? (attributeNames attributes) = some name ∧
          e = .duplicateAttribute name := by
  by_cases hm : r.Misfits attributes.length
  · simp [setAttributes_of_misfits hm, hm, eq_comm]
  · rw [setAttributes_of_fits hm]
    cases firstRepeat? (attributeNames attributes) <;> simp [hm, eq_comm]

-- ---------------------------------------------------------------------------
-- What edits keep
-- ---------------------------------------------------------------------------

theorem addRow_namesDistinct (hd : r.NamesDistinct) (h : r.addRow t = .ok r') :
    r'.NamesDistinct := by
  unfold addRow at h
  split at h
  · obtain rfl := Except.ok.inj h
    simp [NamesDistinct, attributeNames]
  · split at h
    · cases h
    · obtain rfl := Except.ok.inj h
      exact hd

theorem arityEstablished_congr (ha : r'.arity = r.arity) (hr : r'.rows = r.rows) :
    r'.arityEstablished = r.arityEstablished := by
  have he : r'.attributes.isEmpty = r.attributes.isEmpty := by
    rw [Bool.eq_iff_iff, List.isEmpty_iff_length_eq_zero, List.isEmpty_iff_length_eq_zero]
    exact iff_of_eq (congrArg (· = 0) ha)
  rw [arityEstablished, arityEstablished, he, hr]

def SettledAs (r r' : Relation) : Prop := r'.arityEstablished ∧ r'.arity = r.arity

theorem addRow_settledAs (he : r.arityEstablished) (h : r.addRow t = .ok r') : r.SettledAs r' :=
  ⟨arityEstablished_of_addRow h, congrArg List.length (attributes_of_addRow he h)⟩

theorem setAttributes_settledAs (he : r.arityEstablished)
    (h : r.setAttributes attributes = .ok r') : r.SettledAs r' := by
  obtain ⟨hm, -, rfl⟩ := setAttributes_eq_ok_iff.1 h
  have ha : arity ⟨attributes, r.rows⟩ = r.arity := Decidable.not_not.1 fun hl => hm ⟨he, hl⟩
  exact ⟨(arityEstablished_congr ha rfl).trans he, ha⟩

namespace Edit

theorem outcome_namesDistinct (hd : r.NamesDistinct) {edit : Edit} (h : edit.outcome r = .ok r') :
    r'.NamesDistinct := by
  cases edit with
  | addRow t => exact addRow_namesDistinct hd h
  | setAttributes attributes => exact (namesDistinct_of_setAttributes h).2
  | setNames names => exact (namesDistinct_of_setAttributes h).2

theorem outcome_wellFormed (hw : r.WellFormed) {edit : Edit} (h : edit.outcome r = .ok r') :
    r'.WellFormed := by
  cases edit with
  | addRow t => exact addRow_wellFormed hw h
  | setAttributes attributes => exact setAttributes_wellFormed hw h
  | setNames names => exact setAttributes_wellFormed hw h

theorem outcome_settledAs (he : r.arityEstablished) {edit : Edit} (h : edit.outcome r = .ok r') :
    r.SettledAs r' := by
  cases edit with
  | addRow t => exact addRow_settledAs he h
  | setAttributes attributes => exact setAttributes_settledAs he h
  | setNames names => exact setAttributes_settledAs he h

theorem run_preserves {p : Relation → Prop} (hp : p r) {edit : Edit}
    (h : ∀ r', edit.outcome r = .ok r' → p r') : p (edit.run r).2 := by
  rw [run_eq]
  cases ho : edit.outcome r with
  | ok r' => exact h r' ho
  | error e => exact hp

theorem runAll_preserves {p : Relation → Prop}
    (step : ∀ r r' edit, p r → Edit.outcome r edit = .ok r' → p r') (hp : p r)
    (edits : List Edit) : p (runAll edits r) :=
  foldl_preserves (fun r edit hp => run_preserves hp (step r · edit hp)) hp edits

theorem runAll_settledAs (he : r.arityEstablished) (edits : List Edit) :
    r.SettledAs (runAll edits r) := by
  refine runAll_preserves (p := r.SettledAs) ?_ ⟨he, rfl⟩ edits
  rintro s s' edit ⟨hs, ha⟩ h
  obtain ⟨hs', ha'⟩ := outcome_settledAs hs h
  exact ⟨hs', ha'.trans ha⟩

theorem fst_run_eq_error_iff {edit : Edit} : (edit.run r).1 = .error e ↔ edit.outcome r = .error e := by
  rw [run_eq]
  cases edit.outcome r <;> simp [replacing]

theorem fst_run_eq_ok_iff {edit : Edit} : (edit.run r).1 = .ok () ↔ ∃ r', edit.outcome r = .ok r' := by
  rw [run_eq]
  cases edit.outcome r <;> simp [replacing]

theorem snd_run_of_error {edit : Edit} (h : (edit.run r).1 = .error e) : (edit.run r).2 = r := by
  rw [run_eq, fst_run_eq_error_iff.1 h, replacing]

end Edit

end

-- ---------------------------------------------------------------------------
-- Values
-- ---------------------------------------------------------------------------

/-- The relation values that there can be: those that are made and edited, and the values of
queries over databases of such values. -/
inductive Obtainable : Relation → Prop
  | empty : Obtainable .empty
  | withAttributes {attributes r} : withAttributes attributes = .ok r → Obtainable r
  | named {names r} : named names = .ok r → Obtainable r
  | qualified {relvar r r'} : Obtainable r → r.qualified relvar = .ok r' → Obtainable r'
  | edited (edit : Edit) {r} : Obtainable r → Obtainable (edit.run r).2
  | value {config : Config} {db : Database} {query : Query} {r} :
      (∀ name stored, db.relvars.get? name = some stored → Obtainable stored) →
      (query.eval config db).outcome = .ok r → Obtainable r

theorem Obtainable.wellFormed {r : Relation} (h : r.Obtainable) : r.WellFormed := by
  induction h with
  | empty => exact wellFormed_of_no_rows []
  | withAttributes h => exact withAttributes_wellFormed h
  | named h => exact withAttributes_wellFormed h
  | qualified _ h hw => exact qualified_wellFormed hw h
  | edited edit _ hw => exact Edit.run_preserves hw fun r' h => Edit.outcome_wellFormed hw h
  | value _ h hdb => exact Query.eval_wellFormed hdb h

inductive New : Relation → Prop
  | empty : New .empty
  | withAttributes {attributes r} : withAttributes attributes = .ok r → New r
  | named {names r} : named names = .ok r → New r
  | qualified {relvar r r'} : Obtainable r → r.qualified relvar = .ok r' → New r'

theorem withAttributes_namesDistinct {attributes : List Attribute} {r : Relation}
    (h : withAttributes attributes = .ok r) : r.NamesDistinct := by
  simp only [withAttributes, bind_eq_ok_iff, pure_eq_ok_iff] at h
  obtain ⟨_, hd, rfl⟩ := h
  exact checkDistinct_eq_ok_iff.1 hd

theorem New.namesDistinct {r : Relation} (h : r.New) : r.NamesDistinct := by
  cases h with
  | empty => exact .nil
  | withAttributes h => exact withAttributes_namesDistinct h
  | named h => exact withAttributes_namesDistinct h
  | qualified _ h => exact qualified_namesDistinct h

theorem New.obtainable {r : Relation} (h : r.New) : r.Obtainable := by
  cases h with
  | empty => exact .empty
  | withAttributes h => exact .withAttributes h
  | named h => exact .named h
  | qualified hr h => exact .qualified hr h

/-- A value as construction leaves it, and what the next edits can do to it. -/
structure Built (r : Relation) : Prop where
  namesDistinct : (attributeNames r.attributes).Nodup
  wellFormed : ∀ t ∈ r.rows, t.length = r.arity
  refused : ∀ (edit : Edit) e, (edit.run r).1 = .error e → (edit.run r).2 = r
  settled : r.arityEstablished → ∀ more, (Edit.runAll more r).arityEstablished ∧
    (Edit.runAll more r).arity = r.arity
  addRow_error : ∀ t e, ((Edit.addRow t).run r).1 = .error e ↔
    (r.arityEstablished ∧ t.length ≠ r.arity) ∧ e = .arityMismatch .row r.arity t.length
  setAttributes_arity : ∀ attributes, ((Edit.setAttributes attributes).run r).1 =
      .error (.arityMismatch .naming r.arity attributes.length) ↔
    r.arityEstablished ∧ attributes.length ≠ r.arity
  setAttributes_duplicate : ∀ attributes,
    (∃ name, ((Edit.setAttributes attributes).run r).1 = .error (.duplicateAttribute name)) ↔
    ¬ (r.arityEstablished ∧ attributes.length ≠ r.arity) ∧ ¬ (attributeNames attributes).Nodup
  setAttributes_ok : ∀ attributes, ((Edit.setAttributes attributes).run r).1 = .ok () ↔
    ¬ (r.arityEstablished ∧ attributes.length ≠ r.arity) ∧ (attributeNames attributes).Nodup

theorem Built.of_invariants {r : Relation} (hd : r.NamesDistinct) (hw : r.WellFormed) :
    r.Built where
  namesDistinct := hd
  wellFormed := hw
  refused _ _ := Edit.snd_run_of_error
  settled he := Edit.runAll_settledAs he
  addRow_error _ _ := Edit.fst_run_eq_error_iff.trans addRow_eq_error_iff
  setAttributes_arity attributes := by
    refine Edit.fst_run_eq_error_iff.trans (setAttributes_eq_error_iff.trans ?_)
    simp [Misfits]
  setAttributes_duplicate attributes := by
    simp only [Edit.fst_run_eq_error_iff, Edit.outcome, setAttributes_eq_error_iff]
    rw [← firstRepeat?_eq_none_iff, ← Ne, Option.ne_none_iff_exists']
    simp [Misfits]
  setAttributes_ok attributes := by
    simp only [Edit.fst_run_eq_ok_iff, Edit.outcome, setAttributes_eq_ok_iff]
    simp [Misfits]

end Relation

/-- Whatever edits a new value goes through, refused ones included, its names are
distinct, its rows have as many values as it has attributes, and the next edit is
refused for an arity or a repeated name and for nothing else. -/
theorem edits_of_new {r : Relation} (hr : r.New) (edits : List Relation.Edit) :
    (Relation.Edit.runAll edits r).Built := by
  refine .of_invariants ?_ ?_
  · exact Relation.Edit.runAll_preserves
      (fun _ _ _ hd h => Relation.Edit.outcome_namesDistinct hd h) hr.namesDistinct edits
  · exact Relation.Edit.runAll_preserves
      (fun _ _ _ hw h => Relation.Edit.outcome_wellFormed hw h) hr.obtainable.wellFormed edits

theorem edits_of_new_empty :
    let edits : List Relation.Edit := [.setNames ["a", "a"], .addRow [], .addRow [.null]]
    Relation.New .empty ∧ Relation.Edit.runAll edits .empty = ⟨[], .ofList [[]]⟩ ∧
      (Relation.Edit.runAll edits .empty).Built := by
  refine ⟨.empty, ?_, edits_of_new .empty _⟩
  decide

end Relational
