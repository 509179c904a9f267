import Relational.Proofs.Division
import Relational.Proofs.Header
import Relational.Proofs.Independence
import Relational.Proofs.Operands

/-!
# Assignments under the names of the value

An assignment without attribute names puts the local names of the value under the relation
variable. The local name of what it stores is the local name that the value had, so it makes
no difference to a later assignment whether the value was stored under another variable in
between (`assign_by_way_of`).
-/

namespace Relational

theorem qualify_injective (qualifier : String) : Function.Injective (qualify qualifier) :=
  fun _ _ h => (String.append_right_inj _).1 h

namespace Attribute

def requalify (relvar : String) (attr : Attribute) : Attribute :=
  attr.map fun name => qualify relvar (localName name)

@[simp] theorem requalify_some (relvar name : String) :
    requalify relvar (some name) = some (qualify relvar (localName name)) := rfl

@[simp] theorem requalify_none (relvar : String) : requalify relvar none = none := rfl

@[simp] theorem requalify_requalify (target relvar : String) (attr : Attribute) :
    requalify target (requalify relvar attr) = requalify target attr := by
  cases attr with
  | none => rfl
  | some name => simp [localName_qualify (isQualified_localName name)]

end Attribute

namespace Relation

variable {r : Relation} {relvar target : String}

/-- The same rows under the local names, qualified by a relation variable, whether or not these
are distinct. -/
def requalified (r : Relation) (relvar : String) : Relation :=
  ⟨r.attributes.map (Attribute.requalify relvar), r.rows⟩

@[simp] theorem requalified_requalified (r : Relation) (relvar target : String) :
    (r.requalified relvar).requalified target = r.requalified target := by
  simp [requalified, Function.comp_def]

@[simp] theorem arityEstablished_requalified (r : Relation) (relvar : String) :
    (r.requalified relvar).arityEstablished = r.arityEstablished := by
  simp [requalified, arityEstablished]

@[simp] theorem hasUnnamed_requalified (r : Relation) (relvar : String) :
    (r.requalified relvar).hasUnnamed = r.hasUnnamed := by
  simp [requalified, hasUnnamed, Function.comp_def, Attribute.requalify]

theorem attributeNames_requalified (r : Relation) (relvar : String) :
    attributeNames (r.requalified relvar).attributes =
      (localNames r.attributes).map (qualify relvar) := by
  simp only [requalified, attributeNames, localNames, List.filterMap_map, List.map_filterMap]
  refine List.filterMap_congr fun attr _ => ?_
  cases attr <;> rfl

@[simp] theorem localNames_requalified (r : Relation) (relvar : String) :
    localNames (r.requalified relvar).attributes = localNames r.attributes := by
  rw [localNames, attributeNames_requalified, localNames, List.map_map, List.map_map]
  refine List.map_congr_left fun name _ => ?_
  exact localName_qualify (isQualified_localName name)

theorem mapM_qualifyAttribute {attributes : List Attribute} (h : none ∉ attributes) :
    attributes.mapM (qualifyAttribute relvar) =
      .ok (attributes.map (Attribute.requalify relvar)) := by
  refine mapM_eq_ok_iff.2 (List.forall₂_map_right_iff.2 (List.forall₂_same.2 fun attr ha => ?_))
  cases attr with
  | none => exact absurd ha h
  | some name => rfl

theorem qualified_eq (h : r.hasUnnamed = false) (relvar : String) :
    r.qualified relvar =
      (checkDistinct (r.requalified relvar).attributes >>= fun _ => pure (r.requalified relvar)) := by
  have hnone : none ∉ r.attributes := fun hm => by simpa using List.any_eq_false.1 h none hm
  rw [qualified, mapM_qualifyAttribute hnone]
  rfl

theorem nodup_requalified_iff (r : Relation) (relvar : String) :
    (attributeNames (r.requalified relvar).attributes).Nodup ↔ (localNames r.attributes).Nodup := by
  rw [attributeNames_requalified, List.nodup_map_iff (qualify_injective relvar)]

theorem qualified_of_nodup (h : r.hasUnnamed = false) (hn : (localNames r.attributes).Nodup)
    (relvar : String) : r.qualified relvar = .ok (r.requalified relvar) := by
  rw [qualified_eq h, checkDistinct_eq_ok_iff.2 ((nodup_requalified_iff r relvar).2 hn)]
  rfl

theorem qualified_of_not_nodup (h : r.hasUnnamed = false) (hn : ¬ (localNames r.attributes).Nodup)
    (relvar : String) : ∃ e, r.qualified relvar = .error e ∧ e.kind = .duplicateAttribute := by
  rw [← nodup_requalified_iff r relvar] at hn
  obtain ⟨name, he⟩ := exists_checkDistinct_error hn
  rw [qualified_eq h, he]
  exact ⟨.duplicateAttribute name, rfl, rfl⟩

end Relation

-- ---------------------------------------------------------------------------
-- Assignments
-- ---------------------------------------------------------------------------

section

variable {config : Config} {db : Database} {relvar : String} {query : Query} {value r : Relation}

theorem nameForAssignment_of_named (he : value.arityEstablished) (hu : value.hasUnnamed = false) :
    nameForAssignment db relvar none value = value.qualified relvar := by
  simp [nameForAssignment, he, hu]

theorem Query.outcome_relvar_of_within (hr : db.relvars.get? relvar = some r)
    (hl : ∀ limit, config.maxRows = some limit → r.size ≤ limit) :
    ((Query.relvar relvar).eval config db).outcome = .ok r := by
  rw [outcome_relvar, Config.limited_eq_ok_iff, Database.relvar_eq_ok_iff]
  exact ⟨hr, Config.checkLimit_eq_ok_iff.2 hl⟩

theorem execute_assign_of_nodup (hq : (query.eval config db).outcome = .ok value)
    (hname : nameForAssignment db relvar none value = value.qualified relvar)
    (hu : value.hasUnnamed = false) (hn : (localNames value.attributes).Nodup) :
    (execute config db (.assign relvar none query)).result =
        .ok (.relation (value.requalified relvar)) ∧
      (execute config db (.assign relvar none query)).database =
        { db with relvars := db.relvars.insert relvar (value.requalified relvar) } := by
  have hresult : (Statement.assign relvar none query).result config db =
      .ok (.relation (value.requalified relvar)) := by
    rw [Statement.result, hq, ok_bind, hname, Relation.qualified_of_nodup hu hn, ok_bind,
      Relation.hasUnnamed_requalified, hu]
    rfl
  rw [result_execute, database_execute, hresult]
  exact ⟨rfl, rfl⟩

theorem execute_assign_of_not_nodup (hq : (query.eval config db).outcome = .ok value)
    (hname : nameForAssignment db relvar none value = value.qualified relvar)
    (hu : value.hasUnnamed = false) (hn : ¬ (localNames value.attributes).Nodup) :
    ∃ e, (execute config db (.assign relvar none query)).result = .error e ∧
      e.kind = .duplicateAttribute := by
  obtain ⟨e, he, hk⟩ := Relation.qualified_of_not_nodup hu hn relvar
  refine ⟨e, ?_, hk⟩
  rw [result_execute, Statement.result, hq, ok_bind, hname, he]
  rfl

end

/-- If a query has a value that goes by its own names, assigning it to one relation variable and
that one to another stores what assigning it to the other one directly stores. If the first
assignment is refused, the direct one is refused for the same kind of reason. -/
theorem assign_by_way_of {config : Config} {db : Database} {query : Query} {value : Relation}
    (hq : (query.eval config db).outcome = .ok value) (he : value.arityEstablished)
    (hu : value.hasUnnamed = false) (relvar target : String) :
    let first := execute config db (.assign relvar none query)
    let second := execute config first.database (.assign target none (.relvar relvar))
    let direct := execute config db (.assign target none query)
    (∀ outcome, first.result = .ok outcome →
      ∃ r, second.result = .ok (.relation r) ∧ direct.result = .ok (.relation r) ∧
        second.database.relvars.get? target = some r ∧
        direct.database.relvars.get? target = some r) ∧
    ∀ e, first.result = .error e → ∃ e', direct.result = .error e' ∧ e'.kind = e.kind := by
  intro first second direct
  have hname (name : String) : nameForAssignment db name none value = value.qualified name :=
    nameForAssignment_of_named he hu
  by_cases hn : (localNames value.attributes).Nodup
  · obtain ⟨hfirst, hstored⟩ := execute_assign_of_nodup hq (hname relvar) hu hn
    obtain ⟨hdirect, hdirect'⟩ := execute_assign_of_nodup hq (hname target) hu hn
    -- The value passed the row limit before, so it passes it again as the value of a variable.
    have hvalue : ((Query.relvar relvar).eval config first.database).outcome =
        .ok (value.requalified relvar) := by
      refine Query.outcome_relvar_of_within ?_ fun limit hl => ?_
      · rw [hstored, NameMap.get?_insert, if_pos rfl]
      · exact Query.size_le_of_eval hq hl
    obtain ⟨hsecond, hsecond'⟩ := execute_assign_of_nodup hvalue
      (nameForAssignment_of_named (by simpa using he) (by simpa using hu)) (by simpa using hu)
      (by simpa using hn)
    rw [Relation.requalified_requalified] at hsecond hsecond'
    refine ⟨fun _ _ => ⟨value.requalified target, hsecond, hdirect, ?_, ?_⟩, fun e herror => ?_⟩
    · rw [hsecond', NameMap.get?_insert, if_pos rfl]
    · rw [hdirect', NameMap.get?_insert, if_pos rfl]
    · rw [hfirst] at herror
      cases herror
  · obtain ⟨e, hfirst, hk⟩ := execute_assign_of_not_nodup hq (hname relvar) hu hn
    obtain ⟨e', hdirect, hk'⟩ := execute_assign_of_not_nodup hq (hname target) hu hn
    refine ⟨fun outcome hok => ?_, fun e'' herror => ⟨e', hdirect, ?_⟩⟩
    · rw [hfirst] at hok
      cases hok
    · obtain rfl := Except.error.inj (hfirst.symm.trans herror)
      rw [hk, hk']

/-- By way of a variable with a dot in its name, a value comes back under the names that it had;
the product of a relation with itself is stored neither way. -/
theorem assign_by_way_of_dotted :
    let db := Database.ofPairs (.ofList [[.number .one, .null]])
    let first (query : Query) := execute {} db (.assign "A.b" none query)
    let second := execute {} (first (.relvar "R")).database (.assign "R" none (.relvar "A.b"))
    let square : Query := .cross (.relvar "R") (.relvar "R")
    second.result = (execute {} db (.assign "R" none (.relvar "R"))).result ∧
      second.database.relvars.get? "R" = db.relvars.get? "R" ∧
      (first square).result = .error (.duplicateAttribute "A.b.x") ∧
      ∃ e, (execute {} db (.assign "R" none square)).result = .error e ∧
        e.kind = .duplicateAttribute := by
  intro db first second square
  let r : Relation := ⟨[some "R.x", some "R.y"], .ofList [[.number .one, .null]]⟩
  have hr : ((Query.relvar "R").eval {} db).outcome = .ok r := by rfl
  have hsquare : (square.eval {} db).outcome =
      .ok ⟨[some "R.x", some "R.y", some "R.x", some "R.y"],
        .ofList [[.number .one, .null, .number .one, .null]]⟩ := by rfl
  have hfirst : (first square).result = .error (.duplicateAttribute "A.b.x") := by rfl
  have hdirect : (execute {} db (.assign "R" none (.relvar "R"))).result = .ok (.relation r) := by
    rfl
  obtain ⟨hok, -⟩ := assign_by_way_of hr (by decide) (by decide) "A.b" "R"
  obtain ⟨-, herror⟩ := assign_by_way_of hsquare (by decide) (by decide) "A.b" "R"
  obtain ⟨r', hsecond, hdirect', hstored, -⟩ := hok (.relation (r.requalified "A.b")) rfl
  obtain rfl : r' = r := Outcome.relation.inj (Except.ok.inj (hdirect'.symm.trans hdirect))
  exact ⟨hsecond.trans hdirect.symm, hstored, hfirst, herror _ hfirst⟩

end Relational
