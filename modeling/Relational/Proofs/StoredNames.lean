import Relational.Proofs.Runs

/-!
# Names of stored relations

In the databases that sessions make, a relation variable qualifies all its
attributes, whichever way they were named. The names that an assignment reuses
are good ones because they are stored, so this is proved by induction on runs.
As nothing unnamed gets as far as the store, the store refuses nothing.
-/

namespace Relational

/-- The attributes are named, qualified by the relation variable and distinct,
and the rows match them. -/
structure Relation.StoredUnder (r : Relation) (relvar : String) : Prop where
  qualified : ∀ attr ∈ r.attributes, ∃ name, attr = some (qualify relvar name)
  distinct : r.NamesDistinct
  wellFormed : r.WellFormed

/-- Each relation is stored under its variable's name, and no schema repeats a name. -/
structure Database.WellNamed (db : Database) : Prop where
  relvars : ∀ name r, db.relvars.get? name = some r → r.StoredUnder name
  schemas : ∀ name names, db.schemas.get? name = some names → names.Nodup

namespace Relation

theorem StoredUnder.hasUnnamed {r : Relation} {relvar : String} (h : r.StoredUnder relvar) :
    r.hasUnnamed = false := by
  rw [Relation.hasUnnamed, List.any_eq_false]
  intro attr hattr
  obtain ⟨name, rfl⟩ := h.qualified attr hattr
  simp

theorem StoredUnder.nodup {r : Relation} {relvar : String} (h : r.StoredUnder relvar) :
    r.attributes.Nodup := by
  have hd := h.distinct
  unfold NamesDistinct attributeNames at hd
  refine (List.pairwise_filterMap.1 hd).imp_of_mem fun {attr attr'} hattr _ hne => ?_
  obtain ⟨name, rfl⟩ := h.qualified attr hattr
  rintro rfl
  exact hne _ rfl _ rfl rfl

theorem namesDistinct_of_setAttributes {r r' : Relation} {attributes : List Attribute}
    (h : r.setAttributes attributes = .ok r') : r'.attributes = attributes ∧ r'.NamesDistinct := by
  unfold setAttributes at h
  split at h
  · cases h
  · simp only [bind_eq_ok_iff, pure_eq_ok_iff] at h
    obtain ⟨_, hd, rfl⟩ := h
    exact ⟨rfl, checkDistinct_eq_ok_iff.1 hd⟩

theorem qualified_namesDistinct {r r' : Relation} {relvar : String}
    (h : r.qualified relvar = .ok r') : r'.NamesDistinct := by
  simp only [qualified, bind_eq_ok_iff, pure_eq_ok_iff] at h
  obtain ⟨_, -, _, hd, rfl⟩ := h
  exact checkDistinct_eq_ok_iff.1 hd

theorem name_of_qualified {r r' : Relation} {relvar : String} (h : r.qualified relvar = .ok r')
    {attr : Attribute} (hattr : attr ∈ r'.attributes) :
    ∃ name, isQualified name = false ∧ attr = some (qualify relvar name) := by
  simp only [qualified, bind_eq_ok_iff, pure_eq_ok_iff] at h
  obtain ⟨attributes, ha, _, -, rfl⟩ := h
  obtain ⟨old, -, hold⟩ := mem_of_mapM ha hattr
  cases old with
  | none => cases hold
  | some full => exact ⟨localName full, isQualified_localName full, (Except.ok.inj hold).symm⟩

end Relation

-- ---------------------------------------------------------------------------
-- Assignment
-- ---------------------------------------------------------------------------

section

variable {config : Config} {db : Database} {relvar : String} {value r : Relation}

theorem Database.WellNamed.wellFormed (h : db.WellNamed) : db.WellFormed :=
  fun name r hr => (h.relvars name r hr).wellFormed

theorem name_of_nameForAssignment {names : Option (List String)}
    (h : nameForAssignment db relvar names value = .ok r) {attr : Attribute}
    (hattr : attr ∈ r.attributes) :
    (∃ name, (name ∈ names.getD [] ∨ isQualified name = false) ∧
      attr = some (qualify relvar name)) ∨
    ∃ old, db.relvars.get? relvar = some old ∧ attr ∈ old.attributes := by
  obtain ⟨given, rfl, hset⟩ | ⟨-, hset⟩ | ⟨old, -, hold, hset⟩ := nameForAssignment_cases h
  · rw [(Relation.namesDistinct_of_setAttributes hset).1] at hattr
    simp only [List.map_map, List.mem_map] at hattr
    obtain ⟨name, hname, rfl⟩ := hattr
    exact .inl ⟨name, .inl hname, rfl⟩
  · obtain ⟨name, hname, rfl⟩ := Relation.name_of_qualified hset hattr
    exact .inl ⟨name, .inr hname, rfl⟩
  · rw [(Relation.namesDistinct_of_setAttributes hset).1] at hattr
    exact .inr ⟨old, hold, hattr⟩

theorem nameForAssignment_namesDistinct {names : Option (List String)}
    (h : nameForAssignment db relvar names value = .ok r) : r.NamesDistinct := by
  obtain ⟨attributes, h⟩ | h := named_or_qualified h
  · exact (Relation.namesDistinct_of_setAttributes h).2
  · exact Relation.qualified_namesDistinct h

theorem nameForAssignment_storedUnder (hdb : db.WellNamed) (hw : value.WellFormed)
    {names : Option (List String)} (h : nameForAssignment db relvar names value = .ok r) :
    r.StoredUnder relvar := by
  refine ⟨fun attr hattr => ?_, nameForAssignment_namesDistinct h,
    nameForAssignment_wellFormed hw h⟩
  obtain ⟨name, -, hname⟩ | ⟨old, hold, hattr⟩ := name_of_nameForAssignment h hattr
  · exact ⟨name, hname⟩
  · -- The names are those of the old value, which is where the induction comes in.
    exact (hdb.relvars relvar old hold).qualified attr hattr

theorem store_assigned (hdb : db.WellNamed) {names : Option (List String)} {query : Query}
    (hq : (query.eval config db).outcome = .ok value)
    (hn : nameForAssignment db relvar names value = .ok r) :
    (db.store relvar r).outcome = .ok { db with relvars := db.relvars.insert relvar r } := by
  have hr := nameForAssignment_storedUnder hdb (Query.eval_wellFormed hdb.wellFormed hq) hn
  rw [Database.outcome_store, hr.hasUnnamed]
  rfl

end

-- ---------------------------------------------------------------------------
-- Runs
-- ---------------------------------------------------------------------------

namespace Database

variable {db : Database}

theorem empty_wellNamed : Database.empty.WellNamed := ⟨nofun, nofun⟩

theorem insert_wellNamed (h : db.WellNamed) {relvar : String} {r : Relation}
    (hr : r.StoredUnder relvar) :
    WellNamed { db with relvars := db.relvars.insert relvar r } :=
  ⟨NameMap.forall_insert h.relvars hr, h.schemas⟩

theorem erase_wellNamed (h : db.WellNamed) (relvar : String) :
    WellNamed { db with relvars := db.relvars.erase relvar } :=
  ⟨NameMap.forall_erase h.relvars relvar, h.schemas⟩

theorem declare_wellNamed (h : db.WellNamed) {schema : String} {names : List String}
    (hn : names.Nodup) : WellNamed { db with schemas := db.schemas.insert schema names } :=
  ⟨h.relvars, NameMap.forall_insert h.schemas hn⟩

end Database

theorem Executes.wellNamed {config : Config} {db db' : Database} {statement : Statement}
    {result : Except EvalError Outcome} (h : Executes config db statement result db')
    (hdb : db.WellNamed) : db'.WellNamed := by
  cases h with
  | failed e => exact hdb
  | assigned hq hn hu =>
    have hw := Query.eval_wellFormed hdb.wellFormed hq
    exact Database.insert_wellNamed hdb (nameForAssignment_storedUnder hdb hw hn)
  | computed hq => exact hdb
  | declared hn => exact Database.declare_wellNamed hdb hn

def Database.ofSessions (calls : List (Config × SessionCall)) : Database :=
  calls.foldl (fun db call => call.2.apply call.1 db) .empty

theorem Database.ofSessions_wellNamed (calls : List (Config × SessionCall)) :
    (ofSessions calls).WellNamed := by
  refine foldl_preserves ?_ empty_wellNamed calls
  intro db call h
  exact call.2.apply_preserves (p := WellNamed)
    (fun db statement => (execute_executes call.1 db statement).wellNamed)
    (fun db relvar h => erase_wellNamed h relvar) h

/-- Whatever the sessions do, stored relations are named by their variables, stored
schemas repeat no name, and the store refuses no assignment. -/
theorem stored_names (calls : List (Config × SessionCall)) :
    (∀ relvar r, (Database.ofSessions calls).relvars.get? relvar = some r →
      (∀ attr ∈ r.attributes, ∃ name, attr = some (relvar ++ "." ++ name)) ∧
        r.attributes.Nodup ∧ ∀ t ∈ r.rows, t.length = r.arity) ∧
    (∀ schema names, (Database.ofSessions calls).schemas.get? schema = some names →
      names.Nodup) ∧
    ∀ config relvar names query value r,
      (Query.eval config (.ofSessions calls) query).outcome = .ok value →
      nameForAssignment (.ofSessions calls) relvar names value = .ok r →
      ∃ db, ((Database.ofSessions calls).store relvar r).outcome = .ok db := by
  have hdb := Database.ofSessions_wellNamed calls
  refine ⟨fun relvar r hr => ?_, hdb.schemas, ?_⟩
  · have hs := hdb.relvars relvar r hr
    exact ⟨hs.qualified, hs.nodup, hs.wellFormed⟩
  · intro config relvar names query value r hq hn
    exact ⟨_, store_assigned hdb hq hn⟩

end Relational
