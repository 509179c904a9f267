import Relational.Proofs.Requalification
import Relational.Proofs.StoredNames

/-!
# Assigning a relation variable to itself

A stored name is the variable's name, a dot, and what the attribute was called. An assignment
of the variable to itself takes for that what follows the last dot, and so it changes nothing
if what the attribute was called has no dot in it (`self_assignment`). Only explicit names can
have one: the local names of a value have none, and the names that an assignment reuses are
stored already.
-/

namespace Relational

namespace Relation

variable {r : Relation} {relvar : String}

/-- Every attribute is named by the relation variable, a dot and a text without dots. -/
def PlainUnder (r : Relation) (relvar : String) : Prop :=
  ∀ attr ∈ r.attributes, ∃ name, isQualified name = false ∧ attr = some (qualify relvar name)

theorem requalified_eq_self_iff :
    r.requalified relvar = r ↔ ∀ attr ∈ r.attributes, Attribute.requalify relvar attr = attr := by
  obtain ⟨attributes, rows⟩ := r
  simpa [requalified] using List.map_inj_left (f := Attribute.requalify relvar) (g := id)

theorem plainUnder_iff (h : r.hasUnnamed = false) :
    r.PlainUnder relvar ↔ r.requalified relvar = r := by
  rw [requalified_eq_self_iff]
  refine forall₂_congr fun attr hattr => ?_
  constructor
  · rintro ⟨name, hname, rfl⟩
    simp [localName_qualify hname]
  · intro hself
    cases attr with
    | none => simpa using List.any_eq_false.1 h none hattr
    | some full => exact ⟨localName full, isQualified_localName full, hself.symm⟩

theorem nodup_localNames_of_requalified (h : r.requalified relvar = r) (hd : r.NamesDistinct) :
    (localNames r.attributes).Nodup := by
  rw [NamesDistinct, ← h] at hd
  exact (nodup_requalified_iff r relvar).1 hd

end Relation

-- ---------------------------------------------------------------------------
-- Runs
-- ---------------------------------------------------------------------------

def Statement.givenNames (relvar : String) : Statement → List String
  | .assign target names _ => if target = relvar then names.getD [] else []
  | _ => []

def givenNames (relvar : String) (calls : List (Config × SessionCall)) : List String :=
  calls.flatMap fun call => call.2.statements.flatMap (Statement.givenNames relvar)

/-- If a relation variable has a value, its names are plain. -/
def Database.PlainAt (db : Database) (relvar : String) : Prop :=
  ∀ r, db.relvars.get? relvar = some r → r.PlainUnder relvar

section

variable {config : Config} {db db' : Database} {relvar : String}

theorem nameForAssignment_plainUnder (hdb : db.PlainAt relvar) {names : Option (List String)}
    (hnames : ∀ name ∈ names.getD [], isQualified name = false) {value r : Relation}
    (h : nameForAssignment db relvar names value = .ok r) : r.PlainUnder relvar := by
  intro attr hattr
  obtain ⟨name, hname | hname, heq⟩ | ⟨old, hold, hattr⟩ := name_of_nameForAssignment h hattr
  · exact ⟨name, hnames name hname, heq⟩
  · exact ⟨name, hname, heq⟩
  · exact hdb old hold attr hattr

theorem Executes.plainAt {statement : Statement} {result : Except EvalError Outcome}
    (h : Executes config db statement result db')
    (hnames : ∀ name ∈ statement.givenNames relvar, isQualified name = false)
    (hdb : db.PlainAt relvar) : db'.PlainAt relvar := by
  cases h with
  | failed e => exact hdb
  | @assigned target names query value r hq hn hu =>
    intro r' hr'
    rw [NameMap.get?_insert] at hr'
    split at hr'
    · rename_i ht
      subst ht
      obtain rfl := Option.some.inj hr'
      exact nameForAssignment_plainUnder hdb (by simpa [Statement.givenNames] using hnames) hn
    · exact hdb r' hr'
  | computed hq => exact hdb
  | declared hn => exact hdb

theorem Database.erase_plainAt (hdb : db.PlainAt relvar) (name : String) :
    PlainAt { db with relvars := db.relvars.erase name } relvar := by
  intro r hr
  rw [NameMap.get?_erase] at hr
  split at hr
  · cases hr
  · exact hdb r hr

end

theorem Database.ofSessions_plainAt {relvar : String} {calls : List (Config × SessionCall)}
    (h : ∀ name ∈ givenNames relvar calls, isQualified name = false) :
    (ofSessions calls).PlainAt relvar := by
  refine List.foldlRecOn (motive := (PlainAt · relvar)) calls _ nofun fun db hdb call hcall => ?_
  refine call.2.apply_preserves_of_statements (p := (PlainAt · relvar)) ?_ ?_ hdb
  · intro db statement hs hdb
    refine (execute_executes call.1 db statement).plainAt (fun name hname => ?_) hdb
    refine h name (List.mem_flatMap.2 ⟨call, hcall, ?_⟩)
    exact List.mem_flatMap.2 ⟨statement, hs, hname⟩
  · exact fun db name hdb => erase_plainAt hdb name

-- ---------------------------------------------------------------------------
-- Self-assignment
-- ---------------------------------------------------------------------------

section

variable {config : Config} {db : Database} {relvar : String} {r : Relation}

/-- Whether or not its arity is settled, a stored value goes by its own names: if it has none, they
are those that the variable has. -/
theorem nameForAssignment_self (hr : db.relvars.get? relvar = some r) (hu : r.hasUnnamed = false) :
    nameForAssignment db relvar none r = r.qualified relvar := by
  cases he : r.arityEstablished with
  | true => exact nameForAssignment_of_named he hu
  | false =>
    obtain ⟨attributes, rows⟩ := r
    obtain rfl : attributes = [] := by simp_all [Relation.arityEstablished]
    simp [nameForAssignment, he, hr, Relation.setAttributes, Relation.qualified]

theorem Database.insert_stored (hr : db.relvars.get? relvar = some r) :
    { db with relvars := db.relvars.insert relvar r } = db := by
  refine Database.ext (fun name => ?_) fun _ => rfl
  rw [NameMap.get?_insert]
  split <;> simp [*]

theorem Query.outcome_relvar_of_unlimited (hc : config.maxRows = none)
    (hr : db.relvars.get? relvar = some r) :
    ((Query.relvar relvar).eval config db).outcome = .ok r :=
  outcome_relvar_of_within hr (by simp [hc])

theorem execute_self_of_nodup (hc : config.maxRows = none)
    (hr : db.relvars.get? relvar = some r) (hu : r.hasUnnamed = false)
    (hn : (localNames r.attributes).Nodup) :
    (execute config db (.assign relvar none (.relvar relvar))).result =
        .ok (.relation (r.requalified relvar)) ∧
      (execute config db (.assign relvar none (.relvar relvar))).database =
        { db with relvars := db.relvars.insert relvar (r.requalified relvar) } :=
  execute_assign_of_nodup (Query.outcome_relvar_of_unlimited hc hr)
    (nameForAssignment_self hr hu) hu hn

theorem execute_self_of_not_nodup (hc : config.maxRows = none)
    (hr : db.relvars.get? relvar = some r) (hu : r.hasUnnamed = false)
    (hn : ¬ (localNames r.attributes).Nodup) :
    ∃ e, (execute config db (.assign relvar none (.relvar relvar))).result = .error e ∧
      e.kind = .duplicateAttribute :=
  execute_assign_of_not_nodup (Query.outcome_relvar_of_unlimited hc hr)
    (nameForAssignment_self hr hu) hu hn

theorem execute_self_unchanged_iff (hc : config.maxRows = none)
    (hr : db.relvars.get? relvar = some r) (hs : r.StoredUnder relvar) :
    (∃ outcome, (execute config db (.assign relvar none (.relvar relvar))).result =
        .ok outcome) ∧
      (execute config db (.assign relvar none (.relvar relvar))).database = db ↔
    r.PlainUnder relvar := by
  rw [Relation.plainUnder_iff hs.hasUnnamed]
  constructor
  · rintro ⟨⟨outcome, hok⟩, hsame⟩
    by_cases hn : (localNames r.attributes).Nodup
    · obtain ⟨-, hdatabase⟩ := execute_self_of_nodup hc hr hs.hasUnnamed hn
      have hstored : (db.relvars.insert relvar (r.requalified relvar)).get? relvar = some r := by
        rw [hdatabase] at hsame
        exact (congrArg (·.relvars.get? relvar) hsame).trans hr
      simpa [NameMap.get?_insert] using hstored
    · obtain ⟨e, he, -⟩ := execute_self_of_not_nodup hc hr hs.hasUnnamed hn
      cases hok.symm.trans he
  · intro hself
    obtain ⟨hresult, hdatabase⟩ := execute_self_of_nodup hc hr hs.hasUnnamed
      (Relation.nodup_localNames_of_requalified hself hs.distinct)
    rw [hself, Database.insert_stored hr] at hdatabase
    exact ⟨⟨_, hresult⟩, hdatabase⟩

end

/-- In the databases that sessions make, to assign a relation variable to itself is to requalify
its names: it succeeds and changes nothing if and only if they are plain, and they are if it was
never given a name with a dot. -/
theorem self_assignment (calls : List (Config × SessionCall)) {config : Config}
    (hc : config.maxRows = none) {relvar : String} {r : Relation}
    (hr : (Database.ofSessions calls).relvars.get? relvar = some r) :
    let db := Database.ofSessions calls
    let after := execute config db (.assign relvar none (.relvar relvar))
    ((∃ outcome, after.result = .ok outcome) ∧ after.database = db ↔ r.PlainUnder relvar) ∧
    ((∀ name ∈ givenNames relvar calls, isQualified name = false) → r.PlainUnder relvar) ∧
    ((localNames r.attributes).Nodup →
      after.result = .ok (.relation (r.requalified relvar)) ∧
      after.database = { db with relvars := db.relvars.insert relvar (r.requalified relvar) }) ∧
    (¬ (localNames r.attributes).Nodup →
      (∃ e, after.result = .error e ∧ e.kind = .duplicateAttribute) ∧ after.database = db) := by
  have hs := (Database.ofSessions_wellNamed calls).relvars relvar r hr
  refine ⟨execute_self_unchanged_iff hc hr hs, fun hgiven => ?_, fun hn => ?_, fun hn => ?_⟩
  · exact Database.ofSessions_plainAt hgiven r hr
  · exact execute_self_of_nodup hc hr hs.hasUnnamed hn
  · obtain ⟨e, he, hk⟩ := execute_self_of_not_nodup hc hr hs.hasUnnamed hn
    exact ⟨⟨e, he, hk⟩, database_of_error he⟩

/-- The names of a variable may have dots in front of the last one, and it may take over its
names from an earlier value. -/
theorem self_assignment_of_plain_names :
    let limited : Config := { maxRows := some 1 }
    let calls : List (Config × SessionCall) :=
      [({}, .execute (.assign "A.b" (some ["x", ""]) (.constant [[.number .one, .null]]))),
       (limited, .executeBatch [.assign "A.b" none (.constant [[.null, .null]])])]
    let db := Database.ofSessions calls
    let after := execute {} db (.assign "A.b" none (.relvar "A.b"))
    (∃ outcome, after.result = .ok outcome) ∧ after.database = db := by
  intro limited calls db after
  have hr : db.relvars.get? "A.b" =
      some ⟨[some "A.b.x", some "A.b."], .ofList [[.null, .null]]⟩ := by rfl
  have hgiven : ∀ name ∈ givenNames "A.b" calls, isQualified name = false := by decide
  obtain ⟨hiff, hplain, -⟩ := self_assignment calls (show ({} : Config).maxRows = none from rfl) hr
  exact hiff.2 (hplain hgiven)

/-- An attribute with a dot in its name loses what is in front of the last one. -/
theorem self_assignment_of_dotted_name :
    let db := Database.ofSessions
      [({}, .execute (.assign "R" (some ["x.y"]) (.constant [[.number .one]])))]
    let after := execute {} db (.assign "R" none (.relvar "R"))
    db.relvars.get? "R" = some ⟨[some "R.x.y"], .ofList [[.number .one]]⟩ ∧
      after.result = .ok (.relation ⟨[some "R.y"], .ofList [[.number .one]]⟩) ∧
      after.database ≠ db := by
  intro db after
  have hbefore : db.relvars.get? "R" = some ⟨[some "R.x.y"], .ofList [[.number .one]]⟩ := by rfl
  have hafter : after.database.relvars.get? "R" =
      some ⟨[some "R.y"], .ofList [[.number .one]]⟩ := by rfl
  refine ⟨hbefore, rfl, fun hsame => ?_⟩
  rw [hsame, hbefore] at hafter
  exact absurd hafter (by decide)

end Relational
