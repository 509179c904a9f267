import Relational.Proofs.Membership
import Relational.Relation.Rename

/-!
# Renaming is a simultaneous substitution

All sources are looked up among the old attributes, so it makes no difference which renaming
is written first: an attribute that a renaming means gets the new name, and every other one
stays (`Relation.rename_eq_ok_iff_substitutes`). Qualified names are looked up as they stand,
and so renamings to them can be undone (`rename_substitutes`).
-/

namespace Relational

section

variable {α β : Type} {R : α → β → Prop} {l : List α} {l' : List β}

theorem exists_mem_of_forall₂ (h : List.Forall₂ R l l') : ∀ b ∈ l', ∃ a ∈ l, R a b := by
  induction h with
  | nil => simp
  | cons hr _ ih =>
    intro b hb
    rcases List.mem_cons.1 hb with rfl | hb
    · exact ⟨_, List.mem_cons_self .., hr⟩
    · obtain ⟨a, ha, hab⟩ := ih b hb
      exact ⟨a, List.mem_cons_of_mem _ ha, hab⟩

theorem pairwise_of_forall₂ {P : α → α → Prop} {Q : β → β → Prop} (h : List.Forall₂ R l l')
    (hl : l.Pairwise P) (hpq : ∀ a a' b b', R a b → R a' b' → P a a' → Q b b') :
    l'.Pairwise Q := by
  induction h with
  | nil => exact .nil
  | cons hr hrest ih =>
    rw [List.pairwise_cons] at hl
    refine List.pairwise_cons.2 ⟨fun b hb => ?_, ih hl.2⟩
    obtain ⟨a, ha, hab⟩ := exists_mem_of_forall₂ hrest b hb
    exact hpq _ _ _ _ hr hab (hl.1 a ha)

end

-- ---------------------------------------------------------------------------
-- Positions of names
-- ---------------------------------------------------------------------------

section

variable {attributes : List Attribute} {name : String} {i j : Nat}

theorem eq_of_getElem?_of_nodup (hn : (attributeNames attributes).Nodup)
    (hi : attributes[i]? = some (some name)) (hj : attributes[j]? = some (some name)) : i = j := by
  have hp := List.pairwise_filterMap.1 hn
  rw [List.pairwise_iff_getElem] at hp
  obtain ⟨hil, hi⟩ := List.getElem?_eq_some_iff.1 hi
  obtain ⟨hjl, hj⟩ := List.getElem?_eq_some_iff.1 hj
  rcases Nat.lt_trichotomy i j with h | h | h
  · exact absurd rfl (hp i j hil hjl h name hi name hj)
  · exact h
  · exact absurd rfl (hp j i hjl hil h name hj name hi)

theorem resolve_of_isQualified (hq : isQualified name) (hn : (attributeNames attributes).Nodup)
    (hi : attributes[i]? = some (some name)) : resolve name attributes = .ok i := by
  refine resolve_eq_ok_iff.2 fun j => ?_
  constructor
  · rintro ⟨_ | label, hj, ha⟩
    · cases ha
    · obtain rfl : label = name := by simpa [Attribute.answersTo, hq] using ha
      exact eq_of_getElem?_of_nodup hn hj hi
  · rintro rfl
    exact ⟨some name, hi, by simp [Attribute.answersTo, hq]⟩

theorem exists_name_of_resolve (h : resolve name attributes = .ok i) :
    ∃ label, attributes[i]? = some (some label) := by
  obtain ⟨_ | label, hi, ha⟩ := (resolve_eq_ok_iff.1 h i).2 rfl
  · cases ha
  · exact ⟨label, hi⟩

end

-- ---------------------------------------------------------------------------
-- Substitutions
-- ---------------------------------------------------------------------------

/-- A renaming is about the attribute at a position. -/
def Renaming.Means (m : Renaming) (attributes : List Attribute) (i : Nat) : Prop :=
  resolve m.source attributes = .ok i

def Renaming.Apart (attributes : List Attribute) (m m' : Renaming) : Prop :=
  ∀ i, m.Means attributes i → ¬ m'.Means attributes i

/-- Every attribute that a renaming means has its target for a name, and the others are what
they were. -/
structure Substitutes (renamings : List Renaming) (old new : List Attribute) : Prop where
  renamed : ∀ m ∈ renamings, ∀ i, m.Means old i → new[i]? = some (some m.target)
  kept : ∀ i, (∀ m ∈ renamings, ¬ m.Means old i) → new[i]? = old[i]?

theorem Renaming.Means.unique {m : Renaming} {attributes : List Attribute} {i j : Nat}
    (hi : m.Means attributes i) (hj : m.Means attributes j) : i = j :=
  Except.ok.inj (hi.symm.trans hj)

theorem Renaming.Apart.symm {attributes : List Attribute} {m m' : Renaming}
    (h : Apart attributes m m') : Apart attributes m' m :=
  fun i hm' hm => h i hm hm'

section

variable {renamings renamings' : List Renaming} {old new new' : List Attribute}

theorem Substitutes.unique (h : Substitutes renamings old new)
    (h' : Substitutes renamings old new') : new = new' := by
  refine List.ext_getElem? fun i => ?_
  by_cases hi : ∃ m ∈ renamings, m.Means old i
  · obtain ⟨m, hm, hi⟩ := hi
    rw [h.renamed m hm i hi, h'.renamed m hm i hi]
  · have hnone : ∀ m ∈ renamings, ¬ m.Means old i := fun m hm hmi => hi ⟨m, hm, hmi⟩
    rw [h.kept i hnone, h'.kept i hnone]

theorem Substitutes.perm (h : Substitutes renamings old new) (hp : renamings'.Perm renamings) :
    Substitutes renamings' old new where
  renamed m hm := h.renamed m (hp.mem_iff.1 hm)
  kept i hi := h.kept i fun m hm => hi m (hp.mem_iff.2 hm)

end

namespace Relation

variable {r s : Relation} {attributes : List Attribute} {renamings renamings' : List Renaming}
  {targets : List (Nat × String)}

theorem renamingTarget_eq_ok_iff {m : Renaming} {target : Nat × String} :
    renamingTarget attributes m = .ok target ↔
      m.Means attributes target.1 ∧ m.target = target.2 := by
  obtain ⟨i, name⟩ := target
  simp only [renamingTarget, bind_eq_ok_iff, pure_eq_ok_iff, Prod.mk.injEq]
  constructor
  · rintro ⟨_, hi, rfl, hname⟩
    exact ⟨hi, hname⟩
  · rintro ⟨hi, hname⟩
    exact ⟨i, hi, rfl, hname⟩

theorem exists_targets_iff :
    (∃ targets, renamings.mapM (renamingTarget attributes) = .ok targets) ↔
      ∀ m ∈ renamings, ∃ i, m.Means attributes i := by
  simp [exists_mapM_iff, renamingTarget_eq_ok_iff]

theorem checkTargets_eq_ok_iff :
    checkTargets attributes targets = .ok () ↔ (targets.map Prod.fst).Nodup := by
  refine ⟨nodup_of_checkTargets, fun h => ?_⟩
  rw [checkTargets, firstRepeat?_eq_none_iff.2 h]

theorem nodup_targets_iff (h : renamings.mapM (renamingTarget attributes) = .ok targets) :
    (targets.map Prod.fst).Nodup ↔ renamings.Pairwise (Renaming.Apart attributes) := by
  have hall := mapM_eq_ok_iff.1 h
  simp only [renamingTarget_eq_ok_iff] at hall
  rw [List.Nodup, List.pairwise_map]
  constructor
  · intro hn
    refine pairwise_of_forall₂ (List.Forall₂.flip hall) hn ?_
    rintro target target' m m' ⟨hm, -⟩ ⟨hm', -⟩ hne i hi hi'
    exact hne ((hm.unique hi).trans (hm'.unique hi').symm)
  · intro hp
    refine pairwise_of_forall₂ hall hp ?_
    rintro m m' target target' ⟨hm, -⟩ ⟨hm', -⟩ hapart he
    exact hapart _ hm (he ▸ hm')

theorem getElem?_substitute (i : Nat) :
    (substitute targets attributes)[i]? =
      attributes[i]?.map fun old => (targets.lookup i).map some |>.getD old := by
  rw [substitute, List.getElem?_mapIdx]
  cases attributes[i]? with
  | none => rfl
  | some old => cases targets.lookup i <;> rfl

theorem substitutes_substitute (h : renamings.mapM (renamingTarget attributes) = .ok targets)
    (hn : (targets.map Prod.fst).Nodup) :
    Substitutes renamings attributes (substitute targets attributes) := by
  have hmem (i : Nat) (name : String) :
      targets.lookup i = some name ↔ ∃ m ∈ renamings, m.Means attributes i ∧ m.target = name := by
    simp only [lookup_eq_some_iff_mem hn, mem_mapM_iff h, renamingTarget_eq_ok_iff]
  constructor
  · intro m hm i hi
    obtain ⟨label, hl⟩ := exists_name_of_resolve hi
    simp [getElem?_substitute, hl, (hmem i m.target).2 ⟨m, hm, hi, rfl⟩]
  · intro i hi
    have hnone : targets.lookup i = none := by
      rw [Option.eq_none_iff_forall_ne_some]
      intro name hl
      obtain ⟨m, hm, hmi, -⟩ := (hmem i name).1 hl
      exact hi m hm hmi
    simp [getElem?_substitute, hnone]

theorem rename_eq_ok_iff_substitutes :
    r.rename renamings = .ok s ↔
      (∀ m ∈ renamings, ∃ i, m.Means r.attributes i) ∧
      renamings.Pairwise (Renaming.Apart r.attributes) ∧
      Substitutes renamings r.attributes s.attributes ∧ s.NamesDistinct ∧ s.rows = r.rows := by
  simp only [rename, bind_eq_ok_iff, pure_eq_ok_iff]
  constructor
  · rintro ⟨targets, ht, _, hc, _, hd, rfl⟩
    have hn := checkTargets_eq_ok_iff.1 hc
    exact ⟨exists_targets_iff.1 ⟨targets, ht⟩, (nodup_targets_iff ht).1 hn,
      substitutes_substitute ht hn, checkDistinct_eq_ok_iff.1 hd, rfl⟩
  · rintro ⟨hresolved, hapart, hs, hd, hrows⟩
    obtain ⟨targets, ht⟩ := exists_targets_iff.2 hresolved
    have hn := (nodup_targets_iff ht).2 hapart
    have ha : substitute targets r.attributes = s.attributes :=
      (substitutes_substitute ht hn).unique hs
    refine ⟨targets, ht, (), checkTargets_eq_ok_iff.2 hn, (), ?_, ?_⟩
    · exact checkDistinct_eq_ok_iff.2 (ha ▸ hd)
    · rw [ha, ← hrows]

theorem exists_rename_iff :
    (∃ s, r.rename renamings = .ok s) ↔
      (∀ m ∈ renamings, ∃ i, m.Means r.attributes i) ∧
      renamings.Pairwise (Renaming.Apart r.attributes) ∧
      ∃ attributes, Substitutes renamings r.attributes attributes ∧
        (attributeNames attributes).Nodup := by
  simp only [rename_eq_ok_iff_substitutes]
  constructor
  · rintro ⟨s, hresolved, hapart, hs, hd, -⟩
    exact ⟨hresolved, hapart, s.attributes, hs, hd⟩
  · rintro ⟨hresolved, hapart, attributes, hs, hd⟩
    exact ⟨⟨attributes, r.rows⟩, hresolved, hapart, hs, hd, rfl⟩

theorem rename_perm (hp : renamings'.Perm renamings) (h : r.rename renamings = .ok s) :
    r.rename renamings' = .ok s := by
  obtain ⟨hresolved, hapart, hs, hd, hrows⟩ := rename_eq_ok_iff_substitutes.1 h
  refine rename_eq_ok_iff_substitutes.2 ⟨fun m hm => ?_, ?_, hs.perm hp, hd, hrows⟩
  · exact hresolved m (hp.mem_iff.1 hm)
  · exact hp.symm.pairwise hapart fun hm => hm.symm

end Relation

-- ---------------------------------------------------------------------------
-- Renaming back
-- ---------------------------------------------------------------------------

/-- A renaming takes the new name of the attribute that another one means to its old name. -/
def Renaming.Undoes (attributes : List Attribute) (m inverse : Renaming) : Prop :=
  inverse.source = m.target ∧
    ∃ i, m.Means attributes i ∧ attributes[i]? = some (some inverse.target)

namespace Relation

variable {r s : Relation} {renamings inverses : List Renaming}

theorem exists_undoes (h : ∀ m ∈ renamings, ∃ i, m.Means r.attributes i) :
    ∃ inverses, List.Forall₂ (Renaming.Undoes r.attributes) renamings inverses := by
  refine exists_forall₂_iff.2 fun m hm => ?_
  obtain ⟨i, hi⟩ := h m hm
  obtain ⟨label, hl⟩ := exists_name_of_resolve hi
  exact ⟨⟨m.target, label⟩, rfl, i, hi, hl⟩

theorem rename_undoes (h : r.rename renamings = .ok s) (hr : r.NamesDistinct)
    (hq : ∀ m ∈ renamings, isQualified m.target)
    (hi : List.Forall₂ (Renaming.Undoes r.attributes) renamings inverses) :
    s.rename inverses = .ok r := by
  obtain ⟨-, hapart, hs, hd, hrows⟩ := rename_eq_ok_iff_substitutes.1 h
  -- A target is found where it was put, so a renaming and its inverse mean the same position.
  have hall : List.Forall₂ (fun m inverse => ∃ i, m.Means r.attributes i ∧
      inverse.Means s.attributes i ∧ r.attributes[i]? = some (some inverse.target))
      renamings inverses := by
    have hmem := (List.forall₂_and_left renamings inverses).2 ⟨fun m (hm : m ∈ renamings) => hm, hi⟩
    refine hmem.imp ?_
    rintro m inverse ⟨hm, hsource, i, hmi, hl⟩
    refine ⟨i, hmi, ?_, hl⟩
    rw [Renaming.Means, hsource]
    exact resolve_of_isQualified (hq m hm) hd (hs.renamed m hm i hmi)
  refine rename_eq_ok_iff_substitutes.2 ⟨?_, ?_, ⟨?_, ?_⟩, hr, hrows.symm⟩
  · intro inverse hinverse
    obtain ⟨m, -, i, -, hii, -⟩ := exists_mem_of_forall₂ hall inverse hinverse
    exact ⟨i, hii⟩
  · refine pairwise_of_forall₂ hall hapart ?_
    rintro m m' inverse inverse' ⟨i, hmi, hii, -⟩ ⟨j, hmj, hij, -⟩ hapart k hk hk'
    obtain rfl := hii.unique hk
    obtain rfl := hij.unique hk'
    exact hapart _ hmi hmj
  · intro inverse hinverse k hk
    obtain ⟨m, -, i, -, hii, hl⟩ := exists_mem_of_forall₂ hall inverse hinverse
    obtain rfl := hii.unique hk
    exact hl
  · intro k hk
    refine (hs.kept k fun m hm hmk => ?_).symm
    obtain ⟨inverse, hinverse, i, hmi, hii, -⟩ := exists_mem_of_forall₂ (List.Forall₂.flip hall) m hm
    obtain rfl := hmi.unique hmk
    exact hk inverse hinverse hii

/-- A relation is renamed if and only if every source means an attribute, no two sources mean
the same one, and the names are distinct after the substitution. The attributes are then the
substituted ones and the rows stay, in whatever order the renamings are given. If the names were
distinct and the targets are qualified, the renamings of the targets to the old names give back
the relation, in any order too. -/
theorem rename_substitutes (r : Relation) (renamings : List Renaming) :
    ((∃ s, r.rename renamings = .ok s) ↔
      (∀ m ∈ renamings, ∃ i, m.Means r.attributes i) ∧
      renamings.Pairwise (Renaming.Apart r.attributes) ∧
      ∃ attributes, Substitutes renamings r.attributes attributes ∧
        (attributeNames attributes).Nodup) ∧
    ∀ s, r.rename renamings = .ok s →
      Substitutes renamings r.attributes s.attributes ∧ s.rows = r.rows ∧
      (∀ renamings' : List Renaming, renamings'.Perm renamings → r.rename renamings' = .ok s) ∧
      (r.NamesDistinct → (∀ m ∈ renamings, isQualified m.target) →
        (∃ inverses, List.Forall₂ (Renaming.Undoes r.attributes) renamings inverses) ∧
        ∀ inverses, List.Forall₂ (Renaming.Undoes r.attributes) renamings inverses →
          ∀ back : List Renaming, back.Perm inverses → s.rename back = .ok r) := by
  refine ⟨exists_rename_iff, fun s h => ?_⟩
  obtain ⟨hresolved, -, hs, -, hrows⟩ := rename_eq_ok_iff_substitutes.1 h
  refine ⟨hs, hrows, fun renamings' hp => rename_perm hp h, fun hr hq => ?_⟩
  refine ⟨exists_undoes hresolved, fun inverses hi back hp => ?_⟩
  exact rename_perm hp (rename_undoes h hr hq hi)

theorem rename_substitutes_swap :
    let r : Relation := ⟨[some "R.a", none, some "R.b"], .ofList [[.null, .null, .boolean true]]⟩
    let swap : List Renaming := [⟨"a", "R.b"⟩, ⟨"R.b", "R.a"⟩]
    let s : Relation := ⟨[some "R.b", none, some "R.a"], r.rows⟩
    r.NamesDistinct ∧ (∀ m ∈ swap, isQualified m.target) ∧ r.rename swap = .ok s ∧
      r.rename swap.reverse = .ok s ∧
      s.rename [⟨"R.a", "R.b"⟩, ⟨"R.b", "R.a"⟩] = .ok r := by
  intro r swap s
  have hr : (attributeNames r.attributes).Nodup := by decide
  have hq : ∀ m ∈ swap, isQualified m.target := by decide
  have h : r.rename swap = .ok s := by rfl
  obtain ⟨-, hs⟩ := rename_substitutes r swap
  obtain ⟨-, -, hperm, hback⟩ := hs s h
  have hi : List.Forall₂ (Renaming.Undoes r.attributes) swap [⟨"R.b", "R.a"⟩, ⟨"R.a", "R.b"⟩] :=
    .cons ⟨rfl, 0, rfl, rfl⟩ (.cons ⟨rfl, 2, rfl, rfl⟩ .nil)
  exact ⟨hr, hq, h, hperm _ swap.reverse_perm, (hback hr hq).2 _ hi _ (.swap ..)⟩

end Relation

end Relational
