import Relational.Proofs.Division
import Relational.Proofs.Join

/-!
# Products and quotients

Division takes back a product (`divide_cross_eq_self`). In the rows of a product the divisor's
values stand after the others, so that putting a row of the divisor together with what is left
of a product row exchanges the second part (`Apart.overlay_append`).
-/

namespace Relational

theorem mem_localNames {name : String} {attributes : List Attribute} :
    name ∈ localNames attributes ↔ ∃ full, some full ∈ attributes ∧ localName full = name := by
  simp [localNames, attributeNames]

theorem localNames_append (attributes attributes' : List Attribute) :
    localNames (attributes ++ attributes') = localNames attributes ++ localNames attributes' := by
  simp [localNames, attributeNames]

namespace Relation

/-- All attributes of a divisor are named, and no local name of one is that of another or of
an attribute on the left. -/
structure Apart (left divisor : List Attribute) : Prop where
  named : none ∉ divisor
  distinct : (localNames divisor).Nodup
  fresh : ∀ name ∈ localNames divisor, name ∉ localNames left

section

variable {left divisor : List Attribute} {attr : Attribute} {s t u : Row}

theorem Apart.exists_counterparts (h : Apart left divisor) :
    ∃ positions, Counterparts (left ++ divisor) divisor positions := by
  refine exists_counterparts_iff.2 ⟨h.named, ?_, h.distinct⟩
  intro name hn
  have hleft : (localNames left).count name = 0 := List.count_eq_zero.2 (h.fresh name hn)
  have hdivisor : (localNames divisor).count name = 1 := List.count_eq_one_of_mem h.distinct hn
  simp [localNames_append, hleft, hdivisor]

theorem Apart.isMatched_of_left (h : Apart left divisor) (ha : attr ∈ left) :
    isMatched divisor attr = false := by
  cases attr with
  | none => rfl
  | some name =>
    have hn : localName name ∈ localNames left := mem_localNames.2 ⟨name, ha, rfl⟩
    have hd : localName name ∉ localNames divisor := fun hm => h.fresh _ hm hn
    simp [isMatched, hd]

theorem Apart.isMatched_of_divisor (h : Apart left divisor) (ha : attr ∈ divisor) :
    isMatched divisor attr = true := by
  cases attr with
  | none => exact absurd ha h.named
  | some name =>
    have hn : localName name ∈ localNames divisor := mem_localNames.2 ⟨name, ha, rfl⟩
    simp [isMatched, hn]

theorem Apart.filter_append (h : Apart left divisor) :
    (left ++ divisor).filter (fun attr => !isMatched divisor attr) = left := by
  have hleft : left.filter (fun attr => !isMatched divisor attr) = left :=
    List.filter_eq_self.2 fun attr ha => by simp [h.isMatched_of_left ha]
  have hdivisor : divisor.filter (fun attr => !isMatched divisor attr) = [] :=
    List.filter_eq_nil_iff.2 fun attr ha => by simp [h.isMatched_of_divisor ha]
  simp [hleft, hdivisor]

theorem Apart.restrict_append (h : Apart left divisor) (ht : t.length = left.length) (u : Row) :
    restrict (left ++ divisor) divisor (t ++ u) = t := by
  have hleft : (left.zip t).filter (fun entry => !isMatched divisor entry.1) = left.zip t :=
    List.filter_eq_self.2 fun entry he => by simp [h.isMatched_of_left (List.of_mem_zip he).1]
  have hdivisor : (divisor.zip u).filter (fun entry => !isMatched divisor entry.1) = [] :=
    List.filter_eq_nil_iff.2 fun entry he => by
      simp [h.isMatched_of_divisor (List.of_mem_zip he).1]
  simp [restrict, List.zip_append ht.symm, hleft, hdivisor, List.map_snd_zip, ht]

theorem mem_zip_localNames (hn : none ∉ divisor) {name : String} {v : Value}
    (hm : (some name, v) ∈ divisor.zip s) : (localName name, v) ∈ (localNames divisor).zip s := by
  induction divisor generalizing s with
  | nil => simp at hm
  | cons attr divisor ih =>
    cases s with
    | nil => simp at hm
    | cons w s =>
      cases attr with
      | none => simp at hn
      | some other =>
        have hcons : localNames (some other :: divisor) = localName other :: localNames divisor := rfl
        rw [hcons, List.zip_cons_cons, List.mem_cons]
        rcases List.mem_cons.1 hm with he | hm
        · obtain ⟨rfl, rfl⟩ : name = other ∧ v = w := by simpa using he
          exact .inl rfl
        · exact .inr (ih (by simpa using hn) hm)

theorem Apart.forall₂_matchedValue (h : Apart left divisor) (hs : s.length = divisor.length) :
    List.Forall₂ (fun attr v => matchedValue divisor s attr = some v) divisor s := by
  refine List.forall₂_iff_zip.2 ⟨hs.symm, ?_⟩
  intro attr v hm
  cases attr with
  | none => exact absurd (List.of_mem_zip hm).1 h.named
  | some name =>
    have hkeys : (((localNames divisor).zip s).map Prod.fst).Nodup :=
      (map_fst_zip_localNames h.named hs).symm ▸ h.distinct
    exact (lookup_eq_some_iff_mem hkeys).2 (mem_zip_localNames h.named hm)

theorem overlay_of_forall₂ {attributes : List Attribute} {vs : Row}
    (h : List.Forall₂ (fun attr v => matchedValue divisor s attr = some v) attributes vs)
    (hu : u.length = attributes.length) : overlay attributes divisor s u = vs := by
  induction h generalizing u with
  | nil => rfl
  | cons hv _ ih =>
    cases u with
    | nil => simp at hu
    | cons w u => simpa [overlay, hv] using ih (u := u) (by simpa using hu)

theorem Apart.overlay_left (h : Apart left divisor) (hs : s.length = divisor.length)
    (ht : t.length = left.length) : overlay left divisor s t = t := by
  have hkeep : ∀ entry ∈ left.zip t, (matchedValue divisor s entry.1).getD entry.2 = entry.2 := by
    intro entry he
    have hm := h.isMatched_of_left (List.of_mem_zip he).1
    rw [isMatched_eq_isSome h.named hs] at hm
    simp [Option.not_isSome_iff_eq_none.1 (Bool.eq_false_iff.1 hm)]
  rw [overlay, List.map_congr_left hkeep]
  exact List.map_snd_zip (Nat.le_of_eq ht)

theorem Apart.overlay_append (h : Apart left divisor) (hs : s.length = divisor.length)
    (ht : t.length = left.length) (hu : u.length = divisor.length) :
    overlay (left ++ divisor) divisor s (t ++ u) = t ++ s := by
  calc overlay (left ++ divisor) divisor s (t ++ u)
    _ = overlay left divisor s t ++ overlay divisor divisor s u := by
      simp [overlay, List.zip_append ht.symm]
    _ = t ++ s := by rw [h.overlay_left hs ht, overlay_of_forall₂ (h.forall₂_matchedValue hs) hu]

end

-- ---------------------------------------------------------------------------
-- Quotients of products
-- ---------------------------------------------------------------------------

variable {left right divisor product q : Relation} {t s : Row}

theorem append_mem_cross_iff (hl : left.WellFormed) (h : left.cross right = .ok product)
    (ht : t.length = left.arity) : t ++ s ∈ product.rows ↔ t ∈ left.rows ∧ s ∈ right.rows := by
  rw [mem_cross_iff h]
  constructor
  · rintro ⟨l, hml, r, hmr, he⟩
    obtain ⟨rfl, rfl⟩ := List.append_inj he ((hl l hml).trans ht.symm)
    exact ⟨hml, hmr⟩
  · rintro ⟨hml, hmr⟩
    exact ⟨t, hml, s, hmr, rfl⟩

theorem exists_mem_of_not_isEmpty {r : Relation} (h : r.isEmpty = false) : ∃ t, t ∈ r.rows := by
  have hne : r.rows.toList ≠ [] := by simpa [isEmpty, RowSet.isEmpty] using h
  exact List.exists_mem_of_ne_nil _ hne

section

variable (hl : left.WellFormed) (ha : Apart left.attributes right.attributes)
include hl ha

theorem restrict_product (hp : left.cross right = .ok product) {l r : Row} (hml : l ∈ left.rows) :
    restrict product.attributes right.attributes (l ++ r) = l := by
  rw [attributes_of_join hp]
  exact ha.restrict_append (hl l hml) r

theorem reassemble_product (hr : right.WellFormed) (hp : left.cross right = .ok product) {l : Row}
    (hml : l ∈ left.rows) (hne : ∃ r, r ∈ right.rows) (hs : s.length = right.attributes.length) :
    reassemble right.attributes s product.attributes l = l ++ s := by
  obtain ⟨r, hmr⟩ := hne
  have hlr : (l ++ r).length = product.attributes.length := by
    rw [attributes_of_join hp, List.length_append, List.length_append, hl l hml, hr r hmr]
  calc reassemble right.attributes s product.attributes l
    _ = reassemble right.attributes s product.attributes
        (restrict product.attributes right.attributes (l ++ r)) := by
      rw [restrict_product hl ha hp hml]
    _ = overlay product.attributes right.attributes s (l ++ r) :=
      reassemble_restrict ha.named hs hlr
    _ = l ++ s := by
      rw [attributes_of_join hp, ha.overlay_append hs (hl l hml) (hr r hmr)]

theorem mem_divide_cross_iff (hr : right.WellFormed) (hp : left.cross right = .ok product)
    (hne : ∃ r, r ∈ right.rows) (hd : divisor.WellFormed)
    (hattrs : divisor.attributes = right.attributes) {positions : List Nat}
    (hc : Counterparts product.attributes divisor.attributes positions) :
    t ∈ quotientRows (stayingPositions product.attributes positions) positions product.rows
        divisor.rows ↔
      t ∈ left.rows ∧ ∀ s ∈ divisor.rows, s ∈ right.rows := by
  have hleft : (∃ u ∈ product.rows, restrict product.attributes right.attributes u = t) ↔
      t ∈ left.rows := by
    constructor
    · rintro ⟨u, hu, rfl⟩
      obtain ⟨l, hml, r, hmr, rfl⟩ := (mem_cross_iff hp).1 hu
      rwa [restrict_product hl ha hp hml]
    · intro hml
      obtain ⟨r, hmr⟩ := hne
      exact ⟨t ++ r, (mem_cross_iff hp).2 ⟨t, hml, r, hmr, rfl⟩, restrict_product hl ha hp hml⟩
  rw [mem_quotientRows_iff (join_wellFormed hl hr hp) hd hc, hattrs, hleft]
  refine and_congr_right fun hml => forall₂_congr fun s hs => ?_
  rw [reassemble_product hl ha hr hp hml hne (hattrs ▸ hd s hs),
    append_mem_cross_iff hl hp (hl t hml), and_iff_right hml]

theorem divide_cross_eq_ok (hr : right.WellFormed) (hne : ∃ r, r ∈ right.rows)
    (hd : divisor.WellFormed) (hattrs : divisor.attributes = right.attributes) :
    ∃ rows, (left.cross right >>= fun product => product.divide divisor) =
        .ok ⟨left.attributes, rows⟩ ∧
      ∀ t, t ∈ rows ↔ t ∈ left.rows ∧ ∀ s ∈ divisor.rows, s ∈ right.rows := by
  obtain ⟨product, hp⟩ : ∃ product, left.cross right = .ok product := ⟨_, cross_eq left right⟩
  have hproduct : product.attributes = left.attributes ++ divisor.attributes :=
    hattrs ▸ attributes_of_join hp
  obtain ⟨positions, hc⟩ := ha.exists_counterparts
  rw [← hattrs, ← hproduct] at hc
  have hstaying : product.attributes.filter (fun attr => !isMatched divisor.attributes attr) =
      left.attributes := by
    rw [hproduct, hattrs, ha.filter_append]
  refine ⟨quotientRows (stayingPositions product.attributes positions) positions product.rows
    divisor.rows, bind_eq_ok_iff.2 ⟨product, hp, divide_eq_ok_iff.2 ⟨positions, hc, ?_⟩⟩,
    fun t => ?_⟩
  · rw [hstaying]
  · exact mem_divide_cross_iff hl ha hr hp hne hd hattrs hc

end

/-- Dividing a product by its right operand, which has a row and whose attributes can be told
from each other and from those of the left operand by their local names, gives the left
operand: the same attributes and the same rows. With one more row in the divisor the quotient
has no rows. -/
theorem divide_cross_eq_self {left right : Relation} (hl : left.WellFormed) (hr : right.WellFormed)
    (hne : right.isEmpty = false) (hn : none ∉ right.attributes)
    (hd : (localNames right.attributes).Nodup)
    (hf : ∀ name ∈ localNames right.attributes, name ∉ localNames left.attributes) :
    (left.cross right >>= fun product => product.divide right) = .ok left ∧
    ∀ s larger, s ∉ right.rows → right.addRow s = .ok larger →
      (left.cross right >>= fun product => product.divide larger) =
        .ok ⟨left.attributes, .empty⟩ := by
  have ha : Apart left.attributes right.attributes := ⟨hn, hd, hf⟩
  have hex := exists_mem_of_not_isEmpty hne
  constructor
  · obtain ⟨rows, hq, hrows⟩ := divide_cross_eq_ok hl ha hr hex hr rfl
    have hself : rows = left.rows := RowSet.ext fun t => by simp [hrows]
    rw [hq, hself]
  · intro s larger hs hadd
    have he : right.arityEstablished = true := by
      have hrows : right.rows.isEmpty = false := hne
      simp [arityEstablished, hrows]
    have hattrs : larger.attributes = right.attributes := attributes_of_addRow he hadd
    obtain ⟨rows, hq, hrows⟩ :=
      divide_cross_eq_ok hl ha hr hex (addRow_wellFormed hr hadd) hattrs
    have hnone : rows = .empty := by
      refine RowSet.ext fun t => ?_
      simp only [hrows, RowSet.not_mem_empty, iff_false]
      rintro ⟨-, hall⟩
      exact hs (hall s (mem_of_addRow hadd))
    rw [hq, hnone]

/-- An attribute of the left operand is unnamed, and one row of the divisor is not paired with
any left row. -/
theorem divide_cross_eq_self_unnamed :
    let left : Relation := ⟨[some "T.a", none],
      .ofList [[.boolean true, .null], [.boolean false, .text "x"]]⟩
    let right : Relation := ⟨[some "S.b", some "c"],
      .ofList [[.null, .boolean true], [.text "y", .null]]⟩
    let larger : Relation := ⟨[some "S.b", some "c"],
      .ofList [[.null, .boolean true], [.text "y", .null], [.null, .null]]⟩
    left.WellFormed ∧ right.WellFormed ∧ right.isEmpty = false ∧ none ∉ right.attributes ∧
      localNames right.attributes = ["b", "c"] ∧ localNames left.attributes = ["a"] ∧
      [.null, .null] ∉ right.rows ∧ right.addRow [.null, .null] = .ok larger ∧
      (left.cross right >>= fun product => product.divide right) = .ok left ∧
      (left.cross right >>= fun product => product.divide larger) =
        .ok ⟨[some "T.a", none], .empty⟩ := by
  intro left right larger
  have hl : left.WellFormed := wellFormed_ofList (by decide)
  have hr : right.WellFormed := wellFormed_ofList (by decide)
  have hright : localNames right.attributes = ["b", "c"] := by decide
  have hleft : localNames left.attributes = ["a"] := by decide
  have hs : [.null, .null] ∉ right.rows := by decide
  have hadd : right.addRow [.null, .null] = .ok larger := by rfl
  obtain ⟨hself, hmore⟩ := divide_cross_eq_self hl hr rfl (by decide) (by simp [hright])
    (by simp [hright, hleft])
  exact ⟨hl, hr, rfl, by decide, hright, hleft, hs, hadd, hself, hmore _ larger hs hadd⟩

end Relation

end Relational
