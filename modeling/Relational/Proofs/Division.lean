import Mathlib.Data.List.Nodup
import Relational.Proofs.Guarded.Query
import Relational.Proofs.Membership

/-!
# Division

When a division is refused and which rows a quotient has (`rows_of_divide`). The
divisor's attributes stand for attributes of the dividend by their local names. A row is
in the quotient if, put together with each row of the divisor, it is in the dividend
(`reassemble`).
-/

namespace Relational

-- ---------------------------------------------------------------------------
-- Local names
-- ---------------------------------------------------------------------------

def localNames (attributes : List Attribute) : List String :=
  (attributeNames attributes).map localName

theorem count_localNames (name : String) (attributes : List Attribute) :
    (localNames attributes).count name =
      attributes.countP fun attr => attr.map localName == some name := by
  rw [localNames, attributeNames, List.map_filterMap, List.count_filterMap]
  rfl

theorem answersTo_localName (name : String) (attr : Attribute) :
    Attribute.answersTo (localName name) attr = (attr.map localName == some (localName name)) := by
  cases attr <;> simp [Attribute.answersTo, isQualified_localName]

/-- A position has a local name that no other position has. -/
def OnlyAt (attributes : List Attribute) (name : String) (i : Nat) : Prop :=
  ∀ j, (attributes[j]?.bind (·.map localName)) = some name ↔ j = i

theorem OnlyAt.biUnique (attributes : List Attribute) : Relator.BiUnique (OnlyAt attributes) := by
  constructor
  · intro name name' i h h'
    exact Option.some.inj (((h i).2 rfl).symm.trans ((h' i).2 rfl))
  · intro name i j h h'
    exact (h' i).1 ((h i).2 rfl)

theorem OnlyAt.lt_length {attributes : List Attribute} {name : String} {i : Nat}
    (h : OnlyAt attributes name i) : i < attributes.length := by
  have hi := (h i).2 rfl
  rw [Option.bind_eq_some_iff] at hi
  obtain ⟨attr, ha, -⟩ := hi
  exact (List.getElem?_eq_some_iff.1 ha).1

theorem resolve_localName_eq_ok_iff {name : String} {attributes : List Attribute} {i : Nat} :
    resolve (localName name) attributes = .ok i ↔ OnlyAt attributes (localName name) i := by
  simp only [resolve_eq_ok_iff, OnlyAt, answersTo_localName, Option.bind_eq_some_iff, beq_iff_eq]

theorem exists_onlyAt_iff {name : String} {attributes : List Attribute} :
    (∃ i, OnlyAt attributes (localName name) i) ↔
      (localNames attributes).count (localName name) = 1 := by
  have hc : (candidates (localName name) attributes.zipIdx).length =
      (localNames attributes).count (localName name) := by
    rw [count_localNames, ← funext (answersTo_localName name), candidates, List.length_map,
      ← List.countP_eq_length_filter]
    conv_rhs => rw [← List.zipIdx_map_fst 0 attributes, List.countP_map]
    rfl
  simp only [← resolve_localName_eq_ok_iff, resolve, lookup_eq_ok_iff]
  rw [← hc, List.length_eq_one_iff]

namespace Relation

-- ---------------------------------------------------------------------------
-- Counterparts
-- ---------------------------------------------------------------------------

section

variable {dividend divisor : List Attribute} {taken positions : List Nat} {e : EvalError}

theorem counterpart_eq_ok_iff {attr : Attribute} {i : Nat} :
    counterpart dividend attr = .ok i ↔
      ∃ name, attr = some name ∧ OnlyAt dividend (localName name) i := by
  cases attr with
  | none => simp [counterpart]
  | some name =>
    simp only [counterpart, Option.some_inj, exists_eq_left', ← resolve_localName_eq_ok_iff]
    cases resolve (localName name) dividend <;> simp

theorem kind_of_counterpart_error {attr : Attribute} (h : counterpart dividend attr = .error e) :
    e.kind = .divisorMismatch := by
  unfold counterpart at h
  repeat' split at h
  all_goals cases h
  all_goals rfl

theorem counterparts_cons_eq_ok_iff {attr : Attribute} :
    counterparts dividend taken (attr :: divisor) = .ok positions ↔
      ∃ i rest, counterpart dividend attr = .ok i ∧ i ∉ taken ∧
        counterparts dividend (i :: taken) divisor = .ok rest ∧ i :: rest = positions := by
  simp only [counterparts, bind_eq_ok_iff]
  refine exists_congr fun i => ?_
  split
  · rename_i hi
    simp [hi, throw, throwThe, MonadExceptOf.throw, bind, Except.bind]
  · rename_i hi
    simp only [bind_eq_ok_iff, pure_eq_ok_iff, hi, not_false_eq_true, true_and, exists_and_left]

theorem kind_of_counterparts_error (h : counterparts dividend taken divisor = .error e) :
    e.kind = .divisorMismatch := by
  induction divisor generalizing taken with
  | nil => cases h
  | cons attr divisor ih =>
    simp only [counterparts, bind, Except.bind] at h
    split at h
    · rename_i hc
      obtain rfl := Except.error.inj h
      exact kind_of_counterpart_error hc
    · split at h
      · cases h
        rfl
      · split at h
        · rename_i hr
          obtain rfl := Except.error.inj h
          exact ih hr
        · cases h

/-- The positions of the divisor attributes in the dividend, all of them different. -/
structure Counterparts (dividend divisor : List Attribute) (positions : List Nat) : Prop where
  named : none ∉ divisor
  onlyAt : List.Forall₂ (OnlyAt dividend) (localNames divisor) positions
  distinct : (localNames divisor).Nodup

theorem counterparts_eq_ok_iff_taken :
    counterparts dividend taken divisor = .ok positions ↔
      none ∉ divisor ∧ List.Forall₂ (OnlyAt dividend) (localNames divisor) positions ∧
        positions.Nodup ∧ ∀ i ∈ positions, i ∉ taken := by
  induction divisor generalizing taken positions with
  | nil =>
    simp only [counterparts, localNames, attributeNames, List.filterMap_nil, List.map_nil,
      List.forall₂_nil_left_iff, Except.ok.injEq]
    constructor
    · rintro rfl
      simp
    · exact fun h => h.2.1.symm
  | cons attr divisor ih =>
    simp only [counterparts_cons_eq_ok_iff, counterpart_eq_ok_iff, ih]
    cases attr with
    | none => simp
    | some name =>
      have hcons : localNames (some name :: divisor) = localName name :: localNames divisor := rfl
      simp only [Option.some_inj, exists_eq_left', hcons, List.forall₂_cons_left_iff]
      constructor
      · rintro ⟨i, rest, hi, ht, ⟨hn, hr, hd, hrest⟩, rfl⟩
        refine ⟨by simpa using hn, ⟨i, rest, hi, hr, rfl⟩, List.nodup_cons.2 ⟨?_, hd⟩, ?_⟩
        · exact fun hm => hrest i hm (List.mem_cons_self ..)
        · exact List.forall_mem_cons.2 ⟨ht, fun j hj hm => hrest j hj (List.mem_cons_of_mem _ hm)⟩
      · rintro ⟨hn, ⟨i, rest, hi, hr, rfl⟩, hd, ht⟩
        obtain ⟨hni, hd⟩ := List.nodup_cons.1 hd
        obtain ⟨hti, ht⟩ := List.forall_mem_cons.1 ht
        refine ⟨i, rest, hi, hti, ⟨by simpa using hn, hr, hd, ?_⟩, rfl⟩
        intro j hj hm
        rcases List.mem_cons.1 hm with rfl | hm
        · exact hni hj
        · exact ht j hj hm

theorem counterparts_eq_ok_iff :
    counterparts dividend [] divisor = .ok positions ↔ Counterparts dividend divisor positions := by
  rw [counterparts_eq_ok_iff_taken]
  constructor
  · rintro ⟨hn, ho, hd, -⟩
    exact ⟨hn, ho, (List.rel_nodup (OnlyAt.biUnique dividend) ho).2 hd⟩
  · rintro ⟨hn, ho, hd⟩
    exact ⟨hn, ho, (List.rel_nodup (OnlyAt.biUnique dividend) ho).1 hd, by simp⟩

theorem exists_counterparts_iff :
    (∃ positions, Counterparts dividend divisor positions) ↔
      none ∉ divisor ∧ (∀ name ∈ localNames divisor, (localNames dividend).count name = 1) ∧
        (localNames divisor).Nodup := by
  have hex : (∃ positions, List.Forall₂ (OnlyAt dividend) (localNames divisor) positions) ↔
      ∀ name ∈ localNames divisor, (localNames dividend).count name = 1 := by
    simp only [exists_forall₂_iff, localNames, List.forall_mem_map, exists_onlyAt_iff]
  rw [← hex]
  constructor
  · rintro ⟨positions, hn, ho, hd⟩
    exact ⟨hn, ⟨positions, ho⟩, hd⟩
  · rintro ⟨hn, ⟨positions, ho⟩, hd⟩
    exact ⟨positions, hn, ho, hd⟩

end

-- ---------------------------------------------------------------------------
-- Putting rows together
-- ---------------------------------------------------------------------------

def isMatched (divisor : List Attribute) (attr : Attribute) : Bool :=
  attr.any fun name => (localNames divisor).contains (localName name)

def matchedValue (divisor : List Attribute) (s : Row) (attr : Attribute) : Option Value :=
  attr.bind fun name => ((localNames divisor).zip s).lookup (localName name)

/-- The values of a dividend row under the attributes that are not matched. -/
def restrict (dividend divisor : List Attribute) (u : Row) : Row :=
  ((dividend.zip u).filter fun entry => !isMatched divisor entry.1).map Prod.snd

/-- A divisor row and a quotient row put together: the values of the divisor row are placed
at the attributes they match, and those of the quotient row fill the rest in order. -/
def reassemble (divisor : List Attribute) (s : Row) : List Attribute → Row → Row
  | [], _ => []
  | attr :: dividend, t =>
    match matchedValue divisor s attr with
    | some v => v :: reassemble divisor s dividend t
    | none => t.take 1 ++ reassemble divisor s dividend (t.drop 1)

/-- A dividend row with the values of a divisor row in their places. -/
def overlay (dividend divisor : List Attribute) (s u : Row) : Row :=
  (dividend.zip u).map fun entry => (matchedValue divisor s entry.1).getD entry.2

section

variable {dividend divisor : List Attribute} {positions : List Nat} {s t u : Row}

theorem length_localNames (h : none ∉ divisor) : (localNames divisor).length = divisor.length := by
  induction divisor with
  | nil => rfl
  | cons attr divisor ih =>
    cases attr with
    | none => simp at h
    | some name => simpa [localNames, attributeNames] using ih (by simpa using h)

theorem map_fst_zip_localNames (h : none ∉ divisor) (hs : s.length = divisor.length) :
    ((localNames divisor).zip s).map Prod.fst = localNames divisor :=
  List.map_fst_zip (Nat.le_of_eq ((length_localNames h).trans hs.symm))

theorem isMatched_eq_isSome (h : none ∉ divisor) (hs : s.length = divisor.length)
    (attr : Attribute) : isMatched divisor attr = (matchedValue divisor s attr).isSome := by
  cases attr with
  | none => rfl
  | some name =>
    have hmem : localName name ∈ localNames divisor ↔
        ∃ entry ∈ (localNames divisor).zip s, localName name = entry.1 := by
      conv_lhs => rw [← map_fst_zip_localNames h hs, List.mem_map]
      simp only [eq_comm]
    rw [Bool.eq_iff_iff, Option.isSome_iff_ne_none]
    simp [isMatched, matchedValue, List.lookup_eq_none_iff, hmem]

theorem Counterparts.matchedValue_eq_some_iff (h : Counterparts dividend divisor positions)
    (hs : s.length = divisor.length) {attr : Attribute} {v : Value} :
    matchedValue divisor s attr = some v ↔
      ∃ name, attr.map localName = some name ∧ (name, v) ∈ (localNames divisor).zip s := by
  have hn : (((localNames divisor).zip s).map Prod.fst).Nodup :=
    (map_fst_zip_localNames h.named hs).symm ▸ h.distinct
  cases attr with
  | none => simp [matchedValue]
  | some name => simp [matchedValue, lookup_eq_some_iff_mem hn]

theorem Counterparts.matchedValue_getElem (h : Counterparts dividend divisor positions)
    (hs : s.length = divisor.length) {i : Nat} (hi : i < dividend.length) {v : Value} :
    matchedValue divisor s dividend[i] = some v ↔ (i, v) ∈ positions.zip s := by
  rw [h.matchedValue_eq_some_iff hs]
  have ho := h.onlyAt
  generalize localNames divisor = names at ho
  clear h hs
  induction ho generalizing s with
  | nil => simp
  | @cons name j names positions hj _ ih =>
    cases s with
    | nil => simp
    | cons w s =>
      have hij : dividend[i].map localName = some name ↔ i = j := by
        rw [← hj i, List.getElem?_eq_getElem hi, Option.bind_some]
      simp only [List.zip_cons_cons, List.mem_cons, ← ih, Prod.mk.injEq, ← hij]
      constructor
      · rintro ⟨name', hn, ⟨rfl, rfl⟩ | hm⟩
        · exact .inl ⟨hn, rfl⟩
        · exact .inr ⟨name', hn, hm⟩
      · rintro (⟨hn, rfl⟩ | ⟨name', hn, hm⟩)
        · exact ⟨name, hn, .inl ⟨rfl, rfl⟩⟩
        · exact ⟨name', hn, .inr hm⟩

theorem Counterparts.length_positions (h : Counterparts dividend divisor positions) :
    positions.length = divisor.length :=
  h.onlyAt.length_eq.symm.trans (length_localNames h.named)

theorem Counterparts.lt_length (h : Counterparts dividend divisor positions) {i : Nat}
    (hi : i ∈ positions) : i < dividend.length := by
  obtain ⟨j, hj, rfl⟩ := List.getElem_of_mem hi
  exact ((List.forall₂_iff_get.1 h.onlyAt).2 j (h.onlyAt.length_eq ▸ hj) hj).lt_length

theorem reassemble_restrict (hn : none ∉ divisor) (hs : s.length = divisor.length)
    (hu : u.length = dividend.length) :
    reassemble divisor s dividend (restrict dividend divisor u) = overlay dividend divisor s u := by
  induction dividend generalizing u with
  | nil => rfl
  | cons attr dividend ih =>
    cases u with
    | nil => simp at hu
    | cons v u =>
      have ih := ih (u := u) (by simpa using hu)
      have hm := isMatched_eq_isSome hn hs attr
      cases hv : matchedValue divisor s attr with
      | some w => simpa [reassemble, overlay, restrict, hm, hv] using ih
      | none => simpa [reassemble, overlay, restrict, hm, hv] using ih

theorem restrict_overlay (hn : none ∉ divisor) (hs : s.length = divisor.length)
    (hu : u.length = dividend.length) :
    restrict dividend divisor (overlay dividend divisor s u) = restrict dividend divisor u := by
  induction dividend generalizing u with
  | nil => rfl
  | cons attr dividend ih =>
    cases u with
    | nil => simp at hu
    | cons v u =>
      have ih := ih (u := u) (by simpa using hu)
      have hm := isMatched_eq_isSome hn hs attr
      cases hv : matchedValue divisor s attr with
      | some w => simpa [overlay, restrict, hm, hv] using ih
      | none => simpa [overlay, restrict, hm, hv] using ih

theorem pick_eq_iff (hl : positions.length = s.length) :
    Row.pick positions u = s ↔ ∀ i v, (i, v) ∈ positions.zip s → u.getD i .null = v := by
  rw [Row.pick, ← List.forall₂_eq_eq_eq, List.forall₂_map_left_iff, List.forall₂_iff_zip]
  exact ⟨fun h i v hm => h.2 hm, fun h => ⟨hl, fun {i v} hm => h i v hm⟩⟩

theorem getElem?_overlay {i : Nat} (hi : i < dividend.length) (hi' : i < u.length) :
    (overlay dividend divisor s u)[i]? =
      some ((matchedValue divisor s dividend[i]).getD u[i]) := by
  have hz : i < (dividend.zip u).length := by rw [List.length_zip]; omega
  rw [overlay, List.getElem?_map, List.getElem?_eq_getElem hz, List.getElem_zip]
  rfl

theorem Counterparts.pick_overlay (h : Counterparts dividend divisor positions)
    (hs : s.length = divisor.length) (hu : u.length = dividend.length) :
    Row.pick positions (overlay dividend divisor s u) = s := by
  refine (pick_eq_iff (h.length_positions.trans hs.symm)).2 fun i v hm => ?_
  have hi := h.lt_length (List.of_mem_zip hm).1
  have hv := (h.matchedValue_getElem hs hi).2 hm
  rw [List.getD_eq_getElem?_getD, getElem?_overlay hi (hu ▸ hi), hv]
  rfl

theorem Counterparts.overlay_of_pick (h : Counterparts dividend divisor positions)
    (hs : s.length = divisor.length) (hu : u.length = dividend.length)
    (hp : Row.pick positions u = s) : overlay dividend divisor s u = u := by
  have hp := (pick_eq_iff (h.length_positions.trans hs.symm)).1 hp
  refine List.ext_getElem? fun i => ?_
  by_cases hi : i < dividend.length
  · have hi' : i < u.length := hu ▸ hi
    rw [getElem?_overlay hi hi', List.getElem?_eq_getElem hi']
    cases hv : matchedValue divisor s dividend[i] with
    | none => rfl
    | some v =>
      have huv := hp i v ((h.matchedValue_getElem hs hi).1 hv)
      rw [List.getD_eq_getElem?_getD, List.getElem?_eq_getElem hi', Option.getD_some] at huv
      rw [huv]
      rfl
  · simp [overlay, hu, Nat.not_lt.1 hi]

end

theorem filter_eq_map_getD {α : Type} (p : α → Bool) (l : List α) (default : α) :
    l.filter p = ((List.range l.length).filter fun i => p (l.getD i default)).map
      fun i => l.getD i default := by
  conv_lhs => rw [← Guarded.map_getD_range l default, List.filter_map]
  rfl

section

variable {dividend divisor : List Attribute} {positions : List Nat} {u : Row}

def stayingPositions (dividend : List Attribute) (positions : List Nat) : List Nat :=
  (List.range dividend.length).filter fun i => !positions.contains i

theorem Counterparts.isMatched_getD (h : Counterparts dividend divisor positions) {i : Nat}
    (hi : i < dividend.length) :
    isMatched divisor (dividend.getD i none) = positions.contains i := by
  -- any row of the divisor shows which positions are matched
  have hs : (Row.nulls divisor.length).length = divisor.length := Row.length_nulls _
  rw [isMatched_eq_isSome h.named hs, Bool.eq_iff_iff, Option.isSome_iff_exists,
    List.getD_eq_getElem?_getD, List.getElem?_eq_getElem hi, Option.getD_some]
  simp only [h.matchedValue_getElem hs hi, List.contains_iff_mem]
  constructor
  · rintro ⟨v, hm⟩
    exact (List.of_mem_zip hm).1
  · intro hm
    have hz : (positions.zip (Row.nulls divisor.length)).map Prod.fst = positions :=
      List.map_fst_zip (Nat.le_of_eq (h.length_positions.trans hs.symm))
    rw [← hz] at hm
    obtain ⟨⟨j, v⟩, hj, rfl⟩ := List.mem_map.1 hm
    exact ⟨v, hj⟩

theorem Counterparts.staying_eq (h : Counterparts dividend divisor positions) :
    stayingPositions dividend positions =
      (List.range dividend.length).filter fun i => !isMatched divisor (dividend.getD i none) :=
  List.filter_congr fun i hi => by rw [h.isMatched_getD (List.mem_range.1 hi)]

theorem Counterparts.map_staying (h : Counterparts dividend divisor positions) :
    (stayingPositions dividend positions).map (fun i => dividend.getD i none) =
      dividend.filter fun attr => !isMatched divisor attr := by
  rw [h.staying_eq, ← filter_eq_map_getD (fun attr => !isMatched divisor attr)]

theorem zip_eq_map_getD (hu : u.length = dividend.length) :
    dividend.zip u =
      (List.range dividend.length).map fun i => (dividend.getD i none, u.getD i .null) := by
  conv_lhs => rw [← Guarded.map_getD_range dividend none, ← Guarded.map_getD_range u .null, hu,
    List.zip_map']

theorem Counterparts.pick_staying (h : Counterparts dividend divisor positions)
    (hu : u.length = dividend.length) :
    Row.pick (stayingPositions dividend positions) u = restrict dividend divisor u := by
  rw [h.staying_eq, restrict, zip_eq_map_getD hu, List.filter_map, List.map_map]
  rfl

end

-- ---------------------------------------------------------------------------
-- Quotients
-- ---------------------------------------------------------------------------

section

variable {dividend divisor q : Relation} {positions : List Nat} {t : Row}

theorem divide_eq_ok_iff :
    dividend.divide divisor = .ok q ↔
      ∃ positions, Counterparts dividend.attributes divisor.attributes positions ∧
        q = ⟨dividend.attributes.filter fun attr => !isMatched divisor.attributes attr,
          quotientRows (stayingPositions dividend.attributes positions) positions dividend.rows
            divisor.rows⟩ := by
  simp only [divide, bind_eq_ok_iff, pure_eq_ok_iff, counterparts_eq_ok_iff]
  refine exists_congr fun positions => and_congr_right fun h => ?_
  rw [← h.map_staying, eq_comm]
  rfl

theorem kind_of_divide_error {e : EvalError} (h : dividend.divide divisor = .error e) :
    e.kind = .divisorMismatch := by
  unfold divide at h
  cases hc : counterparts dividend.attributes [] divisor.attributes with
  | error e' =>
    rw [hc] at h
    obtain rfl := Except.error.inj h
    exact kind_of_counterparts_error hc
  | ok positions =>
    rw [hc] at h
    cases h

theorem mem_quotientRows_iff (hw : dividend.WellFormed) (hw' : divisor.WellFormed)
    (h : Counterparts dividend.attributes divisor.attributes positions) :
    t ∈ quotientRows (stayingPositions dividend.attributes positions) positions dividend.rows
        divisor.rows ↔
      (∃ u ∈ dividend.rows, restrict dividend.attributes divisor.attributes u = t) ∧
        ∀ s ∈ divisor.rows, reassemble divisor.attributes s dividend.attributes t ∈ dividend.rows := by
  have hpick (u : Row) (hu : u ∈ dividend.rows) := h.pick_staying (hw u hu)
  have hrows : (∃ u ∈ dividend.rows,
      Row.pick (stayingPositions dividend.attributes positions) u = t) ↔
      ∃ u ∈ dividend.rows, restrict dividend.attributes divisor.attributes u = t :=
    exists_congr fun u => and_congr_right fun hu => by rw [hpick u hu]
  rw [mem_quotientRows, hrows]
  refine and_congr_right ?_
  rintro ⟨u₀, hu₀, rfl⟩
  refine forall_congr' fun s => forall_congr' fun hs => ?_
  have hs := hw' s hs
  constructor
  · rintro ⟨u, hu, ht, hp⟩
    rw [hpick u hu] at ht
    rw [← ht, reassemble_restrict h.named hs (hw u hu), h.overlay_of_pick hs (hw u hu) hp]
    exact hu
  · intro hm
    refine ⟨_, hm, ?_, ?_⟩
    · rw [hpick _ hm, reassemble_restrict h.named hs (hw u₀ hu₀),
        restrict_overlay h.named hs (hw u₀ hu₀)]
    · rw [reassemble_restrict h.named hs (hw u₀ hu₀), h.pick_overlay hs (hw u₀ hu₀)]

end

/-- A division is refused, always as a mismatch of the divisor, if a divisor attribute is
unnamed, if its local name is not that of exactly one dividend attribute, or if another
divisor attribute has the same local name. Else the quotient has the attributes that are not
matched, and holds what is left of a dividend row if every row of the divisor, put together
with it, gives a row of the dividend. -/
theorem rows_of_divide {dividend divisor : Relation} (hw : dividend.WellFormed)
    (hw' : divisor.WellFormed) :
    (∀ e, dividend.divide divisor = .error e → e.kind = .divisorMismatch) ∧
    ((∃ e, dividend.divide divisor = .error e) ↔
      none ∈ divisor.attributes ∨
      (∃ name ∈ localNames divisor.attributes, (localNames dividend.attributes).count name ≠ 1) ∨
      ¬ (localNames divisor.attributes).Nodup) ∧
    ∀ q, dividend.divide divisor = .ok q →
      q.attributes =
        dividend.attributes.filter (fun attr => !isMatched divisor.attributes attr) ∧
      (∀ t, t ∈ q.rows ↔
        (∃ u ∈ dividend.rows, restrict dividend.attributes divisor.attributes u = t) ∧
          ∀ s ∈ divisor.rows,
            reassemble divisor.attributes s dividend.attributes t ∈ dividend.rows) ∧
      (divisor.isEmpty → ∀ t, t ∈ q.rows ↔
        ∃ u ∈ dividend.rows, restrict dividend.attributes divisor.attributes u = t) := by
  refine ⟨fun e h => ?_, ?_, fun q h => ?_⟩
  · exact kind_of_divide_error h
  · have hok : (∃ q, dividend.divide divisor = .ok q) ↔
        ∃ positions, Counterparts dividend.attributes divisor.attributes positions := by
      simp only [divide_eq_ok_iff]
      exact ⟨fun ⟨_, positions, h, _⟩ => ⟨positions, h⟩, fun ⟨positions, h⟩ => ⟨_, positions, h, rfl⟩⟩
    rw [exists_error_iff, hok, exists_counterparts_iff]
    simp only [not_and_or, not_not, Classical.not_forall, exists_prop, ne_eq]
  · obtain ⟨positions, hc, rfl⟩ := divide_eq_ok_iff.1 h
    refine ⟨rfl, fun t => mem_quotientRows_iff hw hw' hc, fun he t => ?_⟩
    have hn : divisor.rows.toList = [] := List.isEmpty_iff.1 he
    rw [mem_quotientRows_iff hw hw' hc]
    simp [← RowSet.mem_toList, hn]

/-- The dividend has an unnamed attribute, and the divisor has the others the other way round. -/
theorem rows_of_divide_swapped :
    let dividend : Relation := ⟨[some "D.a", none, some "D.b"],
      .ofList [[.boolean true, .null, .boolean false], [.boolean true, .number .one, .boolean false],
        [.boolean false, .null, .boolean true]]⟩
    let divisor : Relation := ⟨[some "S.b", some "S.a"],
      .ofList [[.boolean true, .boolean false], [.boolean false, .boolean true]]⟩
    dividend.WellFormed ∧ divisor.WellFormed ∧
      dividend.divide divisor = .ok ⟨[none], .ofList [[.null]]⟩ ∧
      ∀ t, t ∈ RowSet.ofList [[.null]] ↔
        (∃ u ∈ dividend.rows, restrict dividend.attributes divisor.attributes u = t) ∧
          ∀ s ∈ divisor.rows,
            reassemble divisor.attributes s dividend.attributes t ∈ dividend.rows := by
  intro dividend divisor
  have hw : dividend.WellFormed := wellFormed_ofList (by decide)
  have hw' : divisor.WellFormed := wellFormed_ofList (by decide)
  have h : dividend.divide divisor = .ok ⟨[none], .ofList [[.null]]⟩ := by rfl
  exact ⟨hw, hw', h, ((rows_of_divide hw hw').2.2 _ h).2.1⟩

end Relation

end Relational
