import Relational.Proofs.Addressing

/-!
# What a name means

A name with a dot means the attributes that have exactly this name, and a name without one
means those that have it after their last dot, or as a whole if they have no dot. Resolution
finds the position that a name means, if there is one and no other, and tells apart that there
is none and that there are several (`outcomes_of_resolve`).
-/

namespace Relational

-- ---------------------------------------------------------------------------
-- The last part of a name
-- ---------------------------------------------------------------------------

/-- What follows the last dot of a label, or the whole label if it has no dot. -/
inductive LastPart : String → String → Prop
  | whole {label : String} : '.' ∉ label.toList → LastPart label label
  | after (qualifier : String) {part : String} : '.' ∉ part.toList →
      LastPart (qualify qualifier part) part

section

variable {name label part : String}

theorem isQualified_eq_false_iff : isQualified name = false ↔ '.' ∉ name.toList := by
  simp [← isQualified_iff]

theorem exists_qualify_localName (h : isQualified label) :
    ∃ qualifier, label = qualify qualifier (localName label) := by
  have hsplit := List.takeWhile_append_dropWhile (p := (· != '.')) (l := label.toList.reverse)
  cases hrest : label.toList.reverse.dropWhile (· != '.') with
  | nil =>
    -- otherwise the label would be its own local name, which has no dots
    have hself : localName label = label := by
      simpa [← String.toList_inj, toList_localName, hrest] using congrArg List.reverse hsplit
    rw [← hself, isQualified_localName] at h
    contradiction
  | cons c rest =>
    -- what is left of the label from its end starts with the last dot
    have hc : c = '.' := by
      have := List.head?_dropWhile_not (· != '.') label.toList.reverse
      simpa [hrest] using this
    refine ⟨.ofList rest.reverse, ?_⟩
    rw [hrest, hc] at hsplit
    have := congrArg List.reverse hsplit
    simpa [← String.toList_inj, qualify, toList_localName] using this.symm

theorem lastPart_iff : LastPart label part ↔ localName label = part := by
  constructor
  · rintro (h | ⟨qualifier, h⟩)
    · exact localName_of_not_isQualified (isQualified_eq_false_iff.2 h)
    · exact localName_qualify (isQualified_eq_false_iff.2 h)
  · rintro rfl
    have hpart := isQualified_eq_false_iff.1 (isQualified_localName label)
    cases h : isQualified label with
    | true =>
      obtain ⟨qualifier, hq⟩ := exists_qualify_localName h
      have hafter := LastPart.after qualifier hpart
      rwa [← hq] at hafter
    | false =>
      have hwhole := LastPart.whole hpart
      rwa [localName_of_not_isQualified h] at hwhole ⊢

end

-- ---------------------------------------------------------------------------
-- The positions that a name means
-- ---------------------------------------------------------------------------

/-- A name with a dot means the label that it is, and one without a dot the labels of which it
is the last part. -/
inductive Designates (name : String) : String → Prop
  | whole : '.' ∈ name.toList → Designates name name
  | last {label : String} : '.' ∉ name.toList → LastPart label name → Designates name label

/-- The attribute at a position has a name, and one that the given name means. -/
def DesignatesAt (attributes : List Attribute) (name : String) (i : Nat) : Prop :=
  ∃ label, attributes[i]? = some (some label) ∧ Designates name label

section

variable {name label : String} {attributes : List Attribute} {i j : Nat}

theorem designates_iff_of_dot (h : '.' ∈ name.toList) : Designates name label ↔ label = name := by
  constructor
  · rintro (_ | ⟨hn, -⟩)
    · rfl
    · exact absurd h hn
  · rintro rfl
    exact .whole h

theorem designates_iff_of_no_dot (h : '.' ∉ name.toList) :
    Designates name label ↔ LastPart label name := by
  refine ⟨?_, .last h⟩
  rintro (hd | ⟨-, hp⟩)
  · exact absurd hd h
  · exact hp

theorem answersTo_some_iff : Attribute.answersTo name (some label) ↔ Designates name label := by
  unfold Attribute.answersTo
  cases h : isQualified name with
  | true => simp [designates_iff_of_dot (isQualified_iff.1 h)]
  | false => simp [designates_iff_of_no_dot (isQualified_eq_false_iff.1 h), lastPart_iff]

theorem mem_candidates_iff_designatesAt :
    i ∈ candidates name attributes.zipIdx ↔ DesignatesAt attributes name i := by
  rw [mem_candidates_zipIdx]
  constructor
  · rintro ⟨_ | label, hi, ha⟩
    · cases ha
    · exact ⟨label, hi, answersTo_some_iff.1 ha⟩
  · rintro ⟨label, hi, hd⟩
    exact ⟨some label, hi, answersTo_some_iff.2 hd⟩

theorem resolve_eq_ok_iff_designatesAt :
    resolve name attributes = .ok i ↔ ∀ j, DesignatesAt attributes name j ↔ j = i := by
  simp only [resolve_eq_ok_iff, ← mem_candidates_zipIdx, mem_candidates_iff_designatesAt]

theorem resolve_eq_unknown_iff :
    resolve name attributes = .error (.unknownAttribute name) ↔
      ∀ i, ¬ DesignatesAt attributes name i := by
  simp only [resolve, lookup_eq_unknown_iff, List.eq_nil_iff_forall_not_mem,
    mem_candidates_iff_designatesAt]

theorem resolve_eq_ambiguous_iff :
    resolve name attributes = .error (.ambiguousAttribute name) ↔
      ∃ i j, i < j ∧ DesignatesAt attributes name i ∧ DesignatesAt attributes name j := by
  simp only [resolve, lookup_eq_ambiguous_iff, ← mem_candidates_iff_designatesAt]
  have hsorted := sorted_candidates name attributes
  generalize candidates name attributes.zipIdx = found at hsorted ⊢
  rcases found with _ | ⟨k, _ | ⟨l, rest⟩⟩
  · simp
  · simp only [List.length_singleton, List.mem_singleton]
    omega
  · have hkl : k < l := (List.pairwise_cons.1 hsorted).1 l (List.mem_cons_self ..)
    exact ⟨fun _ => ⟨k, l, hkl, by simp, by simp⟩, fun _ => by simp⟩

theorem Designates.localName (h : Designates name label) :
    Designates (localName name) label := by
  have hlast := isQualified_eq_false_iff.1 (isQualified_localName name)
  rw [designates_iff_of_no_dot hlast]
  cases h with
  | whole _ => exact lastPart_iff.2 rfl
  | last hdot h => rwa [localName_of_not_isQualified (isQualified_eq_false_iff.2 hdot)]

theorem resolve_localName_of_resolve (h : resolve name attributes = .ok i) :
    resolve (localName name) attributes = .ok i ∨
      resolve (localName name) attributes = .error (.ambiguousAttribute (localName name)) := by
  obtain ⟨label, hi, hd⟩ := (resolve_eq_ok_iff_designatesAt.1 h i).2 rfl
  exact resolve_of_answersTo hi (answersTo_some_iff.2 hd.localName)

end

-- ---------------------------------------------------------------------------
-- Resolution in one pass
-- ---------------------------------------------------------------------------

section

variable {α : Type} {name : String}

/-- One pass over entries, which remembers the first one that matches and stops at the second. -/
def scan (name : String) (found : Option α) : List (Attribute × α) → Except EvalError α
  | [] =>
    match found with
    | some content => .ok content
    | none => .error (.unknownAttribute name)
  | (attr, content) :: rest =>
    if attr.answersTo name then
      match found with
      | some _ => .error (.ambiguousAttribute name)
      | none => scan name (some content) rest
    else scan name found rest

theorem scan_some (content : α) (entries : List (Attribute × α)) :
    scan name (some content) entries =
      if candidates name entries = [] then .ok content else .error (.ambiguousAttribute name) := by
  induction entries with
  | nil => rfl
  | cons entry rest ih =>
    rw [scan, candidates_cons, ih]
    cases entry.1.answersTo name <;> simp

theorem scan_none (entries : List (Attribute × α)) :
    scan name none entries = lookup name entries := by
  induction entries with
  | nil => rfl
  | cons entry rest ih =>
    rw [scan, ih, scan_some, lookup, lookup, candidates_cons]
    cases entry.1.answersTo name with
    | false => rfl
    | true => cases candidates name rest <;> simp

end

/-- A name is resolved to a position if and only if this is the only one that it means. It is
ambiguous if and only if it means two positions or more, and unknown if and only if it means
none; a pass that stops at the second match finds out the same. The last part of a name means
all that the name means, so it is resolved to the same position or is ambiguous. -/
theorem outcomes_of_resolve (name : String) (attributes : List Attribute) :
    (∀ i, resolve name attributes = .ok i ↔ ∀ j, DesignatesAt attributes name j ↔ j = i) ∧
    (resolve name attributes = .error (.ambiguousAttribute name) ↔
      ∃ i j, i < j ∧ DesignatesAt attributes name i ∧ DesignatesAt attributes name j) ∧
    (resolve name attributes = .error (.unknownAttribute name) ↔
      ∀ i, ¬ DesignatesAt attributes name i) ∧
    resolve name attributes = scan name none attributes.zipIdx ∧
    ∀ i, isQualified name → resolve name attributes = .ok i →
      resolve (localName name) attributes = .ok i ∨
        resolve (localName name) attributes = .error (.ambiguousAttribute (localName name)) :=
  ⟨fun _ => resolve_eq_ok_iff_designatesAt, resolve_eq_ambiguous_iff, resolve_eq_unknown_iff,
    (scan_none _).symm, fun _ _ => resolve_localName_of_resolve⟩

theorem outcomes_of_resolve_dots :
    let attributes : List Attribute := [some "R.a", none, some "db.R.a", some "R.", some "a"]
    isQualified "db.R.a" ∧ resolve "db.R.a" attributes = .ok 2 ∧
      (resolve "a" attributes = .ok 2 ∨
        resolve "a" attributes = .error (.ambiguousAttribute "a")) ∧
      (∃ i j, i < j ∧ DesignatesAt attributes "a" i ∧ DesignatesAt attributes "a" j) ∧
      (∀ j, DesignatesAt attributes "" j ↔ j = 3) ∧
      ∀ i, ¬ DesignatesAt attributes ".a" i := by
  intro attributes
  have hq : isQualified "db.R.a" := by decide
  have hi : resolve "db.R.a" attributes = .ok 2 := rfl
  have hlocal : localName "db.R.a" = "a" := rfl
  have ha : resolve "a" attributes = .error (.ambiguousAttribute "a") := rfl
  have hempty : resolve "" attributes = .ok 3 := rfl
  have hunknown : resolve ".a" attributes = .error (.unknownAttribute ".a") := rfl
  obtain ⟨-, -, -, -, hlast⟩ := outcomes_of_resolve "db.R.a" attributes
  obtain ⟨-, hseveral, -⟩ := outcomes_of_resolve "a" attributes
  obtain ⟨hone, -⟩ := outcomes_of_resolve "" attributes
  obtain ⟨-, -, hnone, -⟩ := outcomes_of_resolve ".a" attributes
  have hpart := hlast 2 hq hi
  rw [hlocal] at hpart
  exact ⟨hq, hi, hpart, hseveral.1 ha, (hone 3).1 hempty, hnone.1 hunknown⟩

end Relational
