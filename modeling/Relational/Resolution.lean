import Relational.Error
import Relational.Sorted

/-!
# Name resolution

A name picks one entry of a list whose entries are labelled by attributes. A
qualified name has to be the whole label, and any other name the label's local
part. Unnamed attributes are never picked. Resolution succeeds when exactly one
entry matches.
-/

namespace Relational

def Attribute.answersTo (name : String) : Attribute → Bool
  | none => false
  | some label => if isQualified name then label == name else localName label == name

abbrev Scope := List (Attribute × Value)

variable {α : Type}

def candidates (name : String) (entries : List (Attribute × α)) : List α :=
  (entries.filter fun entry => Attribute.answersTo name entry.1).map Prod.snd

def lookup (name : String) (entries : List (Attribute × α)) : Except EvalError α :=
  match candidates name entries with
  | [] => .error (.unknownAttribute name)
  | [content] => .ok content
  | _ :: _ :: _ => .error (.ambiguousAttribute name)

def resolve (name : String) (attributes : List Attribute) : Except EvalError Nat :=
  lookup name attributes.zipIdx

theorem lookup_eq_ok_iff {name : String} {entries : List (Attribute × α)} {content : α} :
    lookup name entries = .ok content ↔ candidates name entries = [content] := by
  unfold lookup
  split <;> simp_all

theorem lookup_eq_unknown_iff {name : String} {entries : List (Attribute × α)} :
    lookup name entries = .error (.unknownAttribute name) ↔ candidates name entries = [] := by
  unfold lookup
  split <;> simp_all

theorem lookup_eq_ambiguous_iff {name : String} {entries : List (Attribute × α)} :
    lookup name entries = .error (.ambiguousAttribute name) ↔
      2 ≤ (candidates name entries).length := by
  unfold lookup
  split <;> simp_all

theorem candidates_map {β : Type} (f : α → β) (name : String) (entries : List (Attribute × α)) :
    candidates name (entries.map fun entry => (entry.1, f entry.2)) =
      (candidates name entries).map f := by
  simp [candidates, List.filter_map, Function.comp_def]

theorem candidates_cons (name : String) (entry : Attribute × α) (rest : List (Attribute × α)) :
    candidates name (entry :: rest) =
      if entry.1.answersTo name then entry.2 :: candidates name rest
      else candidates name rest := by
  cases h : entry.1.answersTo name <;> simp [candidates, h]

theorem mem_candidates_zipIdx {name : String} {attributes : List Attribute} {i : Nat} :
    i ∈ candidates name attributes.zipIdx ↔
      ∃ attr, attributes[i]? = some attr ∧ Attribute.answersTo name attr := by
  simp [candidates, List.mem_zipIdx_iff_getElem?]

theorem sorted_candidates (name : String) (attributes : List Attribute) :
    (candidates name attributes.zipIdx).Pairwise (· < ·) := by
  have hs : (candidates name attributes.zipIdx).Sublist (attributes.zipIdx.map Prod.snd) :=
    List.filter_sublist.map Prod.snd
  rw [List.zipIdx_map_snd] at hs
  exact (List.pairwise_lt_range' 1).sublist hs

theorem resolve_eq_ok_iff {name : String} {attributes : List Attribute} {i : Nat} :
    resolve name attributes = .ok i ↔
      ∀ j, (∃ attr, attributes[j]? = some attr ∧ Attribute.answersTo name attr) ↔ j = i := by
  simp only [resolve, lookup_eq_ok_iff, ← mem_candidates_zipIdx]
  constructor
  · intro h j
    rw [h, List.mem_singleton]
  · intro h
    refine eq_of_sorted_of_mem_iff (fun _ _ => Nat.lt_asymm) (sorted_candidates ..)
      (List.pairwise_singleton ..) fun j => ?_
    rw [h j, List.mem_singleton]

theorem lt_length_of_resolve {name : String} {attributes : List Attribute} {i : Nat}
    (h : resolve name attributes = .ok i) : i < attributes.length := by
  have hm : i ∈ candidates name attributes.zipIdx := by
    rw [lookup_eq_ok_iff.1 h]
    exact List.mem_singleton_self i
  obtain ⟨attr, ha, _⟩ := mem_candidates_zipIdx.1 hm
  exact (List.getElem?_eq_some_iff.1 ha).1

end Relational
