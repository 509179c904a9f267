/-!
# Attribute names

An attribute has a name or has none. A name is qualified when it has a dot,
and its local part is what follows the last dot.
-/

namespace Relational

/-- The name of an attribute; `none` marks an unnamed one. -/
abbrev Attribute := Option String

/-- What follows the last dot of a name, or the whole name if it has no dot. -/
def localName (name : String) : String :=
  .ofList (name.toList.reverse.takeWhile (· != '.')).reverse

def isQualified (name : String) : Bool := name.toList.contains '.'

def qualify (qualifier name : String) : String := qualifier ++ "." ++ name

theorem isQualified_iff {name : String} : isQualified name ↔ '.' ∈ name.toList :=
  List.contains_iff_mem

theorem toList_localName (name : String) :
    (localName name).toList = (name.toList.reverse.takeWhile (· != '.')).reverse :=
  String.toList_ofList

theorem isQualified_localName (name : String) : isQualified (localName name) = false := by
  have h := List.all_takeWhile (p := (· != '.')) (l := name.toList.reverse)
  rw [List.all_eq_true] at h
  rw [Bool.eq_false_iff, ne_eq, isQualified_iff, toList_localName, List.mem_reverse]
  intro hd
  simpa using h _ hd

private theorem takeWhile_ne_dot {name : String} (h : isQualified name = false) (rest : List Char) :
    (name.toList.reverse ++ rest).takeWhile (· != '.') =
      name.toList.reverse ++ rest.takeWhile (· != '.') := by
  refine List.takeWhile_append_of_pos fun c hc => ?_
  rw [Bool.eq_false_iff, ne_eq, isQualified_iff] at h
  rw [bne_iff_ne]
  exact fun he => h (he ▸ List.mem_reverse.1 hc)

theorem localName_of_not_isQualified {name : String} (h : isQualified name = false) :
    localName name = name := by
  have := takeWhile_ne_dot h []
  rw [List.append_nil, List.takeWhile_nil, List.append_nil] at this
  rw [← String.toList_inj, toList_localName, this, List.reverse_reverse]

theorem localName_qualify {qualifier name : String} (h : isQualified name = false) :
    localName (qualify qualifier name) = name := by
  have := takeWhile_ne_dot h ('.' :: qualifier.toList.reverse)
  rw [← String.toList_inj, toList_localName]
  simpa [qualify] using congrArg List.reverse this

end Relational
