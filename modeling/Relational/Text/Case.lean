import Relational.Text.CaseTables

/-!
# Upper and lower case of texts

The full case mappings: a character may become several. A capital sigma that
ends a word becomes a final sigma. It ends a word when a cased character comes
before it and none after it, characters without effect on case passed over.
-/

namespace Relational.Text

open CaseTables

private def mapped (runs : List Run) (sequences : List (Nat × List Nat)) (c : Char) : List Char :=
  match runs.findSome? (·.image? c.toNat) with
  | some image => [.ofNat image]
  | none =>
    match sequences.lookup c.toNat with
    | some images => images.map .ofNat
    | none => [c]

def upperChar (c : Char) : List Char :=
  if c.toNat < 128 then [c.toUpper] else mapped upperRuns upperSequences c

/-- The lower case of a character that stands alone. -/
def lowerChar (c : Char) : List Char :=
  if c.toNat < 128 then [c.toLower] else mapped lowerRuns lowerSequences c

def isCased (c : Char) : Bool :=
  if c.toNat < 128 then c.isAlpha else inRanges cased c.toNat

def isCaseIgnorable (c : Char) : Bool := inRanges caseIgnorable c.toNat

def meetsCased (cs : List Char) : Bool :=
  match cs.dropWhile isCaseIgnorable with
  | [] => false
  | c :: _ => isCased c

/-- The lower case of what follows the characters `seen`, nearest first. -/
def lowerAfter (seen : List Char) : List Char → List Char
  | [] => []
  | c :: rest =>
    (if c = 'Σ' then [if meetsCased seen && !meetsCased rest then 'ς' else 'σ'] else lowerChar c) ++
      lowerAfter (c :: seen) rest

def upper (s : String) : String := .ofList (s.toList.flatMap upperChar)

def lower (s : String) : String := .ofList (lowerAfter [] s.toList)

end Relational.Text
