import Relational.Number

/-!
# Values

A cell holds null, a boolean, a number or a text. The storage order puts null
first, then false and true, then the numbers, then the texts by code point. It
arranges rows and has no say in predicates.
-/

namespace Relational

inductive Kind
  | null
  | boolean
  | number
  | text
deriving DecidableEq

def Kind.name : Kind → String
  | .null => "Null"
  | .boolean => "Boolean"
  | .number => "Number"
  | .text => "Text"

inductive Value
  | null
  | boolean (b : Bool)
  | number (n : Number)
  | text (s : String)
deriving DecidableEq

namespace Value

def kind : Value → Kind
  | null => .null
  | boolean _ => .boolean
  | number _ => .number
  | text _ => .text

def isNull : Value → Bool
  | null => true
  | _ => false

def dataType : Value → Option Kind
  | null => none
  | v => some v.kind

theorem kind_eq_null_iff {v : Value} : v.kind = .null ↔ v = null := by
  cases v <;> simp [kind]

/-- How a table shows a value. Quotes inside a text are not marked. -/
def render : Value → String
  | null => "NULL"
  | boolean b => if b then "true" else "false"
  | number n => toString n.toInt
  | text s => "'" ++ s ++ "'"

/-- The storage order. -/
protected def Lt : Value → Value → Prop
  | null, null => False
  | null, _ => True
  | boolean _, null => False
  | boolean a, boolean b => a = false ∧ b = true
  | boolean _, _ => True
  | number _, null => False
  | number _, boolean _ => False
  | number a, number b => a < b
  | number _, text _ => True
  | text a, text b => a < b
  | text _, _ => False

instance : LT Value := ⟨Value.Lt⟩

instance decidableLt : (a b : Value) → Decidable (a < b)
  | null, null => isFalse id
  | null, boolean _ => isTrue trivial
  | null, number _ => isTrue trivial
  | null, text _ => isTrue trivial
  | boolean _, null => isFalse id
  | boolean a, boolean b => inferInstanceAs (Decidable (a = false ∧ b = true))
  | boolean _, number _ => isTrue trivial
  | boolean _, text _ => isTrue trivial
  | number _, null => isFalse id
  | number _, boolean _ => isFalse id
  | number a, number b => inferInstanceAs (Decidable (a < b))
  | number _, text _ => isTrue trivial
  | text _, null => isFalse id
  | text _, boolean _ => isFalse id
  | text _, number _ => isFalse id
  | text a, text b => inferInstanceAs (Decidable (a < b))

theorem boolean_lt_boolean {a b : Bool} : boolean a < boolean b ↔ a = false ∧ b = true := Iff.rfl

theorem number_lt_number {a b : Number} : number a < number b ↔ a.toInt < b.toInt := Iff.rfl

theorem text_lt_text {a b : String} : text a < text b ↔ a < b := Iff.rfl

theorem lt_irrefl (v : Value) : ¬ v < v := by
  cases v with
  | null => exact id
  | boolean b => rw [boolean_lt_boolean]; cases b <;> simp
  | number n => rw [number_lt_number]; exact Int.lt_irrefl _
  | text s => rw [text_lt_text]; exact String.lt_irrefl s

theorem lt_trans {a b c : Value} (hab : a < b) (hbc : b < c) : a < c := by
  cases a <;> cases b <;> try exact hab.elim
  all_goals cases c <;> first | exact trivial | exact hbc.elim | skip
  · rw [boolean_lt_boolean] at *
    simp_all
  · rw [number_lt_number] at *
    exact Int.lt_trans hab hbc
  · rw [text_lt_text] at *
    exact String.lt_trans hab hbc

theorem lt_asymm {a b : Value} (h : a < b) : ¬ b < a :=
  fun h' => lt_irrefl a (lt_trans h h')

theorem eq_of_not_lt {a b : Value} (h : ¬ a < b) (h' : ¬ b < a) : a = b := by
  cases a <;> cases b <;> first | rfl | exact absurd trivial h | exact absurd trivial h' | skip
  · rename_i a b
    rw [boolean_lt_boolean] at h h'
    cases a <;> cases b <;> simp_all
  · rw [number_lt_number] at h h'
    exact congrArg number (Number.ext (by omega))
  · rw [text_lt_text] at h h'
    exact congrArg text (String.le_antisymm h' h)

instance : Trans (α := Value) (· < ·) (· < ·) (· < ·) := ⟨lt_trans⟩

instance : Std.Irrefl (α := Value) (· < ·) := ⟨lt_irrefl⟩

instance : Std.Asymm (α := Value) (· < ·) := ⟨fun _ _ => lt_asymm⟩

def sort (values : List Value) : List Value := values.mergeSort fun a b => !decide (b < a)

end Value

end Relational
