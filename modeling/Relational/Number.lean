/-!
# Bounded integers

Numbers are the integers from -2^63 to 2^63 - 1. Arithmetic is exact: an
operation computes over all integers and yields no number when the result is
out of range. Only a count that is made a number wraps (`Number.wrap`).
-/

namespace Relational

namespace Number

def least : Int := -9223372036854775808

def greatest : Int := 9223372036854775807

def InRange (n : Int) : Prop := least ≤ n ∧ n ≤ greatest

instance (n : Int) : Decidable (InRange n) := inferInstanceAs (Decidable (_ ∧ _))

end Number

structure Number where
  toInt : Int
  inRange : Number.InRange toInt
deriving DecidableEq

namespace Number

theorem ext {a b : Number} (h : a.toInt = b.toInt) : a = b := by
  cases a; cases b; cases h; rfl

theorem toInt_inj {a b : Number} : a.toInt = b.toInt ↔ a = b :=
  ⟨ext, fun h => h ▸ rfl⟩

instance : LT Number := ⟨fun a b => a.toInt < b.toInt⟩

instance (a b : Number) : Decidable (a < b) := inferInstanceAs (Decidable (a.toInt < b.toInt))

def zero : Number := ⟨0, by decide⟩

def one : Number := ⟨1, by decide⟩

def ofInt? (n : Int) : Option Number :=
  if h : InRange n then some ⟨n, h⟩ else none

theorem ofInt?_eq_some_iff {n : Int} {a : Number} : ofInt? n = some a ↔ a.toInt = n := by
  unfold ofInt?
  split
  · rw [Option.some_inj, ← toInt_inj, eq_comm]
  · rename_i h
    simp only [reduceCtorEq, false_iff]
    intro ha
    exact h (ha ▸ a.inRange)

theorem ofInt?_eq_none_iff {n : Int} : ofInt? n = none ↔ ¬ InRange n := by
  unfold ofInt?
  split <;> simp_all

theorem ofInt?_toInt (a : Number) : ofInt? a.toInt = some a := ofInt?_eq_some_iff.2 rfl

private theorem inRange_toInt (b : BitVec 64) : InRange b.toInt := by
  have hle := b.le_toInt
  have hlt := b.toInt_lt
  unfold InRange least greatest
  omega

/-- A count as a number: its last 64 bits as a signed word. -/
def wrap (n : Nat) : Number := ⟨(BitVec.ofNat 64 n).toInt, inRange_toInt _⟩

theorem toInt_wrap {n : Nat} (h : InRange n) : (wrap n).toInt = n := by
  unfold InRange least greatest at h
  calc (wrap n).toInt = (n : Int).bmod (2 ^ 64) := BitVec.toInt_ofNat' n
    _ = n := Int.bmod_eq_of_le (by omega) (by omega)

def neg? (a : Number) : Option Number := ofInt? (-a.toInt)

def abs? (a : Number) : Option Number := ofInt? a.toInt.natAbs

def add? (a b : Number) : Option Number := ofInt? (a.toInt + b.toInt)

def sub? (a b : Number) : Option Number := ofInt? (a.toInt - b.toInt)

def mul? (a b : Number) : Option Number := ofInt? (a.toInt * b.toInt)

/-- The quotient rounded toward zero. Only the least number divided by -1 is
out of range. -/
def div? (a b : Number) : Option Number := ofInt? (a.toInt.tdiv b.toInt)

private theorem inRange_of_natAbs_le {m n : Int} (hm : m.natAbs ≤ n.natAbs)
    (hneg : n < 0 → m ≤ 0) (hn : InRange n) : InRange m := by
  unfold InRange least greatest at *
  omega

private theorem tmod_nonpos {a : Int} (h : a < 0) (b : Int) : a.tmod b ≤ 0 := by
  have hn := Int.tmod_nonneg (a := -a) b (by omega)
  rw [Int.neg_tmod] at hn
  omega

private theorem tdiv_natCast_nonpos {a : Int} (h : a < 0) (n : Nat) : a.tdiv n ≤ 0 := by
  have hn := Int.tdiv_nonneg (a := -a) (b := n) (by omega) (Int.natCast_nonneg n)
  rw [Int.neg_tdiv] at hn
  omega

/-- The remainder of the quotient rounded toward zero. It has the sign of the
dividend and is no larger, so it is always a number. -/
def rem (a b : Number) : Number :=
  ⟨a.toInt.tmod b.toInt, inRange_of_natAbs_le
    (Int.natAbs_tmod .. ▸ Nat.mod_le _ _) (tmod_nonpos · _) a.inRange⟩

/-- The quotient by a count, rounded toward zero: it is no larger than the
dividend, so it is always a number. -/
def divNat (a : Number) (n : Nat) : Number :=
  ⟨a.toInt.tdiv n, inRange_of_natAbs_le
    (Int.natAbs_tdiv .. ▸ Nat.div_le_self _ _) (tdiv_natCast_nonpos · _) a.inRange⟩

end Number

end Relational
