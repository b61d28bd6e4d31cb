/-!
# Unsigned 64-bit words

Identifiers, sequence numbers and timestamps are words.  This module supplies
the two operations on them that are not plain modular arithmetic: saturating
addition and subtraction, and the reading of a word as a signed number.
-/

namespace Messenger.Word

/-- The largest word. -/
def top : UInt64 := 18446744073709551615

/-- The largest number that a signed reading gives. -/
def signedMax : UInt64 := 9223372036854775807

/-- Addition that stops at the largest word. -/
def addSat (a b : UInt64) : UInt64 :=
  if a.toNat + b.toNat < UInt64.size then a + b else top

/-- Subtraction that stops at zero. -/
def subSat (a b : UInt64) : UInt64 :=
  if b ≤ a then a - b else 0

/-- The two's-complement reading of a word. -/
def signed (a : UInt64) : Int :=
  if a ≤ signedMax then (a.toNat : Int) else (a.toNat : Int) - UInt64.size

/-- The word whose two's-complement reading is `n`, taken modulo the number of words. -/
def ofSigned (n : Int) : UInt64 :=
  UInt64.ofNat (n % UInt64.size).toNat

@[simp]
theorem toNat_top : top.toNat = UInt64.size - 1 :=
  rfl

theorem toNat_addSat (a b : UInt64) :
    (addSat a b).toNat = min (a.toNat + b.toNat) (UInt64.size - 1) := by
  unfold addSat
  split
  · next h =>
      rw [UInt64.toNat_add, Nat.mod_eq_of_lt h]
      omega
  · next h =>
      rw [toNat_top]
      omega

theorem toNat_subSat (a b : UInt64) : (subSat a b).toNat = a.toNat - b.toNat := by
  unfold subSat
  split
  · next h => exact UInt64.toNat_sub_of_le _ _ h
  · next h =>
      rw [UInt64.not_le, UInt64.lt_iff_toNat_lt] at h
      simp only [UInt64.toNat_zero]
      omega

theorem toNat_succ_of_lt {a b : UInt64} (below : a < b) : (a + 1).toNat = a.toNat + 1 := by
  have less := UInt64.lt_iff_toNat_lt.mp below
  have limit := b.toNat_lt
  rw [UInt64.toNat_add]
  refine Nat.mod_eq_of_lt ?_
  simp only [UInt64.reduceToNat]
  omega

theorem toNat_pred_of_pos {a : UInt64} (positive : 0 < a) : (a - 1).toNat = a.toNat - 1 :=
  UInt64.toNat_sub_of_le _ _ (UInt64.le_iff_toNat_le.mpr (UInt64.lt_iff_toNat_lt.mp positive))

theorem addSat_one_of_lt {a b : UInt64} (below : a < b) : addSat a 1 = a + 1 := by
  have next := toNat_succ_of_lt below
  have limit := (a + 1).toNat_lt
  unfold addSat
  refine if_pos ?_
  simp only [UInt64.toNat_one, UInt64.size]
  omega

end Messenger.Word
