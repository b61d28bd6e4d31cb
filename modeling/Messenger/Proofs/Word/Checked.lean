import Messenger.Word

/-!
# Checked arithmetic

Sums, differences and products of words that are given only if they are words.  Each is the number
that the plain operation gives, so arithmetic that is checked throughout is exact.
-/

namespace Messenger.Word

/-- The sum of two words, if it is a word. -/
def add? (a b : UInt64) : Option UInt64 :=
  if a.toNat + b.toNat < UInt64.size then some (a + b) else none

/-- The difference of two words, if it is a word. -/
def sub? (a b : UInt64) : Option UInt64 :=
  if b ≤ a then some (a - b) else none

/-- The product of two words, if it is a word. -/
def mul? (a b : UInt64) : Option UInt64 :=
  if a.toNat * b.toNat < UInt64.size then some (a * b) else none

variable {a b c : UInt64}

theorem add?_eq_some_iff : add? a b = some c ↔ c.toNat = a.toNat + b.toNat := by
  have bound := c.toNat_lt
  unfold add?
  split
  · next fits =>
      rw [Option.some.injEq, ← UInt64.toNat_inj, UInt64.toNat_add, Nat.mod_eq_of_lt fits, eq_comm]
  · next large =>
      refine iff_of_false nofun fun same => large ?_
      rw [← same]
      exact bound

theorem sub?_eq_some_iff : sub? a b = some c ↔ a.toNat = b.toNat + c.toNat := by
  unfold sub?
  split
  · next below =>
      rw [Option.some.injEq, ← UInt64.toNat_inj, UInt64.toNat_sub_of_le _ _ below]
      rw [UInt64.le_iff_toNat_le] at below
      omega
  · next above =>
      refine iff_of_false nofun fun same => above ?_
      rw [UInt64.le_iff_toNat_le]
      omega

theorem mul?_eq_some_iff : mul? a b = some c ↔ c.toNat = a.toNat * b.toNat := by
  have bound := c.toNat_lt
  unfold mul?
  split
  · next fits =>
      rw [Option.some.injEq, ← UInt64.toNat_inj, UInt64.toNat_mul, Nat.mod_eq_of_lt fits, eq_comm]
  · next large =>
      refine iff_of_false nofun fun same => large ?_
      rw [← same]
      exact bound

end Messenger.Word
